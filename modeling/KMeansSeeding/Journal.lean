/-!
# The journal

Operations report what they did as journal entries. An entry is a value that an operation returns
next to its answer; whether it is shown is decided at the rim.
-/

namespace KMeansSeeding

/-- How much detail an entry carries. -/
inductive Level where
  | error
  | warn
  | info
  | debug
  | trace
  deriving DecidableEq, Repr

namespace Level

/-- The rank of a level; the higher, the more detail. -/
def rank : Level → Nat
  | .error => 0
  | .warn => 1
  | .info => 2
  | .debug => 3
  | .trace => 4

/-- The name shown before an entry. -/
def name : Level → String
  | .error => "ERROR"
  | .warn => "WARN"
  | .info => "INFO"
  | .debug => "DEBUG"
  | .trace => "TRACE"

end Level

/-- One line of the journal. -/
structure Entry where
  level : Level
  text : String
  deriving DecidableEq, Repr

namespace Entry

/-- The entry as one line of text. -/
def line (entry : Entry) : String :=
  s!"[{entry.level.name}] {entry.text}"

/-- Whether an entry is shown when entries up to `threshold` are. -/
def shownAt (threshold : Level) (entry : Entry) : Bool :=
  entry.level.rank ≤ threshold.rank

end Entry

end KMeansSeeding
