/-!
# Broken promises between a caller and an operation

Some operations only make sense on lists that fit each other. They do not repair a call that breaks
this promise; they answer with a `Breach` that says which promise was broken and by how much. No
operation of the index itself reaches a breach, because it checks its arguments first.
-/

namespace KMeansSeeding

/-- A promise about sizes or positions that a call did not keep. -/
inductive Breach where
  /-- Two lists that are read side by side have different lengths. -/
  | unequalLengths (left right : Nat)
  /-- A position at or beyond the end of a list. -/
  | beyondEnd (length index : Nat)
  /-- A stretch of a list that starts inside it and ends beyond it. -/
  | stretchEnd (stop length : Nat)
  /-- A stretch of a list that starts beyond its end. -/
  | stretchStart (start length : Nat)
  /-- A search through sketches that do not reflect the stored points. -/
  | staleSketches
  /-- More elements to make room for than storage in one piece can hold. -/
  | capacityOverflow
  deriving DecidableEq, Repr

namespace Breach

/-- The diagnostic text of a breach. -/
def message : Breach → String
  | .unequalLengths left right =>
    s!"assertion `left == right` failed\n  left: {left}\n right: {right}"
  | .beyondEnd length index =>
    s!"index out of bounds: the len is {length} but the index is {index}"
  | .stretchEnd stop length =>
    s!"range end index {stop} out of range for slice of length {length}"
  | .stretchStart start length =>
    s!"range start index {start} out of range for slice of length {length}"
  | .staleSketches => "assertion `left == right` failed\n  left: Stale\n right: Fresh"
  | .capacityOverflow => "capacity overflow"

end Breach

/-- The element of `items` at `index`, which the caller promises to lie inside. -/
def entryAt {α : Type} (items : List α) (index : Nat) : Except Breach α :=
  match items[index]? with
  | some item => .ok item
  | none => .error (.beyondEnd items.length index)

/-- The promise that two lists read side by side have the same length. -/
def sameLength {α β : Type} (left : List α) (right : List β) : Except Breach Unit :=
  if left.length = right.length then .ok () else .error (.unequalLengths left.length right.length)

theorem entryAt_eq_ok_iff {α : Type} {items : List α} {index : Nat} {item : α} :
    entryAt items index = .ok item ↔ items[index]? = some item := by
  unfold entryAt
  split <;> simp_all

theorem sameLength_eq_ok_iff {α β : Type} {left : List α} {right : List β} :
    sameLength left right = .ok () ↔ left.length = right.length := by
  unfold sameLength
  split <;> simp_all

end KMeansSeeding
