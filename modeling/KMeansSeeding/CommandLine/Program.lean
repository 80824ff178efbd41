import KMeansSeeding.CommandLine.Execute
import KMeansSeeding.CommandLine.Parse

/-!
# The program

`run` is the whole program as a function: from the arguments and the files to the two output streams
and the exit code. A command that fails ends with code one, a command line that is not understood
with code two.
-/

namespace KMeansSeeding.CommandLine

/-- The version of the program. -/
def version : String :=
  "0.1.0"

/-- What the program leaves behind. -/
structure Exit where
  code : Nat
  output : String
  /-- What is written to the error stream, piece by piece. -/
  diagnostics : List String
  deriving DecidableEq, Repr

/-- The level of detail of the records that are shown. -/
def threshold (verbosity : Nat) : Level :=
  match verbosity with
  | 0 => .error
  | 1 => .warn
  | 2 => .info
  | _ => .debug

/-- The lines that report a fault, with the fault it wraps. -/
def faultLines (fault : Fault) : List String :=
  s!"Error: {fault.message}" ::
    match fault.inner? with
    | some cause => ["", "Caused by:", s!"    {cause}"]
    | none => []

/-! ## Help -/

/-- What the program is for. -/
def purpose : String :=
  "Closest-center queries over k-means|| candidate folds"

/-- What a command is for. -/
def commandPurpose : Command → String
  | .query => "Print one report with the closest center of every fold for each input point"
  | .weights => "Count closest-center assignments and export weighted centers"

/-- The lines that explain the program. -/
def programHelp : List String :=
  [purpose,
    "",
    "Usage: ksketch [OPTIONS] <COMMAND>",
    "",
    "Commands:",
    s!"  query    {commandPurpose .query}",
    s!"  weights  {commandPurpose .weights}",
    "  help     Print this message or the help of the given subcommand(s)",
    "",
    "Options:",
    "  -v, --verbose...              Verbosity level (0=quiet, 1=normal, 2=verbose, 3=debug)",
    "  -q, --quiet                   Quiet mode (overrides verbose)",
    "  -f, --format <OUTPUT_FORMAT>  Output format [default: human] [possible values: human, json]",
    "      --pretty                  Pretty-print JSON output",
    "  -h, --help                    Print help",
    "  -V, --version                 Print version"]

/-- The lines that explain a command. -/
def commandHelp (command : Command) : List String :=
  [commandPurpose command,
    "",
    s!"Usage: ksketch {command.name} [OPTIONS] <INPUT>",
    "",
    "Arguments:",
    "  <INPUT>  JSON file with `centers` (one list per fold) and `points`",
    "",
    "Options:",
    "      --config <CONFIG>                          JSON index configuration; overrides the projection flags",
    "      --projection-bits <PROJECTION_BITS>        Sketch width in bits [default: 64]",
    "      --projection-samples <PROJECTION_SAMPLES>  Approximate-search shortlist size [default: 16]",
    "      --seed <SEED>                              Projection seed [default: 42]",
    "      --exact                                    Score every center instead of the sketch shortlist",
    "  -h, --help                                     Print help"]

/-- The lines that a request for help asks for. -/
def helpLines : Option Command → List String
  | none => programHelp
  | some command => commandHelp command

/-! ## Running -/

/-- Lines as a text. -/
def linesText (lines : List String) : String :=
  String.join (lines.map (· ++ "\n"))

/-- Text as it passes through the error stream. -/
def streamed (text : String) : String :=
  Plain.strip .suspends text

/-- The text of a record. It is plain, so a sequence that a record leaves open may take the end of
its line with it. -/
def recordText (entry : Entry) : String :=
  streamed (linesText [entry.line])

/-- How the program ends on a command line that is not run as a command. -/
def complain (complaint : Complaint) : Exit :=
  match complaint with
  | .help command => ⟨0, linesText (helpLines command), []⟩
  | .version => ⟨0, linesText [s!"ksketch {version}"], []⟩
  | .nothingGiven => ⟨2, "", [linesText programHelp]⟩
  | _ => ⟨2, "", [linesText (complaint.report? streamed).toList]⟩

/-- Runs the program. -/
def run (files : Files) (arguments : List String) : Exit :=
  match parse arguments with
  | .error complaint => complain complaint
  | .ok invocation =>
    let outcome := execute files invocation
    let shown := outcome.log.filter (·.shownAt (threshold invocation.verbosity))
    let records := shown.map recordText
    match outcome.answer with
    | .ok output => ⟨0, output, records⟩
    | .error fault => ⟨1, "", records ++ [linesText (faultLines fault)]⟩

end KMeansSeeding.CommandLine
