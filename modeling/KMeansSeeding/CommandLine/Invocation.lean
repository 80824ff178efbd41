import KMeansSeeding.Configuration
import KMeansSeeding.Text.Plain

/-!
# Invocations

An `Invocation` is a command line that has been understood: which command, with which settings, and
how much is shown in which format. A `Complaint` is the reason why a command line was not
understood, or a request for information that replaces the command.
-/

namespace KMeansSeeding

/-- The form of a report. -/
inductive Format where
  | human
  | json
  deriving DecidableEq, Repr

namespace Format

/-- The word for a format. -/
def name : Format → String
  | .human => "human"
  | .json => "json"

/-- The format of a word. -/
def ofName? (word : String) : Option Format :=
  [human, json].find? (·.name == word)

end Format

/-- What is done with the centers and points of a file. -/
inductive Command where
  /-- Find the nearest centers of each point. -/
  | query
  /-- Count for each center the points that are nearest to it. -/
  | weights
  deriving DecidableEq, Repr

namespace Command

/-- The word for a command. -/
def name : Command → String
  | .query => "query"
  | .weights => "weights"

/-- The command of a word. -/
def ofName? (word : String) : Option Command :=
  [query, weights].find? (·.name == word)

end Command

/-- The settings of a command. -/
structure Settings where
  /-- The file with the centers and points. -/
  input : String
  /-- The file with the configuration, which then replaces the numbers below. -/
  configuration : Option String
  bits : Nat
  samples : Nat
  seed : UInt64
  /-- Whether every center is scored. -/
  exact : Bool
  deriving DecidableEq, Repr

namespace Settings

/-- The configuration that the numbers stand for. -/
def toConfiguration (settings : Settings) (folds dimension : Nat) : Configuration :=
  { Configuration.ofShape folds dimension with
    bits := settings.bits, samples := settings.samples, seed := settings.seed }

end Settings

/-- A command line that has been understood. -/
structure Invocation where
  /-- How often more detail was asked for, at most 255. -/
  verbose : Nat
  quiet : Bool
  format : Format
  pretty : Bool
  command : Command
  settings : Settings
  deriving DecidableEq, Repr

namespace Invocation

/-- How much is shown: nothing beyond the report if quiet, at least the headline otherwise. -/
def verbosity (invocation : Invocation) : Nat :=
  if invocation.quiet then 0 else max 1 invocation.verbose

end Invocation

/-! ## Complaints -/

/-- Why a text is not a number of 64 bits. -/
inductive WordFault where
  | empty
  | digit
  | tooLarge
  deriving DecidableEq, Repr

namespace WordFault

/-- The wording of a word fault. -/
def message : WordFault → String
  | .empty => "cannot parse integer from empty string"
  | .digit => "invalid digit found in string"
  | .tooLarge => "number too large to fit in target type"

end WordFault

/-- Why a command line is not run as a command. Arguments are named by their usage. -/
inductive Complaint where
  | unknownArgument (argument : String)
  | unknownCommand (word : String)
  | missingCommand
  | missingInput
  | missingValue (argument : String)
  | unknownValue (value argument : String)
  | notWord (value argument : String) (fault : WordFault)
  | repeated (argument : String)
  | unneededValue (value argument : String)
  /-- The user asked for help, on a command if one is given. -/
  | help (command : Option Command)
  | version
  /-- There were no arguments at all. -/
  | nothingGiven
  deriving DecidableEq, Repr

namespace Complaint

/-- The text that reports a complaint; requests have none. What the user wrote is shown as `plain`
makes it, line breaks included. -/
def report? (plain : String → String) : Complaint → Option String
  | .unknownArgument argument => s!"error: unexpected argument '{plain argument}' found"
  | .unknownCommand word => s!"error: unrecognized subcommand '{plain word}'"
  | .missingCommand => "error: 'ksketch' requires a subcommand but one was not provided"
  | .missingInput => "error: the following required arguments were not provided:"
  | .missingValue argument =>
    s!"error: a value is required for '{argument}' but none was supplied"
  | .unknownValue value argument => s!"error: invalid value '{plain value}' for '{argument}'"
  | .notWord value argument fault =>
    s!"error: invalid value '{plain value}' for '{argument}': {fault.message}"
  | .repeated argument => s!"error: the argument '{argument}' cannot be used multiple times"
  | .unneededValue value argument =>
    s!"error: unexpected value '{plain value}' for '{argument}' found; no more were expected"
  | .help _ => none
  | .version => none
  | .nothingGiven => none

/-- The wording of a complaint. -/
def message? (complaint : Complaint) : Option String :=
  complaint.report? (Plain.strip .ends)

end Complaint

end KMeansSeeding
