import KMeansSeeding.CommandLine.Grammar

/-!
# The options of the program

The program has options for what is shown, before the command word, and options for the search,
after it. `parse` reads a whole command line.
-/

namespace KMeansSeeding.CommandLine

/-! ## Values -/

/-- Reads digits onto a number of 64 bits. -/
def wordLoop : (value : Nat) → List Char → Except WordFault Nat
  | value, [] => .ok value
  | value, c :: rest =>
    if c.isDigit then
      let next := value * 10 + (c.toNat - '0'.toNat)
      if next < 2 ^ 64 then wordLoop next rest else .error .tooLarge
    else .error .digit

/-- Reads a number of 64 bits; it may have a plus sign. -/
def word (text : String) : Except WordFault Nat :=
  match text.toList with
  | [] => .error .empty
  | ['+'] => .error .digit
  | '+' :: digits => wordLoop 0 digits
  | digits => wordLoop 0 digits

/-- Sets something that may be set once. -/
def once {α : Type} (usage : String) (current : Option α) (value : Except Complaint α) :
    Except Complaint (Option α) :=
  match current with
  | some _ => .error (.repeated usage)
  | none => value.map some

/-- Sets a flag that may be set once. -/
def onceFlag (usage : String) (current : Bool) : Except Complaint Bool :=
  if current then .error (.repeated usage) else .ok true

/-- A number of 64 bits as the value of an option. -/
def wordValue (usage value : String) : Except Complaint Nat :=
  match word value with
  | .ok number => .ok number
  | .error fault => .error (.notWord value usage fault)

/-- The name of a file as the value of an option. -/
def fileValue (usage value : String) : Except Complaint String :=
  if value.isEmpty then .error (.missingValue usage) else .ok value

/-- A format as the value of an option. -/
def formatValue (usage value : String) : Except Complaint Format :=
  if value.isEmpty then .error (.missingValue usage)
  else
    match Format.ofName? value with
    | some format => .ok format
    | none => .error (.unknownValue value usage)

/-! ## Before the command word -/

/-- The options of the program. -/
inductive Display where
  | verbose
  | quiet
  | format
  | pretty
  | help
  | version
  deriving DecidableEq, Repr

/-- What has been set by the options of the program. -/
structure DisplaySettings where
  verbose : Nat := 0
  quiet : Bool := false
  format : Option Format := none
  pretty : Bool := false
  deriving DecidableEq, Repr

namespace Display

/-- The name of an option in complaints. -/
def usage : Display → String
  | .verbose => "--verbose..."
  | .quiet => "--quiet"
  | .format => "--format <OUTPUT_FORMAT>"
  | .pretty => "--pretty"
  | .help => "--help"
  | .version => "--version"

/-- The option of a long name. -/
def long? : String → Option Display
  | "verbose" => some .verbose
  | "quiet" => some .quiet
  | "format" => some .format
  | "pretty" => some .pretty
  | "help" => some .help
  | "version" => some .version
  | _ => none

/-- The option of a letter. -/
def short? : Char → Option Display
  | 'v' => some .verbose
  | 'q' => some .quiet
  | 'f' => some .format
  | 'h' => some .help
  | 'V' => some .version
  | _ => none

/-- Sets an option of the program. -/
def set (option : Display) (value : String) (settings : DisplaySettings) :
    Except Complaint DisplaySettings :=
  match option with
  | .verbose => .ok { settings with verbose := min 255 (settings.verbose + 1) }
  | .quiet => (onceFlag option.usage settings.quiet).map ({ settings with quiet := · })
  | .format =>
    (once option.usage settings.format (formatValue option.usage value)).map
      ({ settings with format := · })
  | .pretty => (onceFlag option.usage settings.pretty).map ({ settings with pretty := · })
  | .help => .error (.help none)
  | .version => .error .version

end Display

/-- Whether an argument ends the options of the program. -/
def isCommandWord (argument : String) : Bool :=
  (Command.ofName? argument).isSome || argument == "help"

/-- The level before the command word, which is the only plain argument here. -/
def displayLevel : OptionLevel Display DisplaySettings where
  long? := Display.long?
  short? := Display.short?
  takesValue option := option == .format
  usage := Display.usage
  set := Display.set
  plain? _ := none
  surplus argument separated :=
    if separated && isCommandWord argument then .unknownArgument argument
    else .unknownCommand argument
  ends := isCommandWord

/-! ## After the command word -/

/-- The options of a command. -/
inductive Tuning where
  | input
  | configuration
  | bits
  | samples
  | seed
  | exact
  | help
  deriving DecidableEq, Repr

/-- What has been set by the options of a command. -/
structure TuningSettings where
  input : Option String := none
  configuration : Option String := none
  bits : Option Nat := none
  samples : Option Nat := none
  seed : Option Nat := none
  exact : Bool := false
  deriving DecidableEq, Repr

namespace Tuning

/-- The name of an option in complaints. -/
def usage : Tuning → String
  | .input => "<INPUT>"
  | .configuration => "--config <CONFIG>"
  | .bits => "--projection-bits <PROJECTION_BITS>"
  | .samples => "--projection-samples <PROJECTION_SAMPLES>"
  | .seed => "--seed <SEED>"
  | .exact => "--exact"
  | .help => "--help"

/-- The option of a long name. -/
def long? : String → Option Tuning
  | "config" => some .configuration
  | "projection-bits" => some .bits
  | "projection-samples" => some .samples
  | "seed" => some .seed
  | "exact" => some .exact
  | "help" => some .help
  | _ => none

/-- The option of a letter. -/
def short? : Char → Option Tuning
  | 'h' => some .help
  | _ => none

/-- Sets an option of a command. -/
def set (command : Command) (option : Tuning) (value : String) (settings : TuningSettings) :
    Except Complaint TuningSettings :=
  match option with
  | .input =>
    (once option.usage settings.input (fileValue option.usage value)).map
      ({ settings with input := · })
  | .configuration =>
    (once option.usage settings.configuration (fileValue option.usage value)).map
      ({ settings with configuration := · })
  | .bits =>
    (once option.usage settings.bits (wordValue option.usage value)).map
      ({ settings with bits := · })
  | .samples =>
    (once option.usage settings.samples (wordValue option.usage value)).map
      ({ settings with samples := · })
  | .seed =>
    (once option.usage settings.seed (wordValue option.usage value)).map
      ({ settings with seed := · })
  | .exact => (onceFlag option.usage settings.exact).map ({ settings with exact := · })
  | .help => .error (.help (some command))

end Tuning

/-- The level after a command word; its first plain argument is the input. -/
def tuningLevel (command : Command) : OptionLevel Tuning TuningSettings where
  long? := Tuning.long?
  short? := Tuning.short?
  takesValue option := option != .exact && option != .help
  usage := Tuning.usage
  set := Tuning.set command
  plain? number := if number = 0 then some .input else none
  surplus argument _ := .unknownArgument argument
  ends _ := false

/-! ## The whole command line -/

/-- Reads what follows the word `help`. -/
def helpTopic : List String → Complaint
  | [] => .help none
  | topic :: others =>
    if isCommandWord topic then
      match others with
      | [] => .help (Command.ofName? topic)
      | other :: _ => .unknownCommand other
    else .unknownCommand topic

/-- Reads the settings of a command. -/
def parseTuning (command : Command) (arguments : List String) : Except Complaint Settings := do
  let level := tuningLevel command
  let (progress, _) ← level.read false arguments ⟨{}, none, 0⟩
  let settings := (← progress.settle level).settings
  match settings.input with
  | none => throw .missingInput
  | some input =>
    return { input
             configuration := settings.configuration
             bits := settings.bits.getD 64
             samples := settings.samples.getD 16
             seed := .ofNat (settings.seed.getD 42)
             exact := settings.exact }

/-- Reads a command line. -/
def parse (arguments : List String) : Except Complaint Invocation := do
  let (progress, rest) ← displayLevel.read false arguments ⟨{}, none, 0⟩
  match rest with
  | [] =>
    let display := (← progress.settle displayLevel).settings
    throw (if display = {} then .nothingGiven else .missingCommand)
  | commandWord :: rest =>
    match Command.ofName? commandWord with
    | none => throw (helpTopic rest)
    | some command =>
      let settings ← parseTuning command rest
      let display := (← progress.settle displayLevel).settings
      return { verbose := display.verbose
               quiet := display.quiet
               format := display.format.getD .human
               pretty := display.pretty
               command, settings }

end KMeansSeeding.CommandLine
