import KMeansSeeding.CommandLine.Invocation

/-!
# Reading a command line

Options are read from left to right at two levels: those before the command word belong to the whole
program, those after it to the command. An `OptionLevel` says which options there are and what they
do to the settings collected so far.

An option with a value may carry it (`--name=value`, `-nvalue`) or take the next argument. In the
second case the value is held back and judged when the next option or the end is reached. So an
unknown argument later on is reported before a bad value, and a command is read before the last
held-back value of the level above it is judged.
-/

namespace KMeansSeeding.CommandLine

/-! ## Arguments -/

/-- What an argument looks like. -/
inductive Token where
  /-- Two dashes alone: all that follows is plain. -/
  | separator
  | long (name : String) (value : Option String)
  /-- The letters after a single dash. -/
  | short (letters : List Char)
  | plain
  deriving DecidableEq, Repr

namespace Token

/-- The look of an argument. A single dash is plain. -/
def ofText (argument : String) : Token :=
  match argument.toList with
  | ['-', '-'] => .separator
  | '-' :: '-' :: rest =>
    let name := rest.takeWhile (· ≠ '=')
    let value :=
      match rest.drop name.length with
      | [] => none
      | _ :: value => some (String.ofList value)
    .long (String.ofList name) value
  | ['-'] => .plain
  | '-' :: letters => .short letters
  | _ => .plain

end Token

/-! ## Levels -/

/-- The options `ι` of one level and what they do to settings `σ`. -/
structure OptionLevel (ι σ : Type) where
  long? : String → Option ι
  short? : Char → Option ι
  takesValue : ι → Bool
  /-- The name of an option in complaints. -/
  usage : ι → String
  /-- Sets an option, with its value if it takes one. -/
  set : ι → (value : String) → σ → Except Complaint σ
  /-- The option that the plain argument of a number stands for. -/
  plain? : Nat → Option ι
  /-- The complaint about a plain argument that is not expected, after a separator or not. -/
  surplus : (argument : String) → (separated : Bool) → Complaint
  /-- Whether a plain argument ends the level. -/
  ends : (argument : String) → Bool

/-- An option that is held back, with its value once that has been seen. -/
structure Held (ι : Type) where
  option : ι
  value : Option String

/-- The state of a level. -/
structure Progress (ι σ : Type) where
  settings : σ
  held : Option (Held ι)
  /-- How many plain arguments have been read. -/
  plains : Nat

namespace Progress

variable {ι σ : Type}

/-- Judges the option that is held back. -/
def settle (level : OptionLevel ι σ) (progress : Progress ι σ) : Except Complaint (Progress ι σ) :=
  match progress.held with
  | none => .ok progress
  | some ⟨option, none⟩ => .error (.missingValue (level.usage option))
  | some ⟨option, some value⟩ =>
    (level.set option value progress.settings).map fun settings =>
      { progress with settings, held := none }

/-- Settles what is held back, then sets an option. -/
def set (level : OptionLevel ι σ) (option : ι) (value : String) (progress : Progress ι σ) :
    Except Complaint (Progress ι σ) := do
  let progress ← progress.settle level
  return { progress with settings := ← level.set option value progress.settings }

/-- Settles what is held back, then holds an option back. -/
def hold (level : OptionLevel ι σ) (option : ι) (value : Option String) (progress : Progress ι σ) :
    Except Complaint (Progress ι σ) := do
  let progress ← progress.settle level
  return { progress with held := some ⟨option, value⟩ }

/-- Whether an option that is held back still needs its value. -/
def wantsValue (progress : Progress ι σ) : Bool :=
  progress.held.any (·.value.isNone)

/-- Gives a value to the option that is held back. -/
def supply (value : String) (progress : Progress ι σ) : Progress ι σ :=
  { progress with held := progress.held.map ({ · with value := some value }) }

/-- Reads the letters after a single dash. A letter that takes a value takes the rest, without an
equals sign in front. -/
def letters (level : OptionLevel ι σ) : List Char → Progress ι σ → Except Complaint (Progress ι σ)
  | [], progress => .ok progress
  | letter :: rest, progress =>
    match level.short? letter with
    | none => .error (.unknownArgument (String.ofList ['-', letter]))
    | some option =>
      if level.takesValue option then
        match rest with
        | [] => progress.hold level option none
        | '=' :: value => progress.set level option (String.ofList value)
        | value => progress.set level option (String.ofList value)
      else do
        let progress ← progress.set level option ""
        letters level rest progress

/-- Reads an option with a long name. -/
def long (level : OptionLevel ι σ) (name : String) (value : Option String)
    (progress : Progress ι σ) : Except Complaint (Progress ι σ) :=
  match level.long? name with
  | none => .error (.unknownArgument s!"--{name}")
  | some option =>
    match level.takesValue option, value with
    | true, some value => progress.set level option value
    | true, none => progress.hold level option none
    | false, some value => .error (.unneededValue value (level.usage option))
    | false, none => progress.set level option ""

/-- Reads a plain argument. -/
def plain (level : OptionLevel ι σ) (argument : String) (separated : Bool)
    (progress : Progress ι σ) : Except Complaint (Progress ι σ) :=
  match level.plain? progress.plains with
  | some option => do
    let progress ← progress.hold level option (some argument)
    return { progress with plains := progress.plains + 1 }
  | none => .error (level.surplus argument separated)

end Progress

/-- Reads the arguments of a level, up to its end or the argument that ends it. Answers with that
argument and those behind it. -/
def OptionLevel.read {ι σ : Type} (level : OptionLevel ι σ) :
    (separated : Bool) → List String → Progress ι σ →
      Except Complaint (Progress ι σ × List String)
  | _, [], progress => .ok (progress, [])
  | true, argument :: rest, progress => do
    level.read true rest (← progress.plain level argument true)
  | false, argument :: rest, progress =>
    if !progress.wantsValue && level.ends argument then .ok (progress, argument :: rest)
    else
      match Token.ofText argument with
      | .separator => level.read true rest progress
      | .long name value => do
        level.read false rest (← progress.long level name value)
      | .short letters => do
        level.read false rest (← progress.letters level letters)
      | .plain =>
        if progress.wantsValue then level.read false rest (progress.supply argument)
        else do level.read false rest (← progress.plain level argument false)

end KMeansSeeding.CommandLine
