import KMeansSeeding.Json.Value
import KMeansSeeding.Text.Quoted

/-!
# Reading positions and failures

A `Cursor` stands between the text already read and the rest. Positions count lines from one and
bytes since the last line break, so a failure points *here*, behind the last byte read, or *ahead*,
at the byte that did not fit. A failure that concerns a whole record has no position at first; it
gets one when the reader leaves the record.
-/

namespace KMeansSeeding.Json

/-- A place in a text. -/
structure Position where
  line : Nat
  column : Nat
  deriving DecidableEq, Repr

namespace Position

/-- Where every text starts. -/
def start : Position :=
  ⟨1, 0⟩

/-- The position behind one more character. -/
def after (position : Position) (c : Char) : Position :=
  if c = '\n' then ⟨position.line + 1, 0⟩ else ⟨position.line, position.column + c.utf8Size⟩

/-- The position behind one more byte of a character. -/
def afterByte (position : Position) (c : Char) : Position :=
  if c = '\n' then ⟨position.line + 1, 0⟩ else ⟨position.line, position.column + 1⟩

end Position

/-! ## Failures -/

/-- What stands in a text where something else was expected. -/
inductive Found where
  | null
  | boolean (value : Bool)
  | integer (value : Int)
  | floating (value : Float)
  | text (value : String)
  | sequence
  | map
  deriving Repr

namespace Found

/-- The wording of a finding. -/
def describe : Found → String
  | .null => "null"
  | .boolean value => s!"boolean `{value}`"
  | .integer value => s!"integer `{value}`"
  | .floating value => s!"floating point `{doubleText value}`"
  | .text value => s!"string {Quoted.quote value}"
  | .sequence => "sequence"
  | .map => "map"

end Found

/-- Why a text cannot be read. -/
inductive Cause where
  | endOfValue
  | endOfList
  | endOfObject
  | endOfString
  | expectedValue
  | expectedIdent
  | expectedColon
  | expectedListEnd
  | expectedObjectEnd
  | invalidNumber
  | numberOutOfRange
  | keyNotString
  | trailingComma
  | trailingCharacters
  | controlCharacter
  | invalidEscape
  | loneSurrogate
  | unfinishedSurrogate
  | invalidType (found : Found) (expected : String)
  | invalidValue (found : Found) (expected : String)
  | missingField (name : String)
  | duplicateField (name : String)
  | invalidLength (length : Nat) (expected : String)
  | unknownVariant (name : String) (known : List String)
  deriving Repr

namespace Cause

/-- Names in backquotes, the last two joined by "or". -/
def alternatives : List String → String
  | [] => ""
  | [name] => s!"`{name}`"
  | [first, second] => s!"`{first}` or `{second}`"
  | first :: others => s!"`{first}`, {alternatives others}"

/-- The wording of a cause. -/
def describe : Cause → String
  | .endOfValue => "EOF while parsing a value"
  | .endOfList => "EOF while parsing a list"
  | .endOfObject => "EOF while parsing an object"
  | .endOfString => "EOF while parsing a string"
  | .expectedValue => "expected value"
  | .expectedIdent => "expected ident"
  | .expectedColon => "expected `:`"
  | .expectedListEnd => "expected `,` or `]`"
  | .expectedObjectEnd => "expected `,` or `\x7d`"
  | .invalidNumber => "invalid number"
  | .numberOutOfRange => "number out of range"
  | .keyNotString => "key must be a string"
  | .trailingComma => "trailing comma"
  | .trailingCharacters => "trailing characters"
  | .controlCharacter => "control character (\\u0000-\\u001F) found while parsing a string"
  | .invalidEscape => "invalid escape"
  | .loneSurrogate => "lone leading surrogate in hex escape"
  | .unfinishedSurrogate => "unexpected end of hex escape"
  | .invalidType found expected => s!"invalid type: {found.describe}, expected {expected}"
  | .invalidValue found expected => s!"invalid value: {found.describe}, expected {expected}"
  | .missingField name => s!"missing field `{name}`"
  | .duplicateField name => s!"duplicate field `{name}`"
  | .invalidLength length expected => s!"invalid length {length}, expected {expected}"
  | .unknownVariant name known => s!"unknown variant `{name}`, expected {alternatives known}"

end Cause

/-- A cause and, once it is known, the place. -/
structure Failure where
  cause : Cause
  position : Option Position
  deriving Repr

namespace Failure

/-- Gives a place to a failure that has none yet. -/
def placedAt (failure : Failure) (position : Position) : Failure :=
  { failure with position := some (failure.position.getD position) }

/-- The wording of a failure. -/
def message (failure : Failure) : String :=
  match failure.position with
  | none => failure.cause.describe
  | some position =>
    s!"{failure.cause.describe} at line {position.line} column {position.column}"

end Failure

/-! ## Readers -/

/-- The rest of a text and the position where it starts. -/
structure Cursor where
  rest : List Char
  position : Position
  deriving Repr

namespace Cursor

/-- The start of a text. -/
def ofText (text : String) : Cursor :=
  ⟨text.toList, .start⟩

/-- The position one byte further, or the same at the end. -/
def ahead (cursor : Cursor) : Position :=
  match cursor.rest with
  | [] => cursor.position
  | c :: _ => cursor.position.afterByte c

/-- The cursor behind up to `count` more characters. -/
def drop : (count : Nat) → Cursor → Cursor
  | 0, cursor => cursor
  | count + 1, cursor =>
    match cursor.rest with
    | [] => cursor
    | c :: rest => drop count ⟨rest, cursor.position.after c⟩

/-- JSON allows four characters between the parts of a text. -/
def isBlank (c : Char) : Bool :=
  c = ' ' || c = '\n' || c = '\t' || c = '\r'

/-- The cursor behind a list of characters that the rest starts with. -/
def behind (cursor : Cursor) (characters : List Char) : Cursor :=
  cursor.drop characters.length

end Cursor

/-- A reader moves the cursor and answers with a value or a failure. -/
abbrev Reader (α : Type) : Type :=
  EStateM Failure Cursor α

namespace Reader

/-- Fails at the current position. -/
def failHere {α : Type} (cause : Cause) : Reader α :=
  fun cursor => .error ⟨cause, some cursor.position⟩ cursor

/-- Fails one byte further. -/
def failAhead {α : Type} (cause : Cause) : Reader α :=
  fun cursor => .error ⟨cause, some cursor.ahead⟩ cursor

/-- Fails without a position. -/
def failWhole {α : Type} (cause : Cause) : Reader α :=
  fun cursor => .error ⟨cause, none⟩ cursor

/-- The next character, which is not taken. -/
def peek : Reader (Option Char) :=
  fun cursor => .ok cursor.rest.head? cursor

/-- Takes up to `count` characters. -/
def skip (count : Nat) : Reader Unit :=
  fun cursor => .ok () (cursor.drop count)

/-- Takes the longest run of characters in a class. -/
def takeWhile (member : Char → Bool) : Reader (List Char) :=
  fun cursor =>
    let run := cursor.rest.takeWhile member
    .ok run (cursor.behind run)

/-- Takes blanks, then peeks. -/
def peekSolid : Reader (Option Char) := do
  let _ ← takeWhile Cursor.isBlank
  peek

/-- An upper bound for the number of steps that take at least one character each. -/
def steps : Reader Nat :=
  fun cursor => .ok (cursor.rest.length + 1) cursor

/-- Takes exactly the given characters; the first wrong one is taken too. -/
def word : List Char → Reader Unit
  | [] => pure ()
  | c :: others => do
    match ← peek with
    | none => failHere .endOfValue
    | some next =>
      if next = c then
        skip 1
        word others
      else failAhead .expectedIdent

/-- Gives a failure without a position the position where the reader stopped. -/
def placed {α : Type} (reader : Reader α) : Reader α :=
  fun cursor =>
    match reader cursor with
    | .ok value stop => .ok value stop
    | .error failure stop => .error (failure.placedAt stop.position) stop

/-- Runs a closing step after a reader. If the reader failed, its failure stands and the closing
step only moves the cursor. -/
def thenClose {α : Type} (reader : Reader α) (close : Reader Unit) : Reader α :=
  fun cursor =>
    match reader cursor with
    | .ok value stop =>
      match close stop with
      | .ok _ closed => .ok value closed
      | .error failure closed => .error failure closed
    | .error failure stop =>
      match close stop with
      | .ok _ closed => .error failure closed
      | .error _ closed => .error failure closed

end Reader

end KMeansSeeding.Json
