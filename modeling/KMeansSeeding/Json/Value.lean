import KMeansSeeding.Decimal.Text

/-!
# JSON values and how they are written

`Json` holds the values that documents of this library consist of; numbers keep the type they are
written from. `Json.render` writes a value with a `Spacing`: the blanks at line breaks and after
colons. Compact text has no blanks, indented text two per level. An empty list or record is written
without a break in either.
-/

namespace KMeansSeeding

/-- A JSON value. -/
inductive Json where
  | null
  | flag (value : Bool)
  | natural (value : Nat)
  | single (value : Float32)
  | double (value : Float)
  | text (value : String)
  | list (items : List Json)
  | record (fields : List (String × Json))
  deriving Repr

namespace Json

/-! ## Leaves -/

/-- Single-precision numbers are positional from `1e-6` up to `1e12`. -/
def singleStyle : NumberStyle :=
  ⟨some (-6, 12), true, true, .even⟩

/-- Double-precision numbers are positional from `1e-5` up to `1e15`. -/
def doubleStyle : NumberStyle :=
  ⟨some (-5, 15), true, true, .even⟩

/-- A single-precision number; JSON has no text for infinities and NaN. -/
def singleText (value : Float32) : String :=
  if value.isFinite then singleStyle.ofSingle value else "null"

/-- A double-precision number; JSON has no text for infinities and NaN. -/
def doubleText (value : Float) : String :=
  if value.isFinite then doubleStyle.ofDouble value else "null"

/-- A hexadecimal digit in lower case. -/
def hexDigit (value : Nat) : Char :=
  Nat.digitChar (value % 16)

/-- A character inside quotes: quotes, backslashes and control characters are escaped. -/
def escape (c : Char) : List Char :=
  if c = '"' then ['\\', '"']
  else if c = '\\' then ['\\', '\\']
  else if c = '\n' then ['\\', 'n']
  else if c = '\r' then ['\\', 'r']
  else if c = '\t' then ['\\', 't']
  else if c = '\x08' then ['\\', 'b']
  else if c = '\x0c' then ['\\', 'f']
  else if c.toNat < 32 then
    ['\\', 'u', '0', '0', hexDigit (c.toNat / 16), hexDigit c.toNat]
  else [c]

/-- A string in quotes. -/
def quote (text : String) : List Char :=
  '"' :: (text.toList.flatMap escape ++ ['"'])

/-! ## Composition -/

/-- The blanks between the parts of a text. -/
structure Spacing where
  /-- What stands where a line may end, for the level of the next line. -/
  lineBreak : Nat → List Char
  /-- What stands after a colon. -/
  afterColon : List Char

/-- No blanks at all. -/
def Spacing.compact : Spacing :=
  ⟨fun _ => [], []⟩

/-- One part to a line, two spaces per level. -/
def Spacing.indented : Spacing :=
  ⟨fun level => '\n' :: List.replicate (2 * level) ' ', [' ']⟩

/-- Written parts between brackets, with commas and line breaks. -/
def enclose (spacing : Spacing) (level : Nat) (opening closing : Char) :
    (parts : List (List Char)) → List Char
  | [] => [opening, closing]
  | first :: others =>
    let lead := spacing.lineBreak (level + 1)
    opening :: (lead ++ first ++ others.flatMap (fun part => ',' :: (lead ++ part)) ++
      spacing.lineBreak level ++ [closing])

mutual

/-- The text of a value that starts on a line of the given level. -/
def render (spacing : Spacing) (level : Nat) : Json → List Char
  | .null => "null".toList
  | .flag value => (if value then "true" else "false").toList
  | .natural value => Decimal.digitsOf value
  | .single value => (singleText value).toList
  | .double value => (doubleText value).toList
  | .text value => quote value
  | .list items => enclose spacing level '[' ']' (renderItems spacing (level + 1) items)
  | .record fields => enclose spacing level '\x7b' '\x7d' (renderFields spacing (level + 1) fields)

/-- The texts of the items of a list. -/
def renderItems (spacing : Spacing) (level : Nat) : List Json → List (List Char)
  | [] => []
  | item :: items => render spacing level item :: renderItems spacing level items

/-- The texts of the fields of a record. -/
def renderFields (spacing : Spacing) (level : Nat) : List (String × Json) → List (List Char)
  | [] => []
  | (name, value) :: fields =>
    (quote name ++ [':'] ++ spacing.afterColon ++ render spacing level value) ::
      renderFields spacing level fields

end

/-- The text of a value in one line. -/
def compact (value : Json) : String :=
  String.ofList (value.render .compact 0)

/-- The text of a value over several lines. -/
def indented (value : Json) : String :=
  String.ofList (value.render .indented 0)

end Json

end KMeansSeeding
