/-!
# Plain text

Text for a terminal may hold control characters and control sequences. `Plain.strip` takes them out
and keeps what would be seen, with the blanks that lay it out.

A sequence starts with an escape character, and the next character says how it goes on: a control
sequence ends at a letter or a sign like it, a command at the bell, a string at its terminator. A
string for the device has a header first, and there is no terminator to look for before its end. Any
sequence is broken off by another escape character or by a cancel.

A blank is kept even inside a sequence, unless the sequence carries text of its own, and the text
behind it is shown. Whether the sequence is over then depends on the `Interruption`.
-/

namespace KMeansSeeding.Plain

/-- How far a text has got in a sequence. -/
inductive Mode where
  /-- Outside of all sequences. -/
  | plain
  /-- Behind an escape character. -/
  | escape
  /-- Behind an escape character and signs that qualify the one to come. -/
  | qualified
  /-- In a control sequence. -/
  | control
  /-- In a command. -/
  | command
  /-- At the start of the header of a string for the device. -/
  | header
  /-- Behind parameters in a header. -/
  | parameters
  /-- Behind signs in a header that qualify the one to come. -/
  | prepared
  /-- In a string. -/
  | string
  deriving DecidableEq, Repr

/-- What becomes of a sequence when a blank in it is kept. -/
inductive Interruption where
  /-- The sequence is over. -/
  | ends
  /-- The sequence goes on at the next control character, unless a character beyond ASCII is shown
  before. -/
  | suspends
  deriving DecidableEq, Repr

/-- Whether a character lays text out: a tab, a line feed, a form feed or a carriage return. -/
def isLayout (c : Char) : Bool :=
  c = '\t' || c = '\n' || c = '\x0c' || c = '\r'

/-- Whether a character is a control character of the ASCII range. -/
def isControl (c : Char) : Bool :=
  c.toNat < 0x20 || c.toNat = 0x7f

/-- Whether a character is kept. -/
def keeps (c : Char) : Mode → Bool
  | .plain => isLayout c || !isControl c
  | .escape => isLayout c
  | .qualified => isLayout c
  | .control => isLayout c
  | _ => false

/-- Whether a code point lies in a range, ends included. -/
def within (least most : Nat) (c : Char) : Bool :=
  least ≤ c.toNat && c.toNat ≤ most

/-- The mode behind the character that follows an escape character. -/
def introduced (c : Char) : Mode :=
  if c = '[' then .control
  else if c = ']' then .command
  else if c = 'P' then .header
  else if c = 'X' || c = '^' || c = '_' then .string
  else if within 0x30 0x7e c then .plain
  else if within 0x20 0x2f c then .qualified
  else .escape

/-- Whether the encoding of a character holds the byte that ends strings. -/
def endsString (c : Char) : Bool :=
  (String.utf8EncodeChar c).contains 0x9c

/-- The mode behind a character that is not kept. -/
def advance (c : Char) (mode : Mode) : Mode :=
  if c = '\x1b' then .escape
  else if c = '\x18' || c = '\x1a' then .plain
  else
    match mode with
    | .plain => .plain
    | .escape => introduced c
    | .qualified => if within 0x30 0x7e c then .plain else .qualified
    | .control => if within 0x40 0x7e c then .plain else .control
    | .command => if c = '\x07' then .plain else .command
    | .header =>
      if within 0x20 0x2f c then .prepared
      else if within 0x30 0x3f c then .parameters
      else if within 0x40 0x7e c then .string
      else .header
    | .parameters =>
      if within 0x20 0x2f c then .prepared
      else if within 0x3c 0x7e c then .string
      else .parameters
    | .prepared => if within 0x30 0x7e c then .string else .prepared
    | .string => if endsString c then .plain else .string

/-- The mode behind a character that is kept. -/
def resume (interruption : Interruption) (c : Char) (mode : Mode) : Mode :=
  match interruption with
  | .ends => .plain
  | .suspends => if c.toNat < 0x80 then mode else .plain

/-- The characters that are kept of a text that starts in a mode. As long as text is `shown`, a
character is kept as it is outside of sequences, whatever the mode. -/
def kept (interruption : Interruption) : Mode → (shown : Bool) → List Char → List Char
  | _, _, [] => []
  | mode, shown, c :: rest =>
    if keeps c (if shown then .plain else mode) then
      c :: kept interruption (resume interruption c mode) true rest
    else kept interruption (advance c mode) false rest

/-- A text without control characters and control sequences. -/
def strip (interruption : Interruption) (text : String) : String :=
  String.ofList (kept interruption .plain true text.toList)

end KMeansSeeding.Plain
