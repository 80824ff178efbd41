import KMeansSeeding.Json.Cursor

/-!
# Reading strings

A string ends at the first quote that is not escaped. A string that is wanted is decoded, and its
escapes must name characters: a code point outside the basic plane comes as two escapes, one for
each surrogate. A string that is skipped only has to be well formed, so its surrogates are not
paired up.
-/

namespace KMeansSeeding.Json.Reader

/-- The position `count` bytes further, or none if the text ends before. -/
def bytesAhead : (count : Nat) → List Char → Position → Option Position
  | 0, _, position => some position
  | _ + 1, [], _ => none
  | count + 1, c :: rest, position =>
    if c.utf8Size ≤ count + 1 then bytesAhead (count + 1 - c.utf8Size) rest (position.after c)
    else some ⟨position.line, position.column + count + 1⟩

/-- The value of a hexadecimal digit. -/
def hexValue (c : Char) : Option Nat :=
  if '0' ≤ c && c ≤ '9' then some (c.toNat - '0'.toNat)
  else if 'a' ≤ c && c ≤ 'f' then some (c.toNat - 'a'.toNat + 10)
  else if 'A' ≤ c && c ≤ 'F' then some (c.toNat - 'A'.toNat + 10)
  else none

/-- The value of four hexadecimal digits. -/
def hexQuad : List Char → Option Nat
  | [a, b, c, d] => do
    return ((← hexValue a) * 16 + (← hexValue b)) * 256 + ((← hexValue c) * 16 + (← hexValue d))
  | _ => none

/-- Takes the four digits of a code unit. -/
def codeUnit : Reader Nat := fun cursor =>
  match hexQuad (cursor.rest.take 4) with
  | some value => .ok value (cursor.drop 4)
  | none =>
    match bytesAhead 4 cursor.rest cursor.position with
    | some position => .error ⟨.invalidEscape, some position⟩ cursor
    | none => .error ⟨.endOfString, some (cursor.drop cursor.rest.length).position⟩ cursor

/-- Takes the character that the second half of a surrogate pair needs next. -/
def surrogateMark (mark : Char) : Reader Unit := do
  match ← peek with
  | none => failHere .endOfString
  | some c => if c = mark then skip 1 else failAhead .unfinishedSurrogate

/-- Takes the digits of a numbered escape and, for a high surrogate, the low one after it. -/
def numberedEscape : Reader Char := do
  let unit ← codeUnit
  if 0xdc00 ≤ unit && unit ≤ 0xdfff then failHere .loneSurrogate
  else if 0xd800 ≤ unit && unit ≤ 0xdbff then do
    surrogateMark '\\'
    surrogateMark 'u'
    let low ← codeUnit
    if 0xdc00 ≤ low && low ≤ 0xdfff then
      return Char.ofNat ((unit - 0xd800) * 1024 + (low - 0xdc00) + 0x10000)
    else failHere .loneSurrogate
  else return Char.ofNat unit

/-- The character that a one-letter escape stands for. -/
def letterEscape (c : Char) : Option Char :=
  if c = '"' || c = '\\' || c = '/' then some c
  else if c = 'b' then some '\x08'
  else if c = 'f' then some '\x0c'
  else if c = 'n' then some '\n'
  else if c = 'r' then some '\r'
  else if c = 't' then some '\t'
  else none

/-- Takes what follows the backslash of an escape: a letter with a meaning of its own, or `u` and
what `numbered` takes. -/
def escapeWith (numbered : Reader Char) : Reader Char := do
  match ← peek with
  | none => failHere .endOfString
  | some c =>
    match letterEscape c with
    | some meant =>
      skip 1
      return meant
    | none =>
      if c = 'u' then
        skip 1
        numbered
      else failAhead .invalidEscape

/-- Takes what follows the backslash of an escape. -/
def escaped : Reader Char :=
  escapeWith numberedEscape

/-- Takes what follows the backslash of an escape that is skipped; its code unit need not be a
character. -/
def skippedEscape : Reader Unit := do
  let _ ← escapeWith (do return Char.ofNat (← codeUnit))

/-- Takes the rest of a string in at most `steps` characters or escapes. A control character is
taken before it is refused. -/
def stringLoop : (steps : Nat) → Reader (List Char)
  | 0 => failHere .endOfString
  | steps + 1 => do
    match ← peek with
    | none => failHere .endOfString
    | some c =>
      if c = '"' then
        skip 1
        return []
      else if c = '\\' then
        skip 1
        let meant ← escaped
        return meant :: (← stringLoop steps)
      else if c.toNat < 32 then
        skip 1
        failHere .controlCharacter
      else
        skip 1
        return c :: (← stringLoop steps)

/-- Takes the rest of a string whose opening quote has been taken. -/
def string : Reader String := do
  return String.ofList (← stringLoop (← steps))

/-- Skips the rest of a string in at most `steps` characters or escapes. A control character is
refused where it stands. -/
def skipStringLoop : (steps : Nat) → Reader Unit
  | 0 => failHere .endOfString
  | steps + 1 => do
    match ← peek with
    | none => failHere .endOfString
    | some c =>
      if c = '"' then skip 1
      else if c = '\\' then
        skip 1
        skippedEscape
        skipStringLoop steps
      else if c.toNat < 32 then failHere .controlCharacter
      else
        skip 1
        skipStringLoop steps

/-- Skips the rest of a string whose opening quote has been taken. -/
def skipString : Reader Unit := do
  skipStringLoop (← steps)

end KMeansSeeding.Json.Reader
