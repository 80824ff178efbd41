import KMeansSeeding.Json.Text

/-!
# Skipping values

The value of a field that nobody asked for is skipped. It may be nested to any depth and its numbers
may be out of range, but its form is still checked.
-/

namespace KMeansSeeding.Json.Reader

/-- Skips a run of decimal digits. -/
def skipDigits : Reader Unit := do
  let _ ← takeWhile Char.isDigit

/-- Skips an exponent from its mark on. -/
def skipExponent : Reader Unit := do
  skip 1
  match ← peek with
  | some '+' => skip 1
  | some '-' => skip 1
  | _ => pure ()
  match ← peek with
  | some c => if c.isDigit then skipDigits else failAhead .invalidNumber
  | none => failHere .invalidNumber

/-- Skips what may follow the point of a fraction. -/
def skipFraction : Reader Unit := do
  skip 1
  match ← peek with
  | some c =>
    if c.isDigit then
      skipDigits
      match ← peek with
      | some 'e' => skipExponent
      | some 'E' => skipExponent
      | _ => pure ()
    else failAhead .invalidNumber
  | none => failHere .invalidNumber

/-- Skips a number whose sign has been skipped. -/
def skipNumber : Reader Unit := do
  match ← peek with
  | none => failHere .invalidNumber
  | some c =>
    if c = '0' then
      skip 1
      match ← peek with
      | some next => if next.isDigit then failAhead .invalidNumber
      | none => pure ()
    else if c.isDigit then skipDigits
    else failAhead .invalidNumber
    match ← peek with
    | some '.' => skipFraction
    | some 'e' => skipExponent
    | some 'E' => skipExponent
    | _ => pure ()

/-- Skips the name of a field and the colon after it. -/
def skipName : Reader Unit := do
  match ← peekSolid with
  | some '"' =>
    skip 1
    skipString
  | some _ => failAhead .keyNotString
  | none => failHere .endOfObject
  match ← peekSolid with
  | some ':' => skip 1
  | some _ => failAhead .expectedColon
  | none => failHere .endOfObject

mutual

/-- Skips a value of at most `steps` characters. -/
def skipValueLoop : (steps : Nat) → Reader Unit
  | 0 => failHere .endOfValue
  | steps + 1 => do
    match ← peekSolid with
    | none => failHere .endOfValue
    | some c =>
      match c with
      | 'n' => word ['n', 'u', 'l', 'l']
      | 't' => word ['t', 'r', 'u', 'e']
      | 'f' => word ['f', 'a', 'l', 's', 'e']
      | '-' =>
        skip 1
        skipNumber
      | '"' =>
        skip 1
        skipString
      | '[' =>
        skip 1
        match ← peekSolid with
        | some ']' => skip 1
        | some _ => skipItems steps
        | none => failHere .endOfList
      | '\x7b' =>
        skip 1
        match ← peekSolid with
        | some '\x7d' => skip 1
        | some _ => skipFields steps
        | none => failHere .endOfObject
      | _ => if c.isDigit then skipNumber else failAhead .expectedValue

/-- Skips the items of a list up to its end. -/
def skipItems : (steps : Nat) → Reader Unit
  | 0 => failHere .endOfValue
  | steps + 1 => do
    skipValueLoop steps
    match ← peekSolid with
    | some ',' =>
      skip 1
      skipItems steps
    | some ']' => skip 1
    | some _ => failAhead .expectedListEnd
    | none => failHere .endOfList

/-- Skips the fields of a record up to its end. -/
def skipFields : (steps : Nat) → Reader Unit
  | 0 => failHere .endOfValue
  | steps + 1 => do
    skipName
    skipValueLoop steps
    match ← peekSolid with
    | some ',' =>
      skip 1
      skipFields steps
    | some '\x7d' => skip 1
    | some _ => failAhead .expectedObjectEnd
    | none => failHere .endOfObject

end

/-- Skips a value. Every step takes a character or goes one level down or on, which takes one later.
-/
def skipValue : Reader Unit := do
  skipValueLoop (2 * (← steps))

end KMeansSeeding.Json.Reader
