import KMeansSeeding.Json.Cursor

/-!
# Reading numbers

The digits of a number are gathered into a significand of at most 64 bits. A number without point
and exponent that fits is an integer; any other is a float: the significand, rounded to a float,
times or divided by the float nearest to a power of ten. That takes two roundings, so the result is
not always the float nearest to the text.
-/

namespace KMeansSeeding.Json

/-- A number as it is read. -/
inductive Numeral where
  | natural (value : Nat)
  /-- An integer below zero. -/
  | negative (magnitude : Nat)
  | floating (value : Float)
  deriving Repr

namespace Numeral

/-- The largest significand. -/
def significandLimit : Nat :=
  Nat.pow 2 64 - 1

/-- The largest decimal exponent that can be written. -/
def exponentLimit : Nat :=
  Nat.pow 2 31 - 1

/-- The value of a decimal digit. -/
def digitValue (c : Char) : Nat :=
  c.toNat - '0'.toNat

/-- Appends digits to a number as long as it stays within a limit; answers with the number and the
digits left. -/
def absorb (limit : Nat) : (value : Nat) → List Char → Nat × List Char
  | value, [] => (value, [])
  | value, digit :: rest =>
    let next := value * 10 + digitValue digit
    if next ≤ limit then absorb limit next rest else (value, digit :: rest)

/-- The float nearest to `10 ^ power`. -/
def powerOfTen (power : Nat) : Float :=
  doubleOfNat (Nat.pow 10 power)

/-- `value * 10 ^ exponent` in steps of at most 308 places; none if that passes the largest float.
-/
def scaleLoop : (steps : Nat) → (value : Float) → (exponent : Int) → Option Float
  | 0, value, _ => some value
  | steps + 1, value, exponent =>
    if exponent.natAbs ≤ 308 then
      if 0 ≤ exponent then
        let scaled := value * powerOfTen exponent.natAbs
        if scaled.isInf then none else some scaled
      else some (value / powerOfTen exponent.natAbs)
    else if value == 0.0 then some value
    else if 0 ≤ exponent then none
    else scaleLoop steps (value / powerOfTen 308) (exponent + 308)

/-- A significand times a power of ten, with its sign. Four steps bring any significand to zero. -/
def float (negated : Bool) (significand : Nat) (exponent : Int) : Option Float :=
  (scaleLoop 4 (doubleOfNat significand) exponent).map fun value =>
    if negated then -value else value

/-- The number without point and exponent. Minus zero and what does not fit are floats. -/
def integer (negated : Bool) (significand : Nat) : Numeral :=
  if negated then
    if significand = 0 || Nat.pow 2 63 < significand then .floating (-doubleOfNat significand)
    else .negative significand
  else .natural significand

/-- The number as a finding. -/
def found : Numeral → Found
  | .natural value => .integer value
  | .negative magnitude => .integer (-magnitude)
  | .floating value => .floating value

/-- The number as a single. -/
def toSingle : Numeral → Float32
  | .natural value => singleOfInt value
  | .negative magnitude => singleOfInt (-magnitude)
  | .floating value => narrowDouble value

/-- The number as a double. -/
def toDouble : Numeral → Float
  | .natural value => doubleOfInt value
  | .negative magnitude => doubleOfInt (-magnitude)
  | .floating value => value

end Numeral

namespace Reader

/-- Takes a run of decimal digits. -/
def digits : Reader (List Char) :=
  takeWhile Char.isDigit

/-- Takes the digits before a point: a zero stands alone. -/
def wholeDigits : Reader (List Char) := do
  match ← peek with
  | none => failHere .endOfValue
  | some c =>
    if c = '0' then
      skip 1
      match ← peek with
      | some next => if next.isDigit then failAhead .invalidNumber else return ['0']
      | none => return ['0']
    else if c.isDigit then digits
    else failAhead .invalidNumber

/-- The float of a significand and an exponent, at the position behind it. -/
def finish (negated : Bool) (significand : Nat) (exponent : Int) : Reader Numeral :=
  match Numeral.float negated significand exponent with
  | some value => return .floating value
  | none => failHere .numberOutOfRange

/-- Takes the sign of an exponent; the answer is whether it is a minus. -/
def exponentSign : Reader Bool := do
  match ← peek with
  | some '+' =>
    skip 1
    return false
  | some '-' =>
    skip 1
    return true
  | _ => return false

/-- Takes an exponent from its mark on. A huge exponent makes zero or passes the largest float,
which is known as soon as it is huge. -/
def exponentPart (negated : Bool) (significand : Nat) (exponent : Int) : Reader Numeral := do
  skip 1
  let down ← exponentSign
  match ← peek with
  | none => failHere .endOfValue
  | some c =>
    if c.isDigit then
      let run := (← get).rest.takeWhile Char.isDigit
      let (power, left) := Numeral.absorb Numeral.exponentLimit 0 run
      if left.isEmpty then
        skip run.length
        finish negated significand (if down then exponent - power else exponent + power)
      else if significand ≠ 0 && !down then
        skip (run.length - left.length + 1)
        failHere .numberOutOfRange
      else
        skip run.length
        return .floating (if negated then -0.0 else 0.0)
    else failAhead .invalidNumber

/-- Whether a character starts an exponent. -/
def isExponentMark (c : Char) : Bool :=
  c = 'e' || c = 'E'

/-- Takes what may follow a fraction, or digits that do not fit an integer. -/
def scaled (negated : Bool) (significand : Nat) (exponent : Int) : Reader Numeral := do
  match ← peek with
  | some c =>
    if isExponentMark c then exponentPart negated significand exponent
    else finish negated significand exponent
  | none => finish negated significand exponent

/-- Takes a fraction from its point on, for a number whose last `shift` whole digits did not fit. -/
def fractionPart (negated : Bool) (significand : Nat) (shift : Nat) : Reader Numeral := do
  skip 1
  let run ← digits
  if run.isEmpty then
    match ← peek with
    | some _ => failAhead .invalidNumber
    | none => failHere .endOfValue
  else
    let (significand, left) := Numeral.absorb Numeral.significandLimit significand run
    scaled negated significand ((shift : Int) - (run.length - left.length : Nat))

/-- Takes a number whose sign has been taken. -/
def number (negated : Bool) : Reader Numeral := do
  let whole ← wholeDigits
  let (significand, left) := Numeral.absorb Numeral.significandLimit 0 whole
  match ← peek with
  | some '.' => fractionPart negated significand left.length
  | next =>
    if next.any isExponentMark then exponentPart negated significand left.length
    else if left.isEmpty then return Numeral.integer negated significand
    else finish negated significand left.length

end Reader

end KMeansSeeding.Json
