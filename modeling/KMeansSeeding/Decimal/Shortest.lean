import KMeansSeeding.Binary.Layout

/-!
# Shortest decimals

Every float owns an interval of real numbers that read back as it: half the gap to its neighbour on
either side, the ends included exactly when its significand is even. `shortest` finds in this
interval a decimal with the fewest digits and, among those, the nearest to the float.

For a given number of digits the decimals form a grid, and if the interval meets the grid at all, it
holds one of the float's two neighbours on it. So the search tests two candidates per digit count,
in exact arithmetic.
-/

namespace KMeansSeeding

/-- The number `digits * 10 ^ exponent`. -/
structure Decimal where
  digits : Nat
  exponent : Int
  deriving DecidableEq, Repr

/-- Which way a number halfway between two candidates goes. -/
inductive Tie where
  | up
  | even
  deriving DecidableEq, Repr

namespace Decimal

/-- The decimal digits of a natural number, the most significant one first. -/
def digitsOf (value : Nat) : List Char :=
  Nat.toDigits 10 value

/-- The exponent of the leading digit. -/
def leading (decimal : Decimal) : Int :=
  decimal.exponent + ((digitsOf decimal.digits).length - 1 : Nat)

/-- Drops up to `count` zeros at the end of the digits. -/
def trim : (count : Nat) → Decimal → Decimal
  | 0, decimal => decimal
  | count + 1, decimal =>
    if decimal.digits % 10 = 0 then trim count ⟨decimal.digits / 10, decimal.exponent + 1⟩
    else decimal

end Decimal

/-- A positive float as a fraction, with the ends of the interval that reads back as it.

The three numbers `low`, `value` and `high` count quarters of the unit in the last place; they are
multiplied by `scale` and divided by `divisor`. -/
structure ReadBack where
  low : Nat
  value : Nat
  high : Nat
  scale : Nat
  divisor : Nat
  /-- Whether the two ends belong to the interval. -/
  closed : Bool
  deriving DecidableEq, Repr

namespace ReadBack

/-- The interval of `significand * 2 ^ exponent`. Below a power of two the gap is half as wide,
except at the least exponent. -/
def ofFloat (layout : Layout) (significand : Nat) (exponent : Int) : ReadBack :=
  let narrow := significand = Nat.pow 2 layout.fractionBits ∧ layout.leastExponent < exponent
  { low := 4 * significand - (if narrow then 1 else 2)
    value := 4 * significand
    high := 4 * significand + 2
    scale := Nat.pow 2 (exponent - 2).toNat
    divisor := Nat.pow 2 (2 - exponent).toNat
    closed := significand % 2 = 0 }

/-- The same interval measured in units of `10 ^ exponent`. -/
def inUnits (interval : ReadBack) (exponent : Int) : ReadBack :=
  { interval with
    scale := interval.scale * Nat.pow 10 (-exponent).toNat
    divisor := interval.divisor * Nat.pow 10 exponent.toNat }

/-- Whether a whole number of units lies in the interval. -/
def contains (interval : ReadBack) (units : Nat) : Bool :=
  let candidate := units * interval.divisor
  let low := interval.low * interval.scale
  let high := interval.high * interval.scale
  if interval.closed then low ≤ candidate && candidate ≤ high
  else low < candidate && candidate < high

/-- The largest whole number of units that is not above the value. -/
def floor (interval : ReadBack) : Nat :=
  interval.value * interval.scale / interval.divisor

/-- Whether the value is nearer to `floor + 1` than to `floor`; `tie` decides the middle. -/
def goesUp (interval : ReadBack) (tie : Tie) : Bool :=
  let below := interval.floor
  let twice := 2 * interval.value * interval.scale
  let middle := (2 * below + 1) * interval.divisor
  if twice = middle then
    match tie with
    | .up => true
    | .even => below % 2 = 1
  else middle < twice

/-- The nearer of the value's two neighbours among the whole numbers of units, or the only one that
lies in the interval. -/
def pick (interval : ReadBack) (tie : Tie) : Option Nat :=
  let below := interval.floor
  match interval.contains below, interval.contains (below + 1) with
  | true, true => some (if interval.goesUp tie then below + 1 else below)
  | true, false => some below
  | false, true => some (below + 1)
  | false, false => none

/-- The exponent of the leading digit, from a guess that is off by at most one. -/
def leading (interval : ReadBack) (guess : Int) : Int :=
  if (interval.inUnits guess).floor = 0 then guess - 1
  else if (interval.inUnits (guess + 1)).floor = 0 then guess
  else guess + 1

/-- Tries grids from coarse to fine, starting with units of `10 ^ exponent`. -/
def search (interval : ReadBack) (tie : Tie) : (grids : Nat) → (exponent : Int) → Decimal
  | 0, exponent => ⟨(interval.inUnits exponent).floor, exponent⟩
  | grids + 1, exponent =>
    match (interval.inUnits exponent).pick tie with
    | some units => ⟨units, exponent⟩
    | none => search interval tie grids (exponent - 1)

end ReadBack

namespace Decimal

/-- The shortest decimal that reads back as a positive float of the layout. Twenty digits are more
than any 64-bit float needs. -/
def shortest (layout : Layout) (tie : Tie) (significand : Nat) (exponent : Int) : Decimal :=
  let interval := ReadBack.ofFloat layout significand exponent
  let guess := Int.fdiv ((exponent + (significand.log2 : Nat)) * 30103) 100000
  trim 20 (interval.search tie 20 (interval.leading guess))

end Decimal

end KMeansSeeding
