/-!
# Binary interchange layouts

A binary float is a sign, an exponent field and a fraction field. `Layout.decode` reads the three
fields as a number `significand * 2 ^ exponent`, and `Layout.nearest` goes back from any such number
to the nearest float of a layout, ties to the even significand. Everything is exact arithmetic on
natural numbers, so both directions can be evaluated inside a proof.
-/

namespace KMeansSeeding

/-- The widths of the two fields of a binary float below its sign bit. -/
structure Layout where
  fractionBits : Nat
  exponentBits : Nat
  deriving DecidableEq, Repr

/-- What the bits of a float stand for. -/
inductive Reading where
  | nan
  | infinite (negative : Bool)
  /-- The number `significand * 2 ^ exponent`, negated when `negative`; zero keeps its sign. -/
  | finite (negative : Bool) (significand : Nat) (exponent : Int)
  deriving DecidableEq, Repr

namespace Layout

/-- The 32-bit layout. -/
def single : Layout := ⟨23, 8⟩

/-- The 64-bit layout. -/
def double : Layout := ⟨52, 11⟩

/-- The exponent of the last place of subnormal and of the least normal floats. -/
def leastExponent (layout : Layout) : Int :=
  2 - (Nat.pow 2 (layout.exponentBits - 1) : Nat) - (layout.fractionBits : Nat)

/-- The largest value of the exponent field; it marks infinities and NaN. -/
def topField (layout : Layout) : Nat :=
  Nat.pow 2 layout.exponentBits - 1

/-- The bits of positive infinity. -/
def infinityBits (layout : Layout) : Nat :=
  layout.topField <<< layout.fractionBits

/-- The sign bit. -/
def signBit (layout : Layout) (negative : Bool) : Nat :=
  if negative then 1 <<< (layout.fractionBits + layout.exponentBits) else 0

/-- Reads the fields. A zero exponent field means a significand without the leading one. -/
def decode (layout : Layout) (bits : Nat) : Reading :=
  let fraction := bits % Nat.pow 2 layout.fractionBits
  let field := (bits >>> layout.fractionBits) % Nat.pow 2 layout.exponentBits
  let negative := (bits >>> (layout.fractionBits + layout.exponentBits)) % 2 == 1
  if field = layout.topField then
    if fraction = 0 then .infinite negative else .nan
  else if field = 0 then
    .finite negative fraction layout.leastExponent
  else
    .finite negative (fraction + Nat.pow 2 layout.fractionBits)
      (layout.leastExponent + (field - 1 : Nat))

/-- `significand / 2 ^ places`, rounded to the nearest natural number, a half to the even one. -/
def shiftRightEven (significand places : Nat) : Nat :=
  let quotient := significand >>> places
  let remainder := significand % Nat.pow 2 places
  let half := Nat.pow 2 places / 2
  if places = 0 then significand
  else if half < remainder || (remainder = half && quotient % 2 = 1) then quotient + 1
  else quotient

/-- The bits of the nearest magnitude to `significand * 2 ^ exponent`.

The unit in the last place is fixed first: it leaves `fractionBits + 1` digits, unless that falls
below the unit of the subnormals. A significand that rounds up to the next power of two carries into
the exponent field by itself, and what passes the largest finite float is infinite. -/
def nearestMagnitude (layout : Layout) (significand : Nat) (exponent : Int) : Nat :=
  if significand = 0 then 0
  else
    let unit := max (exponent + (significand.log2 : Nat) - (layout.fractionBits : Nat))
      layout.leastExponent
    let rounded :=
      if unit ≤ exponent then significand <<< (exponent - unit).toNat
      else shiftRightEven significand (unit - exponent).toNat
    let hidden := Nat.pow 2 layout.fractionBits
    let bits :=
      if rounded < hidden then rounded
      else (((unit - layout.leastExponent).toNat + 1) <<< layout.fractionBits) + (rounded - hidden)
    min bits layout.infinityBits

/-- The bits of the nearest float; all NaNs become one. -/
def nearest (layout : Layout) : Reading → Nat
  | .nan => layout.infinityBits + Nat.pow 2 (layout.fractionBits - 1)
  | .infinite negative => layout.signBit negative + layout.infinityBits
  | .finite negative significand exponent =>
    layout.signBit negative + layout.nearestMagnitude significand exponent

end Layout

end KMeansSeeding
