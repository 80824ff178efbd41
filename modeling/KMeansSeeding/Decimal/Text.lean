import KMeansSeeding.Binary.Precision
import KMeansSeeding.Decimal.Shortest

/-!
# Number texts

A float is written either with the fewest digits that read back as it, in a `NumberStyle`, or with a
fixed number of places. A style says for which leading exponents the notation is positional, what a
whole number looks like and how an exponent is written; the styles in use are constants beside the
documents they belong to.
-/

namespace KMeansSeeding

/-- How the shortest digits of a float are laid out. -/
structure NumberStyle where
  /-- The range of leading exponents that are written without an exponent; no range means all. -/
  positional : Option (Int × Int)
  /-- Whether a whole number ends in `.0` in positional notation. -/
  pointZero : Bool
  /-- Whether a positive exponent has a sign. -/
  plusSign : Bool
  /-- Which way a tie between two shortest texts goes. -/
  tie : Tie
  deriving Repr

namespace NumberStyle

/-- Whether a leading exponent is written without an exponent. -/
def isPositional (style : NumberStyle) (leading : Int) : Bool :=
  match style.positional with
  | none => true
  | some (least, most) => least ≤ leading && leading ≤ most

/-- `digits` with the point after the first `whole` of them, which may be none or more than all. -/
def layOut (style : NumberStyle) (digits : List Char) (whole : Int) : List Char :=
  if whole ≤ 0 then
    ['0', '.'] ++ List.replicate (-whole).toNat '0' ++ digits
  else
    let places := whole.toNat
    if digits.length ≤ places then
      digits ++ List.replicate (places - digits.length) '0' ++
        (if style.pointZero then ['.', '0'] else [])
    else digits.take places ++ ['.'] ++ digits.drop places

/-- An exponent with its mark and sign. -/
def exponentPart (style : NumberStyle) (exponent : Int) : List Char :=
  let sign := if exponent < 0 then ['-'] else if style.plusSign then ['+'] else []
  ['e'] ++ sign ++ Decimal.digitsOf exponent.natAbs

/-- One digit, the others after a point, and the exponent. -/
def scientific (style : NumberStyle) (digits : List Char) (leading : Int) : List Char :=
  let others := digits.drop 1
  digits.take 1 ++ (if others.isEmpty then [] else '.' :: others) ++ style.exponentPart leading

/-- A positive decimal. -/
def ofDecimal (style : NumberStyle) (decimal : Decimal) : List Char :=
  let digits := Decimal.digitsOf decimal.digits
  if style.isPositional decimal.leading then style.layOut digits (decimal.leading + 1)
  else style.scientific digits decimal.leading

/-- A float of the layout. -/
def ofReading (style : NumberStyle) (layout : Layout) : Reading → String
  | .nan => "NaN"
  | .infinite negative => if negative then "-inf" else "inf"
  | .finite negative significand exponent =>
    let magnitude :=
      if significand = 0 then style.layOut ['0'] 1
      else style.ofDecimal (Decimal.shortest layout style.tie significand exponent)
    String.ofList (if negative then '-' :: magnitude else magnitude)

/-- A single-precision float. -/
def ofSingle (style : NumberStyle) (value : Float32) : String :=
  style.ofReading .single (.ofSingle value)

/-- A double-precision float. -/
def ofDouble (style : NumberStyle) (value : Float) : String :=
  style.ofReading .double (.ofDouble value)

end NumberStyle

/-- The whole number nearest to `numerator / denominator`, a half to the even one. -/
def nearestQuotient (numerator denominator : Nat) : Nat :=
  let quotient := numerator / denominator
  let twice := 2 * (numerator % denominator)
  if denominator < twice || (twice = denominator && quotient % 2 = 1) then quotient + 1
  else quotient

/-- A double with `places` digits after the point, rounded from its exact value. -/
def fixedPlaces (places : Nat) (value : Float) : String :=
  match Reading.ofDouble value with
  | .nan => "NaN"
  | .infinite negative => if negative then "-inf" else "inf"
  | .finite negative significand exponent =>
    let units := nearestQuotient
      (significand * Nat.pow 2 exponent.toNat * Nat.pow 10 places) (Nat.pow 2 (-exponent).toNat)
    let digits := Decimal.digitsOf units
    let padded := List.replicate (places + 1 - digits.length) '0' ++ digits
    let whole := padded.length - places
    let text := padded.take whole ++ (if places = 0 then [] else '.' :: padded.drop whole)
    String.ofList (if negative then '-' :: text else text)

end KMeansSeeding
