import KMeansSeeding.Binary.Layout

/-!
# Between single and double precision

Components of points are single-precision floats, sums of their products run in double precision.
`widen` is exact, since every single-precision float is a double; `narrow` rounds to the nearest
single, ties to even. Both go through `Layout`, so a proof can evaluate them.
-/

namespace KMeansSeeding

/-- What the bits of a single-precision float stand for. -/
def Reading.ofSingle (value : Float32) : Reading :=
  Layout.single.decode value.toBits.toNat

/-- What the bits of a double-precision float stand for. -/
def Reading.ofDouble (value : Float) : Reading :=
  Layout.double.decode value.toBits.toNat

/-- The nearest single-precision float. -/
def Reading.toSingle (reading : Reading) : Float32 :=
  Float32.ofBits (Layout.single.nearest reading).toUInt32

/-- The nearest double-precision float. -/
def Reading.toDouble (reading : Reading) : Float :=
  Float.ofBits (Layout.double.nearest reading).toUInt64

/-- The double that equals a single. -/
def widenSingle (value : Float32) : Float :=
  (Reading.ofSingle value).toDouble

/-- The single nearest to a double. -/
def narrowDouble (value : Float) : Float32 :=
  (Reading.ofDouble value).toSingle

/-- The double nearest to a natural number. -/
def doubleOfNat (value : Nat) : Float :=
  (Reading.finite false value 0).toDouble

/-- The single nearest to an integer. -/
def singleOfInt (value : Int) : Float32 :=
  (Reading.finite (value < 0) value.natAbs 0).toSingle

/-- The double nearest to an integer. -/
def doubleOfInt (value : Int) : Float :=
  (Reading.finite (value < 0) value.natAbs 0).toDouble

/-- Components of type `κ` that enter sums of type `α` without losing anything. -/
class Widen (κ α : Type) where
  widen : κ → α

export Widen (widen)

instance : Widen Float32 Float := ⟨widenSingle⟩

/-- Exact arithmetic needs no second type. -/
instance (priority := low) Widen.self (α : Type) : Widen α α := ⟨id⟩

end KMeansSeeding
