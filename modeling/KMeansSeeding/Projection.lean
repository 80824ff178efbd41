import KMeansSeeding.Journal
import KMeansSeeding.Kernel
import KMeansSeeding.Random.Normal
import KMeansSeeding.Sketch

/-!
# Random projections

A projection holds one random direction per sketch bit, as one flat list of weights: weight `i` is
the `i`-th variate of the seed, and the direction of bit `j` is the `j`-th stretch of `dimension`
weights. So a projection is fixed by its dimension and seed, and one with more bits starts with one
that has fewer.
-/

namespace KMeansSeeding

/-- Random directions with components of type `κ`, laid out one after another. -/
structure Projection (κ : Type) where
  dimension : Nat
  bits : Nat
  weights : Array κ
  deriving Repr

namespace Projection

/-- The projection of a seed: `dimension * bits` standard normal weights. The product is the natural
number, without a bound; it speaks for a machine only where it fits a word and there is storage for as many
weights. -/
def generate (dimension bits : Nat) (seed : UInt64) : Projection Float32 :=
  ⟨dimension, bits, Normal.variates seed (dimension * bits)⟩

/-- What is recorded when a projection is generated. -/
def generated (dimension bits : Nat) (seed : UInt64) : Entry :=
  ⟨.debug, s!"Generated {dimension}x{bits} Gaussian projection (seed {seed})"⟩

variable {κ : Type}

/-- The direction of one bit. -/
def direction (projection : Projection κ) (bit : Nat) : Except Breach (List κ) :=
  let start := bit * projection.dimension
  let stop := start + projection.dimension
  let length := projection.weights.size
  if length < start then .error (.stretchStart start length)
  else if length < stop then .error (.stretchEnd stop length)
  else .ok (projection.weights.extract start stop).toList

/-- The projections of a point onto all directions, in bit order. -/
def project [Add κ] [Mul κ] [OfNat κ 0] (projection : Projection κ) (point : List κ) :
    Except Breach (List κ) :=
  (List.range projection.bits).mapM fun bit => do
    narrowDot point (← projection.direction bit)

/-- The sign sketch of a point. -/
def sketch [Add κ] [Mul κ] [OfNat κ 0] [LT κ] [DecidableLT κ] (projection : Projection κ)
    (point : List κ) : Except Breach Sketch :=
  return Sketch.ofProjections projection.bits (← projection.project point)

end Projection

end KMeansSeeding
