import KMeansSeeding.Breach
import KMeansSeeding.Binary.Precision

/-!
# Sums of products in lanes

Float sums depend on their order, so the order is fixed here. `laneSum` adds terms in `width`
interleaved lanes: lane `r` adds up the terms `r`, `width + r`, `2 * width + r`, and so on, as long
as whole blocks of `width` terms remain. The lanes are then added from left to right, and the terms
after the last whole block follow one by one.

The functions are stated for any arithmetic. In floats they fix the rounding, in a ring they are
plain sums.
-/

namespace KMeansSeeding

variable {α : Type} [Add α] [Mul α] [OfNat α 0]

/-- Adds `blocks` whole blocks of terms to the lanes; answers with the lanes and the terms left. -/
@[specialize]
def addBlocks : (blocks : Nat) → (lanes terms : List α) → List α × List α
  | 0, lanes, terms => (lanes, terms)
  | blocks + 1, lanes, terms =>
    addBlocks blocks (List.zipWith (· + ·) lanes terms) (terms.drop lanes.length)

/-- The sum of `terms` in `width` lanes. -/
@[specialize]
def laneSum (width : Nat) (terms : List α) : α :=
  let (lanes, rest) := addBlocks (terms.length / width) (List.replicate width 0) terms
  rest.foldl (· + ·) (lanes.foldl (· + ·) 0)

/-- The dot product in `width` lanes of two lists of the same length. -/
@[specialize]
def laneDot (width : Nat) (left right : List α) : Except Breach α :=
  (sameLength left right).map fun _ => laneSum width (List.zipWith (· * ·) left right)

/-- The dot product of components as they are stored, in eight lanes. -/
def narrowDot (left right : List α) : Except Breach α :=
  laneDot 8 left right

/-- The dot product of widened components, in four lanes. -/
def wideDot {κ : Type} [Widen κ α] (left right : List κ) : Except Breach α :=
  laneDot 4 (left.map (widen (α := α))) (right.map (widen (α := α)))

/-- The squared norm of widened components, in four lanes. -/
def squaredNorm {κ : Type} [Widen κ α] (components : List κ) : α :=
  laneSum 4 (components.map fun component => widen (α := α) component * widen component)

theorem laneDot_eq_ok {width : Nat} {left right : List α} (h : left.length = right.length) :
    laneDot width left right = .ok (laneSum width (List.zipWith (· * ·) left right)) := by
  simp [laneDot, sameLength, h, Except.map]

theorem laneDot_eq_error {width : Nat} {left right : List α} (h : left.length ≠ right.length) :
    laneDot width left right = .error (.unequalLengths left.length right.length) := by
  simp [laneDot, sameLength, h, Except.map]

/-- A vector's squared norm is its dot product with itself. -/
theorem wideDot_self {κ : Type} [Widen κ α] (components : List κ) :
    wideDot (α := α) components components = .ok (squaredNorm components) := by
  rw [wideDot, laneDot_eq_ok rfl, List.zipWith_self, List.map_map]
  rfl

end KMeansSeeding
