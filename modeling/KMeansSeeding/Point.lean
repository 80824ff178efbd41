import KMeansSeeding.Fault
import KMeansSeeding.Kernel

/-!
# Points

A point is the list of its single-precision components. Its norm and its products run in double
precision.
-/

namespace KMeansSeeding

/-- The components of a point. -/
abbrev Point : Type :=
  List Float32

namespace Point

/-- The squared norm of a point. -/
def norm (point : Point) : Float :=
  squaredNorm point

/-- The dot product of two points of the same dimension. -/
def dot (left right : Point) : Except Breach Float :=
  wideDot left right

/-- Accepts a point of the given dimension. -/
def check (point : Point) (dimension : Nat) : Except Fault Unit :=
  if point.length = dimension then .ok () else .error (.wrongDimension dimension point.length)

/-- Whether two points have the same dimension and equal components; NaN equals nothing. -/
def same (left right : Point) : Bool :=
  left.length == right.length && (List.zipWith (· == ·) left right).all id

theorem check_eq_ok_iff {point : Point} {dimension : Nat} :
    point.check dimension = .ok () ↔ point.length = dimension := by
  unfold check
  split <;> simp_all

end Point

end KMeansSeeding
