import KMeansSeeding.Projection
import KMeansSeeding.Proofs.Promises

/-!
# Sketching by a full projection

A projection is full if it has as many weights as its bits have components. Then every bit has its
direction, and every point of the right dimension has a sketch. `sketchOf` is that sketch without
the checks on the way to it, so that a list of sketches is a map over the points.
-/

namespace KMeansSeeding

namespace Normal

theorem size_drawOnto (count : Nat) (stream : Keystream) (drawn : Array Float32) :
    (drawOnto count stream drawn).size = drawn.size + count := by
  induction count generalizing stream drawn with
  | zero => rfl
  | succ count ih =>
    rw [drawOnto, ih, Array.size_push]
    omega

theorem size_variates (seed : UInt64) (count : Nat) : (variates seed count).size = count := by
  rw [variates, size_drawOnto, List.size_toArray, List.length_nil, Nat.zero_add]

end Normal

namespace Projection

variable {κ : Type}

/-- There is a weight for every component of every direction. -/
def Full (projection : Projection κ) : Prop :=
  projection.weights.size = projection.dimension * projection.bits

theorem full_generate (dimension bits : Nat) (seed : UInt64) :
    (generate dimension bits seed).Full :=
  Normal.size_variates seed (dimension * bits)

/-- The stretch of weights that belongs to a bit. -/
def stretch (projection : Projection κ) (bit : Nat) : List κ :=
  (projection.weights.extract (bit * projection.dimension)
    (bit * projection.dimension + projection.dimension)).toList

variable {projection : Projection κ} {bit : Nat}

/-- The stretch of a bit ends inside the weights. -/
theorem Full.stretch_le (full : projection.Full) (inside : bit < projection.bits) :
    bit * projection.dimension + projection.dimension ≤ projection.weights.size := by
  rw [full, ← Nat.succ_mul, Nat.mul_comm projection.dimension]
  exact Nat.mul_le_mul_right _ inside

theorem direction_eq_ok (full : projection.Full) (inside : bit < projection.bits) :
    projection.direction bit = .ok (projection.stretch bit) := by
  have stop := full.stretch_le inside
  rw [direction, if_neg (by omega), if_neg (by omega), stretch]

theorem length_stretch (full : projection.Full) (inside : bit < projection.bits) :
    (projection.stretch bit).length = projection.dimension := by
  have stop := full.stretch_le inside
  rw [stretch, Array.length_toList, Array.size_extract]
  omega

variable [Add κ] [Mul κ] [OfNat κ 0]

/-- The projection of a point onto the direction of a bit. -/
def along (projection : Projection κ) (point : List κ) (bit : Nat) : κ :=
  laneSum 8 (List.zipWith (· * ·) point (projection.stretch bit))

section Along

variable {point : List κ}

theorem narrowDot_eq_ok (full : projection.Full) (fits : point.length = projection.dimension)
    (inside : bit < projection.bits) :
    narrowDot point (projection.stretch bit) = .ok (projection.along point bit) :=
  laneDot_eq_ok (fits.trans (length_stretch full inside).symm)

/-- A full projection projects every point of its dimension onto all directions. -/
theorem project_eq_ok (full : projection.Full) (fits : point.length = projection.dimension) :
    projection.project point = .ok ((List.range projection.bits).map (projection.along point)) := by
  refine mapM_eq_ok_map fun bit inside => ?_
  rw [List.mem_range] at inside
  rw [direction_eq_ok full inside]
  exact narrowDot_eq_ok full fits inside

end Along

variable [LT κ] [DecidableLT κ]

/-- The sign sketch of a point, which must have the dimension of the projection. -/
def sketchOf (projection : Projection κ) (point : List κ) : Sketch :=
  .ofProjections projection.bits <| (List.range projection.bits).map fun bit =>
    laneSum 8 (List.zipWith (· * ·) point (projection.stretch bit))

@[simp] theorem width_sketchOf (projection : Projection κ) (point : List κ) :
    (projection.sketchOf point).width = projection.bits := rfl

/-- A full projection sketches every point of its dimension. -/
theorem sketch_eq_ok (full : projection.Full) {point : List κ}
    (fits : point.length = projection.dimension) :
    projection.sketch point = .ok (projection.sketchOf point) := by
  rw [sketch, project_eq_ok full fits]
  rfl

/-- A full projection sketches a list of points of its dimension one by one. -/
theorem mapM_sketch_eq_ok (full : projection.Full) {points : List (List κ)}
    (fit : ∀ point ∈ points, point.length = projection.dimension) :
    points.mapM projection.sketch = .ok (points.map projection.sketchOf) :=
  mapM_eq_ok_map fun point member => sketch_eq_ok full (fit point member)

end Projection

end KMeansSeeding
