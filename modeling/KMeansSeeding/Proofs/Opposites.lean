import KMeansSeeding.Proofs.Binary.Negation
import KMeansSeeding.Proofs.Sums
import KMeansSeeding.Proofs.Tiling

/-!
# Sketches of opposite points

The projections of a point and of its negative onto one direction are opposite up to the sign of zero:
so are the terms of the two dot products, the zeros in which the lanes start, and with these all sums on
the way (`Projection.opposed_along`). Of two opposite projections exactly one lies above zero, unless
both have no sign. So the two sketches differ in all bits but those whose projection has no sign, and in
these neither has its bit set.
-/

namespace KMeansSeeding

namespace Projection

open List

variable {projection : Projection Float32} {point : Point} {bit : ℕ}

theorem forall₂_opposed_terms (point direction : List Float32) :
    Forall₂ Opposed (zipWith (· * ·) point direction)
      (zipWith (· * ·) (point.map (- ·)) direction) := by
  -- only the components of the point change their signs, the weights stay as they are
  have components : Forall₂ Opposed point (point.map (- ·)) :=
    forall₂_map_right_iff.mpr (forall₂_same.mpr fun component _ => opposed_neg component)
  have weights : Forall₂ (· = ·) direction direction := forall₂_same.mpr fun _ _ => rfl
  refine forall₂_zipWith ?_ components weights
  rintro component _ weight _ opposed rfl
  exact opposed.mul weight

/-- Opposite points have opposite projections, whatever the number of lanes and components. -/
theorem opposed_along (projection : Projection Float32) (point : Point) (bit : ℕ) :
    Opposed (projection.along point bit) (projection.along (point.map (- ·)) bit) := by
  have terms := forall₂_opposed_terms point (projection.stretch bit)
  rw [along, along]
  exact laneSum_related (R := Opposed) (fun _ _ _ _ => Opposed.add) Opposed.zero 8 terms

/-- Where the projection has a sign, exactly one of two opposite points has its bit set. -/
theorem bit_sketchOf_opposite (inside : bit < projection.bits)
    (signed : ¬ Signless (projection.along point bit)) :
    (projection.sketchOf (point.map (- ·))).bit bit = !(projection.sketchOf point).bit bit := by
  have sides := (opposed_along projection point bit).zero_lt_iff signed
  rw [Bool.eq_iff_iff, Bool.not_eq_true', ← Bool.not_eq_true, bit_sketchOf, bit_sketchOf,
    and_iff_right inside, and_iff_right inside, sides]

theorem bit_sketchOf_of_signless (signless : Signless (projection.along point bit)) :
    (projection.sketchOf point).bit bit = false := by
  rw [← Bool.not_eq_true, bit_sketchOf]
  exact fun set => not_zero_lt_of_signless signless set.2

/-- Where the projection has no sign, neither of two opposite points has its bit set. -/
theorem bit_sketchOf_opposite_of_signless (signless : Signless (projection.along point bit)) :
    (projection.sketchOf (point.map (- ·))).bit bit = false :=
  bit_sketchOf_of_signless ((opposed_along projection point bit).signless_iff.mpr signless)

/-- The bits in which the sketches of opposite points differ and those without a sign are all bits. -/
theorem hamming_sketchOf_opposite (projection : Projection Float32) (point : Point) :
    (projection.sketchOf point).hamming (projection.sketchOf (point.map (- ·)))
        + ((range projection.bits).map (projection.along point)).countP (Signless ·)
      = projection.bits := by
  -- two opposite sketches differ exactly in the bits whose projection has a sign
  have differ : ∀ bit ∈ range projection.bits,
      ((projection.sketchOf point).bit bit != (projection.sketchOf (point.map (- ·))).bit bit) = true
        ↔ decide ¬ decide (Signless (projection.along point bit)) = true := by
    intro bit inside
    rw [mem_range] at inside
    rw [decide_eq_true_iff, decide_eq_true_iff]
    by_cases sign : Signless (projection.along point bit)
    · simp [bit_sketchOf_of_signless sign, bit_sketchOf_opposite_of_signless sign, sign]
    · simp [bit_sketchOf_opposite inside sign, sign]
  have split := length_eq_countP_add_countP
    (fun bit => decide (Signless (projection.along point bit))) (l := range projection.bits)
  have hamming := (projection.trimmed_sketchOf point).hamming_eq
    (projection.trimmed_sketchOf (point.map (- ·))) rfl
  rw [hamming, width_sketchOf, countP_congr differ, countP_map, Nat.add_comm]
  rw [length_range] at split
  exact split.symm

/-- A full projection, as every generated one is (`full_generate`), sketches a point of its dimension and
its negative, and projects the point onto every direction. In each bit whose projection has a sign exactly
one of the two sketches has the bit set, in each other bit neither; so their Hamming distance is the
number of bits without those whose projection is zero or not a number. -/
theorem sketch_opposites (projection : Projection Float32) (point : Point) (full : projection.Full)
    (fits : point.length = projection.dimension) :
    ∃ values sketch opposite,
      projection.project point = .ok values ∧ values.length = projection.bits ∧
      projection.sketch point = .ok sketch ∧
      projection.sketch (point.map (- ·)) = .ok opposite ∧
      (∀ bit < projection.bits, ∃ direction value,
        projection.direction bit = .ok direction ∧ narrowDot point direction = .ok value ∧
        values[bit]? = some value ∧
        (¬ Signless value → opposite.bit bit = !sketch.bit bit) ∧
        (Signless value → sketch.bit bit = false ∧ opposite.bit bit = false)) ∧
      sketch.hamming opposite + values.countP (Signless ·) = projection.bits := by
  refine ⟨(range projection.bits).map (projection.along point), projection.sketchOf point,
    projection.sketchOf (point.map (- ·)), project_eq_ok full fits, ?_, sketch_eq_ok full fits,
    sketch_eq_ok full ((length_map _).trans fits), ?_, hamming_sketchOf_opposite projection point⟩
  · rw [length_map, length_range]
  · intro bit inside
    refine ⟨_, _, direction_eq_ok full inside, narrowDot_eq_ok full fits inside, ?_,
      bit_sketchOf_opposite inside, fun signless => ⟨bit_sketchOf_of_signless signless,
        bit_sketchOf_opposite_of_signless signless⟩⟩
    rw [getElem?_map, getElem?_range inside]
    rfl

/-- A direction without zeros, one of negative zeros, and one of what is not a number. -/
def threeDirections : Projection Float32 :=
  ⟨9, 3, (replicate 9 1 ++ replicate 9 (-0) ++ replicate 9 (0 / 0) : List Float32).toArray⟩

/-- Nine components are a chunk of lanes and a tail. The sketches differ in the only bit whose projection
is neither zero nor not a number. -/
theorem sketch_opposites_chunk_and_tail :
    ∃ sketch opposite, threeDirections.sketch (replicate 9 2) = .ok sketch ∧
      threeDirections.sketch (replicate 9 (-2)) = .ok opposite ∧
      sketch.hamming opposite = 1 := by
  obtain ⟨values, sketch, opposite, project, -, point, negative, -, sum⟩ :=
    sketch_opposites threeDirections (replicate 9 2) rfl rfl
  have signless : (threeDirections.project (replicate 9 2)).map (·.countP (Signless ·)) = .ok 2 := by
    decide +kernel
  refine ⟨sketch, opposite, point, negative, ?_⟩
  rw [project] at signless
  have two : values.countP (Signless ·) = 2 := Except.ok.inj signless
  rw [two] at sum
  exact Nat.add_right_cancel sum

end Projection

end KMeansSeeding
