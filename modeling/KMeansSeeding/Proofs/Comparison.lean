import KMeansSeeding.Proofs.FirstLeast
import KMeansSeeding.Proofs.Index.Refinement

/-!
# Approximate against exact outcomes

Both searches take the first least score of ascending positions, one of them of fewer positions. So
the approximate outcome is never below the exact one and never comes first among equals, and it is the
exact one exactly if the shortlist holds the exact position.
-/

namespace KMeansSeeding

/-- How the outcome for some positions relates to that for all positions. -/
structure Compared (positions : List Nat) (all few : Nearest Float) : Prop where
  number_all : all.distance.isNaN = false
  number_few : few.distance.isNaN = false
  distance_le : all.distance ≤ few.distance
  closest_le : (all.distance == few.distance) = true →
    ∀ p q, all.closest = some p → few.closest = some q → p ≤ q
  same_iff : (few.distance.toBits = all.distance.toBits ∧ few.closest = all.closest) ↔
    all = .empty ∨ ∃ position ∈ positions, all.closest = some position

/-- Outcomes of the same bits are the same. -/
theorem Nearest.eq_iff_toBits {left right : Nearest Float} :
    left = right ↔
      left.distance.toBits = right.distance.toBits ∧ left.closest = right.closest := by
  constructor
  · rintro rfl
    exact ⟨rfl, rfl⟩
  · obtain ⟨⟨⟨leftBits, _⟩⟩, _⟩ := left
    obtain ⟨⟨⟨rightBits, _⟩⟩, _⟩ := right
    rintro ⟨bits, closest⟩
    obtain rfl : leftBits = rightBits := bits
    obtain rfl := closest
    rfl

namespace Fold

variable (fold : Fold Float32 Float) (query : Point) (queryNorm : Float)

/-- The nearest of ascending positions has the first least score. -/
theorem firstLeast_nearestAt {positions : List Nat} (ascending : positions.Pairwise (· < ·)) :
    Nearest.FirstLeast positions (fold.score query queryNorm)
      (fold.nearestAt query queryNorm positions) :=
  Nearest.firstLeast_among ascending

/-- Looking at some of the positions instead of more. -/
theorem compared_of_subset {positions more : List Nat} (ascending : positions.Pairwise (· < ·))
    (ascending' : more.Pairwise (· < ·)) (subset : positions ⊆ more) :
    Compared positions (fold.nearestAt query queryNorm more)
      (fold.nearestAt query queryNorm positions) := by
  have hall := fold.firstLeast_nearestAt query queryNorm ascending'
  have hfew := fold.firstLeast_nearestAt query queryNorm ascending
  have number_all := hall.isNumber
  have number_few := hfew.isNumber
  exact {
    number_all
    number_few
    distance_le := le_of_not_lt number_all number_few (hall.not_lt hfew subset)
    closest_le := fun equal p q hp hq =>
      hall.closest_le hfew subset (not_lt_of_beq number_all number_few equal) hp hq
    same_iff := by
      rw [← Nearest.eq_iff_toBits]
      exact hall.eq_iff hfew subset }

/-- Looking at some of the positions instead of all. -/
theorem compared_nearestAt {positions : List Nat}
    (part : positions.Sublist (List.range fold.size)) :
    Compared positions (fold.nearestAt query queryNorm (List.range fold.size))
      (fold.nearestAt query queryNorm positions) :=
  fold.compared_of_subset query queryNorm (List.pairwise_lt_range.sublist part)
    List.pairwise_lt_range part.subset

end Fold

/-- Approximate search answers whenever exact search does, in every fold with aligned sketches, and
the outcomes compare through the shortlist. The same holds of the answers of an index after every run,
with the sketches of the points that the run stored. A shortlist with room for all points leaves no
difference. -/
theorem approximate_compared :
    (∀ (fold : Fold Float32 Float) (sketches : List Sketch) (query : Point) (queryNorm : Float)
        (querySketch : Sketch) (samples : Nat),
      fold.Fits query → fold.sketched sketches querySketch = .ok () →
      ∃ all few, fold.exact query queryNorm = .ok all ∧
        fold.approximate sketches query queryNorm querySketch samples = .ok few ∧
        Compared (querySketch.shortlist sketches samples).positions all few ∧
        (fold.size ≤ samples → few = all)) ∧
    ∀ run : Run, ∀ fold < run.configuration.folds, ∀ query : Point,
      query.length = run.configuration.dimension →
      ∃ all few sketches querySketch,
        (run.stored fold).mapM run.configuration.projection.sketch = .ok sketches ∧
        run.configuration.projection.sketch query = .ok querySketch ∧
        (run.index.distance query fold false).answer = .ok all ∧
        (run.index.distance query fold true).answer = .ok few ∧
        Compared (querySketch.shortlist sketches run.configuration.samples).positions all few ∧
        ((run.stored fold).length ≤ run.configuration.samples → few = all) := by
  constructor
  · intro fold sketches query queryNorm querySketch samples fits aligned
    refine ⟨_, _, Fold.exact_eq_ok fits queryNorm,
      Fold.approximate_eq_ok fits aligned queryNorm samples,
      fold.compared_nearestAt query queryNorm (Fold.sublist_of_sketched aligned samples),
      fun room => ?_⟩
    have count : sketches.length = fold.size := (Fold.sketched_eq_ok_iff.mp aligned).1
    rw [querySketch.shortlist_eq_range (by omega), count]
  · intro run fold inside query fits
    have kept := run.kept
    have full := run.configuration.full_projection
    have size : (Fold.ofPoints (run.stored fold) : Fold Float32 Float).size
        = (run.stored fold).length := Fold.size_ofPoints _
    have aligned := run.configuration.sketched_ofPoints (run.stored fold) query
    have exact := kept.distance_eq_ok inside fits false
    rw [Configuration.outcome, Configuration.considered, ← size] at exact
    refine ⟨_, _, _, _, Projection.mapM_sketch_eq_ok full (kept.fit fold),
      Projection.sketch_eq_ok full fits, exact, kept.distance_eq_ok inside fits true,
      Fold.compared_nearestAt _ query query.norm (Fold.sublist_of_sketched aligned _), fun room => ?_⟩
    have count : ((run.stored fold).map run.configuration.projection.sketchOf).length
        = (run.stored fold).length := List.length_map _
    rw [Configuration.outcome, Configuration.considered, Sketch.shortlist_eq_range _ (by omega), count,
      size]

/-- A shortlist of one misses the center that is nearest by exact search; one of two leaves no
difference. -/
theorem approximate_compared_short_and_full :
    (∃ all few, (Fold.ofPoints [[1], [-2]] : Fold Float32 Float).exact [-3] 9 = .ok all ∧
      (Fold.ofPoints [[1], [-2]] : Fold Float32 Float).approximate
        [.ofSigns 1 [false], .ofSigns 1 [true]] [-3] 9 (.ofSigns 1 [false]) 1 = .ok few ∧
      Compared [0] all few) ∧
    ∃ run : Run, run.calls = [.add [1] 0, .distance [5] 0 true, .add [-2] 0] ∧
      ∃ answer, (run.index.distance [-3] 0 false).answer = .ok answer ∧
        (run.index.distance [-3] 0 true).answer = .ok answer := by
  constructor
  · have fits : (Fold.ofPoints [[1], [-2]] : Fold Float32 Float).Fits ([-3] : Point) := by
      rw [Fold.Fits, Fold.points_ofPoints]
      decide
    obtain ⟨all, few, exact, approximate, compared, -⟩ := approximate_compared.1
      (.ofPoints [[1], [-2]]) [.ofSigns 1 [false], .ofSigns 1 [true]] [-3] 9 (.ofSigns 1 [false]) 1
      fits (by decide)
    have shortlisted : ((Sketch.ofSigns 1 [false]).shortlist
        [.ofSigns 1 [false], .ofSigns 1 [true]] 1).positions = [0] := by decide +kernel
    rw [shortlisted] at compared
    exact ⟨all, few, exact, approximate, compared⟩
  · let run : Run := ⟨.empty ⟨1, 1, 2, 2, 7, true⟩, _, rfl,
      [.add [1] 0, .distance [5] 0 true, .add [-2] 0]⟩
    have stored : run.stored 0 = [[1], [-2]] := by decide +kernel
    obtain ⟨all, few, _, _, -, -, exact, approximate, -, full⟩ :=
      approximate_compared.2 run 0 (by decide) [-3] (by decide)
    obtain rfl := full (by rw [stored]; decide)
    exact ⟨run, rfl, _, exact, approximate⟩

end KMeansSeeding
