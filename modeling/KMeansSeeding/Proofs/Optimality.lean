import KMeansSeeding.Proofs.Comparison

/-!
# What the searches find

Exact search looks at all positions, approximate search at the leading ones by sketch distance. Of
what they look at, both find the smallest position that is below infinity and that no other is below
(`Fold.searches_find`). Being below infinity has to be asked for: nothing is below a score that is not
a number, and yet it is never found (`Fold.exact_passes_over_nan`). A larger shortlist looks at more
positions, and so never finds worse (`Fold.approximate_larger_shortlist`).
-/

namespace KMeansSeeding

/-! ## The least score -/

/-- What a search finds by the scores of the positions that it looks at: nothing exactly if no score is
below infinity, and else the smallest position that is below infinity and that no other is below. -/
structure Nearest.Finds {α : Type} [Unbounded α] [LT α] (positions : List ℕ) (score : ℕ → α)
    (nearest : Nearest α) : Prop where
  empty_iff : nearest = .empty ↔ ∀ position ∈ positions, ¬ score position < Unbounded.infinity
  least : nearest ≠ .empty → ∃ position,
    IsLeast {position | position ∈ positions ∧ score position < Unbounded.infinity ∧
      ∀ other ∈ positions, ¬ score other < score position} position ∧
    nearest = ⟨score position, some position⟩

theorem Nearest.FirstLeast.finds {α : Type} [Unbounded α] [LT α] {positions : List ℕ} {score : ℕ → α}
    {nearest : Nearest α} (h : FirstLeast positions score nearest) :
    Finds positions score nearest := by
  cases h with
  | nothing unbounded => exact ⟨⟨fun _ => unbounded, fun _ => rfl⟩, fun some => absurd rfl some⟩
  | @found position member bounded least first =>
    refine ⟨⟨fun none => ?_, fun unbounded => absurd bounded (unbounded position member)⟩, fun _ => ?_⟩
    · exact absurd (congrArg Nearest.closest none) (Option.some_ne_none position)
    refine ⟨position, ⟨⟨member, bounded, least⟩, ?_⟩, rfl⟩
    rintro other ⟨hother, below, lowest⟩
    by_contra earlier
    -- the position that was found is below every earlier one that is below infinity
    exact lowest position member (first other hother (Nat.lt_of_not_le earlier) below)

namespace Fold

section Scored

variable {κ α : Type} [Widen κ α] [Add α] [Mul α] [Sub α] [OfNat α 0] [OfNat α 2] [Unbounded α] [LT α]
  [DecidableLT α] [ScoreOrder α] {fold : Fold κ α} {query : List κ} {queryNorm : α} {score : ℕ → α}

/-- A search of ascending positions whose scores are known finds the least. -/
theorem closestAmong_finds {positions : List ℕ} (ascending : positions.Pairwise (· < ·))
    (scored : ∀ position ∈ positions,
      fold.squaredDistance query queryNorm position = .ok (score position)) :
    ∃ nearest, fold.closestAmong query queryNorm positions = .ok nearest ∧
      Nearest.Finds positions score nearest := by
  refine ⟨_, ?_, (Nearest.firstLeast_among ascending).finds⟩
  rw [closestAmong, scores_eq_ok_of_forall scored]
  rfl

/-- Exact search finds the least score of all positions. Approximate search finds the least score of
its shortlist, which is led by the distances of the sketches to the query's. -/
theorem searches_find
    (scored : ∀ position < fold.size,
      fold.squaredDistance query queryNorm position = .ok (score position)) :
    (∃ nearest, fold.exact query queryNorm = .ok nearest ∧
      Nearest.Finds (List.range fold.size) score nearest) ∧
    ∀ (sketches : List Sketch) (querySketch : Sketch) (samples : ℕ),
      fold.sketched sketches querySketch = .ok () →
      Shortlist.Leading samples (sketches.map querySketch.hamming)
        (querySketch.shortlist sketches samples).positions ∧
      (querySketch.shortlist sketches samples).positions.length = min samples fold.size ∧
      ∃ nearest, fold.approximate sketches query queryNorm querySketch samples = .ok nearest ∧
        Nearest.Finds (querySketch.shortlist sketches samples).positions score nearest := by
  constructor
  · exact closestAmong_finds List.pairwise_lt_range fun position member =>
      scored position (List.mem_range.mp member)
  · intro sketches querySketch samples aligned
    have leading := querySketch.leading_shortlist sketches samples
    have count : (sketches.map querySketch.hamming).length = fold.size := by
      rw [List.length_map, (sketched_eq_ok_iff.mp aligned).1]
    obtain ⟨nearest, found, finds⟩ := closestAmong_finds leading.ascending
      fun position member => scored position (count ▸ leading.inside position member)
    refine ⟨leading, ?_, nearest, ?_, finds⟩
    · rw [leading.length_eq, count]
    · rw [approximate, aligned]
      exact found

end Scored

/-- The first of three centers has a score that is not a number, and the other two score alike. The
shortlist of two passes over the second center, whose sketch is farther from the query's than that of
the third. -/
theorem searches_find_behind_nan :
    let fold : Fold Float32 Float := .ofPoints [[Float32.ofBits 0x7f800000], [-1], [1]]
    let sketches : List Sketch := [.ofSigns 2 [], .ofSigns 2 [true, true], .ofSigns 2 [true]]
    (∃ nearest, fold.exact [0] 0 = .ok nearest ∧
      Nearest.Finds (List.range 3) (fold.score [0] 0) nearest) ∧
    Shortlist.Leading 2 [0, 2, 1] [0, 2] ∧
    ∃ nearest, fold.approximate sketches [0] 0 (.ofSigns 2 []) 2 = .ok nearest ∧
      Nearest.Finds [0, 2] (fold.score [0] 0) nearest := by
  intro fold sketches
  have fits : fold.Fits ([0] : Point) := by
    rw [Fits, points_ofPoints]
    decide
  obtain ⟨exact, approximate⟩ := searches_find fun position inside =>
    squaredDistance_eq_ok fits 0 inside
  obtain ⟨leading, -, found⟩ := approximate sketches (.ofSigns 2 []) 2 (by decide)
  have distances : sketches.map (Sketch.ofSigns 2 []).hamming = [0, 2, 1] := by decide +kernel
  have shortlisted : ((Sketch.ofSigns 2 []).shortlist sketches 2).positions = [0, 2] := by cbv
  rw [distances, shortlisted] at leading
  rw [shortlisted] at found
  exact ⟨exact, leading, found⟩

/-- Nothing is below the score of the first position, which is not a number; still the second one is
found. -/
theorem exact_passes_over_nan :
    let fold : Fold Float32 Float := .ofPoints [[Float32.ofBits 0x7f800000], [1]]
    ∃ (score : ℕ → Float) (nearest : Nearest Float),
      (∀ position < fold.size, fold.squaredDistance [0] 0 position = .ok (score position)) ∧
      fold.exact [0] 0 = .ok nearest ∧
      (∃ position < fold.size, score position < Unbounded.infinity) ∧
      ¬ ∃ position,
        IsLeast {position | position < fold.size ∧ ∀ other < fold.size, ¬ score other < score position}
          position ∧
        nearest = ⟨score position, some position⟩ := by
  intro fold
  have fits : fold.Fits ([0] : Point) := by
    rw [Fits, points_ofPoints]
    decide
  have found : fold.nearestAt [0] 0 (List.range fold.size) = ⟨1, some 1⟩ := by decide +kernel
  refine ⟨fold.score [0] 0, ⟨1, some 1⟩, fun position inside => squaredDistance_eq_ok fits 0 inside, ?_,
    ⟨1, by decide +kernel⟩, ?_⟩
  · rw [exact_eq_ok fits, found]
  · rintro ⟨position, ⟨-, lowest⟩, same⟩
    obtain rfl : 1 = position := Option.some.inj (congrArg Nearest.closest same)
    -- no score is below the first one either, so the second position is not the smallest
    have first : 1 ≤ 0 := lowest ⟨by decide, by decide +kernel⟩
    exact absurd first (by decide)

/-! ## Larger shortlists -/

/-- A larger shortlist holds all positions of a smaller one. So its outcome is no farther, does not come
later among equals, and is there if that of the smaller one is. -/
theorem approximate_larger_shortlist (fold : Fold Float32 Float) (sketches : List Sketch)
    (query : Point) (queryNorm : Float) (querySketch : Sketch) (fits : fold.Fits query)
    (aligned : fold.sketched sketches querySketch = .ok ()) {samples more : ℕ}
    (larger : samples ≤ more) :
    (querySketch.shortlist sketches samples).positions
        ⊆ (querySketch.shortlist sketches more).positions ∧
    ∃ few many,
      fold.approximate sketches query queryNorm querySketch samples = .ok few ∧
      fold.approximate sketches query queryNorm querySketch more = .ok many ∧
      many.distance ≤ few.distance ∧
      ((many.distance == few.distance) = true →
        ∀ p q, many.closest = some p → few.closest = some q → p ≤ q) ∧
      (few ≠ .empty → many ≠ .empty) := by
  have ascending (samples : ℕ) := (querySketch.leading_shortlist sketches samples).ascending
  have subset : (querySketch.shortlist sketches samples).positions ⊆ _ :=
    querySketch.shortlist_subset larger
  have compared := fold.compared_of_subset query queryNorm (ascending samples) (ascending more) subset
  refine ⟨subset, _, _, approximate_eq_ok fits aligned queryNorm samples,
    approximate_eq_ok fits aligned queryNorm more, compared.distance_le, compared.closest_le, ?_⟩
  intro some none
  rw [← none, ne_eq, Nearest.eq_iff_toBits, compared.same_iff] at some
  exact some (.inl none)

/-- The nearest of three centers has the sketch that is farthest from the query's, so that only a
shortlist of three holds it. -/
theorem approximate_larger_shortlist_farthest_sketch :
    let fold : Fold Float32 Float := .ofPoints [[1], [Float32.ofBits 0x7f800000], [2]]
    let sketches : List Sketch := [.ofSigns 2 [true, true], .ofSigns 2 [], .ofSigns 2 [true]]
    fold.Fits [0] ∧ fold.sketched sketches (.ofSigns 2 []) = .ok () ∧
    [1, 2] ⊆ [0, 1, 2] ∧
    ∃ few many,
      fold.approximate sketches [0] 0 (.ofSigns 2 []) 2 = .ok few ∧
      fold.approximate sketches [0] 0 (.ofSigns 2 []) 3 = .ok many ∧
      many.distance ≤ few.distance ∧
      ((many.distance == few.distance) = true →
        ∀ p q, many.closest = some p → few.closest = some q → p ≤ q) ∧
      (few ≠ .empty → many ≠ .empty) := by
  intro fold sketches
  have fits : fold.Fits ([0] : Point) := by
    rw [Fits, points_ofPoints]
    decide
  have aligned : fold.sketched sketches (.ofSigns 2 []) = .ok () := by decide
  have compared := fold.approximate_larger_shortlist sketches [0] 0 (.ofSigns 2 []) fits aligned
    (show 2 ≤ 3 by decide)
  have small : ((Sketch.ofSigns 2 []).shortlist sketches 2).positions = [1, 2] := by cbv
  have large : ((Sketch.ofSigns 2 []).shortlist sketches 3).positions = [0, 1, 2] := by cbv
  rw [small, large] at compared
  exact ⟨fits, aligned, compared⟩

end Fold

end KMeansSeeding
