import KMeansSeeding.Proofs.Binary.Exact
import KMeansSeeding.Proofs.Exactness

/-!
# Searches without rounding

Double precision computes what exact arithmetic does as long as it does not round. To say so, the same
computation is run on numbers that watch for rounding: if every product, sum and difference on the way to
a score is representable (`Unrounded`), the score stands for the exact squared distance, and a search of
such scores ends where it does in exact arithmetic (`Fold.exact_of_unrounded`).

Whole components of a bounded size are not rounded (`unrounded_of_whole`): every number on the way is
whole, and at most four times the dimension times the square of the bound.
-/

namespace KMeansSeeding

/-! ## Arithmetic that watches for rounding -/

/-- A number that is computed exactly, and whether double precision would have kept it on the way. -/
structure Watched where
  number : ℚ
  Kept : Prop

namespace Watched

/-- The result of an operation is kept if both operands are and the result is representable. -/
def result (a b : Watched) (number : ℚ) : Watched :=
  ⟨number, a.Kept ∧ b.Kept ∧ Representable number⟩

instance : Add Watched := ⟨fun a b => result a b (a.number + b.number)⟩

instance : Sub Watched := ⟨fun a b => result a b (a.number - b.number)⟩

instance : Mul Watched := ⟨fun a b => result a b (a.number * b.number)⟩

instance : OfNat Watched 0 := ⟨⟨0, True⟩⟩

instance : OfNat Watched 2 := ⟨⟨2, True⟩⟩

instance : Widen Float32 Watched :=
  ⟨fun component => ⟨numberOfSingle component, component.isFinite = true⟩⟩

/-- Whatever is kept is what double precision computes. -/
theorem respects_double :
    Respects fun (value : Float) (watched : Watched) => watched.Kept → StandsFor value watched.number := by
  constructor
  · intro _
    exact standsFor_zero
  · intro _
    exact standsFor_two
  · intro x a y b hx hy kept
    exact (hx kept.1).add (hy kept.2.1) kept.2.2
  · intro x a y b hx hy kept
    exact (hx kept.1).sub (hy kept.2.1) kept.2.2
  · intro x a y b hx hy kept
    exact (hx kept.1).mul (hy kept.2.1) kept.2.2

/-- Watching does not change the numbers. -/
theorem respects_number : Respects fun (watched : Watched) (number : ℚ) => watched.number = number := by
  refine ⟨rfl, rfl, ?_, ?_, ?_⟩ <;> · rintro a _ b _ rfl rfl; rfl

end Watched

/-- The numbers that the components of a point are. -/
def Point.numbers (point : Point) : List ℚ :=
  point.map numberOfSingle

/-- All components are finite, and every product, sum and difference on the way to the squared distance
of two points is representable. -/
def Unrounded (center query : Point) : Prop :=
  (normedDistance center query : Watched).Kept

/-- Without rounding, double precision computes the sum of squares. -/
theorem Unrounded.standsFor {center query : Point} (unrounded : Unrounded center query)
    (same : center.length = query.length) :
    StandsFor (normedDistance center query) (sumOfSquares center.numbers query.numbers) := by
  have watched := Watched.respects_double.normedDistance (f := id)
    (fun _ finite => standsFor_widenSingle finite) center query
  rw [List.map_id, List.map_id] at watched
  have stands := watched unrounded
  rw [Watched.respects_number.normedDistance (f := numberOfSingle) (fun _ => rfl) center query]
    at stands
  rw [← normedDistance_eq_sumOfSquares (by simpa [Point.numbers] using same)]
  exact stands

/-! ## Scores that stand for distances -/

/-- The score of a distance; the infinite score is the one of no distance. -/
inductive StandsForScore : Float → WithTop ℚ → Prop
  | number {value : Float} {number : ℚ} (h : StandsFor value number) : StandsForScore value number
  | infinity : StandsForScore Unbounded.infinity ⊤

theorem StandsForScore.lt_iff (x : Float) (a : WithTop ℚ) (y : Float) (b : WithTop ℚ)
    (hx : StandsForScore x a) (hy : StandsForScore y b) : x < y ↔ a < b := by
  cases hx with
  | number hx =>
    cases hy with
    | number hy => rw [hx.lt_iff hy, WithTop.coe_lt_coe]
    | infinity => exact iff_of_true (lt_infinity hx.finite) (WithTop.coe_lt_top _)
  | infinity =>
    cases hy with
    | number hy =>
      apply iff_of_false _ not_top_lt
      intro below
      exact ScoreOrder.lt_irrefl _ (ScoreOrder.lt_trans below (lt_infinity hy.finite))
    | infinity => exact iff_of_false (ScoreOrder.lt_irrefl _) (lt_irrefl _)

namespace Nearest

variable {α β : Type} [LT α] [DecidableLT α] [LT β] [DecidableLT β] {R : α → β → Prop}

/-- Outcomes with the same position and related distances. -/
structure Related (R : α → β → Prop) (nearest : Nearest α) (other : Nearest β) : Prop where
  distance : R nearest.distance other.distance
  closest : nearest.closest = other.closest

variable (lt_iff : ∀ a b c d, R a b → R c d → (a < c ↔ b < d))

include lt_iff

theorem Related.improve {best : Nearest α} {best' : Nearest β} (h : Related R best best')
    (position : ℕ) {score : α} {score' : β} (hscore : R score score') :
    Related R (best.improve (position, score)) (best'.improve (position, score')) := by
  unfold Nearest.improve
  by_cases better : score < best.distance
  · rw [if_pos better, if_pos ((lt_iff _ _ _ _ hscore h.distance).mp better)]
    exact ⟨hscore, rfl⟩
  · rw [if_neg better, if_neg fun better' => better ((lt_iff _ _ _ _ hscore h.distance).mpr better')]
    exact h

/-- Searches of related scores have related outcomes. -/
theorem related_among [Unbounded α] [Unbounded β] (infinity : R Unbounded.infinity Unbounded.infinity)
    {positions : List ℕ} {score : ℕ → α} {score' : ℕ → β}
    (h : ∀ position ∈ positions, R (score position) (score' position)) :
    Related R (among (positions.map fun position => (position, score position)))
      (among (positions.map fun position => (position, score' position))) := by
  induction positions using List.reverseRecOn with
  | nil => exact ⟨infinity, rfl⟩
  | append_singleton positions last ih =>
    have before := ih fun position member => h position (List.mem_append_left _ member)
    simp only [among, List.map_append, List.foldl_append, List.map_cons, List.map_nil, List.foldl_cons,
      List.foldl_nil] at before ⊢
    exact before.improve lt_iff last (h last (by simp))

end Nearest

namespace Fold

variable {points : List Point} {query : Point}

/-- Without rounding, the exact search in double precision finds what it finds in exact arithmetic. -/
theorem exact_of_unrounded (fits : (ofPoints points : Fold Float32 Float).Fits query)
    (unrounded : ∀ point ∈ points, Unrounded point query) :
    ∃ nearest least, (ofPoints points : Fold Float32 Float).exact query query.norm = .ok nearest ∧
      Closest (points.map Point.numbers) query.numbers least ∧
      Nearest.Related StandsForScore nearest least := by
  rw [Fits, points_ofPoints] at fits
  have fits' : (ofPoints (points.map Point.numbers) : Fold ℚ (WithTop ℚ)).Fits query.numbers := by
    unfold Fits
    rw [points_ofPoints]
    intro numbers among
    obtain ⟨point, member, rfl⟩ := List.mem_map.mp among
    simpa [Point.numbers] using fits point member
  obtain ⟨least, found, closest⟩ := exact_finds_closest fits'
  rw [exact_eq_ok fits', Except.ok.injEq] at found
  refine ⟨_, least, exact_eq_ok (by rwa [Fits, points_ofPoints]) _, closest, ?_⟩
  unfold nearestAt at found ⊢
  rw [size_ofPoints, List.length_map] at found
  rw [size_ofPoints, ← found]
  apply Nearest.related_among StandsForScore.lt_iff .infinity
  intro position member
  obtain ⟨center, stored⟩ : ∃ center, points[position]? = some center :=
    ⟨_, List.getElem?_eq_getElem (List.mem_range.mp member)⟩
  have stored' : (points.map Point.numbers)[position]? = some center.numbers := by
    rw [List.getElem?_map, stored]
    rfl
  have among := List.mem_of_getElem? stored
  have same := fits center among
  rw [Point.norm, score_normed stored, score_normed stored',
    normedDistance_withTop (by simpa [Point.numbers] using same)]
  exact .number ((unrounded center among).standsFor same)

end Fold

/-! ## Whole components -/

/-- All components are finite and whole, and no larger than `bound`. -/
def Point.Whole (bound : ℕ) (point : Point) : Prop :=
  ∀ component ∈ point, component.isFinite = true ∧
    ∃ n : ℤ, numberOfSingle component = n ∧ |n| ≤ bound

namespace Watched

/-- A whole number of bounded magnitude, which double precision keeps as long as the bound is at most
`2 ^ 53`. -/
structure Bounded (watched : Watched) (magnitude : ℚ) : Prop where
  whole : ∃ n : ℤ, watched.number = n
  le : |watched.number| ≤ magnitude
  kept : magnitude ≤ 2 ^ 53 → watched.Kept

theorem bounded_result {a b : Watched} {number magnitude : ℚ} (whole : ∃ n : ℤ, number = n)
    (le : |number| ≤ magnitude) (kept : magnitude ≤ 2 ^ 53 → a.Kept ∧ b.Kept) :
    Bounded (result a b number) magnitude := by
  refine ⟨whole, le, fun small => ⟨(kept small).1, (kept small).2, ?_⟩⟩
  obtain ⟨n, rfl⟩ := whole
  exact representable_intCast (le.trans small)

theorem bounded_zero : Bounded 0 0 :=
  ⟨⟨0, Int.cast_zero.symm⟩, abs_zero.le, fun _ => trivial⟩

namespace Bounded

variable {a b : Watched} {m k : ℚ} (ha : Bounded a m) (hb : Bounded b k)

include ha

theorem nonneg : 0 ≤ m :=
  (abs_nonneg _).trans ha.le

theorem two_mul : Bounded (2 * a) (2 * m) := by
  apply bounded_result
  · obtain ⟨i, hi⟩ := ha.whole
    exact ⟨2 * i, by rw [hi]; push_cast; rfl⟩
  · rw [abs_mul]
    exact mul_le_mul_of_nonneg_left ha.le (abs_nonneg 2)
  · intro small
    have := ha.nonneg
    exact ⟨trivial, ha.kept (by linarith)⟩

include hb

theorem both_kept (small : m + k ≤ 2 ^ 53) : a.Kept ∧ b.Kept := by
  have := ha.nonneg
  have := hb.nonneg
  exact ⟨ha.kept (by linarith), hb.kept (by linarith)⟩

theorem add : Bounded (a + b) (m + k) := by
  apply bounded_result _ _ (both_kept ha hb)
  · obtain ⟨i, hi⟩ := ha.whole
    obtain ⟨j, hj⟩ := hb.whole
    exact ⟨i + j, by rw [hi, hj]; push_cast; rfl⟩
  · exact (abs_add_le _ _).trans (add_le_add ha.le hb.le)

theorem sub : Bounded (a - b) (m + k) := by
  apply bounded_result _ _ (both_kept ha hb)
  · obtain ⟨i, hi⟩ := ha.whole
    obtain ⟨j, hj⟩ := hb.whole
    exact ⟨i - j, by rw [hi, hj]; push_cast; rfl⟩
  · exact (abs_sub _ _).trans (add_le_add ha.le hb.le)

end Bounded

variable {bound : ℕ} {left right : Point} (hleft : left.Whole bound) (hright : right.Whole bound)

include hleft hright

/-- The products of whole components are bounded by the square of their bound. -/
theorem bounded_products (same : left.length = right.length) :
    List.Forall₂ Bounded
      (List.zipWith (· * ·) (left.map (widen (α := Watched))) (right.map (widen (α := Watched))))
      (List.replicate right.length (bound ^ 2 : ℚ)) := by
  induction left generalizing right with
  | nil =>
    obtain rfl := List.length_eq_zero_iff.mp same.symm
    exact .nil
  | cons a left ih =>
    cases right with
    | nil => cases same
    | cons b right =>
      rw [Point.Whole, List.forall_mem_cons] at hleft hright
      obtain ⟨⟨finite_a, i, hi, le_i⟩, hleft⟩ := hleft
      obtain ⟨⟨finite_b, j, hj, le_j⟩, hright⟩ := hright
      refine .cons ?_ (ih hleft hright (Nat.succ.inj same))
      apply bounded_result
      · exact ⟨i * j, by push_cast; exact congrArg₂ (· * ·) hi hj⟩
      · show |numberOfSingle a * numberOfSingle b| ≤ _
        rw [hi, hj, ← Int.cast_mul, ← Int.cast_abs, abs_mul, pow_two]
        exact_mod_cast mul_le_mul le_i le_j (abs_nonneg j) (Nat.cast_nonneg _)
      · intro _
        exact ⟨finite_a, finite_b⟩

/-- A dot product of whole components is bounded. -/
theorem bounded_dot (same : left.length = right.length) :
    Bounded (laneSum 4
      (List.zipWith (· * ·) (left.map (widen (α := Watched))) (right.map (widen (α := Watched)))))
      (right.length * bound ^ 2) := by
  have sum := laneSum_related (fun _ _ _ _ => Bounded.add) bounded_zero 4
    (bounded_products hleft hright same)
  rw [laneSum_eq_sum, List.sum_replicate, nsmul_eq_mul] at sum
  exact sum

end Watched

/-- Whole components of bounded size are not rounded, as long as a quarter of `2 ^ 53` bounds the squares
of all dimensions together. -/
theorem unrounded_of_whole {bound : ℕ} {center query : Point} (same : center.length = query.length)
    (hcenter : center.Whole bound) (hquery : query.Whole bound)
    (small : query.length * bound ^ 2 ≤ 2 ^ 51) : Unrounded center query := by
  have dot := Watched.bounded_dot hcenter hquery same
  have norm {point : Point} (h : point.Whole bound) :
      Watched.Bounded (squaredNorm point) (point.length * bound ^ 2) := by
    rw [squaredNorm_eq_laneSum]
    exact Watched.bounded_dot h h rfl
  apply (((norm hquery).add (norm hcenter)).sub dot.two_mul).kept
  have small : (query.length * bound ^ 2 : ℚ) ≤ 2 ^ 51 := by exact_mod_cast small
  rw [same]
  linarith

/-- In exact arithmetic, the squared distance by norms is the sum of the squares of the differences. So it
is not below zero, it is zero exactly for equal points, and the exact search finds the first of the closest
points. As long as nothing is rounded, double precision computes the same distances and finds the same
position. That holds for whole components up to any bound whose square, times the dimension, is at most
`2 ^ 51`. -/
theorem Fold.exact_without_rounding :
    (∀ (points : List (List ℚ)) (query : List ℚ),
      let fold : Fold ℚ (WithTop ℚ) := .ofPoints points
      (∀ position center, points[position]? = some center → center.length = query.length →
        fold.squaredDistance query (squaredNorm query) position = .ok (sumOfSquares center query) ∧
        0 ≤ sumOfSquares center query ∧ (sumOfSquares center query = 0 ↔ query = center)) ∧
      (fold.Fits query → ∃ nearest,
        fold.exact query (squaredNorm query) = .ok nearest ∧ Closest points query nearest)) ∧
    (∀ (points : List Point) (query : Point),
      let fold : Fold Float32 Float := .ofPoints points
      (∀ position center, points[position]? = some center → center.length = query.length →
        Unrounded center query → ∃ distance,
          fold.squaredDistance query query.norm position = .ok distance ∧
          StandsFor distance (sumOfSquares center.numbers query.numbers)) ∧
      (fold.Fits query → (∀ center ∈ points, Unrounded center query) → ∃ nearest least,
        fold.exact query query.norm = .ok nearest ∧
        Closest (points.map Point.numbers) query.numbers least ∧
        Nearest.Related StandsForScore nearest least)) ∧
    ∀ (bound : ℕ) (center query : Point), center.length = query.length → center.Whole bound →
      query.Whole bound → query.length * bound ^ 2 ≤ 2 ^ 51 → Unrounded center query := by
  refine ⟨?_, ?_, ?_⟩
  · intro points query fold
    refine ⟨?_, exact_finds_closest⟩
    intro position center stored same
    refine ⟨?_, sumOfSquares_nonneg center query, sumOfSquares_eq_zero_iff same⟩
    rw [squaredDistance_normed stored same, normedDistance_withTop same]
  · intro points query fold
    refine ⟨?_, exact_of_unrounded⟩
    intro position center stored same unrounded
    exact ⟨_, squaredDistance_normed stored same, unrounded.standsFor same⟩
  · intro bound center query same hcenter hquery small
    exact unrounded_of_whole same hcenter hquery small

/-- The second and the third center are the closest ones, and the search finds the second. With other
components, the same holds in exact arithmetic. -/
theorem Fold.exact_without_rounding_tie :
    let points : List Point := [[2, 0, 1, 0, 2], [0, 0, 1, 0, 1], [1, 1, 1, 0, 1]]
    let query : Point := [1, 0, 1, 0, 1]
    let fold : Fold Float32 Float := .ofPoints points
    let thirds : List (List ℚ) := [[1 / 3, 1], [1 / 3, 0], [-1 / 3, 0]]
    let exactFold : Fold ℚ (WithTop ℚ) := .ofPoints thirds
    fold.Fits query ∧ (∀ center ∈ points, center.Whole 2) ∧ query.Whole 2 ∧
    (∀ center ∈ points, Unrounded center query) ∧ fold.exact query query.norm = .ok ⟨1, some 1⟩ ∧
    (∃ distance, fold.squaredDistance query query.norm 0 = .ok distance ∧
      StandsFor distance (sumOfSquares (Point.numbers [2, 0, 1, 0, 2]) query.numbers)) ∧
    (∃ least, Closest (points.map Point.numbers) query.numbers least ∧
      Nearest.Related StandsForScore ⟨1, some 1⟩ least) ∧
    exactFold.Fits [0, 0] ∧
    exactFold.squaredDistance [0, 0] (squaredNorm [(0 : ℚ), 0]) 0
      = .ok (sumOfSquares [1 / 3, 1] [0, 0]) ∧
    exactFold.exact [0, 0] (squaredNorm [(0 : ℚ), 0]) = .ok ⟨(1 / 9 : ℚ), some 1⟩ ∧
    Closest thirds [0, 0] ⟨(1 / 9 : ℚ), some 1⟩ := by
  intro points query fold thirds exactFold
  obtain ⟨exact, unrounded, whole⟩ := exact_without_rounding
  have small {component : Float32} {significand : ℕ} {exponent : ℤ} (n : ℕ)
      (reads : Reading.ofSingle component = .finite false significand exponent)
      (number : (significand : ℚ) * 2 ^ exponent = n) (le : n ≤ 2) :
      component.isFinite = true ∧ ∃ n : ℤ, numberOfSingle component = n ∧ |n| ≤ (2 : ℕ) := by
    refine ⟨isFinite_iff_ofSingle.mpr ⟨_, _, _, reads⟩, n, ?_, by simpa using le⟩
    rw [numberOfSingle, reads]
    simpa [Reading.number] using number
  have zero := small 0 (show Reading.ofSingle 0 = .finite false 0 (-149) by decide +kernel)
    (by norm_num) (by decide)
  have one := small 1 (show Reading.ofSingle 1 = .finite false (2 ^ 23) (-23) by decide +kernel)
    (by norm_num) (by decide)
  have two := small 2 (show Reading.ofSingle 2 = .finite false (2 ^ 23) (-22) by decide +kernel)
    (by norm_num) (by decide)
  have fits : fold.Fits query := by
    rw [Fits, points_ofPoints]
    decide
  have none : Point.Whole 2 [] := List.forall_mem_nil _
  have wholes : ∀ center ∈ points, center.Whole 2 := by
    simp only [points, Point.Whole, List.forall_mem_cons]
    exact ⟨⟨two, zero, one, zero, two, none⟩, ⟨zero, zero, one, zero, one, none⟩,
      ⟨one, one, one, zero, one, none⟩, List.forall_mem_nil _⟩
  have query_whole : query.Whole 2 := by
    simp only [query, Point.Whole, List.forall_mem_cons]
    exact ⟨one, zero, one, zero, one, none⟩
  have kept : ∀ center ∈ points, Unrounded center query := by
    intro center member
    have same : center.length = query.length := by
      rw [Fits, points_ofPoints] at fits
      exact fits center member
    exact whole 2 center query same (wholes center member) query_whole (by decide)
  have found : fold.exact query query.norm = .ok ⟨1, some 1⟩ := by decide +kernel
  obtain ⟨distances, search⟩ := unrounded points query
  obtain ⟨nearest, least, found', closest, related⟩ := search fits kept
  obtain rfl := Except.ok.inj (found.symm.trans found')
  have exactFits : exactFold.Fits [0, 0] := by
    rw [Fits, points_ofPoints]
    decide
  have exactFound : exactFold.exact [0, 0] (squaredNorm [(0 : ℚ), 0]) = .ok ⟨(1 / 9 : ℚ), some 1⟩ := by
    decide +kernel
  obtain ⟨exactDistances, exactSearch⟩ := exact thirds [0, 0]
  obtain ⟨exactNearest, exactFound', exactClosest⟩ := exactSearch exactFits
  obtain rfl := Except.ok.inj (exactFound.symm.trans exactFound')
  exact ⟨fits, wholes, query_whole, kept, found,
    distances 0 _ rfl (by decide) (kept _ List.mem_cons_self), ⟨least, closest, related⟩, exactFits,
    (exactDistances 0 _ rfl rfl).1, exactFound, exactClosest⟩

end KMeansSeeding
