import KMeansSeeding.Proofs.Norms
import KMeansSeeding.Proofs.Sums

/-!
# Searches in exact arithmetic

The same search runs in exact arithmetic, on rational components and with `⊤` for the infinite score.
There the squared distance by norms is the sum of the squares of the differences
(`normedDistance_eq_sumOfSquares`), and so the exact search finds the first of the closest points
(`Fold.exact_finds_closest`).

Computations in two arithmetics are compared by a relation of their numbers. What the operations keep
holds of whole squared distances (`Respects.normedDistance`).
-/

namespace KMeansSeeding

open List (Forall₂)

/-! ## Related arithmetics -/

section Related

variable {α β : Type} [Add α] [Mul α] [Sub α] [OfNat α 0] [OfNat α 2] [Add β] [Mul β] [Sub β]
  [OfNat β 0] [OfNat β 2] {R : α → β → Prop}

/-- The operations of a squared distance keep a relation. -/
structure Respects (R : α → β → Prop) : Prop where
  zero : R 0 0
  two : R 2 2
  add : ∀ a b c d, R a b → R c d → R (a + c) (b + d)
  sub : ∀ a b c d, R a b → R c d → R (a - c) (b - d)
  mul : ∀ a b c d, R a b → R c d → R (a * c) (b * d)

/-- Squared distances of related components are related. -/
theorem Respects.normedDistance (respects : Respects R) {κ κ' : Type} [Widen κ α] [Widen κ' β]
    {f : κ → κ'} (components : ∀ component, R (widen component) (widen (f component)))
    (center query : List κ) :
    R (normedDistance center query) (normedDistance (center.map f) (query.map f)) := by
  have widened (point : List κ) : Forall₂ R (point.map widen) ((point.map f).map widen) := by
    rw [List.forall₂_map_left_iff, List.map_map, List.forall₂_map_right_iff, List.forall₂_same]
    intro component _
    exact components component
  have dot (left right : List κ) :
      R (laneSum 4 (List.zipWith (· * ·) (left.map widen) (right.map widen)))
        (laneSum 4 (List.zipWith (· * ·) ((left.map f).map widen) ((right.map f).map widen))) :=
    laneSum_related respects.add respects.zero 4
      (forall₂_zipWith respects.mul (widened left) (widened right))
  have norm (point : List κ) : R (squaredNorm point) (squaredNorm (point.map f)) := by
    rw [squaredNorm_eq_laneSum, squaredNorm_eq_laneSum]
    exact dot point point
  apply respects.sub
  · exact respects.add _ _ _ _ (norm query) (norm center)
  · exact respects.mul _ _ _ _ respects.two (dot center query)

end Related

/-! ## Exact arithmetic -/

section Exact

/-- Rational numbers, and one score above them all. -/
instance : Widen ℚ (WithTop ℚ) := ⟨fun component => component⟩

instance : Unbounded (WithTop ℚ) := ⟨⊤⟩

instance : ScoreOrder (WithTop ℚ) where
  IsNumber _ := True
  isNumber_infinity := trivial
  isNumber_of_lt _ := ⟨trivial, trivial⟩
  lt_irrefl := lt_irrefl
  lt_trans := lt_trans
  lt_or_lt {a b _} ends _ := (lt_or_ge a b).imp_right fun le => le.trans_lt ends

@[simp] theorem widen_rat (component : ℚ) : (widen component : ℚ) = component := rfl

/-- The sum over all components of the squares of their differences. -/
def sumOfSquares (center query : List ℚ) : ℚ :=
  (List.zipWith (fun p q => (q - p) ^ 2) center query).sum

@[simp] theorem sumOfSquares_cons (p q : ℚ) (center query : List ℚ) :
    sumOfSquares (p :: center) (q :: query) = (q - p) ^ 2 + sumOfSquares center query := by
  simp [sumOfSquares]

theorem sumOfSquares_nonneg (center query : List ℚ) : 0 ≤ sumOfSquares center query := by
  induction center generalizing query with
  | nil => simp [sumOfSquares]
  | cons p center ih =>
    cases query with
    | nil => simp [sumOfSquares]
    | cons q query =>
      rw [sumOfSquares_cons]
      exact add_nonneg (sq_nonneg _) (ih query)

variable {center query : List ℚ} (same : center.length = query.length)

include same

theorem sumOfSquares_eq_zero_iff : sumOfSquares center query = 0 ↔ query = center := by
  induction center generalizing query with
  | nil =>
    obtain rfl := List.length_eq_zero_iff.mp same.symm
    simp [sumOfSquares]
  | cons p center ih =>
    cases query with
    | nil => cases same
    | cons q query =>
      rw [sumOfSquares_cons, add_eq_zero_iff_of_nonneg (sq_nonneg _) (sumOfSquares_nonneg _ _),
        sq_eq_zero_iff, sub_eq_zero, ih (Nat.succ.inj same), List.cons.injEq]

/-- In exact arithmetic, the squared distance by norms is the sum of squares. -/
theorem normedDistance_eq_sumOfSquares :
    normedDistance (α := ℚ) center query = sumOfSquares center query := by
  unfold normedDistance squaredNorm
  simp only [laneSum_eq_sum]
  induction center generalizing query with
  | nil =>
    obtain rfl := List.length_eq_zero_iff.mp same.symm
    simp [sumOfSquares]
  | cons p center ih =>
    cases query with
    | nil => cases same
    | cons q query =>
      have rest := ih (Nat.succ.inj same)
      rw [sumOfSquares_cons, ← rest]
      simp only [List.map_cons, List.zipWith_cons_cons, List.sum_cons, widen_rat]
      ring

/-- The infinite score does not get in the way of finite ones. -/
theorem normedDistance_withTop :
    normedDistance (α := WithTop ℚ) center query = sumOfSquares center query := by
  have respects : Respects fun (number : ℚ) (score : WithTop ℚ) => score = number := by
    refine ⟨rfl, rfl, ?_, ?_, ?_⟩
    · rintro a _ b _ rfl rfl
      exact (WithTop.coe_add a b).symm
    · rintro a _ b _ rfl rfl
      rfl
    · rintro a _ b _ rfl rfl
      exact (WithTop.coe_mul a b).symm
  have scores := respects.normedDistance (f := id) (fun _ => rfl) center query
  rw [List.map_id, List.map_id, normedDistance_eq_sumOfSquares same] at scores
  exact scores

end Exact

namespace Fold

/-- An outcome that is right: nothing if there are no points, and else the first of the closest points. -/
inductive Closest (points : List (List ℚ)) (query : List ℚ) : Nearest (WithTop ℚ) → Prop
  | nothing (none : points = []) : Closest points query .empty
  | found {position : ℕ} {center : List ℚ} (stored : points[position]? = some center)
      (least : ∀ other ∈ points, sumOfSquares center query ≤ sumOfSquares other query)
      (first : ∀ earlier < position, ∀ other, points[earlier]? = some other →
        sumOfSquares center query < sumOfSquares other query) :
      Closest points query ⟨sumOfSquares center query, some position⟩

variable {points : List (List ℚ)} {query : List ℚ}

/-- The first least score is that of the first of the closest points, if scores are squared distances. -/
theorem closest_of_firstLeast {score : ℕ → WithTop ℚ} {nearest : Nearest (WithTop ℚ)}
    (scored : ∀ position center, points[position]? = some center →
      score position = sumOfSquares center query)
    (outcome : Nearest.FirstLeast (List.range points.length) score nearest) :
    Closest points query nearest := by
  cases outcome with
  | nothing unbounded =>
    apply Closest.nothing
    by_contra some
    have inside : 0 < points.length := List.length_pos_iff.mpr some
    apply unbounded 0 (List.mem_range.mpr inside)
    rw [scored 0 _ (List.getElem?_eq_getElem inside)]
    exact WithTop.coe_lt_top _
  | @found position member bounded least first =>
    have stored := List.getElem?_eq_getElem (List.mem_range.mp member)
    rw [scored position _ stored] at least first ⊢
    apply Closest.found stored
    · intro other among
      obtain ⟨place, there, rfl⟩ := List.getElem_of_mem among
      have above := least place (List.mem_range.mpr there)
      rw [scored place _ (List.getElem?_eq_getElem there)] at above
      exact WithTop.coe_le_coe.mp (not_lt.mp above)
    · intro earlier before other there
      have inside := (List.getElem?_eq_some_iff.mp there).1
      have above := first earlier (List.mem_range.mpr inside) before
      rw [scored earlier other there] at above
      exact WithTop.coe_lt_coe.mp (above (WithTop.coe_lt_top _))

/-- The exact search in exact arithmetic finds the first of the closest points. -/
theorem exact_finds_closest (fits : (ofPoints points : Fold ℚ (WithTop ℚ)).Fits query) :
    ∃ nearest, (ofPoints points : Fold ℚ (WithTop ℚ)).exact query (squaredNorm query) = .ok nearest ∧
      Closest points query nearest := by
  refine ⟨_, exact_eq_ok fits _, ?_⟩
  rw [size_ofPoints]
  apply closest_of_firstLeast _ (Nearest.firstLeast_among List.pairwise_lt_range)
  intro position center stored
  rw [Fits, points_ofPoints] at fits
  rw [score_normed stored, normedDistance_withTop (fits center (List.mem_of_getElem? stored))]

end Fold

end KMeansSeeding
