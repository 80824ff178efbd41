import KMeansSeeding.Proofs.Optimality

/-!
# Exact search in any order

The score of a point does not depend on its position. So exact searches of the same points in two orders
look at the same scores, and their outcomes can only differ among points of equal score: the distances
are equal in value, and where one point alone has the least score, both searches find it
(`Fold.exact_reordered`). Scores that are not numbers are passed over wherever they stand.
-/

namespace KMeansSeeding

/-- Points in another order: at each position stands the point that stood where `order` says. -/
def reordered (points : List Point) (order : Equiv.Perm (Fin points.length)) : List Point :=
  List.ofFn fun position => points[order position]

theorem perm_reordered (points : List Point) (order : Equiv.Perm (Fin points.length)) :
    (reordered points order).Perm points := by
  have permuted := order.ofFn_comp_perm fun position => points[position]
  rwa [show List.ofFn (fun position : Fin points.length => points[position]) = points from
    List.ofFn_getElem] at permuted

theorem getElem?_reordered (points : List Point) (order : Equiv.Perm (Fin points.length))
    (position : Fin points.length) :
    (reordered points order)[(position : ℕ)]? = points[(order position : ℕ)]? := by
  rw [reordered, List.getElem?_ofFn, dif_pos position.isLt]
  exact (List.getElem?_eq_getElem (order position).isLt).symm

namespace Nearest.FirstLeast

variable {positions others : List ℕ} {score score' : ℕ → Float} {left right : Nearest Float}

/-- Outcomes over the same scores have distances of equal value. -/
theorem distance_beq (h : FirstLeast positions score left) (h' : FirstLeast others score' right)
    (forth : ∀ p ∈ positions, ∃ q ∈ others, score' q = score p)
    (back : ∀ q ∈ others, ∃ p ∈ positions, score p = score' q) :
    (left.distance == right.distance) = true :=
  beq_of_not_lt h.isNumber h'.isNumber (h'.not_lt_of_scores h forth) (h.not_lt_of_scores h' back)

/-- Outcomes over the same scores are empty together. -/
theorem eq_empty_iff (h : FirstLeast positions score left) (h' : FirstLeast others score' right)
    (forth : ∀ p ∈ positions, ∃ q ∈ others, score' q = score p)
    (back : ∀ q ∈ others, ∃ p ∈ positions, score p = score' q) : left = .empty ↔ right = .empty := by
  rw [h.finds.empty_iff, h'.finds.empty_iff]
  constructor
  · intro unbounded q member
    obtain ⟨p, looked, same⟩ := back q member
    exact same ▸ unbounded p looked
  · intro unbounded p member
    obtain ⟨q, looked, same⟩ := forth p member
    exact same ▸ unbounded q looked

end Nearest.FirstLeast

namespace Fold

section Refused

variable {κ α : Type} [Widen κ α] [Add α] [Mul α] [Sub α] [OfNat α 0] [OfNat α 2]
  {fold : Fold κ α} {query : List κ} {queryNorm : α}

/-- Only a center of the dimension of the query has a squared distance. -/
theorem length_of_squaredDistance {position : ℕ} {distance : α}
    (scored : fold.squaredDistance query queryNorm position = .ok distance) :
    ∃ center, fold.centers[position]? = some center ∧ center.point.length = query.length := by
  rw [squaredDistance] at scored
  split at scored
  · cases scored
  · rename_i center found
    obtain ⟨product, dot, -⟩ := map_eq_ok_iff.mp scored
    obtain ⟨⟨⟩, same, -⟩ := map_eq_ok_iff.mp dot
    rw [sameLength_eq_ok_iff, List.length_map, List.length_map] at same
    exact ⟨center, found, same⟩

/-- An exact search fails at a point of another dimension than the query. -/
theorem exact_eq_error [Unbounded α] [LT α] [DecidableLT α] (misfit : ¬ fold.Fits query)
    (queryNorm : α) : ∃ breach, fold.exact query queryNorm = .error breach := by
  cases found : fold.exact query queryNorm with
  | error breach => exact ⟨breach, rfl⟩
  | ok nearest =>
    refine absurd (fun point member => ?_) misfit
    obtain ⟨scores, scored, -⟩ := map_eq_ok_iff.mp found
    obtain ⟨center, stored, rfl⟩ := List.mem_map.mp member
    obtain ⟨position, place⟩ := List.mem_iff_getElem?.mp stored
    rw [Array.getElem?_toList] at place
    have inside : position ∈ List.range fold.size :=
      List.mem_range.mpr (Array.getElem?_eq_some_iff.mp place).1
    obtain ⟨pair, step⟩ := exists_of_mapM_eq_ok scored inside
    obtain ⟨distance, scored, -⟩ := bind_eq_ok_iff.mp step
    obtain ⟨other, place', same⟩ := length_of_squaredDistance scored
    obtain rfl := Option.some.inj (place.symm.trans place')
    exact same

end Refused

/-- How the outcomes of exact searches in two orders compare: unless they are empty, the closest points
have scores of equal value, and they are one point if no other point has a score of that value. -/
structure Reordered (points : List Point) (order : Equiv.Perm (Fin points.length)) (query : Point)
    (queryNorm : Float) (left right : Nearest Float) : Prop where
  empty_iff : left = .empty ↔ right = .empty
  distance_beq : (left.distance == right.distance) = true
  closest : left ≠ .empty → ∃ p q score score', left.closest = some p ∧ right.closest = some q ∧
    (ofPoints points).squaredDistance query queryNorm p = .ok score ∧
    (ofPoints (reordered points order)).squaredDistance query queryNorm q = .ok score' ∧
    (score == score') = true ∧
    ((∀ other tied, (ofPoints points).squaredDistance query queryNorm other = .ok tied →
        (tied == score) = true → other = p) →
      ∃ inside : q < points.length, (order ⟨q, inside⟩ : ℕ) = p)

section Orders

variable {points : List Point} (order : Equiv.Perm (Fin points.length)) {query : Point}

theorem fits_reordered_iff :
    (ofPoints (reordered points order) : Fold Float32 Float).Fits query ↔
      (ofPoints points : Fold Float32 Float).Fits query := by
  simp only [Fits, points_ofPoints, (perm_reordered points order).mem_iff]

theorem score_reordered (query : Point) (queryNorm : Float) (position : Fin points.length) :
    (ofPoints (reordered points order) : Fold Float32 Float).score query queryNorm position
      = (ofPoints points : Fold Float32 Float).score query queryNorm (order position) :=
  score_ofPoints_congr (getElem?_reordered points order position) query queryNorm

/-- Every score of one order is a score of the other. -/
theorem scores_reordered (query : Point) (queryNorm : Float) :
    let score := (ofPoints points : Fold Float32 Float).score query queryNorm
    let score' := (ofPoints (reordered points order) : Fold Float32 Float).score query queryNorm
    (∀ p ∈ List.range points.length, ∃ q ∈ List.range points.length, score' q = score p) ∧
      ∀ q ∈ List.range points.length, ∃ p ∈ List.range points.length, score p = score' q := by
  constructor
  · intro p member
    let position : Fin points.length := ⟨p, List.mem_range.mp member⟩
    refine ⟨order.symm position, List.mem_range.mpr (Fin.is_lt _), ?_⟩
    rw [score_reordered, Equiv.apply_symm_apply]
  · intro q member
    let position : Fin points.length := ⟨q, List.mem_range.mp member⟩
    exact ⟨order position, List.mem_range.mpr (Fin.is_lt _),
      (score_reordered order query queryNorm position).symm⟩

/-- Exact searches in two orders find points of equal score. -/
theorem reordered_nearestAt (fits : (ofPoints points : Fold Float32 Float).Fits query)
    (queryNorm : Float) :
    Reordered points order query queryNorm
      ((ofPoints points).nearestAt query queryNorm (List.range points.length))
      ((ofPoints (reordered points order)).nearestAt query queryNorm (List.range points.length)) := by
  have ascending : (List.range points.length).Pairwise (· < ·) := List.pairwise_lt_range
  have left := (ofPoints points).firstLeast_nearestAt query queryNorm ascending
  have right := (ofPoints (reordered points order)).firstLeast_nearestAt query queryNorm ascending
  generalize (ofPoints points).nearestAt query queryNorm _ = nearest at left ⊢
  generalize (ofPoints (reordered points order)).nearestAt query queryNorm _ = nearest' at right ⊢
  obtain ⟨forth, back⟩ := scores_reordered order query queryNorm
  have empty_iff := left.eq_empty_iff right forth back
  have equal := left.distance_beq right forth back
  have equal' := right.distance_beq left back forth
  refine ⟨empty_iff, equal, fun some => ?_⟩
  cases left with
  | nothing => exact absurd rfl some
  | @found p looked =>
    cases right with
    | nothing => exact absurd (empty_iff.mpr rfl) some
    | @found q looked' =>
      have inside := List.mem_range.mp looked
      have inside' := List.mem_range.mp looked'
      refine ⟨p, q, _, _, rfl, rfl, squaredDistance_ofPoints fits queryNorm inside,
        squaredDistance_ofPoints ((fits_reordered_iff order).mpr fits) queryNorm ?_, equal,
        fun alone => ⟨inside', ?_⟩⟩
      · rwa [(perm_reordered points order).length_eq]
      · -- the point that the second search finds has a score of that value in the first order, too
        refine alone _ _ (squaredDistance_ofPoints fits queryNorm (Fin.is_lt _)) ?_
        rw [← score_reordered order query queryNorm ⟨q, inside'⟩]
        exact equal'

end Orders

/-- Exact search of some points and of the same points in another order: the distances are equal in
value, or both outcomes are empty, and the closest points have scores of equal value; a point that alone
has the least score is found in both orders. A query of the wrong dimension is refused in both. -/
theorem exact_reordered (points : List Point) (order : Equiv.Perm (Fin points.length)) (query : Point)
    (queryNorm : Float) :
    let fold : Fold Float32 Float := .ofPoints points
    let other : Fold Float32 Float := .ofPoints (reordered points order)
    (fold.Fits query → ∃ left right, fold.exact query queryNorm = .ok left ∧
      other.exact query queryNorm = .ok right ∧ Reordered points order query queryNorm left right) ∧
    (¬ fold.Fits query → (∃ breach, fold.exact query queryNorm = .error breach) ∧
      ∃ breach, other.exact query queryNorm = .error breach) := by
  intro fold other
  constructor
  · intro fits
    have first := exact_eq_ok fits queryNorm
    have second := exact_eq_ok ((fits_reordered_iff order).mpr fits) queryNorm
    rw [size_ofPoints] at first second
    rw [(perm_reordered points order).length_eq] at second
    exact ⟨_, _, first, second, reordered_nearestAt order fits queryNorm⟩
  · intro misfit
    exact ⟨exact_eq_error misfit queryNorm,
      exact_eq_error ((fits_reordered_iff order).not.mpr misfit) queryNorm⟩

/-- The score of the first point is not a number, and the third point alone has the least score. In the
second order these two have changed places. -/
theorem exact_reordered_behind_nan :
    let points : List Point := [[Float32.ofBits 0x7f800000], [2], [1], [-2]]
    let order : Equiv.Perm (Fin 4) := Equiv.swap 0 2
    let fold : Fold Float32 Float := .ofPoints points
    let other : Fold Float32 Float := .ofPoints (reordered points order)
    fold.Fits [0] ∧ fold.exact [0] 0 = .ok ⟨1, some 2⟩ ∧ other.exact [0] 0 = .ok ⟨1, some 0⟩ ∧
      Reordered points order [0] 0 ⟨1, some 2⟩ ⟨1, some 0⟩ := by
  intro points order fold other
  have fits : fold.Fits ([0] : Point) := by
    rw [Fits, points_ofPoints]
    decide
  have first : fold.exact [0] 0 = .ok ⟨1, some 2⟩ := by decide +kernel
  have second : other.exact [0] 0 = .ok ⟨1, some 0⟩ := by decide +kernel
  obtain ⟨left, right, found, found', same⟩ := (exact_reordered points order [0] 0).1 fits
  obtain rfl := Except.ok.inj (first.symm.trans found)
  obtain rfl := Except.ok.inj (second.symm.trans found')
  exact ⟨fits, first, second, same⟩

end Fold

end KMeansSeeding
