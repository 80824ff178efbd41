import KMeansSeeding.Point
import KMeansSeeding.Proofs.Binary.Laws
import KMeansSeeding.Proofs.FirstLeast
import KMeansSeeding.Proofs.Scoring

/-!
# Distances by the norms of both points

If each of two points comes with its own squared norm, the squared distance of a query from a center is
`normedDistance`, in any arithmetic. It is symmetric as soon as sums and products commute
(`normedDistance_comm`), which in double precision they do. A point's dot product with itself is its norm,
so its distance from itself is `n + n - 2 * n`. In double precision this is `+0` unless it overflows, and
an exact search from a stored point does not end above zero (`norms_consistent`).
-/

namespace KMeansSeeding

section Arithmetic

variable {κ α : Type} [Widen κ α] [Add α] [Mul α] [Sub α] [OfNat α 0] [OfNat α 2]

/-- The squared distance of a query from a center, by their own norms. -/
def normedDistance (center query : List κ) : α :=
  squaredNorm query + squaredNorm center
    - 2 * laneSum 4 (List.zipWith (· * ·) (center.map widen) (query.map widen))

omit [Sub α] [OfNat α 2] in
/-- A squared norm adds up what the dot product of a point with itself does. -/
theorem squaredNorm_eq_laneSum (point : List κ) :
    squaredNorm point
      = laneSum 4 (List.zipWith (· * ·) (point.map (widen (α := α))) (point.map widen)) := by
  rw [List.zipWith_self, List.map_map]
  rfl

namespace Fold

variable {points : List (List κ)} {position : ℕ} {center query : List κ}
  (stored : points[position]? = some center)

include stored

omit [Sub α] [OfNat α 2] in
/-- A stored point stands there with its norm. -/
theorem getElem?_centers_ofPoints :
    (ofPoints points : Fold κ α).centers[position]? = some ⟨center, squaredNorm center⟩ := by
  rw [← Array.getElem?_toList, centers_ofPoints, List.getElem?_map, stored]
  rfl

theorem score_normed (query : List κ) :
    (ofPoints points : Fold κ α).score query (squaredNorm query) position
      = normedDistance center query := by
  rw [score, getElem?_centers_ofPoints stored]
  rfl

/-- The squared distance of a query from a stored center of its dimension. -/
theorem squaredDistance_normed (same : center.length = query.length) :
    (ofPoints points : Fold κ α).squaredDistance query (squaredNorm query) position
      = .ok (normedDistance center query) := by
  have equal : (center.map (widen (α := α))).length = (query.map (widen (α := α))).length := by
    rw [List.length_map, List.length_map, same]
  have found : (ofPoints points : Fold κ α).centers[position]? = some ⟨center, squaredNorm center⟩ :=
    getElem?_centers_ofPoints stored
  simp only [squaredDistance, found]
  rw [wideDot, laneDot_eq_ok equal]
  rfl

end Fold

/-- Center and query can change places if sums and products commute. -/
theorem normedDistance_comm (add_comm : ∀ x y : α, x + y = y + x) (mul_comm : ∀ x y : α, x * y = y * x)
    (center query : List κ) :
    normedDistance (α := α) center query = normedDistance query center := by
  have products : List.zipWith (· * ·) (center.map (widen (α := α))) (query.map widen)
      = List.zipWith (· * ·) (query.map widen) (center.map widen) := by
    rw [List.zipWith_comm]
    exact congrArg (List.zipWith · _ _) (funext fun x => funext fun y => mul_comm y x)
  rw [normedDistance, normedDistance, products, add_comm (squaredNorm query)]

theorem normedDistance_self (point : List κ) :
    normedDistance (α := α) point point
      = squaredNorm point + squaredNorm point - 2 * squaredNorm point := by
  rw [normedDistance, ← squaredNorm_eq_laneSum]

end Arithmetic

/-- A search that looks at a score of zero does not end above zero. -/
theorem Nearest.FirstLeast.distance_le_zero {positions : List ℕ} {score : ℕ → Float}
    {nearest : Nearest Float} (h : FirstLeast positions score nearest) {position : ℕ}
    (member : position ∈ positions) (zero : score position = 0) : nearest.distance ≤ 0 := by
  refine le_of_not_lt h.isNumber (isNaN_of_isFinite isFinite_zero) ?_
  rw [← zero]
  exact h.not_lt_of_mem member

/-- The norm of a point is its dot product with itself, bit for bit, for every dimension. Whichever of two
points of one dimension is stored and whichever is the query, their squared distance is the same, bit for
bit. The squared distance of a stored point from itself is `n + n - 2 * n`, where `n` is the norm that was
stored with it. As long as `2 * n` is finite that is `+0`, and an exact search from the point does not end
above zero. -/
theorem Fold.norms_consistent :
    (∀ point : Point, point.dot point = .ok point.norm) ∧
    (∀ (points others : List Point) (i j : ℕ) (p q : Point), points[i]? = some p →
      others[j]? = some q → p.length = q.length →
      ∃ distance : Float, (ofPoints points).squaredDistance q q.norm i = .ok distance ∧
        (ofPoints others).squaredDistance p p.norm j = .ok distance) ∧
    ∀ (points : List Point) (i : ℕ) (p : Point), points[i]? = some p →
      let fold : Fold Float32 Float := .ofPoints points
      ∃ n, fold.norms[i]? = some n ∧ fold.squaredDistance p p.norm i = .ok (n + n - 2 * n) ∧
        ((2 * n).isFinite = true → n + n - 2 * n = 0 ∧
          (fold.Fits p → ∃ nearest, fold.exact p p.norm = .ok nearest ∧ nearest.distance ≤ 0)) := by
  refine ⟨wideDot_self, ?_, ?_⟩
  · intro points others i j p q hp hq same
    refine ⟨normedDistance p q, squaredDistance_normed hp same, ?_⟩
    rw [normedDistance_comm double_add_comm double_mul_comm]
    exact squaredDistance_normed hq same.symm
  · intro points i p hp fold
    have distance : fold.squaredDistance p p.norm i = .ok (p.norm + p.norm - 2 * p.norm) :=
      (squaredDistance_normed hp rfl).trans (congrArg _ (normedDistance_self p))
    refine ⟨p.norm, ?_, distance, fun finite => ?_⟩
    · rw [norms_ofPoints, List.getElem?_map, hp]
      rfl
    have zero : p.norm + p.norm - 2 * p.norm = 0 := by
      rw [← two_mul_eq_add_self]
      exact sub_self_eq_zero finite
    refine ⟨zero, fun fits => ⟨_, exact_eq_ok fits p.norm, ?_⟩⟩
    have inside : i < fold.size := by
      rw [size_ofPoints]
      exact (List.getElem?_eq_some_iff.mp hp).1
    -- the score of the point itself is one of those that the search looks at
    have own : fold.score p p.norm i = 0 := by
      rw [squaredDistance_eq_ok fits p.norm inside, zero] at distance
      exact Except.ok.inj distance
    exact (Nearest.firstLeast_among List.pairwise_lt_range).distance_le_zero
      (List.mem_range.mpr inside) own

/-- Two points that are close to one another and far from the origin: the search from the second one finds
the first, since the rounded distance between them is below zero. -/
theorem Fold.norms_consistent_below_zero :
    let p : Point := [800000000, 5]
    let q : Point := [800000000, 13]
    let fold : Fold Float32 Float := .ofPoints [q, p]
    p.dot p = .ok p.norm ∧ p.length = q.length ∧
    (∃ distance : Float, fold.squaredDistance q q.norm 1 = .ok distance ∧
      fold.squaredDistance p p.norm 0 = .ok distance) ∧
    (2 * p.norm).isFinite = true ∧ fold.squaredDistance p p.norm 1 = .ok 0 ∧ fold.Fits p ∧
    fold.exact p p.norm = .ok ⟨-256, some 0⟩ ∧ (-256 : Float) ≤ 0 := by
  intro p q fold
  obtain ⟨norm, symmetric, own⟩ := norms_consistent
  have finite : (2 * p.norm).isFinite = true := by decide +kernel
  have fits : fold.Fits p := by
    rw [Fits, points_ofPoints]
    decide
  have found : fold.exact p p.norm = .ok ⟨-256, some 0⟩ := by decide +kernel
  obtain ⟨n, cached, distance, cancels⟩ := own [q, p] 1 p rfl
  have norm_eq : p.norm = n := by
    rw [norms_ofPoints] at cached
    exact Option.some.inj cached
  obtain ⟨zero, search⟩ := cancels (norm_eq ▸ finite)
  rw [zero] at distance
  obtain ⟨nearest, found', below⟩ := search fits
  obtain rfl := Except.ok.inj (found.symm.trans found')
  have same : p.length = q.length := by decide
  exact ⟨norm p, same, symmetric [q, p] [q, p] 1 0 p q rfl rfl same, finite, distance, fits, found, below⟩

end KMeansSeeding
