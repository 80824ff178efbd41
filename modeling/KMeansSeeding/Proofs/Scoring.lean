import KMeansSeeding.Proofs.Promises
import KMeansSeeding.Proofs.Ranking
import Mathlib.Data.List.Induction

/-!
# Scoring the centers of a fold

If all points of a fold have the dimension of the query, every position has a score, and both
searches come down to `Nearest.among` over the scores of the positions they look at. A shortlist
only holds positions of the fold that its sketches belong to, so approximate search never leaves the
fold.
-/

namespace KMeansSeeding.Nearest

variable {α : Type} [Unbounded α] [LT α] [DecidableLT α]

/-- A search that keeps a position keeps one that it scored. -/
theorem mem_of_closest_among {scores : List (Nat × α)} {position : Nat}
    (kept : (among scores).closest = some position) :
    (position, (among scores).distance) ∈ scores := by
  induction scores using List.reverseRecOn with
  | nil => cases kept
  | append_singleton scores scored ih =>
    rw [among, List.foldl_append, List.foldl_cons, List.foldl_nil, improve] at kept ⊢
    split at kept
    · rename_i better
      rw [if_pos better]
      obtain rfl := Option.some.inj kept
      exact List.mem_append_right _ (List.mem_singleton_self _)
    · rename_i worse
      rw [if_neg worse]
      exact List.mem_append_left _ (ih kept)

end KMeansSeeding.Nearest

namespace KMeansSeeding.Fold

variable {κ α : Type}

/-- One sketch per center, all as wide as that of the query. -/
theorem sketched_eq_ok_iff {fold : Fold κ α} {sketches : List Sketch} {querySketch : Sketch} :
    fold.sketched sketches querySketch = .ok () ↔
      sketches.length = fold.size ∧ ∀ sketch ∈ sketches, querySketch.width = sketch.width := by
  rw [sketched, bind_eq_ok_iff]
  simp only [forM_eq_ok_iff]
  constructor
  · rintro ⟨⟨⟩, same, widths⟩
    rw [sameLength_eq_ok_iff] at same
    exact ⟨same.symm, fun sketch member => by simpa using widths sketch member⟩
  · rintro ⟨same, widths⟩
    exact ⟨(), sameLength_eq_ok_iff.mpr same.symm, fun sketch member => if_pos (widths sketch member)⟩

/-- Shortlisted positions lie in the fold, and ascend. -/
theorem sublist_of_sketched {fold : Fold κ α} {sketches : List Sketch} {querySketch : Sketch}
    (aligned : fold.sketched sketches querySketch = .ok ()) (samples : Nat) :
    (querySketch.shortlist sketches samples).positions.Sublist (List.range fold.size) := by
  have size : sketches.length = fold.size := (sketched_eq_ok_iff.mp aligned).1
  rw [← size]
  exact querySketch.shortlist_sublist sketches samples

section Points

variable [Widen κ α] [Add α] [Mul α] [OfNat α 0]

@[simp] theorem ofPoints_append (points : List (List κ)) (point : List κ) :
    (ofPoints (points ++ [point]) : Fold κ α) = (ofPoints points).push point := by
  rw [ofPoints, List.foldl_append]
  rfl

theorem centers_ofPoints (points : List (List κ)) :
    (ofPoints points : Fold κ α).centers.toList
      = points.map fun point => ⟨point, squaredNorm point⟩ := by
  induction points using List.reverseRecOn with
  | nil => rfl
  | append_singleton points point ih =>
    rw [ofPoints_append, push, Array.toList_push, ih, List.map_append]
    rfl

@[simp] theorem points_ofPoints (points : List (List κ)) :
    (ofPoints points : Fold κ α).points = points := by
  induction points using List.reverseRecOn with
  | nil => rfl
  | append_singleton points point ih => rw [ofPoints_append, points_push, ih]

@[simp] theorem size_ofPoints (points : List (List κ)) :
    (ofPoints points : Fold κ α).size = points.length := by
  rw [← length_points, points_ofPoints]

@[simp] theorem norms_ofPoints (points : List (List κ)) :
    (ofPoints points : Fold κ α).norms = points.map squaredNorm := by
  induction points using List.reverseRecOn with
  | nil => rfl
  | append_singleton points point ih => rw [ofPoints_append, norms_push, ih, List.map_append]; rfl

end Points

section Scores

variable [Widen κ α] [Add α] [Mul α] [Sub α] [OfNat α 0] [OfNat α 2]

/-- The score of a position: the squared distance by the norms and the dot product. It is zero, and
never looked at, where there is no center. -/
def score (fold : Fold κ α) (query : List κ) (queryNorm : α) (position : Nat) : α :=
  match fold.centers[position]? with
  | none => 0
  | some center =>
    queryNorm + center.norm -
      2 * laneSum 4 (List.zipWith (· * ·) (center.point.map widen) (query.map widen))

/-- A score depends on the point that is stored, and on nothing else of the fold. -/
theorem score_ofPoints_congr {points others : List (List κ)} {position other : Nat}
    (same : points[position]? = others[other]?) (query : List κ) (queryNorm : α) :
    (ofPoints points : Fold κ α).score query queryNorm position
      = (ofPoints others : Fold κ α).score query queryNorm other := by
  have centers : (ofPoints points : Fold κ α).centers[position]?
      = (ofPoints others : Fold κ α).centers[other]? := by
    rw [← Array.getElem?_toList, ← Array.getElem?_toList, centers_ofPoints, centers_ofPoints,
      List.getElem?_map, List.getElem?_map, same]
  rw [score, score, centers]

/-- All points have the dimension of a query. -/
def Fits (fold : Fold κ α) (query : List κ) : Prop :=
  ∀ point ∈ fold.points, point.length = query.length

variable {fold : Fold κ α} {query : List κ}

/-- A position inside a fold that fits has its score as squared distance. -/
theorem squaredDistance_eq_ok (fits : fold.Fits query) (queryNorm : α) {position : Nat}
    (inside : position < fold.size) :
    fold.squaredDistance query queryNorm position = .ok (fold.score query queryNorm position) := by
  have found : fold.centers[position]? = some fold.centers[position] :=
    Array.getElem?_eq_getElem inside
  have member : fold.centers[position].point ∈ fold.points :=
    List.mem_map_of_mem (Array.getElem_mem_toList inside)
  have equal : (fold.centers[position].point.map (widen (α := α))).length
      = (query.map (widen (α := α))).length := by
    rw [List.length_map, List.length_map, fits _ member]
  simp only [squaredDistance, score, found]
  rw [wideDot, laneDot_eq_ok equal]
  rfl

theorem squaredDistance_ofPoints {points : List (List κ)}
    (fits : (ofPoints points : Fold κ α).Fits query) (queryNorm : α) {position : Nat}
    (inside : position < points.length) :
    (ofPoints points : Fold κ α).squaredDistance query queryNorm position
      = .ok ((ofPoints points : Fold κ α).score query queryNorm position) :=
  squaredDistance_eq_ok fits queryNorm (by rwa [size_ofPoints])

/-- Positions whose squared distances are known have these as scores. -/
theorem scores_eq_ok_of_forall {queryNorm : α} {score : Nat → α} {positions : List Nat}
    (scored : ∀ position ∈ positions,
      fold.squaredDistance query queryNorm position = .ok (score position)) :
    fold.scores query queryNorm positions
      = .ok (positions.map fun position => (position, score position)) := by
  refine mapM_eq_ok_map fun position member => ?_
  rw [scored position member]
  rfl

/-- Positions inside a fold that fits are all scored. -/
theorem scores_eq_ok (fits : fold.Fits query) (queryNorm : α) {positions : List Nat}
    (inside : ∀ position ∈ positions, position < fold.size) :
    fold.scores query queryNorm positions
      = .ok (positions.map fun position => (position, fold.score query queryNorm position)) :=
  scores_eq_ok_of_forall fun position member =>
    squaredDistance_eq_ok fits queryNorm (inside position member)

variable [Unbounded α] [LT α] [DecidableLT α]

/-- The first least score of some positions. -/
def nearestAt (fold : Fold κ α) (query : List κ) (queryNorm : α) (positions : List Nat) :
    Nearest α :=
  .among (positions.map fun position => (position, fold.score query queryNorm position))

theorem closestAmong_eq_ok (fits : fold.Fits query) (queryNorm : α) {positions : List Nat}
    (inside : ∀ position ∈ positions, position < fold.size) :
    fold.closestAmong query queryNorm positions
      = .ok (fold.nearestAt query queryNorm positions) := by
  rw [closestAmong, scores_eq_ok fits queryNorm inside]
  rfl

/-- The exact search takes the first least of all scores. -/
theorem exact_eq_ok (fits : fold.Fits query) (queryNorm : α) :
    fold.exact query queryNorm = .ok (fold.nearestAt query queryNorm (List.range fold.size)) :=
  closestAmong_eq_ok fits queryNorm fun _ => List.mem_range.mp

/-- The approximate search takes the first least score of the shortlist. -/
theorem approximate_eq_ok (fits : fold.Fits query) {sketches : List Sketch} {querySketch : Sketch}
    (aligned : fold.sketched sketches querySketch = .ok ()) (queryNorm : α) (samples : Nat) :
    fold.approximate sketches query queryNorm querySketch samples
      = .ok (fold.nearestAt query queryNorm (querySketch.shortlist sketches samples).positions) := by
  have inside : ∀ position ∈ (querySketch.shortlist sketches samples).positions,
      position < fold.size := by
    intro position member
    exact List.mem_range.mp ((sublist_of_sketched aligned samples).subset member)
  rw [approximate, aligned]
  exact closestAmong_eq_ok fits queryNorm inside

/-- The nearest of some positions is one of them. -/
theorem mem_of_closest_nearestAt {queryNorm : α} {positions : List Nat} {position : Nat}
    (kept : (fold.nearestAt query queryNorm positions).closest = some position) :
    position ∈ positions := by
  obtain ⟨other, member, same⟩ := List.mem_map.mp (Nearest.mem_of_closest_among kept)
  obtain rfl : other = position := congrArg Prod.fst same
  exact member

end Scores

end KMeansSeeding.Fold
