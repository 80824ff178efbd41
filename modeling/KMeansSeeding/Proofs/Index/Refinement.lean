import KMeansSeeding.Proofs.Index.Invariant

/-!
# An index answers as if it had no caches

`Configuration.nearest` answers a query from the points of one fold alone: it makes the norms, the
random directions and all sketches on the spot. An index keeps all of these, makes some of them late
and lets them become outdated; yet after every run it gives the same answers (`Kept.distance_eq`,
`Kept.distances_eq`). So an answer depends on the points of its fold and on nothing else that ever
happened to the index.
-/

namespace KMeansSeeding

namespace Configuration

/-- The nearest of some points, by definition: either an exact search, or an approximate one with
sketches that are made for the occasion. -/
def nearest (configuration : Configuration) (points : List Point) (query : Point)
    (approximate : Bool) : Except Breach (Nearest Float) := do
  let store : Fold Float32 Float := .ofPoints points
  if approximate then
    let sketches ← store.points.mapM configuration.projection.sketch
    let querySketch ← configuration.projection.sketch query
    store.approximate sketches query query.norm querySketch configuration.samples
  else
    store.exact query query.norm

/-- The positions that a search of some points looks at: the shortlist, or all. -/
def considered (configuration : Configuration) (points : List Point) (query : Point) :
    (approximate : Bool) → List Nat
  | true =>
    ((configuration.projection.sketchOf query).shortlist
      (points.map configuration.projection.sketchOf) configuration.samples).positions
  | false => List.range points.length

/-- The first least score of some points, with no checks on the way to it. -/
def outcome (configuration : Configuration) (points : List Point) (query : Point)
    (approximate : Bool) : Nearest Float :=
  (Fold.ofPoints points).nearestAt query query.norm
    (configuration.considered points query approximate)

/-- The first least score of every fold. -/
def outcomes (configuration : Configuration) (stored : Nat → List Point) (query : Point)
    (approximate : Bool) : List (Nearest Float) :=
  (List.range configuration.folds).map fun fold =>
    configuration.outcome (stored fold) query approximate

@[simp] theorem length_outcomes (configuration : Configuration) (stored : Nat → List Point)
    (query : Point) (approximate : Bool) :
    (configuration.outcomes stored query approximate).length = configuration.folds := by
  rw [outcomes, List.length_map, List.length_range]

theorem getElem?_outcomes (configuration : Configuration) (stored : Nat → List Point) (query : Point)
    (approximate : Bool) {fold : Nat} (inside : fold < configuration.folds) :
    (configuration.outcomes stored query approximate)[fold]?
      = some (configuration.outcome (stored fold) query approximate) := by
  rw [outcomes, List.getElem?_map, List.getElem?_range inside, Option.map_some]

/-- Configurations that answer alike: all that may differ is how many folds there are and whether
they are searched at the same time. -/
structure Alike (left right : Configuration) : Prop where
  dimension : left.dimension = right.dimension
  bits : left.bits = right.bits
  samples : left.samples = right.samples
  seed : left.seed = right.seed

theorem Alike.nearest_eq {left right : Configuration} (alike : Alike left right) (points : List Point)
    (query : Point) (approximate : Bool) :
    left.nearest points query approximate = right.nearest points query approximate := by
  have projection : left.projection = right.projection := by
    rw [Configuration.projection, alike.dimension, alike.bits, alike.seed, ← Configuration.projection]
  rw [nearest, nearest, projection, alike.samples]

/-- Sketches of points are aligned with the fold of these points. -/
theorem sketched_ofPoints (configuration : Configuration) (points : List Point) (query : Point) :
    (Fold.ofPoints points : Fold Float32 Float).sketched
      (points.map configuration.projection.sketchOf) (configuration.projection.sketchOf query)
        = .ok () := by
  rw [Fold.sketched_eq_ok_iff]
  constructor
  · rw [List.length_map, Fold.size_ofPoints]
  · intro sketch member
    obtain ⟨point, -, rfl⟩ := List.mem_map.mp member
    rw [Projection.width_sketchOf, Projection.width_sketchOf]

/-- A search looks at positions of the points, in ascending order. -/
theorem considered_sublist (configuration : Configuration) (points : List Point) (query : Point)
    (approximate : Bool) :
    (configuration.considered points query approximate).Sublist (List.range points.length) := by
  cases approximate with
  | false => exact .refl _
  | true =>
    have shortlisted := (configuration.projection.sketchOf query).shortlist_sublist
      (points.map configuration.projection.sketchOf) configuration.samples
    rwa [List.length_map] at shortlisted

/-- An outcome names one of the points. -/
theorem closest_lt_of_outcome {configuration : Configuration} {points : List Point} {query : Point}
    {approximate : Bool} {position : Nat}
    (kept : (configuration.outcome points query approximate).closest = some position) :
    position < points.length := by
  have member := Fold.mem_of_closest_nearestAt kept
  exact List.mem_range.mp ((configuration.considered_sublist points query approximate).subset member)

section Searched

variable {configuration : Configuration} {points : List Point} {query : Point}
  (fit : ∀ point ∈ points, point.length = configuration.dimension)
  (fits : query.length = configuration.dimension)

include fit fits

/-- Points of one dimension fit a query of that dimension. -/
theorem fits_ofPoints : (Fold.ofPoints points : Fold Float32 Float).Fits query := by
  intro point member
  rw [Fold.points_ofPoints] at member
  rw [fit point member, fits]

/-- A search of points of the right dimension succeeds. -/
theorem nearest_eq_ok (approximate : Bool) :
    configuration.nearest points query approximate
      = .ok (configuration.outcome points query approximate) := by
  have full := configuration.full_projection
  cases approximate with
  | false =>
    have exact := Fold.exact_eq_ok (fits_ofPoints fit fits) query.norm
    rw [Fold.size_ofPoints] at exact
    exact exact
  | true =>
    have sketches := Projection.mapM_sketch_eq_ok full fit
    rw [nearest, if_pos rfl, Fold.points_ofPoints, sketches, Projection.sketch_eq_ok full fits]
    exact Fold.approximate_eq_ok (fits_ofPoints fit fits) (configuration.sketched_ofPoints points query)
      query.norm configuration.samples

end Searched

end Configuration

namespace Index.Kept

variable {configuration : Configuration} {stored : Nat → List Point} {index : Index}

/-- A prepared index keeps the same points, and its sketches are current if they are needed. -/
theorem prepare (h : Kept configuration stored index) (approximate : Bool) :
    (index.prepare approximate).answer = .ok () ∧
      Kept configuration stored (index.prepare approximate).index ∧
      (approximate = true → (index.prepare approximate).index.freshness = .fresh) := by
  rw [Index.prepare]
  split_ifs with stale
  · rw [rebuild_of_drawn h.drawn_eq]
    exact ⟨rfl, h.renewed, fun _ => rfl⟩
  · refine ⟨rfl, h, fun wanted => ?_⟩
    cases current : index.freshness with
    | stale => exact absurd ⟨wanted, current⟩ stale
    | fresh => exact current

/-- Once it is prepared, an index searches a fold as if it had no caches. -/
theorem search_eq (h : Kept configuration stored index) {fold : Nat}
    (inside : fold < configuration.folds) {query : Point} {approximate : Bool}
    (current : approximate = true → index.freshness = .fresh) :
    index.search query approximate fold
      = configuration.nearest (stored fold) query approximate := by
  have found : entryAt index.folds fold = .ok (.ofPoints (stored fold)) :=
    entryAt_eq_ok_iff.mpr (h.fold?_eq inside)
  rw [search, found, Configuration.nearest]
  cases approximate with
  | false => cases index.projection <;> rfl
  | true =>
    -- without random directions the search would be exact; a fresh index has them
    have fresh := current rfl
    obtain ⟨built, sketches⟩ := h.sketched_of_fresh fresh
    have list : entryAt index.sketches fold
        = .ok ((stored fold).map configuration.projection.sketchOf) := by
      rw [entryAt_eq_ok_iff, sketches]
      exact getElem?_sketchesOf stored inside
    have made := Projection.mapM_sketch_eq_ok configuration.full_projection (h.fit fold)
    rw [built, h.configuration_eq, fresh, list, Fold.points_ofPoints, made]
    rfl

/-- A query of one fold is answered from the points of that fold. -/
theorem distance_eq (h : Kept configuration stored index) {fold : Nat}
    (inside : fold < configuration.folds) {query : Point}
    (fits : query.length = configuration.dimension) (approximate : Bool) :
    (index.distance query fold approximate).answer
      = orBreach (configuration.nearest (stored fold) query approximate) := by
  have hfold : index.checkFold fold = .ok () := by
    rw [checkFold_eq_ok_iff, h.size_eq]
    exact inside
  have hquery : query.check index.dimension = .ok () := by
    rw [Point.check_eq_ok_iff, h.dimension_eq]
    exact fits
  obtain ⟨prepared, kept, current⟩ := h.prepare approximate
  simp only [distance, hfold, hquery, Step.andThen, prepared]
  rw [kept.search_eq inside current]

theorem distance_eq_ok (h : Kept configuration stored index) {fold : Nat}
    (inside : fold < configuration.folds) {query : Point}
    (fits : query.length = configuration.dimension) (approximate : Bool) :
    (index.distance query fold approximate).answer
      = .ok (configuration.outcome (stored fold) query approximate) := by
  have found := Configuration.nearest_eq_ok (h.fit fold) fits approximate
  rw [h.distance_eq inside fits, found]
  rfl

/-- A query of all folds is answered fold by fold, and the points stay as they are. -/
theorem distances_eq (h : Kept configuration stored index) {query : Point}
    (fits : query.length = configuration.dimension) (approximate : Bool) :
    (index.distances query approximate).answer
        = .ok (configuration.outcomes stored query approximate) ∧
      Kept configuration stored (index.distances query approximate).index := by
  have hquery : query.check index.dimension = .ok () := by
    rw [Point.check_eq_ok_iff, h.dimension_eq]
    exact fits
  obtain ⟨prepared, kept, current⟩ := h.prepare approximate
  -- all folds are searched in the index that the one preparation left
  have searched : ∀ fold ∈ List.range configuration.folds,
      (index.prepare approximate).index.search query approximate fold
        = .ok (configuration.outcome (stored fold) query approximate) := by
    intro fold member
    rw [kept.search_eq (List.mem_range.mp member) current]
    exact Configuration.nearest_eq_ok (h.fit fold) fits approximate
  simp only [distances, hquery, Step.andThen, prepared]
  refine ⟨?_, kept⟩
  rw [searchFolds_eq_mapM, kept.size_eq, mapM_eq_ok_map searched]
  rfl

/-- A query of all folds is refused if it has the wrong dimension. -/
theorem distances_eq_refuse (h : Kept configuration stored index) {query : Point}
    (misfit : query.length ≠ configuration.dimension) (approximate : Bool) :
    index.distances query approximate
      = .refuse (.wrongDimension configuration.dimension query.length) index := by
  rw [distances, Point.check, h.dimension_eq, if_neg misfit]

end Index.Kept

namespace Run

/-- After every run, a query of a fold is answered from the points that were successfully added to it:
the answer is that of the search by definition, which always has one. So two runs answer alike on
folds to which they added the same points, if their configurations are alike. -/
theorem distance_eq_nearest (run : Run) {fold : Nat} (inside : fold < run.configuration.folds)
    {query : Point} (fits : query.length = run.configuration.dimension) (approximate : Bool) :
    (∃ nearest, run.configuration.nearest (run.stored fold) query approximate = .ok nearest ∧
      (run.index.distance query fold approximate).answer = .ok nearest) ∧
    ∀ other : Run, run.configuration.Alike other.configuration →
      ∀ target < other.configuration.folds, other.stored target = run.stored fold →
        (other.index.distance query target approximate).answer
          = (run.index.distance query fold approximate).answer := by
  constructor
  · have found := Configuration.nearest_eq_ok (run.kept.fit fold) fits approximate
    exact ⟨_, found, run.kept.distance_eq_ok inside fits approximate⟩
  · intro other alike target within same
    have fits' : query.length = other.configuration.dimension := fits.trans alike.dimension
    rw [run.kept.distance_eq inside fits, other.kept.distance_eq within fits', same, alike.nearest_eq]

/-- One run adds two points and asks. The other has two folds, is asked and rebuilt in between, and
is refused a point. -/
theorem distance_eq_nearest_interleaved :
    ∃ left right : Run,
      left.calls = [.add [1] 0, .add [-2] 0] ∧
      right.calls = [.add [1] 0, .rebuild, .add [9] 1, .add [3, 3] 0, .distance [0] 0 true,
        .add [-2] 0] ∧
      ∃ nearest, (left.index.distance [-3] 0 true).answer = .ok nearest ∧
        (right.index.distance [-3] 0 true).answer = .ok nearest := by
  let left : Run := ⟨.empty ⟨1, 1, 2, 1, 7, true⟩, _, rfl, [.add [1] 0, .add [-2] 0]⟩
  let right : Run := ⟨.empty ⟨2, 1, 2, 1, 7, false⟩, _, rfl,
    [.add [1] 0, .rebuild, .add [9] 1, .add [3, 3] 0, .distance [0] 0 true, .add [-2] 0]⟩
  have stored : right.stored 0 = left.stored 0 := by decide +kernel
  obtain ⟨⟨nearest, -, answer⟩, alike⟩ := left.distance_eq_nearest (show 0 < left.configuration.folds by decide)
    (show ([-3] : Point).length = left.configuration.dimension by decide) true
  have same := alike right ⟨rfl, rfl, rfl, rfl⟩ 0 (by decide) stored
  exact ⟨left, right, rfl, rfl, nearest, answer, same.trans answer⟩

end Run

end KMeansSeeding
