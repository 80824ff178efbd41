import KMeansSeeding.Proofs.Index.Rebuilds
import KMeansSeeding.Proofs.Optimality
import KMeansSeeding.Proofs.Packing

/-!
# Stored points find themselves

A stored point that is asked for has the sketch that is stored for it. So its position is at distance
zero, and no position comes before it but the earlier ones of the same sketch (`Fold.retrieved`). Once it
is shortlisted, the outcome cannot be farther than the score of the position itself. An index that is
asked for one of its points has made its sketches from all of them by then (`Run.stored_retrieved`).
-/

namespace KMeansSeeding

/-! ## A position with the sketch of the query -/

/-- What a search for a point, given with its sketch, does with a position that stores the point: the
position is at distance zero, is shortlisted as long as there is room behind the earlier positions of the
same sketch, and then bounds the distance that is found. -/
structure Retrieved (fold : Fold Float32 Float) (sketches : List Sketch) (point : Point)
    (pointSketch : Sketch) (samples position : ℕ) (nearest : Nearest Float) : Prop where
  hamming_eq : sketches[position]?.map pointSketch.hamming = some 0
  shortlisted_iff : position ∈ (pointSketch.shortlist sketches samples).positions ↔
    (List.range position).countP (fun earlier => sketches[earlier]? = sketches[position]?) < samples
  shortlisted_first : (∀ earlier < position, sketches[earlier]? ≠ sketches[position]?) →
    position ∈ (pointSketch.shortlist sketches samples).positions
  distance_le : ∃ score, fold.squaredDistance point point.norm position = .ok score ∧
    (position ∈ (pointSketch.shortlist sketches samples).positions →
      score < Unbounded.infinity → nearest ≠ .empty ∧ nearest.distance ≤ score)

namespace Sketch

variable {query : Sketch} {sketches : List Sketch} {samples position : ℕ}

/-- A position with the sketch of the query is shortlisted exactly if the earlier positions with that
sketch leave room. -/
theorem mem_shortlist_iff_of_own (packed : ∀ sketch ∈ sketches, sketch.Packed)
    (widths : ∀ sketch ∈ sketches, query.width = sketch.width)
    (own : sketches[position]? = some query) :
    position ∈ (query.shortlist sketches samples).positions ↔
      (List.range position).countP (fun earlier => sketches[earlier]? = some query) < samples := by
  have hquery : query.Packed := packed query (List.mem_of_getElem? own)
  have zero_iff : ∀ other : ℕ, (sketches.map query.hamming)[other]? = some 0 ↔
      sketches[other]? = some query := by
    intro other
    rw [List.getElem?_map, Option.map_eq_some_iff]
    constructor
    · rintro ⟨sketch, found, zero⟩
      have member := List.mem_of_getElem? found
      rw [hamming_eq_zero_iff hquery (packed sketch member) (widths sketch member)] at zero
      rw [zero, found]
    · exact fun found => ⟨query, found, (hamming_eq_zero_iff hquery hquery rfl).mpr rfl⟩
  have inside : position < sketches.length := (List.getElem?_eq_some_iff.mp own).1
  rw [shortlist, Shortlist.mem_positions_ofDistances_iff, List.length_map, and_iff_right inside,
    Shortlist.rank_of_zero ((zero_iff position).mpr own)]
  simp only [zero_iff]

end Sketch

namespace Fold

variable {fold : Fold Float32 Float} {sketches : List Sketch} {point : Point} {pointSketch : Sketch}
  {samples position : ℕ}

/-- A position that has the sketch of a point is retrieved by a search for the point. -/
theorem retrieved (fits : fold.Fits point) (aligned : fold.sketched sketches pointSketch = .ok ())
    (packed : ∀ sketch ∈ sketches, sketch.Packed) (own : sketches[position]? = some pointSketch)
    (room : 0 < samples) :
    Retrieved fold sketches point pointSketch samples position
      (fold.nearestAt point point.norm (pointSketch.shortlist sketches samples).positions) := by
  obtain ⟨size, widths⟩ := sketched_eq_ok_iff.mp aligned
  have hpoint : pointSketch.Packed := packed pointSketch (List.mem_of_getElem? own)
  have inside : position < fold.size := size ▸ (List.getElem?_eq_some_iff.mp own).1
  have shortlisted : position ∈ (pointSketch.shortlist sketches samples).positions ↔ _ :=
    Sketch.mem_shortlist_iff_of_own packed widths own
  refine ⟨?_, ?_, fun first => ?_, _, squaredDistance_eq_ok fits point.norm inside,
    fun member below => ?_⟩
  · rw [own, Option.map_some, (Sketch.hamming_eq_zero_iff hpoint hpoint rfl).mpr rfl]
  · rw [shortlisted, own]
  · have none : (List.range position).countP (fun earlier => sketches[earlier]? = some pointSketch)
        = 0 := by
      refine List.countP_eq_zero.mpr fun earlier member => ?_
      rw [← own]
      simpa using first earlier (List.mem_range.mp member)
    rw [shortlisted, none]
    exact room
  · have found := fold.firstLeast_nearestAt point point.norm
      (pointSketch.leading_shortlist sketches samples).ascending
    have number := found.isNumber
    generalize fold.nearestAt point point.norm _ = nearest at found number ⊢
    cases found with
    | nothing unbounded => exact absurd below (unbounded position member)
    | @found other _ _ least =>
      refine ⟨fun empty => Option.some_ne_none other (congrArg Nearest.closest empty), ?_⟩
      exact le_of_not_lt number (ScoreOrder.isNumber_of_lt below).1 (least position member)

end Fold

/-! ## Asking an index for one of its points -/

namespace Index.Kept

variable {configuration : Configuration} {stored : Nat → List Point} {index : Index}

theorem currentSketches_of_fresh (h : Kept configuration stored index)
    (fresh : index.freshness = .fresh) {fold : Nat} (inside : fold < configuration.folds) :
    index.currentSketches fold
      = .ok (some ((stored fold).map configuration.projection.sketchOf)) := by
  have list : index.sketches[fold]? = some ((stored fold).map configuration.projection.sketchOf) := by
    rw [(h.sketched_of_fresh fresh).2, getElem?_sketchesOf stored inside]
  rw [currentSketches, (checkFold_eq_ok_iff index).mpr (by rwa [h.size_eq]), fresh]
  exact congrArg Except.ok list

theorem fold_eq (h : Kept configuration stored index) {fold : Nat}
    (inside : fold < configuration.folds) : index.fold fold = .ok (.ofPoints (stored fold)) := by
  rw [Index.fold, h.fold?_eq inside]

theorem points_eq (h : Kept configuration stored index) {fold : Nat}
    (inside : fold < configuration.folds) : index.points fold = .ok (stored fold) := by
  rw [Index.points, h.fold_eq inside]
  exact congrArg Except.ok (Fold.points_ofPoints _)

end Index.Kept

namespace Run

/-- At the end of every run, an approximate query for a stored point leaves the index with sketches that
have that of the point at its position. The answer is the approximate search of the fold by these
sketches, and it retrieves the position. -/
theorem stored_retrieved (run : Run) {fold position : Nat} {points : List Point} {point : Point}
    (held : run.index.points fold = .ok points) (found : points[position]? = some point) :
    ∃ store projection sketches pointSketch nearest,
      (run.index.distance point fold true).index.fold fold = .ok store ∧ store.points = points ∧
      (run.index.distance point fold true).index.projection = some projection ∧
      (run.index.distance point fold true).index.currentSketches fold = .ok (some sketches) ∧
      projection.sketch point = .ok pointSketch ∧
      store.approximate sketches point point.norm pointSketch run.configuration.samples
        = .ok nearest ∧
      (run.index.distance point fold true).answer = .ok nearest ∧
      Retrieved store sketches point pointSketch run.configuration.samples position nearest := by
  have kept := run.kept
  obtain ⟨-, -, -, room⟩ := Index.sound_of_origin run.begun
  have inside : fold < run.configuration.folds := by
    by_contra outside
    rw [run.index.points_eq_error_iff.mpr (by rw [kept.size_eq]; omega)] at held
    cases held
  obtain rfl : run.stored fold = points := Except.ok.inj ((kept.points_eq inside).symm.trans held)
  have fits : point.length = run.configuration.dimension :=
    kept.fit fold point (List.mem_of_getElem? found)
  -- the query has prepared the index, so its sketches are those of all points
  obtain ⟨-, after, fresh⟩ := kept.prepare true
  rw [← kept.index_distance_eq inside fits true] at after fresh
  have full := run.configuration.full_projection
  have aligned := run.configuration.sketched_ofPoints (run.stored fold) point
  have fit := Configuration.fits_ofPoints (kept.fit fold) fits
  refine ⟨_, _, _, _, _, after.fold_eq inside, Fold.points_ofPoints _,
    (after.sketched_of_fresh (fresh rfl)).1, after.currentSketches_of_fresh (fresh rfl) inside,
    Projection.sketch_eq_ok full fits, Fold.approximate_eq_ok fit aligned _ _,
    kept.distance_eq_ok inside fits true, ?_⟩
  refine Fold.retrieved fit aligned (fun sketch member => ?_) ?_ room
  · obtain ⟨other, -, rfl⟩ := List.mem_map.mp member
    exact Sketch.packed_ofSigns _ _
  · rw [List.getElem?_map, found, Option.map_some]

/-- The second of three stored points is asked for after the index has become stale; its double is
stored behind it. -/
theorem stored_retrieved_stale :
    ∃ run : Run, run.calls = [.add [5] 0, .distance [1] 0 true, .add [-2] 0, .add [-2] 0] ∧
      run.index.freshness = .stale ∧
      ∃ store sketches pointSketch nearest,
        store.points = ([[5], [-2], [-2]] : List Point) ∧
        (run.index.distance [-2] 0 true).answer = .ok nearest ∧
        Retrieved store sketches [-2] pointSketch 1 1 nearest := by
  let run : Run := ⟨.empty ⟨1, 1, 2, 1, 7, true⟩, _, rfl,
    [.add [5] 0, .distance [1] 0 true, .add [-2] 0, .add [-2] 0]⟩
  have stored : run.stored 0 = [[5], [-2], [-2]] := by decide +kernel
  have held := run.kept.points_eq (show 0 < run.configuration.folds by decide)
  rw [stored] at held
  obtain ⟨store, projection, sketches, pointSketch, nearest, -, points, -, -, -, -, answer, retrieved⟩ :=
    run.stored_retrieved held (show _[1]? = some ([-2] : Point) from rfl)
  exact ⟨run, rfl, by decide +kernel, store, sketches, pointSketch, nearest, points, answer, retrieved⟩

end Run

end KMeansSeeding
