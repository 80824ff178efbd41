import KMeansSeeding.Proofs.Index.Refusals

/-!
# No operation of an index breaks a promise

Behind the checks of its arguments an operation reads lists at positions and side by side, and relies
on what the index keeps. An answer is `Intact` if it is no breach; it may still be a refusal. What an
operation relies on is written down where it is used: by a projection that sketches a point, by a
fold that scores some of its centers, and by a search of one fold. At the end of every run all of it
holds (`Run.no_breach`), and as every beginning of a run is a run, it holds at every call.
-/

namespace KMeansSeeding

variable {α β : Type}

/-! ## Answers that are no breach -/

/-- No promise was broken on the way to an answer. -/
def Intact (answer : Except Fault α) : Prop :=
  ∀ broken, answer ≠ .error (.breach broken)

@[simp] theorem intact_ok (value : α) : Intact (.ok value) := by
  simp [Intact]

@[simp] theorem intact_error_iff {fault : Fault} :
    Intact (.error fault : Except Fault α) ↔ ∀ broken, fault ≠ .breach broken := by
  simp [Intact]

theorem Intact.map {answer : Except Fault α} (h : Intact answer) (change : α → β) :
    Intact (answer.map change) := by
  intro broken failed
  exact h broken (map_eq_error_iff.mp failed)

theorem Intact.bind {first : Except Fault α} {next : α → Except Fault β} (h : Intact first)
    (rest : ∀ value, Intact (next value)) : Intact (first >>= next) := by
  intro broken failed
  rcases bind_eq_error_iff.mp failed with failed | ⟨value, -, failed⟩
  · exact h broken failed
  · exact rest value broken failed

theorem intact_mapM {f : α → Except Fault β} {items : List α} (h : ∀ item ∈ items, Intact (f item)) :
    Intact (items.mapM f) := by
  intro broken failed
  obtain ⟨before, item, later, rfl, -, failed⟩ := mapM_eq_error_iff.mp failed
  exact h item (by simp) broken failed

theorem intact_forM {f : α → Except Fault Unit} {items : List α}
    (h : ∀ item ∈ items, Intact (f item)) : Intact (items.forM f) := by
  intro broken failed
  obtain ⟨before, item, later, rfl, -, failed⟩ := forM_eq_error_iff.mp failed
  exact h item (by simp) broken failed

/-! ## What sketching and scoring rely on -/

/-- What sketching a point relies on: every bit has its stretch of the weights, and the point is as
long as that. -/
def Projection.Serves (projection : Projection Float32) (point : Point) : Prop :=
  ∀ bit < projection.bits, ∃ direction product,
    projection.direction bit = .ok direction ∧ narrowDot point direction = .ok product

/-- What scoring the centers at some positions relies on: every position has a point and a norm, and
the point is as long as the query. -/
def Fold.Serves (fold : Fold Float32 Float) (query : Point) (positions : List Nat) : Prop :=
  ∀ position ∈ positions, ∃ point norm product,
    entryAt fold.points position = .ok point ∧ entryAt fold.norms position = .ok norm ∧
      Point.dot point query = .ok product

theorem Projection.Full.serves {projection : Projection Float32} (full : projection.Full)
    {point : Point} (fits : point.length = projection.dimension) : projection.Serves point := by
  intro bit inside
  have same : point.length = (projection.stretch bit).length := by
    rw [fits, length_stretch full inside]
  exact ⟨_, _, direction_eq_ok full inside, laneDot_eq_ok same⟩

/-- A fold serves every query that has the dimension of its points. -/
theorem Fold.Fits.serves {fold : Fold Float32 Float} {query : Point} (fits : fold.Fits query)
    {positions : List Nat} (inside : ∀ position ∈ positions, position < fold.size) :
    fold.Serves query positions := by
  intro position member
  obtain ⟨center, found⟩ : ∃ center, fold.centers.toList[position]? = some center :=
    ⟨_, List.getElem?_eq_getElem (inside position member)⟩
  have point : fold.points[position]? = some center.point := by
    rw [Fold.points, List.getElem?_map, found, Option.map_some]
  have norm : fold.norms[position]? = some center.norm := by
    rw [Fold.norms, List.getElem?_map, found, Option.map_some]
  have same : (center.point.map (widen (α := Float))).length
      = (query.map (widen (α := Float))).length := by
    rw [List.length_map, List.length_map, fits _ (List.mem_of_getElem? point)]
  exact ⟨center.point, center.norm, _, entryAt_eq_ok_iff.mpr point, entryAt_eq_ok_iff.mpr norm,
    laneDot_eq_ok same⟩

namespace Index

/-- What a search of one fold relies on. An exact one reads the fold and scores all centers. An
approximate one needs random directions and current sketches; it sketches the query, compares it with
one sketch per center of the same width, and scores the shortlist. -/
inductive Serves (index : Index) (query : Point) (fold : Nat) : (approximate : Bool) → Prop
  | exact {store : Fold Float32 Float} (found : entryAt index.folds fold = .ok store)
      (scores : store.Serves query (List.range store.size)) : Serves index query fold false
  | approximate {store : Fold Float32 Float} {projection : Projection Float32}
      {sketches : List Sketch} {querySketch : Sketch}
      (found : entryAt index.folds fold = .ok store)
      (built : index.projection = some projection) (fresh : index.freshness = .fresh)
      (listed : entryAt index.sketches fold = .ok sketches)
      (directions : projection.Serves query) (sketch : projection.sketch query = .ok querySketch)
      (aligned : sameLength store.points sketches = .ok ())
      (widths : ∀ sketch ∈ sketches, querySketch.width = sketch.width)
      (scores : store.Serves query
        (querySketch.shortlist sketches index.configuration.samples).positions) :
      Serves index query fold true

/-! ## Starting an index -/

theorem intact_create (configuration : Configuration) : Intact (create configuration) := by
  have checked : Intact configuration.check := by
    rw [Configuration.check]
    split_ifs <;> simp
  exact checked.map _

section Step

variable (index : Index) {fold : Nat} {point : Point}

/-- A refusal is no breach, and a step behind its checks may rely on them. -/
theorem intact_guarded {step : Step α}
    (h : fold < index.size → point.length = index.dimension → Intact step.answer) :
    Intact (index.guarded fold point step).answer := by
  rw [guarded]
  split_ifs with outside misfit
  · simp [Step.refuse]
  · simp [Step.refuse]
  · exact h (Nat.lt_of_not_le outside) (not_not.mp misfit)

theorem intact_add (point : Point) (fold : Nat) : Intact (index.add point fold).answer := by
  rw [add_eq_guarded]
  exact intact_guarded index fun _ _ => intact_ok ()

theorem intact_addAll (points : List (Point × Nat)) : Intact (index.addAll points).answer := by
  induction points generalizing index with
  | nil => exact intact_ok ()
  | cons placement points ih =>
    obtain ⟨point, fold⟩ := placement
    rw [addAll, Step.andThen]
    split
    · exact ih _
    · rename_i fault failed
      have added := intact_add index point fold
      rwa [failed] at added

theorem intact_fold (fold : Nat) : Intact (index.fold fold) := by
  rw [Index.fold]
  split <;> simp

theorem intact_checkFold (fold : Nat) : Intact (index.checkFold fold) := by
  rw [checkFold]
  split_ifs <;> simp

end Step

theorem intact_ofSets (configuration : Configuration) (sets : List (List Point)) :
    Intact (ofSets configuration sets) := by
  refine (intact_create configuration).bind fun empty => ?_
  exact (intact_addAll empty (placed sets)).bind fun _ => intact_ok _

theorem intact_checkSet (dimension fold : Nat) (set : List Point) :
    Intact (checkSet dimension fold set) := by
  refine intact_forM ?_
  rintro ⟨center, position⟩ -
  dsimp only
  split_ifs <;> simp

theorem intact_ofCenters (sets : List (List Point)) (bits samples : Nat) (seed : UInt64) :
    Intact (ofCenters sets bits samples seed) := by
  match sets with
  | [] | [] :: _ => simp [ofCenters]
  | (first :: _) :: _ =>
    exact (intact_forM fun _ _ => intact_checkSet _ _ _).bind fun _ => intact_ofSets _ _

theorem intact_origin (origin : Origin) : Intact origin.index := by
  cases origin with
  | empty configuration => exact intact_create configuration
  | centers sets bits samples seed => exact intact_ofCenters sets bits samples seed

/-! ## Calling an index -/

theorem intact_pairWithWeights (fold : Nat) (points : List Point) (weights : List Float) :
    Intact (pairWithWeights fold points weights) := by
  rw [pairWithWeights]
  split_ifs <;> simp

/-- Whatever the source, a missing weight is no breach. -/
theorem intact_pairWithSource (fold : Nat) (points : List Point) (source : WeightSource) :
    Intact (pairWithSource fold points source) := by
  refine intact_mapM ?_
  rintro ⟨point, position⟩ -
  dsimp only
  split <;> simp

namespace Kept

variable {configuration : Configuration} {stored : Nat → List Point} {index : Index}

/-- No call of an index that keeps its points breaks a promise. -/
theorem intact_perform (h : Kept configuration stored index) (call : Call) :
    Intact (index.perform call).answer := by
  cases call with
  | add point fold => exact (intact_add index point fold).map _
  | rebuild =>
    have drawn : index.rebuild.answer = .ok () := by rw [rebuild_of_drawn h.drawn_eq]
    show Intact (index.rebuild.answer.map _)
    rw [drawn]
    exact intact_ok _
  | distance query fold approximate =>
    have answered : Intact (index.distance query fold approximate).answer := by
      rw [distance_eq_guarded]
      refine intact_guarded index fun inside fits => ?_
      obtain ⟨nearest, answer⟩ := h.exists_asked inside fits approximate
      rw [answer]
      exact intact_ok nearest
    exact answered.map _
  | distances query approximate =>
    have answered : Intact (index.distances query approximate).answer := by
      by_cases fits : query.length = configuration.dimension
      · rw [(h.distances_eq fits approximate).1]
        exact intact_ok _
      · rw [h.distances_eq_refuse fits]
        simp [Step.refuse]
    exact answered.map _
  | points fold => exact ((intact_fold index fold).map _).map _
  | sketches fold => exact ((intact_checkFold index fold).map _).map _
  | weightedFold fold weights =>
    refine Intact.map ?_ _
    exact ((intact_fold index fold).map _).bind fun points =>
      intact_pairWithWeights fold points weights
  | weighted source =>
    refine Intact.map ?_ _
    exact intact_mapM fun numbered _ => intact_pairWithSource numbered.2 numbered.1.points source

theorem intact_history (h : Kept configuration stored index) (calls : List Call) :
    ∀ event ∈ index.history calls, Intact event.answer := by
  -- the index that a call leaves keeps one more point at most, and the next call goes on from there
  induction calls generalizing index stored with
  | nil => exact fun _ none => absurd none List.not_mem_nil
  | cons call calls ih =>
    rw [history]
    exact List.forall_mem_cons.mpr ⟨h.intact_perform call, ih (h.step call)⟩

/-- Every fold has its points and its sketches, current or not. -/
theorem entries (h : Kept configuration stored index) {fold : Nat}
    (inside : fold < configuration.folds) :
    entryAt index.folds fold = .ok (.ofPoints (stored fold)) ∧
      ∃ sketches, entryAt index.sketches fold = .ok sketches := by
  obtain ⟨shown, -, sketches, -⟩ := h.sketched.exists_shown
  have listed := getElem?_sketchesOf shown inside
  rw [← sketches] at listed
  exact ⟨entryAt_eq_ok_iff.mpr (h.fold?_eq inside), _, entryAt_eq_ok_iff.mpr listed⟩

/-- An index serves every search of a fold once its sketches are current, if they are needed. -/
theorem serves (h : Kept configuration stored index) {fold : Nat}
    (inside : fold < configuration.folds) {query : Point}
    (fits : query.length = configuration.dimension) {approximate : Bool}
    (current : approximate = true → index.freshness = .fresh) :
    index.Serves query fold approximate := by
  have found := (h.entries inside).1
  have same := Configuration.fits_ofPoints (h.fit fold) fits
  have full := configuration.full_projection
  cases approximate with
  | false => exact .exact found (same.serves fun _ => List.mem_range.mp)
  | true =>
    have fresh := current rfl
    cases h.sketched with
    | never _ _ stale =>
      rw [stale] at fresh
      cases fresh
    | earlier built _ shown _ sketches all =>
      obtain rfl := all fresh
      have listed : entryAt index.sketches fold
          = .ok ((shown fold).map configuration.projection.sketchOf) := by
        rw [entryAt_eq_ok_iff, sketches]
        exact getElem?_sketchesOf shown inside
      have aligned := configuration.sketched_ofPoints (shown fold) query
      obtain ⟨count, widths⟩ := Fold.sketched_eq_ok_iff.mp aligned
      refine .approximate found built fresh listed (full.serves fits)
        (Projection.sketch_eq_ok full fits) (sameLength_eq_ok_iff.mpr ?_) widths
        (same.serves fun position member => ?_)
      · rw [Fold.length_points, count]
      · exact List.mem_range.mp ((Fold.sublist_of_sketched aligned _).subset member)

/-- The random directions serve every point of the right dimension. -/
theorem serves_directions (h : Kept configuration stored index) {point : Point}
    (fits : point.length = configuration.dimension) : index.directions.Serves point := by
  rw [h.directions_eq]
  exact configuration.full_projection.serves fits

end Kept

end Index

namespace Run

/-- However an index is started and whatever is called on it, no answer is a breach. After every run,
each fold number that passes its check stands for a fold and a list of sketches, a rebuild finds the
random directions as long as every stored point, and a search whose arguments pass finds, once the
index is prepared, all that it relies on. -/
theorem no_breach :
    (∀ origin : Origin, Intact origin.index) ∧
    ∀ run : Run,
      (∀ event ∈ run.history, Intact event.answer) ∧
      (∀ fold, run.index.checkFold fold = .ok () →
        (∃ store, entryAt run.index.folds fold = .ok store) ∧
          ∃ sketches, entryAt run.index.sketches fold = .ok sketches) ∧
      (∀ store ∈ run.index.folds, ∀ point ∈ store.points, run.index.directions.Serves point) ∧
      ∀ (query : Point) (fold : Nat) (approximate : Bool),
        run.index.checkFold fold = .ok () → query.check run.index.dimension = .ok () →
          (run.index.prepare approximate).answer = .ok () ∧
            (run.index.prepare approximate).index.Serves query fold approximate := by
  refine ⟨Index.intact_origin, fun run => ?_⟩
  have kept := run.kept
  have inside {fold : Nat} (passed : run.index.checkFold fold = .ok ()) :
      fold < run.configuration.folds := by
    rw [← kept.size_eq]
    exact (Index.checkFold_eq_ok_iff run.index).mp passed
  refine ⟨?_, ?_, ?_, ?_⟩
  · exact (Index.kept_of_origin run.begun).intact_history run.calls
  · intro fold passed
    exact ⟨⟨_, (kept.entries (inside passed)).1⟩, (kept.entries (inside passed)).2⟩
  · intro store member point stored
    rw [kept.folds_eq, foldsOf] at member
    obtain ⟨fold, -, rfl⟩ := List.mem_map.mp member
    rw [Fold.points_ofPoints] at stored
    exact kept.serves_directions (kept.fit fold point stored)
  · intro query fold approximate passed fits
    rw [Point.check_eq_ok_iff, kept.dimension_eq] at fits
    obtain ⟨prepared, keeps, current⟩ := kept.prepare approximate
    exact ⟨prepared, keeps.serves (inside passed) fits current⟩

/-- A point that came after the first approximate query makes the sketches outdated, and points that
fit nowhere are refused; the next approximate query still finds all that it relies on. -/
theorem no_breach_outdated :
    ∃ run : Run, run.calls = [.distances [1] true, .add [2] 1, .add [3, 4] 0, .add [5] 7] ∧
      run.index.freshness = .stale ∧
      (∀ event ∈ run.history, Intact event.answer) ∧
      (run.index.prepare true).index.Serves [6] 1 true := by
  let run : Run := ⟨.centers [[[1]], [[-1]]] 2 1 7, _, rfl,
    [.distances [1] true, .add [2] 1, .add [3, 4] 0, .add [5] 7]⟩
  have inside : run.index.checkFold 1 = .ok () := by
    rw [Index.checkFold_eq_ok_iff, run.kept.size_eq]
    exact Nat.one_lt_two
  have fits : Point.check [6] run.index.dimension = .ok () := by
    rw [Point.check_eq_ok_iff, run.kept.dimension_eq]
    rfl
  have outdated : run.index.freshness = .stale := by decide +kernel
  obtain ⟨intact, -, -, served⟩ := no_breach.2 run
  exact ⟨run, rfl, outdated, intact, (served [6] 1 true inside fits).2⟩

end Run

end KMeansSeeding
