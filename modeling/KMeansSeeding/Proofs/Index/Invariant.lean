import KMeansSeeding.Proofs.Index.Run
import KMeansSeeding.Proofs.Scoring
import KMeansSeeding.Proofs.Sketching

/-!
# What every run of an index keeps

`Kept` describes an index by its configuration and the points that were added to each fold: the folds
are those of the points, and the sketches are those of some earlier points, which are all points if
the index is fresh. Every start has it, every event keeps it (`Kept.step`), and so it holds at the
end of every run (`Run.kept`).
-/

namespace KMeansSeeding

/-- The random directions of a configuration. -/
def Configuration.projection (configuration : Configuration) : Projection Float32 :=
  .generate configuration.dimension configuration.bits configuration.seed

theorem Configuration.full_projection (configuration : Configuration) :
    configuration.projection.Full :=
  Projection.full_generate _ _ _

/-- Folds of given points. -/
def foldsOf (count : Nat) (stored : Nat → List Point) : List (Fold Float32 Float) :=
  (List.range count).map fun fold => .ofPoints (stored fold)

/-- The sketches of given points, fold by fold. -/
def sketchesOf (configuration : Configuration) (shown : Nat → List Point) : List (List Sketch) :=
  (List.range configuration.folds).map fun fold =>
    (shown fold).map configuration.projection.sketchOf

theorem getElem?_foldsOf {count fold : Nat} (stored : Nat → List Point) (inside : fold < count) :
    (foldsOf count stored)[fold]? = some (.ofPoints (stored fold)) := by
  rw [foldsOf, List.getElem?_map, List.getElem?_range inside, Option.map_some]

theorem getElem?_sketchesOf {configuration : Configuration} {fold : Nat} (shown : Nat → List Point)
    (inside : fold < configuration.folds) :
    (sketchesOf configuration shown)[fold]?
      = some ((shown fold).map configuration.projection.sketchOf) := by
  rw [sketchesOf, List.getElem?_map, List.getElem?_range inside, Option.map_some]

/-- Appending a point to one fold is storing one more point there. -/
theorem modify_foldsOf (count : Nat) (stored : Nat → List Point) (point : Point) (target : Nat) :
    (foldsOf count stored).modify target (·.push point)
      = foldsOf count fun fold => stored fold ++ if target = fold then [point] else [] := by
  refine List.ext_getElem? fun fold => ?_
  rw [List.getElem?_modify]
  rcases Nat.lt_or_ge fold count with inside | outside
  · rw [getElem?_foldsOf _ inside, getElem?_foldsOf _ inside]
    by_cases h : target = fold <;> simp [h]
  · rw [List.getElem?_eq_none (by simpa [foldsOf] using outside),
      List.getElem?_eq_none (by simpa [foldsOf] using outside)]
    rfl

namespace Index

/-- How far the sketches of an index have come: none were ever made, or they are those of the first
points of every fold, and of all points if the index is fresh. -/
inductive Sketched (configuration : Configuration) (stored : Nat → List Point) (index : Index) : Prop
  | never (unbuilt : index.projection = none) (rebuilds : index.rebuilds = 0)
      (stale : index.freshness = .stale) (sketches : index.sketches = sketchesOf configuration fun _ => [])
  | earlier (built : index.projection = some configuration.projection) (rebuilds : 0 < index.rebuilds)
      (shown : Nat → List Point) (initial : ∀ fold, shown fold <+: stored fold)
      (sketches : index.sketches = sketchesOf configuration shown)
      (current : index.freshness = .fresh → shown = stored)

/-- What an index is at any time, where `stored` are the points that were added to each fold. -/
structure Kept (configuration : Configuration) (stored : Nat → List Point) (index : Index) : Prop where
  configuration_eq : index.configuration = configuration
  fit : ∀ fold, ∀ point ∈ stored fold, point.length = configuration.dimension
  folds_eq : index.folds = foldsOf configuration.folds stored
  sketched : Sketched configuration stored index

/-- In any case there are sketches of the first points of every fold. -/
theorem Sketched.exists_shown {configuration : Configuration} {stored : Nat → List Point}
    {index : Index} (h : Sketched configuration stored index) :
    ∃ shown : Nat → List Point, (∀ fold, shown fold <+: stored fold) ∧
      index.sketches = sketchesOf configuration shown ∧
      (index.freshness = .fresh → shown = stored) := by
  cases h with
  | never _ _ stale sketches =>
    refine ⟨_, fun _ => List.nil_prefix, sketches, fun fresh => ?_⟩
    rw [stale] at fresh
    cases fresh
  | earlier _ _ shown initial sketches current =>
    exact ⟨shown, initial, sketches, current⟩

namespace Kept

variable {configuration : Configuration} {stored : Nat → List Point} {index : Index}

theorem size_eq (h : Kept configuration stored index) : index.size = configuration.folds := by
  rw [size, h.folds_eq, foldsOf, List.length_map, List.length_range]

theorem dimension_eq (h : Kept configuration stored index) :
    index.dimension = configuration.dimension := by
  rw [dimension, h.configuration_eq]

/-- The random directions are those of the configuration, made or not. -/
theorem directions_eq (h : Kept configuration stored index) :
    index.directions = configuration.projection := by
  rw [directions, dimension, h.configuration_eq, ← Configuration.projection]
  cases h.sketched with
  | never unbuilt => rw [unbuilt, Option.getD_none]
  | earlier built => rw [built, Option.getD_some]

/-- A fresh index has random directions and the sketches of all points. -/
theorem sketched_of_fresh (h : Kept configuration stored index) (fresh : index.freshness = .fresh) :
    index.projection = some configuration.projection ∧
      index.sketches = sketchesOf configuration stored := by
  cases h.sketched with
  | never _ _ stale =>
    rw [stale] at fresh
    cases fresh
  | earlier built _ shown _ sketches current => exact ⟨built, current fresh ▸ sketches⟩

theorem fold?_eq (h : Kept configuration stored index) {fold : Nat}
    (inside : fold < configuration.folds) : index.folds[fold]? = some (.ofPoints (stored fold)) := by
  rw [h.folds_eq, getElem?_foldsOf stored inside]

/-- Points that were added to a fold have their sketches. -/
theorem forall₂_sketch (h : Kept configuration stored index) {fold : Nat} {points : List Point}
    (first : points <+: stored fold) :
    List.Forall₂ (fun point sketch => configuration.projection.sketch point = .ok sketch) points
      (points.map configuration.projection.sketchOf) := by
  refine List.forall₂_map_right_iff.mpr (List.forall₂_same.mpr fun point member => ?_)
  exact Projection.sketch_eq_ok configuration.full_projection (h.fit fold point (first.subset member))

/-- A rebuild makes the sketches of all points. -/
theorem drawn_eq (h : Kept configuration stored index) :
    index.drawn = .ok (sketchesOf configuration stored) := by
  rw [drawn, h.directions_eq, h.folds_eq, foldsOf, List.mapM_map]
  refine mapM_eq_ok_map fun fold _ => ?_
  rw [Function.comp_apply, Fold.points_ofPoints]
  exact Projection.mapM_sketch_eq_ok configuration.full_projection (h.fit fold)

theorem renewed (h : Kept configuration stored index) :
    Kept configuration stored (index.renewed (sketchesOf configuration stored)) where
  configuration_eq := h.configuration_eq
  fit := h.fit
  folds_eq := h.folds_eq
  sketched := .earlier (congrArg some h.directions_eq) (Nat.succ_pos _) stored
    (fun _ => List.prefix_refl _) rfl fun _ => rfl

theorem grown (h : Kept configuration stored index) {point : Point}
    (fits : point.length = index.dimension) (target : Nat) :
    Kept configuration (fun fold => stored fold ++ if target = fold then [point] else [])
      (index.grown point target) where
  configuration_eq := h.configuration_eq
  fit fold other member := by
    rcases List.mem_append.mp member with member | member
    · exact h.fit fold other member
    · split at member
      · rw [List.mem_singleton.mp member, fits, h.dimension_eq]
      · exact absurd member List.not_mem_nil
  folds_eq := by
    rw [← modify_foldsOf, ← h.folds_eq]
    rfl
  -- old sketches now cover a shorter part of the points, and the index is stale in both cases
  sketched := by
    cases h.sketched with
    | never unbuilt rebuilds _ sketches => exact .never unbuilt rebuilds rfl sketches
    | earlier built rebuilds shown initial sketches =>
      exact .earlier built rebuilds shown
        (fun fold => (initial fold).trans (List.prefix_append _ _)) sketches nofun

/-- An event stores the point that it added, if any. -/
theorem step (h : Kept configuration stored index) (call : Call) :
    Kept configuration (fun fold => stored fold ++ (added fold (index.event call)).toList)
      (index.perform call).index := by
  -- every event but a successful addition leaves the stored points alone
  have idle {event : Event} (idle : ∀ fold, added fold event = none) :
      (fun fold => stored fold ++ (added fold event).toList) = stored := by
    funext fold
    rw [idle, Option.toList_none, List.append_nil]
  have effect := index.effect call
  generalize index.event call = event at effect ⊢
  generalize (index.perform call).index = after at effect ⊢
  cases effect with
  | @grown point target _ inside fits =>
    have one : ∀ reply, (fun fold => stored fold ++ (added fold ⟨.add point target, .ok reply⟩).toList)
        = fun fold => stored fold ++ if target = fold then [point] else [] := by
      intro reply
      funext fold
      rw [added]
      split_ifs <;> rfl
    rw [one]
    exact h.grown fits target
  | renewed quiet drawn =>
    rw [idle quiet]
    -- the effect only says that the sketches were drawn; the invariant says from which points
    obtain rfl := Except.ok.inj (h.drawn_eq.symm.trans drawn)
    exact h.renewed
  | unchanged quiet =>
    rw [idle quiet]
    exact h

/-- A run of calls stores the points that it added. -/
theorem after (h : Kept configuration stored index) (calls : List Call) :
    Kept configuration (fun fold => stored fold ++ accepted fold (index.history calls))
      (index.after calls) := by
  -- both the index and what it has stored so far change from call to call
  induction calls generalizing index stored with
  | nil => simpa [accepted, history, Index.after] using h
  | cons call calls ih =>
    have rest := ih (h.step call)
    simpa only [history, accepted_cons, List.append_assoc, Index.after] using rest

end Kept

/-! ## Starting an index -/

theorem kept_of_create {configuration : Configuration} {index : Index}
    (h : create configuration = .ok index) : Kept configuration (fun _ => []) index := by
  obtain ⟨⟨⟩, -, rfl⟩ := map_eq_ok_iff.mp h
  have folds : List.replicate configuration.folds (Fold.empty : Fold Float32 Float)
      = foldsOf configuration.folds fun _ => [] := by
    rw [foldsOf, List.map_const', List.length_range]
    rfl
  have sketches : List.replicate configuration.folds ([] : List Sketch)
      = sketchesOf configuration fun _ => [] := by
    rw [sketchesOf, List.map_nil, List.map_const', List.length_range]
  exact ⟨rfl, nofun, folds, .never rfl rfl rfl sketches⟩

/-- An index that was filled from some sets keeps set `f` in fold `f`. -/
theorem kept_of_ofSets {configuration : Configuration} {sets : List (List Point)} {index : Index}
    (h : ofSets configuration sets = .ok index) :
    Kept configuration (fun fold => sets[fold]?.getD []) index := by
  obtain ⟨empty, created, h⟩ := bind_eq_ok_iff.mp h
  obtain ⟨⟨⟩, filled, h⟩ := bind_eq_ok_iff.mp h
  obtain rfl := Except.ok.inj h
  obtain ⟨hindex, hhistory⟩ := addAll_eq_after filled
  have full := (kept_of_create created).after (addCalls (placed sets))
  simpa only [hhistory, accepted_addAll, filterMap_placed, List.nil_append, ← hindex] using full

/-- An index keeps the points that it was started with. -/
theorem kept_of_origin {origin : Origin} {index : Index} (h : origin.index = .ok index) :
    Kept origin.configuration origin.points index := by
  match origin, h with
  | .empty _, h => exact kept_of_create h
  | .centers ((first :: rest) :: others) _ _ _, h =>
    obtain ⟨⟨⟩, -, h⟩ := bind_eq_ok_iff.mp h
    exact kept_of_ofSets h

theorem sound_of_create {configuration : Configuration} {index : Index}
    (h : create configuration = .ok index) : configuration.Sound := by
  obtain ⟨⟨⟩, checked, -⟩ := map_eq_ok_iff.mp h
  exact Configuration.check_eq_ok_iff.mp checked

theorem sound_of_ofSets {configuration : Configuration} {sets : List (List Point)} {index : Index}
    (h : ofSets configuration sets = .ok index) : configuration.Sound := by
  obtain ⟨empty, created, -⟩ := bind_eq_ok_iff.mp h
  exact sound_of_create created

/-- An index is only started with a sound configuration. -/
theorem sound_of_origin {origin : Origin} {index : Index} (h : origin.index = .ok index) :
    origin.configuration.Sound := by
  match origin, h with
  | .empty _, h => exact sound_of_create h
  | .centers ((first :: rest) :: others) _ _ _, h =>
    obtain ⟨⟨⟩, -, h⟩ := bind_eq_ok_iff.mp h
    exact sound_of_ofSets h

end Index

namespace Run

open Index

variable (run : Run)

/-- At the end of a run the index keeps what the run stored. -/
theorem kept : Kept run.configuration run.stored run.index := by
  exact (kept_of_origin run.begun).after run.calls

/-- At the end of every run, the index has the configuration it was started with, one fold and one
list of sketches per fold, and directions that are those of its seed and exist exactly after a
rebuild. Each fold holds the points that were added to it and their norms; its list of sketches is
that of its first points, and that of all of them while the index is fresh. -/
theorem invariant :
    run.index.configuration = run.configuration ∧
    run.index.folds.length = run.configuration.folds ∧
    run.index.sketches.length = run.configuration.folds ∧
    (∀ projection, run.index.projection = some projection →
      projection = .generate run.configuration.dimension run.configuration.bits
        run.configuration.seed) ∧
    (run.index.projection = none ↔ run.index.rebuilds = 0) ∧
    (run.index.projection = none →
      run.index.freshness = .stale ∧ ∀ sketches ∈ run.index.sketches, sketches = []) ∧
    ∀ fold < run.configuration.folds, ∃ store sketches,
      run.index.folds[fold]? = some store ∧
      run.index.sketches[fold]? = some sketches ∧
      store.points = run.stored fold ∧
      (∀ point ∈ store.points, point.length = run.configuration.dimension) ∧
      store.norms = store.points.map Point.norm ∧
      (∃ earlier, earlier <+: store.points ∧
        List.Forall₂ (fun point sketch => run.configuration.projection.sketch point = .ok sketch)
          earlier sketches) ∧
      (run.index.freshness = .fresh →
        run.index.currentSketches fold = .ok (some sketches) ∧
        List.Forall₂ (fun point sketch => run.configuration.projection.sketch point = .ok sketch)
          store.points sketches) := by
  have kept := run.kept
  obtain ⟨shown, initial, sketches, current⟩ := kept.sketched.exists_shown
  refine ⟨kept.configuration_eq, kept.size_eq, ?_, ?_, ?_, ?_, fun fold inside => ?_⟩
  · rw [sketches, sketchesOf, List.length_map, List.length_range]
  · intro projection built
    cases kept.sketched with
    | never unbuilt =>
      rw [unbuilt] at built
      cases built
    | earlier made =>
      rw [made] at built
      exact (Option.some.inj built).symm
  · cases kept.sketched with
    | never unbuilt rebuilds => exact ⟨fun _ => rebuilds, fun _ => unbuilt⟩
    | earlier built rebuilds =>
      rw [built]
      exact ⟨nofun, fun none => absurd none (Nat.ne_of_gt rebuilds)⟩
  · intro unbuilt
    cases kept.sketched with
    | never _ _ stale none =>
      refine ⟨stale, fun list member => ?_⟩
      rw [none, sketchesOf] at member
      obtain ⟨_, -, rfl⟩ := List.mem_map.mp member
      rfl
    | earlier built =>
      rw [unbuilt] at built
      cases built
  · -- one fold: its points are `stored`, its sketches those of `shown`
    have list := getElem?_sketchesOf shown inside
    rw [← sketches] at list
    refine ⟨_, _, kept.fold?_eq inside, list, Fold.points_ofPoints _, ?_, ?_, ?_, fun fresh => ?_⟩
    · rw [Fold.points_ofPoints]
      exact kept.fit fold
    · rw [Fold.points_ofPoints, Fold.norms_ofPoints]
      rfl
    · rw [Fold.points_ofPoints]
      exact ⟨shown fold, initial fold, kept.forall₂_sketch (initial fold)⟩
    · rw [Fold.points_ofPoints, ← current fresh]
      refine ⟨?_, kept.forall₂_sketch (initial fold)⟩
      rw [currentSketches, (checkFold_eq_ok_iff run.index).mpr (by rwa [kept.size_eq]), fresh]
      exact congrArg _ list

/-- Refused additions and an approximate query between two additions leave the fold with the points
that were accepted. -/
theorem invariant_mixed_calls :
    ∃ run : Run, run.origin = .centers [[[1, 0]], [[5, 5]]] 2 2 7 ∧
      run.calls = [.distance [2, 1] 0 true, .add [3] 0, .add [-1, 0] 0, .add [2, 2] 9] ∧
      ∃ store, run.index.folds[0]? = some store ∧ store.points = ([[1, 0], [-1, 0]] : List Point) ∧
        store.norms = store.points.map Point.norm := by
  let run : Run := ⟨.centers [[[1, 0]], [[5, 5]]] 2 2 7, _, rfl,
    [.distance [2, 1] 0 true, .add [3] 0, .add [-1, 0] 0, .add [2, 2] 9]⟩
  have stored : run.stored 0 = [[1, 0], [-1, 0]] := by decide +kernel
  obtain ⟨store, -, found, -, points, -, norms, -⟩ := run.invariant.2.2.2.2.2.2 0 (by decide)
  exact ⟨run, rfl, rfl, store, found, points.trans stored, norms⟩

end Run

end KMeansSeeding
