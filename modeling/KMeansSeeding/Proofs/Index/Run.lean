import KMeansSeeding.Index.Query
import KMeansSeeding.Index.Weighted
import KMeansSeeding.Proofs.Promises

/-!
# Runs of an index

A run starts an index and then makes calls, one after another, of any operation and with any
arguments; a call that fails is an event like any other. `Effect` is what a single event can do to
the index: append a point, make all sketches anew, or nothing. Facts about runs go by induction over
the calls with these three cases.
-/

namespace KMeansSeeding

/-! ## Calls and events -/

/-- A call of an operation. -/
inductive Call where
  | add (point : Point) (fold : Nat)
  | rebuild
  | distance (query : Point) (fold : Nat) (approximate : Bool)
  | distances (query : Point) (approximate : Bool)
  | points (fold : Nat)
  | sketches (fold : Nat)
  | weightedFold (fold : Nat) (weights : List Float)
  | weighted (source : WeightSource)

/-- The answer of a successful call. -/
inductive Reply where
  | done
  | nearest (outcome : Nearest Float)
  | outcomes (outcomes : List (Nearest Float))
  | points (points : List Point)
  | sketches (sketches : Option (List Sketch))
  | weightedFold (weighted : List WeightedPoint)
  | weighted (weighted : List (List WeightedPoint))

/-- A call and its answer. -/
structure Event where
  call : Call
  answer : Except Fault Reply

/-- The point that an event added to a fold, if it did. -/
def added (fold : Nat) : Event → Option Point
  | ⟨.add point target, .ok _⟩ => if target = fold then some point else none
  | _ => none

/-- The points that a history added to a fold, in order. -/
def accepted (fold : Nat) (history : List Event) : List Point :=
  history.filterMap (added fold)

namespace Index

/-- Carries out a call. An export reads the index and leaves it alone. -/
def perform (index : Index) : Call → Step Reply
  | .add point fold => (index.add point fold).map fun _ => .done
  | .rebuild => index.rebuild.map fun _ => .done
  | .distance query fold approximate => (index.distance query fold approximate).map .nearest
  | .distances query approximate => (index.distances query approximate).map .outcomes
  | .points fold => ⟨(index.points fold).map .points, index, []⟩
  | .sketches fold => ⟨(index.currentSketches fold).map .sketches, index, []⟩
  | .weightedFold fold weights => ⟨(index.weightedFold fold weights).map .weightedFold, index, []⟩
  | .weighted source => ⟨(index.weighted source).map .weighted, index, []⟩

/-- A call with its answer. -/
def event (index : Index) (call : Call) : Event :=
  ⟨call, (index.perform call).answer⟩

/-- The index after some calls. -/
def after (index : Index) : List Call → Index
  | [] => index
  | call :: calls => (index.perform call).index.after calls

/-- What happened during some calls. -/
def history (index : Index) : List Call → List Event
  | [] => []
  | call :: calls => index.event call :: (index.perform call).index.history calls

end Index

/-- How an index comes into being: without points, or with one set of centers per fold. -/
inductive Origin where
  | empty (configuration : Configuration)
  | centers (sets : List (List Point)) (bits samples : Nat) (seed : UInt64)

namespace Origin

/-- The configuration of the index. Center sets give the number of folds and, by their first center,
the dimension. -/
def configuration : Origin → Configuration
  | .empty configuration => configuration
  | .centers sets bits samples seed =>
    { Configuration.ofShape sets.length (sets.flatten.headD []).length with bits, samples, seed }

/-- The index that is started, if the arguments are acceptable. -/
def index : Origin → Except Fault Index
  | .empty configuration => Index.create configuration
  | .centers sets bits samples seed => Index.ofCenters sets bits samples seed

/-- The points that are in a fold from the start. -/
def points : Origin → (fold : Nat) → List Point
  | .empty _, _ => []
  | .centers sets _ _ _, fold => sets[fold]?.getD []

end Origin

/-- An index that was started, and the calls that followed. -/
structure Run where
  origin : Origin
  start : Index
  begun : origin.index = .ok start
  calls : List Call

namespace Run

/-- The configuration that the index was started with. -/
def configuration (run : Run) : Configuration :=
  run.origin.configuration

/-- The index in the end. -/
def index (run : Run) : Index :=
  run.start.after run.calls

/-- What happened since the start. -/
def history (run : Run) : List Event :=
  run.start.history run.calls

/-- The points of a fold: those from the start, then those that were added successfully. -/
def stored (run : Run) (fold : Nat) : List Point :=
  run.origin.points fold ++ accepted fold run.history

end Run

/-! ## What an event can do -/

namespace Index

/-- The index with one more point. -/
def grown (index : Index) (point : Point) (fold : Nat) : Index :=
  { index with folds := index.folds.modify fold (·.push point), freshness := .stale }

/-- All sketches of the stored points. -/
def drawn (index : Index) : Except Breach (List (List Sketch)) :=
  index.folds.mapM fun fold => fold.points.mapM index.directions.sketch

/-- The index with other sketches. -/
def renewed (index : Index) (sketches : List (List Sketch)) : Index :=
  { index with
    sketches, projection := some index.directions, freshness := .fresh,
    rebuilds := index.rebuilds + 1 }

/-- The index after an event: with one more point, with new sketches, or as before. -/
inductive Effect (index : Index) : Event → Index → Prop
  | grown {point fold reply} (inside : fold < index.size) (fits : point.length = index.dimension) :
      Effect index ⟨.add point fold, .ok reply⟩ (index.grown point fold)
  | renewed {event sketches} (idle : ∀ fold, added fold event = none)
      (drawn : index.drawn = .ok sketches) : Effect index event (index.renewed sketches)
  | unchanged {event} (idle : ∀ fold, added fold event = none) : Effect index event index

variable (index : Index)

theorem rebuild_of_drawn {index : Index} {sketches : List (List Sketch)}
    (drawn : index.drawn = .ok sketches) :
    index.rebuild = ⟨.ok (), index.renewed sketches, index.generated ++ [index.rebuilt]⟩ := by
  rw [Index.drawn, ← sketchFolds_eq_mapM] at drawn
  simp only [rebuild, drawn]
  rfl

/-- A rebuild makes all sketches anew, or nothing happens. -/
theorem index_rebuild :
    index.rebuild.index = index ∨
      ∃ sketches, index.drawn = .ok sketches ∧ index.rebuild.index = index.renewed sketches := by
  cases drawn : index.drawn with
  | error breach =>
    left
    rw [Index.drawn, ← sketchFolds_eq_mapM] at drawn
    simp only [rebuild, drawn]
  | ok sketches => exact .inr ⟨sketches, rfl, by rw [rebuild_of_drawn drawn]⟩

theorem index_prepare (approximate : Bool) :
    (index.prepare approximate).index = index ∨
      ∃ sketches, index.drawn = .ok sketches ∧
        (index.prepare approximate).index = index.renewed sketches := by
  rw [prepare]
  split
  · exact index_rebuild index
  · exact .inl rfl

/-- A query of one fold leaves the index as it is, or as its preparation left it. -/
theorem index_distance (query : Point) (fold : Nat) (approximate : Bool) :
    (index.distance query fold approximate).index = index ∨
      (index.distance query fold approximate).index = (index.prepare approximate).index := by
  rw [distance]
  split
  · exact .inl rfl
  · exact .inl rfl
  · rw [Step.andThen]
    split <;> exact .inr rfl

/-- A query of all folds leaves the index as it is, or as its preparation left it. -/
theorem index_distances (query : Point) (approximate : Bool) :
    (index.distances query approximate).index = index ∨
      (index.distances query approximate).index = (index.prepare approximate).index := by
  rw [distances]
  split
  · exact .inl rfl
  · rw [Step.andThen]
    split <;> exact .inr rfl

theorem checkFold_eq_ok_iff {fold : Nat} : index.checkFold fold = .ok () ↔ fold < index.size := by
  unfold checkFold
  split <;> simp_all

/-- The outcome of adding a point, by the checks that it has to pass. -/
theorem add_cases (point : Point) (fold : Nat) :
    (fold < index.size ∧ point.length = index.dimension ∧
        index.add point fold = .done () (index.grown point fold)) ∨
      ∃ fault, index.add point fold = .refuse fault index := by
  rw [add]
  split
  · exact .inr ⟨_, rfl⟩
  · exact .inr ⟨_, rfl⟩
  · rename_i inside fits
    exact .inl ⟨(checkFold_eq_ok_iff index).mp inside, Point.check_eq_ok_iff.mp fits, rfl⟩

/-- Every call has one of the three effects. -/
theorem effect (call : Call) : Effect index (index.event call) (index.perform call).index := by
  -- a query changes the index only while it prepares it, and that is at most a rebuild
  have query {event : Event} {after prepared : Index} (idle : ∀ fold, added fold event = none)
      (hafter : after = index ∨ after = prepared)
      (hprepared : prepared = index ∨
        ∃ sketches, index.drawn = .ok sketches ∧ prepared = index.renewed sketches) :
      Effect index event after := by
    rcases hafter with rfl | rfl
    · exact .unchanged idle
    · rcases hprepared with rfl | ⟨sketches, drawn, rfl⟩
      · exact .unchanged idle
      · exact .renewed idle drawn
  cases call with
  | add point fold =>
    rw [event, perform]
    rcases add_cases index point fold with ⟨inside, fits, h⟩ | ⟨fault, h⟩
    · rw [h]
      exact .grown inside fits
    · rw [h]
      exact .unchanged fun _ => rfl
  | rebuild => exact query (fun _ => rfl) (.inr rfl) (index_rebuild index)
  | distance point fold approximate =>
    exact query (fun _ => rfl) (index_distance index point fold approximate)
      (index_prepare index approximate)
  | distances point approximate =>
    exact query (fun _ => rfl) (index_distances index point approximate)
      (index_prepare index approximate)
  | points | sketches | weightedFold | weighted => exact .unchanged fun _ => rfl

end Index

/-! ## Filling an index -/

theorem accepted_cons (fold : Nat) (event : Event) (history : List Event) :
    accepted fold (event :: history) = (added fold event).toList ++ accepted fold history := by
  rw [accepted, List.filterMap_cons]
  cases added fold event <;> rfl

/-- The calls that add some points, each to its fold. -/
def addCalls (points : List (Point × Nat)) : List Call :=
  points.map fun (point, fold) => .add point fold

/-- A chain of additions that succeeds is a run of successful calls. -/
theorem Index.addAll_eq_after {index : Index} {points : List (Point × Nat)}
    (h : (index.addAll points).answer = .ok ()) :
    (index.addAll points).index = index.after (addCalls points) ∧
      index.history (addCalls points)
        = points.map fun (point, fold) => ⟨.add point fold, .ok .done⟩ := by
  induction points generalizing index with
  | nil => exact ⟨rfl, rfl⟩
  | cons placed points ih =>
    obtain ⟨point, fold⟩ := placed
    have perform : index.perform (.add point fold) = (index.add point fold).map fun _ => .done := rfl
    rw [addAll] at h ⊢
    rcases add_cases index point fold with ⟨-, -, added⟩ | ⟨fault, refused⟩
    · rw [added] at h perform ⊢
      obtain ⟨hindex, hhistory⟩ := ih h
      rw [addCalls, List.map_cons, ← addCalls, after, history, event, perform]
      exact ⟨hindex, congrArg _ hhistory⟩
    · -- a refusal would be the answer of the whole chain
      rw [refused] at h
      cases h

/-- The point of a placement, if it is in a fold. -/
def placedIn (fold : Nat) (placement : Point × Nat) : Option Point :=
  if placement.2 = fold then some placement.1 else none

/-- Among the placed points of some sets, those of one fold are its set. -/
theorem filterMap_placed (sets : List (List Point)) (fold : Nat) :
    (Index.placed sets).filterMap (placedIn fold) = sets[fold]?.getD [] := by
  have pick : ∀ (set : List Point) (target : Nat),
      (set.map (·, target)).filterMap (placedIn fold) = if target = fold then set else [] := by
    intro set target
    rw [List.filterMap_map]
    split_ifs with h <;> simp [placedIn, Function.comp_def, h]
  -- the numbers of the sets start anywhere, so that the induction can go on with the next one
  have numbered : ∀ start,
      ((sets.zipIdx start).flatMap fun numbered => numbered.1.map (·, numbered.2)).filterMap
        (placedIn fold) = if start ≤ fold then sets[fold - start]?.getD [] else [] := by
    induction sets with
    | nil => simp
    | cons set sets ih =>
      intro start
      rw [List.zipIdx_cons, List.flatMap_cons, List.filterMap_append, pick, ih]
      rcases Nat.lt_trichotomy start fold with before | rfl | after
      · rw [if_neg (by omega), if_pos (by omega), if_pos (by omega),
          show fold - start = fold - (start + 1) + 1 by omega, List.getElem?_cons_succ, List.nil_append]
      · rw [if_pos rfl, if_neg (by omega), if_pos (by omega), Nat.sub_self, List.getElem?_cons_zero,
          Option.getD_some, List.append_nil]
      · rw [if_neg (by omega), if_neg (by omega), if_neg (by omega), List.append_nil]
  exact (numbered 0).trans (if_pos (Nat.zero_le fold))

/-- The points that successful additions bring to a fold. -/
theorem accepted_addAll (points : List (Point × Nat)) (fold : Nat) :
    accepted fold (points.map fun (point, target) => ⟨.add point target, .ok .done⟩)
      = points.filterMap (placedIn fold) := by
  rw [accepted, List.filterMap_map]
  rfl

end KMeansSeeding
