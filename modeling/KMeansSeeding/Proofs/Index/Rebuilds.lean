import KMeansSeeding.Proofs.Index.Refusals

/-!
# How often the sketches are made

Sketches are made by every explicit rebuild, and by an approximate query that comes first after the
start or after an addition. `turn` sorts the events that matter for this, and `demanded` counts the
rebuilds of a history from its events alone. What an event does to an index is fixed by its turn
(`Kept.turned`), and so the counter of the index follows the count, call by call.
-/

namespace KMeansSeeding

/-! ## The rebuilds of a history -/

/-- What an event means for the sketches. -/
inductive Turn where
  /-- A point was added. -/
  | addition
  /-- A rebuild was called for. -/
  | rebuild
  /-- An approximate query passed its checks. -/
  | query
  deriving DecidableEq

/-- The turn of an event; none if it has nothing to do with the sketches. -/
def turn (configuration : Configuration) : Event → Option Turn
  | ⟨.add _ _, .ok _⟩ => some .addition
  | ⟨.rebuild, _⟩ => some .rebuild
  | ⟨.distance query fold true, _⟩ =>
    if fold < configuration.folds ∧ query.length = configuration.dimension then some .query
    else none
  | ⟨.distances query true, _⟩ =>
    if query.length = configuration.dimension then some .query else none
  | _ => none

/-- The last turn of a history; none if there was none since the start. -/
def lastTurn (configuration : Configuration) (history : List Event) : Option Turn :=
  (history.filterMap (turn configuration)).getLast?

/-- Whether the last turn of a history is the start or an addition. -/
def outdated (configuration : Configuration) (history : List Event) : Bool :=
  lastTurn configuration history = none ∨ lastTurn configuration history = some .addition

/-- Whether the event at a place is an approximate query whose last turn before it is the start or an
addition. -/
def asksFirst (configuration : Configuration) (history : List Event) (place : Nat) : Bool :=
  history[place]?.bind (turn configuration) = some .query ∧
    outdated configuration (history.take place)

/-- The rebuilds of a history: the explicit ones, and one for every query that asks first. -/
def demanded (configuration : Configuration) (history : List Event) : Nat :=
  history.countP (fun event => turn configuration event = some .rebuild) +
    (List.range history.length).countP (asksFirst configuration history)

section History

variable {configuration : Configuration} (history : List Event) (event : Event)

theorem lastTurn_append_singleton :
    lastTurn configuration (history ++ [event])
      = (turn configuration event).or (lastTurn configuration history) := by
  rw [lastTurn, lastTurn, List.filterMap_append, List.getLast?_append]
  cases turned : turn configuration event <;> simp [turned]

/-- An event without a turn leaves the last turn as it was. -/
theorem outdated_append_of_none (quiet : turn configuration event = none) :
    outdated configuration (history ++ [event]) = outdated configuration history := by
  rw [outdated, lastTurn_append_singleton, quiet, Option.none_or, ← outdated]

theorem outdated_append_of_some {last : Turn} (turned : turn configuration event = some last) :
    outdated configuration (history ++ [event]) = decide (last = .addition) := by
  rw [outdated, lastTurn_append_singleton, turned]
  simp

/-- What happens later does not matter for whether a query asked first. -/
theorem asksFirst_append {place : Nat} (before : place < history.length) :
    asksFirst configuration (history ++ [event]) place = asksFirst configuration history place := by
  rw [asksFirst, List.getElem?_append_left before, List.take_append_of_le_length before.le,
    ← asksFirst]

theorem asksFirst_last :
    asksFirst configuration (history ++ [event]) history.length
      = decide (turn configuration event = some .query ∧ outdated configuration history) := by
  rw [asksFirst, List.getElem?_concat_length, List.take_left]
  rfl

theorem demanded_append_singleton :
    demanded configuration (history ++ [event]) = demanded configuration history +
      ((if turn configuration event = some .rebuild then 1 else 0) +
        if turn configuration event = some .query ∧ outdated configuration history then 1 else 0) := by
  have same : (List.range history.length).countP (asksFirst configuration (history ++ [event]))
      = (List.range history.length).countP (asksFirst configuration history) := by
    refine List.countP_congr fun place member => ?_
    rw [asksFirst_append history event (List.mem_range.mp member)]
  rw [demanded, List.countP_append, List.countP_singleton, List.length_append, List.length_singleton,
    List.range_succ, List.countP_append, List.countP_singleton, same, asksFirst_last, demanded]
  simp only [decide_eq_true_eq]
  omega

end History

section Event

variable {configuration : Configuration} {event : Event}

theorem eq_add_of_turn (h : turn configuration event = some .addition) :
    ∃ point fold reply, event = ⟨.add point fold, .ok reply⟩ := by
  unfold turn at h
  split at h
  · exact ⟨_, _, _, rfl⟩
  · cases h
  · split at h <;> cases h
  · split at h <;> cases h
  · cases h

theorem eq_rebuild_of_turn (h : turn configuration event = some .rebuild) :
    event.call = .rebuild := by
  unfold turn at h
  split at h
  · cases h
  · rfl
  · split at h <;> cases h
  · split at h <;> cases h
  · cases h

end Event

/-! ## What an event does to the sketches -/

namespace Index

variable {configuration : Configuration} {stored : Nat → List Point} {index : Index}

/-- The index after an event, by its turn. -/
inductive Turned (configuration : Configuration) (stored : Nat → List Point) (index : Index) :
    Option Turn → Index → Prop
  | addition (point : Point) (fold : Nat) :
      Turned configuration stored index (some .addition) (index.grown point fold)
  | rebuild : Turned configuration stored index (some .rebuild)
      (index.renewed (sketchesOf configuration stored))
  | late (stale : index.freshness = .stale) : Turned configuration stored index (some .query)
      (index.renewed (sketchesOf configuration stored))
  | current (fresh : index.freshness = .fresh) :
      Turned configuration stored index (some .query) index
  | quiet : Turned configuration stored index none index

namespace Kept

variable (h : Kept configuration stored index)

include h

theorem index_rebuild_eq : index.rebuild.index = index.renewed (sketchesOf configuration stored) := by
  rw [rebuild_of_drawn h.drawn_eq]

/-- The preparation of an approximate query is a rebuild if the index is stale. -/
theorem turned_prepare :
    Turned configuration stored index (some .query) (index.prepare true).index := by
  cases state : index.freshness with
  | stale =>
    rw [Index.prepare, if_pos ⟨rfl, state⟩, h.index_rebuild_eq]
    exact .late state
  | fresh =>
    rw [Index.prepare, if_neg (by simp [state])]
    exact .current state

theorem index_distance_eq {query : Point} {fold : Nat} (inside : fold < configuration.folds)
    (fits : query.length = configuration.dimension) (approximate : Bool) :
    (index.distance query fold approximate).index = (index.prepare approximate).index := by
  rw [← h.size_eq] at inside
  rw [← h.dimension_eq] at fits
  rw [distance_eq_guarded, guarded_eq_step inside fits, asked, Step.andThen,
    (h.prepare approximate).1]

theorem index_distances_eq {query : Point} (fits : query.length = configuration.dimension)
    (approximate : Bool) :
    (index.distances query approximate).index = (index.prepare approximate).index := by
  rw [← h.dimension_eq] at fits
  rw [distances, Point.check_eq_ok_iff.mpr fits]
  simp only [Step.andThen, (h.prepare approximate).1]

/-- A rebuild of a fresh index changes its counter only. -/
theorem renewed_of_fresh (fresh : index.freshness = .fresh) :
    index.renewed (sketchesOf configuration stored)
      = { index with rebuilds := index.rebuilds + 1 } := by
  obtain ⟨built, sketches⟩ := h.sketched_of_fresh fresh
  rw [Index.renewed, h.directions_eq, ← built, ← fresh, ← sketches]

omit h in
/-- An exact query needs no preparation. -/
theorem prepare_false : index.prepare false = .done () index :=
  if_neg fun wanted => Bool.false_ne_true wanted.1

/-- A prepared index needs no more preparation. -/
theorem index_prepare_prepare (approximate : Bool) :
    ((index.prepare approximate).index.prepare approximate).index
      = (index.prepare approximate).index := by
  obtain ⟨-, -, current⟩ := h.prepare approximate
  generalize (index.prepare approximate).index = prepared at current ⊢
  rw [Index.prepare, if_neg]
  · rfl
  · rintro ⟨wanted, stale⟩
    rw [current wanted] at stale
    cases stale

/-- Preparing a stale index for an approximate query is one rebuild. -/
theorem rebuilds_prepare (stale : index.freshness = .stale) (approximate : Bool) :
    (index.prepare approximate).index.rebuilds
      = index.rebuilds + if approximate = true then 1 else 0 := by
  rw [Index.prepare]
  by_cases wanted : approximate = true
  · rw [if_pos ⟨wanted, stale⟩, h.index_rebuild_eq, if_pos wanted]
    rfl
  · rw [if_neg fun both => wanted both.1, if_neg wanted]
    rfl

/-- What an event does to the index is fixed by its turn. -/
theorem turned (call : Call) :
    Turned configuration stored index (turn configuration (index.event call))
      (index.perform call).index := by
  cases call with
  | add point fold =>
    rcases add_cases index point fold with ⟨-, -, added⟩ | ⟨fault, refused⟩
    · rw [event, perform, added]
      exact .addition point fold
    · rw [event, perform, refused]
      exact .quiet
  | rebuild =>
    show Turned configuration stored index (some .rebuild) index.rebuild.index
    rw [h.index_rebuild_eq]
    exact .rebuild
  | distance query fold approximate =>
    show Turned configuration stored index _ (index.distance query fold approximate).index
    by_cases passes : fold < configuration.folds ∧ query.length = configuration.dimension
    · rw [h.index_distance_eq passes.1 passes.2]
      cases approximate with
      | true =>
        rw [event, turn, if_pos passes]
        exact h.turned_prepare
      | false =>
        rw [prepare_false]
        exact .quiet
    · have quiet : turn configuration (index.event (.distance query fold approximate)) = none := by
        cases approximate with
        | true => rw [event, turn, if_neg passes]
        | false => rfl
      rw [quiet, distance_eq_guarded, guarded, h.size_eq, h.dimension_eq]
      split_ifs with outside misfit
      · exact .quiet
      · exact .quiet
      · exact absurd ⟨Nat.lt_of_not_le outside, not_not.mp misfit⟩ passes
  | distances query approximate =>
    show Turned configuration stored index _ (index.distances query approximate).index
    by_cases fits : query.length = configuration.dimension
    · rw [h.index_distances_eq fits]
      cases approximate with
      | true =>
        rw [event, turn, if_pos fits]
        exact h.turned_prepare
      | false =>
        rw [prepare_false]
        exact .quiet
    · have quiet : turn configuration (index.event (.distances query approximate)) = none := by
        cases approximate with
        | true => rw [event, turn, if_neg fits]
        | false => rfl
      rw [quiet, h.distances_eq_refuse fits]
      exact .quiet
  | points | sketches | weightedFold | weighted => exact .quiet

end Kept

/-- The freshness and the counter of an index follow from a history. -/
structure Tracked (configuration : Configuration) (history : List Event) (index : Index) : Prop where
  stale_iff : index.freshness = .stale ↔ outdated configuration history = true
  rebuilds_eq : index.rebuilds = demanded configuration history

namespace Tracked

variable {history : List Event}

/-- One more call is one more event of the history. -/
theorem step (tracked : Tracked configuration history index) (kept : Kept configuration stored index)
    (call : Call) :
    Tracked configuration (history ++ [index.event call]) (index.perform call).index := by
  have turned := kept.turned call
  generalize index.event call = event at turned ⊢
  generalize (index.perform call).index = after at turned ⊢
  have count : demanded configuration (history ++ [event]) = _ :=
    demanded_append_singleton history event
  generalize h : turn configuration event = last at turned count
  have rebuilds := tracked.rebuilds_eq
  cases turned with
  | addition point fold =>
    refine ⟨?_, ?_⟩
    · rw [outdated_append_of_some history event h]
      simp [grown]
    · rw [count, grown, rebuilds]
      simp
  | rebuild =>
    refine ⟨?_, ?_⟩
    · rw [outdated_append_of_some history event h]
      simp [renewed]
    · rw [count, renewed, rebuilds]
      simp
  | late stale =>
    refine ⟨?_, ?_⟩
    · rw [outdated_append_of_some history event h]
      simp [renewed]
    · rw [count, renewed, rebuilds]
      simp [tracked.stale_iff.mp stale]
  | current fresh =>
    have known : outdated configuration history = false := by
      rw [← Bool.not_eq_true, ← tracked.stale_iff, fresh]
      decide
    refine ⟨?_, ?_⟩
    · rw [outdated_append_of_some history event h, fresh]
      simp
    · rw [count, rebuilds]
      simp [known]
  | quiet =>
    refine ⟨?_, ?_⟩
    · rw [outdated_append_of_none history event h]
      exact tracked.stale_iff
    · rw [count, rebuilds]
      simp

/-- A run of calls is a run of events of the history. -/
theorem after (tracked : Tracked configuration history index) (kept : Kept configuration stored index)
    (calls : List Call) :
    Tracked configuration (history ++ index.history calls) (index.after calls) := by
  induction calls generalizing index stored history with
  | nil => simpa [Index.history, Index.after] using tracked
  | cons call calls ih =>
    have rest := ih (tracked.step kept call) (kept.step call)
    simpa only [Index.history, Index.after, List.append_assoc, List.singleton_append] using rest

end Tracked

/-! ## Starting without sketches -/

/-- Adding points makes no sketches. -/
theorem unasked_addAll {points : List (Point × Nat)} (stale : index.freshness = .stale)
    (unasked : index.rebuilds = 0) :
    (index.addAll points).index.freshness = .stale ∧ (index.addAll points).index.rebuilds = 0 := by
  induction points generalizing index with
  | nil => exact ⟨stale, unasked⟩
  | cons placement points ih =>
    obtain ⟨point, fold⟩ := placement
    rw [addAll]
    rcases add_cases index point fold with ⟨-, -, added⟩ | ⟨fault, refused⟩
    · rw [added]
      exact @ih (index.grown point fold) rfl unasked
    · rw [refused]
      exact ⟨stale, unasked⟩

/-- An index that was filled has never made sketches. -/
theorem unasked_of_ofSets {configuration : Configuration} {sets : List (List Point)}
    (filled : ofSets configuration sets = .ok index) :
    index.freshness = .stale ∧ index.rebuilds = 0 := by
  obtain ⟨empty, created, filled⟩ := bind_eq_ok_iff.mp filled
  obtain ⟨⟨⟩, -, filled⟩ := bind_eq_ok_iff.mp filled
  obtain ⟨⟨⟩, -, rfl⟩ := map_eq_ok_iff.mp created
  obtain rfl := Except.ok.inj filled
  exact unasked_addAll rfl rfl

/-- However an index is started, it has made no sketches yet. -/
theorem unasked_of_origin {origin : Origin} (begun : origin.index = .ok index) :
    index.freshness = .stale ∧ index.rebuilds = 0 := by
  match origin, begun with
  | .empty _, begun =>
    obtain ⟨⟨⟩, -, rfl⟩ := map_eq_ok_iff.mp begun
    exact ⟨rfl, rfl⟩
  | .centers ((first :: rest) :: others) _ _ _, begun =>
    obtain ⟨⟨⟩, -, begun⟩ := bind_eq_ok_iff.mp begun
    exact unasked_of_ofSets begun

theorem tracked_of_origin {origin : Origin} (begun : origin.index = .ok index) :
    Tracked configuration [] index := by
  obtain ⟨stale, unasked⟩ := unasked_of_origin begun
  exact ⟨by simp [stale, outdated, lastTurn], by rw [unasked]; rfl⟩

/-! ## Runs, call by call -/

theorem after_append (index : Index) (calls later : List Call) :
    index.after (calls ++ later) = (index.after calls).after later := by
  induction calls generalizing index with
  | nil => rfl
  | cons call calls ih => exact ih _

/-- The index after a call, from the one before it. -/
theorem after_take_succ (index : Index) {calls : List Call} {place : Nat} {call : Call}
    (found : calls[place]? = some call) :
    index.after (calls.take (place + 1))
      = ((index.after (calls.take place)).perform call).index := by
  rw [List.take_add_one, found, after_append]
  rfl

/-- An event of a history is that of its call in the index that the calls before it have left. -/
theorem getElem?_history (index : Index) (calls : List Call) (place : Nat) :
    (index.history calls)[place]? = calls[place]?.map (index.after (calls.take place)).event := by
  induction calls generalizing index place with
  | nil => rfl
  | cons call calls ih =>
    cases place with
    | zero => rfl
    | succ place => exact ih _ place

end Index

namespace Run

open Index

variable (run : Run)

/-- The run up to a place. -/
def upTo (place : Nat) : Run :=
  { run with calls := run.calls.take place }

/-- The call at a place is not itself a rebuild, but leaves the index with one rebuild more. -/
def RebuildsAt (place : Nat) : Prop :=
  ∃ call, run.calls[place]? = some call ∧ call ≠ .rebuild ∧
    (run.upTo (place + 1)).index.rebuilds = (run.upTo place).index.rebuilds + 1

/-- A point is added at a place. -/
def AddsAt (place : Nat) : Prop :=
  ∃ point fold reply, run.history[place]? = some ⟨.add point fold, .ok reply⟩

theorem tracked : Tracked run.configuration run.history run.index := by
  have tracked : Tracked run.configuration [] run.start := tracked_of_origin run.begun
  exact tracked.after (kept_of_origin run.begun) run.calls

/-- What a call of a run does to the index is fixed by its turn. -/
theorem turned_upTo {place : Nat} {call : Call} (found : run.calls[place]? = some call) :
    Turned run.configuration (run.upTo place).stored (run.upTo place).index
      (turn run.configuration ((run.upTo place).index.event call)) (run.upTo (place + 1)).index := by
  have after : (run.upTo (place + 1)).index = ((run.upTo place).index.perform call).index :=
    run.start.after_take_succ found
  rw [after]
  exact (run.upTo place).kept.turned call

variable {run}

/-- A query only rebuilds a stale index, and leaves it fresh. -/
theorem RebuildsAt.stale_fresh {place : Nat} (rebuilds : run.RebuildsAt place) :
    (run.upTo place).index.freshness = .stale ∧
      (run.upTo (place + 1)).index.freshness = .fresh := by
  obtain ⟨call, found, other, more⟩ := rebuilds
  have turned := run.turned_upTo found
  generalize h : turn run.configuration ((run.upTo place).index.event call) = last at turned
  generalize (run.upTo (place + 1)).index = after at turned more ⊢
  cases turned with
  | rebuild => exact absurd (eq_rebuild_of_turn h) other
  | late stale => exact ⟨stale, rfl⟩
  | addition | current | quiet => exact absurd more (Nat.ne_of_lt (Nat.lt_succ_self _))

/-- A fresh index stays fresh until a point is added. -/
theorem fresh_of_no_addition {start place : Nat} (fresh : (run.upTo start).index.freshness = .fresh)
    (later : start ≤ place) (none : ∀ between, start ≤ between → between < place → ¬ run.AddsAt between) :
    (run.upTo place).index.freshness = .fresh := by
  induction place, later using Nat.le_induction with
  | base => exact fresh
  | succ place later ih =>
    have before := ih fun between h h' => none between h (Nat.lt_succ_of_lt h')
    cases found : run.calls[place]? with
    | none =>
      -- the run is over
      have same : run.upTo (place + 1) = run.upTo place := by
        rw [upTo, upTo, List.take_add_one, found, Option.toList_none, List.append_nil]
      rw [same]
      exact before
    | some call =>
      have turned := run.turned_upTo found
      have happened : run.history[place]? = some ((run.upTo place).index.event call) := by
        rw [history, getElem?_history, found, Option.map_some]
        rfl
      generalize (run.upTo place).index.event call = event at turned happened
      generalize h : turn run.configuration event = last at turned
      generalize (run.upTo (place + 1)).index = after at turned ⊢
      cases turned with
      | addition =>
        obtain ⟨point, fold, reply, rfl⟩ := eq_add_of_turn h
        exact absurd ⟨point, fold, reply, happened⟩ (none place later (Nat.lt_succ_self place))
      | rebuild | late => rfl
      | current | quiet => exact before

end Run

/-- Exact queries and exports. -/
def Call.reads : Call → Bool
  | .add _ _ | .rebuild => false
  | .distance _ _ approximate | .distances _ approximate => !approximate
  | .points _ | .sketches _ | .weightedFold _ _ | .weighted _ => true

/-- Approximate queries. -/
def Call.approximates : Call → Bool
  | .distance _ _ approximate | .distances _ approximate => approximate
  | _ => false

namespace Index.Kept

variable {configuration : Configuration} {stored : Nat → List Point} {index : Index}

theorem turn_of_reads {call : Call} (reads : call.reads = true) :
    turn configuration (index.event call) = none := by
  cases call with
  | add | rebuild => cases reads
  | distance _ _ approximate | distances _ approximate =>
    cases approximate with
    | true => cases reads
    | false => rfl
  | points | sketches | weightedFold | weighted => rfl

/-- An approximate query of a fresh index changes nothing. -/
theorem index_of_fresh (h : Kept configuration stored index) (fresh : index.freshness = .fresh)
    {call : Call} (approximates : call.approximates = true) : (index.perform call).index = index := by
  have turned := h.turned call
  have other : call ≠ .rebuild ∧ ∀ point fold, call ≠ .add point fold := by
    cases call <;> simp_all [Call.approximates]
  generalize last : turn configuration (index.event call) = turn at turned
  generalize (index.perform call).index = after at turned ⊢
  cases turned with
  | addition =>
    obtain ⟨point, fold, _, event⟩ := eq_add_of_turn last
    exact absurd (congrArg Event.call event) (other.2 point fold)
  | rebuild => exact absurd (eq_rebuild_of_turn last) other.1
  | late stale =>
    rw [stale] at fresh
    cases fresh
  | current | quiet => rfl

/-- All calls but additions leave the points, their norms and the configuration as they are. -/
theorem folds_eq_of_no_addition (h : Kept configuration stored index) {call : Call}
    (other : ∀ point fold, call ≠ .add point fold) :
    (index.perform call).index.folds = index.folds ∧
      (index.perform call).index.configuration = index.configuration := by
  have turned := h.turned call
  generalize last : turn configuration (index.event call) = turn at turned
  generalize (index.perform call).index = after at turned ⊢
  cases turned with
  | addition =>
    obtain ⟨point, fold, _, event⟩ := eq_add_of_turn last
    exact absurd (congrArg Event.call event) (other point fold)
  | rebuild | late | current | quiet => exact ⟨rfl, rfl⟩

end Index.Kept

namespace Run

open Index

/-- At the end of every run the counter holds the explicit rebuilds and one for every approximate
query that came first after the start or an addition, so that two queries only rebuild with an
addition between them. Exact queries, exports, calls that fail and, in a fresh index, approximate
queries change nothing; a rebuild of a fresh index changes its counter only. Whatever makes the
sketches anew leaves points, norms and configuration as they are. -/
theorem rebuilds_accounted (run : Run) :
    run.index.rebuilds = demanded run.configuration run.history ∧
    (∀ first second, first < second → run.RebuildsAt first → run.RebuildsAt second →
      ∃ between, first < between ∧ between < second ∧ run.AddsAt between) ∧
    (∀ call : Call, call.reads = true ∨ (∃ fault, (run.index.perform call).answer = .error fault) →
      (run.index.perform call).index = run.index) ∧
    (run.index.freshness = .fresh →
      (∀ call : Call, call.approximates = true → (run.index.perform call).index = run.index) ∧
      (run.index.perform .rebuild).index = { run.index with rebuilds := run.index.rebuilds + 1 }) ∧
    ∀ call : Call, (∀ point fold, call ≠ .add point fold) →
      (run.index.perform call).index.folds = run.index.folds ∧
        (run.index.perform call).index.configuration = run.index.configuration := by
  have kept := run.kept
  refine ⟨run.tracked.rebuilds_eq, fun first second order hfirst hsecond => ?_, fun call quiet => ?_,
    fun fresh => ⟨fun call => kept.index_of_fresh fresh, ?_⟩,
    fun call => kept.folds_eq_of_no_addition⟩
  · by_contra none
    have current := fresh_of_no_addition hfirst.stale_fresh.2 order fun between after before adds =>
      none ⟨between, after, before, adds⟩
    rw [hsecond.stale_fresh.1] at current
    cases current
  · rcases quiet with reads | ⟨fault, failed⟩
    · have turned := kept.turned call
      rw [Kept.turn_of_reads reads] at turned
      generalize (run.index.perform call).index = after at turned ⊢
      cases turned
      rfl
    · exact kept.index_of_error failed
  · rw [← kept.renewed_of_fresh fresh]
    exact kept.index_rebuild_eq

/-- A first query, one on a fold that is not there, one of a fresh index, an addition, a query, a
rebuild: three times sketches are made, and of the two queries that do, the later one comes behind
the addition. -/
theorem rebuilds_accounted_mixed_calls :
    ∃ run : Run, run.calls = [.distance [1] 0 true, .distance [1] 5 true, .distances [2] true,
        .add [3] 0, .distance [1] 0 true, .rebuild] ∧
      run.index.rebuilds = 3 ∧ run.RebuildsAt 0 ∧ run.RebuildsAt 4 ∧
      ∃ between, 0 < between ∧ between < 4 ∧ run.AddsAt between := by
  let run : Run := ⟨.empty ⟨1, 1, 2, 1, 7, true⟩, _, rfl,
    [.distance [1] 0 true, .distance [1] 5 true, .distances [2] true, .add [3] 0,
      .distance [1] 0 true, .rebuild]⟩
  have first : run.RebuildsAt 0 := ⟨_, rfl, nofun, by decide +kernel⟩
  have second : run.RebuildsAt 4 := ⟨_, rfl, nofun, by decide +kernel⟩
  have counted : demanded run.configuration run.history = 3 := by decide +kernel
  obtain ⟨rebuilds, separated, -⟩ := run.rebuilds_accounted
  exact ⟨run, rfl, rebuilds.trans counted, first, second,
    separated 0 4 (by decide) first second⟩

end Run

end KMeansSeeding
