import KMeansSeeding.Proofs.Index.Counts
import KMeansSeeding.Proofs.InPlace

/-!
# Tables that are older than the index

A counting round starts with a table of zeros that has the shape of the index at that moment. Then
calls of the index and recordings of its outcomes follow in any order: the folds may grow, and the
table keeps its shape (`Round.Follows`, which every move preserves). So a recording fails exactly for
outcomes that name a point without an entry, and an export exactly once a fold has grown
(`Run.round_consistent`).
-/

namespace KMeansSeeding

/-! ## Outcomes that an index gives -/

/-- The outcomes of all folds, if an event gave them. -/
def surveyed : Event → Option (List (Nearest Float))
  | ⟨.distances _ _, .ok (.outcomes outcomes)⟩ => some outcomes
  | _ => none

theorem accepted_append_singleton (fold : Nat) (history : List Event) (event : Event) :
    accepted fold (history ++ [event]) = accepted fold history ++ (added fold event).toList := by
  rw [accepted, List.filterMap_append, ← accepted]
  cases h : added fold event <;> simp [h]

namespace Index

/-- The number of centers of a fold, zero for a fold that is not there. -/
def count (index : Index) (fold : Nat) : Nat :=
  index.counts[fold]?.getD 0

namespace Kept

variable {configuration : Configuration} {stored : Nat → List Point} {index : Index}

theorem count_eq (h : Kept configuration stored index) {fold : Nat}
    (inside : fold < configuration.folds) : index.count fold = (stored fold).length := by
  rw [count, h.counts_eq, getElem?_countsOf stored inside, Option.getD_some]

theorem count_eq_zero (h : Kept configuration stored index) {fold : Nat}
    (outside : configuration.folds ≤ fold) : index.count fold = 0 := by
  rw [count, h.counts_eq, List.getElem?_eq_none (by simpa [countsOf] using outside), Option.getD_none]

/-- The outcomes that an event gives name points that are stored. -/
theorem within_of_surveyed (h : Kept configuration stored index) {call : Call}
    {outcomes : List (Nearest Float)} (given : surveyed (index.event call) = some outcomes) :
    Within configuration.folds stored outcomes := by
  cases call with
  | distances query approximate =>
    rw [event, perform, Step.map] at given
    by_cases fits : query.length = configuration.dimension
    · rw [(h.distances_eq fits approximate).1] at given
      obtain rfl := Option.some.inj given
      exact within_outcomes configuration stored query approximate
    · rw [h.distances_eq_refuse fits] at given
      cases given
  | add | rebuild | distance | points | sketches | weightedFold | weighted => cases given

/-- All outcomes that some calls were answered with name points that are stored in the end. -/
theorem within_history (h : Kept configuration stored index) (calls : List Call)
    {outcomes : List (Nearest Float)}
    (given : outcomes ∈ (index.history calls).filterMap surveyed) :
    Within configuration.folds (fun fold => stored fold ++ accepted fold (index.history calls))
      outcomes := by
  induction calls generalizing index stored with
  | nil => exact absurd given List.not_mem_nil
  | cons call calls ih =>
    obtain ⟨event, member, answered⟩ := List.mem_filterMap.mp given
    rw [history, List.mem_cons] at member
    rcases member with rfl | member
    · exact (h.within_of_surveyed answered).mono fun fold => List.prefix_append _ _
    · have later := ih (h.step call) (List.mem_filterMap.mpr ⟨event, member, answered⟩)
      simpa only [history, accepted_cons, List.append_assoc] using later

end Kept

end Index

/-! ## Counting rounds -/

/-- Something done in a round. Outcomes are recorded by their place among those given so far. -/
inductive Move where
  | call (call : Call)
  | record (place : Nat)
  | recordWeighted (place : Nat) (weight : Float)

/-- An index, and a table that was made from its counts at some moment. -/
structure Round where
  index : Index
  /-- What had happened to the index before. -/
  before : List Event
  /-- What has happened to the index since. -/
  since : List Event
  table : Tally

namespace Round

/-- All outcomes that the index has given, before and since. -/
def given (round : Round) : List (List (Nearest Float)) :=
  (round.before ++ round.since).filterMap surveyed

/-- The round after a recording, with the table that it left, even if it failed. -/
def settle (round : Round) (ended : Tally.Ended) : Round :=
  { round with table := ended.table }

/-- Carries out a move; there is nothing to record at a place without outcomes. -/
def perform (round : Round) : Move → Round
  | .call call =>
    { round with
      index := (round.index.perform call).index
      since := round.since ++ [round.index.event call] }
  | .record place =>
    match round.given[place]? with
    | some outcomes => round.settle (round.table.recordInPlace outcomes 1)
    | none => round
  | .recordWeighted place weight =>
    match round.given[place]? with
    | some outcomes => round.settle (round.table.recordInPlace outcomes weight)
    | none => round

/-- The round after some moves. -/
def after (round : Round) : List Move → Round
  | [] => round
  | move :: moves => (round.perform move).after moves

end Round

/-- All points with the weights of the table. -/
def Round.exported (round : Round) : Except Fault (List (List WeightedPoint)) :=
  round.index.weighted round.table.source

/-- The round that starts at the end of a run, after some moves. -/
def Run.round (run : Run) (moves : List Move) : Round :=
  Round.after ⟨run.index, run.history, [], .ofCounts run.index.counts⟩ moves

/-- Outcomes that name a position at or behind the count of its fold at the end of the run. -/
def Run.Outgrown (run : Run) (outcomes : List (Nearest Float)) : Prop :=
  ∃ fold position, closestIn fold outcomes = some position ∧ run.index.count fold ≤ position

namespace Round

/-- The points that a fold has in a round. -/
def stored (run : Run) (round : Round) (fold : Nat) : List Point :=
  run.stored fold ++ accepted fold round.since

/-- What a round is at any time, where `run` is what came before it. -/
structure Follows (run : Run) (round : Round) : Prop where
  kept : Index.Kept run.configuration (round.stored run) round.index
  shape_eq : round.table.shape = run.index.counts
  within : ∀ outcomes ∈ round.given, Within run.configuration.folds (round.stored run) outcomes

namespace Follows

variable {run : Run} {round : Round}

/-- A recording changes neither the index nor the shape of the table. -/
theorem settle (h : Follows run round) {outcomes : List (Nearest Float)} {weight : Float} :
    Follows run (round.settle (round.table.recordInPlace outcomes weight)) := by
  rw [Tally.recordInPlace_eq]
  cases recorded : round.table.recordWeighted outcomes weight with
  | ok table => exact ⟨h.kept, (Tally.shape_recordWeighted recorded).trans h.shape_eq, h.within⟩
  | error fault => exact h

/-- A call of the index leaves the table alone. -/
theorem call (h : Follows run round) (call : Call) : Follows run (round.perform (.call call)) := by
  have stored : (round.perform (.call call)).stored run
      = fun fold => round.stored run fold ++ (added fold (round.index.event call)).toList := by
    funext fold
    rw [Round.stored, Round.stored, perform, accepted_append_singleton, List.append_assoc]
  refine ⟨?_, h.shape_eq, fun outcomes member => ?_⟩
  · rw [stored]
    exact h.kept.step call
  · have grown : ∀ fold, round.stored run fold <+: (round.perform (.call call)).stored run fold := by
      intro fold
      rw [stored]
      exact List.prefix_append _ _
    rw [given, perform, ← List.append_assoc, List.filterMap_append, List.mem_append] at member
    rcases member with member | member
    · exact (h.within outcomes member).mono grown
    · obtain ⟨event, last, answered⟩ := List.mem_filterMap.mp member
      rw [List.mem_singleton] at last
      subst last
      exact (h.kept.within_of_surveyed answered).mono grown

theorem perform (h : Follows run round) (move : Move) : Follows run (round.perform move) := by
  cases move with
  | call call => exact h.call call
  | record place | recordWeighted place weight =>
    rw [Round.perform]
    split
    · exact h.settle
    · exact h

theorem after (h : Follows run round) (moves : List Move) : Follows run (round.after moves) := by
  induction moves generalizing round with
  | nil => exact h
  | cons move moves ih => exact ih (h.perform move)

/-- A fold had its first points when the round started, and none was lost since. -/
theorem count_le (h : Follows run round) (fold : Nat) :
    run.index.count fold ≤ round.index.count fold := by
  rcases Nat.lt_or_ge fold run.configuration.folds with inside | outside
  · rw [run.kept.count_eq inside, h.kept.count_eq inside]
    exact (List.prefix_append _ _).length_le
  · rw [run.kept.count_eq_zero outside]
    exact Nat.zero_le _

/-- The table has an entry for every point that was stored at the start. -/
theorem shape_eq_countsOf (h : Follows run round) :
    round.table.shape = countsOf run.configuration.folds run.stored := by
  rw [h.shape_eq, run.kept.counts_eq]

theorem shape_eq_some (h : Follows run round) {fold : Nat} (inside : fold < run.configuration.folds) :
    round.table.shape[fold]? = some (run.index.count fold) := by
  rw [h.shape_eq_countsOf, getElem?_countsOf run.stored inside, run.kept.count_eq inside]

/-- The table covers given outcomes unless one of them names a point behind its row. -/
theorem not_covers_iff (h : Follows run round) {outcomes : List (Nearest Float)}
    (member : outcomes ∈ round.given) :
    ¬ round.table.Covers outcomes ↔ run.Outgrown outcomes := by
  have given := h.within outcomes member
  constructor
  · intro uncovered
    by_contra inside
    have early : Within run.configuration.folds run.stored outcomes := by
      refine ⟨given.length_eq, fun fold position named => ?_⟩
      by_contra behind
      refine inside ⟨fold, position, named, ?_⟩
      rw [run.kept.count_eq (given.fold_lt named)]
      exact Nat.le_of_not_lt behind
    exact uncovered (early.covers h.shape_eq_countsOf)
  · rintro ⟨fold, position, named, behind⟩ covered
    have before := covered.inside fold _ position (h.shape_eq_some (given.fold_lt named)) named
    exact absurd before (Nat.not_lt.mpr behind)

/-- An export has a weight for every point as long as no fold has grown. -/
theorem weighted_of_eq (h : Follows run round)
    (same : ∀ fold, round.index.count fold = run.index.count fold) :
    ∃ weighted, round.exported = .ok weighted := by
  refine h.kept.weighted_of_le (fun fold inside => h.shape_eq_some inside) fun fold inside => ?_
  rw [← h.kept.count_eq inside, same fold]

/-- An export fails at the first fold that has grown. -/
theorem weighted_of_lt (h : Follows run round) {fold : Nat}
    (grown : run.index.count fold < round.index.count fold)
    (same : ∀ earlier < fold, round.index.count earlier = run.index.count earlier) :
    round.exported
      = .error (.tooFewWeights fold (round.index.count fold) (run.index.count fold)) := by
  have inside : fold < run.configuration.folds := by
    by_contra outside
    rw [h.kept.count_eq_zero (Nat.le_of_not_lt outside)] at grown
    exact absurd grown (Nat.not_lt_zero _)
  rw [exported]
  rw [h.kept.count_eq inside] at grown ⊢
  refine h.kept.weighted_of_lt (fun fold inside => h.shape_eq_some inside) inside
    (fun earlier before => ?_) grown
  rw [← h.kept.count_eq (Nat.lt_trans before inside), same earlier before]

/-- Without an addition since the start, the table covers all outcomes and no fold has grown. -/
theorem of_idle (h : Follows run round)
    (idle : ∀ event ∈ round.since, ∀ fold, added fold event = none) :
    (∀ outcomes ∈ round.given, round.table.Covers outcomes) ∧
      ∀ fold, round.index.count fold = run.index.count fold := by
  -- nothing is stored but what was stored before, so no outcome names a newer point
  have same : round.stored run = run.stored := by
    funext fold
    have none : accepted fold round.since = [] :=
      List.filterMap_eq_nil_iff.mpr fun event member => idle event member fold
    rw [Round.stored, none, List.append_nil]
  have kept := h.kept
  have within := h.within
  rw [same] at kept within
  refine ⟨fun outcomes member => (within outcomes member).covers h.shape_eq_countsOf, fun fold => ?_⟩
  rw [Index.count, Index.count, kept.counts_eq, run.kept.counts_eq]

/-- If the counts differ, there is a first fold that has grown. -/
theorem exists_first_grown (h : Follows run round)
    (grown : ¬ ∀ fold, round.index.count fold = run.index.count fold) :
    ∃ fold, run.index.count fold < round.index.count fold ∧
      ∀ earlier < fold, round.index.count earlier = run.index.count earlier := by
  rw [not_forall] at grown
  refine ⟨Nat.find grown, ?_, fun earlier before => not_not.mp (Nat.find_min grown before)⟩
  exact Nat.lt_of_le_of_ne (h.count_le _) (Ne.symm (Nat.find_spec grown))

end Follows

/-- How the table of a round stands to its index, where `run` is what came before the round. -/
structure Consistent (run : Run) (round : Round) : Prop where
  /-- Outcomes of the index are recorded unless they name a point that the table has no entry for. -/
  record_fails_iff : ∀ outcomes ∈ round.given,
    (∃ fault, round.table.record outcomes = .error fault) ↔ run.Outgrown outcomes
  recordWeighted_fails_iff : ∀ outcomes ∈ round.given, ∀ weight,
    (∃ fault, round.table.recordWeighted outcomes weight = .error fault) ↔ run.Outgrown outcomes
  /-- An export succeeds exactly if no fold has grown since the table was made. -/
  export_succeeds_iff : (∃ weighted, round.exported = .ok weighted) ↔
    ∀ fold, round.index.count fold = run.index.count fold
  /-- Otherwise it names the first fold that has, with its count now and its count then. -/
  export_fails : (¬ ∀ fold, round.index.count fold = run.index.count fold) →
    ∃ fold, run.index.count fold < round.index.count fold ∧
      (∀ earlier < fold, round.index.count earlier = run.index.count earlier) ∧
      round.exported
        = .error (.tooFewWeights fold (round.index.count fold) (run.index.count fold))
  /-- As long as no point was added, nothing fails. -/
  of_no_addition : (∀ event ∈ round.since, ∀ fold, added fold event = none) →
    (∀ outcomes ∈ round.given, (∃ table, round.table.record outcomes = .ok table) ∧
      ∀ weight, ∃ table, round.table.recordWeighted outcomes weight = .ok table) ∧
    ∃ weighted, round.exported = .ok weighted

end Round

namespace Run

/-- A round starts with the points and the outcomes of its run. -/
theorem follows (run : Run) (moves : List Move) : Round.Follows run (run.round moves) := by
  have stored : Round.stored run ⟨run.index, run.history, [], .ofCounts run.index.counts⟩
      = run.stored := by
    funext fold
    rw [Round.stored, accepted, List.filterMap_nil, List.append_nil]
  refine Round.Follows.after ⟨?_, Tally.shape_ofCounts _, fun outcomes member => ?_⟩ moves
  · rw [stored]
    exact run.kept
  · rw [stored]
    rw [Round.given, List.append_nil] at member
    exact (Index.kept_of_origin run.begun).within_history run.calls member

/-- However calls of the index and recordings of its outcomes follow on one another, the table that was
made at the end of a run stays consistent with the index as long as no fold grows, and reports the
growth of a fold from then on. -/
theorem round_consistent (run : Run) (moves : List Move) :
    Round.Consistent run (run.round moves) := by
  have h := run.follows moves
  generalize run.round moves = round at h ⊢
  have refused : ∀ outcomes ∈ round.given, ∀ weight,
      (∃ fault, round.table.recordWeighted outcomes weight = .error fault) ↔
        run.Outgrown outcomes := by
    intro outcomes member weight
    rw [Tally.recordWeighted_eq_error_iff, h.not_covers_iff member]
  have fails (grown : ¬ ∀ fold, round.index.count fold = run.index.count fold) :
      ∃ fold, run.index.count fold < round.index.count fold ∧
        (∀ earlier < fold, round.index.count earlier = run.index.count earlier) ∧
        round.exported
          = .error (.tooFewWeights fold (round.index.count fold) (run.index.count fold)) := by
    obtain ⟨fold, more, same⟩ := h.exists_first_grown grown
    exact ⟨fold, more, same, h.weighted_of_lt more same⟩
  refine ⟨fun outcomes member => refused outcomes member 1, refused,
    ⟨fun succeeds => ?_, h.weighted_of_eq⟩, fails, fun idle => ?_⟩
  · by_contra grown
    obtain ⟨fold, -, -, failed⟩ := fails grown
    obtain ⟨weighted, answer⟩ := succeeds
    rw [failed] at answer
    cases answer
  · obtain ⟨covered, same⟩ := h.of_idle idle
    have recorded : ∀ outcomes ∈ round.given, ∀ weight,
        ∃ table, round.table.recordWeighted outcomes weight = .ok table :=
      fun outcomes member _ =>
        ⟨_, Tally.recordWeighted_eq_ok_iff.mpr ⟨covered outcomes member, rfl⟩⟩
    refine ⟨fun outcomes member => ?_, h.weighted_of_eq same⟩
    exact ⟨recorded outcomes member 1, recorded outcomes member⟩

/-- The outcomes before an addition are recorded, those that name the new point are not, and the
export names the fold that it was added to. -/
theorem round_consistent_grown_fold :
    ∃ run : Run, run.origin = .centers [[[0]], [[9]]] 2 2 7 ∧
      ∃ round : Round, round = run.round [.call (.distances [5] true), .record 0,
          .call (.add [5] 1), .call (.distances [5] false), .recordWeighted 1 3] ∧
        (∃ outcomes ∈ round.given, closestIn 1 outcomes = some 1 ∧
          ∃ fault, round.table.record outcomes = .error fault) ∧
        round.exported = .error (.tooFewWeights 1 2 1) := by
  let run : Run := ⟨.centers [[[0]], [[9]]] 2 2 7, _, rfl, []⟩
  let round : Round := run.round [.call (.distances [5] true), .record 0, .call (.add [5] 1),
    .call (.distances [5] false), .recordWeighted 1 3]
  have consistent : Round.Consistent run round := run.round_consistent _
  have counts : round.index.counts = [1, 2] ∧ run.index.counts = [1, 1] := by decide +kernel
  have now (fold : Nat) : round.index.count fold = [1, 2][fold]?.getD 0 := by
    rw [Index.count, counts.1]
  have start (fold : Nat) : run.index.count fold = [1, 1][fold]?.getD 0 := by
    rw [Index.count, counts.2]
  refine ⟨run, rfl, round, rfl, ?_, ?_⟩
  · have named : (round.given[1]?).bind (closestIn 1) = some 1 := by decide +kernel
    obtain ⟨outcomes, place, closest⟩ := Option.bind_eq_some_iff.mp named
    have given := List.mem_of_getElem? place
    refine ⟨outcomes, given, closest, (consistent.record_fails_iff outcomes given).mpr ?_⟩
    exact ⟨1, 1, closest, by rw [start]; exact Nat.le_refl 1⟩
  · have grown : ¬ ∀ fold, round.index.count fold = run.index.count fold := by
      intro same
      have two := same 1
      rw [now, start] at two
      simp at two
    obtain ⟨fold, more, -, failed⟩ := consistent.export_fails grown
    rw [now, start] at more failed
    rcases fold with _ | _ | fold
    · simp at more
    · exact failed
    · simp at more

end Run

end KMeansSeeding
