import KMeansSeeding.Proofs.InPlace

/-!
# Histories of recordings

A table of counts is changed in place by recordings, with weight one or with a weight of their own.
Whether a recording is accepted depends on the shape of the table alone (`check_eq_verdict`), and no
recording changes the shape. So the answers of a history are known before it runs, and an entry of the
table is the sum of the weights that accepted calls credited to it, from left to right
(`recordings_add_up`).
-/

namespace KMeansSeeding

namespace Tally

/-! ## One recording -/

/-- Whether an outcome of fold `fold` names one of `count` centers. -/
def verdictOn (fold count : Nat) (nearest : Nearest Float) : Except Fault Unit :=
  match nearest.closest with
  | none => .ok ()
  | some position =>
    if position < count then .ok () else .error (.tooFewWeights fold (position + 1) count)

/-- What the checks of a recording say about a table of the given shape. -/
def verdict (shape : List Nat) (outcomes : List (Nearest Float)) : Except Fault Unit :=
  if outcomes.length = shape.length then
    (shape.zip outcomes).zipIdx.forM fun ((count, nearest), fold) => verdictOn fold count nearest
  else .error (.noSuchFold outcomes.length shape.length)

/-- The checks of a recording see of each row its length only. -/
theorem forM_covers_eq (tally : Tally) (outcomes : List (Nearest Float)) :
    ((tally.rows.zip outcomes).zipIdx.forM fun ((row, nearest), fold) =>
        (covers fold row nearest : Except Fault Unit))
      = (tally.shape.zip outcomes).zipIdx.forM fun ((count, nearest), fold) =>
          verdictOn fold count nearest := by
  have lengths : (tally.shape.zip outcomes).zipIdx = (tally.rows.zip outcomes).zipIdx.map
      fun ((row, nearest), fold) => ((row.length, nearest), fold) := by
    rw [shape, List.zip_map_left, List.zipIdx_map]
    rfl
  rw [lengths, List.forM_eq_forM, List.forM_eq_forM, List.forM_map]
  rfl

/-- A recording is accepted or refused by the shape of the table. -/
theorem check_eq_verdict (tally : Tally) (outcomes : List (Nearest Float)) :
    tally.check outcomes = verdict tally.shape outcomes := by
  rw [check, verdict, length_shape]
  split_ifs
  · exact tally.forM_covers_eq outcomes
  · rfl

/-- A table is known by its shape and its entries. -/
theorem eq_of_source {tally other : Tally} (shapes : tally.shape = other.shape)
    (entries : ∀ fold position, tally.source fold position = other.source fold position) :
    tally = other := by
  have rows : tally.rows = other.rows := by
    refine List.ext_getElem? fun fold => ?_
    have lengths : (tally.rows[fold]?).map List.length = (other.rows[fold]?).map List.length := by
      rw [← List.getElem?_map, ← List.getElem?_map]
      exact congrArg (·[fold]?) shapes
    have entries := entries fold
    simp only [source, WeightSource.ofRows] at entries
    cases hrow : tally.rows[fold]? with
    | none =>
      rw [hrow] at lengths
      exact (Option.map_eq_none_iff.mp lengths.symm).symm
    | some row =>
      rw [hrow] at lengths entries
      obtain ⟨row', hrow', -⟩ := Option.map_eq_some_iff.mp lengths.symm
      rw [hrow'] at entries ⊢
      exact congrArg some (List.ext_getElem? entries)
  cases tally
  cases other
  exact congrArg Tally.mk rows

end Tally

/-! ## Histories -/

/-- A call that counts one point, with weight one or with a weight of its own. -/
inductive Recording where
  | plain (outcomes : List (Nearest Float))
  | weighted (outcomes : List (Nearest Float)) (weight : Float)

namespace Recording

/-- The outcomes of the point, one per fold. -/
def outcomes : Recording → List (Nearest Float)
  | plain outcomes => outcomes
  | weighted outcomes _ => outcomes

/-- The weight of the point. -/
def weight : Recording → Float
  | plain _ => 1
  | weighted _ weight => weight

/-- Makes the call. -/
def apply (tally : Tally) : Recording → Tally.Ended
  | plain outcomes => tally.recordInPlace outcomes 1
  | weighted outcomes weight => tally.recordInPlace outcomes weight

/-- By the verdict on its outcomes, a call credits all of them or none. -/
theorem apply_eq (tally : Tally) (call : Recording) :
    call.apply tally = match Tally.verdict tally.shape call.outcomes with
      | .ok () => ⟨.ok (), tally.credited call.outcomes call.weight⟩
      | .error fault => ⟨.error fault, tally⟩ := by
  have applied : call.apply tally = tally.recordInPlace call.outcomes call.weight := by
    cases call <;> rfl
  rw [applied, Tally.recordInPlace_eq, Tally.recordWeighted, Tally.check_eq_verdict]
  cases Tally.verdict tally.shape call.outcomes <;> rfl

/-- Whether the call credits an entry if it is accepted. -/
def names (call : Recording) (fold position : Nat) : Bool :=
  closestIn fold call.outcomes == some position

end Recording

namespace Tally

/-- What some calls leave behind: the table, and what each of them answered. -/
structure Recorded where
  tally : Tally
  answers : List (Except Fault Unit)

/-- Makes some calls one after the other, each on the table that the last one left, even if that failed. -/
def recordAll (tally : Tally) : List Recording → Recorded
  | [] => ⟨tally, []⟩
  | call :: calls =>
    let ended := call.apply tally
    let rest := ended.table.recordAll calls
    ⟨rest.tally, ended.answer :: rest.answers⟩

/-- The weights of the calls that succeeded and named an entry, in the order of the calls. -/
def credits (fold position : Nat) (events : List (Recording × Except Fault Unit)) : List Float :=
  (events.filter fun (call, answer) => answer.isOk && call.names fold position).map (·.1.weight)

/-- The calls that succeeded. -/
def successes (events : List (Recording × Except Fault Unit)) : List Recording :=
  (events.filter fun (_, answer) => answer.isOk).map Prod.fst

section Step

variable {tally : Tally} {call : Recording} {calls : List Recording}

theorem recordAll_cons_ok (accepted : verdict tally.shape call.outcomes = .ok ()) :
    tally.recordAll (call :: calls)
      = ⟨((tally.credited call.outcomes call.weight).recordAll calls).tally,
          .ok () :: ((tally.credited call.outcomes call.weight).recordAll calls).answers⟩ := by
  rw [recordAll, call.apply_eq, accepted]

theorem recordAll_cons_error {fault : Fault}
    (refused : verdict tally.shape call.outcomes = .error fault) :
    tally.recordAll (call :: calls)
      = ⟨(tally.recordAll calls).tally, .error fault :: (tally.recordAll calls).answers⟩ := by
  rw [recordAll, call.apply_eq, refused]

theorem length_of_verdict {shape : List Nat} {outcomes : List (Nearest Float)}
    (accepted : verdict shape outcomes = .ok ()) : outcomes.length = shape.length := by
  rw [verdict] at accepted
  split_ifs at accepted with same
  exact same

theorem shape_credited (accepted : verdict tally.shape call.outcomes = .ok ()) :
    (tally.credited call.outcomes call.weight).shape = tally.shape := by
  rw [← check_eq_verdict, check_eq_ok_iff] at accepted
  exact shape_recordWeighted (recordWeighted_eq_ok_iff.mpr ⟨accepted, rfl⟩)

end Step

/-! ## Whole histories -/

section Histories

variable (tally : Tally) (calls : List Recording)

/-- The answers depend on nothing but the shape, which no call changes. -/
theorem answers_recordAll :
    (tally.recordAll calls).answers = calls.map (verdict tally.shape ·.outcomes) := by
  induction calls generalizing tally with
  | nil => rfl
  | cons call calls ih =>
    rw [List.map_cons]
    cases answered : verdict tally.shape call.outcomes with
    | ok =>
      rw [recordAll_cons_ok answered, ih, shape_credited answered]
    | error fault => rw [recordAll_cons_error answered, ih]

theorem shape_recordAll : (tally.recordAll calls).tally.shape = tally.shape := by
  induction calls generalizing tally with
  | nil => rfl
  | cons call calls ih =>
    cases answered : verdict tally.shape call.outcomes with
    | ok => rw [recordAll_cons_ok answered, ih, shape_credited answered]
    | error fault => rw [recordAll_cons_error answered, ih]

/-- An entry grows by what is credited to it. -/
theorem source_recordAll (fold position : Nat) :
    (tally.recordAll calls).tally.source fold position
      = (tally.source fold position).map
          ((credits fold position (calls.zip (tally.recordAll calls).answers)).foldl (· + ·)) := by
  induction calls generalizing tally with
  | nil => exact Option.map_id'.symm
  | cons call calls ih =>
    cases answered : verdict tally.shape call.outcomes with
    | ok =>
      have same : call.outcomes.length = tally.folds := by
        rw [length_of_verdict answered, length_shape]
      rw [recordAll_cons_ok answered, ih, source_credited _ same, Option.map_map]
      congr 1
      funext entry
      by_cases named : closestIn fold call.outcomes = some position
      · simp [credits, Recording.names, named, Except.isOk, Except.toBool]
      · simp [credits, Recording.names, named, Except.isOk, Except.toBool]
    | error fault =>
      rw [recordAll_cons_error answered, ih]
      rfl

/-- Calls that failed can be left out. -/
theorem recordAll_successes :
    let events := calls.zip (tally.recordAll calls).answers
    (tally.recordAll (successes events)).tally = (tally.recordAll calls).tally ∧
      (tally.recordAll (successes events)).answers
        = (tally.recordAll calls).answers.filter (·.isOk) := by
  induction calls generalizing tally with
  | nil => exact ⟨rfl, rfl⟩
  | cons call calls ih =>
    cases answered : verdict tally.shape call.outcomes with
    | ok =>
      have kept : successes ((call :: calls).zip (tally.recordAll (call :: calls)).answers)
          = call :: successes (calls.zip
              ((tally.credited call.outcomes call.weight).recordAll calls).answers) := by
        rw [recordAll_cons_ok answered]
        rfl
      obtain ⟨table, answers⟩ := ih (tally.credited call.outcomes call.weight)
      dsimp only
      rw [kept, recordAll_cons_ok answered, recordAll_cons_ok answered, table, answers]
      exact ⟨rfl, rfl⟩
    | error fault =>
      have dropped : successes ((call :: calls).zip (tally.recordAll (call :: calls)).answers)
          = successes (calls.zip (tally.recordAll calls).answers) := by
        rw [recordAll_cons_error answered]
        rfl
      obtain ⟨table, answers⟩ := ih tally
      dsimp only
      rw [dropped, recordAll_cons_error answered, table, answers]
      exact ⟨rfl, rfl⟩

end Histories

/-! ## Points in any order -/

section Order

variable {points others : List (List (Nearest Float))}

/-- What plain calls credit to an entry is one each, so only their number matters. -/
theorem credits_perm (same : points.Perm others) (tally : Tally) (fold position : Nat) :
    credits fold position
        ((points.map .plain).zip (tally.recordAll (points.map .plain)).answers)
      = credits fold position
          ((others.map .plain).zip (tally.recordAll (others.map .plain)).answers) := by
  have events (points : List (List (Nearest Float))) :
      (points.map Recording.plain).zip (tally.recordAll (points.map .plain)).answers
        = points.map fun outcomes => (.plain outcomes, verdict tally.shape outcomes) := by
    rw [answers_recordAll, List.map_map, List.zip_map']
    rfl
  have ones : ∀ weight ∈ credits fold position
      (others.map fun outcomes => (.plain outcomes, verdict tally.shape outcomes)), weight = 1 := by
    intro weight member
    obtain ⟨event, event_mem, rfl⟩ := List.mem_map.mp member
    obtain ⟨outcomes, -, rfl⟩ := List.mem_map.mp (List.mem_filter.mp event_mem).1
    rfl
  rw [events, events]
  have permuted := ((same.map fun outcomes =>
    (Recording.plain outcomes, verdict tally.shape outcomes)).filter
      fun (call, answer) => answer.isOk && call.names fold position).map (·.1.weight)
  have all_ones := List.eq_replicate_of_mem ones
  unfold credits at all_ones ⊢
  rw [all_ones] at permuted ⊢
  exact List.perm_replicate.mp permuted

/-- The order of the points changes neither the table nor what is answered to a point. -/
theorem recordAll_perm (same : points.Perm others) (tally : Tally) :
    (tally.recordAll (points.map .plain)).tally = (tally.recordAll (others.map .plain)).tally ∧
      (tally.recordAll (points.map .plain)).answers.Perm
        (tally.recordAll (others.map .plain)).answers := by
  refine ⟨eq_of_source ?_ fun fold position => ?_, ?_⟩
  · rw [shape_recordAll, shape_recordAll]
  · rw [source_recordAll, source_recordAll, credits_perm same]
  · rw [answers_recordAll, answers_recordAll]
    exact (same.map Recording.plain).map _

end Order

/-- A new table keeps its shape through every history of calls. Each entry is the sum, from zero on
and in the order of the calls, of the weights of the calls that succeeded and named it. Calls that
failed can be left out, and points of weight one can be counted in any order. -/
theorem recordings_add_up (counts : List Nat) (calls : List Recording) :
    ((ofCounts counts).recordAll calls).answers.length = calls.length ∧
    ((ofCounts counts).recordAll calls).tally.shape = counts ∧
    (∀ fold count position, counts[fold]? = some count → position < count →
      ((ofCounts counts).recordAll calls).tally.source fold position
        = some ((credits fold position
            (calls.zip ((ofCounts counts).recordAll calls).answers)).foldl (· + ·) 0.0)) ∧
    (let kept := successes (calls.zip ((ofCounts counts).recordAll calls).answers);
      ((ofCounts counts).recordAll kept).tally = ((ofCounts counts).recordAll calls).tally ∧
        ((ofCounts counts).recordAll kept).answers
          = ((ofCounts counts).recordAll calls).answers.filter (·.isOk)) ∧
    (∀ points others : List (List (Nearest Float)), points.Perm others →
      ((ofCounts counts).recordAll (points.map .plain)).tally
          = ((ofCounts counts).recordAll (others.map .plain)).tally ∧
        ((ofCounts counts).recordAll (points.map .plain)).answers.Perm
          ((ofCounts counts).recordAll (others.map .plain)).answers) := by
  refine ⟨?_, ?_, fun fold count position shaped inside => ?_,
    recordAll_successes _ calls, fun points others same => recordAll_perm same _⟩
  · rw [answers_recordAll, List.length_map]
  · rw [shape_recordAll, shape_ofCounts]
  · have zero : (ofCounts counts).source fold position = some 0 := by
      rw [ofCounts_eq_ofHits, source_ofHits _ shaped inside]
      rfl
    have literal : (0.0 : Float) = 0 := by decide +kernel
    rw [source_recordAll, zero, literal]
    rfl

/-- Two of four calls are refused, and the other two credit the second center of the first fold. -/
theorem recordings_add_up_refused_calls :
    let calls : List Recording :=
      [.plain [⟨0.5, some 1⟩, .empty, ⟨0.1, some 2⟩],
        .plain [],
        .weighted [⟨0.2, some 1⟩, .empty, ⟨0.3, some 0⟩] 2.5,
        .plain [⟨0.5, some 1⟩, .empty, ⟨0.1, some 3⟩]]
    let points : List (List (Nearest Float)) := [[⟨0.5, some 1⟩, .empty, .empty], []]
    ((ofCounts [2, 0, 3]).recordAll calls).answers
        = [.ok (), .error (.noSuchFold 0 3), .ok (), .error (.tooFewWeights 2 4 3)] ∧
      [2, 0, 3][0]? = some 2 ∧ 1 < 2 ∧
      ((ofCounts [2, 0, 3]).recordAll calls).tally.source 0 1 = some 3.5 ∧
      points.Perm points.reverse ∧
      ((ofCounts [2, 0, 3]).recordAll (points.map .plain)).tally
        = ((ofCounts [2, 0, 3]).recordAll (points.reverse.map .plain)).tally := by
  intro calls points
  have answers : ((ofCounts [2, 0, 3]).recordAll calls).answers
      = [.ok (), .error (.noSuchFold 0 3), .ok (), .error (.tooFewWeights 2 4 3)] := by
    rw [answers_recordAll]
    rfl
  have reordered : points.Perm points.reverse := points.reverse_perm.symm
  obtain ⟨-, -, sums, -, orders⟩ := recordings_add_up [2, 0, 3] calls
  have sum := sums 0 2 1 rfl (by decide)
  have total : (credits 0 1 (calls.zip ((ofCounts [2, 0, 3]).recordAll calls).answers)).foldl
      (· + ·) 0.0 = 3.5 := by
    rw [answers]
    decide +kernel
  rw [total] at sum
  exact ⟨answers, rfl, by decide, sum, reordered, (orders _ _ reordered).1⟩

end Tally

end KMeansSeeding
