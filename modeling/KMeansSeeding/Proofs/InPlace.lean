import KMeansSeeding.Proofs.Tally
import Mathlib.Order.Lattice.Nat

/-!
# Recordings in place

A recording answers with a new table. `recordInPlace` changes a table instead, one entry after another,
and ends with the table as it is by then, whatever goes wrong. The checks at the start leave nothing that
can go wrong later (`creditEach_of_covers`), so a table is either changed completely or not at all, and
the first fold with an outcome that has no entry is the one that is reported (`recordWeighted_atomic`).
-/

namespace KMeansSeeding.Tally

/-! ## Outcomes without an entry -/

/-- The folds whose outcome names a position at or behind the end of the row. -/
def uncovered (table : Tally) (outcomes : List (Nearest Float)) : Set ℕ :=
  {fold | ∃ position row, closestIn fold outcomes = some position ∧ table.row? fold = some row ∧
    row.length ≤ position}

variable {table next : Tally} {outcomes : List (Nearest Float)} {weight : Float}

theorem covers_iff_uncovered :
    table.Covers outcomes ↔ outcomes.length = table.folds ∧ table.uncovered outcomes = ∅ := by
  rw [Set.eq_empty_iff_forall_notMem]
  constructor
  · refine fun covered => ⟨covered.length_eq, ?_⟩
    rintro fold ⟨position, row, named, found, behind⟩
    have shaped := shape_eq_some_iff.mpr ⟨row, found, rfl⟩
    exact absurd (covered.inside fold row.length position shaped named) (Nat.not_lt.mpr behind)
  · rintro ⟨same, none⟩
    refine ⟨same, fun fold count position shaped named => ?_⟩
    obtain ⟨row, found, rfl⟩ := shape_eq_some_iff.mp shaped
    exact Nat.lt_of_not_le fun behind => none fold ⟨position, row, named, found, behind⟩

theorem recordWeighted_eq_error_of_length (differ : outcomes.length ≠ table.folds) :
    table.recordWeighted outcomes weight = .error (.noSuchFold outcomes.length table.folds) := by
  rw [recordWeighted, check, if_neg differ]
  rfl

/-- The first fold with an outcome that has no entry is the fault of a recording. -/
theorem recordWeighted_eq_error_of_isLeast {fold position : ℕ} {row : List Float}
    (same : outcomes.length = table.folds) (least : IsLeast (table.uncovered outcomes) fold)
    (named : closestIn fold outcomes = some position) (found : table.row? fold = some row) :
    table.recordWeighted outcomes weight = .error (.tooFewWeights fold (position + 1) row.length) := by
  obtain ⟨position', row', named', found', behind⟩ := least.1
  obtain rfl := Option.some.inj (named.symm.trans named')
  obtain rfl := Option.some.inj (found.symm.trans found')
  obtain ⟨nearest, answered, closest⟩ := Option.bind_eq_some_iff.mp named
  have place : (table.rows.zip outcomes)[fold]? = some (row, nearest) :=
    List.getElem?_zip_eq_some.mpr ⟨found, answered⟩
  rw [recordWeighted, check, if_pos same]
  refine map_eq_error_iff.mpr (forM_zipIdx_eq_error place ?_ ?_)
  · rintro earlier before ⟨other, outcome⟩ place
    obtain ⟨hrow, houtcome⟩ := List.getElem?_zip_eq_some.mp place
    refine covers_eq_ok_iff.mpr fun position closest => Nat.lt_of_not_le fun behind => ?_
    -- an earlier outcome without an entry contradicts the choice of the fold
    have named : closestIn earlier outcomes = some position := by
      rw [closestIn, houtcome, Option.bind_some, closest]
    exact absurd (least.2 ⟨position, other, named, hrow, behind⟩) (Nat.not_le.mpr before)
  · dsimp only
    rw [covers, closest]
    exact if_neg (Nat.not_lt.mpr behind)

/-- The answers that a recording can give: there is a wrong number of outcomes, some fold is the first
with an outcome that has no entry, or the table covers the outcomes. -/
theorem recordWeighted_cases (table : Tally) (outcomes : List (Nearest Float)) (weight : Float) :
    (outcomes.length ≠ table.folds ∧
        table.recordWeighted outcomes weight = .error (.noSuchFold outcomes.length table.folds)) ∨
      (outcomes.length = table.folds ∧ ∃ fold position row, IsLeast (table.uncovered outcomes) fold ∧
        closestIn fold outcomes = some position ∧ table.row? fold = some row ∧
        table.recordWeighted outcomes weight = .error (.tooFewWeights fold (position + 1) row.length)) ∨
      (outcomes.length = table.folds ∧ table.uncovered outcomes = ∅ ∧
        table.recordWeighted outcomes weight = .ok (table.credited outcomes weight)) := by
  by_cases same : outcomes.length = table.folds
  · rcases (table.uncovered outcomes).eq_empty_or_nonempty with none | some
    · exact .inr (.inr ⟨same, none,
        recordWeighted_eq_ok_iff.mpr ⟨covers_iff_uncovered.mpr ⟨same, none⟩, rfl⟩⟩)
    · have least := isLeast_csInf some
      obtain ⟨position, row, named, found, -⟩ := least.1
      exact .inr (.inl ⟨same, _, position, row, least, named, found,
        recordWeighted_eq_error_of_isLeast same least named found⟩)
  · exact .inl ⟨same, recordWeighted_eq_error_of_length same⟩

theorem recordWeighted_eq_noSuchFold_iff :
    table.recordWeighted outcomes weight = .error (.noSuchFold outcomes.length table.folds) ↔
      outcomes.length ≠ table.folds := by
  refine ⟨fun failed => ?_, recordWeighted_eq_error_of_length⟩
  rcases table.recordWeighted_cases outcomes weight with
    ⟨differ, -⟩ | ⟨-, _, _, _, -, -, -, other⟩ | ⟨-, -, other⟩
  · exact differ
  · cases failed.symm.trans other
  · cases failed.symm.trans other

theorem recordWeighted_eq_tooFewWeights_iff {fold expected count : ℕ} :
    table.recordWeighted outcomes weight = .error (.tooFewWeights fold expected count) ↔
      outcomes.length = table.folds ∧ IsLeast (table.uncovered outcomes) fold ∧
        ∃ position row, closestIn fold outcomes = some position ∧ table.row? fold = some row ∧
          expected = position + 1 ∧ count = row.length := by
  constructor
  · intro failed
    rcases table.recordWeighted_cases outcomes weight with
      ⟨-, other⟩ | ⟨same, _, position, row, least, named, found, fault⟩ | ⟨-, -, other⟩
    · cases failed.symm.trans other
    · obtain ⟨rfl, rfl, rfl⟩ := Fault.tooFewWeights.inj (Except.error.inj (failed.symm.trans fault))
      exact ⟨same, least, position, row, named, found, rfl, rfl⟩
    · cases failed.symm.trans other
  · rintro ⟨same, least, position, row, named, found, rfl, rfl⟩
    exact recordWeighted_eq_error_of_isLeast same least named found

theorem exists_recordWeighted_eq_ok_iff :
    (∃ next, table.recordWeighted outcomes weight = .ok next) ↔
      outcomes.length = table.folds ∧ table.uncovered outcomes = ∅ := by
  rw [← covers_iff_uncovered]
  constructor
  · rintro ⟨next, recorded⟩
    exact (recordWeighted_eq_ok_iff.mp recorded).1
  · exact fun covered => ⟨_, recordWeighted_eq_ok_iff.mpr ⟨covered, rfl⟩⟩

/-- A covered outcome names an entry of the table. -/
theorem Covers.exists_entry (covered : table.Covers outcomes) {fold position : ℕ}
    (named : closestIn fold outcomes = some position) :
    ∃ entry, table.source fold position = some entry := by
  have inside : fold < table.shape.length := by
    rw [length_shape, ← covered.length_eq]
    exact lt_of_closestIn named
  have shaped := List.getElem?_eq_getElem inside
  exact Option.isSome_iff_exists.mp
    ((isSome_source shaped position).mpr (covered.inside fold _ position shaped named))

/-- A recording adds the weight to the entries that the outcomes name, and changes no other. -/
theorem source_recordWeighted (recorded : table.recordWeighted outcomes weight = .ok next) :
    (∀ fold position, closestIn fold outcomes = some position → ∃ entry,
      table.source fold position = some entry ∧ next.source fold position = some (entry + weight)) ∧
    ∀ fold position, closestIn fold outcomes ≠ some position →
      next.source fold position = table.source fold position := by
  obtain ⟨covered, rfl⟩ := recordWeighted_eq_ok_iff.mp recorded
  have entries := source_credited weight covered.length_eq
  constructor
  · intro fold position named
    obtain ⟨entry, found⟩ := covered.exists_entry named
    refine ⟨entry, found, (entries fold position).trans ?_⟩
    rw [found, Option.map_some, if_pos named]
  · intro fold position other
    refine (entries fold position).trans ?_
    simp only [if_neg other, Option.map_id']

/-! ## Changing a table entry by entry -/

theorem creditAt_append {before rows : List (List Float)} {row : List Float} {position : ℕ}
    (inside : position < row.length) :
    (Tally.mk (before ++ row :: rows)).creditAt weight before.length position
      = .ok ⟨before ++ row.modify position (· + weight) :: rows⟩ := by
  have place : entryAt (before ++ row :: rows) before.length = .ok row :=
    entryAt_eq_ok_iff.mpr (by simp)
  have entry : entryAt row position = .ok row[position] :=
    entryAt_eq_ok_iff.mpr (List.getElem?_eq_getElem inside)
  rw [List.modify_eq_set_get _ inside, creditAt, place]
  show (entryAt row position >>= _) = _
  rw [entry]
  show Except.ok (Tally.mk _) = _
  rw [List.set_append_right _ _ (Nat.le_refl _), Nat.sub_self]
  rfl

/-- Behind rows that are done, the outcomes of the remaining rows are credited one by one. -/
theorem creditEach_append (before : List (List Float)) {rows : List (List Float)}
    (inside : List.Forall₂ (fun row nearest => ∀ position, nearest.closest = some position →
      position < row.length) rows outcomes) :
    creditEach weight ⟨before ++ rows⟩ (outcomes.zipIdx before.length)
      = ⟨.ok (), ⟨before ++ List.zipWith (credit weight) rows outcomes⟩⟩ := by
  induction inside generalizing before with
  | nil => rfl
  | @cons row nearest rows outcomes first rest ih =>
    have step := ih (before ++ [credit weight row nearest])
    rw [List.append_assoc, List.append_assoc, List.singleton_append, List.singleton_append,
      List.length_append, List.length_singleton] at step
    rw [List.zipIdx_cons, creditEach, List.zipWith_cons_cons, ← step]
    rw [credit]
    cases named : nearest.closest with
    | none => rfl
    | some position =>
      dsimp only
      rw [creditAt_append (first position named)]

/-- A table that covers some outcomes is changed completely, without a breach on the way. -/
theorem creditEach_of_covers (covered : table.Covers outcomes) :
    creditEach weight table outcomes.zipIdx = ⟨.ok (), table.credited outcomes weight⟩ := by
  refine creditEach_append [] (List.forall₂_iff_zip.mpr ⟨covered.length_eq.symm, ?_⟩)
  intro row nearest member position closest
  obtain ⟨fold, place⟩ := List.mem_iff_getElem?.mp member
  obtain ⟨found, answered⟩ := List.getElem?_zip_eq_some.mp place
  refine covered.inside fold row.length position (shape_eq_some_iff.mpr ⟨row, found, rfl⟩) ?_
  rw [closestIn, answered, Option.bind_some, closest]

/-- A recording in place ends with the table of the recording, or with the table as it was. -/
theorem recordInPlace_eq (table : Tally) (outcomes : List (Nearest Float)) (weight : Float) :
    table.recordInPlace outcomes weight
      = match table.recordWeighted outcomes weight with
        | .ok next => ⟨.ok (), next⟩
        | .error fault => ⟨.error fault, table⟩ := by
  rw [recordInPlace, recordWeighted]
  cases checked : table.check outcomes with
  | error fault => rfl
  | ok => exact creditEach_of_covers (check_eq_ok_iff.mp checked)

/-! ## What a recording does -/

/-- A recording is refused exactly if it has not one outcome per fold, or else for the first fold whose
outcome names a position behind its row. A refused recording in place leaves the table as it was. One that
is accepted adds the weight to the entries that the outcomes name, and changes nothing else. -/
theorem recordWeighted_atomic (table : Tally) (outcomes : List (Nearest Float)) (weight : Float) :
    (table.recordWeighted outcomes weight = .error (.noSuchFold outcomes.length table.folds) ↔
      outcomes.length ≠ table.folds) ∧
    (∀ fold expected count,
      table.recordWeighted outcomes weight = .error (.tooFewWeights fold expected count) ↔
        outcomes.length = table.folds ∧ IsLeast (table.uncovered outcomes) fold ∧
          ∃ position row, closestIn fold outcomes = some position ∧ table.row? fold = some row ∧
            expected = position + 1 ∧ count = row.length) ∧
    ((∃ next, table.recordWeighted outcomes weight = .ok next) ↔
      outcomes.length = table.folds ∧ table.uncovered outcomes = ∅) ∧
    (∀ fault, table.recordWeighted outcomes weight = .error fault →
      table.recordInPlace outcomes weight = ⟨.error fault, table⟩) ∧
    ∀ next, table.recordWeighted outcomes weight = .ok next →
      table.recordInPlace outcomes weight = ⟨.ok (), next⟩ ∧ next.shape = table.shape ∧
      (∀ fold position, closestIn fold outcomes = some position → ∃ entry,
        table.source fold position = some entry ∧
          next.source fold position = some (entry + weight)) ∧
      ∀ fold position, closestIn fold outcomes ≠ some position →
        next.source fold position = table.source fold position := by
  refine ⟨recordWeighted_eq_noSuchFold_iff, fun _ _ _ => recordWeighted_eq_tooFewWeights_iff,
    exists_recordWeighted_eq_ok_iff, fun fault failed => ?_, fun next recorded => ?_⟩
  · rw [recordInPlace_eq, failed]
  · have inPlace := table.recordInPlace_eq outcomes weight
    rw [recorded] at inPlace
    exact ⟨inPlace, shape_recordWeighted recorded, source_recordWeighted recorded⟩

/-- The last of three outcomes names a position behind its row, so the first one is not credited either.
With an outcome inside the row both are. -/
theorem recordWeighted_atomic_last_fold :
    let table : Tally := ⟨[[1], [], [2, 3]]⟩
    let late : List (Nearest Float) := [⟨0.5, some 0⟩, .empty, ⟨0.5, some 2⟩]
    let inside : List (Nearest Float) := [⟨0.5, some 0⟩, .empty, ⟨0.5, some 1⟩]
    IsLeast (table.uncovered late) 2 ∧
      table.recordInPlace late 7 = ⟨.error (.tooFewWeights 2 3 2), table⟩ ∧
      ∃ next, table.recordWeighted inside 7 = .ok next ∧
        table.recordInPlace inside 7 = ⟨.ok (), next⟩ ∧ next.shape = [1, 0, 2] ∧
        next.source 0 0 = some 8 ∧ next.source 2 1 = some 10 ∧ next.source 2 0 = some 2 := by
  intro table late inside
  have least : IsLeast (table.uncovered late) 2 := by
    refine ⟨⟨2, [2, 3], rfl, rfl, Nat.le_refl 2⟩, ?_⟩
    rintro fold ⟨position, row, named, found, behind⟩
    rcases fold with _ | _ | fold
    · obtain rfl := Option.some.inj named
      obtain rfl := Option.some.inj found
      exact absurd behind (by decide)
    · cases named
    · exact Nat.le_add_left 2 fold
  obtain ⟨-, refused, -, unchanged, -⟩ := table.recordWeighted_atomic late 7
  have failed := (refused 2 3 2).mpr ⟨rfl, least, 2, [2, 3], rfl, rfl, rfl, rfl⟩
  obtain ⟨next, recorded⟩ : ∃ next, table.recordWeighted inside 7 = .ok next := ⟨_, rfl⟩
  obtain ⟨-, -, -, -, accepted⟩ := table.recordWeighted_atomic inside 7
  obtain ⟨inPlace, shape, named, others⟩ := accepted next recorded
  obtain ⟨first, found, first'⟩ := named 0 0 rfl
  obtain ⟨last, found', last'⟩ := named 2 1 rfl
  obtain rfl : 1 = first := Option.some.inj found
  obtain rfl : 3 = last := Option.some.inj found'
  refine ⟨least, unchanged _ failed, next, recorded, inPlace, shape, first'.trans ?_, last'.trans ?_,
    others 2 0 (by decide)⟩
  · exact congrArg some (by decide +kernel)
  · exact congrArg some (by decide +kernel)

end KMeansSeeding.Tally
