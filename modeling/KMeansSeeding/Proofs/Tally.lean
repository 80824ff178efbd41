import KMeansSeeding.Weights
import KMeansSeeding.Proofs.Promises
import Mathlib.Logic.Function.Iterate

/-!
# What a tally counts

Starting from zeros, every recorded point adds one to the entries that its outcomes name. So an entry
is determined by how often it was named, which `ofHits` makes explicit: recording one more point is
having one more hit (`record_ofHits`). Counting is repeated addition of one in floating point, so the
entry for `k` hits is the `k`-fold successor of zero and not the number `k`.
-/

namespace KMeansSeeding

/-- The position that some outcomes, one per fold, name in a fold. -/
def closestIn (fold : Nat) (outcomes : List (Nearest Float)) : Option Nat :=
  (outcomes[fold]?).bind (·.closest)

/-- Only folds with an outcome have a position that is named. -/
theorem lt_of_closestIn {fold position : Nat} {outcomes : List (Nearest Float)}
    (named : closestIn fold outcomes = some position) : fold < outcomes.length := by
  obtain ⟨nearest, found, -⟩ := Option.bind_eq_some_iff.mp named
  exact (List.getElem?_eq_some_iff.mp found).1

/-- How often some outcomes, one list per point, name a position of a fold. -/
def hits (outcomes : List (List (Nearest Float))) (fold position : Nat) : Nat :=
  outcomes.countP fun outcomes => (outcomes[fold]?).bind (·.closest) == some position

/-- The weight of a center that was hit some number of times. -/
def weightOf (hits : Nat) : Float :=
  (· + 1)^[hits] 0

@[simp] theorem hits_nil (fold position : Nat) : hits [] fold position = 0 := rfl

theorem hits_append_singleton (past : List (List (Nearest Float))) (outcomes : List (Nearest Float))
    (fold position : Nat) :
    hits (past ++ [outcomes]) fold position = hits past fold position +
      if (outcomes[fold]?).bind (·.closest) = some position then 1 else 0 := by
  rw [hits, List.countP_append, List.countP_singleton, ← hits]
  simp only [beq_iff_eq]

theorem weightOf_succ (count : Nat) : weightOf (count + 1) = weightOf count + 1 :=
  Function.iterate_succ_apply' _ _ _

example : weightOf 3 = 3 := by decide +kernel

namespace Tally

/-! ## What a table accepts -/

/-- The number of entries of each row. -/
def shape (tally : Tally) : List Nat :=
  tally.rows.map List.length

/-- Outcomes, one per fold, that name entries of the table. -/
structure Covers (tally : Tally) (outcomes : List (Nearest Float)) : Prop where
  length_eq : outcomes.length = tally.folds
  inside : ∀ fold count position, tally.shape[fold]? = some count →
    closestIn fold outcomes = some position → position < count

@[simp] theorem shape_ofCounts (counts : List Nat) : (ofCounts counts).shape = counts := by
  simp [shape, ofCounts, Function.comp_def]

@[simp] theorem length_shape (tally : Tally) : tally.shape.length = tally.folds := by
  simp [shape, folds]

@[simp] theorem length_credit (weight : Float) (row : List Float) (nearest : Nearest Float) :
    (credit weight row nearest).length = row.length := by
  rw [credit]
  split
  · rfl
  · rw [List.length_modify]

variable {tally next : Tally} {outcomes : List (Nearest Float)} {fold count : Nat}

/-- A row of the shape is the length of a row of the table. -/
theorem shape_eq_some_iff :
    tally.shape[fold]? = some count ↔ ∃ row, tally.rows[fold]? = some row ∧ row.length = count := by
  rw [shape, List.getElem?_map, Option.map_eq_some_iff]

theorem covers_eq_ok_iff {row : List Float} {nearest : Nearest Float} :
    covers fold row nearest = .ok () ↔
      ∀ position, nearest.closest = some position → position < row.length := by
  rw [covers]
  cases nearest.closest with
  | none => simp
  | some position =>
    dsimp only
    split_ifs with inside <;> simp [inside]

/-- Outcomes in the right number pass the checks fold by fold exactly if the table covers them. -/
theorem forM_covers_iff (same : outcomes.length = tally.folds) :
    ((tally.rows.zip outcomes).zipIdx.forM fun numbered =>
        covers numbered.2 numbered.1.1 numbered.1.2) = .ok () ↔ tally.Covers outcomes := by
  rw [forM_eq_ok_iff]
  constructor
  · intro passed
    refine ⟨same, fun fold count position shaped named => ?_⟩
    obtain ⟨row, hrow, rfl⟩ := shape_eq_some_iff.mp shaped
    obtain ⟨nearest, houtcome, closest⟩ := Option.bind_eq_some_iff.mp named
    have member : ((row, nearest), fold) ∈ (tally.rows.zip outcomes).zipIdx :=
      List.mem_zipIdx_iff_getElem?.mpr (List.getElem?_zip_eq_some.mpr ⟨hrow, houtcome⟩)
    exact covers_eq_ok_iff.mp (passed _ member) position closest
  · rintro covered ⟨⟨row, nearest⟩, fold⟩ member
    obtain ⟨hrow, houtcome⟩ := List.getElem?_zip_eq_some.mp (List.mem_zipIdx_iff_getElem?.mp member)
    dsimp only at hrow houtcome ⊢
    refine covers_eq_ok_iff.mpr fun position closest => ?_
    refine covered.inside fold row.length position (shape_eq_some_iff.mpr ⟨row, hrow, rfl⟩) ?_
    rw [closestIn, houtcome, Option.bind_some, closest]

/-- The checks of a recording pass exactly for outcomes that the table covers. -/
theorem check_eq_ok_iff : tally.check outcomes = .ok () ↔ tally.Covers outcomes := by
  rw [check]
  by_cases same : outcomes.length = tally.folds
  · rw [if_pos same]
    exact forM_covers_iff same
  · rw [if_neg same]
    exact iff_of_false nofun fun covered => same covered.length_eq

/-- A recording succeeds exactly for outcomes that the table covers. -/
theorem recordWeighted_eq_ok_iff {weight : Float} :
    tally.recordWeighted outcomes weight = .ok next ↔
      tally.Covers outcomes ∧ next = tally.credited outcomes weight := by
  rw [recordWeighted, map_eq_ok_iff, ← check_eq_ok_iff]
  constructor
  · rintro ⟨⟨⟩, passed, rfl⟩
    exact ⟨passed, rfl⟩
  · rintro ⟨passed, rfl⟩
    exact ⟨(), passed, rfl⟩

theorem recordWeighted_eq_error_iff {weight : Float} :
    (∃ fault, tally.recordWeighted outcomes weight = .error fault) ↔ ¬ tally.Covers outcomes := by
  constructor
  · rintro ⟨fault, failed⟩ covered
    rw [recordWeighted_eq_ok_iff.mpr ⟨covered, rfl⟩] at failed
    cases failed
  · intro uncovered
    cases recorded : tally.recordWeighted outcomes weight with
    | error fault => exact ⟨fault, rfl⟩
    | ok next => exact absurd (recordWeighted_eq_ok_iff.mp recorded).1 uncovered

/-- A recording changes entries, not the shape of the table. -/
theorem shape_recordWeighted {weight : Float}
    (recorded : tally.recordWeighted outcomes weight = .ok next) : next.shape = tally.shape := by
  obtain ⟨covered, rfl⟩ := recordWeighted_eq_ok_iff.mp recorded
  refine List.ext_getElem? fun fold => ?_
  rw [shape, shape, List.getElem?_map, List.getElem?_map, credited, List.getElem?_zipWith]
  cases hrow : tally.rows[fold]? with
  | none => rfl
  | some row =>
    have short : fold < outcomes.length := by
      rw [covered.length_eq]
      exact (List.getElem?_eq_some_iff.mp hrow).1
    rw [List.getElem?_eq_getElem short]
    exact congrArg some (length_credit weight row _)

/-- A recording adds its weight to the entries that the outcomes name, and to no other. -/
theorem source_credited {tally : Tally} {outcomes : List (Nearest Float)} (weight : Float)
    (same : outcomes.length = tally.folds) (fold position : Nat) :
    (tally.credited outcomes weight).source fold position
      = (tally.source fold position).map fun entry =>
          if closestIn fold outcomes = some position then entry + weight else entry := by
  rw [source, source, WeightSource.ofRows, WeightSource.ofRows, credited, List.getElem?_zipWith]
  cases hrow : tally.rows[fold]? with
  | none => rfl
  | some row =>
    have short : fold < outcomes.length := by
      rw [same]
      exact (List.getElem?_eq_some_iff.mp hrow).1
    rw [closestIn, List.getElem?_eq_getElem short]
    show (credit weight row outcomes[fold])[position]? = (row[position]?).map _
    rw [credit, Option.bind_some]
    cases outcomes[fold].closest with
    | none => simp
    | some target =>
      dsimp only
      rw [List.getElem?_modify]
      by_cases h : target = position
      · simp [h]
      · simp [h]

/-! ## Counting hits -/

/-- The row of a fold whose positions were hit as often as given. -/
def hitRow (count : Nat) (hits : (position : Nat) → Nat) : List Float :=
  (List.range count).map fun position => weightOf (hits position)

/-- The table of folds with the given counts of centers, which were hit as often as given. -/
def ofHits (counts : List Nat) (hits : (fold position : Nat) → Nat) : Tally :=
  ⟨counts.mapIdx fun fold count => hitRow count (hits fold)⟩

theorem length_hitRow (count : Nat) (hits : Nat → Nat) : (hitRow count hits).length = count := by
  rw [hitRow, List.length_map, List.length_range]

theorem getElem?_hitRow {count position : Nat} (hits : Nat → Nat) (inside : position < count) :
    (hitRow count hits)[position]? = some (weightOf (hits position)) := by
  rw [hitRow, List.getElem?_map, List.getElem?_range inside, Option.map_some]

/-- A new table counts no hits. -/
theorem ofCounts_eq_ofHits (counts : List Nat) : ofCounts counts = ofHits counts (hits []) := by
  have row : ∀ count, List.replicate count (0 : Float) = hitRow count fun _ => 0 := by
    intro count
    rw [hitRow, List.map_const', List.length_range]
    rfl
  refine congrArg Tally.mk (List.ext_getElem? fun fold => ?_)
  rw [List.getElem?_map, List.getElem?_mapIdx]
  cases counts[fold]? with
  | none => rfl
  | some count => exact congrArg some (row count)

/-- Crediting an outcome is one more hit of its position. -/
theorem credit_hitRow (count : Nat) (hits : Nat → Nat) (nearest : Nearest Float) :
    credit 1 (hitRow count hits) nearest
      = hitRow count fun position =>
          hits position + if nearest.closest = some position then 1 else 0 := by
  rw [credit]
  cases nearest.closest with
  | none => simp
  | some target =>
    refine List.ext_getElem? fun position => ?_
    dsimp only
    rw [List.getElem?_modify]
    -- outside of the row, neither side has an entry
    rcases Nat.lt_or_ge position count with inside | outside
    · rw [getElem?_hitRow _ inside, getElem?_hitRow _ inside]
      by_cases h : target = position
      · simp [h, weightOf_succ]
      · simp [h]
    · rw [List.getElem?_eq_none (by rwa [length_hitRow]),
        List.getElem?_eq_none (by rwa [length_hitRow])]
      rfl

/-- A table of hits has an entry per center. -/
@[simp] theorem shape_ofHits (counts : List Nat) (hits : (fold position : Nat) → Nat) :
    (ofHits counts hits).shape = counts := by
  refine List.ext_getElem? fun fold => ?_
  rw [shape, ofHits, List.getElem?_map, List.getElem?_mapIdx, Option.map_map]
  cases counts[fold]? with
  | none => rfl
  | some count => exact congrArg some (length_hitRow count (hits fold))

/-- Recording outcomes that the table covers is one more hit of each. -/
theorem record_ofHits {counts : List Nat} {past : List (List (Nearest Float))}
    (covered : (ofHits counts (hits past)).Covers outcomes) :
    (ofHits counts (hits past)).record outcomes = .ok (ofHits counts (hits (past ++ [outcomes]))) := by
  refine recordWeighted_eq_ok_iff.mpr ⟨covered, ?_⟩
  refine congrArg Tally.mk (List.ext_getElem? fun fold => ?_)
  rw [List.getElem?_zipWith, ofHits, List.getElem?_mapIdx, List.getElem?_mapIdx]
  cases hcount : counts[fold]? with
  | none => rfl
  | some count =>
    have short : fold < outcomes.length := by
      rw [covered.length_eq, ← length_shape, shape_ofHits]
      exact (List.getElem?_eq_some_iff.mp hcount).1
    have houtcome := List.getElem?_eq_getElem short
    rw [houtcome]
    refine congrArg some (Eq.trans (congrArg _ (funext fun position => ?_))
      (credit_hitRow count _ _).symm)
    rw [hits_append_singleton, houtcome, Option.bind_some]

theorem source_ofHits {counts : List Nat} {fold count position : Nat}
    (hits : (fold position : Nat) → Nat) (hcount : counts[fold]? = some count)
    (inside : position < count) :
    (ofHits counts hits).source fold position = some (weightOf (hits fold position)) := by
  have row : (ofHits counts hits).rows[fold]? = some (hitRow count (hits fold)) := by
    rw [ofHits, List.getElem?_mapIdx, hcount, Option.map_some]
  rw [source, WeightSource.ofRows, row]
  exact getElem?_hitRow (hits fold) inside

end Tally

/-! ## Exporting -/

/-- Points whose weights are all known are paired with them. -/
theorem pairWithSource_eq_ok {fold : Nat} {points : List Point} {source : WeightSource}
    {weights : (position : Nat) → Float}
    (known : ∀ position < points.length, source fold position = some (weights position)) :
    pairWithSource fold points source
      = .ok (points.mapIdx fun position point => ⟨point, weights position⟩) := by
  rw [pairWithSource, List.mapIdx_eq_zipIdx_map]
  refine mapM_eq_ok_map ?_
  rintro ⟨point, position⟩ member
  dsimp only
  rw [known position (List.getElem?_eq_some_iff.mp (List.mem_zipIdx_iff_getElem?.mp member)).1]

/-- An export needs a weight for every point, and nothing else. -/
theorem exists_pairWithSource_eq_ok {fold : Nat} {points : List Point} {source : WeightSource}
    (known : ∀ position < points.length, (source fold position).isSome = true) :
    ∃ weighted, pairWithSource fold points source = .ok weighted := by
  refine exists_mapM_eq_ok ?_
  rintro ⟨point, position⟩ member
  have within := (List.getElem?_eq_some_iff.mp (List.mem_zipIdx_iff_getElem?.mp member)).1
  obtain ⟨weight, found⟩ := Option.isSome_iff_exists.mp (known position within)
  exact ⟨⟨point, weight⟩, by simp only [found]⟩

/-- The first position without a weight is the fault of an export. -/
theorem pairWithSource_eq_error {fold position : Nat} {points : List Point} {source : WeightSource}
    (inside : position < points.length)
    (known : ∀ earlier < position, (source fold earlier).isSome = true)
    (missing : source fold position = none) :
    pairWithSource fold points source = .error (.tooFewWeights fold points.length position) := by
  refine mapM_zipIdx_eq_error (List.getElem?_eq_getElem inside) (fun earlier before point _ => ?_) ?_
  · obtain ⟨weight, found⟩ := Option.isSome_iff_exists.mp (known earlier before)
    exact ⟨⟨point, weight⟩, by simp only [found]⟩
  · simp only [missing]

namespace Tally

variable {tally : Tally} {fold count : Nat}

/-- A table has a weight for every entry of a row, and no more. -/
theorem isSome_source (shaped : tally.shape[fold]? = some count) (position : Nat) :
    (tally.source fold position).isSome = true ↔ position < count := by
  obtain ⟨row, hrow, rfl⟩ := shape_eq_some_iff.mp shaped
  have entry : tally.source fold position = row[position]? := by
    rw [source, WeightSource.ofRows, hrow]
    rfl
  rw [entry, isSome_getElem?]

/-- The points of a fold are exported as long as there are entries for all of them. -/
theorem pairWithSource_of_le (shaped : tally.shape[fold]? = some count) {points : List Point}
    (enough : points.length ≤ count) :
    ∃ weighted, pairWithSource fold points tally.source = .ok weighted :=
  exists_pairWithSource_eq_ok fun position inside =>
    (isSome_source shaped position).mpr (Nat.lt_of_lt_of_le inside enough)

/-- The first point without an entry is the one behind the row. -/
theorem pairWithSource_of_lt (shaped : tally.shape[fold]? = some count) {points : List Point}
    (short : count < points.length) :
    pairWithSource fold points tally.source
      = .error (.tooFewWeights fold points.length count) := by
  refine pairWithSource_eq_error short (fun earlier before => ?_) ?_
  · exact (isSome_source shaped earlier).mpr before
  · rw [← Option.not_isSome_iff_eq_none, isSome_source shaped]
    exact Nat.lt_irrefl count

end Tally

end KMeansSeeding
