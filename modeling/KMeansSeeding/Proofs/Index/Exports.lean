import KMeansSeeding.Proofs.Index.Counts
import KMeansSeeding.Proofs.Index.Retrieval
import Mathlib.Data.Prod.Lex

/-!
# Exports of all folds and of one

Stored points leave an index in two ways: those of one fold with the leading weights of a list, and those
of all folds with weights that are looked up one by one. The export of all folds fails exactly if some
point has no weight, and reports the first such point in the order of folds and positions
(`Index.Kept.weighted_cases`). Looking up the weights in the rows of a table comes to the same as pairing
with the leading weights of each row, down to what is reported (`pairWithSource_ofRows`), so it is the
export of one fold after another (`Run.exports_agree`).
-/

namespace KMeansSeeding

/-! ## Rows of weights -/

/-- A row that is not there has no more weights than an empty one. -/
theorem WeightSource.ofRows_eq_getElem? (rows : List (List Float)) (fold position : ℕ) :
    ofRows rows fold position = (rows[fold]?.getD [])[position]? := by
  rw [ofRows]
  cases rows[fold]? <;> rfl

/-- Weights that are looked up in a row are its leading weights. -/
theorem pairWithSource_ofRows (fold : ℕ) (points : List Point) (rows : List (List Float)) :
    pairWithSource fold points (.ofRows rows)
      = pairWithWeights fold points (rows[fold]?.getD []) := by
  have entry := WeightSource.ofRows_eq_getElem? rows fold
  generalize rows[fold]?.getD [] = weights at entry ⊢
  rcases Nat.lt_or_ge weights.length points.length with short | enough
  · -- the first position without a weight is the one behind the row
    rw [pairWithWeights, if_pos short]
    refine pairWithSource_eq_error short (fun earlier before => ?_) ?_
    · rw [entry, List.getElem?_eq_getElem before]
      rfl
    · rw [entry, List.getElem?_eq_none (Nat.le_refl _)]
  · rw [pairWithWeights, if_neg (Nat.not_lt.mpr enough)]
    have known : ∀ position < points.length,
        WeightSource.ofRows rows fold position = some (weights[position]?.getD 0) := by
      intro position within
      rw [entry, List.getElem?_eq_getElem (Nat.lt_of_lt_of_le within enough), Option.getD_some]
    rw [pairWithSource_eq_ok known]
    refine congrArg Except.ok (List.ext_getElem? fun position => ?_)
    rw [List.getElem?_mapIdx, List.getElem?_zipWith]
    cases found : points[position]? with
    | none => rfl
    | some point =>
      have within := (List.getElem?_eq_some_iff.mp found).1
      rw [List.getElem?_eq_getElem (Nat.lt_of_lt_of_le within enough)]
      rfl

/-! ## Points without a weight -/

/-- The places of stored points that a source has no weight for, in the order of folds and positions. -/
def unweighted (folds : ℕ) (stored : ℕ → List Point) (source : WeightSource) : Set (ℕ ×ₗ ℕ) :=
  {place | (ofLex place).1 < folds ∧ (ofLex place).2 < (stored (ofLex place).1).length ∧
    source (ofLex place).1 (ofLex place).2 = none}

section Unweighted

variable {folds fold position : ℕ} {stored : ℕ → List Point} {source : WeightSource}

theorem mem_unweighted_iff :
    toLex (fold, position) ∈ unweighted folds stored source ↔
      fold < folds ∧ position < (stored fold).length ∧ source fold position = none :=
  Iff.rfl

theorem unweighted_eq_empty_iff :
    unweighted folds stored source = ∅ ↔
      ∀ fold < folds, ∀ position < (stored fold).length, ∃ weight, source fold position = some weight := by
  rw [Set.eq_empty_iff_forall_notMem]
  constructor
  · intro none fold inside position within
    exact Option.ne_none_iff_exists'.mp fun missing =>
      none (toLex (fold, position)) ⟨inside, within, missing⟩
  · rintro all place ⟨inside, within, missing⟩
    obtain ⟨weight, found⟩ := all _ inside _ within
    rw [missing] at found
    cases found

/-- The points before the first one without a weight, in its fold and in earlier ones, have a weight. -/
theorem isSome_of_isLeast (least : IsLeast (unweighted folds stored source) (toLex (fold, position)))
    {earlier place : ℕ} (inside : earlier < folds) (within : place < (stored earlier).length)
    (before : earlier < fold ∨ earlier = fold ∧ place < position) :
    (source earlier place).isSome = true := by
  rw [← Option.ne_none_iff_isSome]
  intro missing
  have later := least.2 (mem_unweighted_iff.mpr ⟨inside, within, missing⟩)
  exact absurd (Prod.Lex.toLex_lt_toLex.mpr before) (not_lt.mpr later)

end Unweighted

/-- What an export of all folds from a source answers. -/
structure Exported (folds : ℕ) (stored : ℕ → List Point) (source : WeightSource)
    (answer : Except Fault (List (List WeightedPoint))) : Prop where
  /-- An export succeeds exactly if every stored point has a weight. -/
  ok_iff : (∃ weighted, answer = .ok weighted) ↔
    ∀ fold < folds, ∀ position < (stored fold).length, ∃ weight, source fold position = some weight
  /-- Every point is exported exactly once, in its place and with its weight. -/
  rows_of_ok : ∀ weighted, answer = .ok weighted → weighted.length = folds ∧
    ∀ fold < folds, ∃ row, weighted[fold]? = some row ∧ row.map (·.point) = stored fold ∧
      ∀ position entry, row[position]? = some entry → source fold position = some entry.weight
  /-- The first point without a weight is reported, with the count of its fold. -/
  error_iff : ∀ fault, answer = .error fault ↔
    ∃ fold position, IsLeast (unweighted folds stored source) (toLex (fold, position)) ∧
      fault = .tooFewWeights fold (stored fold).length position

namespace Index.Kept

variable {configuration : Configuration} {stored : Nat → List Point} {index : Index}
  (h : Kept configuration stored index) (source : WeightSource)

include h

/-- An export of all folds either has a weight for every point or fails at the first one without. -/
theorem weighted_cases :
    (unweighted configuration.folds stored source = ∅ ∧
        index.weighted source = .ok ((List.range configuration.folds).map fun fold =>
          (stored fold).mapIdx fun position point => ⟨point, (source fold position).getD 0⟩)) ∨
      ∃ fold position, IsLeast (unweighted configuration.folds stored source) (toLex (fold, position)) ∧
        index.weighted source = .error (.tooFewWeights fold (stored fold).length position) := by
  rcases (unweighted configuration.folds stored source).eq_empty_or_nonempty with all | some
  · refine .inl ⟨all, h.weighted_eq_ok fun fold inside position within => ?_⟩
    obtain ⟨weight, found⟩ := unweighted_eq_empty_iff.mp all fold inside position within
    rw [found, Option.getD_some]
  · obtain ⟨⟨fold, position⟩, missing, none⟩ := wellFounded_lt.has_min _ some
    have least : IsLeast (unweighted configuration.folds stored source) (toLex (fold, position)) :=
      ⟨missing, fun place member => not_lt.mp (none place member)⟩
    obtain ⟨inside, within, missing⟩ := mem_unweighted_iff.mp least.1
    refine .inr ⟨fold, position, least, ?_⟩
    rw [h.weighted_eq_mapM]
    refine mapM_range_eq_error inside (fun earlier before => ?_)
      (pairWithSource_eq_error within (fun earlier before => ?_) missing)
    · exact exists_pairWithSource_eq_ok fun place within =>
        isSome_of_isLeast least (Nat.lt_trans before inside) within (.inl before)
    · exact isSome_of_isLeast least inside (Nat.lt_trans before within) (.inr ⟨rfl, before⟩)

/-- The export of all folds is whole, or names the first point without a weight. -/
theorem exported : Exported configuration.folds stored source (index.weighted source) := by
  rcases h.weighted_cases source with ⟨all, answer⟩ | ⟨fold, position, least, answer⟩
  · rw [answer]
    have known := unweighted_eq_empty_iff.mp all
    refine ⟨⟨fun _ => known, fun _ => ⟨_, rfl⟩⟩, ?_, fun fault => ⟨nofun, ?_⟩⟩
    · rintro _ ⟨⟩
      refine ⟨by rw [List.length_map, List.length_range], fun fold inside => ?_⟩
      rw [List.getElem?_map, List.getElem?_range inside, Option.map_some]
      refine ⟨_, rfl, ?_, fun position entry found => ?_⟩
      · exact List.ext_getElem (by simp) (by simp)
      · rw [List.getElem?_mapIdx] at found
        obtain ⟨point, held, rfl⟩ := Option.map_eq_some_iff.mp found
        obtain ⟨weight, found⟩ := known fold inside position (List.getElem?_eq_some_iff.mp held).1
        rw [found, Option.getD_some]
    · rintro ⟨fold, position, least, -⟩
      exact absurd least.1 (all ▸ Set.notMem_empty _)
  · rw [answer]
    refine ⟨⟨nofun, fun known => ?_⟩, nofun, fun fault => ⟨?_, ?_⟩⟩
    · exact absurd least.1 (unweighted_eq_empty_iff.mpr known ▸ Set.notMem_empty _)
    · rintro ⟨⟩
      exact ⟨fold, position, least, rfl⟩
    · rintro ⟨other, place, least', rfl⟩
      obtain ⟨rfl, rfl⟩ := Prod.mk.inj (toLex.injective (least.unique least'))
      rfl

omit source in
theorem weightedFold_eq {fold : ℕ} (inside : fold < configuration.folds) (weights : List Float) :
    index.weightedFold fold weights = pairWithWeights fold (stored fold) weights := by
  rw [weightedFold, h.points_eq inside]
  rfl

omit source in
/-- An export of all folds from the rows of a table is the export of one fold after another. -/
theorem weighted_ofRows (rows : List (List Float)) :
    index.weighted (.ofRows rows) = (List.range configuration.folds).mapM fun fold =>
      index.weightedFold fold (rows[fold]?.getD []) := by
  rw [h.weighted_eq_mapM]
  refine mapM_congr fun fold member => ?_
  rw [pairWithSource_ofRows, h.weightedFold_eq (List.mem_range.mp member)]

end Index.Kept

namespace Run

/-- At the end of a run, the export of all folds pairs every stored point with its weight, or reports the
first point without one. From the rows of a table it answers as the export of one fold after another. -/
theorem exports_agree (run : Run) :
    (∀ fold < run.configuration.folds, run.index.points fold = .ok (run.stored fold) ∧
      run.index.counts[fold]? = some (run.stored fold).length) ∧
    (∀ source, Exported run.configuration.folds run.stored source (run.index.weighted source)) ∧
    ∀ rows, run.index.weighted (.ofRows rows) = (List.range run.configuration.folds).mapM fun fold =>
      run.index.weightedFold fold (rows[fold]?.getD []) := by
  refine ⟨fun fold inside => ⟨run.kept.points_eq inside, ?_⟩, run.kept.exported, run.kept.weighted_ofRows⟩
  rw [run.kept.counts_eq, getElem?_countsOf run.stored inside]

/-- Three folds with one, no and two points; two more additions were refused. Rows may be missing, short
where nothing is stored, or long. -/
theorem exports_agree_ragged :
    ∃ run : Run, run.calls = [.add [1] 0, .add [2] 2, .add [4] 3, .add [3] 2, .add [4, 5] 0] ∧
      run.index.weighted (.ofRows [[0.5]]) = .error (.tooFewWeights 2 2 0) ∧
      run.index.weighted (.ofRows [[], [], [1]]) = .error (.tooFewWeights 0 1 0) ∧
      run.index.weighted (.ofRows [[0.5, 7], [], [1, 2, 3]])
        = .ok [[⟨[1], 0.5⟩], [], [⟨[2], 1⟩, ⟨[3], 2⟩]] := by
  let run : Run := ⟨.empty ⟨3, 1, 2, 1, 7, true⟩, _, rfl,
    [.add [1] 0, .add [2] 2, .add [4] 3, .add [3] 2, .add [4, 5] 0]⟩
  obtain ⟨-, -, rowwise⟩ := run.exports_agree
  exact ⟨run, rfl, rowwise [[0.5]], rowwise [[], [], [1]], rowwise [[0.5, 7], [], [1, 2, 3]]⟩

end Run

end KMeansSeeding
