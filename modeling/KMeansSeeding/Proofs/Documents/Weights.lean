import KMeansSeeding.Proofs.CommandLine.Conservation
import KMeansSeeding.Proofs.Documents.Rereading

/-!
# Weight reports are reread if their centers are finite

A weight report names its centers component by component, and JSON has no text for a component that is
infinite. It is written as null like an infinite distance, but a component cannot be null, and so the
report is refused (`weightReport_refuses_infinite_center`). Nothing else is: the report of a run is
read again exactly if all centers are finite, and then with as many folds, centers and components as
it was written with (`weightReport_reread_iff`).
-/

namespace KMeansSeeding

open Json (Legible Spacing)

/-! ## Counts stay small -/

/-- Counting by ones comes to a halt before it leaves the finite numbers. -/
theorem weightOf_bounded (count : ℕ) :
    (weightOf count).isFinite = true ∧ |numberOfDouble (weightOf count)| ≤ 2 ^ (54 : ℤ) := by
  induction count with
  | zero =>
    refine ⟨isFinite_zero, ?_⟩
    rw [show weightOf 0 = 0 from rfl, numberOfDouble_zero]
    norm_num
  | succ count ih =>
    obtain ⟨finite, small⟩ := ih
    -- one more than the bound is rounded down to it
    have next : |numberOfDouble (weightOf count) + numberOfDouble 1|
        ≤ 2 ^ (54 : ℤ) + 2 ^ ((54 : ℤ) - 54) := by
      refine (abs_add_le _ _).trans (add_le_add small ?_)
      rw [numberOfDouble_one]
      norm_num
    have room : (2 : ℚ) ^ (54 : ℤ) + 2 ^ ((54 : ℤ) - 54) ≤ 2 ^ (55 : ℤ) := by norm_num
    have evaluates := evaluates_add finite isFinite_one
      (next.trans (room.trans (two_zpow_le.mpr (by norm_num))))
    rw [← weightOf_succ] at evaluates
    exact ⟨evaluates.finite, evaluates.roundsTo.abs_le (by norm_num) next⟩

/-! ## Texts that are accepted -/

namespace Document

variable {α : Type}

/-- The text of a value is accepted exactly if the value is sound, and it reads as one that is like
the value. -/
def Accepts (spacing : Spacing) (document : Document α) (value : α) (sound : Prop)
    (like : α → Prop) : Prop :=
  ∃ result, document.Rereads spacing value result ∧
    (result.isSome = true ↔ sound) ∧ ∀ reread ∈ result, like reread

variable {spacing : Spacing} {document : Document α}

/-- A single is accepted if it is finite. -/
theorem accepts_component (value : Float32) :
    component.Accepts spacing value (value.isFinite = true) fun _ => True := by
  obtain ⟨answer, legible, accepted⟩ := Json.legible_single value
  refine ⟨answer, ⟨_, legible spacing, ?_⟩, accepted, fun _ _ => trivial⟩
  rw [Option.bind_map]
  exact Option.bind_fun_some answer

variable (blank : spacing.Blank)

include blank

/-- A list is accepted if all of its items are, and it reads item by item. -/
theorem Accepts.list {values : List α} {sound : α → Prop} {like : α → α → Prop}
    (items : ∀ value ∈ values, document.Accepts spacing value (sound value) (like value)) :
    (listOf document).Accepts spacing values (∀ value ∈ values, sound value)
      (List.Forall₂ like values) := by
  choose! result rereads accepted alike using items
  refine ⟨_, Rereads.list blank rereads, ?_, fun reread => forall₂_of_mapM alike⟩
  rw [isSome_mapM_iff]
  exact forall₂_congr accepted

/-- A point is accepted if it is finite, and keeps its dimension. -/
theorem accepts_point (center : Point) :
    point.Accepts spacing center center.AllFinite fun reread => reread.length = center.length := by
  obtain ⟨result, rereads, accepted, alike⟩ :=
    Accepts.list blank fun component (_ : component ∈ center) => accepts_component component
  exact ⟨result, rereads, accepted, fun reread found => (alike reread found).length_eq.symm⟩

/-- A weighted center is accepted if its point is finite, as long as its weight is a number that is
not too large to be read. -/
theorem accepts_weightedPoint {weighted : WeightedPoint}
    (finite : weighted.weight.isFinite = true)
    (small : |numberOfDouble weighted.weight| < 2 ^ (199 : ℤ)) :
    weightedPoint.Accepts spacing weighted weighted.point.AllFinite fun reread =>
      reread.point.length = weighted.point.length := by
  obtain ⟨result, ⟨vector, legible, decoded⟩, accepted, alike⟩ :=
    accepts_point blank weighted.point
  obtain ⟨answer, read, accepts⟩ := Json.legible_double finite
  -- the weight may lose digits, but it is read as some number
  obtain ⟨weight, rfl⟩ := Option.isSome_iff_exists.mp (accepts small)
  refine ⟨result.map fun point => ⟨point, weight⟩, ?_, by rw [Option.isSome_map, accepted], ?_⟩
  · refine Rereads.record blank
      [⟨required "vector" point.shape, point.encode weighted.point, vector⟩,
        ⟨required "weight" .double, .double weighted.weight, some (.double weight)⟩]
      rfl rfl (by simp [required])
      (List.forall_mem_cons.mpr ⟨legible, List.forall_mem_cons.mpr ⟨read spacing, nofun⟩⟩) ?_
    cases vector with
    | none =>
      cases decoded
      rfl
    | some vector =>
      rw [Option.bind_some] at decoded
      cases result <;> simp [weightedPoint, decoded]
  · intro reread found
    obtain ⟨point, kept, rfl⟩ := Option.map_eq_some_iff.mp found
    exact alike point kept

/-- A weight report is accepted if all of its points are finite, as long as its numbers can be read. -/
theorem accepts_weightReport {report : WeightReport} (few : report.assigned < 2 ^ 64)
    (weights : ∀ fold ∈ report.folds, ∀ weighted ∈ fold, weighted.weight.isFinite = true ∧
      |numberOfDouble weighted.weight| < 2 ^ (199 : ℤ)) :
    weightReport.Accepts spacing report
      (∀ fold ∈ report.folds, ∀ weighted ∈ fold, weighted.point.AllFinite)
      fun reread => reread.assigned = report.assigned ∧
        List.Forall₂ (List.Forall₂ fun weighted reread =>
          reread.point.length = weighted.point.length) report.folds reread.folds := by
  obtain ⟨result, ⟨folds, legible, decoded⟩, accepted, alike⟩ := Accepts.list blank
    fun fold member => Accepts.list blank fun weighted among =>
      accepts_weightedPoint blank (weights fold member weighted among).1
        (weights fold member weighted among).2
  refine ⟨result.map fun folds => ⟨report.assigned, folds⟩, ?_,
    by rw [Option.isSome_map, accepted], ?_⟩
  · refine Rereads.record blank
      [⟨required "assigned_points" count, .natural report.assigned,
          some (.natural report.assigned)⟩,
        ⟨required "folds" (listOf (listOf weightedPoint)).shape,
          (listOf (listOf weightedPoint)).encode report.folds, folds⟩]
      rfl rfl (by simp [required])
      (List.forall_mem_cons.mpr ⟨Json.legible_natural "usize" few,
        List.forall_mem_cons.mpr ⟨legible, nofun⟩⟩) ?_
    cases folds with
    | none =>
      cases decoded
      rfl
    | some folds =>
      rw [Option.bind_some] at decoded
      cases result <;> simp [weightReport, decoded]
  · intro reread found
    obtain ⟨folds, kept, rfl⟩ := Option.map_eq_some_iff.mp found
    exact ⟨rfl, alike folds kept⟩

end Document

/-! ## The reports of runs -/

namespace CommandLine

variable {files : Files} {settings : Settings} {workload : Workload} {report : WeightReport}

/-- The report of a run has the centers of the workload, and its weights are counts. -/
theorem folds_of_runWeights (ran : (runWeights files settings workload).answer = .ok report) :
    report.assigned = workload.points.length ∧
      report.folds.map (·.map WeightedPoint.point) = workload.centers ∧
      ∀ fold ∈ report.folds, ∀ weighted ∈ fold, ∃ count, weighted.weight = weightOf count := by
  rcases runWeights_counts_runQuery files settings workload with ⟨_, -, failed, -⟩ | ⟨_, -, counted⟩
  · rw [failed] at ran
    cases ran
  · obtain rfl := Except.ok.inj (counted.symm.trans ran)
    have named {count : ℕ → Float} (set : List Point) :
        (set.mapIdx fun position center => WeightedPoint.mk center (count position)).map
          WeightedPoint.point = set := by
      refine List.ext_getElem? fun position => ?_
      simp [Function.comp_def]
    refine ⟨rfl, ?_, ?_⟩
    · refine List.ext_getElem? fun fold => ?_
      simp [Function.comp_def, named]
    · intro fold fold_mem weighted member
      obtain ⟨_, _, rfl⟩ := List.mem_mapIdx.mp fold_mem
      obtain ⟨_, _, rfl⟩ := List.mem_mapIdx.mp member
      exact ⟨_, rfl⟩

/-- The texts of a weight report are read again exactly if all centers are finite. Then as many points
are assigned as were, and there are as many folds, with as many centers, of the same dimensions. -/
theorem weightReport_reread_iff (ran : (runWeights files settings workload).answer = .ok report)
    (few : workload.points.length < 2 ^ 64) {text : String}
    (written : Document.weightReport.IsText WeightReport.lines report text) :
    ((∃ reread, Document.weightReport.read text = .ok reread) ↔
      ∀ set ∈ workload.centers, ∀ center ∈ set, center.AllFinite) ∧
    ∀ reread, Document.weightReport.read text = .ok reread →
      reread.assigned = report.assigned ∧
        List.Forall₂ (List.Forall₂ fun weighted reread =>
          reread.point.length = weighted.point.length) report.folds reread.folds := by
  obtain ⟨assigned, centers, counts⟩ := folds_of_runWeights ran
  have weights : ∀ fold ∈ report.folds, ∀ weighted ∈ fold, weighted.weight.isFinite = true ∧
      |numberOfDouble weighted.weight| < 2 ^ (199 : ℤ) := by
    intro fold fold_mem weighted member
    obtain ⟨count, counted⟩ := counts fold fold_mem weighted member
    obtain ⟨finite, small⟩ := weightOf_bounded count
    rw [counted]
    exact ⟨finite, small.trans_lt (two_zpow_lt.mpr (by norm_num))⟩
  have finite : (∀ fold ∈ report.folds, ∀ weighted ∈ fold, weighted.point.AllFinite) ↔
      ∀ set ∈ workload.centers, ∀ center ∈ set, center.AllFinite := by
    simp only [← centers, List.forall_mem_map]
  obtain ⟨accepted, alike⟩ := written.toOption_read fun spacing blank =>
    Document.accepts_weightReport blank (assigned ▸ few) weights
  refine ⟨?_, fun reread found => alike reread (toOption_eq_some_iff.mpr found)⟩
  rw [← finite, ← accepted, Option.isSome_iff_exists]
  exact exists_congr fun reread => toOption_eq_some_iff.symm

/-- Neither an infinite point nor an empty fold is in the way of reading the report. -/
theorem weightReport_reread_iff_finite_centers :
    let workload : Workload := ⟨[[[4]], []], [[5], [.ofBits 0x7f800000]]⟩
    let report : WeightReport := ⟨2, [[⟨[4], 1⟩], []]⟩
    (runWeights (fun _ => .error .missing) ⟨"in.json", none, 2, 2, 7, true⟩ workload).answer
        = .ok report ∧
      workload.points.length < 2 ^ 64 ∧
      Document.weightReport.IsText WeightReport.lines report
        (Document.weightReport.indented report) ∧
      ∃ reread, Document.weightReport.read (Document.weightReport.indented report) = .ok reread ∧
        reread.assigned = 2 ∧
        List.Forall₂ (List.Forall₂ fun weighted reread =>
          reread.point.length = weighted.point.length) report.folds reread.folds := by
  intro workload report
  have ran : (runWeights (fun _ => .error .missing) ⟨"in.json", none, 2, 2, 7, true⟩
      workload).answer = .ok report := toOption_eq_some_iff.mp (by decide +kernel)
  have few : workload.points.length < 2 ^ 64 := by decide
  obtain ⟨accepted, alike⟩ := weightReport_reread_iff ran few .indented
  obtain ⟨reread, read⟩ := accepted.mpr (by decide +kernel)
  exact ⟨ran, few, .indented, reread, read, alike reread read⟩

/-- The number `1e39` reads as an infinite component of a center. It is written as null, and the report
is refused, in one line as over several lines. -/
theorem weightReport_refuses_infinite_center :
    ∃ workload report,
      Workload.document.read "\x7b\"centers\":[[[1e39],[0.0]]],\"points\":[[0.0]]\x7d"
        = .ok workload ∧
      (runWeights (fun _ => .error .missing) ⟨"in.json", none, 64, 16, 42, true⟩ workload).answer
        = .ok report ∧
      Document.weightReport.compact report
        = "\x7b\"assigned_points\":1,\"folds\":[[\x7b\"vector\":[null],\"weight\":0.0\x7d,"
          ++ "\x7b\"vector\":[0.0],\"weight\":1.0\x7d]]\x7d" ∧
      (∃ fault, Document.weightReport.read (Document.weightReport.compact report) = .error fault) ∧
      ∃ fault, Document.weightReport.read (Document.weightReport.indented report) = .error fault := by
  have read : Workload.document.read
      "\x7b\"centers\":[[[1e39],[0.0]]],\"points\":[[0.0]]\x7d"
      = .ok ⟨[[[.ofBits 0x7f800000], [0]]], [[0]]⟩ := toOption_eq_some_iff.mp (by decide +kernel)
  have ran : (runWeights (fun _ => .error .missing) ⟨"in.json", none, 64, 16, 42, true⟩
      ⟨[[[.ofBits 0x7f800000], [0]]], [[0]]⟩).answer
      = .ok ⟨1, [[⟨[.ofBits 0x7f800000], 0⟩, ⟨[0], 1⟩]]⟩ :=
    toOption_eq_some_iff.mp (by decide +kernel)
  exact ⟨_, _, read, ran, by decide +kernel, toOption_eq_none_iff.mp (by decide +kernel),
    toOption_eq_none_iff.mp (by decide +kernel)⟩

end CommandLine

end KMeansSeeding
