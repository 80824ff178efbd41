import KMeansSeeding.CommandLine.Execute
import KMeansSeeding.Proofs.Index.Counts
import KMeansSeeding.Proofs.Index.Filling

/-!
# Weights are counts of nearest centers

The command for weights and the command for queries each go over all points with an index of their
own. The two loops see the same outcomes, so they fail together, and the weights are the counts of
the outcomes that the query reports.
-/

namespace KMeansSeeding

namespace CommandLine

open Index

/-! ## The two loops -/

section Loops

variable {configuration : Configuration} {stored : Nat → List Point} {index : Index}

/-- The outcomes of some points, numbered from `number` on. -/
def reports (configuration : Configuration) (stored : Nat → List Point) (approximate : Bool)
    (number : Nat) (points : List Point) : List PointReport :=
  (points.zipIdx number).map fun (point, number) =>
    ⟨number, configuration.outcomes stored point approximate⟩

theorem outcomes_reports (configuration : Configuration) (stored : Nat → List Point)
    (approximate : Bool) (number : Nat) (points : List Point) :
    (reports configuration stored approximate number points).map (·.outcomes)
      = points.map (configuration.outcomes stored · approximate) := by
  have numbered : points = (points.zipIdx number).map Prod.fst := (List.zipIdx_map_fst _ _).symm
  rw [reports, List.map_map]
  conv_rhs => rw [numbered, List.map_map]
  rfl

/-- The loop of the query command reports the outcomes of every point. -/
theorem answer_queryPoints (h : Kept configuration stored index) (approximate : Bool) (number : Nat)
    (points : List Point) :
    (queryPoints approximate number points index).answer
      = unlessMisfit configuration.dimension points
          (reports configuration stored approximate number points) := by
  -- each query leaves an index that keeps the same points, so the induction goes on with that one
  induction points generalizing index number with
  | nil => rfl
  | cons point points ih =>
    rw [queryPoints, Step.andThen]
    by_cases fits : point.length = configuration.dimension
    · obtain ⟨answer, kept⟩ := h.distances_eq fits approximate
      have rest := ih kept (number + 1)
      simp only [answer, Step.map, rest]
      rw [map_unlessMisfit, unlessMisfit_cons_of_eq points fits]
      rfl
    · rw [h.distances_eq_refuse fits, unlessMisfit_cons_of_ne points fits]
      rfl

/-- The loop of the weight command counts the same outcomes. -/
theorem tallyPoints_eq (h : Kept configuration stored index) (approximate : Bool)
    (points : List Point) (past : List (List (Nearest Float))) :
    (tallyPoints approximate points
        (.ofHits (countsOf configuration.folds stored) (hits past)) index).answer
      = unlessMisfit configuration.dimension points
          (.ofHits (countsOf configuration.folds stored)
            (hits (past ++ points.map (configuration.outcomes stored · approximate)))) ∧
    Kept configuration stored (tallyPoints approximate points
      (.ofHits (countsOf configuration.folds stored) (hits past)) index).index := by
  -- as before, and what was counted so far grows by the outcomes of each point
  induction points generalizing index past with
  | nil =>
    rw [List.map_nil, List.append_nil]
    exact ⟨rfl, h⟩
  | cons point points ih =>
    rw [tallyPoints, Step.andThen]
    by_cases fits : point.length = configuration.dimension
    · obtain ⟨answer, kept⟩ := h.distances_eq fits approximate
      simp only [answer, record_outcomes]
      have rest := ih kept (past ++ [configuration.outcomes stored point approximate])
      rw [List.append_assoc, List.singleton_append] at rest
      rw [unlessMisfit_cons_of_eq points fits, List.map_cons]
      exact rest
    · rw [h.distances_eq_refuse fits, unlessMisfit_cons_of_ne points fits]
      exact ⟨rfl, h⟩

end Loops

/-! ## The two commands -/

/-- The centers of one set of a workload. -/
def Workload.set (workload : Workload) (fold : Nat) : List Point :=
  workload.centers[fold]?.getD []

theorem map_range_set {α : Type} (workload : Workload) (f : (fold : Nat) → List Point → α) :
    ((List.range workload.centers.length).map fun fold => f fold (workload.set fold))
      = workload.centers.mapIdx f := by
  refine List.ext_getElem? fun fold => ?_
  rw [List.getElem?_map, List.getElem?_mapIdx]
  rcases Nat.lt_or_ge fold workload.centers.length with inside | outside
  · rw [List.getElem?_range inside, Option.map_some, Workload.set, List.getElem?_eq_getElem inside]
    rfl
  · rw [List.getElem?_eq_none outside, List.getElem?_eq_none (by simpa using outside)]
    rfl

variable {files : Files} {settings : Settings} {workload : Workload} {index : Index}
  {configuration : Configuration}

/-- An index that was built was filled with the centers of the workload, under the configuration of
the file or that of the settings. -/
theorem exists_ofSets_of_buildIndex
    (built : (buildIndex files settings workload).answer = .ok index) :
    ∃ configuration, configuration.folds = workload.centers.length ∧
      (settings.configuration = none → configuration.samples = settings.samples) ∧
      ofSets configuration workload.centers = .ok index := by
  rw [buildIndex] at built
  split at built
  · rename_i name given
    obtain ⟨configuration, -, built⟩ := bind_eq_ok_iff.mp built
    rw [indexOf] at built
    split_ifs at built with count
    exact ⟨configuration, count, fun none => by simp [given] at none, built⟩
  · -- without a file the index starts from the center sets themselves
    have started : ofCenters workload.centers settings.bits settings.samples settings.seed
        = .ok index := built
    cases centers : workload.centers with
    | nil =>
      rw [centers] at started
      cases started
    | cons set others =>
      rw [centers] at started
      cases set with
      | nil => cases started
      | cons first rest =>
        obtain ⟨⟨⟩, -, filled⟩ := bind_eq_ok_iff.mp started
        exact ⟨_, rfl, fun _ => rfl, filled⟩

/-- An index that was built keeps the centers of the workload. -/
theorem kept_of_buildIndex (built : (buildIndex files settings workload).answer = .ok index) :
    ∃ configuration, configuration.folds = workload.centers.length ∧
      Kept configuration workload.set index := by
  obtain ⟨configuration, count, -, filled⟩ := exists_ofSets_of_buildIndex built
  exact ⟨configuration, count, kept_of_ofSets filled⟩

section Built

variable (built : (buildIndex files settings workload).answer = .ok index)
  (kept : Kept configuration workload.set index)

include built kept

/-- The report of the query command, with the counter of the index that its loop has left. -/
theorem answer_runQuery_eq :
    (runQuery files settings workload).answer
      = unlessMisfit configuration.dimension workload.points
          ⟨!settings.exact,
            (queryPoints (!settings.exact) 0 workload.points index).index.rebuilds,
            reports configuration workload.set (!settings.exact) 0 workload.points⟩ := by
  have reported := answer_queryPoints kept (!settings.exact) 0 workload.points
  simp only [runQuery, Outcome.andThen, built]
  rw [unlessMisfit] at reported ⊢
  cases first : workload.points.find? (·.length != configuration.dimension) with
  | some point =>
    rw [first] at reported
    simp only [reported]
  | none =>
    rw [first] at reported
    simp only [reported]

theorem answer_runQuery :
    ∃ rebuilds, (runQuery files settings workload).answer
      = unlessMisfit configuration.dimension workload.points
          ⟨!settings.exact, rebuilds,
            reports configuration workload.set (!settings.exact) 0 workload.points⟩ :=
  ⟨_, answer_runQuery_eq built kept⟩

theorem answer_runWeights (count : configuration.folds = workload.centers.length) :
    (runWeights files settings workload).answer
      = unlessMisfit configuration.dimension workload.points
          { assigned := workload.points.length
            folds := workload.centers.mapIdx fun fold set => set.mapIdx fun position center =>
              ⟨center, weightOf (hits (workload.points.map
                (configuration.outcomes workload.set · (!settings.exact))) fold position)⟩ } := by
  obtain ⟨counted, after⟩ := tallyPoints_eq kept (!settings.exact) workload.points []
  have exported := after.weighted_eq (hits ([] ++ workload.points.map
    (configuration.outcomes workload.set · (!settings.exact))))
  rw [← kept.counts_eq, ← Tally.ofCounts_eq_ofHits] at counted exported
  simp only [runWeights, Outcome.andThen, built]
  rw [unlessMisfit] at counted ⊢
  cases first : workload.points.find? (·.length != configuration.dimension) with
  | some point =>
    rw [first] at counted
    rw [counted]
    rfl
  | none =>
    rw [first] at counted
    refine bind_eq_ok_iff.mpr ⟨_, counted, bind_eq_ok_iff.mpr ⟨_, exported, ?_⟩⟩
    rw [count, map_range_set]
    rfl

end Built

/-- The two commands either fail with the same fault, which is that of building the index or that of
the first point of a wrong dimension, or both succeed. Then the weights are the centers of the
workload, set by set, each with the weight of as many hits as the query reports for it. -/
theorem runWeights_counts_runQuery (files : Files) (settings : Settings) (workload : Workload) :
    (∃ fault, (runQuery files settings workload).answer = .error fault ∧
      (runWeights files settings workload).answer = .error fault ∧
      ((buildIndex files settings workload).answer = .error fault ∨
        ∃ index point, (buildIndex files settings workload).answer = .ok index ∧
          workload.points.find? (·.length != index.dimension) = some point ∧
          fault = .wrongDimension index.dimension point.length)) ∨
    ∃ report, (runQuery files settings workload).answer = .ok report ∧
      (runWeights files settings workload).answer = .ok
        { assigned := workload.points.length
          folds := workload.centers.mapIdx fun fold set => set.mapIdx fun position center =>
            ⟨center, weightOf (hits (report.points.map (·.outcomes)) fold position)⟩ } := by
  cases built : (buildIndex files settings workload).answer with
  | error fault =>
    left
    refine ⟨fault, ?_, ?_, .inl rfl⟩
    · rw [runQuery, Outcome.andThen, built]
    · rw [runWeights, Outcome.andThen, built]
  | ok index =>
    obtain ⟨configuration, count, kept⟩ := kept_of_buildIndex built
    obtain ⟨rebuilds, query⟩ := answer_runQuery built kept
    have weights := answer_runWeights built kept count
    rw [unlessMisfit] at query weights
    cases first : workload.points.find? (·.length != configuration.dimension) with
    | some point =>
      left
      rw [first] at query weights
      rw [← kept.dimension_eq] at first query weights
      exact ⟨_, query, weights, .inr ⟨index, point, rfl, first, rfl⟩⟩
    | none =>
      right
      rw [first] at query weights
      refine ⟨_, query, ?_⟩
      rw [weights, outcomes_reports]

end CommandLine

end KMeansSeeding
