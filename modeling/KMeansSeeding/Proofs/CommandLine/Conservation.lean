import KMeansSeeding.Proofs.CommandLine.Counting
import KMeansSeeding.Proofs.Distances

/-!
# No finite point is lost

A weight is a count in floating point, which is exact below `2 ^ 53` (`numberOfDouble_weightOf`). So
the weights of a fold add up to the number of points for which the query names a center of that fold.
Among finite centers these are the finite points (`weights_add_up`). A point with an infinite
component is assigned like any other, but it is nearest to no center and no weight counts it
(`weights_lose_infinite_point`).
-/

namespace KMeansSeeding

deriving instance DecidableEq for WeightedPoint, WeightReport, CommandLine.Workload

/-! ## Sums of counts -/

/-- Counting by ones is exact as long as the counts have at most 53 digits. -/
theorem numberOfDouble_weightOf {count : ℕ} (few : count < 2 ^ 53) :
    (weightOf count).isFinite = true ∧ numberOfDouble (weightOf count) = count := by
  induction count with
  | zero => exact ⟨isFinite_zero, by rw [Nat.cast_zero]; exact numberOfDouble_zero⟩
  | succ count ih =>
    obtain ⟨finite, number⟩ := ih (by omega)
    have next : numberOfDouble (weightOf count) + numberOfDouble 1 = (count + 1 : ℕ) := by
      rw [number, numberOfDouble_one, Nat.cast_succ]
    have magnitude : |((count + 1 : ℕ) : ℚ)| < 2 ^ (53 : ℤ) := by
      rw [Nat.abs_cast]
      exact_mod_cast few
    have evaluates := evaluates_add finite isFinite_one (by
      rw [next]
      exact magnitude.le.trans (two_zpow_le.mpr (by norm_num)))
    rw [next, ← weightOf_succ] at evaluates
    have units : OnGrid 0 ((count + 1 : ℕ) : ℚ) := ⟨(count + 1 : ℕ), by simp⟩
    exact ⟨evaluates.finite, evaluates.roundsTo.eq (by norm_num) units (by rwa [zero_add])⟩

/-- The sum of some weights, without rounding. -/
def totalWeight (weights : List WeightedPoint) : ℚ :=
  (weights.map fun weighted => numberOfDouble weighted.weight).sum

section Counts

variable {points : List (List (Nearest Float))} {fold : ℕ}

/-- The weight of a position is the number of its hits. -/
theorem numberOfDouble_hits (few : points.length < 2 ^ 53) (fold position : ℕ) :
    (weightOf (hits points fold position)).isFinite = true ∧
      numberOfDouble (weightOf (hits points fold position)) = hits points fold position :=
  numberOfDouble_weightOf (List.countP_le_length.trans_lt few)

/-- The hits of all positions of a fold are the points with a closest position there. -/
theorem sum_hits {count : ℕ}
    (inside : ∀ outcomes ∈ points, ∀ position, closestIn fold outcomes = some position →
      position < count) :
    ∑ position ∈ Finset.range count, hits points fold position
      = points.countP fun outcomes => (closestIn fold outcomes).isSome := by
  induction points using List.reverseRecOn with
  | nil => simp
  | append_singleton past last ih =>
    rw [List.forall_mem_append, List.forall_mem_singleton] at inside
    -- the last point is one hit of its closest position
    have one : ∑ position ∈ Finset.range count, (if closestIn fold last = some position then 1 else 0)
        = if (closestIn fold last).isSome then 1 else 0 := by
      cases named : closestIn fold last with
      | none => simp
      | some position => simp [inside.2 position named]
    simp only [hits_append_singleton, Finset.sum_add_distrib, List.countP_append,
      List.countP_singleton]
    rw [ih inside.1]
    exact congrArg _ one

/-- The weights of a fold add up to the number of points with a closest center there. -/
theorem totalWeight_mapIdx {set : List Point} (few : points.length < 2 ^ 53)
    (inside : ∀ outcomes ∈ points, ∀ position, closestIn fold outcomes = some position →
      position < set.length) :
    totalWeight (set.mapIdx fun position center => ⟨center, weightOf (hits points fold position)⟩)
      = points.countP fun outcomes => (closestIn fold outcomes).isSome := by
  rw [totalWeight, List.mapIdx_eq_ofFn, List.map_ofFn, List.sum_ofFn, ← sum_hits inside,
    Nat.cast_sum, Finset.sum_range]
  exact Finset.sum_congr rfl fun position _ => (numberOfDouble_hits few fold position).2

end Counts

/-! ## The outcomes of a fold -/

section Fold

variable {configuration : Configuration} {fold : ℕ} (inside : fold < configuration.folds)
  (stored : ℕ → List Point) (points : List Point) (approximate : Bool)

include inside

theorem countP_outcomes :
    (points.map (configuration.outcomes stored · approximate)).countP
        (fun outcomes => (closestIn fold outcomes).isSome)
      = points.countP fun point =>
          (configuration.outcome (stored fold) point approximate).closest.isSome := by
  rw [List.countP_map]
  congr 1
  funext point
  rw [Function.comp_apply, closestIn_outcomes inside]

/-- The weights of a fold after some points were counted. -/
theorem totalWeight_counted (few : points.length < 2 ^ 53) :
    totalWeight ((stored fold).mapIdx fun position center =>
        ⟨center, weightOf (hits (points.map (configuration.outcomes stored · approximate))
          fold position)⟩)
      = points.countP fun point =>
          (configuration.outcome (stored fold) point approximate).closest.isSome := by
  rw [← countP_outcomes inside, totalWeight_mapIdx (by rwa [List.length_map])]
  intro outcomes member position named
  obtain ⟨point, -, rfl⟩ := List.mem_map.mp member
  exact (within_outcomes configuration stored point approximate).inside fold position named

end Fold

/-- Among finite centers, the points without a closest one are those that are not finite. -/
theorem countP_isSome_outcome {configuration : Configuration} {set points : List Point}
    {approximate : Bool} (room : 0 < configuration.samples)
    (fit : ∀ center ∈ set, center.length = configuration.dimension)
    (fits : ∀ point ∈ points, point.length = configuration.dimension) (some : set ≠ [])
    (finite : ∀ center ∈ set, center.AllFinite) :
    points.countP (fun point => (configuration.outcome set point approximate).closest.isSome)
        + points.countP (fun point => ¬ point.AllFinite) = points.length := by
  have named : ∀ point ∈ points,
      (configuration.outcome set point approximate).closest.isSome = true
        ↔ decide point.AllFinite = true := by
    intro point member
    have same : ∀ center ∈ set, center.length = point.length :=
      fun center among => (fit center among).trans (fits point member).symm
    rw [Configuration.isSome_outcome_iff_allFinite same room finite some, decide_eq_true_iff]
  rw [List.countP_congr named, List.length_eq_countP_add_countP fun point => decide point.AllFinite]
  simp only [decide_eq_true_eq]

namespace CommandLine

open Index

variable {files : Files} {settings : Settings} {workload : Workload}

/-- An index that was built has a sound configuration. -/
theorem sound_of_buildIndex {index : Index}
    (built : (buildIndex files settings workload).answer = .ok index) :
    index.configuration.Sound := by
  obtain ⟨configuration, -, -, filled⟩ := exists_ofSets_of_buildIndex built
  rw [(kept_of_ofSets filled).configuration_eq]
  exact sound_of_ofSets filled

/-- Every point counts as assigned. Weights are finite numbers, and those of a fold add up to the
number of points that have a closest center there by the report of the query. If there are centers in
the fold and they are all finite, the only points without one are those that are not finite. -/
theorem weights_add_up {report : WeightReport}
    (ran : (runWeights files settings workload).answer = .ok report)
    (few : workload.points.length < 2 ^ 53) :
    report.assigned = workload.points.length ∧
    ∃ query, (runQuery files settings workload).answer = .ok query ∧
      ∀ fold set, workload.centers[fold]? = some set →
        ∃ weights, report.folds[fold]? = some weights ∧
          (∀ weighted ∈ weights, weighted.weight.isFinite = true) ∧
          totalWeight weights
            = query.points.countP (fun point => (closestIn fold point.outcomes).isSome) ∧
          (set ≠ [] → (∀ center ∈ set, center.AllFinite) →
            totalWeight weights + workload.points.countP (fun point => ¬ point.AllFinite)
              = report.assigned) := by
  cases built : (buildIndex files settings workload).answer with
  | error fault =>
    rw [runWeights, Outcome.andThen, built] at ran
    cases ran
  | ok index =>
    obtain ⟨configuration, count, kept⟩ := kept_of_buildIndex built
    obtain ⟨-, -, -, room⟩ := kept.configuration_eq ▸ sound_of_buildIndex built
    obtain ⟨rebuilds, asked⟩ := answer_runQuery built kept
    rw [answer_runWeights built kept count, unlessMisfit_eq_ok_iff] at ran
    obtain ⟨fits, rfl⟩ := ran
    refine ⟨rfl, _, asked.trans (unlessMisfit_eq_ok_iff.mpr ⟨fits, rfl⟩), fun fold set found => ?_⟩
    have inside : fold < configuration.folds := by
      rw [count]
      exact (List.getElem?_eq_some_iff.mp found).1
    obtain rfl : workload.set fold = set := by rw [Workload.set, found, Option.getD_some]
    have total := totalWeight_counted inside workload.set workload.points (!settings.exact) few
    refine ⟨_, by rw [List.getElem?_mapIdx, found, Option.map_some], ?_, ?_, fun some finite => ?_⟩
    · intro weighted member
      obtain ⟨position, _, rfl⟩ := List.mem_mapIdx.mp member
      exact (numberOfDouble_hits (by rwa [List.length_map]) fold position).1
    · rw [total, ← countP_outcomes inside, ← outcomes_reports _ _ _ 0, List.countP_map]
      rfl
    · rw [total, ← Nat.cast_add, countP_isSome_outcome room (kept.fit fold) fits some finite]

/-- One center is hit twice, the other once, and a point with an infinite component hits neither. -/
theorem weights_add_up_mixed_points :
    ∃ report query weights,
      (runWeights (fun _ => .error .missing) ⟨"in.json", none, 2, 2, 7, true⟩
        ⟨[[[0], [4]], []], [[1], [5], [0], [.ofBits 0x7f800000]]⟩).answer = .ok report ∧
      (runQuery (fun _ => .error .missing) ⟨"in.json", none, 2, 2, 7, true⟩
        ⟨[[[0], [4]], []], [[1], [5], [0], [.ofBits 0x7f800000]]⟩).answer = .ok query ∧
      report.folds[0]? = some weights ∧
      totalWeight weights = query.points.countP (fun point => (closestIn 0 point.outcomes).isSome) ∧
      totalWeight weights + 1 = report.assigned := by
  let workload : Workload := ⟨[[[0], [4]], []], [[1], [5], [0], [.ofBits 0x7f800000]]⟩
  have ran : (runWeights (fun _ => .error .missing) ⟨"in.json", none, 2, 2, 7, true⟩ workload).answer
      = .ok ⟨4, [[⟨[0], 2⟩, ⟨[4], 1⟩], []]⟩ := toOption_eq_some_iff.mp (by decide +kernel)
  obtain ⟨-, query, asked, folds⟩ := weights_add_up ran (by decide)
  obtain ⟨weights, found, -, total, conserved⟩ := folds 0 [[0], [4]] rfl
  have infinite : workload.points.countP (fun point => ¬ point.AllFinite) = 1 := by decide +kernel
  have conserved := conserved (by decide) (by decide +kernel)
  rw [infinite] at conserved
  exact ⟨_, query, weights, ran, asked, found, total, by exact_mod_cast conserved⟩

/-- The number `1e39` reads as an infinite component, and the weights add up to `0` and not to the one
point that is assigned. -/
theorem weights_lose_infinite_point :
    ∃ workload report set weights,
      Workload.document.read "\x7b\"centers\":[[[0.0]]],\"points\":[[1e39]]\x7d" = .ok workload ∧
      (runWeights (fun _ => .error .missing) ⟨"in.json", none, 64, 16, 42, true⟩ workload).answer
        = .ok report ∧
      workload.points.length < 2 ^ 53 ∧
      workload.centers[0]? = some set ∧ set ≠ [] ∧
      report.folds[0]? = some weights ∧
      report.assigned = 1 ∧ totalWeight weights = 0 := by
  have read : Workload.document.read "\x7b\"centers\":[[[0.0]]],\"points\":[[1e39]]\x7d"
      = .ok ⟨[[[0]]], [[.ofBits 0x7f800000]]⟩ := toOption_eq_some_iff.mp (by decide +kernel)
  have ran : (runWeights (fun _ => .error .missing) ⟨"in.json", none, 64, 16, 42, true⟩
      ⟨[[[0]]], [[.ofBits 0x7f800000]]⟩).answer = .ok ⟨1, [[⟨[0], 0⟩]]⟩ :=
    toOption_eq_some_iff.mp (by decide +kernel)
  refine ⟨_, _, [[0]], [⟨[0], 0⟩], read, ran, by decide, rfl, by decide, rfl, rfl, ?_⟩
  simp [totalWeight]

end CommandLine

end KMeansSeeding
