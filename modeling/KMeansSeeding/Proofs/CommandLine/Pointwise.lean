import KMeansSeeding.Proofs.CommandLine.Counting
import KMeansSeeding.Proofs.Index.Rebuilds

/-!
# The query command answers point by point

One index is handed from point to point, and the first approximate query makes its sketches. Still the
report on a list of points is put together from the reports on the single points (`reportOn`), so
points can be added, left out, repeated and put in another order, and the outcomes go with them
(`runQuery_pointwise`).
-/

namespace KMeansSeeding

/-- The outcomes of all points, in order. -/
def QueryReport.outcomes (report : QueryReport) : List (List (Nearest Float)) :=
  report.points.map (·.outcomes)

/-- A shortlist with room for all points of every fold leaves no difference between the searches. -/
theorem Configuration.outcomes_eq_of_room {configuration : Configuration} {stored : Nat → List Point}
    (room : ∀ fold < configuration.folds, (stored fold).length ≤ configuration.samples)
    (query : Point) (approximate : Bool) :
    configuration.outcomes stored query approximate = configuration.outcomes stored query false := by
  refine List.map_congr_left fun fold member => ?_
  have enough : ((stored fold).map configuration.projection.sketchOf).length
      ≤ configuration.samples := by
    rw [List.length_map]
    exact room fold (List.mem_range.mp member)
  cases approximate with
  | false => rfl
  | true =>
    rw [outcome, outcome, considered, Sketch.shortlist_eq_range _ enough, List.length_map, considered]

namespace CommandLine

open Index

/-- The same centers, with other points. -/
def Workload.withPoints (workload : Workload) (points : List Point) : Workload :=
  { workload with points }

/-- The report on some points, from that on each single point. -/
def reportOn (configuration : Configuration) (stored : Nat → List Point) (approximate : Bool)
    (points : List Point) : QueryReport where
  approximate
  rebuilds := if approximate = true ∧ points ≠ [] then 1 else 0
  points := reports configuration stored approximate 0 points

section Loop

variable {configuration : Configuration} {stored : Nat → List Point} {index : Index}

/-- The loop of the query command prepares the index once, at its first point. -/
theorem index_queryPoints (h : Kept configuration stored index) (approximate : Bool) (number : Nat)
    {points : List Point} (fit : ∀ point ∈ points, point.length = configuration.dimension) :
    (queryPoints approximate number points index).index
      = if points = [] then index else (index.prepare approximate).index := by
  induction points generalizing index number with
  | nil => rfl
  | cons point points ih =>
    obtain ⟨fits, rest⟩ := List.forall_mem_cons.mp fit
    obtain ⟨answer, kept⟩ := h.distances_eq fits approximate
    have later := ih kept (number + 1) rest
    rw [queryPoints, Step.andThen, if_neg (List.cons_ne_nil point points)]
    simp only [answer, Step.map, later]
    -- the index is prepared by now, so the other points find nothing to do
    rw [h.index_distances_eq fits, h.index_prepare_prepare, ite_self]

theorem outcomes_reportOn (approximate : Bool) (points : List Point) :
    (reportOn configuration stored approximate points).outcomes
      = points.map (configuration.outcomes stored · approximate) :=
  outcomes_reports configuration stored approximate 0 points

/-- A report says of the point at a place what the report on that point alone says. -/
theorem getElem?_reportOn (approximate : Bool) (points : List Point) (place : Nat) :
    (reportOn configuration stored approximate points).points[place]?
      = points[place]?.map fun point =>
          ⟨place, configuration.outcomes stored point approximate⟩ := by
  rw [reportOn, reports, List.getElem?_map, List.getElem?_zipIdx, Nat.zero_add, Option.map_map]
  rfl

theorem numbers_reportOn (approximate : Bool) (points : List Point) :
    (reportOn configuration stored approximate points).points.map (·.point)
      = List.range points.length := by
  rw [reportOn, reports, List.map_map, List.range_eq_range', ← List.zipIdx_map_snd]
  rfl

theorem length_of_mem_reportOn {approximate : Bool} {points : List Point}
    {outcomes : List (Nearest Float)}
    (member : outcomes ∈ (reportOn configuration stored approximate points).outcomes) :
    outcomes.length = configuration.folds := by
  rw [outcomes_reportOn, List.mem_map] at member
  obtain ⟨point, -, rfl⟩ := member
  exact configuration.length_outcomes stored point approximate

theorem outcomes_reportOn_append (approximate : Bool) (points more : List Point) :
    (reportOn configuration stored approximate (points ++ more)).outcomes
      = (reportOn configuration stored approximate points).outcomes
        ++ (reportOn configuration stored approximate more).outcomes := by
  simp only [outcomes_reportOn, List.map_append]

theorem outcomes_reportOn_pick (approximate : Bool) (points : List Point) (places : List Nat) :
    (reportOn configuration stored approximate (places.filterMap (points[·]?))).outcomes
      = places.filterMap
          ((reportOn configuration stored approximate points).outcomes[·]?) := by
  rw [outcomes_reportOn, outcomes_reportOn, List.map_filterMap]
  exact congrArg (places.filterMap ·) (funext fun place => List.getElem?_map.symm)

/-- With room for all points in the shortlist, the two searches give the same entries. -/
theorem points_reportOn_of_room
    (room : ∀ fold < configuration.folds, (stored fold).length ≤ configuration.samples)
    (approximate other : Bool) (points : List Point) :
    (reportOn configuration stored approximate points).points
      = (reportOn configuration stored other points).points := by
  refine List.map_congr_left fun (point, number) _ => ?_
  simp only [Configuration.outcomes_eq_of_room room point approximate,
    Configuration.outcomes_eq_of_room room point other]

end Loop

variable {files : Files} {settings : Settings} {workload : Workload}

/-- The query command succeeds exactly if all points have the dimension of the centers, and then
reports on each of them. -/
theorem runQuery_eq_ok_iff {index : Index} {configuration : Configuration}
    (built : (buildIndex files settings workload).answer = .ok index)
    (filled : ofSets configuration workload.centers = .ok index) (points : List Point)
    {report : QueryReport} :
    (runQuery files settings (workload.withPoints points)).answer = .ok report ↔
      (∀ point ∈ points, point.length = configuration.dimension) ∧
        reportOn configuration workload.set (!settings.exact) points = report := by
  have kept : Kept configuration workload.set index := kept_of_ofSets filled
  obtain ⟨stale, unasked⟩ := unasked_of_ofSets filled
  -- the points play no part in building the index
  have same : (buildIndex files settings (workload.withPoints points)).answer = .ok index := built
  rw [answer_runQuery_eq same kept, unlessMisfit_eq_ok_iff]
  refine and_congr_right fun (fit : ∀ point ∈ points, point.length = configuration.dimension) => ?_
  have rebuilds : (queryPoints (!settings.exact) 0 points index).index.rebuilds
      = if (!settings.exact) = true ∧ points ≠ [] then 1 else 0 := by
    rw [index_queryPoints kept _ _ fit]
    by_cases none : points = []
    · rw [if_pos none, if_neg fun some => some.2 none, unasked]
    · rw [if_neg none, kept.rebuilds_prepare stale, unasked, Nat.zero_add]
      simp only [none, ne_eq, not_false_eq_true, and_true]
  rw [reportOn, ← rebuilds]
  rfl

/-- The report of the query command has one entry per point, numbered from zero, with one outcome per
center set, and an entry says what the command says of that point alone. So the outcomes of two lists
of points in a row are those of the two lists in a row, and the outcomes of the points at some places,
in any order, are the outcomes at these places. The index makes its sketches once if it is asked
approximately at all. With room for every center in the shortlist, exact and approximate reports have
the same entries. -/
theorem runQuery_pointwise {report : QueryReport}
    (ran : (runQuery files settings workload).answer = .ok report) :
    report.points.map (·.point) = List.range workload.points.length ∧
    (∀ outcomes ∈ report.outcomes, outcomes.length = workload.centers.length) ∧
    (∀ (place : Nat) (point : Point), workload.points[place]? = some point →
      ∃ (outcomes : List (Nearest Float)) (alone : QueryReport),
        report.points[place]? = some ⟨place, outcomes⟩ ∧
        (runQuery files settings (workload.withPoints [point])).answer = .ok alone ∧
        alone.points = [⟨0, outcomes⟩]) ∧
    (∀ more other, (runQuery files settings (workload.withPoints more)).answer = .ok other →
      ∃ joint,
        (runQuery files settings (workload.withPoints (workload.points ++ more))).answer
          = .ok joint ∧
        joint.outcomes = report.outcomes ++ other.outcomes) ∧
    (∀ places : List Nat, ∃ picked,
      (runQuery files settings
        (workload.withPoints (places.filterMap (workload.points[·]?)))).answer = .ok picked ∧
      picked.outcomes = places.filterMap (report.outcomes[·]?)) ∧
    report.rebuilds = (if settings.exact = false ∧ workload.points ≠ [] then 1 else 0) ∧
    ∃ index, (buildIndex files settings workload).answer = .ok index ∧
      (settings.configuration = none → index.configuration.samples = settings.samples) ∧
      ((∀ set ∈ workload.centers, set.length ≤ index.configuration.samples) →
        ∃ other, (runQuery files { settings with exact := !settings.exact } workload).answer
            = .ok other ∧
          other.points = report.points) := by
  cases built : (buildIndex files settings workload).answer with
  | error fault =>
    rw [runQuery, Outcome.andThen, built] at ran
    cases ran
  | ok index =>
    obtain ⟨configuration, count, samples, filled⟩ := exists_ofSets_of_buildIndex built
    have same : index.configuration = configuration := (kept_of_ofSets filled).configuration_eq
    obtain ⟨fit, rfl⟩ := (runQuery_eq_ok_iff built filled workload.points).mp ran
    refine ⟨numbers_reportOn _ _, ?each, ?alone, ?joint, ?picked, ?rebuilds, index, rfl, ?samples,
      ?searches⟩
    case each =>
      intro outcomes member
      rw [length_of_mem_reportOn member, count]
    case alone =>
      intro place point found
      have fits := fit point (List.mem_of_getElem? found)
      refine ⟨configuration.outcomes workload.set point (!settings.exact), _, ?_,
        (runQuery_eq_ok_iff built filled [point]).mpr
          ⟨List.forall_mem_singleton.mpr fits, rfl⟩, rfl⟩
      rw [getElem?_reportOn, found, Option.map_some]
    case joint =>
      intro more other ranMore
      obtain ⟨fitMore, rfl⟩ := (runQuery_eq_ok_iff built filled more).mp ranMore
      have fitBoth := List.forall_mem_append.mpr ⟨fit, fitMore⟩
      exact ⟨_, (runQuery_eq_ok_iff built filled _).mpr ⟨fitBoth, rfl⟩,
        outcomes_reportOn_append _ _ _⟩
    case picked =>
      intro places
      have fitPicked : ∀ point ∈ places.filterMap (workload.points[·]?),
          point.length = configuration.dimension := by
        intro point member
        obtain ⟨place, -, found⟩ := List.mem_filterMap.mp member
        exact fit point (List.mem_of_getElem? found)
      exact ⟨_, (runQuery_eq_ok_iff built filled _).mpr ⟨fitPicked, rfl⟩,
        outcomes_reportOn_pick _ _ _⟩
    case rebuilds =>
      simp only [reportOn, Bool.not_eq_true']
    case samples =>
      intro none
      rw [same, samples none]
    case searches =>
      intro room
      have toggled : (buildIndex files { settings with exact := !settings.exact } workload).answer
          = .ok index := built
      have fold_room : ∀ fold < configuration.folds,
          (workload.set fold).length ≤ configuration.samples := by
        intro fold inside
        rw [count] at inside
        rw [Workload.set, List.getElem?_eq_getElem inside, ← same]
        exact room _ (List.getElem_mem inside)
      exact ⟨_, (runQuery_eq_ok_iff toggled filled workload.points).mpr ⟨fit, rfl⟩,
        points_reportOn_of_room fold_room _ _ _⟩

/-- Two points against two center sets with room in the shortlist: the sketches are made once, the
points in the other order have their outcomes in the other order, and the exact run reports the
same. -/
theorem runQuery_pointwise_two_points :
    ∃ report swapped full,
      (runQuery (fun _ => .error .missing) ⟨"in.json", none, 2, 2, 7, false⟩
        ⟨[[[0], [4]], [[9]]], [[1], [5]]⟩).answer = .ok report ∧
      report.rebuilds = 1 ∧
      (runQuery (fun _ => .error .missing) ⟨"in.json", none, 2, 2, 7, false⟩
        ⟨[[[0], [4]], [[9]]], [[5], [1]]⟩).answer = .ok swapped ∧
      swapped.outcomes = report.outcomes.reverse ∧
      (runQuery (fun _ => .error .missing) ⟨"in.json", none, 2, 2, 7, true⟩
        ⟨[[[0], [4]], [[9]]], [[1], [5]]⟩).answer = .ok full ∧
      full.points = report.points := by
  obtain ⟨index, built, filled⟩ : ∃ index,
      (buildIndex (fun _ => .error .missing) ⟨"in.json", none, 2, 2, 7, false⟩
        ⟨[[[0], [4]], [[9]]], [[1], [5]]⟩).answer = .ok index ∧
      ofSets ⟨2, 1, 2, 2, 7, true⟩ [[[0], [4]], [[9]]] = .ok index := ⟨_, rfl, rfl⟩
  have ran := (runQuery_eq_ok_iff built filled [[1], [5]]).mpr ⟨by decide, rfl⟩
  obtain ⟨-, -, -, -, picked, rebuilds, other, started, samples, searches⟩ := runQuery_pointwise ran
  obtain ⟨swapped, ranSwapped, reversed⟩ := picked [1, 0]
  have room : other.configuration.samples = 2 := samples rfl
  obtain ⟨full, ranFull, same⟩ := searches (by rw [room]; decide)
  exact ⟨_, swapped, full, ran, rebuilds, ranSwapped, reversed, ranFull, same⟩

end CommandLine

end KMeansSeeding
