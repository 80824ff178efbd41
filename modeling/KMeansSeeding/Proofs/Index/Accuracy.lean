import KMeansSeeding.Proofs.Distances

/-!
# How far the answers of an index are off

An index answers a query with the outcome of the points it keeps, so after every run its answers are
accurate as outcomes are (`Run.distance_accurate`): right up to the slack of the nearest point. They
need not be above zero: two points that are close to one another and far from the origin can have a
squared distance below zero (`Run.distance_below_zero`).
-/

namespace KMeansSeeding

namespace Run

/-- After every run, a query of finite components is answered accurately, fold by fold or for all
folds at once, if the stored components are finite too. -/
theorem distance_accurate (run : Run)
    (finite : ∀ fold < run.configuration.folds, ∀ point ∈ run.stored fold, point.AllFinite)
    {query : Point} (fits : query.length = run.configuration.dimension) (hquery : query.AllFinite)
    (approximate : Bool) :
    (∀ fold < run.configuration.folds, ∃ nearest,
      (run.index.distance query fold approximate).answer = .ok nearest ∧
        Accurate (run.stored fold) query nearest) ∧
    ∃ nearests, (run.index.distances query approximate).answer = .ok nearests ∧
      List.Forall₂ (fun fold nearest => Accurate (run.stored fold) query nearest)
        (List.range run.configuration.folds) nearests := by
  obtain ⟨-, -, -, room⟩ := Index.sound_of_origin run.begun
  have accurate : ∀ fold < run.configuration.folds, Accurate (run.stored fold) query
      (run.configuration.outcome (run.stored fold) query approximate) := by
    intro fold inside
    refine Configuration.accurate_outcome (fun point member => ?_) room (finite fold inside) hquery
    rw [run.kept.fit fold point member, fits]
  constructor
  · intro fold inside
    exact ⟨_, run.kept.distance_eq_ok inside fits approximate, accurate fold inside⟩
  · refine ⟨_, (run.kept.distances_eq fits approximate).1, ?_⟩
    rw [Configuration.outcomes, List.forall₂_map_right_iff, List.forall₂_same]
    exact fun fold member => accurate fold (List.mem_range.mp member)

/-- A stored point and the query are close to one another and far from the origin; a point of the
wrong dimension was refused in between. -/
theorem distance_accurate_far_points :
    ∃ run : Run, run.origin = .empty ⟨2, 2, 3, 1, 7, true⟩ ∧
      run.calls = [.add [800000000, 5] 1, .add [1] 1, .add [-800000000, 5] 1] ∧
      ∃ nearest, (run.index.distance [800000000, 13] 1 true).answer = .ok nearest ∧
        Accurate [[800000000, 5], [-800000000, 5]] [800000000, 13] nearest := by
  let run : Run := ⟨.empty ⟨2, 2, 3, 1, 7, true⟩, _, rfl,
    [.add [800000000, 5] 1, .add [1] 1, .add [-800000000, 5] 1]⟩
  have stored : run.stored 1 = [[800000000, 5], [-800000000, 5]] := by decide +kernel
  have finite : ∀ fold < run.configuration.folds, ∀ point ∈ run.stored fold, point.AllFinite := by
    decide +kernel
  have fits : ([800000000, 13] : Point).length = run.configuration.dimension := by decide
  obtain ⟨nearest, answer, accurate⟩ :=
    (run.distance_accurate finite fits (by decide +kernel) true).1 1 (by decide)
  rw [stored] at accurate
  exact ⟨run, rfl, rfl, nearest, answer, accurate⟩

/-- Between two points far from the origin, the distance that is found is `-256`; it should be
`64`. -/
theorem distance_below_zero :
    ∃ run : Run, run.origin = .centers [[[800000000, 5]]] 1 1 0 ∧ run.calls = [] ∧
      (∀ fold < run.configuration.folds, ∀ point ∈ run.stored fold, point.AllFinite) ∧
      Point.AllFinite [800000000, 13] ∧
      Point.squaredDistance [800000000, 5] [800000000, 13] = 64 ∧
      (run.index.distance [800000000, 13] 0 false).answer = .ok ⟨-256, some 0⟩ ∧
      ¬ (0 : Float) ≤ -256 := by
  let run : Run := ⟨.centers [[[800000000, 5]]] 1 1 0, _, rfl, []⟩
  have stored : run.stored 0 = [[800000000, 5]] := by decide +kernel
  have finite : ∀ fold < run.configuration.folds, ∀ point ∈ run.stored fold, point.AllFinite := by
    decide +kernel
  have fits : ([800000000, 13] : Point).length = run.configuration.dimension := by decide
  have answer := run.kept.distance_eq_ok (show 0 < run.configuration.folds by decide) fits false
  have outcome : run.configuration.outcome [[800000000, 5]] [800000000, 13] false
      = ⟨-256, some 0⟩ := by decide +kernel
  rw [stored, outcome] at answer
  exact ⟨run, rfl, rfl, finite, by decide +kernel, by decide +kernel, answer, by decide +kernel⟩

end Run

end KMeansSeeding
