import KMeansSeeding.Proofs.Index.Refinement

/-!
# When an index refuses a call

A call that names a fold is refused if there is no such fold, and a call with a point is refused if
the point has the wrong dimension; where both apply, the fold is named. `guarded` is that order of
checks, and every operation with both arguments is a step behind it. Nothing else is ever refused at
the end of a run, and a refused call leaves the index as it was.
-/

namespace KMeansSeeding

/-- An answer that depends on a fold and a point by the two checks alone, the fold first. -/
structure Checked {α : Type} (folds dimension fold : Nat) (point : Point)
    (answer : Except Fault α) : Prop where
  noSuchFold : answer = .error (.noSuchFold fold folds) ↔ folds ≤ fold
  wrongDimension : answer = .error (.wrongDimension dimension point.length) ↔
    fold < folds ∧ point.length ≠ dimension
  answered : (∃ value, answer = .ok value) ↔ fold < folds ∧ point.length = dimension

namespace Index

variable {α : Type} (index : Index)

/-- A step behind the checks of a fold and a point. -/
def guarded (fold : Nat) (point : Point) (step : Step α) : Step α :=
  if index.size ≤ fold then .refuse (.noSuchFold fold index.size) index
  else if point.length ≠ index.dimension then
    .refuse (.wrongDimension index.dimension point.length) index
  else step

theorem checkFold_eq_error {fold : Nat} (outside : index.size ≤ fold) :
    index.checkFold fold = .error (.noSuchFold fold index.size) :=
  if_neg (Nat.not_lt.mpr outside)

/-- Operations that check the fold, then the point, are steps behind these checks. -/
theorem match_checks_eq_guarded (fold : Nat) (point : Point) (step : Step α) :
    (match index.checkFold fold, point.check index.dimension with
      | .error fault, _ => .refuse fault index
      | .ok _, .error fault => .refuse fault index
      | .ok _, .ok _ => step)
      = index.guarded fold point step := by
  rw [guarded]
  split_ifs with outside misfit
  · rw [checkFold_eq_error index outside]
  · rw [(checkFold_eq_ok_iff index).mpr (Nat.lt_of_not_le outside), Point.check, if_neg misfit]
  · rw [(checkFold_eq_ok_iff index).mpr (Nat.lt_of_not_le outside),
      Point.check_eq_ok_iff.mpr (not_not.mp misfit)]

theorem add_eq_guarded (point : Point) (fold : Nat) :
    index.add point fold = index.guarded fold point (.done () (index.grown point fold)) := by
  rw [← match_checks_eq_guarded, add]
  rfl

/-- A query of one fold behind its checks. -/
def asked (query : Point) (fold : Nat) (approximate : Bool) : Step (Nearest Float) :=
  (index.prepare approximate).andThen fun _ index =>
    ⟨orBreach (index.search query approximate fold), index, index.searched query approximate fold⟩

theorem distance_eq_guarded (query : Point) (fold : Nat) (approximate : Bool) :
    index.distance query fold approximate
      = index.guarded fold query (index.asked query fold approximate) := by
  rw [← match_checks_eq_guarded, distance]
  rfl

variable {index} {fold : Nat} {point : Point} {step : Step α}

theorem guarded_eq_step (inside : fold < index.size) (fits : point.length = index.dimension) :
    index.guarded fold point step = step := by
  rw [guarded, if_neg (Nat.not_le.mpr inside), if_neg (not_not.mpr fits)]

/-- A step that answers whenever its arguments pass answers by its checks alone. -/
theorem checked_guarded
    (answers : fold < index.size → point.length = index.dimension → ∃ value, step.answer = .ok value) :
    Checked index.size index.dimension fold point (index.guarded fold point step).answer := by
  rw [guarded]
  split_ifs with outside misfit
  · constructor <;> simp [Step.refuse, outside, Nat.not_lt.mpr outside]
  · constructor <;> simp [Step.refuse, outside, misfit, Nat.lt_of_not_le outside]
  · have inside := Nat.lt_of_not_le outside
    obtain ⟨value, answer⟩ := answers inside (not_not.mp misfit)
    constructor <;> simp [answer, not_not.mp misfit, inside]

/-- A guarded step that answers whenever its arguments pass changes nothing where it fails. -/
theorem index_guarded_of_error {fault : Fault}
    (answers : fold < index.size → point.length = index.dimension → ∃ value, step.answer = .ok value)
    (failed : (index.guarded fold point step).answer = .error fault) :
    (index.guarded fold point step).index = index := by
  by_cases outside : index.size ≤ fold
  · rw [guarded, if_pos outside]
    rfl
  · by_cases fits : point.length = index.dimension
    · have inside := Nat.lt_of_not_le outside
      obtain ⟨value, answer⟩ := answers inside fits
      rw [guarded_eq_step inside fits, answer] at failed
      cases failed
    · rw [guarded, if_neg outside, if_pos fits]
      rfl

namespace Kept

variable {configuration : Configuration} {stored : Nat → List Point}
  (h : Kept configuration stored index)

include h

/-- A query of one fold is answered once its arguments have passed. -/
theorem exists_asked {query : Point} (inside : fold < index.size)
    (fits : query.length = index.dimension) (approximate : Bool) :
    ∃ nearest, (index.asked query fold approximate).answer = .ok nearest := by
  have passed : index.distance query fold approximate = index.asked query fold approximate := by
    rw [distance_eq_guarded, guarded_eq_step inside fits]
  rw [← passed]
  rw [h.size_eq] at inside
  rw [h.dimension_eq] at fits
  exact ⟨_, h.distance_eq_ok inside fits approximate⟩

/-- A call that fails changes nothing. -/
theorem index_of_error {call : Call} {fault : Fault}
    (failed : (index.perform call).answer = .error fault) : (index.perform call).index = index := by
  cases call with
  | add point fold =>
    have failed : (index.add point fold).answer = .error fault := map_eq_error_iff.mp failed
    show (index.add point fold).index = index
    rw [add_eq_guarded] at failed ⊢
    exact index_guarded_of_error (fun _ _ => ⟨_, rfl⟩) failed
  | rebuild =>
    have failed : index.rebuild.answer = .error fault := map_eq_error_iff.mp failed
    rw [rebuild_of_drawn h.drawn_eq] at failed
    cases failed
  | distance query fold approximate =>
    have failed : (index.distance query fold approximate).answer = .error fault :=
      map_eq_error_iff.mp failed
    show (index.distance query fold approximate).index = index
    rw [distance_eq_guarded] at failed ⊢
    exact index_guarded_of_error (fun inside fits => h.exists_asked inside fits approximate) failed
  | distances query approximate =>
    have failed : (index.distances query approximate).answer = .error fault :=
      map_eq_error_iff.mp failed
    show (index.distances query approximate).index = index
    by_cases fits : query.length = configuration.dimension
    · rw [(h.distances_eq fits approximate).1] at failed
      cases failed
    · rw [h.distances_eq_refuse fits]
      rfl
  | points | sketches | weightedFold | weighted => rfl

end Kept

/-! ## Reading one fold -/

variable (index)

theorem fold_eq_error (outside : index.size ≤ fold) :
    index.fold fold = .error (.noSuchFold fold index.size) := by
  rw [Index.fold, List.getElem?_eq_none outside]

theorem fold_eq_ok (inside : fold < index.size) : ∃ store, index.fold fold = .ok store := by
  rw [Index.fold, List.getElem?_eq_getElem inside]
  exact ⟨_, rfl⟩

theorem points_eq_error_iff :
    index.points fold = .error (.noSuchFold fold index.size) ↔ index.size ≤ fold := by
  rw [points, map_eq_error_iff]
  refine ⟨fun refused => ?_, index.fold_eq_error⟩
  by_contra inside
  obtain ⟨store, found⟩ := index.fold_eq_ok (Nat.lt_of_not_le inside)
  rw [found] at refused
  cases refused

theorem currentSketches_eq_error_iff :
    index.currentSketches fold = .error (.noSuchFold fold index.size) ↔ index.size ≤ fold := by
  rw [currentSketches, map_eq_error_iff]
  refine ⟨fun refused => ?_, checkFold_eq_error index⟩
  by_contra inside
  rw [(checkFold_eq_ok_iff index).mpr (Nat.lt_of_not_le inside)] at refused
  cases refused

/-- Too few weights are another fault than a missing fold. -/
theorem weightedFold_eq_error_iff (weights : List Float) :
    index.weightedFold fold weights = .error (.noSuchFold fold index.size) ↔ index.size ≤ fold := by
  refine ⟨fun refused => ?_, fun outside => ?_⟩
  · by_contra inside
    obtain ⟨store, found⟩ := index.fold_eq_ok (Nat.lt_of_not_le inside)
    have paired : index.weightedFold fold weights = pairWithWeights fold store.points weights := by
      rw [weightedFold, points, found]
      rfl
    rw [paired, pairWithWeights] at refused
    split at refused <;> cases refused
  · rw [weightedFold, (points_eq_error_iff index).mpr outside]
    rfl

end Index

namespace Run

/-- At the end of every run, a call is refused exactly if it names a fold that is not there, or has a
point of the wrong dimension, and a call with both is refused for the fold. An export of one fold is
refused for the fold exactly if that is not there. Whatever call fails leaves the index as it was,
so all later calls are answered as if it had not been made. -/
theorem refusals (run : Run) :
    (∀ point fold, Checked run.configuration.folds run.configuration.dimension fold point
      (run.index.add point fold).answer) ∧
    (∀ query fold approximate, Checked run.configuration.folds run.configuration.dimension fold query
      (run.index.distance query fold approximate).answer) ∧
    (∀ (query : Point) (approximate : Bool),
      ((run.index.distances query approximate).answer
          = .error (.wrongDimension run.configuration.dimension query.length) ↔
        query.length ≠ run.configuration.dimension) ∧
      (query.length = run.configuration.dimension →
        ∃ outcomes, (run.index.distances query approximate).answer = .ok outcomes ∧
          outcomes.length = run.configuration.folds)) ∧
    (∀ fold,
      (run.index.points fold = .error (.noSuchFold fold run.configuration.folds) ↔
        run.configuration.folds ≤ fold) ∧
      (run.index.currentSketches fold = .error (.noSuchFold fold run.configuration.folds) ↔
        run.configuration.folds ≤ fold) ∧
      ∀ weights, run.index.weightedFold fold weights
          = .error (.noSuchFold fold run.configuration.folds) ↔ run.configuration.folds ≤ fold) ∧
    ∀ call fault, (run.index.perform call).answer = .error fault →
      (run.index.perform call).index = run.index ∧
      ∀ later, (run.index.perform call).index.history later = run.index.history later ∧
        (run.index.perform call).index.after later = run.index.after later := by
  have kept := run.kept
  rw [← kept.size_eq, ← kept.dimension_eq]
  refine ⟨fun point fold => ?_, fun query fold approximate => ?_, fun query approximate => ?_,
    fun fold => ⟨run.index.points_eq_error_iff, run.index.currentSketches_eq_error_iff,
      run.index.weightedFold_eq_error_iff⟩, fun call fault failed => ?_⟩
  · rw [Index.add_eq_guarded]
    exact Index.checked_guarded fun _ _ => ⟨_, rfl⟩
  · rw [Index.distance_eq_guarded]
    exact Index.checked_guarded fun inside fits => kept.exists_asked inside fits approximate
  · rw [kept.dimension_eq, kept.size_eq]
    have answered (fits : query.length = run.configuration.dimension) :=
      (kept.distances_eq fits approximate).1
    refine ⟨⟨fun refused fits => ?_, fun misfit => ?_⟩, fun fits => ⟨_, answered fits, ?_⟩⟩
    · rw [answered fits] at refused
      cases refused
    · rw [kept.distances_eq_refuse misfit]
      rfl
    · rw [Configuration.outcomes, List.length_map, List.length_range]
  · have same := kept.index_of_error failed
    rw [same]
    exact ⟨rfl, fun _ => ⟨rfl, rfl⟩⟩

/-- An index that has never been asked refuses an approximate query of the wrong dimension and an
addition that is wrong in both ways, and stays stale. -/
theorem refusals_stale :
    ∃ run : Run, run.calls = [.add [1] 0] ∧ run.index.freshness = .stale ∧
      (run.index.add [1, 2] 5).answer = .error (.noSuchFold 5 1) ∧
      (run.index.distance [1, 2] 0 true).answer = .error (.wrongDimension 1 2) ∧
      (run.index.perform (.distance [1, 2] 0 true)).index = run.index := by
  let run : Run := ⟨.empty ⟨1, 1, 2, 1, 7, true⟩, _, rfl, [.add [1] 0]⟩
  obtain ⟨add, distance, -, -, unchanged⟩ := run.refusals
  have wrong := (distance [1, 2] 0 true).wrongDimension.mpr ⟨by decide, by decide⟩
  refine ⟨run, rfl, rfl, (add [1, 2] 5).noSuchFold.mpr (by decide), wrong, ?_⟩
  exact (unchanged (.distance [1, 2] 0 true) (.wrongDimension 1 2)
    (congrArg (Except.map Reply.nearest) wrong)).1

end Run

end KMeansSeeding
