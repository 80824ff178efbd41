import KMeansSeeding.Proofs.Index.Rebuilds

/-!
# All folds at once, or one after another

A query of all folds prepares the index once and then searches every fold. Queries of the single folds
each prepare the index, but only the first one finds something to do. So in whatever order the folds
are asked, the outcomes are those of the query of all folds, and so is the index in the end
(`Run.distances_agree`).
-/

namespace KMeansSeeding

/-- The calls that ask some folds one after another. -/
def asks (query : Point) (approximate : Bool) (order : List Nat) : List Call :=
  order.map fun fold => .distance query fold approximate

namespace Index.Kept

variable {configuration : Configuration} {stored : Nat → List Point} {index : Index}
  {query : Point} (fits : query.length = configuration.dimension) (approximate : Bool)
  {order : List Nat} (inside : ∀ fold ∈ order, fold < configuration.folds)

include fits inside

/-- Asking some folds prepares the index, once. -/
theorem after_asks (h : Kept configuration stored index) :
    index.after (asks query approximate order)
      = if order = [] then index else (index.prepare approximate).index := by
  induction order generalizing index with
  | nil => rfl
  | cons fold order ih =>
    obtain ⟨first, rest⟩ := List.forall_mem_cons.mp inside
    -- the first query prepares the index, and the others find it prepared
    have later := ih rest (h.prepare approximate).2.1
    rw [h.index_prepare_prepare, ite_self] at later
    rw [if_neg (List.cons_ne_nil fold order), ← later, asks, List.map_cons, Index.after, ← asks]
    exact congrArg (Index.after · _) (h.index_distance_eq first fits approximate)

/-- Every fold that is asked gives its outcome, whatever was asked before. -/
theorem history_asks (h : Kept configuration stored index) :
    index.history (asks query approximate order) = order.map fun fold =>
      ⟨.distance query fold approximate,
        .ok (.nearest (configuration.outcome (stored fold) query approximate))⟩ := by
  induction order generalizing index with
  | nil => rfl
  | cons fold order ih =>
    obtain ⟨first, rest⟩ := List.forall_mem_cons.mp inside
    have index_eq : (index.perform (.distance query fold approximate)).index
        = (index.prepare approximate).index := h.index_distance_eq first fits approximate
    have answer : (index.perform (.distance query fold approximate)).answer
        = .ok (.nearest (configuration.outcome (stored fold) query approximate)) :=
      congrArg (Except.map Reply.nearest) (h.distance_eq_ok first fits approximate)
    rw [asks, List.map_cons, List.map_cons, Index.history, ← asks, index_eq,
      ih rest (h.prepare approximate).2.1, Index.event, answer]

end Index.Kept

/-- Preparing an index rebuilds it once at most. -/
theorem Index.rebuilds_prepare_le (index : Index) (approximate : Bool) :
    (index.prepare approximate).index.rebuilds ≤ index.rebuilds + 1 := by
  rcases index.index_prepare approximate with same | ⟨sketches, -, renewed⟩
  · rw [same]
    exact Nat.le_succ _
  · rw [renewed, Index.renewed]

namespace Run

/-- At the end of every run, a query of all folds gives for each fold the answer of a query of that
fold. Asking the folds one after another, in any order, gives the same answers and leaves the index as
the query of all folds does, with one more rebuild at most. -/
theorem distances_agree (run : Run) {query : Point} (fits : query.length = run.configuration.dimension)
    (approximate : Bool) :
    ∃ outcomes, (run.index.distances query approximate).answer = .ok outcomes ∧
      outcomes.length = run.configuration.folds ∧
      (∀ fold < run.configuration.folds, ∃ nearest, outcomes[fold]? = some nearest ∧
        (run.index.distance query fold approximate).answer = .ok nearest) ∧
      (run.index.distances query approximate).index.rebuilds ≤ run.index.rebuilds + 1 ∧
      ∀ order : List Nat, order.Perm (List.range run.configuration.folds) →
        List.Forall₂ (fun fold event => ∃ nearest, outcomes[fold]? = some nearest ∧
            event = ⟨.distance query fold approximate, .ok (.nearest nearest)⟩)
          order (run.index.history (asks query approximate order)) ∧
        run.index.after (asks query approximate order)
          = (run.index.distances query approximate).index := by
  have kept := run.kept
  have found {fold : Nat} (inside : fold < run.configuration.folds) :=
    run.configuration.getElem?_outcomes run.stored query approximate inside
  refine ⟨_, (kept.distances_eq fits approximate).1, Configuration.length_outcomes _ _ _ _,
    fun fold inside => ⟨_, found inside, kept.distance_eq_ok inside fits approximate⟩, ?_,
    fun order perm => ?_⟩
  · rw [kept.index_distances_eq fits]
    exact run.index.rebuilds_prepare_le approximate
  · have inside : ∀ fold ∈ order, fold < run.configuration.folds :=
      fun fold member => List.mem_range.mp (perm.subset member)
    constructor
    · rw [kept.history_asks fits approximate inside, List.forall₂_map_right_iff, List.forall₂_same]
      exact fun fold member => ⟨_, found (inside fold member), rfl⟩
    · -- there is a fold to ask, so the index has been prepared in the end
      have some : order ≠ [] := by
        rintro rfl
        obtain ⟨positive, -⟩ := Index.sound_of_origin run.begun
        have none := perm.length_eq
        rw [List.length_range] at none
        exact absurd none (Nat.ne_of_lt positive)
      rw [kept.after_asks fits approximate inside, if_neg some, kept.index_distances_eq fits]

/-- Two folds were filled and never asked; they are asked in descending order. -/
theorem distances_agree_descending :
    ∃ run : Run, run.calls = [.add [1] 0, .add [-2] 1, .add [4, 4] 1] ∧
      ∃ outcomes, (run.index.distances [3] true).answer = .ok outcomes ∧ outcomes.length = 2 ∧
        List.Forall₂ (fun fold event => ∃ nearest, outcomes[fold]? = some nearest ∧
            event = ⟨.distance [3] fold true, .ok (.nearest nearest)⟩)
          [1, 0] (run.index.history (asks [3] true [1, 0])) ∧
        run.index.after (asks [3] true [1, 0]) = (run.index.distances [3] true).index := by
  let run : Run := ⟨.empty ⟨2, 1, 2, 1, 7, false⟩, _, rfl, [.add [1] 0, .add [-2] 1, .add [4, 4] 1]⟩
  have fits : ([3] : Point).length = run.configuration.dimension := by decide
  obtain ⟨outcomes, answer, length, -, -, ordered⟩ := run.distances_agree fits true
  exact ⟨run, rfl, outcomes, answer, length, ordered [1, 0] (by decide)⟩

end Run

end KMeansSeeding
