import KMeansSeeding.Proofs.Index.Filling
import KMeansSeeding.Proofs.Index.Rebuilds
import KMeansSeeding.Proofs.Index.Retrieval

/-!
# Starting an index from center sets

The first center gives the dimension. All centers are checked against it before an index is made, so
that no center is turned away while the index is filled: what is wrong with the sets or the sizes is
found by the checks, and they go through their objections in one order (`Objection`). Sets and sizes to
which there is no objection are `Startable`, and for these there is an index.
-/

namespace KMeansSeeding

namespace Index

/-! ## Acceptable center sets -/

/-- All centers have some dimension. -/
def AllEven (sets : List (List Point)) (dimension : ℕ) : Prop :=
  ∀ set ∈ sets, ∀ center ∈ set, center.length = dimension

/-- There is a first center and it has components, all centers have as many, and the sizes are
positive. -/
def Startable (sets : List (List Point)) (bits samples : ℕ) : Prop :=
  ∃ first rest others, sets = (first :: rest) :: others ∧ 0 < first.length ∧
    AllEven sets first.length ∧ 0 < bits ∧ 0 < samples

/-- What is wrong with center sets and sizes, if none of the earlier objections applies. -/
inductive Objection : List (List Point) → (bits samples : ℕ) → Misfit → Prop
  | noCenterSet (bits samples : ℕ) : Objection [] bits samples .noCenterSet
  | emptyFirstSet (others : List (List Point)) (bits samples : ℕ) :
      Objection ([] :: others) bits samples .emptyFirstSet
  | unevenCenter {first : Point} {rest : List Point} {others : List (List Point)}
      (bits samples : ℕ) {fold position : ℕ} {center : Point}
      (uneven : FirstUneven ((first :: rest) :: others) first.length fold position center) :
      Objection ((first :: rest) :: others) bits samples
        (.unevenCenter position fold center.length first.length)
  | noDimension {rest : List Point} {others : List (List Point)} (bits samples : ℕ)
      (even : AllEven (([] :: rest) :: others) 0) :
      Objection (([] :: rest) :: others) bits samples .noDimension
  | noBits {first : Point} {rest : List Point} {others : List (List Point)} (samples : ℕ)
      (even : AllEven ((first :: rest) :: others) first.length) (dimension : 0 < first.length) :
      Objection ((first :: rest) :: others) 0 samples .noBits
  | noSamples {first : Point} {rest : List Point} {others : List (List Point)} {bits : ℕ}
      (even : AllEven ((first :: rest) :: others) first.length) (dimension : 0 < first.length)
      (positive : 0 < bits) : Objection ((first :: rest) :: others) bits 0 .noSamples

/-- Without an uneven center all centers are even. -/
theorem allEven_or_firstUneven (sets : List (List Point)) (dimension : ℕ) :
    AllEven sets dimension ∨ ∃ fold position center, FirstUneven sets dimension fold position center := by
  cases misfit : sets.flatten.find? (·.length != dimension) with
  | some center =>
    obtain ⟨fold, position, uneven⟩ := exists_firstUneven misfit
    exact .inr ⟨fold, position, center, uneven⟩
  | none =>
    left
    intro set member center among
    simpa using List.find?_eq_none.mp misfit center (List.mem_flatten_of_mem member among)

/-- The objections leave nothing out. -/
theorem startable_or_objection (sets : List (List Point)) (bits samples : ℕ) :
    Startable sets bits samples ∨ ∃ misfit, Objection sets bits samples misfit := by
  match sets with
  | [] => exact .inr ⟨_, .noCenterSet bits samples⟩
  | [] :: others => exact .inr ⟨_, .emptyFirstSet others bits samples⟩
  | (first :: rest) :: others =>
    rcases allEven_or_firstUneven ((first :: rest) :: others) first.length with
      even | ⟨fold, position, center, uneven⟩
    · -- only even centers get as far as the sizes, and these are looked at one after another
      match first, bits, samples with
      | [], bits, samples => exact .inr ⟨_, .noDimension bits samples even⟩
      | _ :: _, 0, samples => exact .inr ⟨_, .noBits samples even (Nat.succ_pos _)⟩
      | _ :: _, _ + 1, 0 =>
        exact .inr ⟨_, .noSamples even (Nat.succ_pos _) (Nat.succ_pos _)⟩
      | _ :: _, _ + 1, _ + 1 =>
        exact .inl ⟨_, _, _, rfl, Nat.succ_pos _, even, Nat.succ_pos _, Nat.succ_pos _⟩
    · exact .inr ⟨_, .unevenCenter bits samples uneven⟩

/-! ## Starting -/

section Starting

variable {sets : List (List Point)} {bits samples : ℕ} {seed : UInt64} {misfit : Misfit}

/-- Once the centers are even, what is wrong with the configuration is the fault. -/
theorem ofCenters_eq_error_of_check {first : Point} {rest : List Point} {others : List (List Point)}
    {fault : Fault} (even : AllEven ((first :: rest) :: others) first.length)
    (unsound : Configuration.check
      { Configuration.ofShape (others.length + 1) first.length with bits, samples, seed }
        = .error fault) :
    ofCenters ((first :: rest) :: others) bits samples seed = .error fault := by
  rw [ofCenters_cons, checkSets_eq_ok even]
  show ofSets _ _ = _
  rw [ofSets, create, unsound]
  rfl

/-- An objection is raised as it is. -/
theorem ofCenters_of_objection (seed : UInt64) (objection : Objection sets bits samples misfit) :
    ofCenters sets bits samples seed = .error (.misfit misfit) := by
  cases objection with
  | noCenterSet | emptyFirstSet => rfl
  | unevenCenter _ _ uneven =>
    rw [ofCenters_cons, checkSets_eq_error uneven]
    rfl
  | noDimension _ _ even => exact ofCenters_eq_error_of_check even rfl
  | noBits _ even dimension =>
    refine ofCenters_eq_error_of_check even ?_
    exact (if_neg (Nat.succ_ne_zero _)).trans <| (if_neg dimension.ne').trans (if_pos rfl)
  | noSamples even dimension positive =>
    refine ofCenters_eq_error_of_check even ?_
    exact (if_neg (Nat.succ_ne_zero _)).trans <| (if_neg dimension.ne').trans <|
      (if_neg positive.ne').trans (if_pos rfl)

/-- The checks are strong enough: what passes them is never turned away while the index is filled. -/
theorem exists_ofCenters_of_startable (seed : UInt64) (startable : Startable sets bits samples) :
    ∃ index, ofCenters sets bits samples seed = .ok index := by
  obtain ⟨first, rest, others, rfl, dimension, even, hbits, hsamples⟩ := startable
  have sound : Configuration.Sound
      { Configuration.ofShape (others.length + 1) first.length with bits, samples, seed } :=
    ⟨Nat.succ_pos _, dimension, hbits, hsamples⟩
  have count : others.length + 1 = ((first :: rest) :: others).length := rfl
  obtain ⟨index, filled⟩ := ofSets_eq_unlessMisfit sound count
  refine ⟨index, ?_⟩
  rw [ofCenters_cons, checkSets_eq_ok even]
  refine filled.trans (unlessMisfit_eq_ok_iff.mpr ⟨fun center among => ?_, rfl⟩)
  obtain ⟨set, member, among⟩ := List.mem_flatten.mp among
  exact even set member center among

/-- What an index is that was started from center sets: it has one fold per set and no sketches. -/
structure Started (origin : Origin) (sets : List (List Point)) (index : Index) : Prop where
  configuration_eq : index.configuration = origin.configuration
  size_eq : index.size = sets.length
  points_eq : ∀ fold set, sets[fold]? = some set → index.points fold = .ok set
  stale : index.freshness = .stale
  unbuilt : index.projection = none
  rebuilds_eq : index.rebuilds = 0

theorem started_of_ofCenters {index : Index}
    (begun : ofCenters sets bits samples seed = .ok index) :
    Started (.centers sets bits samples seed) sets index := by
  have begun : (Origin.centers sets bits samples seed).index = .ok index := begun
  have kept := kept_of_origin begun
  obtain ⟨stale, unasked⟩ := unasked_of_origin begun
  refine ⟨kept.configuration_eq, kept.size_eq, fun fold set found => ?_, stale, ?_, unasked⟩
  · have inside : fold < sets.length := (List.getElem?_eq_some_iff.mp found).1
    rw [kept.points_eq inside, Origin.points, found, Option.getD_some]
  · cases kept.sketched with
    | never unbuilt => exact unbuilt
    | earlier _ rebuilds => exact absurd unasked rebuilds.ne'

/-- There is an index of center sets exactly if they and the sizes are acceptable. It has one fold per
set, with the centers of the set in their order, and nothing is sketched yet. Otherwise the fault is the
first objection to the sets and sizes, so never a point or a fold that the index turned away. -/
theorem ofCenters_accepts (sets : List (List Point)) (bits samples : ℕ) (seed : UInt64) :
    ((∃ index, ofCenters sets bits samples seed = .ok index) ↔ Startable sets bits samples) ∧
    (∀ index, ofCenters sets bits samples seed = .ok index →
      Started (.centers sets bits samples seed) sets index) ∧
    ∀ fault, ofCenters sets bits samples seed = .error fault ↔
      ∃ misfit, fault = .misfit misfit ∧ Objection sets bits samples misfit := by
  refine ⟨⟨fun begun => ?_, exists_ofCenters_of_startable seed⟩, fun _ => started_of_ofCenters,
    fun fault => ⟨fun failed => ?_, ?_⟩⟩
  · obtain ⟨index, begun⟩ := begun
    refine (startable_or_objection sets bits samples).resolve_right ?_
    rintro ⟨misfit, objection⟩
    cases begun.symm.trans (ofCenters_of_objection seed objection)
  · rcases startable_or_objection sets bits samples with startable | ⟨misfit, objection⟩
    · obtain ⟨index, begun⟩ := exists_ofCenters_of_startable seed startable
      cases begun.symm.trans failed
    · have raised := failed.symm.trans (ofCenters_of_objection seed objection)
      exact ⟨misfit, Except.error.inj raised, objection⟩
  · rintro ⟨misfit, rfl, objection⟩
    exact ofCenters_of_objection seed objection

/-- An empty set behind the first is accepted. Where the first center has no components, a later one has,
and the sizes are zero, the later center is the fault. -/
theorem ofCenters_accepts_empty_set :
    (∃ index, ofCenters [[[1, 0]], [], [[2, 3], [4, 5]]] 8 2 7 = .ok index ∧
      index.points 1 = .ok [] ∧ index.points 2 = .ok [[2, 3], [4, 5]] ∧ index.rebuilds = 0) ∧
    ofCenters [[[]], [], [[], [1]]] 0 0 7 = .error (.misfit (.unevenCenter 1 2 1 0)) ∧
    Objection [[[]], [], [[], [1]]] 0 0 (.unevenCenter 1 2 1 0) := by
  obtain ⟨accepted, started, -⟩ := ofCenters_accepts [[[1, 0]], [], [[2, 3], [4, 5]]] 8 2 7
  obtain ⟨-, -, refused⟩ := ofCenters_accepts [[[]], [], [[], [1]]] 0 0 7
  have even : AllEven [[[1, 0]], [], [[2, 3], [4, 5]]] 2 := by
    unfold AllEven
    decide
  obtain ⟨index, begun⟩ :=
    accepted.mpr ⟨_, _, _, rfl, by decide, even, by decide, by decide⟩
  have raised : ofCenters [[[]], [], [[], [1]]] 0 0 7 = .error (.misfit (.unevenCenter 1 2 1 0)) := rfl
  obtain ⟨misfit, same, objection⟩ := (refused _).mp raised
  obtain rfl := Fault.misfit.inj same
  exact ⟨⟨index, begun, (started index begun).points_eq 1 _ rfl,
    (started index begun).points_eq 2 _ rfl, (started index begun).rebuilds_eq⟩, raised, objection⟩

end Starting

end Index

end KMeansSeeding
