import KMeansSeeding.CommandLine.Execute
import KMeansSeeding.Proofs.Index.Filling

/-!
# Two ways of building an index

Without a configuration file, a command starts the index from the center sets; with one, it starts an
empty index of that configuration and fills it. With the configuration that the numbers of the
settings stand for, both ways come to the same (`ofCenters_agrees_indexOf`).
-/

namespace KMeansSeeding.CommandLine

open Index

section Ways

variable (settings : Settings) (workload : Workload)

/-- With the configuration of the settings there is one fold per center set. -/
theorem indexOf_toConfiguration (dimension : Nat) :
    indexOf workload (settings.toConfiguration workload.centers.length dimension)
      = ofSets (settings.toConfiguration workload.centers.length dimension) workload.centers :=
  if_pos rfl

/-- Without a file the same index is filled, behind the checks of all centers. -/
theorem ofCenters_eq_bind {first : Point} {rest : List Point} {others : List (List Point)}
    (centers : workload.centers = (first :: rest) :: others) :
    ofCenters workload.centers settings.bits settings.samples settings.seed
      = (workload.centers.zipIdx.forM fun (set, fold) => checkSet first.length fold set) >>= fun _ =>
        ofSets (settings.toConfiguration workload.centers.length first.length)
          workload.centers := by
  rw [centers]
  exact ofCenters_cons first rest others settings.bits settings.samples settings.seed

end Ways

/-- An index that is started from the center sets and one that is filled under the configuration of
the settings are the same index, and one exists exactly if the other does. Where the sizes are
positive and it does not, the first uneven center is the fault of both: one names its place, the other
only its dimension. -/
theorem ofCenters_agrees_indexOf (settings : Settings) (workload : Workload) {first : Point}
    {rest : List Point} {others : List (List Point)}
    (centers : workload.centers = (first :: rest) :: others) :
    (∀ index,
      ofCenters workload.centers settings.bits settings.samples settings.seed = .ok index ↔
        indexOf workload (settings.toConfiguration workload.centers.length first.length)
          = .ok index) ∧
    (0 < first.length → 0 < settings.bits → 0 < settings.samples →
      ((∃ fault, ofCenters workload.centers settings.bits settings.samples settings.seed
          = .error fault) ∨
        ∃ fault, indexOf workload (settings.toConfiguration workload.centers.length first.length)
          = .error fault) →
      ∃ fold position center, FirstUneven workload.centers first.length fold position center ∧
        ofCenters workload.centers settings.bits settings.samples settings.seed
          = .error (.misfit (.unevenCenter position fold center.length first.length)) ∧
        indexOf workload (settings.toConfiguration workload.centers.length first.length)
          = .error (.wrongDimension first.length center.length)) := by
  rw [indexOf_toConfiguration, ofCenters_eq_bind settings workload centers]
  generalize hconfiguration :
    settings.toConfiguration workload.centers.length first.length = configuration
  have dimension : configuration.dimension = first.length := by
    rw [← hconfiguration]
    rfl
  rw [← dimension]
  constructor
  · intro index
    rw [bind_eq_ok_iff]
    exact ⟨fun ⟨_, _, filled⟩ => filled, fun filled => ⟨(), checkSets_of_ofSets filled, filled⟩⟩
  · intro hdimension hbits hsamples failed
    have sound : configuration.Sound := by
      rw [dimension] at hdimension
      rw [← hconfiguration]
      refine ⟨?_, hdimension, hbits, hsamples⟩
      show 0 < workload.centers.length
      rw [centers]
      exact Nat.succ_pos _
    have count : configuration.folds = workload.centers.length := by
      rw [← hconfiguration]
      rfl
    obtain ⟨index, filled⟩ := ofSets_eq_unlessMisfit sound count
    rw [unlessMisfit] at filled
    cases misfit : workload.centers.flatten.find? (·.length != configuration.dimension) with
    | none =>
      -- without a misfit the index is filled, so the checks pass too and neither way can fail
      rw [misfit] at filled
      rw [filled, checkSets_of_ofSets filled] at failed
      rcases failed with ⟨_, failed⟩ | ⟨_, failed⟩ <;> cases failed
    | some center =>
      rw [misfit] at filled
      obtain ⟨fold, position, uneven⟩ := exists_firstUneven misfit
      refine ⟨fold, position, center, uneven, ?_, filled⟩
      rw [checkSets_eq_error uneven]
      rfl

/-- A set is empty, a later one has a center too many components long behind one that fits, and both
ways stop there. -/
theorem ofCenters_agrees_indexOf_uneven :
    ofCenters [[[1, 0]], [], [[2, 3], [4], [5, 6, 7]]] 8 2 7
        = .error (.misfit (.unevenCenter 1 2 1 2)) ∧
      indexOf ⟨[[[1, 0]], [], [[2, 3], [4], [5, 6, 7]]], []⟩
          (Settings.toConfiguration ⟨"in.json", none, 8, 2, 7, false⟩ 3 2)
        = .error (.wrongDimension 2 1) := by
  have checked : ofCenters [[[1, 0]], [], [[2, 3], [4], [5, 6, 7]]] 8 2 7
      = .error (.misfit (.unevenCenter 1 2 1 2)) := rfl
  obtain ⟨fold, position, center, -, started, filled⟩ :=
    (ofCenters_agrees_indexOf ⟨"in.json", none, 8, 2, 7, false⟩
      ⟨[[[1, 0]], [], [[2, 3], [4], [5, 6, 7]]], []⟩ rfl).2 (by decide) (by decide) (by decide)
      (.inl ⟨_, checked⟩)
  have same := checked.symm.trans started
  have length : center.length = 1 := by
    injection same with same
    injection same with same
    injection same with _ _ length
    exact length.symm
  rw [length] at filled
  exact ⟨checked, filled⟩

end KMeansSeeding.CommandLine
