import KMeansSeeding.Fault

/-!
# Configurations

A configuration fixes the size of an index and how its sketches are made. All sizes must be
positive; `check` names the first one that is not.
-/

namespace KMeansSeeding

/-- What an index is built from. -/
structure Configuration where
  /-- The number of candidate-center sets. -/
  folds : Nat
  /-- The dimension of every point. -/
  dimension : Nat
  /-- The number of random directions, which is the width of the sketches. -/
  bits : Nat
  /-- The size of a shortlist. -/
  samples : Nat
  /-- The seed of the random directions. -/
  seed : UInt64
  /-- Whether folds may be sketched and searched at the same time. No answer depends on it. -/
  parallel : Bool
  deriving DecidableEq, Repr

namespace Configuration

/-- The usual configuration of a number of folds and a dimension. -/
def ofShape (folds dimension : Nat) : Configuration :=
  { folds, dimension, bits := 64, samples := 16, seed := 42, parallel := true }

/-- The configuration that stands in for missing fields. -/
def usual : Configuration :=
  ofShape 1 128

/-- Accepts a configuration whose sizes are all positive. -/
def check (configuration : Configuration) : Except Fault Unit :=
  if configuration.folds = 0 then .error (.misfit .noFolds)
  else if configuration.dimension = 0 then .error (.misfit .noDimension)
  else if configuration.bits = 0 then .error (.misfit .noBits)
  else if configuration.samples = 0 then .error (.misfit .noSamples)
  else .ok ()

/-- All sizes are positive. -/
def Sound (configuration : Configuration) : Prop :=
  0 < configuration.folds ∧ 0 < configuration.dimension ∧ 0 < configuration.bits ∧
    0 < configuration.samples

theorem check_eq_ok_iff {configuration : Configuration} :
    configuration.check = .ok () ↔ configuration.Sound := by
  unfold check Sound
  repeat' split
  all_goals simp_all <;> omega

end Configuration

end KMeansSeeding
