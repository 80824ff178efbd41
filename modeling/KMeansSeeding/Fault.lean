import KMeansSeeding.Breach
import KMeansSeeding.Json.Cursor

/-!
# Why an operation fails

A `Fault` is the cause of a failed operation. Its wording is fixed in one place, `Fault.message`.
-/

namespace KMeansSeeding

/-- What the file system answers instead of a text. -/
inductive FileFault where
  | missing
  | directory
  /-- A path that goes on behind a file. -/
  | notDirectory
  | nameTooLong
  /-- A path with a zero character, which no file can have. -/
  | zeroInName
  | notText
  deriving DecidableEq, Repr

namespace FileFault

/-- The wording of a file fault. -/
def message : FileFault → String
  | .missing => "No such file or directory (os error 2)"
  | .directory => "Is a directory (os error 21)"
  | .notDirectory => "Not a directory (os error 20)"
  | .nameTooLong => "File name too long (os error 36)"
  | .zeroInName => "file name contained an unexpected NUL byte"
  | .notText => "stream did not contain valid UTF-8"

end FileFault

/-- Why a configuration, or the centers for an index, are not acceptable. -/
inductive Misfit where
  | noFolds
  | noDimension
  | noBits
  | noSamples
  | noCenterSet
  | emptyFirstSet
  /-- A center of another dimension than the first one. -/
  | unevenCenter (position fold dimension expected : Nat)
  /-- As many folds as the configuration says, but not as many center sets. -/
  | foldCount (configured given : Nat)
  /-- A reason stated by a caller. -/
  | stated (reason : String)
  deriving DecidableEq, Repr

namespace Misfit

/-- The wording of a misfit. -/
def message : Misfit → String
  | .noFolds => "num_folds must be > 0"
  | .noDimension => "dimension must be > 0"
  | .noBits => "projection_bits must be > 0"
  | .noSamples => "projection_samples must be > 0"
  | .noCenterSet => "at least one center set is required"
  | .emptyFirstSet => "the first center set is empty"
  | .unevenCenter position fold dimension expected =>
    s!"center {position} of set {fold} has dimension {dimension}, expected {expected}"
  | .foldCount configured given =>
    s!"configuration has {configured} folds but the input has {given} center sets"
  | .stated reason => reason

end Misfit

/-- Why an operation fails. -/
inductive Fault where
  /-- A point of another dimension than the index. -/
  | wrongDimension (expected actual : Nat)
  /-- A fold that does not exist. -/
  | noSuchFold (fold folds : Nat)
  /-- A fold with more centers than weights, or a count for a center that is not in the table. -/
  | tooFewWeights (fold expected actual : Nat)
  | misfit (reason : Misfit)
  | file (fault : FileFault)
  | unreadable (failure : Json.Failure)
  | breach (broken : Breach)
  deriving Repr

namespace Fault

/-- The fault that this one wraps, in its own words. -/
def inner? : Fault → Option String
  | .file fault => some fault.message
  | .unreadable failure => some failure.message
  | _ => none

/-- The wording of a fault. -/
def message : Fault → String
  | .wrongDimension expected actual => s!"Dimension mismatch: expected {expected}, got {actual}"
  | .noSuchFold fold folds => s!"Fold index {fold} out of range for {folds} folds"
  | .tooFewWeights fold expected actual =>
    s!"Weight count mismatch for fold {fold}: expected at least {expected}, got {actual}"
  | .misfit reason => s!"Invalid configuration: {reason.message}"
  | .file fault => s!"I/O error: {fault.message}"
  | .unreadable failure => s!"JSON error: {failure.message}"
  | .breach broken => broken.message

end Fault

/-- A broken promise is a fault of the operation that contains the call. -/
def orBreach {α : Type} : Except Breach α → Except Fault α
  | .ok value => .ok value
  | .error breach => .error (.breach breach)

end KMeansSeeding
