import KMeansSeeding.Fold
import KMeansSeeding.Journal
import KMeansSeeding.Shortlist
import KMeansSeeding.Sketch

/-!
# Nearest-center search in one fold

Both searches score positions in ascending order and keep the first strictly smallest score below
infinity; a score that is not a number is never kept. The exact search scores every position, the
approximate one only a shortlist: the centers whose sketches are nearest to the query's sketch.
-/

namespace KMeansSeeding

/-- Scores have a value that no kept score reaches. -/
class Unbounded (α : Type) where
  infinity : α

instance : Unbounded Float := ⟨Float.ofBits 0x7ff0000000000000⟩

/-- The outcome of a search: the smallest score and the position that has it. -/
structure Nearest (α : Type) where
  /-- Infinite when no position was kept. -/
  distance : α
  closest : Option Nat
  deriving DecidableEq, Repr

namespace Nearest

variable {α : Type}

/-- The outcome of a search that kept nothing. -/
def empty [Unbounded α] : Nearest α :=
  ⟨Unbounded.infinity, none⟩

/-- Whether nothing was kept. -/
def isEmpty (nearest : Nearest α) : Bool :=
  nearest.closest.isNone

/-- Takes a scored position if its score is strictly smaller. -/
def improve [LT α] [DecidableLT α] (best : Nearest α) (scored : Nat × α) : Nearest α :=
  if scored.2 < best.distance then ⟨scored.2, some scored.1⟩ else best

/-- The first strictly smallest of some scored positions. -/
def among [Unbounded α] [LT α] [DecidableLT α] (scores : List (Nat × α)) : Nearest α :=
  scores.foldl improve empty

end Nearest

namespace Fold

variable {κ α : Type} [Widen κ α] [Add α] [Mul α] [Sub α] [OfNat α 0] [OfNat α 2]

/-- The scores of some positions, in order. -/
def scores (fold : Fold κ α) (query : List κ) (queryNorm : α) (positions : List Nat) :
    Except Breach (List (Nat × α)) :=
  positions.mapM fun position => do
    return (position, ← fold.squaredDistance query queryNorm position)

variable [Unbounded α] [LT α] [DecidableLT α]

/-- The nearest of the centers at some positions. -/
def closestAmong (fold : Fold κ α) (query : List κ) (queryNorm : α) (positions : List Nat) :
    Except Breach (Nearest α) :=
  (fold.scores query queryNorm positions).map Nearest.among

/-- The nearest of all centers. -/
def exact (fold : Fold κ α) (query : List κ) (queryNorm : α) : Except Breach (Nearest α) :=
  fold.closestAmong query queryNorm (List.range fold.size)

end Fold

namespace Sketch

/-- The shortlist of at most `samples` of the sketches at positions 0, 1, 2, ... -/
def shortlist (query : Sketch) (sketches : List Sketch) (samples : Nat) : Shortlist :=
  .ofDistances samples (sketches.map query.hamming)

/-- What is recorded when a shortlist is drawn up. -/
def shortlisted (query : Sketch) (sketches : List Sketch) (samples : Nat) : Entry :=
  let kept := (query.shortlist sketches samples).size
  ⟨.trace, s!"Shortlisted {kept} of {sketches.length} candidates"⟩

end Sketch

namespace Fold

variable {κ α : Type}

/-- The promise that there is one sketch per center, all as wide as the query's. -/
def sketched (fold : Fold κ α) (sketches : List Sketch) (querySketch : Sketch) :
    Except Breach Unit := do
  sameLength fold.centers.toList sketches
  sketches.forM fun sketch =>
    if querySketch.width = sketch.width then .ok ()
    else .error (.unequalLengths querySketch.width sketch.width)

variable [Widen κ α] [Add α] [Mul α] [Sub α] [OfNat α 0] [OfNat α 2]
variable [Unbounded α] [LT α] [DecidableLT α]

/-- The nearest of the shortlisted centers. -/
def approximate (fold : Fold κ α) (sketches : List Sketch) (query : List κ) (queryNorm : α)
    (querySketch : Sketch) (samples : Nat) : Except Breach (Nearest α) := do
  fold.sketched sketches querySketch
  fold.closestAmong query queryNorm (querySketch.shortlist sketches samples).positions

end Fold

end KMeansSeeding
