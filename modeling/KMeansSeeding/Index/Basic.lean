import KMeansSeeding.Configuration
import KMeansSeeding.Point
import KMeansSeeding.Projection
import KMeansSeeding.Search

/-!
# The index of candidate centers

An index has one fold of candidate centers per sampling trial. Centers are only ever added. The
sketches behind approximate search are made on demand: adding a center makes the index stale, and
the next approximate query makes all sketches anew.

Operations are functions from an index to a `Step`: an answer, the index afterwards, and what the
operation recorded. A step that fails leaves the index as it was.
-/

namespace KMeansSeeding

/-- Whether the sketches reflect the stored points. -/
inductive Freshness where
  /-- A point was added since the sketches were made, or there are none yet. -/
  | stale
  /-- There is one sketch per stored point. -/
  | fresh
  deriving DecidableEq, Repr

/-- Candidate centers in folds, with their sketches. -/
structure Index where
  configuration : Configuration
  folds : List (Fold Float32 Float)
  /-- For each fold the sketches of its points, as of the last rebuild. -/
  sketches : List (List Sketch)
  /-- The random directions, once a rebuild has generated them. -/
  projection : Option (Projection Float32)
  freshness : Freshness
  /-- How often the sketches have been made: a natural number in place of a counter of 64 bits. -/
  rebuilds : Nat
  deriving Repr

/-- What an operation on an index leads to. -/
structure Step (α : Type) where
  answer : Except Fault α
  index : Index
  log : List Entry

namespace Step

variable {α β : Type}

/-- An answer that changes nothing. -/
def done (answer : α) (index : Index) : Step α :=
  ⟨.ok answer, index, []⟩

/-- A failure that changes nothing. -/
def refuse (fault : Fault) (index : Index) : Step α :=
  ⟨.error fault, index, []⟩

/-- Goes on from the index of a step that did not fail. -/
def andThen (step : Step α) (next : α → Index → Step β) : Step β :=
  match step.answer with
  | .ok answer =>
    let after := next answer step.index
    { after with log := step.log ++ after.log }
  | .error fault => ⟨.error fault, step.index, step.log⟩

/-- Changes the answer of a step that did not fail. -/
def map (change : α → β) (step : Step α) : Step β :=
  ⟨step.answer.map change, step.index, step.log⟩

end Step

namespace Index

/-- The number of folds. -/
def size (index : Index) : Nat :=
  index.folds.length

/-- The dimension of every point. -/
def dimension (index : Index) : Nat :=
  index.configuration.dimension

/-- The number of centers in each fold. -/
def counts (index : Index) : List Nat :=
  index.folds.map Fold.size

/-- The number of all centers. -/
def total (index : Index) : Nat :=
  index.counts.foldr (· + ·) 0

/-- Accepts the number of a fold. -/
def checkFold (index : Index) (fold : Nat) : Except Fault Unit :=
  if fold < index.size then .ok () else .error (.noSuchFold fold index.size)

/-- The fold of a number. -/
def fold (index : Index) (fold : Nat) : Except Fault (Fold Float32 Float) :=
  match index.folds[fold]? with
  | some found => .ok found
  | none => .error (.noSuchFold fold index.size)

/-- The points of a fold in insertion order. -/
def points (index : Index) (fold : Nat) : Except Fault (List Point) :=
  (index.fold fold).map Fold.points

/-- The sketches of a fold, unless the index is stale. -/
def currentSketches (index : Index) (fold : Nat) : Except Fault (Option (List Sketch)) :=
  (index.checkFold fold).map fun _ =>
    match index.freshness with
    | .fresh => index.sketches[fold]?
    | .stale => none

/-- An index of empty folds. -/
def create (configuration : Configuration) : Except Fault Index :=
  configuration.check.map fun _ =>
    { configuration
      folds := List.replicate configuration.folds .empty
      sketches := List.replicate configuration.folds []
      projection := none
      freshness := .stale
      rebuilds := 0 }

/-- Appends a point to a fold. The fold is checked before the point. -/
def add (index : Index) (point : Point) (fold : Nat) : Step Unit :=
  match index.checkFold fold, point.check index.dimension with
  | .error fault, _ => .refuse fault index
  | .ok _, .error fault => .refuse fault index
  | .ok _, .ok _ =>
    .done () { index with
      folds := index.folds.modify fold (·.push point)
      freshness := .stale }

/-- Adds points, each to its fold, up to the first that is refused. -/
def addAll (index : Index) : List (Point × Nat) → Step Unit
  | [] => .done () index
  | (point, fold) :: others =>
    (index.add point fold).andThen fun _ index => index.addAll others

/-- The centers of some sets, each with the number of its set. -/
def placed (sets : List (List Point)) : List (Point × Nat) :=
  sets.zipIdx.flatMap fun (set, fold) => set.map (·, fold)

/-- The index of a configuration, filled with one set of centers per fold. -/
def ofSets (configuration : Configuration) (sets : List (List Point)) : Except Fault Index := do
  let filled := (← create configuration).addAll (placed sets)
  let _ ← filled.answer
  return filled.index

/-- Accepts the centers of a set if all have the given dimension. -/
def checkSet (dimension fold : Nat) (set : List Point) : Except Fault Unit :=
  set.zipIdx.forM fun (center, position) =>
    if center.length = dimension then .ok ()
    else .error (.misfit (.unevenCenter position fold center.length dimension))

/-- The index of some center sets, one fold per set. The first center of the first set gives the
dimension, and all others must have it. -/
def ofCenters (sets : List (List Point)) (bits samples : Nat) (seed : UInt64) :
    Except Fault Index :=
  match sets with
  | [] => .error (.misfit .noCenterSet)
  | [] :: _ => .error (.misfit .emptyFirstSet)
  | (first :: _) :: _ => do
    sets.zipIdx.forM fun (set, fold) => checkSet first.length fold set
    ofSets { Configuration.ofShape sets.length first.length with bits, samples, seed } sets

end Index

end KMeansSeeding
