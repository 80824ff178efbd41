import KMeansSeeding.Point
import KMeansSeeding.Search

/-!
# Weighted centers

Centers leave the index together with weights, one weight per center. A `Tally` is the usual source
of weights: it counts, fold by fold, how often each center was the nearest one.
-/

namespace KMeansSeeding

/-- A center and its weight. -/
structure WeightedPoint where
  point : Point
  weight : Float
  deriving Repr

/-- A weight for each fold and position; none where there is no entry. -/
abbrev WeightSource : Type :=
  (fold position : Nat) → Option Float

/-- Rows of weights, one row per fold. -/
def WeightSource.ofRows (rows : List (List Float)) : WeightSource :=
  fun fold position => rows[fold]? >>= fun row => row[position]?

/-- Pairs the points of a fold with the leading weights of a list. -/
def pairWithWeights (fold : Nat) (points : List Point) (weights : List Float) :
    Except Fault (List WeightedPoint) :=
  if weights.length < points.length then .error (.tooFewWeights fold points.length weights.length)
  else .ok (List.zipWith WeightedPoint.mk points weights)

/-- Pairs the points of a fold with their weights from a source. The first position without a weight
is reported as the number of weights there are. -/
def pairWithSource (fold : Nat) (points : List Point) (source : WeightSource) :
    Except Fault (List WeightedPoint) :=
  points.zipIdx.mapM fun (point, position) =>
    match source fold position with
    | some weight => .ok ⟨point, weight⟩
    | none => .error (.tooFewWeights fold points.length position)

/-- For each fold, how often each center was the nearest one. -/
structure Tally where
  rows : List (List Float)
  deriving Repr

namespace Tally

/-- The table without folds. -/
def empty : Tally :=
  ⟨[]⟩

/-- The table of zeros with one row per fold and one entry per center. -/
def ofCounts (counts : List Nat) : Tally :=
  ⟨counts.map fun count => List.replicate count 0⟩

/-- The number of folds. -/
def folds (tally : Tally) : Nat :=
  tally.rows.length

/-- The entries of one fold. -/
def row? (tally : Tally) (fold : Nat) : Option (List Float) :=
  tally.rows[fold]?

/-- The table as a source of weights. -/
def source (tally : Tally) : WeightSource :=
  .ofRows tally.rows

/-- Whether an outcome of fold `fold` names a center of its row. -/
def covers (fold : Nat) (row : List Float) (nearest : Nearest Float) : Except Fault Unit :=
  match nearest.closest with
  | none => .ok ()
  | some position =>
    if position < row.length then .ok () else .error (.tooFewWeights fold (position + 1) row.length)

/-- Adds a weight to the entry that an outcome names. -/
def credit (weight : Float) (row : List Float) (nearest : Nearest Float) : List Float :=
  match nearest.closest with
  | none => row
  | some position => row.modify position (· + weight)

/-- Accepts outcomes, one per fold, that name centers of their rows. -/
def check (tally : Tally) (outcomes : List (Nearest Float)) : Except Fault Unit := do
  unless outcomes.length = tally.folds do
    throw (.noSuchFold outcomes.length tally.folds)
  (tally.rows.zip outcomes).zipIdx.forM fun ((row, nearest), fold) => covers fold row nearest

/-- The table with a weight added to the entry that each outcome names. -/
def credited (tally : Tally) (outcomes : List (Nearest Float)) (weight : Float) : Tally :=
  ⟨List.zipWith (credit weight) tally.rows outcomes⟩

/-- Adds a weight to the nearest center of every fold. An outcome without a center adds nothing. The
outcomes are all checked before the first entry changes. -/
def recordWeighted (tally : Tally) (outcomes : List (Nearest Float)) (weight : Float) :
    Except Fault Tally :=
  (tally.check outcomes).map fun () => tally.credited outcomes weight

/-- Counts one point. -/
def record (tally : Tally) (outcomes : List (Nearest Float)) : Except Fault Tally :=
  tally.recordWeighted outcomes 1

/-- The end of an operation on a table: its answer, and the table as it is by then. -/
structure Ended where
  answer : Except Fault Unit
  table : Tally

/-- Adds a weight to one entry, which the caller promises to be there. -/
def creditAt (table : Tally) (weight : Float) (fold position : Nat) : Except Breach Tally := do
  let row ← entryAt table.rows fold
  let entry ← entryAt row position
  return ⟨table.rows.set fold (row.set position (entry + weight))⟩

/-- Adds a weight for one numbered outcome after another, each in the table that the last one left. -/
def creditEach (weight : Float) (table : Tally) : List (Nearest Float × Nat) → Ended
  | [] => ⟨.ok (), table⟩
  | (nearest, fold) :: others =>
    match nearest.closest with
    | none => creditEach weight table others
    | some position =>
      match table.creditAt weight fold position with
      | .ok next => creditEach weight next others
      | .error breach => ⟨.error (.breach breach), table⟩

/-- Adds a weight to the nearest center of every fold, in place: entry by entry, and with the table as it
is by then if something goes wrong. -/
def recordInPlace (table : Tally) (outcomes : List (Nearest Float)) (weight : Float) : Ended :=
  match table.check outcomes with
  | .ok () => creditEach weight table outcomes.zipIdx
  | .error fault => ⟨.error fault, table⟩

end Tally

end KMeansSeeding
