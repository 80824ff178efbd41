import KMeansSeeding.Index.Basic
import KMeansSeeding.Weights

/-!
# Weighted centers of an index

The centers of an index leave it fold by fold, each with its weight.
-/

namespace KMeansSeeding.Index

/-- The points of one fold with the leading weights of a list. -/
def weightedFold (index : Index) (fold : Nat) (weights : List Float) :
    Except Fault (List WeightedPoint) := do
  pairWithWeights fold (← index.points fold) weights

/-- All points with their weights from a source. -/
def weighted (index : Index) (source : WeightSource) : Except Fault (List (List WeightedPoint)) :=
  index.folds.zipIdx.mapM fun (store, fold) => pairWithSource fold store.points source

end KMeansSeeding.Index
