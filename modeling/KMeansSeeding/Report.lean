import KMeansSeeding.Search
import KMeansSeeding.Weights

/-!
# Reports

A report is what a command answers. It has a text for people, one line per fact; its document form
is defined beside the other documents.
-/

namespace KMeansSeeding

/-- The nearest center of every fold for one point. -/
structure PointReport where
  /-- The number of the point in its list. -/
  point : Nat
  outcomes : List (Nearest Float)
  deriving Repr

/-- The nearest centers of a list of points. -/
structure QueryReport where
  approximate : Bool
  /-- How often the index had been rebuilt in the end. -/
  rebuilds : Nat
  points : List PointReport
  deriving Repr

/-- All centers with the number of points that are nearest to them. -/
structure WeightReport where
  /-- The number of points. -/
  assigned : Nat
  folds : List (List WeightedPoint)
  deriving Repr

/-! ## Text -/

/-- A weight has no exponent and no `.0`. -/
def weightStyle : NumberStyle :=
  ⟨none, false, false, .up⟩

/-- A component has an exponent from `1e16` up and below `1e-4`, without a plus sign. -/
def componentStyle : NumberStyle :=
  ⟨some (-4, 15), true, false, .up⟩

namespace Point

/-- The components in brackets. -/
def text (point : Point) : String :=
  "[" ++ ", ".intercalate (point.map componentStyle.ofSingle) ++ "]"

end Point

namespace Nearest

/-- The line of an outcome. -/
def line (nearest : Nearest Float) (point fold : Nat) : String :=
  match nearest.closest with
  | some closest =>
    let distance := fixedPlaces 6 nearest.distance
    s!"point {point} fold {fold}: center {closest} (squared distance {distance})"
  | none => s!"point {point} fold {fold}: empty"

end Nearest

namespace PointReport

/-- One line per fold. -/
def lines (report : PointReport) : List String :=
  report.outcomes.zipIdx.map fun (nearest, fold) => nearest.line report.point fold

end PointReport

namespace QueryReport

/-- The mode, then one line per point and fold. -/
def lines (report : QueryReport) : List String :=
  let mode := if report.approximate then "approximate" else "exact"
  s!"mode: {mode} ({report.rebuilds} rebuilds)" :: report.points.flatMap PointReport.lines

end QueryReport

namespace WeightReport

/-- The line of a weighted center. -/
def line (fold : Nat) (weighted : WeightedPoint) (position : Nat) : String :=
  let weight := weightStyle.ofDouble weighted.weight
  s!"fold {fold} center {position}: weight {weight} {weighted.point.text}"

/-- The number of points, then one line per center. -/
def lines (report : WeightReport) : List String :=
  s!"assigned points: {report.assigned}" ::
    report.folds.zipIdx.flatMap fun (weighted, fold) =>
      weighted.zipIdx.map fun (center, position) => line fold center position

end WeightReport

end KMeansSeeding
