import KMeansSeeding.Kernel

/-!
# Folds of candidate centers

A fold is a growing list of centers; a center's position in insertion order is its name. Each center
keeps its squared norm, so the squared distance of a query to it costs one dot product:
`|q|² + |p|² - 2 q·p`.
-/

namespace KMeansSeeding

/-- A stored point and its squared norm. -/
structure Center (κ α : Type) where
  point : List κ
  norm : α
  deriving Repr

/-- Candidate centers in insertion order. -/
structure Fold (κ α : Type) where
  centers : Array (Center κ α)
  deriving Repr

namespace Fold

variable {κ α : Type}

/-- A fold without centers. -/
def empty : Fold κ α :=
  ⟨#[]⟩

/-- The number of centers. -/
def size (fold : Fold κ α) : Nat :=
  fold.centers.size

/-- The stored points in insertion order. -/
def points (fold : Fold κ α) : List (List κ) :=
  fold.centers.toList.map (·.point)

/-- The squared norms in insertion order. -/
def norms (fold : Fold κ α) : List α :=
  fold.centers.toList.map (·.norm)

variable [Widen κ α] [Add α] [Mul α] [OfNat α 0]

/-- Appends a point. -/
def push (fold : Fold κ α) (point : List κ) : Fold κ α :=
  ⟨fold.centers.push ⟨point, squaredNorm point⟩⟩

/-- The fold of some points in order. -/
def ofPoints (points : List (List κ)) : Fold κ α :=
  points.foldl push empty

/-- The squared distance of a query, given with its squared norm, to the center at `position`. -/
def squaredDistance [Sub α] [OfNat α 2] (fold : Fold κ α) (query : List κ) (queryNorm : α)
    (position : Nat) : Except Breach α :=
  match fold.centers[position]? with
  | none => .error (.beyondEnd fold.size position)
  | some center =>
    (wideDot center.point query).map fun product => queryNorm + center.norm - 2 * product

omit [Add α] [Mul α] [OfNat α 0] [Widen κ α] in
@[simp] theorem points_empty : (empty : Fold κ α).points = [] := rfl

omit [Add α] [Mul α] [OfNat α 0] [Widen κ α] in
@[simp] theorem length_points (fold : Fold κ α) : fold.points.length = fold.size := by
  simp [points, size]

@[simp] theorem points_push (fold : Fold κ α) (point : List κ) :
    (fold.push point).points = fold.points ++ [point] := by
  simp [points, push]

@[simp] theorem norms_push (fold : Fold κ α) (point : List κ) :
    (fold.push point).norms = fold.norms ++ [squaredNorm point] := by
  simp [norms, push]

end Fold

end KMeansSeeding
