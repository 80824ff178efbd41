import KMeansSeeding.Index.Basic

/-!
# Rebuilds and queries

A query checks its arguments first. An approximate one then makes a stale index fresh, and only
after that the search starts, so a refused query changes nothing and a run of queries rebuilds at
most once.

Folds do not depend on each other. If the configuration permits it and there is enough to do, each is
sketched or searched by a task of its own, and what the tasks give is collected in the order of the folds.
That is what one fold after another gives (`sketchFolds_eq_mapM`, `searchFolds_eq_mapM`).
-/

namespace KMeansSeeding

/-- Starts a task for each item and waits for them in order. If tasks break a promise, the breach is that
of the first of them. -/
def fanOut {α β : Type} (operation : α → Except Breach β) (items : List α) :
    Except Breach (List β) :=
  (items.map fun item => Task.spawn fun _ => operation item).mapM Task.get

theorem fanOut_eq_mapM {α β : Type} (operation : α → Except Breach β) (items : List α) :
    fanOut operation items = items.mapM operation := by
  -- waiting for a task is running it
  rw [fanOut, List.mapM_map]
  rfl

namespace Index

/-- A rebuild with more points than these fans out. -/
def pointThreshold : Nat :=
  1000

/-- A search of as many folds as these, or more, fans out. -/
def foldThreshold : Nat :=
  8

/-- The random directions: those of an earlier rebuild, else those of the seed. -/
def directions (index : Index) : Projection Float32 :=
  index.projection.getD
    (.generate index.dimension index.configuration.bits index.configuration.seed)

/-- What is recorded before a rebuild: the random directions, if they are generated. -/
def generated (index : Index) : List Entry :=
  match index.projection with
  | some _ => []
  | none => [Projection.generated index.dimension index.configuration.bits index.configuration.seed]

/-- What is recorded after a rebuild. -/
def rebuilt (index : Index) : Entry :=
  ⟨.debug, s!"Rebuilt sketches for {index.size} folds ({index.total} points)"⟩

/-- The sketches of the points of a fold. -/
def sketchFold (projection : Projection Float32) (fold : Fold Float32 Float) :
    Except Breach (List Sketch) :=
  fold.points.mapM projection.sketch

/-- The sketches of the points of all folds. -/
def sketchFolds (index : Index) (projection : Projection Float32) :
    Except Breach (List (List Sketch)) :=
  if index.configuration.parallel ∧ pointThreshold < index.total then
    fanOut (sketchFold projection) index.folds
  else
    index.folds.mapM (sketchFold projection)

theorem sketchFolds_eq_mapM (index : Index) (projection : Projection Float32) :
    index.sketchFolds projection = index.folds.mapM fun fold => fold.points.mapM projection.sketch := by
  rw [sketchFolds, fanOut_eq_mapM, ite_self]
  rfl

/-- Makes all sketches anew. -/
def rebuild (index : Index) : Step Unit :=
  let projection := index.directions
  match index.sketchFolds projection with
  | .error breach => ⟨.error (.breach breach), index, index.generated⟩
  | .ok sketches =>
    { answer := .ok ()
      index := { index with
        sketches, projection := some projection, freshness := .fresh,
        rebuilds := index.rebuilds + 1 }
      log := index.generated ++ [index.rebuilt] }

/-- Makes a stale index fresh if an approximate search is to follow. -/
def prepare (index : Index) (approximate : Bool) : Step Unit :=
  if approximate ∧ index.freshness = .stale then index.rebuild else .done () index

/-- The nearest center of a fold. The search is approximate if that is wanted and there are random
directions; the sketches must then be current. -/
def search (index : Index) (query : Point) (approximate : Bool) (fold : Nat) :
    Except Breach (Nearest Float) := do
  let store ← entryAt index.folds fold
  match index.projection, approximate with
  | some projection, true =>
    if index.freshness = .stale then throw .staleSketches
    let sketches ← entryAt index.sketches fold
    let querySketch ← projection.sketch query
    store.approximate sketches query query.norm querySketch index.configuration.samples
  | _, _ => store.exact query query.norm

/-- What is recorded about a search. -/
def searched (index : Index) (query : Point) (approximate : Bool) (fold : Nat) : List Entry :=
  match index.projection, approximate, index.sketches[fold]? with
  | some projection, true, some sketches =>
    match projection.sketch query with
    | .ok querySketch => [querySketch.shortlisted sketches index.configuration.samples]
    | .error _ => []
  | _, _, _ => []

/-- The nearest center of one fold. The fold is checked before the point. -/
def distance (index : Index) (query : Point) (fold : Nat) (approximate : Bool) :
    Step (Nearest Float) :=
  match index.checkFold fold, query.check index.dimension with
  | .error fault, _ => .refuse fault index
  | .ok _, .error fault => .refuse fault index
  | .ok _, .ok _ =>
    (index.prepare approximate).andThen fun _ index =>
      ⟨orBreach (index.search query approximate fold), index, index.searched query approximate fold⟩

/-- The nearest center of every fold, in fold order. -/
def searchFolds (index : Index) (query : Point) (approximate : Bool) :
    Except Breach (List (Nearest Float)) :=
  if index.configuration.parallel ∧ foldThreshold ≤ index.size then
    fanOut (index.search query approximate) (List.range index.size)
  else
    (List.range index.size).mapM (index.search query approximate)

theorem searchFolds_eq_mapM (index : Index) (query : Point) (approximate : Bool) :
    index.searchFolds query approximate
      = (List.range index.size).mapM (index.search query approximate) := by
  rw [searchFolds, fanOut_eq_mapM, ite_self]

/-- The nearest center of every fold, in fold order. What is recorded stands in fold order too; tasks may
record it in any other. -/
def distances (index : Index) (query : Point) (approximate : Bool) : Step (List (Nearest Float)) :=
  match query.check index.dimension with
  | .error fault => .refuse fault index
  | .ok _ =>
    (index.prepare approximate).andThen fun _ index =>
      { answer := orBreach (index.searchFolds query approximate)
        index
        log := (List.range index.size).flatMap (index.searched query approximate) }

end Index

end KMeansSeeding
