import KMeansSeeding.Configuration
import KMeansSeeding.Json.Shape
import KMeansSeeding.Report

/-!
# Documents

Each kind of document has a shape, a value that is written, and the meaning of a value of the shape.
A value that was read in a shape always has a meaning, so reading a document fails only as its shape
does.
-/

namespace KMeansSeeding

open Json (Shape)

/-- A kind of document: what its texts look like and what they mean. -/
structure Document (α : Type) where
  shape : Shape
  encode : α → Json
  decode : Json → Option α

namespace Document

variable {α : Type}

/-- The value of a text. -/
def read (document : Document α) (text : String) : Except Fault α :=
  match document.shape.parse text with
  | .error failure => .error (.unreadable failure)
  | .ok value =>
    match document.decode value with
    | some meaning => .ok meaning
    | none => .error (.unreadable ⟨.expectedValue, none⟩)

/-- The text of a value in one line. -/
def compact (document : Document α) (value : α) : String :=
  (document.encode value).compact

/-- The text of a value over several lines. -/
def indented (document : Document α) (value : α) : String :=
  (document.encode value).indented

/-! ## Building blocks -/

/-- A field that must be there. -/
def required (name : String) (shape : Shape) : String × Shape × Option Json × Option Json :=
  (name, shape, none, none)

/-- A field that another value stands in for. -/
def withDefault (name : String) (shape : Shape) (value : Json) :
    String × Shape × Option Json × Option Json :=
  (name, shape, some value, some value)

/-- A count or a position. -/
def count : Shape :=
  .natural "usize"

/-- A 64-bit word. -/
def word : Shape :=
  .natural "u64"

/-- A single-precision number. -/
def component : Document Float32 where
  shape := .single
  encode := .single
  decode
    | .single value => some value
    | _ => none

/-- A double-precision number. -/
def number : Document Float where
  shape := .double
  encode := .double
  decode
    | .double value => some value
    | _ => none

/-- A list of values of one kind. -/
def listOf (document : Document α) : Document (List α) where
  shape := .list document.shape
  encode values := .list (values.map document.encode)
  decode
    | .list items => items.mapM document.decode
    | _ => none

/-! ## The documents of the index -/

/-- A point is the list of its components. -/
def point : Document Point :=
  listOf component

/-- The fields of an outcome. A distance that is not finite is written as null, and null is read as
infinity; a missing position is null. -/
def nearest : Document (Nearest Float) where
  shape := .record "Distance"
    [required "distance" (.nullable .double),
      ("closest", .nullable count, some .null, none)]
  encode nearest := .record
    [("distance", if nearest.distance.isFinite then .double nearest.distance else .null),
      ("closest", nearest.closest.elim .null .natural)]
  decode
    | .record [(_, distance), (_, closest)] => do
      let distance ← match distance with
        | .null => some Unbounded.infinity
        | .double value => some value
        | _ => none
      let closest ← match closest with
        | .null => some none
        | .natural position => some (some position)
        | _ => none
      return ⟨distance, closest⟩
    | _ => none

/-- A weighted center. -/
def weightedPoint : Document WeightedPoint where
  shape := .record "WeightedVector"
    [required "vector" point.shape, required "weight" .double]
  encode weighted := .record
    [("vector", point.encode weighted.point), ("weight", .double weighted.weight)]
  decode
    | .record [(_, vector), (_, .double weight)] => do
      return ⟨← point.decode vector, weight⟩
    | _ => none

/-- A table of counts. -/
def tally : Document Tally where
  shape := .record "ClosestCenterCounts" [required "counts" (listOf (listOf number)).shape]
  encode tally := .record [("counts", (listOf (listOf number)).encode tally.rows)]
  decode
    | .record [(_, counts)] => (listOf (listOf number)).decode counts |>.map Tally.mk
    | _ => none

/-- A configuration; the usual value stands in for a missing field. -/
def configuration : Document Configuration where
  shape := .record "SketchIndexConfig"
    [withDefault "num_folds" count (.natural Configuration.usual.folds),
      withDefault "dimension" count (.natural Configuration.usual.dimension),
      withDefault "projection_bits" count (.natural Configuration.usual.bits),
      withDefault "projection_samples" count (.natural Configuration.usual.samples),
      withDefault "seed" word (.natural Configuration.usual.seed.toNat),
      withDefault "parallel" .flag (.flag Configuration.usual.parallel)]
  encode configuration := .record
    [("num_folds", .natural configuration.folds),
      ("dimension", .natural configuration.dimension),
      ("projection_bits", .natural configuration.bits),
      ("projection_samples", .natural configuration.samples),
      ("seed", .natural configuration.seed.toNat),
      ("parallel", .flag configuration.parallel)]
  decode
    | .record [(_, .natural folds), (_, .natural dimension), (_, .natural bits),
        (_, .natural samples), (_, .natural seed), (_, .flag parallel)] =>
      some { folds, dimension, bits, samples, seed := .ofNat seed, parallel }
    | _ => none

/-! ## The documents of the command line -/

/-- The report on one point. -/
def pointReport : Document PointReport where
  shape := .record "PointReport"
    [required "point" count, required "distances" (listOf nearest).shape]
  encode report := .record
    [("point", .natural report.point), ("distances", (listOf nearest).encode report.outcomes)]
  decode
    | .record [(_, .natural point), (_, distances)] => do
      return ⟨point, ← (listOf nearest).decode distances⟩
    | _ => none

/-- The report of a query. -/
def queryReport : Document QueryReport where
  shape := .record "QueryReport"
    [required "approximate" .flag, required "rebuilds" word,
      required "points" (listOf pointReport).shape]
  encode report := .record
    [("approximate", .flag report.approximate), ("rebuilds", .natural report.rebuilds),
      ("points", (listOf pointReport).encode report.points)]
  decode
    | .record [(_, .flag approximate), (_, .natural rebuilds), (_, points)] => do
      return ⟨approximate, rebuilds, ← (listOf pointReport).decode points⟩
    | _ => none

/-- The report of the weights. -/
def weightReport : Document WeightReport where
  shape := .record "WeightReport"
    [required "assigned_points" count, required "folds" (listOf (listOf weightedPoint)).shape]
  encode report := .record
    [("assigned_points", .natural report.assigned),
      ("folds", (listOf (listOf weightedPoint)).encode report.folds)]
  decode
    | .record [(_, .natural assigned), (_, folds)] => do
      return ⟨assigned, ← (listOf (listOf weightedPoint)).decode folds⟩
    | _ => none

end Document

namespace Configuration

/-- The configuration of a text, if its sizes are positive. -/
def ofText (text : String) : Except Fault Configuration := do
  let configuration ← Document.configuration.read text
  configuration.check
  return configuration

end Configuration

end KMeansSeeding
