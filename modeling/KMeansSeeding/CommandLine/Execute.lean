import KMeansSeeding.CommandLine.Files
import KMeansSeeding.CommandLine.Invocation
import KMeansSeeding.Document
import KMeansSeeding.Index.Query
import KMeansSeeding.Index.Weighted

/-!
# Executing a command

A command reads a file of center sets and points, builds the index and answers with a report. Files
are given as a function from names to texts, so executing a command is a computation without
effects.
-/

namespace KMeansSeeding.CommandLine

/-- An answer and what was recorded on the way to it. -/
structure Outcome (α : Type) where
  answer : Except Fault α
  log : List Entry

namespace Outcome

variable {α β : Type}

/-- An answer without records. -/
def ofAnswer (answer : Except Fault α) : Outcome α :=
  ⟨answer, []⟩

/-- Goes on from an outcome that did not fail. -/
def andThen (outcome : Outcome α) (next : α → Outcome β) : Outcome β :=
  match outcome.answer with
  | .ok answer =>
    let after := next answer
    { after with log := outcome.log ++ after.log }
  | .error fault => ⟨.error fault, outcome.log⟩

/-- Adds a record in front. -/
def after (entry : Entry) (outcome : Outcome α) : Outcome α :=
  { outcome with log := entry :: outcome.log }

end Outcome

/-! ## Input -/

/-- The center sets, one per fold, and the points of a command. -/
structure Workload where
  centers : List (List Point)
  points : List Point
  deriving Repr

/-- The document of a workload; points may be missing. -/
def Workload.document : Document Workload where
  shape := .record "SeedingInput"
    [Document.required "centers" (Document.listOf (Document.listOf Document.point)).shape,
      Document.withDefault "points" (Document.listOf Document.point).shape (.list [])]
  encode workload := .record
    [("centers", (Document.listOf (Document.listOf Document.point)).encode workload.centers),
      ("points", (Document.listOf Document.point).encode workload.points)]
  decode
    | .record [(_, centers), (_, points)] => do
      return ⟨← (Document.listOf (Document.listOf Document.point)).decode centers,
        ← (Document.listOf Document.point).decode points⟩
    | _ => none

/-- The document of a format. -/
def formatDocument : Document Format where
  shape := .choice ["human", "json"]
  encode format := .text format.name
  decode
    | .text name => Format.ofName? name
    | _ => none

/-! ## Building the index -/

/-- The index of a configuration, which must have one fold per center set. -/
def indexOf (workload : Workload) (configuration : Configuration) : Except Fault Index :=
  if configuration.folds = workload.centers.length then
    Index.ofSets configuration workload.centers
  else .error (.misfit (.foldCount configuration.folds workload.centers.length))

/-- The configuration in a file. -/
def loadConfiguration (files : Files) (name : String) : Except Fault Configuration := do
  Configuration.ofText (← files.read name)

/-- The index of a workload: with the configuration of a file if one is given, else with the numbers
of the settings. -/
def buildIndex (files : Files) (settings : Settings) (workload : Workload) : Outcome Index :=
  match settings.configuration with
  | some name =>
    .after ⟨.info, s!"Loading index configuration from {name}"⟩ <|
      .ofAnswer (do indexOf workload (← loadConfiguration files name))
  | none =>
    .ofAnswer (Index.ofCenters workload.centers settings.bits settings.samples settings.seed)

/-! ## Commands -/

/-- The nearest centers of some points, numbered from `number` on. -/
def queryPoints (approximate : Bool) : (number : Nat) → List Point → Index → Step (List PointReport)
  | _, [], index => .done [] index
  | number, point :: points, index =>
    (index.distances point approximate).andThen fun outcomes index =>
      (queryPoints approximate (number + 1) points index).map (⟨number, outcomes⟩ :: ·)

/-- What is recorded after a query. The time it took is not part of the record. -/
def queried (points folds : Nat) : Entry :=
  ⟨.info, s!"Queried {points} points against {folds} folds in TIME"⟩

/-- The nearest centers of all points. -/
def runQuery (files : Files) (settings : Settings) (workload : Workload) : Outcome QueryReport :=
  (buildIndex files settings workload).andThen fun index =>
    let approximate := !settings.exact
    let step := queryPoints approximate 0 workload.points index
    match step.answer with
    | .ok points =>
      { answer := .ok ⟨approximate, step.index.rebuilds, points⟩
        log := step.log ++ [queried points.length step.index.size] }
    | .error fault => ⟨.error fault, step.log⟩

/-- Counts the nearest centers of some points. -/
def tallyPoints (approximate : Bool) : List Point → Tally → Index → Step Tally
  | [], tally, index => .done tally index
  | point :: points, tally, index =>
    (index.distances point approximate).andThen fun outcomes index =>
      match tally.record outcomes with
      | .ok tally => tallyPoints approximate points tally index
      | .error fault => .refuse fault index

/-- All centers with the number of points that are nearest to them. -/
def runWeights (files : Files) (settings : Settings) (workload : Workload) : Outcome WeightReport :=
  (buildIndex files settings workload).andThen fun index =>
    let step := tallyPoints (!settings.exact) workload.points (.ofCounts index.counts) index
    { answer := do
        let tally ← step.answer
        return ⟨workload.points.length, ← step.index.weighted tally.source⟩
      log := step.log }

/-! ## Output -/

/-- The text of a report: in the human format a headline, unless quiet, and the lines; in the other
format the document. -/
def present {α : Type} (document : Document α) (lines : α → List String) (headline : String)
    (invocation : Invocation) (report : α) : String :=
  let shown :=
    match invocation.format with
    | .human =>
      (if 0 < invocation.verbosity then [headline, ""] else []) ++ lines report
    | .json =>
      [if invocation.pretty then document.indented report else document.compact report]
  String.join (shown.map (· ++ "\n"))

/-- Executes a command; answers with the text for the standard output. -/
def execute (files : Files) (invocation : Invocation) : Outcome String :=
  let settings := invocation.settings
  (Outcome.ofAnswer (do Workload.document.read (← files.read settings.input))).andThen
    fun workload =>
      match invocation.command with
      | .query =>
        (runQuery files settings workload).andThen fun report =>
          .ofAnswer (.ok (present Document.queryReport QueryReport.lines
            "Closest centers per fold" invocation report))
      | .weights =>
        (runWeights files settings workload).andThen fun report =>
          .ofAnswer (.ok (present Document.weightReport WeightReport.lines
            "Weighted centers per fold" invocation report))

end KMeansSeeding.CommandLine
