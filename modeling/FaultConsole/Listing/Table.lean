import FaultConsole.Listing.Badge
import FaultConsole.Listing.RowAction
import FaultConsole.Model.Experiment
import FaultConsole.Model.Target

/-!
# Tables of records

A table is a list of headers and a body. The body holds one row for each record, newest first,
or, for an empty list, one placeholder as wide as the headers. Rows are plain data: whoever draws
a table, in a browser or on a terminal, decides how a row's cells look, and has to put them in
the order of the headers.
-/

namespace FaultConsole

/-- How many rows the table of recent experiments has at most. -/
def recentLimit : Nat := 5

/-- What an empty table of experiments says. -/
def noExperiments : String := "No experiments found"

/-- What an empty table of targets says. -/
def noTargets : String := "No targets found"

/-- What an empty table says while its first load is out. -/
def loadingMessage : String := "Loading..."

/-- The records from the newest to the oldest; records of the same instant keep their order. -/
def newestFirst {α : Type} (createdAt : α → Time.Instant) (items : List α) : List α :=
  items.mergeSort fun a b => (createdAt b).le (createdAt a)

/-- A duration in seconds. -/
def durationText (seconds : Nat) : String := toString seconds ++ "s"

/-- The body of a table. -/
inductive TableBody (Row : Type) where
  /-- One row that says why there are no others. -/
  | placeholder (message : String) (colspan : Nat)
  | rows (rows : List Row)
deriving Repr

namespace TableBody

/-- The number of rows drawn. -/
def rowCount {Row : Type} : TableBody Row → Nat
  | placeholder _ _ => 1
  | rows rs => rs.length

/-- The rows of records. -/
def recordRows {Row : Type} : TableBody Row → List Row
  | placeholder _ _ => []
  | rows rs => rs

/-- The same body, where an empty one says that the first load is out. -/
def orLoading {Row : Type} (awaiting : Bool) : TableBody Row → TableBody Row
  | placeholder message colspan =>
    placeholder (if awaiting then loadingMessage else message) colspan
  | rows rs => rows rs

/-- The body for some rows. -/
def ofRows {Row : Type} (message : String) (colspan : Nat) : List Row → TableBody Row
  | [] => placeholder message colspan
  | r :: rs => rows (r :: rs)

end TableBody

/-! ## Experiments -/

/-- The headers of a table, in order: only the full one shows when an experiment was created. -/
def ExperimentTable.headers : ExperimentTable → List String
  | recent => ["Name", "Type", "Target", "Status", "Duration", "Actions"]
  | full => ["Name", "Type", "Target", "Status", "Created", "Duration", "Actions"]

/-- A row of a table of experiments. -/
structure ExperimentRow where
  id : String
  name : String
  kind : String
  target : String
  status : String
  badge : Badge
  created : String
  duration : String
  actions : List RowAction
deriving Repr, DecidableEq

/-- The row of an experiment, for a viewer in a zone. -/
def Experiment.row (zone : Time.Zone) (table : ExperimentTable) (e : Experiment) : ExperimentRow where
  id := e.id
  name := e.name
  kind := e.kind.name
  target := e.target
  status := e.status.name
  badge := .ofStatus e.status
  created := e.createdAt.shortText zone
  duration := durationText e.duration
  actions := table.actions e.status

/-- The experiments a table shows, in order. -/
def ExperimentTable.select (table : ExperimentTable) (experiments : List Experiment) :
    List Experiment :=
  let sorted := newestFirst (·.createdAt) experiments
  match table with
  | recent => sorted.take recentLimit
  | full => sorted

/-- The body of a table of experiments. -/
def ExperimentTable.body (zone : Time.Zone) (table : ExperimentTable) (experiments : List Experiment) :
    TableBody ExperimentRow :=
  .ofRows noExperiments table.headers.length
    ((table.select experiments).map (·.row zone table))

/-! ## Targets -/

/-- The headers of the table of targets, in order. -/
def targetHeaders : List String := ["Name", "Type", "Namespace", "Selector", "Created", "Actions"]

/-- A row of the table of targets. -/
structure TargetRow where
  id : String
  name : String
  kind : String
  scope : String
  selector : String
  created : String
  actions : List RowAction
deriving Repr, DecidableEq

/-- The row of a target, for a viewer in a zone. -/
def Target.row (zone : Time.Zone) (t : Target) : TargetRow where
  id := t.id
  name := t.name
  kind := t.kind
  scope := t.scope
  selector := t.selector
  created := t.createdAt.shortText zone
  actions := targetActions

/-- The body of the table of targets. -/
def targetBody (zone : Time.Zone) (targets : List Target) : TableBody TargetRow :=
  .ofRows noTargets targetHeaders.length
    ((newestFirst (·.createdAt) targets).map (·.row zone))

end FaultConsole
