import FaultConsole.Listing.Detail
import FaultConsole.Terminal.Grid

/-!
# Tables on a terminal

The tables of the dashboard as grids of text. On a terminal there is nothing to click, so a
column with the record's id comes first and the actions are listed by name.
-/

namespace FaultConsole.Terminal

/-- The header of the column with the ids. -/
def idHeader : String := "ID"

/-- Actions by name. -/
def actionNames (actions : List RowAction) : String :=
  ", ".intercalate (actions.map (·.name))

/-- The texts of the row of an experiment, in order, the id first. -/
def experimentCells (table : ExperimentTable) (row : ExperimentRow) : List String :=
  [row.id, row.name, row.kind, row.target, row.status] ++
    (match table with
      | .full => [row.created]
      | .recent => []) ++
    [row.duration, actionNames row.actions]

/-- The texts of the row of a target, in order, the id first. -/
def targetCells (row : TargetRow) : List String :=
  [row.id, row.name, row.kind, row.scope, row.selector, row.created, actionNames row.actions]

/-- The rows of a body: a placeholder is a single cell. -/
def bodyRows {Row : Type} (cells : Row → List String) : TableBody Row → List (List String)
  | .placeholder message _ => [[message]]
  | .rows rows => rows.map cells

/-- A table of experiments. -/
def experimentGrid (zone : Time.Zone) (table : ExperimentTable) (experiments : List Experiment) :
    Grid where
  header := idHeader :: table.headers
  rows := bodyRows (experimentCells table) (table.body zone experiments)

/-- The table of targets. -/
def targetGrid (zone : Time.Zone) (targets : List Target) : Grid where
  header := idHeader :: targetHeaders
  rows := bodyRows targetCells (targetBody zone targets)

/-- Labelled texts, one in a row. -/
def fieldGrid (fields : List LabelledText) : Grid where
  header := ["Field", "Value"]
  rows := fields.map fun (label, text) => [label, text]

end FaultConsole.Terminal
