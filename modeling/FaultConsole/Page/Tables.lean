import FaultConsole.Listing.Table
import FaultConsole.Outcome.Panel
import FaultConsole.Page.Markup

/-!
# Tables on the page

A table of the page has the headers of its table of records, and below them one cell for each in
every row. The controls of a row carry the name of their action and the row's id. While rows are
on screen and are being loaded again, a bar above them says so.
-/

namespace FaultConsole.Page

open Markup (box line icon)

/-- The class of a header. -/
def headerStyle : String := "px-6 py-4 font-semibold text-slate-300"

/-- The class of a cell without emphasis. -/
def cellStyle : String := "px-6 py-4 text-slate-400 text-sm"

/-- The class of a badge. -/
def badgeStyle : Badge → String
  | .secondary => "bg-slate-700 text-slate-300"
  | .primary => "bg-blue-600/20 text-blue-400"
  | .success => "bg-green-600/20 text-green-400"
  | .danger => "bg-red-600/20 text-red-400"

/-- A status in its colour. -/
def statusBadge (badge : Badge) (status : String) : Markup :=
  line "span" ("px-2 py-0.5 rounded text-xs font-medium " ++ badgeStyle badge) status

/-- The title, the class and the drawing of an action's control. -/
def actionLook : RowAction → String × String × String
  | .view => ("View", "hover:text-blue-400", "Eye")
  | .execute => ("Execute", "hover:text-green-400", "Play")
  | .stop => ("Stop", "hover:text-amber-400", "Square")
  | .delete => ("Delete", "hover:text-red-400", "Trash2")

/-- The control for an action on the record with an id. -/
def actionControl (id : String) (action : RowAction) : Markup :=
  let (title, style, drawing) := actionLook action
  .element "button"
    [.value "title" title, .value "data-action" action.name, .value "data-id" id]
    ("p-1.5 rounded-lg text-slate-500 hover:bg-slate-800 transition-colors " ++ style)
    [icon drawing 16]

/-- The cell with the controls of a row. -/
def actionsCell (id : String) (actions : List RowAction) : Markup :=
  box "td" "px-6 py-4" [box "div" "flex space-x-1" (actions.map (actionControl id))]

/-- The cells of the row of an experiment, in order. -/
def experimentCells (table : ExperimentTable) (row : ExperimentRow) : List Markup :=
  [line "td" "px-6 py-4 font-medium text-slate-100" row.name,
    line "td" cellStyle row.kind,
    line "td" "px-6 py-4 text-slate-400 text-sm font-mono" row.target,
    box "td" "px-6 py-4" [statusBadge row.badge row.status]] ++
    (match table with
      | .full => [line "td" cellStyle row.created]
      | .recent => []) ++
    [line "td" "px-6 py-4 text-slate-300 text-sm font-mono" row.duration,
      actionsCell row.id row.actions]

/-- The cells of the row of a target, in order. -/
def targetCells (row : TargetRow) : List Markup :=
  [line "td" "px-6 py-4 font-medium text-slate-100" row.name,
    line "td" cellStyle row.kind,
    line "td" cellStyle row.scope,
    line "td" "px-6 py-4 text-slate-400 text-sm font-mono" row.selector,
    line "td" cellStyle row.created,
    actionsCell row.id row.actions]

/-- The row that stands in an empty table. -/
def placeholderRow (message : String) (colspan : Nat) : Markup :=
  box "tr" ""
    [.element "td" [.value "colspan" (toString colspan)]
      "px-6 py-10 text-center text-slate-500" [.text message]]

/-- The rows of a body. -/
def bodyRows {Row : Type} (cells : Row → List Markup) : TableBody Row → List Markup
  | .placeholder message colspan => [placeholderRow message colspan]
  | .rows rows => rows.map fun row => box "tr" "hover:bg-slate-800/30 transition-colors" (cells row)

/-- The bar above rows that are being loaded again. -/
def spinner (spinning : Bool) : List Markup :=
  if spinning then
    [line "div" "px-6 py-2 text-xs text-slate-500 animate-pulse" loadingMessage]
  else []

/-- A table in its frame. -/
def tableFrame (spinning : Bool) (headers : List String) (rows : List Markup) : Markup :=
  box "div" "bg-slate-900 border border-slate-800 rounded-xl overflow-hidden"
    (spinner spinning ++
      [box "table" "w-full text-left border-collapse"
        [box "thead" "" [box "tr" "bg-slate-800/50" (headers.map (line "th" headerStyle))],
          box "tbody" "divide-y divide-slate-800" rows]])

/-- Whether the rows of a panel are being loaded again. -/
def reloading {α : Type} (p : Panel α) : Bool := p.loading && p.loaded

/-- A table of experiments. -/
def experimentTable (zone : Time.Zone) (table : ExperimentTable) (p : Panel Experiment) : Markup :=
  tableFrame (reloading p) table.headers
    (bodyRows (experimentCells table)
      ((table.body zone p.items).orLoading p.awaitingFirstLoad))

/-- The table of targets. -/
def targetTable (zone : Time.Zone) (p : Panel Target) : Markup :=
  tableFrame (reloading p) targetHeaders
    (bodyRows targetCells ((targetBody zone p.items).orLoading p.awaitingFirstLoad))

end FaultConsole.Page
