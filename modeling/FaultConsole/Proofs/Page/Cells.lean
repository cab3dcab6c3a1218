import FaultConsole.Proofs.Listing.Tables
import FaultConsole.Proofs.Page.Elements
import Mathlib.Data.List.Basic

/-!
# Reading a table off the page

Whoever looks at a page sees texts in rows, and things to press. Which is which is told by the tags
alone: a header is a `th`, a row is a `tr` in the `tbody`, a cell is a `td` of its row, and what can be
done with a record are the `button`s in a cell. This is how a table is read here (`headerTexts`,
`tableRows`, `cells`, `buttons`), without a look at what it was made from.

What comes from records is text and never a tag, so a table is read as it was written
(`reads_experimentTable`, `reads_targetTable`), whatever the records say.
-/

namespace FaultConsole

namespace Markup

/-! ## Texts and tags -/

mutual

/-- The text of markup, without its tags. -/
def content : Markup → String
  | text s => s
  | element _ _ _ held => contentAll held
  | childless _ _ _ => ""

/-- The text of several pieces of markup, one behind the other. -/
def contentAll : List Markup → String
  | [] => ""
  | m :: ms => content m ++ contentAll ms

end

mutual

/-- The elements with a tag, at any depth, in the order in which they begin. -/
def tagged (tag : String) : Markup → List Markup
  | text _ => []
  | element own attributes style held =>
    (if own = tag then [element own attributes style held] else []) ++ taggedAll tag held
  | childless own attributes style =>
    if own = tag then [childless own attributes style] else []

/-- The elements with a tag in several pieces of markup. -/
def taggedAll (tag : String) : List Markup → List Markup
  | [] => []
  | m :: ms => tagged tag m ++ taggedAll tag ms

end

theorem taggedAll_eq_flatMap (tag : String) (ms : List Markup) :
    taggedAll tag ms = ms.flatMap (tagged tag) := by
  induction ms with
  | nil => rfl
  | cons m ms ih => rw [taggedAll, ih, List.flatMap_cons]

@[simp] theorem content_line (tag style s : String) : (line tag style s).content = s :=
  String.append_empty

@[simp] theorem content_box (tag style : String) (held : List Markup) :
    (box tag style held).content = contentAll held := rfl

@[simp] theorem contentAll_singleton (m : Markup) : contentAll [m] = m.content :=
  String.append_empty

@[simp] theorem tagged_text (tag s : String) : (text s).tagged tag = [] := rfl

@[simp] theorem tagged_element (tag own : String) (attributes : List Attribute) (style : String)
    (held : List Markup) :
    (element own attributes style held).tagged tag =
      (if own = tag then [element own attributes style held] else []) ++
        held.flatMap (tagged tag) := by
  rw [tagged, taggedAll_eq_flatMap]

@[simp] theorem tagged_box (tag own style : String) (held : List Markup) :
    (box own style held).tagged tag =
      (if own = tag then [box own style held] else []) ++ held.flatMap (tagged tag) :=
  tagged_element tag own [] style held

@[simp] theorem tagged_line (tag own style s : String) :
    (line own style s).tagged tag = if own = tag then [line own style s] else [] := by
  simp [line]

@[simp] theorem tagged_icon (tag name : String) (size : Nat) :
    (icon name size).tagged tag = if "svg" = tag then [icon name size] else [] := by
  simp [icon]

/-! ## Tables -/

/-- Whether some markup is an element with a tag. -/
def hasTag (tag : String) : Markup → Bool
  | text _ => false
  | element own _ _ _ | childless own _ _ => own = tag

/-- The value of an attribute of an element. -/
def attribute? (key : String) (m : Markup) : Option String := m.attributes.lookup key

/-- The texts that stand above a table, in its frame. -/
def textsAbove (frame : Markup) : List String :=
  (frame.children.takeWhile fun m => !m.hasTag "table").map content

/-- The headers of a table. -/
def headerTexts (frame : Markup) : List String := (frame.tagged "th").map content

/-- The rows of a table below its headers. -/
def tableRows (frame : Markup) : List Markup := (frame.tagged "tbody").flatMap (tagged "tr")

/-- The cells of a row. -/
def cells (row : Markup) : List Markup := row.tagged "td"

/-- What can be pressed in a cell. -/
def buttons (cell : Markup) : List Markup := cell.tagged "button"

/-- Some markup is one cell, and no part of it passes for another cell or for anything around it. -/
structure IsCell (cell : Markup) : Prop where
  one : cell.tagged "td" = [cell]
  noRow : cell.tagged "tr" = []
  noBody : cell.tagged "tbody" = []
  noHeader : cell.tagged "th" = []

/-- Some markup is one row of a table, and no part of it passes for another row or for anything
around it. -/
structure IsRow (row : Markup) : Prop where
  one : row.tagged "tr" = [row]
  noBody : row.tagged "tbody" = []
  noHeader : row.tagged "th" = []

section

variable {held : List Markup} (areCells : ∀ cell ∈ held, cell.IsCell) (style : String)

include areCells

theorem isRow_box : (box "tr" style held).IsRow where
  one := by
    simp [List.flatMap_eq_nil_iff.mpr fun cell h => (areCells cell h).noRow]
  noBody := by
    simpa using fun cell h => (areCells cell h).noBody
  noHeader := by
    simpa using fun cell h => (areCells cell h).noHeader

theorem cells_box : (box "tr" style held).cells = held := by
  have all : held.flatMap (tagged "td") = held := by
    rw [List.flatMap_congr fun cell h => (areCells cell h).one]
    exact List.flatMap_singleton' held
  simp [cells, all]

end

theorem isCell_line (style s : String) : (line "td" style s).IsCell :=
  ⟨by simp, by simp, by simp, by simp⟩

end Markup

namespace Page

open Markup (IsRow)

/-! ## Frames -/

theorem textsAbove_tableFrame (spinning : Bool) (headers : List String) (rows : List Markup) :
    (tableFrame spinning headers rows).textsAbove = if spinning then ["Loading..."] else [] := by
  cases spinning <;>
    simp [tableFrame, spinner, Markup.textsAbove, Markup.box, Markup.line, Markup.children,
      Markup.hasTag, loadingMessage, Markup.content, Markup.contentAll]

section

variable {rows : List Markup} (areRows : ∀ row ∈ rows, row.IsRow) (spinning : Bool)
  (headers : List String)

include areRows

theorem headerTexts_tableFrame : (tableFrame spinning headers rows).headerTexts = headers := by
  have none : rows.flatMap (Markup.tagged "th") = [] :=
    List.flatMap_eq_nil_iff.mpr fun row h => (areRows row h).noHeader
  have all : (headers.map (Markup.line "th" headerStyle)).flatMap (Markup.tagged "th") =
      headers.map (Markup.line "th" headerStyle) := by
    rw [List.flatMap_map]
    simp [List.map_eq_flatMap]
  cases spinning <;>
    simp [tableFrame, spinner, Markup.headerTexts, none, all, Function.comp_def]

theorem tableRows_tableFrame : (tableFrame spinning headers rows).tableRows = rows := by
  have none : rows.flatMap (Markup.tagged "tbody") = [] :=
    List.flatMap_eq_nil_iff.mpr fun row h => (areRows row h).noBody
  have all : rows.flatMap (Markup.tagged "tr") = rows := by
    rw [List.flatMap_congr fun row h => (areRows row h).one]
    exact List.flatMap_singleton' rows
  cases spinning <;> simp [tableFrame, spinner, Markup.tableRows, none, all]

end

/-! ## Rows and their cells -/

@[simp] theorem tagged_actionControl (tag id : String) (action : RowAction) :
    (actionControl id action).tagged tag =
      (if "button" = tag then [actionControl id action] else []) ++
        if "svg" = tag then [Markup.icon (actionLook action).2.2 16] else [] := by
  simp [actionControl]

theorem isCell_actionsCell (id : String) (actions : List RowAction) :
    (actionsCell id actions).IsCell := by
  constructor <;> simp [actionsCell, List.flatMap_map]

theorem isCell_statusCell (style : String) (badge : Badge) (status : String) :
    (Markup.box "td" style [statusBadge badge status]).IsCell := by
  constructor <;> simp [statusBadge]

theorem isCell_experimentCells (table : ExperimentTable) (row : ExperimentRow) :
    ∀ cell ∈ experimentCells table row, cell.IsCell := by
  cases table <;>
    simp [experimentCells, Markup.isCell_line, isCell_statusCell, isCell_actionsCell]

theorem isCell_targetCells (row : TargetRow) : ∀ cell ∈ targetCells row, cell.IsCell := by
  simp [targetCells, Markup.isCell_line, isCell_actionsCell]

theorem isRow_placeholderRow (message : String) (colspan : Nat) :
    (placeholderRow message colspan).IsRow := by
  constructor <;> simp [placeholderRow]

theorem cells_experimentRow (zone : Time.Zone) (table : ExperimentTable) (e : Experiment) :
    (experimentRow zone table e).cells = experimentCells table (e.row zone table) :=
  Markup.cells_box (isCell_experimentCells table _) _

theorem cells_targetRow (zone : Time.Zone) (t : Target) :
    (targetRow zone t).cells = targetCells (t.row zone) :=
  Markup.cells_box (isCell_targetCells _) _

theorem cells_placeholderRow (message : String) (colspan : Nat) :
    ∃ cell, (placeholderRow message colspan).cells = [cell] ∧ cell.content = message ∧
      cell.attribute? "colspan" = some (toString colspan) := by
  refine ⟨_, by simp [placeholderRow, Markup.cells]; rfl, ?_, ?_⟩
  · simp [Markup.content]
  · simp [Markup.attribute?, Markup.attributes, Attribute.pair?]

/-! ## Tables -/

/-- The rows of a table of experiments: one for each that the table selects, or the placeholder if
there are none. -/
def experimentRows (zone : Time.Zone) (table : ExperimentTable) (es : List Experiment)
    (message : String) : List Markup :=
  if es = [] then [placeholderRow message table.headers.length]
  else (table.select es).map (experimentRow zone table)

/-- The rows of the table of targets. -/
def targetRows (zone : Time.Zone) (ts : List Target) (message : String) : List Markup :=
  if ts = [] then [placeholderRow message targetHeaders.length]
  else (newestFirst (·.createdAt) ts).map (targetRow zone)

theorem isRow_experimentRows (zone : Time.Zone) (table : ExperimentTable) (es : List Experiment)
    (message : String) : ∀ row ∈ experimentRows zone table es message, row.IsRow := by
  intro row h
  rw [experimentRows] at h
  split at h
  · rw [List.mem_singleton.mp h]
    exact isRow_placeholderRow _ _
  · obtain ⟨e, -, rfl⟩ := List.mem_map.mp h
    exact Markup.isRow_box (isCell_experimentCells table _) _

theorem isRow_targetRows (zone : Time.Zone) (ts : List Target) (message : String) :
    ∀ row ∈ targetRows zone ts message, row.IsRow := by
  intro row h
  rw [targetRows] at h
  split at h
  · rw [List.mem_singleton.mp h]
    exact isRow_placeholderRow _ _
  · obtain ⟨t, -, rfl⟩ := List.mem_map.mp h
    exact Markup.isRow_box (isCell_targetCells _) _

/-- What a table without rows says. -/
def emptyMessage {α : Type} (p : Panel α) (nothing : String) : String :=
  if p.awaitingFirstLoad then "Loading..." else nothing

theorem experimentTable_eq (zone : Time.Zone) (table : ExperimentTable) (p : Panel Experiment) :
    experimentTable zone table p = tableFrame (reloading p) table.headers
      (experimentRows zone table p.items (emptyMessage p "No experiments found")) := by
  rw [experimentTable, ExperimentTable.body, bodyRows_ofRows, experimentRows, List.map_map]
  simp only [List.map_eq_nil_iff, ExperimentTable.select_eq_nil_iff]
  rfl

theorem targetTable_eq (zone : Time.Zone) (p : Panel Target) :
    targetTable zone p = tableFrame (reloading p) targetHeaders
      (targetRows zone p.items (emptyMessage p "No targets found")) := by
  rw [targetTable, targetBody, bodyRows_ofRows, targetRows, List.map_map]
  simp only [List.map_eq_nil_iff, newestFirst_eq_nil_iff]
  rfl

/-- A table, read off the page: the texts above it, its headers and its rows. -/
structure Reads (frame : Markup) (above headers : List String) (rows : List Markup) : Prop where
  above : frame.textsAbove = above
  headers : frame.headerTexts = headers
  rows : frame.tableRows = rows

/-- **A table of experiments is read as it was written.** -/
theorem reads_experimentTable (zone : Time.Zone) (table : ExperimentTable) (p : Panel Experiment) :
    Reads (experimentTable zone table p) (if p.loading && p.loaded then ["Loading..."] else [])
      table.headers
      (experimentRows zone table p.items (emptyMessage p "No experiments found")) := by
  rw [experimentTable_eq]
  have areRows := isRow_experimentRows zone table p.items (emptyMessage p "No experiments found")
  exact ⟨textsAbove_tableFrame _ _ _, headerTexts_tableFrame areRows _ _,
    tableRows_tableFrame areRows _ _⟩

/-- **The table of targets is read as it was written.** -/
theorem reads_targetTable (zone : Time.Zone) (p : Panel Target) :
    Reads (targetTable zone p) (if p.loading && p.loaded then ["Loading..."] else [])
      targetHeaders (targetRows zone p.items (emptyMessage p "No targets found")) := by
  rw [targetTable_eq]
  have areRows := isRow_targetRows zone p.items (emptyMessage p "No targets found")
  exact ⟨textsAbove_tableFrame _ _ _, headerTexts_tableFrame areRows _ _,
    tableRows_tableFrame areRows _ _⟩

end Page

end FaultConsole
