import FaultConsole.Proofs.Page.Cells
import FaultConsole.Terminal.Tables

/-!
# One table, on the page and on the terminal

Three lists of columns are kept by hand: the headers of a table, the cells that the page makes of a row,
and the texts that the terminal makes of it. Nothing but their order ties a cell to its header, and one
column is in one of the tables only. On the terminal there is nothing to press, so a column with the ids
comes first, and the actions of a row are a text.

* `Experiment.textUnder` and `Target.textUnder` say what is to stand under a header, by its name. This is
  what the lists are held against, so that they cannot agree in the wrong order.
* `CellsAgree` compares two cells under one header: they have the same text, or what can be pressed in
  one is listed in the other.
* `RowsAgree` compares two rows: a cell and a text for each header, the text that belongs under it, and
  in front of the texts the id that all controls of the row carry.
* `page_and_terminal_show_the_same` compares whole tables. The page is read by its tags alone, as
  `Proofs.Page.Cells` says, and not by what it was made from.
-/

namespace FaultConsole

open Terminal (Grid experimentGrid targetGrid)

/-! ## What is to be shown -/

/-- What a table is to show of a record: its id, and a text for each header. -/
structure Shown where
  id : String
  under : String → String

/-- Actions as one text. -/
def actionList (actions : List RowAction) : String := ", ".intercalate (actions.map (·.name))

/-- What is to stand under a header in the row of an experiment. -/
def Experiment.textUnder (zone : Time.Zone) (table : ExperimentTable) (e : Experiment) :
    String → String
  | "Name" => e.name
  | "Type" => e.kind.name
  | "Target" => e.target
  | "Status" => e.status.name
  | "Created" => e.createdAt.shortText zone
  | "Duration" => durationText e.duration
  | "Actions" => actionList (table.actions e.status)
  | _ => ""

/-- What is to stand under a header in the row of a target. -/
def Target.textUnder (zone : Time.Zone) (t : Target) : String → String
  | "Name" => t.name
  | "Type" => t.kind
  | "Namespace" => t.scope
  | "Selector" => t.selector
  | "Created" => t.createdAt.shortText zone
  | "Actions" => actionList targetActions
  | _ => ""

/-- What a table of experiments is to show of one of them. -/
def Experiment.shown (zone : Time.Zone) (table : ExperimentTable) (e : Experiment) : Shown :=
  ⟨e.id, e.textUnder zone table⟩

/-- What the table of targets is to show of one of them. -/
def Target.shown (zone : Time.Zone) (t : Target) : Shown := ⟨t.id, t.textUnder zone⟩

/-! ## Rows that agree -/

/-- A header with the cell below it agrees with a text: the cell says the text, and has nothing to
press in it; or it is the column of the actions, and the text lists what can be pressed, all of it for
the record with the id. -/
inductive CellsAgree (id : String) : String × Markup → String → Prop
  | text {header : String} {cell : Markup} (data : header ≠ "Actions")
    (quiet : cell.buttons = []) : CellsAgree id (header, cell) cell.content
  | actions {cell : Markup} (actions : List RowAction)
    (named : cell.buttons.map (·.attribute? "data-action") = actions.map fun a => some a.name)
    (ids : ∀ button ∈ cell.buttons, button.attribute? "data-id" = some id) :
    CellsAgree id ("Actions", cell) (actionList actions)

/-- A row of the page and one of the terminal show a record under the same headers. -/
structure RowsAgree (headers : List String) (shown : Shown) (row : Markup) (line : List String) :
    Prop where
  cellCount : row.cells.length = headers.length
  textCount : line.length = headers.length + 1
  first : line.head? = some shown.id
  texts : line.tail = headers.map shown.under
  cells : List.Forall₂ (CellsAgree shown.id) (headers.zip row.cells) line.tail

theorem buttons_actionsCell (id : String) (actions : List RowAction) :
    (Page.actionsCell id actions).buttons = actions.map (Page.actionControl id) := by
  have each : (actions.map (Page.actionControl id)).flatMap (Markup.tagged "button") =
      actions.map (Page.actionControl id) := by
    rw [List.flatMap_map]
    simp [List.map_eq_flatMap]
  simp [Page.actionsCell, Markup.buttons, each]

theorem CellsAgree.of_actions (id : String) (actions : List RowAction) :
    CellsAgree id ("Actions", Page.actionsCell id actions) (Terminal.actionNames actions) := by
  refine .actions actions ?_ ?_
  · rw [buttons_actionsCell, List.map_map]
    refine List.map_congr_left fun a _ => ?_
    simp [Page.actionControl, Markup.attribute?, Markup.attributes, Attribute.pair?,
      List.lookup_cons]
  · intro button h
    rw [buttons_actionsCell] at h
    obtain ⟨a, -, rfl⟩ := List.mem_map.mp h
    simp [Page.actionControl, Markup.attribute?, Markup.attributes, Attribute.pair?,
      List.lookup_cons]

theorem CellsAgree.of_line {header : String} (data : header ≠ "Actions") (id style s : String) :
    CellsAgree id (header, .line "td" style s) s := by
  have agrees : CellsAgree id (header, .line "td" style s) (Markup.line "td" style s).content :=
    .text data (by simp [Markup.buttons])
  rwa [Markup.content_line] at agrees

theorem CellsAgree.of_status (id style : String) (badge : Badge) (status : String) :
    CellsAgree id ("Status", .box "td" style [Page.statusBadge badge status]) status := by
  have agrees : CellsAgree id ("Status", .box "td" style [Page.statusBadge badge status])
      (Markup.box "td" style [Page.statusBadge badge status]).content :=
    .text (by decide) (by simp [Page.statusBadge, Markup.buttons])
  have said : (Markup.box "td" style [Page.statusBadge badge status]).content = status := by
    simp [Page.statusBadge]
  rwa [said] at agrees

/-- The headers, the cells and the texts of a row of experiments are in one order. -/
theorem cellsAgree_experimentCells (table : ExperimentTable) (row : ExperimentRow) :
    List.Forall₂ (CellsAgree row.id) (table.headers.zip (Page.experimentCells table row))
      (Terminal.experimentCells table row).tail := by
  cases table <;>
    simp [ExperimentTable.headers, Page.experimentCells, Terminal.experimentCells,
      CellsAgree.of_line, CellsAgree.of_status, CellsAgree.of_actions]

theorem cellsAgree_targetCells (row : TargetRow) :
    List.Forall₂ (CellsAgree row.id) (targetHeaders.zip (Page.targetCells row))
      (Terminal.targetCells row).tail := by
  simp [targetHeaders, Page.targetCells, Terminal.targetCells, CellsAgree.of_line,
    CellsAgree.of_actions]

theorem rowsAgree_experiment (zone : Time.Zone) (table : ExperimentTable) (e : Experiment) :
    RowsAgree table.headers (e.shown zone table) (Page.experimentRow zone table e)
      (Terminal.experimentCells table (e.row zone table)) where
  cellCount := by
    rw [Page.cells_experimentRow]
    cases table <;> simp [ExperimentTable.headers, Page.experimentCells]
  textCount := by cases table <;> simp [ExperimentTable.headers, Terminal.experimentCells]
  first := rfl
  texts := by
    cases table <;>
      simp [ExperimentTable.headers, Terminal.experimentCells, Experiment.row, Experiment.shown,
        Experiment.textUnder, Terminal.actionNames, actionList]
  cells := by
    rw [Page.cells_experimentRow]
    exact cellsAgree_experimentCells table (e.row zone table)

theorem rowsAgree_target (zone : Time.Zone) (t : Target) :
    RowsAgree targetHeaders (t.shown zone) (Page.targetRow zone t)
      (Terminal.targetCells (t.row zone)) where
  cellCount := by
    rw [Page.cells_targetRow]
    simp [targetHeaders, Page.targetCells]
  textCount := by simp [targetHeaders, Terminal.targetCells]
  first := rfl
  texts := by
    simp [targetHeaders, Terminal.targetCells, Target.row, Target.shown, Target.textUnder,
      Terminal.actionNames, actionList]
  cells := by
    rw [Page.cells_targetRow]
    exact cellsAgree_targetCells (t.row zone)

/-! ## Tables that agree -/

/-- A table of the page and one of the terminal show the same records alike. -/
structure TablesAgree (headers : List String) (records : List Shown) (frame : Markup)
    (grid : Grid) : Prop where
  pageHeaders : frame.headerTexts = headers
  gridHeader : grid.header = "ID" :: headers
  pageRows : frame.tableRows.length = records.length
  gridRows : grid.rows.length = records.length
  rows : List.Forall₂ (fun shown (row, line) => RowsAgree headers shown row line) records
    (frame.tableRows.zip grid.rows)

/-- A table of the page and one of the terminal say alike why there are no rows. -/
structure PlaceholdersAgree (headers : List String) (message : String) (frame : Markup)
    (grid : Grid) : Prop where
  pageHeaders : frame.headerTexts = headers
  gridHeader : grid.header = "ID" :: headers
  page : ∃ row cell, frame.tableRows = [row] ∧ row.cells = [cell] ∧ cell.content = message ∧
    cell.attribute? "colspan" = some (toString headers.length)
  terminal : grid.rows = [[message]]

/-- Tables agree if they have a row for each of some records and the rows of a record agree. -/
theorem TablesAgree.of_records {Record : Type} {records : List Record} {shown : Record → Shown}
    {row : Record → Markup} {line : Record → List String} {above headers : List String}
    {frame : Markup} {grid : Grid} (read : Page.Reads frame above headers (records.map row))
    (gridHeader : grid.header = "ID" :: headers) (lines : grid.rows = records.map line)
    (agree : ∀ r, RowsAgree headers (shown r) (row r) (line r)) :
    TablesAgree headers (records.map shown) frame grid where
  pageHeaders := read.headers
  gridHeader := gridHeader
  pageRows := by simp [read.rows]
  gridRows := by simp [lines]
  rows := by
    rw [read.rows, lines, List.zip_map', List.forall₂_map_left_iff, List.forall₂_map_right_iff]
    exact List.forall₂_same.mpr fun r _ => agree r

theorem PlaceholdersAgree.of_reads {above headers : List String} {message : String}
    {frame : Markup} {grid : Grid}
    (read : Page.Reads frame above headers [Page.placeholderRow message headers.length])
    (gridHeader : grid.header = "ID" :: headers) (line : grid.rows = [[message]]) :
    PlaceholdersAgree headers message frame grid where
  pageHeaders := read.headers
  gridHeader := gridHeader
  page := by
    obtain ⟨cell, cells, content, colspan⟩ := Page.cells_placeholderRow message headers.length
    exact ⟨_, cell, read.rows, cells, content, colspan⟩
  terminal := line

/-- A body is drawn as one row for each of its records, or as its placeholder. -/
theorem bodyRows_ofRows_terminal {Row : Type} (cells : Row → List String) (message : String)
    (colspan : Nat) (rows : List Row) :
    Terminal.bodyRows cells (.ofRows message colspan rows) =
      if rows = [] then [[message]] else rows.map cells := by
  cases rows <;> rfl

theorem rows_experimentGrid (zone : Time.Zone) (table : ExperimentTable) (es : List Experiment) :
    (experimentGrid zone table es).rows =
      if es = [] then [["No experiments found"]]
      else (table.select es).map fun e => Terminal.experimentCells table (e.row zone table) := by
  rw [experimentGrid, ExperimentTable.body, bodyRows_ofRows_terminal, List.map_map]
  simp only [List.map_eq_nil_iff, ExperimentTable.select_eq_nil_iff]
  rfl

theorem rows_targetGrid (zone : Time.Zone) (ts : List Target) :
    (targetGrid zone ts).rows =
      if ts = [] then [["No targets found"]]
      else (newestFirst (·.createdAt) ts).map fun t => Terminal.targetCells (t.row zone) := by
  rw [targetGrid, targetBody, bodyRows_ofRows_terminal, List.map_map]
  simp only [List.map_eq_nil_iff, newestFirst_eq_nil_iff]
  rfl

/-- **The page and the terminal show the same table.** Each list of records has a row for each record
that the table selects, in the same order in both places. In both the row has the same texts under the
same headers, and under each header what the header names; the id stands in a column of its own on the
terminal, and the actions, which on the page all are for that id, are the same. Of a list without records
both say the same in their only row, which on the page is as wide as the table, unless the page still
waits for its first list. -/
theorem page_and_terminal_show_the_same (zone : Time.Zone) :
    (∀ (table : ExperimentTable) (p : Panel Experiment),
      let frame := Page.experimentTable zone table p
      let grid := experimentGrid zone table p.items
      (p.items ≠ [] →
        TablesAgree table.headers ((table.select p.items).map (·.shown zone table)) frame grid) ∧
      (p.items = [] → p.awaitingFirstLoad = false →
        PlaceholdersAgree table.headers "No experiments found" frame grid)) ∧
    ∀ p : Panel Target,
      let frame := Page.targetTable zone p
      let grid := targetGrid zone p.items
      (p.items ≠ [] →
        TablesAgree targetHeaders ((newestFirst (·.createdAt) p.items).map (·.shown zone)) frame
          grid) ∧
      (p.items = [] → p.awaitingFirstLoad = false →
        PlaceholdersAgree targetHeaders "No targets found" frame grid) := by
  refine ⟨fun table p => ⟨fun some_record => ?_, fun none idle => ?_⟩,
    fun p => ⟨fun some_record => ?_, fun none idle => ?_⟩⟩
  · have read := Page.reads_experimentTable zone table p
    rw [Page.experimentRows, if_neg some_record] at read
    have lines := rows_experimentGrid zone table p.items
    rw [if_neg some_record] at lines
    exact .of_records read rfl lines (rowsAgree_experiment zone table)
  · have read := Page.reads_experimentTable zone table p
    rw [Page.experimentRows, if_pos none, Page.emptyMessage, idle] at read
    exact .of_reads read rfl (by rw [rows_experimentGrid, if_pos none])
  · have read := Page.reads_targetTable zone p
    rw [Page.targetRows, if_neg some_record] at read
    have lines := rows_targetGrid zone p.items
    rw [if_neg some_record] at lines
    exact .of_records read rfl lines (rowsAgree_target zone)
  · have read := Page.reads_targetTable zone p
    rw [Page.targetRows, if_pos none, Page.emptyMessage, idle] at read
    exact .of_reads read rfl (by rw [rows_targetGrid, if_pos none])

/-- A panel with two experiments, the newer one last. -/
def twoExperiments : Panel Experiment :=
  { items := [experimentAt "a" 1 .pending, experimentAt "b" 2 .running], loaded := true }

/-- The newer one comes first, in both places, and its actions stand behind its duration; a list without
targets is told as such in both. -/
theorem two_experiments_are_shown_alike :
    (twoExperiments.items ≠ [] ∧
      ∃ first second,
        TablesAgree ["Name", "Type", "Target", "Status", "Created", "Duration", "Actions"]
          [first, second] (Page.experimentTable .utc .full twoExperiments)
          (experimentGrid .utc .full twoExperiments.items) ∧
        (first.id = "b" ∧ first.under "Status" = "running" ∧
          first.under "Created" = "00:00, 01 Jan, 1970" ∧
          first.under "Actions" = "view, stop, delete") ∧
        (second.id = "a" ∧ second.under "Status" = "pending" ∧
          second.under "Actions" = "view, execute, delete")) ∧
    let p : Panel Target := { loaded := true }
    p.items = [] ∧ p.awaitingFirstLoad = false ∧
      PlaceholdersAgree ["Name", "Type", "Namespace", "Selector", "Created", "Actions"]
        "No targets found" (Page.targetTable .utc p) (targetGrid .utc p.items) := by
  obtain ⟨experiments, targets⟩ := page_and_terminal_show_the_same .utc
  have some_record : twoExperiments.items ≠ [] := nofun
  have newest : ExperimentTable.full.select twoExperiments.items = twoExperiments.items.reverse :=
    newestFirst_eq_of_pairwise (List.reverse_perm _) (by decide) (by decide)
  have agree := (experiments .full twoExperiments).1 some_record
  rw [newest] at agree
  exact ⟨⟨some_record, _, _, agree, ⟨rfl, rfl, by decide, by decide⟩, rfl, rfl, by decide⟩,
    rfl, rfl, (targets _).2 rfl rfl⟩

end FaultConsole
