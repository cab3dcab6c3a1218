import FaultConsole.Dashboard.Browser
import FaultConsole.Page.Views

/-!
# Elements and what is around them

A click hits a place of the page, and what is made of it depends on the elements around that place
and on their attributes. `Markup.Outward` are the ways from a place outwards, and `Markup.Contains`
says that something stands on a page at all.

Only an element with the attribute `data-action` counts. `Markup.Only P` says that all of these are
as `P` says. It follows from the same for the parts (`only_element`), so it can be computed: a row
names no actions but its own (`only_controls_experimentRow`, `only_controls_targetRow`), and on the
whole page no element names an action but a button (`only_buttons_page`).
-/

namespace FaultConsole

/-- An attribute as an element has it: one that is off is not there. -/
def Attribute.pair? : Attribute → Option (String × String)
  | .value key text => some (key, text)
  | .flag key on => if on then some (key, "") else none

namespace Markup

/-- What an element holds directly. -/
def children : Markup → List Markup
  | element _ _ _ held => held
  | text _ | childless _ _ _ => []

/-- The attributes of an element, its class last. -/
def attributes : Markup → Attributes
  | text _ => []
  | element _ own style _ | childless _ own style =>
    own.filterMap (·.pair?) ++
      if (Text.trim style).isEmpty then [] else [("class", Text.trim style)]

/-- Whether some markup is a button. -/
def IsButton : Markup → Prop
  | element tag _ _ _ | childless tag _ _ => tag = "button"
  | text _ => False

/-- Whether an element names an action. -/
def NamesAction (m : Markup) : Prop := (m.attributes.lookup "data-action").isSome

/-! ## Ways outwards -/

/-- The ways from a place in some markup outwards: what stands at the place, then each element
around it, up to the markup as a whole. -/
inductive Outward : Markup → List Markup → Prop
  | here (m : Markup) : Outward m [m]
  | inside {m child : Markup} {path : List Markup} (held : child ∈ m.children)
      (way : Outward child path) : Outward m (path ++ [m])

/-- Some markup stands in another, at any depth. -/
inductive Contains : Markup → Markup → Prop
  | here (m : Markup) : Contains m m
  | inside {m child part : Markup} (held : child ∈ m.children)
      (contained : Contains child part) : Contains m part

/-- All that a way leads through stands in the markup. -/
theorem Outward.contains {m x : Markup} {path : List Markup} (way : m.Outward path)
    (h : x ∈ path) : m.Contains x := by
  induction way with
  | here m =>
      rw [List.mem_singleton.mp h]
      exact .here m
  | inside held _ ih =>
      rcases List.mem_append.mp h with inner | last
      · exact .inside held (ih inner)
      · rw [List.mem_singleton.mp last]
        exact .here _

/-! ## Elements that name an action -/

/-- Whatever names an action in some markup is as `P` says. -/
def Only (P : Markup → Prop) (m : Markup) : Prop := ∀ x, m.Contains x → x.NamesAction → P x

theorem only_iff {P : Markup → Prop} {m : Markup} :
    m.Only P ↔ (m.NamesAction → P m) ∧ ∀ child ∈ m.children, child.Only P := by
  constructor
  · intro h
    exact ⟨h m (.here m), fun child held x contained => h x (.inside held contained)⟩
  · rintro ⟨self, below⟩ x contained
    cases contained with
    | here => exact self
    | inside held contained => exact below _ held x contained

@[simp] theorem only_text (P : Markup → Prop) (s : String) : (text s).Only P := by
  rw [only_iff]
  simp [NamesAction, attributes, children]

/-- An element names an action by an attribute of its own, never by its class. -/
theorem namesAction_element (tag : String) (own : List Attribute) (style : String)
    (held : List Markup) :
    (element tag own style held).NamesAction ↔
      ((own.filterMap (·.pair?)).lookup "data-action").isSome := by
  simp [NamesAction, attributes, List.lookup_append]

theorem namesAction_childless (tag : String) (own : List Attribute) (style : String) :
    (childless tag own style).NamesAction ↔
      ((own.filterMap (·.pair?)).lookup "data-action").isSome :=
  namesAction_element tag own style []

@[simp] theorem only_element (P : Markup → Prop) (tag : String) (own : List Attribute)
    (style : String) (held : List Markup) :
    (element tag own style held).Only P ↔
      (((own.filterMap (·.pair?)).lookup "data-action").isSome →
        P (element tag own style held)) ∧ ∀ child ∈ held, child.Only P := by
  rw [only_iff, namesAction_element]
  rfl

@[simp] theorem only_childless (P : Markup → Prop) (tag : String) (own : List Attribute)
    (style : String) :
    (childless tag own style).Only P ↔
      (((own.filterMap (·.pair?)).lookup "data-action").isSome →
        P (childless tag own style)) := by
  rw [only_iff, namesAction_childless]
  simp [children]

@[simp] theorem only_box (P : Markup → Prop) (tag style : String) (held : List Markup) :
    (box tag style held).Only P ↔ ∀ child ∈ held, child.Only P := by
  simp [box]

@[simp] theorem only_line (P : Markup → Prop) (tag style content : String) :
    (line tag style content).Only P := by
  simp [line]

@[simp] theorem only_icon (P : Markup → Prop) (name : String) (size : Nat) :
    (icon name size).Only P := by
  simp [icon, Attribute.pair?, List.lookup_cons]

end Markup

namespace Page

open Markup (Only Contains IsButton)

variable {P : Markup → Prop}

/-! ## Rows and tables -/

@[simp] theorem only_actionControl (id : String) (action : RowAction) :
    (actionControl id action).Only P ↔ P (actionControl id action) := by
  simp [actionControl, Attribute.pair?, List.lookup_cons]

@[simp] theorem only_actionsCell (id : String) (actions : List RowAction) :
    (actionsCell id actions).Only P ↔ ∀ a ∈ actions, P (actionControl id a) := by
  simp [actionsCell]

/-- The row of an experiment on the page. -/
def experimentRow (zone : Time.Zone) (table : ExperimentTable) (e : Experiment) : Markup :=
  .box "tr" "hover:bg-slate-800/30 transition-colors"
    (experimentCells table (e.row zone table))

/-- The row of a target on the page. -/
def targetRow (zone : Time.Zone) (t : Target) : Markup :=
  .box "tr" "hover:bg-slate-800/30 transition-colors" (targetCells (t.row zone))

@[simp] theorem only_experimentRow (zone : Time.Zone) (table : ExperimentTable) (e : Experiment) :
    (experimentRow zone table e).Only P ↔
      ∀ a ∈ table.actions e.status, P (actionControl e.id a) := by
  cases table <;> simp [experimentRow, experimentCells, Experiment.row, statusBadge]

@[simp] theorem only_targetRow (zone : Time.Zone) (t : Target) :
    (targetRow zone t).Only P ↔ ∀ a ∈ targetActions, P (actionControl t.id a) := by
  simp [targetRow, targetCells, Target.row]

/-- A body shows a row for each record, or a placeholder if there is none. -/
theorem bodyRows_ofRows {Row : Type} (cells : Row → List Markup) (message : String)
    (colspan : Nat) (rows : List Row) (awaiting : Bool) :
    bodyRows cells ((TableBody.ofRows message colspan rows).orLoading awaiting) =
      if rows = [] then
        [placeholderRow (if awaiting then loadingMessage else message) colspan]
      else rows.map fun row => .box "tr" "hover:bg-slate-800/30 transition-colors" (cells row) := by
  cases rows <;> rfl

theorem only_placeholderRow (message : String) (colspan : Nat) :
    (placeholderRow message colspan).Only P := by
  simp [placeholderRow, Attribute.pair?]

@[simp] theorem only_tableFrame (spinning : Bool) (headers : List String) (rows : List Markup) :
    (tableFrame spinning headers rows).Only P ↔ ∀ row ∈ rows, row.Only P := by
  cases spinning <;> simp [tableFrame, spinner]

@[simp] theorem only_experimentTable (zone : Time.Zone) (table : ExperimentTable)
    (p : Panel Experiment) :
    (experimentTable zone table p).Only P ↔
      ∀ e ∈ table.select p.items, (experimentRow zone table e).Only P := by
  rw [experimentTable, only_tableFrame, ExperimentTable.body, bodyRows_ofRows]
  split
  next empty =>
    rw [List.map_eq_nil_iff.mp empty]
    simp [only_placeholderRow]
  next => simp [experimentRow]

@[simp] theorem only_targetTable (zone : Time.Zone) (p : Panel Target) :
    (targetTable zone p).Only P ↔
      ∀ t ∈ newestFirst (·.createdAt) p.items, (targetRow zone t).Only P := by
  rw [targetTable, only_tableFrame, targetBody, bodyRows_ofRows]
  split
  next empty =>
    rw [List.map_eq_nil_iff.mp empty]
    simp [only_placeholderRow]
  next => simp [targetRow]

/-! ## What stands in a table -/

theorem contains_actionControl_experimentRow (zone : Time.Zone) (table : ExperimentTable)
    (e : Experiment) {a : RowAction} (offered : a ∈ table.actions e.status) :
    (experimentRow zone table e).Contains (actionControl e.id a) := by
  have cell : (actionsCell e.id (table.actions e.status)).Contains (actionControl e.id a) :=
    .inside List.mem_cons_self (.inside (List.mem_map_of_mem offered) (.here _))
  have last : actionsCell e.id (table.actions e.status) ∈
      experimentCells table (e.row zone table) :=
    List.mem_append_right _ (List.mem_cons_of_mem _ List.mem_cons_self)
  exact .inside last cell

theorem contains_actionControl_targetRow (zone : Time.Zone) (t : Target) {a : RowAction}
    (offered : a ∈ targetActions) : (targetRow zone t).Contains (actionControl t.id a) := by
  have cell : (actionsCell t.id targetActions).Contains (actionControl t.id a) :=
    .inside List.mem_cons_self (.inside (List.mem_map_of_mem offered) (.here _))
  have last : actionsCell t.id targetActions ∈ targetCells (t.row zone) := by
    simp [targetCells, Target.row]
  exact .inside last cell

theorem contains_row_tableFrame (spinning : Bool) (headers : List String) {rows : List Markup}
    {row : Markup} (h : row ∈ rows) : (tableFrame spinning headers rows).Contains row :=
  .inside (List.mem_append_right _ List.mem_cons_self)
    (.inside (List.mem_cons_of_mem _ List.mem_cons_self) (.inside h (.here row)))

theorem contains_experimentRow (zone : Time.Zone) (table : ExperimentTable) (p : Panel Experiment)
    {e : Experiment} (h : e ∈ table.select p.items) :
    (experimentTable zone table p).Contains (experimentRow zone table e) := by
  have some_row : (table.select p.items).map (·.row zone table) ≠ [] :=
    List.ne_nil_of_mem (List.mem_map_of_mem h)
  refine contains_row_tableFrame _ _ ?_
  rw [ExperimentTable.body, bodyRows_ofRows, if_neg some_row, List.map_map]
  exact List.mem_map_of_mem h

theorem contains_targetRow (zone : Time.Zone) (p : Panel Target) {t : Target}
    (h : t ∈ newestFirst (·.createdAt) p.items) :
    (targetTable zone p).Contains (targetRow zone t) := by
  have some_row : (newestFirst (·.createdAt) p.items).map (·.row zone) ≠ [] :=
    List.ne_nil_of_mem (List.mem_map_of_mem h)
  refine contains_row_tableFrame _ _ ?_
  rw [targetBody, bodyRows_ofRows, if_neg some_row, List.map_map]
  exact List.mem_map_of_mem h

/-! ## The whole page -/

/-- A control is a button, so a table has no other elements that name an action. -/
theorem isButton_actionControl (id : String) (a : RowAction) : (actionControl id a).IsButton := rfl

theorem only_buttons_activeView (zone : Time.Zone) (debug : Bool) (d : Dashboard) :
    (activeView zone debug d).Only IsButton := by
  unfold activeView
  cases d.router.active <;>
    simp [overview, headingWith, heading, openControl, statCard, resultsView, settingsView,
      isButton_actionControl]

theorem only_menu (active : View) : (menu active).Only P := by
  simp [menu, menuEntry, -List.mem_map, List.forall_mem_map]

theorem only_dialog (title submit : String) (submitting : Bool) {fields : List Markup}
    (h : ∀ m ∈ fields, m.Only P) : (dialog title submit submitting fields).Only P := by
  cases submitting <;>
    simpa [dialog, dialogHeader, closeControl, dialogFooter, Attribute.pair?, or_imp, forall_and]

theorem only_experimentDialog (submitting : Bool) (targets : List Target)
    (modal : Modal ExperimentForm) :
    ∀ m ∈ experimentDialog submitting targets modal, m.Only P := by
  unfold experimentDialog
  split
  · simp only [List.mem_singleton, forall_eq]
    apply only_dialog
    simp [experimentFields, textInput, dropdown, labelled, option, group, Attribute.pair?,
      List.lookup_cons]
  · simp

theorem only_targetDialog (submitting : Bool) (modal : Modal TargetForm) :
    ∀ m ∈ targetDialog submitting modal, m.Only P := by
  unfold targetDialog
  split
  · simp only [List.mem_singleton, forall_eq]
    apply only_dialog
    simp [textInput, dropdown, labelled, option, Attribute.pair?, List.lookup_cons]
  · simp

theorem only_detailPanel (zone : Time.Zone) (detail : Detail) : (detailPanel zone detail).Only P := by
  simp [detailPanel, dialogHeader, closeControl, parameterSection, -List.mem_map,
    List.forall_mem_map]

theorem only_noticeList (notices : List (Nat × Notice)) : (noticeList notices).Only P := by
  simp [noticeList, noticeCard, closeControl, -List.mem_map, List.forall_mem_map]

/-- **No element of the page names an action but a button.** -/
theorem only_buttons_page (zone : Time.Zone) (debug : Bool) (d : Dashboard) :
    (d.page zone debug).Only IsButton := by
  simp only [Dashboard.page, Markup.only_box, List.forall_mem_append, List.forall_mem_cons]
  refine ⟨⟨⟨⟨⟨only_menu _, by simp [only_buttons_activeView], by simp⟩, ?_⟩, ?_⟩, ?_⟩, ?_⟩
  · exact only_experimentDialog _ _ _
  · exact only_targetDialog _ _
  · cases d.detail <;> simp [only_detailPanel]
  · simp [only_noticeList]

end Page

end FaultConsole
