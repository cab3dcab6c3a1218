import FaultConsole.Proofs.Page.Cells
import Mathlib.Data.List.Induction

/-!
# What a panel remembers

Loads of a panel start and end, some with an error, some too late to count. All that is left of this
is in three fields. `after_eq` says what each of them remembers: the last list that counted, whether
there was one, and whether the last thing to happen was the start of a load.

A table tells by these fields alone what to show, and takes no rows and no list yet for the same thing
(`TableBody.orLoading` changes the placeholder, whatever it is for). That is right only because a panel
has no rows until a list has counted: `items_eq_nil_of_not_loaded`.
-/

namespace FaultConsole

namespace Panel

variable {α : Type}

/-- What happens to a panel: a load starts, or a load ends with a result, which may count or not. -/
inductive Move (α : Type) where
  | begin
  | settle (result : Except Problem (List α)) (current : Bool) (context : String)

/-- A panel once something happened to it. -/
def Move.apply (p : Panel α) : Move α → Panel α
  | .begin => p.begin
  | .settle result current context => (p.settle result current context).1

/-- The list that a move brings: that of a load that succeeded and counts. -/
def Move.list? : Move α → Option (List α)
  | .settle (.ok items) true _ => some items
  | _ => none

/-- Whether a load starts. -/
def Move.isBegin : Move α → Bool
  | .begin => true
  | .settle .. => false

/-- A new panel after some moves. -/
def after (moves : List (Move α)) : Panel α := moves.foldl Move.apply {}

theorem after_append (moves : List (Move α)) (m : Move α) :
    after (moves ++ [m]) = m.apply (after moves) := by
  rw [after, List.foldl_append]
  rfl

/-- What a move leaves of a panel. -/
theorem Move.apply_eq (p : Panel α) (m : Move α) :
    m.apply p = { items := m.list?.getD p.items, loading := m.isBegin,
                  loaded := m.list?.isSome || p.loaded } := by
  cases m with
  | begin => rfl
  | settle result current context =>
      cases result with
      | error problem => rfl
      | ok items => cases current <;> rfl

/-- **What a panel remembers** of the moves so far. -/
theorem after_eq (moves : List (Move α)) :
    after moves =
      { items := (moves.filterMap Move.list?).getLast?.getD []
        loading := moves.getLast?.any Move.isBegin
        loaded := moves.any (·.list?.isSome) } := by
  induction moves using List.reverseRecOn with
  | nil => rfl
  | append_singleton moves m ih =>
      rw [after_append, Move.apply_eq, ih]
      cases list : m.list? <;> simp [list, Bool.or_comm]

/-- Until a list has counted there are no rows. -/
theorem items_eq_nil_of_not_loaded {moves : List (Move α)} (h : (after moves).loaded = false) :
    (after moves).items = [] := by
  rw [after_eq] at h ⊢
  have none : moves.filterMap Move.list? = [] := by simpa using h
  rw [none]
  rfl

/-- Only what failed is told. -/
theorem isSome_notice_settle (p : Panel α) (result : Except Problem (List α)) (current : Bool)
    (context : String) :
    (p.settle result current context).2.isSome = true ↔ ∃ problem, result = .error problem := by
  cases result with
  | error problem => exact ⟨fun _ => ⟨problem, rfl⟩, fun _ => rfl⟩
  | ok items => cases current <;> exact ⟨nofun, nofun⟩

end Panel

namespace Page

variable {α : Type}

/-- A table shows how far the loads of its panel are. While the first list is on its way, one row says
so. While another list is on its way, a bar says so, above the rows that are there. Otherwise nothing
says so. -/
structure ShowsProgress (p : Panel α) (frame : Markup) (headers : List String)
    (rows : List Markup) : Prop where
  first : p.loading = true → p.loaded = false →
    Reads frame [] headers [placeholderRow "Loading..." headers.length]
  again : p.loading = true → p.loaded = true → Reads frame ["Loading..."] headers rows
  idle : p.loading = false → Reads frame [] headers rows

/-- A table without rows waits for its first list, or there is nothing to wait for. -/
theorem showsProgress_after {moves : List (Panel.Move α)} {frame : Markup}
    {headers : List String} {rows : List α → String → List Markup} {nothing : String}
    (empty : ∀ message, rows [] message = [placeholderRow message headers.length])
    (read : let p := Panel.after moves
      Reads frame (if p.loading && p.loaded then ["Loading..."] else []) headers
        (rows p.items (emptyMessage p nothing))) :
    ShowsProgress (Panel.after moves) frame headers (rows (Panel.after moves).items nothing) where
  first loading new := by
    simpa [emptyMessage, Panel.awaitingFirstLoad, loading, new,
      Panel.items_eq_nil_of_not_loaded new, empty] using read
  again loading loaded := by
    simpa [emptyMessage, Panel.awaitingFirstLoad, loading, loaded] using read
  idle quiet := by
    simpa [emptyMessage, Panel.awaitingFirstLoad, quiet] using read

end Page

open Page

/-- **A panel remembers its last list, and its table shows it.** Whatever loads start and end, and in
whatever order: the rows are those of the last load that succeeded and counted, the panel has loaded
once there was one, it is loading if the start of a load was the last that happened, and a load that
ends is told of exactly if it failed.

So in each of its tables the first list is waited for by a row, with no bar above it, and each later
one by a bar, with the rows of the last list below it, or the row that says there are none. While no
load is out there is neither. -/
theorem panel_shows_what_it_remembers :
    (∀ {α : Type} (moves : List (Panel.Move α)),
      let p := Panel.after moves
      p.items = (moves.filterMap (·.list?)).getLast?.getD [] ∧
      (p.loaded = true ↔ ∃ m ∈ moves, ∃ items, m.list? = some items) ∧
      (p.loading = true ↔ moves.getLast? = some .begin) ∧
      ∀ result current context,
        (p.settle result current context).2.isSome = true ↔ ∃ problem, result = .error problem) ∧
    (∀ (zone : Time.Zone) (table : ExperimentTable) (moves : List (Panel.Move Experiment)),
      let p := Panel.after moves
      ShowsProgress p (experimentTable zone table p) table.headers
        (experimentRows zone table p.items "No experiments found")) ∧
    ∀ (zone : Time.Zone) (moves : List (Panel.Move Target)),
      let p := Panel.after moves
      ShowsProgress p (targetTable zone p) targetHeaders
        (targetRows zone p.items "No targets found") := by
  refine ⟨fun moves => ?_, fun zone table moves => ?_, fun zone moves => ?_⟩
  · intro p
    have remembered : p = _ := Panel.after_eq moves
    refine ⟨by rw [remembered], ?_, ?_, p.isSome_notice_settle⟩
    · rw [remembered]
      simp [Option.isSome_iff_exists]
    · rw [remembered]
      cases last : moves.getLast? with
      | none => simp
      | some m => cases m <;> simp [Panel.Move.isBegin]
  · exact showsProgress_after (fun _ => rfl) (reads_experimentTable zone table _)
  · exact showsProgress_after (fun _ => rfl) (reads_targetTable zone _)

/-- An experiment that comes too late, and a failure: still nothing is known. -/
def lateMoves : List (Panel.Move Experiment) :=
  [.begin, .settle (.ok [experimentAt "a" 1 .pending]) false "",
    .settle (.error (.network "timed out")) true "", .begin]

/-- Then a list that counts, and a failure while it is loaded again and again. -/
def countingMoves : List (Panel.Move Experiment) :=
  lateMoves ++ [.settle (.ok [experimentAt "b" 2 .running]) true "", .begin,
    .settle (.error (.network "timed out")) true "", .begin]

/-- The first list is waited for until one counts; the list that counts stays while others are waited
for. -/
theorem counting_list_is_waited_for_and_stays :
    let first := Panel.after lateMoves
    let again := Panel.after countingMoves
    (first.loading = true ∧ first.loaded = false ∧
      Reads (experimentTable .utc .recent first) [] ExperimentTable.recent.headers
        [placeholderRow "Loading..." 6]) ∧
    again.loading = true ∧ again.loaded = true ∧
      Reads (experimentTable .utc .recent again) ["Loading..."] ExperimentTable.recent.headers
        [experimentRow .utc .recent (experimentAt "b" 2 .running)] := by
  obtain ⟨-, shows, -⟩ := panel_shows_what_it_remembers
  have row : experimentRows .utc .recent [experimentAt "b" 2 .running] "No experiments found" =
      [experimentRow .utc .recent (experimentAt "b" 2 .running)] := by
    simp [experimentRows, ExperimentTable.select, newestFirst, recentLimit]
  exact ⟨⟨rfl, rfl, (shows .utc .recent lateMoves).first rfl rfl⟩, rfl, rfl,
    row ▸ (shows .utc .recent countingMoves).again rfl rfl⟩

end FaultConsole
