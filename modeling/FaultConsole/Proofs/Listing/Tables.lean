import FaultConsole.Proofs.Listing.Order
import Mathlib.Data.List.Forall2

/-!
# The tables of experiments

A table of experiments is told by its list of experiments: `Shows` says what a row is for one of them,
and `tables_list_experiments_newest_first` that the full table has such a row for each, in the order
of `IsListing`. The recent table is no second opinion. It is the front of the full one, with nothing
to delete, although it is made from the list by itself.
-/

namespace FaultConsole

/-! ## Rows -/

/-- When an action is offered for an experiment of a status. -/
def RowAction.IsOffered (table : ExperimentTable) (status : Status) : RowAction → Prop
  | view => True
  | execute => status = .pending
  | stop => status = .running
  | delete => table = .full

theorem ExperimentTable.mem_actions_iff {table : ExperimentTable} {status : Status}
    {a : RowAction} : a ∈ table.actions status ↔ a.IsOffered table status := by
  cases table <;> cases status <;> cases a <;> simp [actions, RowAction.IsOffered]

/-- A row is that of an experiment: it has its fields, its badge, and the actions that are offered
for it, each of them once. -/
structure ExperimentRow.Shows (zone : Time.Zone) (table : ExperimentTable) (row : ExperimentRow)
    (e : Experiment) : Prop where
  id : row.id = e.id
  name : row.name = e.name
  kind : row.kind = e.kind.name
  target : row.target = e.target
  status : row.status = e.status.name
  badge : row.badge = .ofStatus e.status
  created : row.created = e.createdAt.shortText zone
  duration : row.duration = toString e.duration ++ "s"
  actions : row.actions.Sublist [.view, .execute, .stop, .delete]
  offered : ∀ a, a ∈ row.actions ↔ a.IsOffered table e.status

theorem Experiment.shows_row (zone : Time.Zone) (table : ExperimentTable) (e : Experiment) :
    (e.row zone table).Shows zone table e where
  id := rfl
  name := rfl
  kind := rfl
  target := rfl
  status := rfl
  badge := rfl
  created := rfl
  duration := rfl
  actions := by
    simp only [row]
    cases table <;> cases e.status <;> simp [ExperimentTable.actions]
  offered _ := ExperimentTable.mem_actions_iff

theorem ExperimentRow.ids_of_shows {zone : Time.Zone} {table : ExperimentTable}
    {rows : List ExperimentRow} {es : List Experiment}
    (h : List.Forall₂ (Shows zone table) rows es) : rows.map (·.id) = es.map (·.id) := by
  induction h with
  | nil => rfl
  | cons shown _ ih => rw [List.map_cons, List.map_cons, shown.id, ih]

/-- A row with nothing to delete. -/
def ExperimentRow.withoutDelete (row : ExperimentRow) : ExperimentRow :=
  { row with actions := row.actions.filter (· ≠ .delete) }

theorem Experiment.row_recent (zone : Time.Zone) (e : Experiment) :
    e.row zone .recent = (e.row zone .full).withoutDelete := by
  simp only [row, ExperimentRow.withoutDelete]
  cases e.status <;> rfl

/-! ## Bodies -/

theorem newestFirst_eq_nil_iff {α : Type} {createdAt : α → Time.Instant} {items : List α} :
    newestFirst createdAt items = [] ↔ items = [] := by
  rw [← List.length_eq_zero_iff, (newestFirst_perm createdAt items).length_eq,
    List.length_eq_zero_iff]

theorem TableBody.ofRows_of_ne_nil {Row : Type} {message : String} {colspan : Nat}
    {rs : List Row} (h : rs ≠ []) : ofRows message colspan rs = rows rs := by
  cases rs with
  | nil => exact absurd rfl h
  | cons r rs => rfl

namespace ExperimentTable

theorem select_eq_nil_iff {table : ExperimentTable} {es : List Experiment} :
    table.select es = [] ↔ es = [] := by
  cases table with
  | recent =>
      simp only [select, recentLimit, List.take_eq_nil_iff, newestFirst_eq_nil_iff]
      simp
  | full => exact newestFirst_eq_nil_iff

theorem body_nil (zone : Time.Zone) (table : ExperimentTable) :
    table.body zone [] = .placeholder noExperiments table.headers.length := by
  rw [body, select_eq_nil_iff.mpr rfl]
  rfl

theorem body_of_ne_nil (zone : Time.Zone) (table : ExperimentTable) {es : List Experiment}
    (h : es ≠ []) : table.body zone es = .rows ((table.select es).map (·.row zone table)) :=
  TableBody.ofRows_of_ne_nil (mt List.map_eq_nil_iff.mp (mt select_eq_nil_iff.mp h))

/-- The recent table is the front of the full one, with nothing to delete. -/
theorem rows_recent (zone : Time.Zone) (es : List Experiment) :
    (select .recent es).map (·.row zone .recent) =
      (((select .full es).map (·.row zone .full)).take 5).map (·.withoutDelete) := by
  rw [← List.map_take, List.map_map]
  exact List.map_congr_left fun e _ => e.row_recent zone

/-- The rows of the full table are those of the experiments, place by place. -/
theorem forall₂_rows_full (zone : Time.Zone) (es : List Experiment) :
    List.Forall₂ (ExperimentRow.Shows zone .full) ((select .full es).map (·.row zone .full))
      ((listing (·.createdAt) es).map (es[·])) := by
  have sorted : select .full es = newestFirst (·.createdAt) es := rfl
  rw [sorted, newestFirst_eq_map_listing, List.forall₂_map_left_iff]
  exact List.forall₂_same.mpr fun e _ => e.shows_row zone .full

theorem body_congr (zone : Time.Zone) (table : ExperimentTable) {es es' : List Experiment}
    (same : es'.Perm es) (distinct : (es.map (·.createdAt)).Nodup) :
    table.body zone es' = table.body zone es := by
  have sorted := newestFirst_congr same distinct
  cases table <;> simp only [body, select, sorted]

end ExperimentTable

/-- **The tables of experiments list them from the newest to the oldest.** An empty list has one row
that says so. Any other has in the full table a row for each of its experiments, in the order in which
its places are listed, and in the recent table the first five of these rows with nothing to delete.
Where no two experiments were created at the same instant, it does not matter in which order they
come. -/
theorem tables_list_experiments_newest_first (zone : Time.Zone) (es : List Experiment) :
    (∀ table : ExperimentTable,
      table.body zone es = .placeholder "No experiments found" table.headers.length ↔ es = []) ∧
    (es ≠ [] → ∃ places rows, IsListing (·.createdAt) es places ∧
      ExperimentTable.full.body zone es = .rows rows ∧
      List.Forall₂ (ExperimentRow.Shows zone .full) rows (places.map (es[·])) ∧
      ExperimentTable.recent.body zone es = .rows ((rows.take 5).map (·.withoutDelete))) ∧
    ∀ es' : List Experiment, es'.Perm es → (es.map (·.createdAt)).Nodup →
      ∀ table : ExperimentTable, table.body zone es' = table.body zone es := by
  refine ⟨fun table => ⟨fun placeholder => ?_, ?_⟩, fun some_experiment => ?_, ?_⟩
  · by_contra some_experiment
    rw [table.body_of_ne_nil zone some_experiment] at placeholder
    cases placeholder
  · rintro rfl
    exact table.body_nil zone
  · refine ⟨listing (·.createdAt) es, _, isListing_listing _ es,
      ExperimentTable.full.body_of_ne_nil zone some_experiment,
      ExperimentTable.forall₂_rows_full zone es, ?_⟩
    rw [ExperimentTable.recent.body_of_ne_nil zone some_experiment, ExperimentTable.rows_recent]
  · intro es' same distinct table
    exact table.body_congr zone same distinct

/-- An experiment of a second and a status. -/
def experimentAt (id : String) (second : Int) (status : Status) : Experiment :=
  { id, name := "", description := "", kind := .podFailure, target := "", parameters := .null,
    duration := 1, status, createdAt := ⟨second, 0⟩, updatedAt := none }

/-- Six experiments, three of which were created at the same instant. -/
def tiedExperiments : List Experiment :=
  [experimentAt "a" 7 .pending, experimentAt "b" 8 .running, experimentAt "c" 7 .failed,
    experimentAt "d" 9 .completed, experimentAt "e" 7 .pending, experimentAt "f" 6 .running]

/-- The order in which they are listed. -/
def tiedPlaces : List (Fin tiedExperiments.length) := ([3, 1, 0, 2, 4, 5] : List (Fin 6))

/-- They are listed as they come, between the newer and the older ones; the oldest is not recent. The
first two could as well have come the other way round. -/
theorem tied_experiments_keep_their_order :
    (tiedExperiments ≠ [] ∧ ∃ rows,
      ExperimentTable.full.body .utc tiedExperiments = .rows rows ∧
      rows.map (·.id) = ["d", "b", "a", "c", "e", "f"] ∧
      ∃ recent, ExperimentTable.recent.body .utc tiedExperiments = .rows recent ∧
        recent.map (·.id) = ["d", "b", "a", "c", "e"]) ∧
    let apart := tiedExperiments.take 2
    apart.reverse.Perm apart ∧ (apart.map (·.createdAt)).Nodup ∧
      ∀ table : ExperimentTable, table.body .utc apart.reverse = table.body .utc apart := by
  have some_experiment : tiedExperiments ≠ [] := by decide
  have turned := (tiedExperiments.take 2).reverse_perm
  have distinct : ((tiedExperiments.take 2).map (·.createdAt)).Nodup := by decide
  have congr := (tables_list_experiments_newest_first .utc (tiedExperiments.take 2)).2.2
  obtain ⟨-, listed, -⟩ := tables_list_experiments_newest_first .utc tiedExperiments
  obtain ⟨places, rows, listing, full, shown, recent⟩ := listed some_experiment
  have known : IsListing (·.createdAt) tiedExperiments tiedPlaces := ⟨by decide, by decide⟩
  obtain rfl := listing.unique known
  have ids : rows.map (·.id) = ["d", "b", "a", "c", "e", "f"] := ExperimentRow.ids_of_shows shown
  refine ⟨⟨some_experiment, rows, full, ids, _, recent, ?_⟩, turned, distinct,
    congr _ turned distinct⟩
  calc ((rows.take 5).map (·.withoutDelete)).map (·.id)
      = (rows.map (·.id)).take 5 := by rw [List.map_map, ← List.map_take]; rfl
    _ = ["d", "b", "a", "c", "e"] := by rw [ids]; rfl

end FaultConsole
