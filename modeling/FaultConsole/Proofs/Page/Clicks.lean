import FaultConsole.Proofs.Dashboard.Effects
import FaultConsole.Proofs.Page.Elements
import FaultConsole.Proofs.Text.Percent

/-!
# What a click in a table does

A table hears of every click in its body, and has nothing but the attributes around the place to
tell what was meant. `clicks_act_on_their_own_record` says that this is enough: a click on a control
starts the operation of that control on the record of its own row, and a click outside every button
does nothing.

The page that is clicked (`shown`) and the dashboard that is told (`now`) need not be the same: the
page may be older. A control holds the id of its record, so it means the same record later.
-/

namespace FaultConsole

open Text.Percent (encode decode? decode?_encode)

/-! ## Which control was hit -/

theorem RowAction.ofName?_name (a : RowAction) : RowAction.ofName? a.name = some a := by
  cases a <;> rfl

/-- Some attributes name no action. -/
def NameNoAction (attributes : Attributes) : Prop := attributes.lookup "data-action" = none

theorem find?_quiet {path : List Attributes} (quiet : ∀ a ∈ path, NameNoAction a) :
    path.find? (fun a => (a.lookup "data-action").isSome) = none := by
  rw [List.find?_eq_none]
  intro a ha
  simp [show a.lookup "data-action" = none from quiet a ha]

namespace RowEvent

/-- **A click anywhere in a control is the event of that control.** The id tells its record, so it
must not be empty. -/
theorem ofClick?_control {inside : List Attributes} (quiet : ∀ a ∈ inside, NameNoAction a)
    {id : String} (named : id ≠ "") (action : RowAction) (around : List Attributes) :
    ofClick? (inside ++ (Page.actionControl id action).attributes :: around) =
      some ⟨action, id⟩ := by
  simp [ofClick?, List.find?_append, find?_quiet quiet, Page.actionControl, Markup.attributes,
    Attribute.pair?, List.lookup_cons, ofAttributes?, RowAction.ofName?_name, named]

theorem ofClick?_quiet {path : List Attributes} (quiet : ∀ a ∈ path, NameNoAction a) :
    ofClick? path = none := by
  simp [ofClick?, find?_quiet quiet]

end RowEvent

/-! ## What is sent -/

namespace RowAction

/-- The requests of an action on an experiment, whose id is a segment of the path. -/
def experimentCalls (base segment : String) (confirmed : Bool) : RowAction → List Call
  | view => [{ method := .get, url := base ++ "/experiments/" ++ segment }]
  | execute => [{ method := .post, url := base ++ "/experiments/" ++ segment ++ "/execute" }]
  | stop => []
  | delete =>
    if confirmed then [{ method := .delete, url := base ++ "/experiments/" ++ segment }] else []

/-- The requests of an action on a target. -/
def targetCalls (base segment : String) (confirmed : Bool) : RowAction → List Call
  | view => [{ method := .get, url := base ++ "/targets" }]
  | execute | stop => []
  | delete =>
    if confirmed then [{ method := .delete, url := base ++ "/targets/" ++ segment }] else []

end RowAction

namespace Dashboard

theorem sent_perform (op : Operation) (confirmed : Bool) (d : Dashboard) :
    (d.perform op confirmed).sent = d.sent ++ (begun d.base confirmed op).map (·.call) :=
  congrArg Outbox.sent (outbox_perform op confirmed d)

theorem begun_onExperiment (base : String) (confirmed : Bool) (action : RowAction) (id : String) :
    (begun base confirmed (RowEvent.onExperiment ⟨action, id⟩)).map (·.call) =
      action.experimentCalls base (encode id) confirmed := by
  cases action <;> cases confirmed <;>
    simp [begun, RowEvent.onExperiment, Operation.start, Endpoint.call, Endpoint.method,
      Endpoint.path, RowAction.experimentCalls, String.append_assoc]

theorem begun_onTarget {base : String} {confirmed : Bool} {action : RowAction} {id : String}
    {op : Operation} (h : RowEvent.onTarget? ⟨action, id⟩ = some op) :
    (begun base confirmed op).map (·.call) =
      action.targetCalls base (encode id) confirmed := by
  cases action <;> cases confirmed <;> cases h <;>
    simp [begun, Operation.start, Endpoint.call, Endpoint.method, Endpoint.path,
      RowAction.targetCalls, String.append_assoc]

/-- The reply to the view of a target shows the first one with the id. -/
theorem detail_deliver_viewTarget {d : Dashboard} {k : Nat} {call : Call} {id : String}
    (out : d.pending[k]? = some ⟨call, .finish (.viewTarget id)⟩) {r : Reply}
    {before after : List Target} {t : Target} (listed : r.targets = .ok (before ++ t :: after))
    (found : t.id = id) (first : ∀ t' ∈ before, t'.id ≠ id) :
    (d.step (.deliver k r)).detail = some (.target t) := by
  have lookup : (before ++ t :: after).find? (·.id = id) = some t := by
    refine List.find?_eq_some_iff_append.mpr ⟨by simpa using found, before, after, rfl, ?_⟩
    intro t' ht'
    simpa using first t' ht'
  have shows : Operation.finish r (.viewTarget id) = .shown (.target t) := by
    rw [Operation.finish, Operation.result, Reply.target, listed]
    simp only [bind, Except.bind, lookup]
    rfl
  simp only [step, deliver, out, receive, shows]
  rfl

/-! ## Where the tables are -/

/-- The table of experiments in the active view, and the panel whose records it shows. -/
def experimentTable? (d : Dashboard) : Option (ExperimentTable × Panel Experiment) :=
  match d.router.active with
  | .dashboard => some (.recent, d.recent)
  | .experiments => some (.full, d.experiments)
  | _ => none

theorem contains_activeView (zone : Time.Zone) (debug : Bool) (d : Dashboard) {part : Markup}
    (h : (Page.activeView zone debug d).Contains part) : (d.page zone debug).Contains part := by
  have main : Markup.box "main" "flex-grow overflow-auto p-8" [Page.activeView zone debug d] ∈
      (d.page zone debug).children := by
    simp [page, Markup.children, Markup.box]
  exact .inside main (.inside List.mem_cons_self h)

theorem contains_experimentTable {d : Dashboard} {table : ExperimentTable} {p : Panel Experiment}
    (h : d.experimentTable? = some (table, p)) (zone : Time.Zone) (debug : Bool) :
    (d.page zone debug).Contains (Page.experimentTable zone table p) := by
  refine contains_activeView zone debug d ?_
  unfold experimentTable? at h
  unfold Page.activeView
  cases active : d.router.active <;> rw [active] at h <;> cases h
  · exact .inside (List.mem_cons_of_mem _ (List.mem_cons_of_mem _ List.mem_cons_self))
      (.inside (List.mem_cons_of_mem _ List.mem_cons_self) (.here _))
  · exact .inside (List.mem_cons_of_mem _ List.mem_cons_self) (.here _)

theorem contains_targetTable {d : Dashboard} (active : d.router.active = .targets) (zone : Time.Zone)
    (debug : Bool) : (d.page zone debug).Contains (Page.targetTable zone d.targets) := by
  refine contains_activeView zone debug d ?_
  unfold Page.activeView
  rw [active]
  exact .inside (List.mem_cons_of_mem _ List.mem_cons_self) (.here _)

/-- The records of a table are those of its panel. -/
theorem mem_of_mem_select {table : ExperimentTable} {items : List Experiment} {e : Experiment}
    (h : e ∈ table.select items) : e ∈ items := by
  have sorted : e ∈ newestFirst (·.createdAt) items := by
    cases table with
    | recent => exact List.mem_of_mem_take h
    | full => exact h
  exact List.mem_mergeSort.mp sorted

/-! ## From a click to the requests -/

/-- A click anywhere in a control starts an operation, which sends some calls. `inside` are the
elements from the place up to the control, `around` those around the control. -/
def ClickStarts (d : Dashboard) (listen : RowEvent → Bool → Event) (confirmed : Bool)
    (control : Markup) (op : Operation) (calls : List Call) : Prop :=
  ∀ inside around : List Attributes, (∀ a ∈ inside, NameNoAction a) →
    let after := d.click listen (inside ++ control.attributes :: around) confirmed
    after = d.perform op confirmed ∧ after.sent = d.sent ++ calls

theorem clickStarts_experiment (d : Dashboard) (confirmed : Bool) {id : String} (named : id ≠ "")
    (a : RowAction) :
    d.ClickStarts .clickExperiment confirmed (Page.actionControl id a)
      (RowEvent.onExperiment ⟨a, id⟩) (a.experimentCalls d.base (encode id) confirmed) := by
  intro inside around quiet after
  have started : after = d.perform (RowEvent.onExperiment ⟨a, id⟩) confirmed := by
    simp only [after, click, RowEvent.ofClick?_control quiet named, step]
  refine ⟨started, ?_⟩
  rw [started, sent_perform, begun_onExperiment]

theorem clickStarts_target (d : Dashboard) (confirmed : Bool) {id : String} (named : id ≠ "")
    {a : RowAction} {op : Operation} (h : RowEvent.onTarget? ⟨a, id⟩ = some op) :
    d.ClickStarts .clickTarget confirmed (Page.actionControl id a) op
      (a.targetCalls d.base (encode id) confirmed) := by
  intro inside around quiet after
  have started : after = d.perform op confirmed := by
    simp only [after, click, RowEvent.ofClick?_control quiet named, step, h]
  refine ⟨started, ?_⟩
  rw [started, sent_perform, begun_onTarget h]

/-- What names an action in the row of an experiment does so for that experiment. -/
theorem clickStarts_of_experimentRow (d : Dashboard) (confirmed : Bool) {zone : Time.Zone}
    {table : ExperimentTable} {e : Experiment} (named : e.id ≠ "") {control : Markup}
    (inRow : (Page.experimentRow zone table e).Contains control) (names : control.NamesAction) :
    ∃ a ∈ table.actions e.status, control = Page.actionControl e.id a ∧
      ∃ segment, decode? segment = some e.id ∧
        d.ClickStarts .clickExperiment confirmed control (RowEvent.onExperiment ⟨a, e.id⟩)
          (a.experimentCalls d.base segment confirmed) := by
  have own := (Page.only_experimentRow zone table e
    (P := fun x => ∃ a ∈ table.actions e.status, x = Page.actionControl e.id a)).mpr
    fun a offered => ⟨a, offered, rfl⟩
  obtain ⟨a, offered, rfl⟩ := own control inRow names
  exact ⟨a, offered, rfl, encode e.id, decode?_encode e.id,
    d.clickStarts_experiment confirmed named a⟩

theorem clickStarts_of_targetRow (d : Dashboard) (confirmed : Bool) {zone : Time.Zone} {t : Target}
    (named : t.id ≠ "") {control : Markup}
    (inRow : (Page.targetRow zone t).Contains control) (names : control.NamesAction) :
    ∃ a ∈ targetActions, control = Page.actionControl t.id a ∧
      ∃ op, RowEvent.onTarget? ⟨a, t.id⟩ = some op ∧
        ∃ segment, decode? segment = some t.id ∧
          d.ClickStarts .clickTarget confirmed control op
            (a.targetCalls d.base segment confirmed) := by
  have own := (Page.only_targetRow zone t
    (P := fun x => ∃ a ∈ targetActions, x = Page.actionControl t.id a)).mpr
    fun a offered => ⟨a, offered, rfl⟩
  obtain ⟨a, offered, rfl⟩ := own control inRow names
  -- a target's row offers only what can be done with targets
  have started : ∃ op, RowEvent.onTarget? ⟨a, t.id⟩ = some op := by
    cases a with
    | view | delete => exact ⟨_, rfl⟩
    | execute | stop => simp [targetActions] at offered
  obtain ⟨op, hop⟩ := started
  exact ⟨a, offered, rfl, op, hop, encode t.id, decode?_encode t.id,
    d.clickStarts_target confirmed named hop⟩

/-- A place of the page outside every button has nothing around it that names an action. -/
theorem quiet_of_outside {d : Dashboard} {zone : Time.Zone} {debug : Bool} {path : List Markup}
    (way : (d.page zone debug).Outward path) (outside : ∀ m ∈ path, ¬m.IsButton) :
    ∀ a ∈ path.map (·.attributes), NameNoAction a := by
  intro a ha
  obtain ⟨m, onPath, rfl⟩ := List.mem_map.mp ha
  have unnamed : ¬m.NamesAction := fun names =>
    outside m onPath (Page.only_buttons_page zone debug d m (way.contains onPath) names)
  rwa [Markup.NamesAction, Option.not_isSome_iff_eq_none] at unnamed

end Dashboard

open Page (experimentTable experimentRow targetTable targetRow actionControl)

/-- **A click in a table acts on the record of the row that was hit, and on no other.** The page is
that of any dashboard whose records have ids, and the dashboard that hears of the click may have
moved on since. -/
theorem clicks_act_on_their_own_record (shown now : Dashboard) (zone : Time.Zone)
    (debug confirmed : Bool)
    (named : ∀ table p, shown.experimentTable? = some (table, p) → ∀ e ∈ p.items, e.id ≠ "")
    (targetsNamed : ∀ t ∈ shown.targets.items, t.id ≠ "") :
    -- the table of experiments that is on the page, with the row of each record it shows
    (∀ table p, shown.experimentTable? = some (table, p) →
      (shown.page zone debug).Contains (experimentTable zone table p) ∧
      ∀ e ∈ table.select p.items,
        (experimentTable zone table p).Contains (experimentRow zone table e) ∧
        (∀ a ∈ table.actions e.status,
          (experimentRow zone table e).Contains (actionControl e.id a)) ∧
        ∀ control, (experimentRow zone table e).Contains control → control.NamesAction →
          ∃ a ∈ table.actions e.status, control = actionControl e.id a ∧
            ∃ segment, decode? segment = some e.id ∧
              now.ClickStarts .clickExperiment confirmed control (RowEvent.onExperiment ⟨a, e.id⟩)
                (a.experimentCalls now.base segment confirmed)) ∧
    -- the table of targets
    (shown.router.active = .targets →
      (shown.page zone debug).Contains (targetTable zone shown.targets) ∧
      ∀ t ∈ newestFirst (·.createdAt) shown.targets.items,
        (targetTable zone shown.targets).Contains (targetRow zone t) ∧
        (∀ a ∈ targetActions, (targetRow zone t).Contains (actionControl t.id a)) ∧
        ∀ control, (targetRow zone t).Contains control → control.NamesAction →
          ∃ a ∈ targetActions, control = actionControl t.id a ∧
            ∃ op, RowEvent.onTarget? ⟨a, t.id⟩ = some op ∧
              ∃ segment, decode? segment = some t.id ∧
                now.ClickStarts .clickTarget confirmed control op
                  (a.targetCalls now.base segment confirmed)) ∧
    -- the view of a target waits for the list, and shows the first target there that has the id
    (∀ id,
      (now.perform (.viewTarget id) confirmed).pending =
        now.pending ++ [⟨Endpoint.listTargets.call now.base, .finish (.viewTarget id)⟩] ∧
      ∀ (later : Dashboard) (k : Nat) (call : Call) (r : Reply) (before after : List Target)
        (t : Target), later.pending[k]? = some ⟨call, .finish (.viewTarget id)⟩ →
        r.targets = .ok (before ++ t :: after) → t.id = id → (∀ t' ∈ before, t'.id ≠ id) →
        (later.step (.deliver k r)).detail = some (.target t)) ∧
    -- a click outside every button does nothing, in whatever stands inside the place and around
    -- the page
    ∀ (listen : RowEvent → Bool → Event) (path : List Markup) (inside around : List Attributes),
      (shown.page zone debug).Outward path → (∀ m ∈ path, ¬m.IsButton) →
      (∀ a ∈ inside, NameNoAction a) → (∀ a ∈ around, NameNoAction a) →
      now.click listen (inside ++ path.map (·.attributes) ++ around) confirmed = now := by
  refine ⟨?_, ?_, ?_, ?_⟩
  · intro table p onPage
    refine ⟨Dashboard.contains_experimentTable onPage zone debug, fun e he => ⟨?_, ?_, ?_⟩⟩
    · exact Page.contains_experimentRow zone table p he
    · intro a offered
      exact Page.contains_actionControl_experimentRow zone table e offered
    · intro control inRow names
      have hasId := named table p onPage e (Dashboard.mem_of_mem_select he)
      exact now.clickStarts_of_experimentRow confirmed hasId inRow names
  · intro active
    refine ⟨Dashboard.contains_targetTable active zone debug, fun t ht => ⟨?_, ?_, ?_⟩⟩
    · exact Page.contains_targetRow zone shown.targets ht
    · intro a offered
      exact Page.contains_actionControl_targetRow zone t offered
    · intro control inRow names
      have hasId := targetsNamed t (List.mem_mergeSort.mp ht)
      exact now.clickStarts_of_targetRow confirmed hasId inRow names
  · intro id
    refine ⟨rfl, ?_⟩
    intro later k call r before after t out listed found first
    exact Dashboard.detail_deliver_viewTarget out listed found first
  · intro listen path inside around way outside insideQuiet aroundQuiet
    have quiet : ∀ a ∈ inside ++ path.map (·.attributes) ++ around, NameNoAction a := by
      simp only [List.forall_mem_append]
      exact ⟨⟨insideQuiet, Dashboard.quiet_of_outside way outside⟩, aroundQuiet⟩
    rw [Dashboard.click, RowEvent.ofClick?_quiet quiet]

/-- An experiment whose id looks like a path. -/
def slashedExperiment : Experiment :=
  { id := "a/b", name := "outage", description := "", kind := .podFailure, target := "app=web"
    parameters := .null, duration := 60, status := .pending, createdAt := ⟨0, 0⟩
    updatedAt := none }

/-- The full table with that experiment alone. -/
def slashedTable : Dashboard :=
  { base := "/api/v1", router := { active := .experiments }
    experiments := { items := [slashedExperiment], loaded := true } }

/-- A click on the drawing in its delete control asks for that one record, once confirmed. -/
theorem slashed_experiment_is_deleted :
    (∀ table p, slashedTable.experimentTable? = some (table, p) → ∀ e ∈ p.items, e.id ≠ "") ∧
    (∀ t ∈ slashedTable.targets.items, t.id ≠ "") ∧
    ∃ segment, decode? segment = some "a/b" ∧
      (slashedTable.click .clickExperiment
        ([("data-icon", "Trash2")] :: [(actionControl "a/b" .delete).attributes]) true).sent =
        [{ method := .delete, url := "/api/v1/experiments/" ++ segment }] := by
  have named : ∀ table p, slashedTable.experimentTable? = some (table, p) →
      ∀ e ∈ p.items, e.id ≠ "" := by
    rintro table p ⟨⟩ e he
    rw [List.mem_singleton.mp he]
    decide
  have targetsNamed : ∀ t ∈ slashedTable.targets.items, t.id ≠ "" := nofun
  refine ⟨named, targetsNamed, ?_⟩
  obtain ⟨experiments, -⟩ :=
    clicks_act_on_their_own_record slashedTable slashedTable .utc false true named targetsNamed
  have inTable : slashedExperiment ∈ ExperimentTable.full.select slashedTable.experiments.items :=
    List.mem_mergeSort.mpr List.mem_cons_self
  obtain ⟨-, offered, starts⟩ := (experiments .full _ rfl).2 slashedExperiment inTable
  obtain ⟨a, -, same, segment, decoded, starts⟩ :=
    starts (actionControl "a/b" .delete) (offered .delete (by decide)) rfl
  have delete : a = .delete := by
    cases a <;> simp [actionControl, RowAction.name] at same ⊢
  subst delete
  exact ⟨segment, decoded, (starts [[("data-icon", "Trash2")]] [] (by simp [NameNoAction])).2⟩

end FaultConsole
