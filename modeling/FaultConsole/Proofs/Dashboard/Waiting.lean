import FaultConsole.Page.Tables
import FaultConsole.Proofs.Dashboard.Freshness
import FaultConsole.Proofs.Listing.Tables
import Mathlib.Data.List.Induction

/-!
# Which panels wait for their lists

A panel says by one mark that a load of it is out. Every load that starts sets the mark, and every
reply to a load of the panel clears it, whichever load it answers. As long as loads of a panel do
not overlap, that is the same as a load being out. They do overlap, though: the view may be entered
twice, and a change loads a panel again that is still being loaded.

* `loading_step` says what an event does to the marks, and `marked_record` what they mean after a
  run: a load of the panel is out, and since it was started no load of the panel was answered.
* `unfilled_iff` — until a list has counted, a panel has no rows.
* `awaiting_first_load_iff` puts the two together for a panel whose first list is on its way. The
  table says so only if nothing was answered since the newest load was started. Otherwise it says
  that there is nothing to show, although the list that will be shown is still out;
  `overtaken_answer_hides_loading` has a run that ends so.
-/

namespace FaultConsole

/-- The loader that a task ends a load of, if it does. -/
def Task.loader? : Task → Option Loader
  | .load t => some t.loader
  | _ => none

/-- The end of a load clears the mark, whatever came of it. -/
theorem Panel.loading_settle {α : Type} (p : Panel α) (result : Except Problem (List α))
    (current : Bool) (context : String) :
    (p.settle result current context).1.loading = false := by
  cases result with
  | error problem => rfl
  | ok items => cases current <;> rfl

namespace Dashboard

/-! ## The marks -/

/-- Whether the panel of a loader says that a load is out. -/
def loading (d : Dashboard) (l : Loader) : Bool := (d.panel l).loading

/-- Whether requests are loads for the panel of a loader. -/
def anyLoads (l : Loader) (ps : List Pending) : Bool := ps.any fun p => p.task.loader? == some l

theorem anyLoads_loads (l : Loader) (base : String) (router : Router) (ls : List Loader) :
    anyLoads l (ls.map (loadRequest base router)) = ls.any (· == l) := by
  rw [anyLoads, List.any_map]
  rfl

theorem loading_load (l l' : Loader) (d : Dashboard) :
    (d.load l).loading l' = (l == l' || d.loading l') := by
  cases l <;> cases l' <;> rfl

theorem loading_loadAll (ls : List Loader) (l : Loader) (d : Dashboard) :
    (d.loadAll ls).loading l = (ls.any (· == l) || d.loading l) := by
  induction ls generalizing d with
  | nil => rfl
  | cons l' ls ih =>
      have rest := ih (d.load l')
      rw [loading_load] at rest
      rw [List.any_cons, Bool.or_comm (l' == l), Bool.or_assoc]
      exact rest

theorem loading_notifyAny (n : Option Notice) (l : Loader) (d : Dashboard) :
    (notifyAny n d).loading l = d.loading l := by
  cases n <;> cases l <;> rfl

theorem loading_apply (o : Outcome) (l : Loader) (d : Dashboard) :
    (d.apply o).loading l = (o.reload.any (· == l) || d.loading l) := by
  unfold apply
  rw [loading_loadAll]
  cases o.detail with
  | none => rw [loading_notifyAny]
  | some detail =>
      have told := loading_notifyAny o.notice l d
      cases l <;> exact congrArg _ told

theorem loading_conclude (op : Operation) (o : Outcome) (l : Loader) (d : Dashboard) :
    (d.conclude op o).loading l = (o.reload.any (· == l) || d.loading l) := by
  rw [conclude, loading_apply]
  cases op <;> cases l <;> rfl

/-- An operation that starts, or that ends at once, loads nothing. -/
theorem loading_perform (op : Operation) (confirmed : Bool) (l : Loader) (d : Dashboard) :
    (d.perform op confirmed).loading l = d.loading l := by
  unfold perform
  cases h : op.start d.base confirmed with
  | ok call => cases l <;> rfl
  | error o =>
      simp only
      rw [loading_conclude, reload_of_start_eq_error h]
      rfl

theorem loading_configure (s : Settings) (l : Loader) (d : Dashboard) :
    (d.configure s).loading l = d.loading l := by
  cases l <;> simp only [loading, panel, configure]

theorem loading_wait (ms : Nat) (l : Loader) (d : Dashboard) :
    (d.wait ms).loading l = d.loading l :=
  wait_keeps (·.loading l) (by cases l <;> exact fun _ _ => rfl)
    (by cases l <;> exact fun _ _ _ => rfl) ms d

/-- The end of a load clears the mark of its own panel only. -/
theorem loading_settle (t : Ticket) (r : Reply) (l : Loader) (d : Dashboard) :
    (d.settle t r).loading l = (d.loading l && t.loader != l) := by
  have offered : (d.offerFrom t.loader r).loading l = d.loading l := by
    cases t.loader with
    | targets =>
        simp only [offerFrom, offer]
        cases r.targets <;> cases l <;> rfl
    | dashboard => rfl
    | experiments => rfl
  rw [settle_eq, loading_notifyAny]
  by_cases hl : t.loader = l
  · subst hl
    rw [loading, panel_setPanel_self, Panel.loading_settle, bne_self_eq_false, Bool.and_false]
  · rw [loading, panel_setPanel_of_ne hl, bne_iff_ne.mpr hl, Bool.and_true]
    exact offered

theorem loading_navigate (v : View) (l : Loader) (d : Dashboard) :
    (d.navigate v).loading l = (v.plan.loaders.any (· == l) || d.loading l) := by
  refine (loading_loadAll _ l _).trans ?_
  cases l <;> rfl

theorem loading_reload (l : Loader) (d : Dashboard) :
    d.reload.loading l = (d.router.active.plan.loaders.any (· == l) || d.loading l) := by
  refine (loading_loadAll _ l _).trans ?_
  cases l <;> rfl

theorem loading_receive (r : Reply) (task : Task) (l : Loader) (d : Dashboard) :
    (d.receive r task).loading l =
      (anyLoads l (d.answered r task) || (d.loading l && task.loader? != some l)) := by
  cases task with
  | configure =>
      have other : (Task.configure.loader? != some l) = true := rfl
      simp only [receive, answered]
      rw [anyLoads_loads, loading_reload, loading_configure, router_configure, other,
        Bool.and_true]
  | load t =>
      have own : ((Task.load t).loader? != some l) = (t.loader != l) := rfl
      rw [own]
      exact loading_settle t r l d
  | refreshChoices =>
      have other : (Task.refreshChoices.loader? != some l) = true := rfl
      rw [other, Bool.and_true]
      simp only [receive]
      cases r.targets with
      | ok targets => cases l <;> rfl
      | error p => exact loading_notifyAny (some _) l d
  | finish op =>
      have other : ((Task.finish op).loader? != some l) = true := rfl
      rw [other, Bool.and_true, answered, anyLoads_loads]
      exact loading_conclude op _ l d

/-- Whether an event starts a load for the panel of a loader. -/
def starts (d : Dashboard) (e : Event) (l : Loader) : Bool := anyLoads l (d.launched e)

/-- Whether an event ends a load for the panel of a loader. -/
def ends (d : Dashboard) (e : Event) (l : Loader) : Bool :=
  match e with
  | .deliver i _ => (d.pending[i]?).any fun p => p.task.loader? == some l
  | _ => false

/-- **What an event does to the marks.** -/
theorem loading_step (d : Dashboard) (e : Event) (l : Loader) :
    (d.step e).loading l = (d.starts e l || (d.loading l && !d.ends e l)) := by
  have begins : ∀ (op : Operation) (confirmed : Bool),
      anyLoads l (begun d.base confirmed op) = false := by
    intro op confirmed
    unfold begun
    cases op.start d.base confirmed <;> rfl
  cases e with
  | configure s => exact (loading_configure s l d).trans (Bool.and_true _).symm
  | navigate v =>
      simp only [starts, launched, ends, anyLoads_loads, Bool.not_false, Bool.and_true]
      exact loading_navigate v l d
  | reload =>
      simp only [starts, launched, ends, anyLoads_loads, Bool.not_false, Bool.and_true]
      exact loading_reload l d
  | load l' =>
      have started := anyLoads_loads l d.base d.router [l']
      simp only [List.map_cons, List.map_nil, List.any_cons, List.any_nil, Bool.or_false] at started
      simp only [starts, launched, ends, started, Bool.not_false, Bool.and_true]
      exact loading_load l' l d
  | submitExperiment =>
      simp only [starts, launched, ends, begins, Bool.not_false, Bool.and_true, Bool.false_or]
      refine (loading_perform _ _ l _).trans ?_
      cases l <;> rfl
  | submitTarget =>
      simp only [starts, launched, ends, begins, Bool.not_false, Bool.and_true, Bool.false_or]
      refine (loading_perform _ _ l _).trans ?_
      cases l <;> rfl
  | clickExperiment event confirmed =>
      simp only [starts, launched, ends, begins, Bool.not_false, Bool.and_true, Bool.false_or]
      exact loading_perform _ _ l d
  | clickTarget event confirmed =>
      simp only [starts, launched, ends, step, Bool.not_false, Bool.and_true]
      cases event.onTarget? with
      | none => rfl
      | some op =>
          simp only [begins, Bool.false_or]
          exact loading_perform op confirmed l d
  | wait ms => exact (loading_wait ms l d).trans (Bool.and_true _).symm
  | notify n => exact (loading_notifyAny (some n) l d).trans (Bool.and_true _).symm
  | deliver i r =>
      simp only [starts, launched, ends, step, deliver]
      cases hp : d.pending[i]? with
      | none => exact (Bool.and_true _).symm
      | some p =>
          simp only [Option.any_some]
          refine (loading_receive r p.task l _).trans ?_
          cases l <;> rfl
  | _ => cases l <;> exact (Bool.and_true _).symm

end Dashboard

/-! ## What the marks mean -/

/-- Whether a moment ended a load for the panel of a loader. -/
def Moment.ends (m : Moment) (l : Loader) : Bool := m.before.ends m.event l

namespace Flight

/-- Since the request was sent, no load for the panel of a loader has been answered. -/
abbrev Unanswered (f : Flight) (l : Loader) : Prop := ∀ m ∈ f.since, m.ends l = false

theorem loader?_eq (f : Flight) : f.loader? = f.request.task.loader? := by
  unfold loader? Task.loader?
  cases f.request.task <;> rfl

end Flight

namespace Chronicle

variable {c : Chronicle}

/-- An event starts a load exactly if one of the flights it starts is that load. -/
theorem starts_iff {e : Event} {l : Loader} :
    c.now.starts e l = true ↔ ∃ f ∈ c.launched e, f.Loads l := by
  rw [Dashboard.starts, Dashboard.anyLoads, ← launched_requests, List.any_map, List.any_eq_true]
  simp only [Function.comp_apply, beq_iff_eq, ← Flight.loader?_eq]

/-- A load stays out as long as no load of its panel is answered. -/
theorem Sound.mem_remaining_of_loads (h : c.Sound) {e : Event} {l : Loader} {f : Flight}
    (hf : f ∈ c.flights) (loads : f.Loads l) (he : c.now.ends e l = false) :
    f ∈ c.remaining e := by
  cases e with
  | deliver i r =>
      obtain ⟨j, hj⟩ := List.mem_iff_getElem?.mp hf
      refine List.mem_eraseIdx_iff_getElem?.mpr ⟨j, ?_, hj⟩
      rintro rfl
      have own : f.request.task.loader? = some l := f.loader?_eq.symm.trans loads
      rw [Dashboard.ends, h.pending_eq, hj] at he
      exact absurd he (by simp [own])
  | _ => exact hf

/-- The marks say which panels have a load out that is newer than the last answer. -/
def Marked (c : Chronicle) : Prop :=
  ∀ l, c.now.loading l = true ↔ ∃ f ∈ c.flights, f.Loads l ∧ f.Unanswered l

theorem marked_new (s : Settings) : (new s).Marked := by
  intro l
  have unmarked : (Dashboard.new s).loading l = false := by cases l <;> rfl
  simp [new, unmarked]

/-- **Every event keeps the meaning of the marks.** -/
theorem marked_step (h : c.Sound) (marked : c.Marked) (e : Event) : (c.step e).Marked := by
  intro l
  show (c.now.step e).loading l = true ↔ _
  rw [Dashboard.loading_step, Bool.or_eq_true, Bool.and_eq_true, Bool.not_eq_true']
  constructor
  · rintro (starts | ⟨loading, kept⟩)
    · obtain ⟨f, hf, loads⟩ := starts_iff.mp starts
      refine ⟨f, List.mem_append_right _ hf, loads, ?_⟩
      intro m hm
      rw [(mem_launched hf).2.1] at hm
      exact absurd hm List.not_mem_nil
    · obtain ⟨f, hf, loads, unanswered⟩ := (marked l).mp loading
      have remains := h.mem_remaining_of_loads hf loads kept
      refine ⟨f.outlasts ⟨c.now, e⟩,
        List.mem_append_left _ (List.mem_map.mpr ⟨f, remains, rfl⟩), loads, ?_⟩
      intro m hm
      rcases List.mem_append.mp hm with hm | hm
      · exact unanswered m hm
      · rw [List.mem_singleton.mp hm]
        exact kept
  · rintro ⟨f, hf, loads, unanswered⟩
    rcases mem_step hf with ⟨g, hg, rfl⟩ | hf
    · refine Or.inr ⟨(marked l).mpr ⟨g, hg, loads, ?_⟩, ?_⟩
      · exact fun m hm => unanswered m (List.mem_append_left _ hm)
      · exact unanswered ⟨c.now, e⟩ (List.mem_append_right _ (List.mem_singleton.mpr rfl))
    · exact Or.inl (starts_iff.mpr ⟨f, hf, loads⟩)

/-- **After every run a panel is marked exactly if a load of it is out and no load of it was
answered since.** -/
theorem marked_record (s : Settings) (es : List Event) : (record s es).Marked := by
  have keeps : ∀ c e, c.Sound ∧ c.Marked → (step c e).Sound ∧ (step c e).Marked :=
    fun c e h => ⟨sound_step c e h.1, marked_step h.1 h.2 e⟩
  exact (run_keeps keeps ⟨sound_new s, marked_new s⟩ es).2

/-! ## Until the first list -/

/-- No list has filled the panel of a loader in a run. -/
def Unfilled (s : Settings) (es : List Event) (l : Loader) : Prop :=
  ∀ before e after, es = before ++ e :: after → ∀ f items, ¬ (record s before).Fills e l f items

theorem record_concat (s : Settings) (es : List Event) (e : Event) :
    record s (es ++ [e]) = (record s es).step e := by
  simp [record, run]

theorem unfilled_concat_iff {s : Settings} {es : List Event} {e : Event} {l : Loader} :
    Unfilled s (es ++ [e]) l ↔
      Unfilled s es l ∧ ∀ f items, ¬ (record s es).Fills e l f items := by
  constructor
  · intro h
    refine ⟨?_, h es e [] rfl⟩
    rintro before e' after rfl
    exact h before e' (after ++ [e]) (by simp)
  · rintro ⟨old, last⟩ before e' after heq
    rcases List.eq_nil_or_concat after with rfl | ⟨after, e'', rfl⟩
    · obtain ⟨rfl, same⟩ := List.append_inj' heq rfl
      cases same
      exact last
    · have longer : es ++ [e] = (before ++ e' :: after) ++ [e''] := by simpa using heq
      obtain ⟨rfl, -⟩ := List.append_inj' longer rfl
      exact old before e' after rfl

/-- A panel knows whether a list has filled it. -/
theorem unfilled_iff (s : Settings) (es : List Event) (l : Loader) :
    Unfilled s es l ↔ ((record s es).now.panel l).loaded = false := by
  induction es using List.reverseRecOn with
  | nil =>
      have start : Unfilled s [] l := by
        intro before e after heq
        exact absurd heq (by simp)
      cases l <;> exact ⟨fun _ => rfl, fun _ => start⟩
  | append_singleton es e ih =>
      have sound := sound_record s es
      rw [unfilled_concat_iff, record_concat, ih]
      constructor
      · rintro ⟨old, last⟩
        exact (congrArg Prod.snd (sound.rows_of_not_fills last)).trans old
      · intro loaded
        have last : ∀ f items, ¬ (record s es).Fills e l f items := by
          intro f items hf
          exact absurd ((congrArg Prod.snd (sound.rows_of_fills hf)).symm.trans loaded) (by simp)
        exact ⟨(congrArg Prod.snd (sound.rows_of_not_fills last)).symm.trans loaded, last⟩

/-- Until then it has no rows. -/
theorem items_of_unfilled {s : Settings} {es : List Event} {l : Loader} (h : Unfilled s es l) :
    ((record s es).now.panel l).items = [] := by
  induction es using List.reverseRecOn with
  | nil => cases l <;> rfl
  | append_singleton es e ih =>
      obtain ⟨old, last⟩ := unfilled_concat_iff.mp h
      rw [record_concat]
      exact (congrArg Prod.fst ((sound_record s es).rows_of_not_fills last)).trans (ih old)

end Chronicle

/-! ## What the tables say -/

/-- What an empty table of a loader says. -/
def Loader.emptyMessage : Loader → String
  | .dashboard | .experiments => noExperiments
  | .targets => noTargets

namespace Page

/-- The table that shows the panel of a loader. -/
def panelTable (zone : Time.Zone) (d : Dashboard) : Loader → Markup
  | .dashboard => experimentTable zone .recent d.recent
  | .experiments => experimentTable zone .full d.experiments
  | .targets => targetTable zone d.targets

/-- The table of a loader with a message instead of rows, and without a bar above it. -/
def messageTable (message : String) : Loader → Markup
  | .dashboard => tableFrame false ExperimentTable.recent.headers [placeholderRow message 6]
  | .experiments => tableFrame false ExperimentTable.full.headers [placeholderRow message 7]
  | .targets => tableFrame false targetHeaders [placeholderRow message 6]

theorem targetBody_nil (zone : Time.Zone) :
    targetBody zone [] = .placeholder noTargets targetHeaders.length := by
  simp [targetBody, newestFirst, TableBody.ofRows]

/-- A panel that was never filled has a message in its table: that it is being loaded if it says
so itself, and else that there is nothing. -/
theorem panelTable_of_empty {zone : Time.Zone} {d : Dashboard} {l : Loader}
    (items : (d.panel l).items = []) (loaded : (d.panel l).loaded = false) :
    let awaits := (d.panel l).awaitingFirstLoad
    panelTable zone d l =
      messageTable (if awaits then loadingMessage else l.emptyMessage) l := by
  intro awaits
  have still : reloading (d.panel l) = false := by rw [reloading, loaded, Bool.and_false]
  cases l with
  | dashboard =>
      simp only [Dashboard.panel] at items still
      rw [panelTable, experimentTable, still, items, ExperimentTable.body_nil]
      rfl
  | experiments =>
      simp only [Dashboard.panel] at items still
      rw [panelTable, experimentTable, still, items, ExperimentTable.body_nil]
      rfl
  | targets =>
      simp only [Dashboard.panel] at items still
      rw [panelTable, targetTable, still, items, targetBody_nil]
      rfl

end Page

open Chronicle in
/-- **A panel waits for its first list exactly if none has filled it, a load of it is out, and no
load of it was answered since that one was started.**

The run may be any. It does not matter whether the load that was answered still counted: also a
reply that a navigation overtook, or one that brought no list, ends the waiting of the others. The
table then says that there is nothing, until their list comes. -/
theorem awaiting_first_load_iff (s : Settings) (es : List Event) (l : Loader) :
    let c := record s es
    let awaits := (c.now.panel l).awaitingFirstLoad
    (awaits = true ↔ Unfilled s es l ∧ ∃ f ∈ c.flights, f.Loads l ∧ f.Unanswered l) ∧
    (Unfilled s es l → ∀ zone, Page.panelTable zone c.now l =
      Page.messageTable (if awaits then loadingMessage else l.emptyMessage) l) := by
  have marked := marked_record s es l
  refine ⟨?_, ?_⟩
  · simp only [Panel.awaitingFirstLoad, Bool.and_eq_true, Bool.not_eq_true']
    rw [← unfilled_iff]
    exact ⟨fun h => ⟨h.2, marked.mp h.1⟩, fun h => ⟨marked.mpr h.2, h.1⟩⟩
  · intro unfilled zone
    exact Page.panelTable_of_empty (items_of_unfilled unfilled) ((unfilled_iff s es l).mp unfilled)

/-- The user goes to the targets twice. The first list arrives, and is dropped. -/
def targetsTwice : List Event := [.navigate .targets, .navigate .targets, .deliver 0 targetGone]

open Chronicle in
/-- **The reply to a load that was overtaken makes the table say that there is nothing**, while the
load that counts is still out. -/
theorem overtaken_answer_hides_loading :
    let c := record {} targetsTwice
    (∃ f ∈ c.flights, f.Loads .targets ∧ f.Undisturbed) ∧
      c.now.router.active = Loader.targets.view ∧ Unfilled {} targetsTwice .targets ∧
      (c.now.panel .targets).awaitingFirstLoad = false ∧
      Page.panelTable .utc c.now .targets = Page.messageTable noTargets .targets := by
  have unfilled : Unfilled {} targetsTwice .targets :=
    (unfilled_iff {} targetsTwice .targets).mpr rfl
  have overtaken : ((record {} targetsTwice).now.panel .targets).awaitingFirstLoad = false := rfl
  have undisturbed : ((record {} targetsTwice).flights.head (by decide)).Undisturbed := by decide
  have table := (awaiting_first_load_iff {} targetsTwice .targets).2 unfilled .utc
  rw [overtaken] at table
  exact ⟨⟨_, List.head_mem (by decide), rfl, undisturbed⟩, rfl, unfilled, overtaken, table⟩

end FaultConsole
