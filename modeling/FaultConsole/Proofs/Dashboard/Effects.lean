import FaultConsole.Dashboard.Event
import FaultConsole.Proofs.Outcome.Problems

/-!
# What one event does

The dashboard has many operations, but what becomes of a reply that is still out depends on few
of its parts: where requests go, which navigation is the last, which rows are shown, and which
targets the experiment form offers. Those parts are gathered in `Holdings`, and the requests in
`Outbox`. Each operation has one lemma for each of the two views, and the two theorems at the
end say all that an event can do to them:

* `holdings_step` — only settings, navigations and replies change what is held;
* `outbox_step` — an event sends what `launched` says, behind what it leaves out.

Every invariant of a run is derived from these two, so no later proof opens an operation again.
-/

namespace FaultConsole

/-! ## One name for the three panels -/

/-- What the list of a loader is made of. -/
abbrev Loader.Item : Loader → Type
  | .dashboard | .experiments => Experiment
  | .targets => Target

/-- The list that a reply holds for a loader. -/
def Reply.list (r : Reply) : (l : Loader) → Except Problem (List l.Item)
  | .dashboard | .experiments => r.experiments
  | .targets => r.targets

/-- What a panel has from its loads: its rows, and whether any load has succeeded. -/
def Panel.rows {α : Type} (p : Panel α) : List α × Bool := (p.items, p.loaded)

/-- A load replaces the rows if it succeeded and still counts, and keeps them otherwise. -/
theorem Panel.rows_settle {α : Type} (p : Panel α) (result : Except Problem (List α))
    (current : Bool) (context : String) :
    (p.settle result current context).1.rows =
      match result with
      | .ok items => if current then (items, true) else p.rows
      | .error _ => p.rows := by
  cases result with
  | error problem => rfl
  | ok items => cases current <;> rfl

namespace Dashboard

/-- The panel that a loader fills. -/
def panel (d : Dashboard) : (l : Loader) → Panel l.Item
  | .dashboard => d.recent
  | .experiments => d.experiments
  | .targets => d.targets

/-! ## What the dashboard holds -/

/-- The parts of the dashboard that decide what becomes of a list, and those that show one. -/
structure Holdings where
  base : String
  router : Router
  rows : (l : Loader) → List l.Item × Bool
  choices : List Target

/-- What the dashboard holds. -/
def holdings (d : Dashboard) : Holdings :=
  { base := d.base, router := d.router, rows := fun l => (d.panel l).rows,
    choices := d.targetChoices }

theorem base_eq {d d' : Dashboard} (h : d'.holdings = d.holdings) : d'.base = d.base :=
  congrArg Holdings.base h

theorem router_eq {d d' : Dashboard} (h : d'.holdings = d.holdings) : d'.router = d.router :=
  congrArg Holdings.router h

/-- Only the base is new. It stands as a variable here: the text that settings give is long in the
making, and what it is does not matter to the rest. -/
theorem holdings_withBase (base : String) (d : Dashboard) :
    { d with base }.holdings = { d.holdings with base } := rfl

theorem holdings_configure (s : Settings) (d : Dashboard) :
    (d.configure s).holdings = { d.holdings with base := s.apiBase } :=
  holdings_withBase s.apiBase d

theorem router_configure (s : Settings) (d : Dashboard) : (d.configure s).router = d.router := by
  rw [configure]

theorem base_configure (s : Settings) (d : Dashboard) : (d.configure s).base = s.apiBase := by
  rw [configure]

theorem holdings_send (call : Call) (task : Task) (d : Dashboard) :
    (d.send call task).holdings = d.holdings := rfl

theorem holdings_notifyAny (n : Option Notice) (d : Dashboard) :
    (notifyAny n d).holdings = d.holdings := by
  cases n <;> rfl

theorem holdings_dismiss (id : Nat) (d : Dashboard) : (d.dismiss id).holdings = d.holdings := rfl

/-- Time only takes notices away, so a view of the dashboard that sees neither them nor the clock
stays as it is. -/
theorem wait_keeps {View : Type} (view : Dashboard → View)
    (dismissed : ∀ id d, view (d.dismiss id) = view d)
    (passed : ∀ clock timers d, view { d with clock, timers } = view d) (ms : Nat)
    (d : Dashboard) : view (d.wait ms) = view d := by
  -- timers only dismiss, however many are due
  have dismissedAll : ∀ (ts : List Timer) (d' : Dashboard),
      view (ts.foldl (fun d t => d.dismiss t.notice) d') = view d' := by
    intro ts
    induction ts with
    | nil => intro d'; rfl
    | cons t ts ih => intro d'; exact (ih _).trans (dismissed t.notice d')
  exact (dismissedAll _ _).trans (passed _ _ d)

theorem holdings_wait (ms : Nat) (d : Dashboard) : (d.wait ms).holdings = d.holdings :=
  wait_keeps holdings holdings_dismiss (fun _ _ _ => rfl) ms d

theorem holdings_begin (l : Loader) (d : Dashboard) : (d.begin l).holdings = d.holdings := by
  have rows : (fun l' => ((d.begin l).panel l').rows) = fun l' => (d.panel l').rows := by
    funext l'
    cases l <;> cases l' <;> rfl
  unfold holdings
  rw [rows]
  cases l <;> rfl

theorem holdings_load (l : Loader) (d : Dashboard) : (d.load l).holdings = d.holdings := by
  rw [load, holdings_send, holdings_begin]

theorem holdings_loadAll (ls : List Loader) (d : Dashboard) :
    (d.loadAll ls).holdings = d.holdings := by
  induction ls generalizing d with
  | nil => rfl
  | cons l ls ih => exact (ih (d.load l)).trans (holdings_load l d)

theorem holdings_apply (o : Outcome) (d : Dashboard) : (d.apply o).holdings = d.holdings := by
  unfold apply
  rw [holdings_loadAll]
  cases o.detail with
  | none => exact holdings_notifyAny o.notice d
  | some detail => exact holdings_notifyAny o.notice d

theorem holdings_settleModal (op : Operation) (succeeded : Bool) (d : Dashboard) :
    (d.settleModal op succeeded).holdings = d.holdings := by
  cases op <;> rfl

theorem holdings_conclude (op : Operation) (o : Outcome) (d : Dashboard) :
    (d.conclude op o).holdings = d.holdings := by
  rw [conclude, holdings_apply, holdings_settleModal]

theorem holdings_perform (op : Operation) (confirmed : Bool) (d : Dashboard) :
    (d.perform op confirmed).holdings = d.holdings := by
  unfold perform
  cases op.start d.base confirmed with
  | ok call => exact holdings_send call _ d
  | error o => exact holdings_conclude op o d

theorem holdings_loadActive (d : Dashboard) : d.loadActive.holdings = d.holdings :=
  holdings_loadAll _ d

theorem holdings_navigate (v : View) (d : Dashboard) :
    (d.navigate v).holdings = { d.holdings with router := d.router.navigate v } :=
  holdings_loadActive _

theorem holdings_reload (d : Dashboard) :
    d.reload.holdings = { d.holdings with router := d.router.reload } :=
  holdings_loadActive _

/-! ### Replies -/

/-- The dashboard with another panel for a loader. -/
def setPanel (l : Loader) (p : Panel l.Item) (d : Dashboard) : Dashboard :=
  match l with
  | .dashboard => { d with recent := p }
  | .experiments => { d with experiments := p }
  | .targets => { d with targets := p }

@[simp] theorem panel_setPanel_self (l : Loader) (p : Panel l.Item) (d : Dashboard) :
    (d.setPanel l p).panel l = p := by
  cases l <;> rfl

theorem panel_setPanel_of_ne {l l' : Loader} (h : l ≠ l') (p : Panel l.Item) (d : Dashboard) :
    (d.setPanel l p).panel l' = d.panel l' := by
  cases l <;> cases l' <;> first | rfl | exact absurd rfl h

/-- Only a load of targets has something to offer to the experiment form. -/
def offerFrom (l : Loader) (r : Reply) (d : Dashboard) : Dashboard :=
  match l with
  | .targets => d.offer r
  | .dashboard | .experiments => d

/-- The three ways to end a load are one, with the panel and the list of the ticket's loader. -/
theorem settle_eq (t : Ticket) (r : Reply) (d : Dashboard) :
    d.settle t r =
      let ended := (d.panel t.loader).settle (r.list t.loader) (d.router.isCurrent t)
        t.loader.context
      notifyAny ended.2 ((d.offerFrom t.loader r).setPanel t.loader ended.1) := by
  obtain ⟨loader, generation⟩ := t
  cases loader <;> rfl

namespace Holdings

/-- The rows of every panel after a reply to the load with a ticket. -/
def rowsAfter (t : Ticket) (r : Reply) (h : Holdings) (l : Loader) : List l.Item × Bool :=
  if t.loader = l ∧ h.router.isCurrent t = true then
    match r.list l with
    | .ok items => (items, true)
    | .error _ => h.rows l
  else h.rows l

/-- The targets on offer after a reply that may hold a list of them. -/
def choicesAfter (r : Reply) (h : Holdings) : List Target :=
  match r.targets with
  | .ok targets => targets
  | .error _ => h.choices

/-- What is held once a task is done with a reply. -/
def after (r : Reply) (h : Holdings) : Task → Holdings
  | .configure => { h with base := r.settings.apiBase, router := h.router.reload }
  | .load t =>
    { h with
      rows := h.rowsAfter t r
      choices := if t.loader = .targets then h.choicesAfter r else h.choices }
  | .refreshChoices => { h with choices := h.choicesAfter r }
  | .finish _ => h

end Holdings

theorem holdings_offer (r : Reply) (d : Dashboard) :
    (d.offer r).holdings = { d.holdings with choices := d.holdings.choicesAfter r } := by
  unfold offer Holdings.choicesAfter
  cases r.targets <;> rfl

theorem holdings_offerFrom (l : Loader) (r : Reply) (d : Dashboard) :
    (d.offerFrom l r).holdings =
      { d.holdings with
        choices := if l = .targets then d.holdings.choicesAfter r else d.targetChoices } := by
  cases l with
  | targets => exact holdings_offer r d
  | dashboard => rfl
  | experiments => rfl

/-- A reply to a load goes to the panel of its own loader only. A list of targets goes to the
experiment form as well, and there no ticket is asked for. -/
theorem holdings_settle (t : Ticket) (r : Reply) (d : Dashboard) :
    (d.settle t r).holdings = d.holdings.after r (.load t) := by
  rw [settle_eq, holdings_notifyAny]
  have offered := holdings_offerFrom t.loader r d
  -- replacing a panel leaves the rest of what is held alone
  have others : ∀ (l : Loader) (p : Panel l.Item) (d' : Dashboard),
      (d'.setPanel l p).holdings =
        { d'.holdings with rows := fun l' => ((d'.setPanel l p).panel l').rows } := by
    intro l p d'
    cases l <;> rfl
  rw [others, offered]
  simp only [Holdings.after, Holdings.mk.injEq, true_and]
  refine ⟨?_, rfl⟩
  funext l
  by_cases hl : t.loader = l
  · subst hl
    rw [panel_setPanel_self, Panel.rows_settle]
    simp only [Holdings.rowsAfter, true_and, holdings]
    cases r.list t.loader <;> simp
  · rw [panel_setPanel_of_ne hl, Holdings.rowsAfter, if_neg (fun h => hl h.1)]
    exact congrFun (congrArg Holdings.rows offered) l

theorem holdings_receive (r : Reply) (d : Dashboard) (task : Task) :
    (d.receive r task).holdings = d.holdings.after r task := by
  cases task with
  | configure =>
      simp only [receive, Holdings.after]
      rw [holdings_reload, holdings_configure, router_configure]
      rfl
  | load t => exact holdings_settle t r d
  | refreshChoices =>
      unfold receive Holdings.after Holdings.choicesAfter
      cases r.targets <;> rfl
  | finish op => exact holdings_conclude op _ d

/-- What is held after an event. Settings say where requests go, navigations turn the router,
and a reply does what its task says; nothing else has any effect. -/
def heldAfter (d : Dashboard) : Event → Holdings
  | .configure s => { d.holdings with base := s.apiBase }
  | .navigate v => { d.holdings with router := d.router.navigate v }
  | .reload => { d.holdings with router := d.router.reload }
  | .deliver i r =>
    match d.pending[i]? with
    | some p => d.holdings.after r p.task
    | none => d.holdings
  | _ => d.holdings

/-- **What an event does to what is held.** -/
theorem holdings_step (d : Dashboard) (e : Event) : (d.step e).holdings = d.heldAfter e := by
  cases e with
  | configure s => exact holdings_configure s d
  | navigate v => exact holdings_navigate v d
  | reload => exact holdings_reload d
  | load l => exact holdings_load l d
  | submitExperiment =>
      rw [step, submitExperiment, holdings_perform]
      rfl
  | submitTarget =>
      rw [step, submitTarget, holdings_perform]
      rfl
  | clickExperiment event confirmed => exact holdings_perform _ _ d
  | clickTarget event confirmed =>
      simp only [step]
      cases event.onTarget? with
      | some op => exact holdings_perform op confirmed d
      | none => rfl
  | wait ms => exact holdings_wait ms d
  | deliver i r =>
      simp only [step, deliver, heldAfter]
      cases d.pending[i]? with
      | some p => exact holdings_receive r _ p.task
      | none => rfl
  | _ => rfl

theorem base_step (d : Dashboard) (e : Event) : (d.step e).base = (d.heldAfter e).base :=
  congrArg Holdings.base (holdings_step d e)

theorem router_step (d : Dashboard) (e : Event) : (d.step e).router = (d.heldAfter e).router :=
  congrArg Holdings.router (holdings_step d e)

theorem rows_step (d : Dashboard) (e : Event) (l : Loader) :
    ((d.step e).panel l).rows = (d.heldAfter e).rows l :=
  congrFun (congrArg Holdings.rows (holdings_step d e)) l

theorem choices_step (d : Dashboard) (e : Event) :
    (d.step e).targetChoices = (d.heldAfter e).choices :=
  congrArg Holdings.choices (holdings_step d e)

theorem heldAfter_deliver {d : Dashboard} {i : Nat} {p : Pending} (h : d.pending[i]? = some p)
    (r : Reply) : d.heldAfter (.deliver i r) = d.holdings.after r p.task := by
  simp only [heldAfter, h]

/-! ## What the dashboard sends -/

/-- The requests whose replies are out, and every request sent so far. -/
structure Outbox where
  pending : List Pending
  sent : List Call

/-- The outbox once more requests have gone out. -/
def Outbox.add (o : Outbox) (ps : List Pending) : Outbox :=
  { pending := o.pending ++ ps, sent := o.sent ++ ps.map (·.call) }

@[simp] theorem Outbox.add_nil (o : Outbox) : o.add [] = o := by
  simp [Outbox.add]

@[simp] theorem Outbox.add_add (o : Outbox) (ps qs : List Pending) :
    (o.add ps).add qs = o.add (ps ++ qs) := by
  simp [Outbox.add]

/-- What the dashboard has sent. -/
def outbox (d : Dashboard) : Outbox := { pending := d.pending, sent := d.sent }

/-- The request of a load that starts when requests go to a base and the router is as given. -/
def loadRequest (base : String) (router : Router) (l : Loader) : Pending :=
  ⟨l.endpoint.call base, .load (router.ticket l)⟩

theorem outbox_configure (s : Settings) (d : Dashboard) :
    (d.configure s).outbox = d.outbox := by
  simp only [outbox, configure]

theorem outbox_notifyAny (n : Option Notice) (d : Dashboard) :
    (notifyAny n d).outbox = d.outbox := by
  cases n <;> rfl

theorem outbox_wait (ms : Nat) (d : Dashboard) : (d.wait ms).outbox = d.outbox :=
  wait_keeps outbox (fun _ _ => rfl) (fun _ _ _ => rfl) ms d

theorem outbox_load (l : Loader) (d : Dashboard) :
    (d.load l).outbox = d.outbox.add [loadRequest d.base d.router l] := by
  cases l <;> rfl

/-- Starting loaders one after another sends one request for each, in their order. -/
theorem outbox_loadAll (ls : List Loader) (d : Dashboard) :
    (d.loadAll ls).outbox = d.outbox.add (ls.map (loadRequest d.base d.router)) := by
  induction ls generalizing d with
  | nil => simp [loadAll]
  | cons l ls ih =>
      have next := ih (d.load l)
      -- a load turns neither the base nor the router, so the later ones are sent like the first
      rw [outbox_load, base_eq (holdings_load l d), router_eq (holdings_load l d),
        Outbox.add_add] at next
      exact next

theorem outbox_navigate (v : View) (d : Dashboard) :
    (d.navigate v).outbox =
      d.outbox.add (v.plan.loaders.map (loadRequest d.base (d.router.navigate v))) :=
  outbox_loadAll _ _

theorem outbox_reload (d : Dashboard) :
    d.reload.outbox =
      d.outbox.add (d.router.active.plan.loaders.map (loadRequest d.base d.router.reload)) :=
  outbox_loadAll _ _

theorem outbox_apply (o : Outcome) (d : Dashboard) :
    (d.apply o).outbox = d.outbox.add (o.reload.map (loadRequest d.base d.router)) := by
  have told := holdings_notifyAny o.notice d
  unfold apply
  rw [outbox_loadAll]
  cases o.detail with
  | none => rw [base_eq told, router_eq told, outbox_notifyAny]
  | some detail =>
      show Outbox.add (notifyAny o.notice d).outbox (o.reload.map (loadRequest
        (notifyAny o.notice d).base (notifyAny o.notice d).router)) = _
      rw [base_eq told, router_eq told, outbox_notifyAny]

theorem outbox_settleModal (op : Operation) (succeeded : Bool) (d : Dashboard) :
    (d.settleModal op succeeded).outbox = d.outbox := by
  cases op <;> rfl

theorem outbox_conclude (op : Operation) (o : Outcome) (d : Dashboard) :
    (d.conclude op o).outbox = d.outbox.add (o.reload.map (loadRequest d.base d.router)) := by
  have settled := holdings_settleModal op o.succeeded d
  rw [conclude, outbox_apply, outbox_settleModal, base_eq settled, router_eq settled]

/-- An operation that ends without a request has changed nothing, so nothing is loaded again. -/
theorem reload_of_start_eq_error {op : Operation} {base : String} {confirmed : Bool}
    {o : Outcome} (h : op.start base confirmed = .error o) : o.reload = [] := by
  rcases Operation.start_eq_error_iff.mp h with ⟨-, rfl⟩ | ⟨p, -, rfl⟩
  · rfl
  · rfl

/-- The request of an operation that starts, if it has one. -/
def begun (base : String) (confirmed : Bool) (op : Operation) : List Pending :=
  match op.start base confirmed with
  | .ok call => [⟨call, .finish op⟩]
  | .error _ => []

theorem outbox_perform (op : Operation) (confirmed : Bool) (d : Dashboard) :
    (d.perform op confirmed).outbox = d.outbox.add (begun d.base confirmed op) := by
  unfold perform begun
  cases h : op.start d.base confirmed with
  | ok call => rfl
  | error o =>
      simp only
      rw [outbox_conclude, reload_of_start_eq_error h, List.map_nil]

/-- The requests that a task sends once it has its reply. -/
def answered (r : Reply) (d : Dashboard) : Task → List Pending
  | .configure =>
    d.router.active.plan.loaders.map (loadRequest r.settings.apiBase d.router.reload)
  | .load _ | .refreshChoices => []
  | .finish op => (op.finish r).reload.map (loadRequest d.base d.router)

theorem outbox_settle (t : Ticket) (r : Reply) (d : Dashboard) :
    (d.settle t r).outbox = d.outbox := by
  have offered : (d.offer r).outbox = d.outbox := by
    unfold offer
    cases r.targets <;> rfl
  rw [settle_eq, outbox_notifyAny]
  cases t.loader with
  | dashboard => rfl
  | experiments => rfl
  | targets => exact offered

theorem outbox_receive (r : Reply) (d : Dashboard) (task : Task) :
    (d.receive r task).outbox = d.outbox.add (d.answered r task) := by
  cases task with
  | configure =>
      simp only [receive, answered]
      rw [outbox_reload, router_configure, base_configure, outbox_configure]
  | load t => rw [receive, outbox_settle, answered, Outbox.add_nil]
  | refreshChoices =>
      rw [answered, Outbox.add_nil]
      unfold receive
      cases r.targets <;> rfl
  | finish op => exact outbox_conclude op _ d

/-- The requests that stay out when an event happens. -/
def remaining (d : Dashboard) : Event → List Pending
  | .deliver i _ => d.pending.eraseIdx i
  | _ => d.pending

/-- The requests that an event sends, in order. -/
def launched (d : Dashboard) : Event → List Pending
  | .start => [⟨settingsCall, .configure⟩]
  | .navigate v => v.plan.loaders.map (loadRequest d.base (d.router.navigate v))
  | .reload => d.router.active.plan.loaders.map (loadRequest d.base d.router.reload)
  | .load l => [loadRequest d.base d.router l]
  | .refreshChoices | .openExperimentModal =>
    [⟨Endpoint.listTargets.call d.base, .refreshChoices⟩]
  | .submitExperiment => begun d.base false (.createExperiment d.experimentModal.form.draft)
  | .submitTarget => begun d.base false (.createTarget d.targetModal.form.draft)
  | .clickExperiment event confirmed => begun d.base confirmed event.onExperiment
  | .clickTarget event confirmed =>
    match event.onTarget? with
    | some op => begun d.base confirmed op
    | none => []
  | .deliver i r =>
    match d.pending[i]? with
    | some p => d.answered r p.task
    | none => []
  | _ => []

/-- **What an event does to the outbox.** The request whose reply arrives is no longer out; the
others stay, in their order, and those that the event sends come behind them. -/
theorem outbox_step (d : Dashboard) (e : Event) :
    (d.step e).outbox =
      { pending := d.remaining e ++ d.launched e
        sent := d.sent ++ (d.launched e).map (·.call) } := by
  have quiet : d.outbox = d.outbox.add [] := (Outbox.add_nil d.outbox).symm
  cases e with
  | configure s => exact (outbox_configure s d).trans quiet
  | navigate v => exact outbox_navigate v d
  | reload => exact outbox_reload d
  | load l => exact outbox_load l d
  | submitExperiment =>
      rw [step, submitExperiment, outbox_perform]
      rfl
  | submitTarget =>
      rw [step, submitTarget, outbox_perform]
      rfl
  | clickExperiment event confirmed => exact outbox_perform _ _ d
  | clickTarget event confirmed =>
      simp only [step, launched]
      cases event.onTarget? with
      | some op => exact outbox_perform op confirmed d
      | none => exact quiet
  | wait ms => exact (outbox_wait ms d).trans quiet
  | deliver i r =>
      simp only [step, deliver, launched, remaining]
      cases h : d.pending[i]? with
      | some p => exact outbox_receive r _ p.task
      | none =>
          rw [List.eraseIdx_of_length_le (List.getElem?_eq_none_iff.mp h)]
          exact quiet
  | start => rfl
  | refreshChoices => rfl
  | openExperimentModal => rfl
  | _ => exact quiet

theorem pending_step (d : Dashboard) (e : Event) :
    (d.step e).pending = d.remaining e ++ d.launched e :=
  congrArg Outbox.pending (outbox_step d e)

theorem sent_step (d : Dashboard) (e : Event) :
    (d.step e).sent = d.sent ++ (d.launched e).map (·.call) :=
  congrArg Outbox.sent (outbox_step d e)

/-! ## What a run sends -/

theorem run_append (d : Dashboard) (es es' : List Event) :
    d.run (es ++ es') = (d.run es).run es' :=
  List.foldl_append

/-- What was sent before a run stays at the front of what is sent after it. -/
theorem sent_prefix_run (d : Dashboard) (es : List Event) : d.sent <+: (d.run es).sent := by
  induction es generalizing d with
  | nil => exact List.prefix_refl _
  | cons e es ih =>
      refine List.IsPrefix.trans ?_ (ih (d.step e))
      rw [sent_step]
      exact List.prefix_append _ _

end Dashboard

end FaultConsole
