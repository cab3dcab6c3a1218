import FaultConsole.Proofs.Dashboard.Chronicle

/-!
# Which lists reach the tables

Loads of different navigations, and loads that follow different changes, can be out at once, and
their replies come in any order. This file says which of them fill a panel, over every run:

* `rows_change_iff_filled` — a panel's rows change only when a load of that very panel is
  answered with a list, under its own view, with no navigation since it was started; then they
  become that list. So a hidden panel never changes, and neither does a panel whose load was
  overtaken by a navigation, even one that led back to the same view.
* `last_list_stays` — among the loads that still count it is the order of the *replies* that
  decides. The last list to arrive stays, whichever load was started first.

The second is weaker than one might hope: two loads under one navigation carry equal tickets, so
nothing tells the newer of them from the older. `not_newest_load_stays` has a run in which a
target is deleted and listed again, and then the list from before the deletion arrives.
-/

namespace FaultConsole

namespace Chronicle

/-- An event fills the panel of a loader with the list that a flight asked for. -/
structure Fills (c : Chronicle) (e : Event) (l : Loader) (f : Flight) (items : List l.Item) :
    Prop where
  /-- The event brings the reply to the flight, and the reply holds the list. -/
  delivered : ∃ i r, e = .deliver i r ∧ c.flights[i]? = some f ∧ r.list l = .ok items
  /-- The flight is a load for that very panel. -/
  loads : f.Loads l
  /-- The panel's view is the active one. -/
  active : c.now.router.active = l.view
  /-- No navigation has happened since the load was started. -/
  undisturbed : f.Undisturbed

namespace Sound

variable {c : Chronicle}

/-- The flight at a position is the request at that position. -/
theorem pending_eq (h : c.Sound) (i : Nat) :
    c.now.pending[i]? = (c.flights[i]?).map (·.request) := by
  rw [← h.requests, List.getElem?_map]

/-- A reply does what the task of the flight at its position says. -/
theorem heldAfter_of_flight (h : c.Sound) {i : Nat} {f : Flight} (hf : c.flights[i]? = some f)
    (r : Reply) : c.now.heldAfter (.deliver i r) = c.now.holdings.after r f.request.task := by
  refine Dashboard.heldAfter_deliver ?_ r
  rw [h.pending_eq, hf]
  rfl

theorem heldAfter_of_no_flight (h : c.Sound) {i : Nat} (hf : c.flights[i]? = none) (r : Reply) :
    c.now.heldAfter (.deliver i r) = c.now.holdings := by
  have hp : c.now.pending[i]? = none := by
    rw [h.pending_eq, hf]
    rfl
  simp only [Dashboard.heldAfter, hp]

/-- The router accepts the ticket of a load exactly if the load's view is active and there was no
navigation since. -/
theorem isCurrent_iff (h : c.Sound) {i : Nat} {f : Flight} (hf : c.flights[i]? = some f)
    {t : Ticket} (ht : f.request.task = .load t) :
    c.now.router.isCurrent t = true ↔ f.Undisturbed ∧ c.now.router.active = t.loader.view := by
  have hcur := h.current f (List.mem_of_getElem? hf) t ht
  simp only [Router.isCurrent, Bool.and_eq_true, beq_iff_eq]
  rw [hcur]
  constructor
  · rintro ⟨hu, hv⟩
    exact ⟨hu, hv.symm⟩
  · rintro ⟨hu, hv⟩
    exact ⟨hu, hv.symm⟩

/-- A fill leaves the list that was asked for. -/
theorem rows_of_fills (h : c.Sound) {e : Event} {l : Loader} {f : Flight} {items : List l.Item}
    (hf : c.Fills e l f items) : ((c.now.step e).panel l).rows = (items, true) := by
  obtain ⟨i, r, rfl, hi, hr⟩ := hf.delivered
  obtain ⟨t, ht, rfl⟩ := Flight.loads_iff.mp hf.loads
  have hcur := (h.isCurrent_iff hi ht).mpr ⟨hf.undisturbed, hf.active⟩
  rw [Dashboard.rows_step, h.heldAfter_of_flight hi, ht]
  show Dashboard.Holdings.rowsAfter t r c.now.holdings t.loader = _
  rw [Dashboard.Holdings.rowsAfter, if_pos ⟨rfl, hcur⟩, hr]

/-- Without a fill the rows stay. -/
theorem rows_of_not_fills (h : c.Sound) {e : Event} {l : Loader}
    (hn : ∀ f items, ¬ c.Fills e l f items) :
    ((c.now.step e).panel l).rows = (c.now.panel l).rows := by
  rw [Dashboard.rows_step]
  cases e with
  | deliver i r =>
      cases hi : c.flights[i]? with
      | none => rw [h.heldAfter_of_no_flight hi]; rfl
      | some f =>
          rw [h.heldAfter_of_flight hi]
          cases ht : f.request.task with
          | configure => rfl
          | refreshChoices => rfl
          | finish op => rfl
          | load t =>
              show Dashboard.Holdings.rowsAfter t r c.now.holdings l = _
              rw [Dashboard.Holdings.rowsAfter]
              split
              · rename_i hc
                obtain ⟨rfl, hcur⟩ := hc
                obtain ⟨hu, hv⟩ := (h.isCurrent_iff hi ht).mp hcur
                cases hr : r.list t.loader with
                | error problem => rfl
                | ok items =>
                    -- a current load with a list would have been a fill
                    have hl : f.Loads t.loader := Flight.loads_iff.mpr ⟨t, ht, rfl⟩
                    exact absurd ⟨⟨i, r, rfl, hi, hr⟩, hl, hv, hu⟩ (hn f items)
              · rfl
  | _ => rfl

/-- A change of the rows has a fill as its cause. -/
theorem exists_fills (h : c.Sound) {e : Event} {l : Loader}
    (hne : ((c.now.step e).panel l).rows ≠ (c.now.panel l).rows) :
    ∃ f items, c.Fills e l f items := by
  refine Classical.byContradiction fun hn => hne ?_
  exact h.rows_of_not_fills fun f items hf => hn ⟨f, items, hf⟩

end Sound

/-! ## The last list to arrive -/

/-- How an event answers a load for a panel, if no navigation overtook the load, and the number of
that load. -/
def answer? (l : Loader) (c : Chronicle) : Event → Option (Nat × Except Problem (List l.Item))
  | .deliver i r =>
    match c.flights[i]? with
    | some f => if f.Loads l ∧ f.Undisturbed then some (f.number, r.list l) else none
    | none => none
  | _ => none

/-- The answers to the loads for a panel in a run, in their order. -/
def answers (l : Loader) (c : Chronicle) : List Event → List (Nat × Except Problem (List l.Item))
  | [] => []
  | e :: es => (c.answer? l e).toList ++ (c.step e).answers l es

/-- The last list among answers. -/
def lastList? {α : Type} (answers : List (Nat × Except Problem (List α))) : Option (List α) :=
  (answers.filterMap (·.2.toOption)).getLast?

theorem answer?_eq_some_iff {l : Loader} {c : Chronicle} {e : Event} {n : Nat}
    {result : Except Problem (List l.Item)} :
    c.answer? l e = some (n, result) ↔
      ∃ i r f, e = .deliver i r ∧ c.flights[i]? = some f ∧ r.list l = result ∧
        f.number = n ∧ f.Loads l ∧ f.Undisturbed := by
  constructor
  · intro h
    unfold answer? at h
    split at h
    · rename_i i r
      split at h
      · rename_i f hi
        split at h
        · rename_i hf
          cases h
          exact ⟨i, r, f, rfl, hi, rfl, rfl, hf.1, hf.2⟩
        · exact absurd h (by simp)
      · exact absurd h (by simp)
    · exact absurd h (by simp)
  · rintro ⟨i, r, f, rfl, hi, rfl, rfl, hl, hu⟩
    simp only [answer?, hi]
    exact if_pos ⟨hl, hu⟩

/-- Under the panel's view, an answer with a list fills the panel. -/
theorem fills_of_answer? {l : Loader} {c : Chronicle} {e : Event} {n : Nat}
    {items : List l.Item} (hv : c.now.router.active = l.view)
    (h : c.answer? l e = some (n, .ok items)) : ∃ f, c.Fills e l f items := by
  obtain ⟨i, r, f, he, hi, hr, -, hl, hu⟩ := answer?_eq_some_iff.mp h
  exact ⟨f, ⟨i, r, he, hi, hr⟩, hl, hv, hu⟩

/-- What fills a panel is an answer with a list. -/
theorem answer?_of_fills {l : Loader} {c : Chronicle} {e : Event} {f : Flight}
    {items : List l.Item} (h : c.Fills e l f items) :
    c.answer? l e = some (f.number, .ok items) := by
  obtain ⟨i, r, he, hi, hr⟩ := h.delivered
  exact answer?_eq_some_iff.mpr ⟨i, r, f, he, hi, hr, rfl, h.loads, h.undisturbed⟩

theorem lastList?_append {α : Type} (as bs : List (Nat × Except Problem (List α))) :
    lastList? (as ++ bs) = (lastList? bs).or (lastList? as) := by
  rw [lastList?, List.filterMap_append, List.getLast?_append]
  rfl

/-- **Along a run without a navigation, the rows of the panel in view are the last to arrive.** -/
theorem Sound.rows_run {l : Loader} (es : List Event) :
    ∀ {c : Chronicle}, c.Sound → c.now.router.active = l.view →
      (∀ m ∈ c.now.moments es, m.navigates = false) →
      (((c.run es).now.panel l).rows =
        match lastList? (c.answers l es) with
        | some items => (items, true)
        | none => (c.now.panel l).rows) := by
  induction es with
  | nil => intro c _ _ _; rfl
  | cons e es ih =>
      intro c h hv hstill
      have quiet : c.now.navigates e = false := hstill ⟨c.now, e⟩ List.mem_cons_self
      have hv' : (c.step e).now.router.active = l.view := by
        show (c.now.step e).router.active = l.view
        rw [Dashboard.router_step_of_not_navigates quiet]
        exact hv
      rw [run_cons, ih (sound_step c e h) hv' fun m hm => hstill m (List.mem_cons_of_mem _ hm)]
      simp only [answers, lastList?_append]
      cases lastList? ((c.step e).answers l es) with
      | some items => rfl
      | none =>
          -- nothing arrives later, so the rows are those that this event leaves
          have notFilled : (∀ n items, c.answer? l e ≠ some (n, .ok items)) →
              ((c.now.step e).panel l).rows = (c.now.panel l).rows := by
            intro hn
            exact h.rows_of_not_fills fun f items hf => hn f.number items (answer?_of_fills hf)
          cases ha : c.answer? l e with
          | none => exact notFilled (by simp [ha])
          | some a =>
              obtain ⟨n, result⟩ := a
              cases result with
              | error problem => exact notFilled (by simp [ha])
              | ok items =>
                  obtain ⟨f, hf⟩ := fills_of_answer? hv ha
                  exact h.rows_of_fills hf

theorem answers_append (l : Loader) (c : Chronicle) (es es' : List Event) :
    c.answers l (es ++ es') = c.answers l es ++ (c.run es).answers l es' := by
  induction es generalizing c with
  | nil => rfl
  | cons e es ih => simp only [List.cons_append, answers, ih, run_cons, List.append_assoc]

/-- A flight that nothing disturbed before a run without a navigation is not disturbed by it. -/
theorem undisturbed_of_mem_run {c : Chronicle} {es : List Event} {f : Flight}
    (hf : f ∈ (c.run es).flights) (hstill : ∀ m ∈ c.now.moments es, m.navigates = false)
    (hold : ∀ g ∈ c.flights, g.number = f.number → g.Undisturbed) : f.Undisturbed := by
  rcases mem_run hf with ⟨g, hg, rfl⟩ | started
  · intro m hm
    rcases List.mem_append.mp hm with hm | hm
    · exact hold g hg rfl m hm
    · exact hstill m hm
  · exact fun m hm => hstill m (started.since_subset m hm)

/-- Where numbers only grow, the greatest comes last. -/
theorem lastList?_of_pairwise {α : Type} {as : List (Nat × Except Problem (List α))} {n : Nat}
    {items : List α} (hlt : as.Pairwise (·.1 < ·.1)) (hn : (n, .ok items) ∈ as)
    (hmax : ∀ a ∈ as, a.1 ≤ n) : lastList? as = some items := by
  obtain ⟨front, back, rfl⟩ := List.append_of_mem hn
  cases back with
  | nil => simp [lastList?, Except.toOption]
  | cons a back =>
      have below := (List.pairwise_append.mp hlt).2.1
      have := List.rel_of_pairwise_cons below (List.mem_cons_self (a := a) (l := back))
      have := hmax a (by simp)
      omega

end Chronicle

open Chronicle in
/-- **A panel changes only when a load that still counts is answered, and then shows its list.**

The run may be any, and so may the event that comes after it. -/
theorem rows_change_iff_filled (s : Settings) (es : List Event) (e : Event) (l : Loader) :
    let d := (Dashboard.new s).run es
    let c := record s es
    -- a change has a load of this panel as its cause, and the load was started in this run
    (((d.step e).panel l).items ≠ (d.panel l).items ∨
        ((d.step e).panel l).loaded ≠ (d.panel l).loaded →
      ∃ f items, c.Fills e l f items ∧ (new s).StartedIn es f) ∧
    -- such a load leaves its list
    (∀ f items, c.Fills e l f items →
      ((d.step e).panel l).items = items ∧ ((d.step e).panel l).loaded = true) ∧
    -- a hidden panel stays as it is
    (d.router.active ≠ l.view → ((d.step e).panel l).rows = (d.panel l).rows) ∧
    -- and so does every panel when the reply to a load comes that a navigation overtook
    (∀ i r f, e = .deliver i r → c.flights[i]? = some f → ¬ f.Undisturbed →
      ((d.step e).panel l).rows = (d.panel l).rows) := by
  have hc := sound_record s es
  have hd : (Dashboard.new s).run es = (record s es).now := (now_run (new s) es).symm
  simp only [hd]
  refine ⟨?_, ?_, ?_, ?_⟩
  · intro hne
    have changed : (((record s es).now.step e).panel l).rows ≠
        ((record s es).now.panel l).rows := by
      intro same
      rcases hne with hne | hne
      · exact hne (congrArg Prod.fst same)
      · exact hne (congrArg Prod.snd same)
    obtain ⟨f, items, hf⟩ := hc.exists_fills changed
    obtain ⟨i, r, -, hi, -⟩ := hf.delivered
    exact ⟨f, items, hf, startedIn_of_mem_record (List.mem_of_getElem? hi)⟩
  · intro f items hf
    have filled := hc.rows_of_fills hf
    exact ⟨congrArg Prod.fst filled, congrArg Prod.snd filled⟩
  · intro hv
    exact hc.rows_of_not_fills fun f items hf => hv hf.active
  · intro i r f he hi hu
    refine hc.rows_of_not_fills fun g items hg => hu ?_
    obtain ⟨j, r', he', hj, -⟩ := hg.delivered
    cases he.symm.trans he'
    cases hi.symm.trans hj
    exact hg.undisturbed

open Chronicle in
/-- **The last list to arrive stays.**

While the view of a panel is active and no navigation happens, every load for the panel that was
not overtaken counts. Its list is shown from its arrival to the next, so what remains is the list
that arrived last. That is the list of the newest load if the loads are answered in the order in
which they were started; in another order it need not be. -/
theorem last_list_stays (s : Settings) (es es' : List Event) (l : Loader)
    (hv : (record s es).now.router.active = l.view)
    (hstill : ∀ m ∈ (record s es).now.moments es', m.navigates = false) :
    let c := record s es
    let shown := ((c.run es').now.panel l).items
    shown = (lastList? (c.answers l es')).getD (c.now.panel l).items ∧
    -- the answers are those to all loads of the panel that no navigation had overtaken
    (∀ before i r after f, es' = before ++ .deliver i r :: after →
      (c.run before).flights[i]? = some f → f.Loads l →
      (∀ g ∈ c.flights, g.number = f.number → g.Undisturbed) →
      (f.number, r.list l) ∈ c.answers l es') ∧
    -- in order, the newest load wins
    ((c.answers l es').Pairwise (·.1 < ·.1) → ∀ n items, (n, .ok items) ∈ c.answers l es' →
      (∀ a ∈ c.answers l es', a.1 ≤ n) → shown = items) := by
  have rows := (sound_record s es).rows_run es' hv hstill
  refine ⟨?_, ?_, ?_⟩
  · refine (congrArg Prod.fst rows).trans ?_
    cases lastList? ((record s es).answers l es') with
    | some items => rfl
    | none => rfl
  · intro before i r after f hes hi hl hold
    subst hes
    rw [answers_append]
    refine List.mem_append_right _ (List.mem_append_left _ ?_)
    rw [Option.mem_toList]
    refine answer?_eq_some_iff.mpr ⟨i, r, f, rfl, hi, rfl, rfl, hl, ?_⟩
    refine undisturbed_of_mem_run (List.mem_of_getElem? hi) ?_ hold
    intro m hm
    refine hstill m ?_
    rw [Dashboard.moments_append]
    exact List.mem_append_left _ hm
  · intro hlt n items hn hmax
    rw [lastList?_of_pairwise hlt hn hmax] at rows
    exact congrArg Prod.fst rows

/-- A target is deleted on its page; one list of targets is out from before, and one from after. -/
def targetDeletion : List Event :=
  [.navigate .targets, .clickTarget ⟨.delete, "t"⟩ true,
    .deliver 1 (.response ⟨204, "No Content", ""⟩)]

/-- The list from before the deletion. -/
def targetListed : Reply :=
  .response ⟨200, "OK", "[\x7b\"id\":\"t\",\"name\":\"web\",\"type\":\"app\"," ++
    "\"namespace\":\"prod\",\"selector\":\"app=web\",\"created_at\":\"2024-01-01\"\x7d]"⟩

/-- The list from after it. -/
def targetGone : Reply := .response ⟨200, "OK", "[]"⟩

open Chronicle in
/-- In their order, the two lists leave the newer one. -/
theorem newer_list_stays_in_order :
    let c := record {} targetDeletion
    let es := [.deliver 0 targetListed, .deliver 0 targetGone]
    c.now.router.active = Loader.targets.view ∧
      (∀ m ∈ c.now.moments es, m.navigates = false) ∧
      ((c.run es).now.panel .targets).items = [] := by
  have still : ∀ m ∈ (record {} targetDeletion).now.moments
      [.deliver 0 targetListed, .deliver 0 targetGone], m.navigates = false := by
    decide +kernel
  have last := last_list_stays {} targetDeletion [.deliver 0 targetListed, .deliver 0 targetGone]
    .targets rfl still
  refine ⟨rfl, still, ?_⟩
  refine last.2.2 (by decide +kernel) 2 [] ?_ (by decide +kernel)
  exact List.mem_cons_of_mem _ List.mem_cons_self

open Chronicle in
/-- **The newest load need not be the one whose list stays.** The two lists of the deletion can
cross on their way, and then the table shows the target that is gone. -/
theorem not_newest_load_stays :
    ¬ ∀ (s : Settings) (es es' : List Event) (l : Loader) (n : Nat) (items : List l.Item),
      let c := record s es
      c.now.router.active = l.view →
      (∀ m ∈ c.now.moments es', m.navigates = false) →
      -- every load of the panel has been answered, and the newest one with a list
      (∀ f ∈ (c.run es').flights, ¬ f.Loads l) →
      (n, .ok items) ∈ c.answers l es' →
      (∀ a ∈ c.answers l es', a.1 ≤ n) →
      ((c.run es').now.panel l).items = items := by
  intro newest
  have shown := newest {} targetDeletion [.deliver 1 targetGone, .deliver 0 targetListed]
    .targets 2 [] rfl (by decide) (by decide) List.mem_cons_self (by decide)
  have kept : (((record {} targetDeletion).run
      [.deliver 1 targetGone, .deliver 0 targetListed]).now.panel .targets).items.length = 1 := by
    decide +kernel
  rw [shown] at kept
  exact absurd kept (by decide)

end FaultConsole
