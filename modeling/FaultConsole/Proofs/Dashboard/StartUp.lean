import FaultConsole.Proofs.Dashboard.Freshness

/-!
# When the client is replaced

The page is up before it knows where the service lives. Until the settings arrive, requests go to
a default place, and the user may already be anywhere. Then the client is replaced and the active
view is loaded again, and nothing that was asked of the former client should be shown any more.

For the tables this holds, and `tables_follow_start_up` says so for every reply to the request for
the settings, usable or not, and every run before and after. Two things are needed. The end of
start-up is a navigation, so no load from before it counts (`startedIn_of_undisturbed`); and a load
from after it was addressed when it was started, to the client that is still in use
(`Sound.usesClient_of_fills`).

For the targets that the experiment form offers it does not hold. They are taken from any list of
targets that arrives, and `former_targets_offered_iff` says when such a list comes from a former
client: exactly when its request was already out as the client was replaced.
-/

namespace FaultConsole

/-! ## The settings that a reply gives -/

/-- A reply gives settings if it is a success, its body holds them, and they are accepted. -/
def Reply.Gives (r : Reply) (s : Settings) : Prop :=
  ∃ response, r = .response response ∧ 200 ≤ response.status ∧ response.status < 300 ∧
    readBody Settings.reader response.body = .ok s ∧ s.validate = .ok ()

theorem Reply.settings_of_gives {r : Reply} {s : Settings} (h : r.Gives s) : r.settings = s := by
  obtain ⟨response, rfl, hlow, hhigh, hread, hvalid⟩ := h
  have accepted : (Reply.response response).accept = .ok response := by
    simp [accept, isSuccess, hlow, hhigh]
  simp [settings, value, accepted, hread, hvalid, bind, Except.bind, pure, Except.pure]

/-- A reply that gives none stands for the default settings, whatever is wrong with it. -/
theorem Reply.settings_of_not_gives {r : Reply} (h : ∀ s, ¬ r.Gives s) : r.settings = {} := by
  cases r with
  | failure reason => rfl
  | response response =>
      cases hs : isSuccess response.status with
      | false => simp [settings, value, accept, hs, bind, Except.bind]
      | true =>
          have accepted : (Reply.response response).accept = .ok response := by
            simp [accept, hs]
          cases hread : readBody Settings.reader response.body with
          | error p => simp [settings, value, accepted, hread, bind, Except.bind]
          | ok s =>
              cases hvalid : s.validate with
              | error p => simp [settings, value, accepted, hread, hvalid, bind, Except.bind]
              | ok _ =>
                  simp only [isSuccess, Bool.and_eq_true, decide_eq_true_eq] at hs
                  exact absurd ⟨response, rfl, hs.1, hs.2, hread, hvalid⟩ (h s)

namespace Dashboard

/-! ## What the end of start-up does -/

theorem completesStartUp_iff {d : Dashboard} {i : Nat} {r : Reply} :
    d.completesStartUp (.deliver i r) = true ↔ ∃ call, d.pending[i]? = some ⟨call, .configure⟩ := by
  simp only [completesStartUp]
  constructor
  · intro h
    split at h
    · rename_i call hp
      exact ⟨call, hp⟩
    · exact absurd h (by simp)
  · rintro ⟨call, hp⟩
    simp only [hp]

/-- The client is replaced, and the view is loaded again. -/
theorem step_of_completesStartUp {d : Dashboard} {i : Nat} {r : Reply}
    (h : d.completesStartUp (.deliver i r) = true) :
    (d.step (.deliver i r)).base = r.settings.apiBase ∧
      (d.step (.deliver i r)).router = d.router.reload ∧
      d.launched (.deliver i r) =
        d.router.active.plan.loaders.map (loadRequest r.settings.apiBase d.router.reload) := by
  obtain ⟨call, hp⟩ := completesStartUp_iff.mp h
  rw [base_step, router_step, heldAfter_deliver hp]
  refine ⟨rfl, rfl, ?_⟩
  simp only [launched, hp]
  rfl

/-- Every plan names a loader at most once. -/
theorem nodup_loaders (v : View) : v.plan.loaders.Nodup := by
  cases v <;> decide

/-! ## Which requests use the client -/

theorem sent_length_le_run (d : Dashboard) (es : List Event) :
    d.sent.length ≤ (d.run es).sent.length :=
  (sent_prefix_run d es).length_le

theorem event_mem_of_mem_moments {d : Dashboard} {es : List Event} {m : Moment}
    (h : m ∈ d.moments es) : m.event ∈ es := by
  induction es generalizing d with
  | nil => exact absurd h List.not_mem_nil
  | cons e es ih =>
      rcases List.mem_cons.mp h with rfl | h
      · exact List.mem_cons_self
      · exact List.mem_cons_of_mem _ (ih h)

/-- While nothing replaces the client, requests go to the same place. -/
theorem base_run {d : Dashboard} {es : List Event}
    (h : ∀ m ∈ d.moments es, m.replacesClient = false) : (d.run es).base = d.base := by
  induction es generalizing d with
  | nil => rfl
  | cons e es ih =>
      have kept : d.replacesClient e = false := h ⟨d, e⟩ List.mem_cons_self
      have rest := ih (d := d.step e) fun m hm => h m (List.mem_cons_of_mem _ hm)
      exact rest.trans (base_step_of_not_replacesClient kept)

end Dashboard

/-- Apart from settings that are put in place directly, only a navigation replaces the client. -/
theorem Moment.not_replacesClient {m : Moment} (hn : m.navigates = false)
    (hs : ∀ s, m.event ≠ .configure s) : m.replacesClient = false := by
  obtain ⟨d, e⟩ := m
  cases e with
  | configure s => exact absurd rfl (hs s)
  | deliver i r => exact hn
  | _ => rfl

namespace Chronicle

/-- A flight that was started in a run is none of those that had been sent before. -/
theorem StartedIn.le_number {c : Chronicle} {es : List Event} {f : Flight}
    (h : c.StartedIn es f) : c.now.sent.length ≤ f.number := by
  obtain ⟨before, e, after, -, -, hnumber, -⟩ := h
  rw [now_run] at hnumber
  exact Nat.le_trans (Dashboard.sent_length_le_run c.now before) hnumber

/-- A flight that the first event of a run starts, or a later one, has not seen the first. -/
theorem StartedIn.since_subset_tail {c : Chronicle} {e : Event} {es : List Event} {f : Flight}
    (h : c.StartedIn (e :: es) f) : ∀ m ∈ f.since, m ∈ (c.step e).now.moments es := by
  obtain ⟨before, e', after, heq, hp, hnumber, hsince⟩ := h
  cases before with
  | nil =>
      obtain ⟨rfl, rfl⟩ := List.cons.inj heq
      intro m hm
      rw [hsince] at hm
      exact hm
  | cons b before =>
      obtain ⟨rfl, rfl⟩ := List.cons.inj heq
      have tail : (c.step e).StartedIn (before ++ e' :: after) f :=
        ⟨before, e', after, rfl, hp, hnumber, hsince⟩
      exact tail.since_subset

/-- What a navigation did not overtake was started by it or later. -/
theorem startedIn_of_undisturbed {c : Chronicle} {e : Event} {es : List Event} {f : Flight}
    (hf : f ∈ (c.run (e :: es)).flights) (hu : f.Undisturbed) (hn : c.now.navigates e = true) :
    c.StartedIn (e :: es) f := by
  rcases mem_run hf with ⟨g, _, rfl⟩ | started
  · have still := hu ⟨c.now, e⟩ (List.mem_append_right _ List.mem_cons_self)
    exact absurd (still.symm.trans hn) (by simp)
  · exact started

/-- A list that fills a panel comes from the client in use, unless settings were put in place
directly while its request was out. -/
theorem Sound.usesClient_of_fills {c : Chronicle} {e : Event} {l : Loader} {f : Flight}
    {items : List l.Item} (h : c.Sound) (hf : c.Fills e l f items)
    (hs : ∀ m ∈ f.since, ∀ s, m.event ≠ .configure s) :
    f.UsesClient ∧ f.request.call = l.endpoint.call c.now.base := by
  have uses : f.UsesClient := fun m hm => m.not_replacesClient (hf.undisturbed m hm) (hs m hm)
  obtain ⟨i, r, -, hi, -⟩ := hf.delivered
  obtain ⟨t, ht, rfl⟩ := Flight.loads_iff.mp hf.loads
  have addressed := h.addressed f (List.mem_of_getElem? hi) uses
  simp only [Pending.AddressedTo, ht] at addressed
  exact ⟨uses, addressed⟩

/-- After start-up has ended, a list that fills a panel was asked for by then or later, and of the
client in use. -/
theorem Sound.startedIn_of_fills {c : Chronicle} {i : Nat} {r : Reply} {later : List Event}
    {e : Event} {l : Loader} {f : Flight} {items : List l.Item} (h : c.Sound)
    (done : c.now.completesStartUp (.deliver i r) = true)
    (quiet : ∀ s, Event.configure s ∉ later)
    (hf : ((c.step (.deliver i r)).run later).Fills e l f items) :
    c.StartedIn (.deliver i r :: later) f ∧
      f.request.call = l.endpoint.call ((c.step (.deliver i r)).run later).now.base := by
  have sound : ((c.step (.deliver i r)).run later).Sound := sound_run h (.deliver i r :: later)
  obtain ⟨j, r', -, hj, -⟩ := hf.delivered
  have started : c.StartedIn (.deliver i r :: later) f :=
    startedIn_of_undisturbed (List.mem_of_getElem? hj) hf.undisturbed done
  refine ⟨started, (sound.usesClient_of_fills hf ?_).2⟩
  intro m hm s hs
  have mem := Dashboard.event_mem_of_mem_moments (started.since_subset_tail m hm)
  rw [hs] at mem
  exact quiet s mem

end Chronicle

open Chronicle in
/-- **When start-up ends, the tables change over to the new client for good.**

The run before may be any. In the run after, the client is replaced by no one but start-up, should
it be asked for once more. -/
theorem tables_follow_start_up (s : Settings) (es later : List Event) (i : Nat) (r : Reply)
    (done : (record s es).now.completesStartUp (.deliver i r) = true)
    (quiet : ∀ s', Event.configure s' ∉ later) :
    let c := record s es
    let c' := c.step (.deliver i r)
    let loaders := c.now.router.active.plan.loaders
    -- requests go where the settings say, or where the default ones do
    (∀ given, r.Gives given → c'.now.base = given.apiBase) ∧
    ((∀ given, ¬ r.Gives given) → c'.now.base = ({} : Settings).apiBase) ∧
    -- the view stays, and each of its loaders is started once
    c'.now.router.active = c.now.router.active ∧
    loaders.Nodup ∧
    c'.now.pending =
      c.now.pending.eraseIdx i ++ loaders.map (Dashboard.loadRequest c'.now.base c'.now.router) ∧
    c'.now.sent = c.now.sent ++ loaders.map (·.endpoint.call c'.now.base) ∧
    -- a table only ever takes a list that was asked for by then or later, of the client in use
    (∀ e l, ((((c'.run later).now.step e).panel l).rows ≠ ((c'.run later).now.panel l).rows →
        ∃ f items, (c'.run later).Fills e l f items) ∧
      ∀ f items, (c'.run later).Fills e l f items →
        c.StartedIn (.deliver i r :: later) f ∧ c.now.sent.length ≤ f.number ∧
          f.request.call = l.endpoint.call (c'.run later).now.base) ∧
    -- and that is the new one, as long as it is not replaced in its turn
    ((∀ m ∈ c'.now.moments later, m.replacesClient = false) →
      (c'.run later).now.base = c'.now.base) := by
  have hc := sound_record s es
  have sound : (((record s es).step (.deliver i r)).run later).Sound :=
    sound_run hc (.deliver i r :: later)
  obtain ⟨hbase, hrouter, hlaunched⟩ := Dashboard.step_of_completesStartUp done
  have base : ((record s es).step (.deliver i r)).now.base = r.settings.apiBase := hbase
  have router : ((record s es).step (.deliver i r)).now.router =
      (record s es).now.router.reload := hrouter
  rw [← hbase, ← hrouter] at hlaunched
  refine ⟨?_, ?_, ?_, Dashboard.nodup_loaders _, ?_, ?_, ?_, ?_⟩
  · intro given hg
    rw [base, Reply.settings_of_gives hg]
  · intro hg
    rw [base, Reply.settings_of_not_gives hg]
  · rw [router]
    rfl
  · refine (Dashboard.pending_step _ _).trans ?_
    rw [hlaunched]
    rfl
  · refine (Dashboard.sent_step _ _).trans ?_
    rw [hlaunched, List.map_map]
    rfl
  · intro e l
    refine ⟨?_, ?_⟩
    · exact sound.exists_fills
    · intro f items hf
      obtain ⟨started, hcall⟩ := hc.startedIn_of_fills done quiet hf
      exact ⟨started, started.le_number, hcall⟩
  · intro kept
    rw [now_run]
    exact Dashboard.base_run kept

/-- A reply with settings. -/
def elsewhere : Reply := .response ⟨200, "OK", "\x7b\"api_root\": \"http://chaos:9000/\"\x7d"⟩

open Chronicle in
/-- The user goes to the targets before the settings arrive. The first list is lost, and the one
from the new place is shown. -/
theorem tables_follow_elsewhere :
    let c := record {} [.start, .navigate .targets]
    let d := (c.step (.deliver 0 elsewhere)).run [.deliver 0 (.failure "offline")]
    c.now.completesStartUp (.deliver 0 elsewhere) = true ∧
      (∀ s, Event.configure s ∉ [.deliver 0 (.failure "offline")]) ∧
      (c.step (.deliver 0 elsewhere)).now.base = "http://chaos:9000/api/v1" ∧
      ∃ f, d.Fills (.deliver 0 targetGone) .targets f [] ∧
        f.request.call = Endpoint.listTargets.call d.now.base := by
  have done : (record {} [.start, .navigate .targets]).now.completesStartUp
      (.deliver 0 elsewhere) = true := rfl
  have quiet : ∀ s, Event.configure s ∉ [.deliver 0 (.failure "offline")] := by simp
  obtain ⟨configured, -, -, -, -, -, tables, -⟩ := tables_follow_start_up {}
    [.start, .navigate .targets] [.deliver 0 (.failure "offline")] 0 elsewhere done quiet
  have given : elsewhere.Gives { apiRoot := "http://chaos:9000/" } :=
    ⟨_, rfl, by decide, by decide, rfl, rfl⟩
  refine ⟨done, quiet, (configured _ given).trans (by decide +kernel), ?_⟩
  have fills : (((record {} [.start, .navigate .targets]).step (.deliver 0 elsewhere)).run
      [.deliver 0 (.failure "offline")]).Fills (.deliver 0 targetGone) .targets _ [] :=
    ⟨⟨0, targetGone, rfl, rfl, rfl⟩, rfl, rfl, by decide⟩
  exact ⟨_, fills, ((tables _ .targets).2 _ _ fills).2.2⟩

/-! ## The targets on offer -/

/-- The request is for the list of targets, for the table or for the experiment form alone. -/
abbrev Flight.AsksForTargets (f : Flight) : Prop :=
  f.request.task = .refreshChoices ∨ f.Loads .targets

theorem Flight.call_of_asksForTargets {f : Flight} {base : String} (asks : f.AsksForTargets)
    (h : f.request.AddressedTo base) : f.request.call = Endpoint.listTargets.call base := by
  unfold Pending.AddressedTo at h
  rcases asks with ht | hl
  · rw [ht] at h
    exact h
  · obtain ⟨t, ht, hl⟩ := Flight.loads_iff.mp hl
    rw [ht] at h
    rw [h, hl]
    rfl

namespace Chronicle

/-- An event offers to the experiment form the targets that a flight asked for. -/
structure Offers (c : Chronicle) (e : Event) (f : Flight) (targets : List Target) : Prop where
  /-- The event brings the reply to the flight, and the reply holds the targets. -/
  delivered : ∃ i r, e = .deliver i r ∧ c.flights[i]? = some f ∧ r.targets = .ok targets
  asks : f.AsksForTargets

/-- What is offered stands, whatever has happened since it was asked for. -/
theorem Sound.choices_of_offers {c : Chronicle} {e : Event} {f : Flight} {targets : List Target}
    (h : c.Sound) (ho : c.Offers e f targets) : (c.now.step e).targetChoices = targets := by
  obtain ⟨i, r, rfl, hi, hr⟩ := ho.delivered
  rw [Dashboard.choices_step, h.heldAfter_of_flight hi]
  rcases ho.asks with ht | hl
  · simp only [ht, Dashboard.Holdings.after, Dashboard.Holdings.choicesAfter, hr]
  · obtain ⟨t, ht, hl⟩ := Flight.loads_iff.mp hl
    simp only [ht, hl, Dashboard.Holdings.after, Dashboard.Holdings.choicesAfter, hr, if_true]

/-- Without an offer the targets to choose from stay. -/
theorem Sound.choices_of_not_offers {c : Chronicle} {e : Event} (h : c.Sound)
    (hn : ∀ f targets, ¬ c.Offers e f targets) :
    (c.now.step e).targetChoices = c.now.targetChoices := by
  rw [Dashboard.choices_step]
  cases e with
  | deliver i r =>
      cases hi : c.flights[i]? with
      | none => rw [h.heldAfter_of_no_flight hi]; rfl
      | some f =>
          rw [h.heldAfter_of_flight hi]
          -- a list in the reply to a request for targets would have been offered
          have failed : f.AsksForTargets → c.now.holdings.choicesAfter r = c.now.targetChoices := by
            intro asks
            unfold Dashboard.Holdings.choicesAfter
            cases hr : r.targets with
            | error problem => rfl
            | ok targets => exact absurd ⟨⟨i, r, rfl, hi, hr⟩, asks⟩ (hn f targets)
          cases ht : f.request.task with
          | configure => rfl
          | refreshChoices => exact failed (Or.inl ht)
          | finish op => rfl
          | load t =>
              simp only [Dashboard.Holdings.after]
              split
              · rename_i hl
                exact failed (Or.inr (Flight.loads_iff.mpr ⟨t, ht, hl⟩))
              · rfl
  | _ => rfl

/-- A change of the targets to choose from has an offer as its cause. -/
theorem Sound.exists_offers {c : Chronicle} {e : Event} (h : c.Sound)
    (hne : (c.now.step e).targetChoices ≠ c.now.targetChoices) :
    ∃ f targets, c.Offers e f targets := by
  refine Classical.byContradiction fun hn => hne ?_
  exact h.choices_of_not_offers fun f targets ho => hn ⟨f, targets, ho⟩

/-- From one replacement of the client to the next, the requests that use the client are those that
were not yet sent at the first. -/
theorem Sound.usesClient_iff {c : Chronicle} {e : Event} {es : List Event} {f : Flight}
    (h : c.Sound) (he : c.now.replacesClient e = true)
    (kept : ∀ m ∈ (c.step e).now.moments es, m.replacesClient = false)
    (hf : f ∈ (c.run (e :: es)).flights) :
    f.UsesClient ↔ c.now.sent.length ≤ f.number := by
  rcases mem_run hf with ⟨g, hg, rfl⟩ | started
  · have old := h.numbers g hg
    constructor
    · intro uses
      have same := uses ⟨c.now, e⟩ (List.mem_append_right _ List.mem_cons_self)
      exact absurd (same.symm.trans he) (by simp)
    · intro new
      exact absurd old (Nat.not_lt.mpr new)
  · constructor
    · intro _
      exact started.le_number
    · intro _ m hm
      exact kept m (started.since_subset_tail m hm)

end Chronicle

open Chronicle in
/-- **The experiment form also takes targets from a former client.**

The run up to the end of start-up may be any, and the event may come at any time before the client
is replaced again. -/
theorem former_targets_offered_iff (s : Settings) (es later : List Event) (i : Nat) (r : Reply)
    (done : (record s es).now.completesStartUp (.deliver i r) = true)
    (kept : ∀ m ∈ ((record s es).step (.deliver i r)).now.moments later,
      m.replacesClient = false) (e : Event) :
    let c := record s es
    let c' := c.step (.deliver i r)
    let d := c'.run later
    -- the targets to choose from change only to a list that was asked for, and then they always do
    ((d.now.step e).targetChoices ≠ d.now.targetChoices → ∃ f targets, d.Offers e f targets) ∧
    (∀ f targets, d.Offers e f targets → (d.now.step e).targetChoices = targets ∧
      (f.UsesClient → f.request.call = Endpoint.listTargets.call c'.now.base)) ∧
    -- the list is a former client's exactly if its request was out when the client was replaced
    ((∃ f targets, d.Offers e f targets ∧ ¬ f.UsesClient) ↔
      ∃ j r' f targets, e = .deliver j r' ∧ d.flights[j]? = some f ∧ f.AsksForTargets ∧
        f.number < c.now.sent.length ∧ r'.targets = .ok targets) ∧
    -- and if it was sent through the client replaced then, it went to the former place
    (∀ f ∈ d.flights, f.AsksForTargets → f.number < c.now.sent.length →
      ∃ g ∈ c.flights, g.number = f.number ∧ g.request = f.request ∧
        (g.UsesClient → f.request.call = Endpoint.listTargets.call c.now.base)) := by
  have hc := sound_record s es
  have sound : (((record s es).step (.deliver i r)).run later).Sound :=
    sound_run hc (.deliver i r :: later)
  have replaced : (record s es).now.replacesClient (.deliver i r) = true := done
  have base : (((record s es).step (.deliver i r)).run later).now.base =
      ((record s es).step (.deliver i r)).now.base := by
    rw [now_run]
    exact Dashboard.base_run kept
  refine ⟨?_, ?_, ?_, ?_⟩
  · exact sound.exists_offers
  · intro f targets ho
    refine ⟨sound.choices_of_offers ho, ?_⟩
    intro uses
    obtain ⟨j, r', -, hj, -⟩ := ho.delivered
    have addressed := sound.addressed f (List.mem_of_getElem? hj) uses
    rw [base] at addressed
    exact Flight.call_of_asksForTargets ho.asks addressed
  · constructor
    · rintro ⟨f, targets, ho, hf⟩
      obtain ⟨j, r', he, hj, hr⟩ := ho.delivered
      have uses := hc.usesClient_iff replaced kept (List.mem_of_getElem? hj)
      exact ⟨j, r', f, targets, he, hj, ho.asks, Nat.lt_of_not_le (mt uses.mpr hf), hr⟩
    · rintro ⟨j, r', f, targets, he, hj, asks, old, hr⟩
      have uses := hc.usesClient_iff replaced kept (List.mem_of_getElem? hj)
      exact ⟨f, targets, ⟨⟨j, r', he, hj, hr⟩, asks⟩, mt uses.mp (Nat.not_le.mpr old)⟩
  · intro f hf asks old
    have reached : f ∈ ((record s es).run (.deliver i r :: later)).flights := hf
    rcases mem_run reached with ⟨g, hg, rfl⟩ | started
    · refine ⟨g, hg, rfl, rfl, ?_⟩
      intro uses
      exact Flight.call_of_asksForTargets asks (hc.addressed g hg uses)
    · exact absurd old (Nat.not_lt.mpr started.le_number)

open Chronicle in
/-- The list of targets is asked for during start-up, and arrives after it. -/
theorem former_targets_offered_late :
    let c := record {} [.start, .refreshChoices]
    let c' := c.step (.deliver 0 elsewhere)
    c.now.completesStartUp (.deliver 0 elsewhere) = true ∧
      (∀ m ∈ c'.now.moments [], m.replacesClient = false) ∧
      ∃ f targets, c'.Offers (.deliver 0 targetListed) f targets ∧ ¬ f.UsesClient := by
  have done : (record {} [.start, .refreshChoices]).now.completesStartUp
      (.deliver 0 elsewhere) = true := rfl
  have kept : ∀ m ∈ ((record {} [.start, .refreshChoices]).step (.deliver 0 elsewhere)).now.moments
      [], m.replacesClient = false := fun _ hm => absurd hm List.not_mem_nil
  have offered := former_targets_offered_iff {} [.start, .refreshChoices] [] 0 elsewhere done kept
    (.deliver 0 targetListed)
  refine ⟨done, kept, offered.2.2.1.mpr ?_⟩
  have listed : targetListed.targets.toOption.isSome = true := by decide +kernel
  cases hr : targetListed.targets with
  | error problem => exact absurd (hr ▸ listed) (by simp [Except.toOption])
  | ok targets => exact ⟨0, targetListed, _, targets, rfl, rfl, Or.inl rfl, by decide, hr⟩

end FaultConsole
