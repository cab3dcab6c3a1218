import FaultConsole.Proofs.Dashboard.Effects
import Mathlib.Data.List.InsertIdx

/-!
# Runs that are remembered

The dashboard forgets: a request that is out is known by its position among the others, and
nothing says when it was sent or what has happened since. The promises about lists are about
just that — a list counts only if no navigation came between its request and its reply.

A `Chronicle` is a dashboard with a memory. For every request that is out it keeps a `Flight`:
the request's number among all that were ever sent, and each event since, with the dashboard it
happened to. The memory is a bystander: `now_run` says that the dashboard in it does what it
would do alone, and `Sound.requests` that the flights are the requests that are out.

`sound_record` is what every run keeps. The part that matters is `Sound.current`: the ticket of
a load, which is a number, equals the number of navigations exactly if there was none since the
load was started.
-/

namespace FaultConsole

namespace Dashboard

/-! ## Navigations and new clients -/

/-- Whether an event is the reply that start-up waits for. -/
def completesStartUp (d : Dashboard) : Event → Bool
  | .deliver i _ =>
    match d.pending[i]? with
    | some ⟨_, .configure⟩ => true
    | _ => false
  | _ => false

/-- Whether an event goes to a view, be it the one that is active. The end of start-up does, to
load the view again. -/
def navigates (d : Dashboard) : Event → Bool
  | .navigate _ | .reload => true
  | e => d.completesStartUp e

/-- Whether later requests may go elsewhere. -/
def replacesClient (d : Dashboard) : Event → Bool
  | .configure _ => true
  | e => d.completesStartUp e

/-- A reply that start-up does not wait for moves neither the place of the service nor the view. -/
theorem heldAfter_deliver_of_not_completesStartUp {d : Dashboard} {i : Nat} {r : Reply}
    (h : d.completesStartUp (.deliver i r) = false) :
    (d.heldAfter (.deliver i r)).base = d.base ∧
      (d.heldAfter (.deliver i r)).router = d.router := by
  simp only [completesStartUp] at h
  cases hp : d.pending[i]? with
  | none =>
      simp only [heldAfter, hp]
      exact ⟨rfl, rfl⟩
  | some p =>
      obtain ⟨call, task⟩ := p
      rw [heldAfter_deliver hp]
      cases task with
      | configure => rw [hp] at h; exact absurd h (by simp)
      | load t => exact ⟨rfl, rfl⟩
      | refreshChoices => exact ⟨rfl, rfl⟩
      | finish op => exact ⟨rfl, rfl⟩

theorem router_step_of_not_navigates {d : Dashboard} {e : Event} (h : d.navigates e = false) :
    (d.step e).router = d.router := by
  rw [router_step]
  cases e with
  | navigate v => exact absurd h (by simp [navigates])
  | reload => exact absurd h (by simp [navigates])
  | deliver i r => exact (heldAfter_deliver_of_not_completesStartUp h).2
  | _ => rfl

/-- The router counts the navigations. -/
theorem generation_step (d : Dashboard) (e : Event) :
    (d.step e).router.generation =
      d.router.generation + if d.navigates e = true then 1 else 0 := by
  cases h : d.navigates e with
  | false => rw [router_step_of_not_navigates h]; rfl
  | true =>
      rw [router_step]
      cases e with
      | navigate v => rfl
      | reload => rfl
      | deliver i r =>
          simp only [navigates, completesStartUp] at h
          split at h
          · rename_i call hp
            rw [heldAfter_deliver hp]
            rfl
          · exact absurd h (by simp)
      | _ => exact absurd h (by simp [navigates, completesStartUp])

theorem base_step_of_not_replacesClient {d : Dashboard} {e : Event}
    (h : d.replacesClient e = false) : (d.step e).base = d.base := by
  rw [base_step]
  cases e with
  | configure s => exact absurd h (by simp [replacesClient])
  | deliver i r => exact (heldAfter_deliver_of_not_completesStartUp h).1
  | _ => rfl

end Dashboard

/-! ## What new requests look like -/

/-- A request is addressed to the service at a base, as its task needs it. -/
def Pending.AddressedTo (base : String) (p : Pending) : Prop :=
  match p.task with
  | .configure => p.call = settingsCall
  | .load t => p.call = t.loader.endpoint.call base
  | .refreshChoices => p.call = Endpoint.listTargets.call base
  | .finish op => ∃ confirmed, op.start base confirmed = .ok p.call

/-- A load carries the number of a navigation. -/
def Pending.StampedBy (generation : Nat) (p : Pending) : Prop :=
  ∀ t, p.task = .load t → t.generation = generation

namespace Dashboard

theorem loadRequest_fits (base : String) (router : Router) (l : Loader) :
    (loadRequest base router l).AddressedTo base ∧
      (loadRequest base router l).StampedBy router.generation := by
  refine ⟨rfl, ?_⟩
  intro t ht
  cases ht
  rfl

theorem begun_fits {base : String} {confirmed : Bool} {op : Operation} {p : Pending}
    (generation : Nat) (h : p ∈ begun base confirmed op) :
    p.AddressedTo base ∧ p.StampedBy generation := by
  unfold begun at h
  cases hs : op.start base confirmed with
  | error o => rw [hs] at h; exact absurd h List.not_mem_nil
  | ok call =>
      rw [hs] at h
      have hp : p = ⟨call, .finish op⟩ := List.mem_singleton.mp h
      subst hp
      exact ⟨⟨confirmed, hs⟩, fun t ht => Task.noConfusion ht⟩

/-- Whatever an event sends goes where requests go after it, and a load carries the number of
the navigation that is the last after it. -/
theorem launched_fits {d : Dashboard} {e : Event} {p : Pending} (h : p ∈ d.launched e) :
    p.AddressedTo (d.step e).base ∧ p.StampedBy (d.step e).router.generation := by
  have loads : ∀ {ls : List Loader} {base : String} {router : Router},
      p ∈ ls.map (loadRequest base router) →
      p.AddressedTo base ∧ p.StampedBy router.generation := by
    intro ls base router hp
    obtain ⟨l, _, rfl⟩ := List.mem_map.mp hp
    exact loadRequest_fits base router l
  rw [base_step, router_step]
  cases e with
  | start =>
      cases List.mem_singleton.mp h
      exact ⟨rfl, fun t ht => Task.noConfusion ht⟩
  | navigate v => exact loads h
  | reload => exact loads h
  | load l =>
      cases List.mem_singleton.mp h
      exact loadRequest_fits d.base d.router l
  | refreshChoices =>
      cases List.mem_singleton.mp h
      exact ⟨rfl, fun t ht => Task.noConfusion ht⟩
  | openExperimentModal =>
      cases List.mem_singleton.mp h
      exact ⟨rfl, fun t ht => Task.noConfusion ht⟩
  | submitExperiment => exact begun_fits d.router.generation h
  | submitTarget => exact begun_fits d.router.generation h
  | clickExperiment event confirmed => exact begun_fits d.router.generation h
  | clickTarget event confirmed =>
      simp only [launched] at h
      cases ho : event.onTarget? with
      | none => rw [ho] at h; exact absurd h List.not_mem_nil
      | some op => rw [ho] at h; exact begun_fits d.router.generation h
  | deliver i r =>
      simp only [launched] at h
      cases hp : d.pending[i]? with
      | none => rw [hp] at h; exact absurd h List.not_mem_nil
      | some q =>
          obtain ⟨call, task⟩ := q
          rw [hp] at h
          rw [heldAfter_deliver hp]
          cases task with
          | configure => exact loads h
          | load t => exact absurd h List.not_mem_nil
          | refreshChoices => exact absurd h List.not_mem_nil
          | finish op => exact loads h
  | _ => exact absurd h List.not_mem_nil

end Dashboard

/-! ## The memory -/

/-- An event, and the dashboard it happened to. -/
structure Moment where
  before : Dashboard
  event : Event

/-- Whether it was a navigation. -/
def Moment.navigates (m : Moment) : Bool := m.before.navigates m.event

/-- Whether it put another client in the place of the one before. -/
def Moment.replacesClient (m : Moment) : Bool := m.before.replacesClient m.event

/-- The moments of a run, oldest first. -/
def Dashboard.moments (d : Dashboard) : List Event → List Moment
  | [] => []
  | e :: es => ⟨d, e⟩ :: (d.step e).moments es

theorem Dashboard.moments_append (d : Dashboard) (es es' : List Event) :
    d.moments (es ++ es') = d.moments es ++ (d.run es).moments es' := by
  induction es generalizing d with
  | nil => rfl
  | cons e es ih => exact congrArg _ (ih (d.step e))

/-- A request whose reply is out, and what has happened since it was sent. -/
structure Flight where
  /-- How many requests had been sent before it. -/
  number : Nat
  request : Pending
  since : List Moment := []

namespace Flight

/-- The flight after one more event. -/
def outlasts (m : Moment) (f : Flight) : Flight := { f with since := f.since ++ [m] }

/-- The loader that a flight belongs to, if it is a load. -/
def loader? (f : Flight) : Option Loader :=
  match f.request.task with
  | .load t => some t.loader
  | _ => none

/-- The flight is a load for the panel of a loader. -/
abbrev Loads (f : Flight) (l : Loader) : Prop := f.loader? = some l

theorem loads_iff {f : Flight} {l : Loader} :
    f.Loads l ↔ ∃ t, f.request.task = .load t ∧ t.loader = l := by
  unfold Loads loader?
  cases f.request.task with
  | load t => simp
  | _ => simp

/-- No navigation has happened since the request was sent. -/
abbrev Undisturbed (f : Flight) : Prop := ∀ m ∈ f.since, m.navigates = false

/-- The request was sent through the client that is in use now. -/
abbrev UsesClient (f : Flight) : Prop := ∀ m ∈ f.since, m.replacesClient = false

end Flight

/-- A dashboard with the memory of the requests that are out. -/
structure Chronicle where
  now : Dashboard
  /-- One for each request that is out, in the order they were sent. -/
  flights : List Flight := []

namespace Chronicle

/-- The dashboard for some settings, before anything happened. -/
def new (s : Settings) : Chronicle := { now := .new s }

/-- The flights that go on when an event happens. -/
def remaining (c : Chronicle) : Event → List Flight
  | .deliver i _ => c.flights.eraseIdx i
  | _ => c.flights

/-- The flights that an event starts. -/
def launched (c : Chronicle) (e : Event) : List Flight :=
  ((c.now.launched e).zipIdx c.now.sent.length).map fun (p, n) => { number := n, request := p }

/-- The chronicle after an event. -/
def step (c : Chronicle) (e : Event) : Chronicle :=
  { now := c.now.step e
    flights := (c.remaining e).map (·.outlasts ⟨c.now, e⟩) ++ c.launched e }

/-- The chronicle after events, in order. -/
def run (c : Chronicle) (es : List Event) : Chronicle := es.foldl step c

@[simp] theorem run_nil (c : Chronicle) : c.run [] = c := rfl

@[simp] theorem run_cons (c : Chronicle) (e : Event) (es : List Event) :
    c.run (e :: es) = (c.step e).run es := rfl

/-- The chronicle of a run from the start. -/
def record (s : Settings) (es : List Event) : Chronicle := (new s).run es

/-- The memory is a bystander: the dashboard does what it would do without one. -/
theorem now_run (c : Chronicle) (es : List Event) : (c.run es).now = c.now.run es := by
  induction es generalizing c with
  | nil => rfl
  | cons e es ih => exact ih (c.step e)

/-- What holds of a chronicle and is kept by every event holds after every run. -/
theorem run_keeps {P : Chronicle → Prop} (keeps : ∀ c e, P c → P (c.step e)) {c : Chronicle}
    (h : P c) (es : List Event) : P (c.run es) := by
  induction es generalizing c with
  | nil => exact h
  | cons e es ih => exact ih (keeps c e h)

/-! ## What every run keeps -/

/-- What ties the memory to the dashboard. -/
structure Sound (c : Chronicle) : Prop where
  /-- The flights are the requests that are out. -/
  requests : c.flights.map (·.request) = c.now.pending
  /-- Every flight has the number of a request that was sent. -/
  numbers : ∀ f ∈ c.flights, f.number < c.now.sent.length
  /-- No ticket is ahead of the navigations. -/
  stamps : ∀ f ∈ c.flights, ∀ t, f.request.task = .load t →
    t.generation ≤ c.now.router.generation
  /-- A ticket is level with them exactly if there was none since. -/
  current : ∀ f ∈ c.flights, ∀ t, f.request.task = .load t →
    (t.generation = c.now.router.generation ↔ f.Undisturbed)
  /-- A request that was sent through the client in use went where requests go now. -/
  addressed : ∀ f ∈ c.flights, f.UsesClient → f.request.AddressedTo c.now.base

theorem mem_remaining {c : Chronicle} {e : Event} {f : Flight} (h : f ∈ c.remaining e) :
    f ∈ c.flights := by
  cases e with
  | deliver i r => exact List.mem_of_mem_eraseIdx h
  | _ => exact h

theorem mem_launched {c : Chronicle} {e : Event} {f : Flight} (h : f ∈ c.launched e) :
    f.request ∈ c.now.launched e ∧ f.since = [] ∧
      c.now.sent.length ≤ f.number ∧ f.number < (c.now.step e).sent.length := by
  obtain ⟨⟨p, n⟩, hp, rfl⟩ := List.mem_map.mp h
  refine ⟨List.fst_mem_of_mem_zipIdx hp, rfl, List.le_snd_of_mem_zipIdx hp, ?_⟩
  have := List.snd_lt_add_of_mem_zipIdx hp
  rw [Dashboard.sent_step, List.length_append, List.length_map]
  show n < _
  simp only at this
  omega

/-- A flight after an event is one from before it or one that the event starts. -/
theorem mem_step {c : Chronicle} {e : Event} {f : Flight} (h : f ∈ (c.step e).flights) :
    (∃ g ∈ c.flights, g.outlasts ⟨c.now, e⟩ = f) ∨ f ∈ c.launched e := by
  rcases List.mem_append.mp h with h | h
  · obtain ⟨g, hg, rfl⟩ := List.mem_map.mp h
    exact Or.inl ⟨g, mem_remaining hg, rfl⟩
  · exact Or.inr h

theorem sound_new (s : Settings) : (new s).Sound where
  requests := rfl
  numbers := fun _ hf => absurd hf List.not_mem_nil
  stamps := fun _ hf => absurd hf List.not_mem_nil
  current := fun _ hf => absurd hf List.not_mem_nil
  addressed := fun _ hf => absurd hf List.not_mem_nil

/-- The flights that an event starts are the requests that it sends. -/
theorem launched_requests (c : Chronicle) (e : Event) :
    (c.launched e).map (·.request) = c.now.launched e := by
  simp only [launched, List.map_map]
  exact List.zipIdx_map_fst _ _

theorem requests_step {c : Chronicle} (h : c.Sound) (e : Event) :
    (c.step e).flights.map (·.request) = (c.step e).now.pending := by
  have remainingRequests : ((c.remaining e).map (·.outlasts ⟨c.now, e⟩)).map (·.request) =
      c.now.remaining e := by
    rw [List.map_map]
    show (c.remaining e).map (·.request) = c.now.remaining e
    cases e with
    | deliver i r =>
        simp only [remaining, Dashboard.remaining]
        rw [← h.requests, List.eraseIdx_map]
    | _ => exact h.requests
  simp only [step, List.map_append]
  rw [launched_requests, remainingRequests, Dashboard.pending_step]

/-- **Every event keeps the memory tied to the dashboard.** -/
theorem sound_step (c : Chronicle) (e : Event) (h : c.Sound) : (c.step e).Sound := by
  have generation : (c.step e).now.router.generation =
      c.now.router.generation + if c.now.navigates e = true then 1 else 0 :=
    Dashboard.generation_step c.now e
  refine ⟨requests_step h e, ?_, ?_, ?_, ?_⟩
  · intro f hf
    rcases mem_step hf with ⟨g, hg, rfl⟩ | hf
    · have := h.numbers g hg
      show g.number < (c.now.step e).sent.length
      rw [Dashboard.sent_step, List.length_append]
      omega
    · exact (mem_launched hf).2.2.2
  · intro f hf t ht
    rcases mem_step hf with ⟨g, hg, rfl⟩ | hf
    · have := h.stamps g hg t ht
      omega
    · exact Nat.le_of_eq ((Dashboard.launched_fits (mem_launched hf).1).2 t ht)
  · intro f hf t ht
    rcases mem_step hf with ⟨g, hg, rfl⟩ | hf
    · have old := h.current g hg t ht
      have le := h.stamps g hg t ht
      cases hn : c.now.navigates e with
      | true =>
          -- the ticket falls behind, and the navigation is now among what happened since
          rw [hn] at generation
          constructor
          · intro heq
            exact absurd heq (by simp at generation; omega)
          · intro hu
            have := hu ⟨c.now, e⟩ (List.mem_append_right _ (List.mem_singleton.mpr rfl))
            exact absurd this (by simp [Moment.navigates, hn])
      | false =>
          rw [hn] at generation
          simp only [Bool.false_eq_true, if_false, Nat.add_zero] at generation
          rw [generation, old]
          constructor
          · intro hu m hm
            rcases List.mem_append.mp hm with hm | hm
            · exact hu m hm
            · rw [List.mem_singleton.mp hm]
              exact hn
          · intro hu m hm
            exact hu m (List.mem_append_left _ hm)
    · obtain ⟨hp, hsince, -⟩ := mem_launched hf
      constructor
      · intro _ m hm
        rw [hsince] at hm
        exact absurd hm List.not_mem_nil
      · intro _
        exact (Dashboard.launched_fits hp).2 t ht
  · intro f hf hc
    rcases mem_step hf with ⟨g, hg, rfl⟩ | hf
    · have kept : c.now.replacesClient e = false :=
        hc ⟨c.now, e⟩ (List.mem_append_right _ (List.mem_singleton.mpr rfl))
      have old := h.addressed g hg (fun m hm => hc m (List.mem_append_left _ hm))
      show g.request.AddressedTo (c.now.step e).base
      rw [Dashboard.base_step_of_not_replacesClient kept]
      exact old
    · exact (Dashboard.launched_fits (mem_launched hf).1).1

theorem sound_run {c : Chronicle} (h : c.Sound) (es : List Event) : (c.run es).Sound :=
  run_keeps sound_step h es

/-- **The memory of every run is tied to its dashboard.** -/
theorem sound_record (s : Settings) (es : List Event) : (record s es).Sound :=
  sound_run (sound_new s) es

/-! ## Where a flight comes from -/

/-- A flight was started by an event of a run, and remembers the rest of the run since. -/
def StartedIn (c : Chronicle) (es : List Event) (f : Flight) : Prop :=
  ∃ before e after, es = before ++ e :: after ∧
    f.request ∈ (c.run before).now.launched e ∧
    (c.run before).now.sent.length ≤ f.number ∧
    f.since = (c.run (before ++ [e])).now.moments after

/-- **A flight is as old as it says.** After a run it either was out before, and has seen all of
the run, or was started in the run, and has seen what came after that. -/
theorem mem_run {c : Chronicle} {es : List Event} {f : Flight} (h : f ∈ (c.run es).flights) :
    (∃ g ∈ c.flights, f = { g with since := g.since ++ c.now.moments es }) ∨
      c.StartedIn es f := by
  induction es generalizing c with
  | nil => exact Or.inl ⟨f, h, by simp [Dashboard.moments]⟩
  | cons e es ih =>
      rcases ih (c := c.step e) h with ⟨g, hg, rfl⟩ | ⟨before, e', after, rfl, started⟩
      · rcases mem_step hg with ⟨g', hg', rfl⟩ | hg
        · refine Or.inl ⟨g', hg', ?_⟩
          simp [Flight.outlasts, Dashboard.moments, step]
        · obtain ⟨hp, hsince, hnumber, -⟩ := mem_launched hg
          exact Or.inr ⟨[], e, es, rfl, hp, hnumber, by simp [hsince]⟩
      · exact Or.inr ⟨e :: before, e', after, rfl, started⟩

/-- What a flight that was started in a run has seen was part of the run. -/
theorem StartedIn.since_subset {c : Chronicle} {es : List Event} {f : Flight}
    (h : c.StartedIn es f) : ∀ m ∈ f.since, m ∈ c.now.moments es := by
  obtain ⟨before, e, after, rfl, -, -, hsince⟩ := h
  intro m hm
  rw [hsince, now_run] at hm
  rw [show before ++ e :: after = (before ++ [e]) ++ after by simp, Dashboard.moments_append]
  exact List.mem_append_right _ hm

/-- From the start of a run nothing was out, so every flight was started in the run. -/
theorem startedIn_of_mem_record {s : Settings} {es : List Event} {f : Flight}
    (h : f ∈ (record s es).flights) : (new s).StartedIn es f := by
  rcases mem_run h with ⟨g, hg, -⟩ | started
  · exact absurd hg List.not_mem_nil
  · exact started

end Chronicle

end FaultConsole
