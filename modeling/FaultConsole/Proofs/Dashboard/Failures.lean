import FaultConsole.Proofs.Dashboard.Chronicle

/-!
# What a failure leaves behind

Between a request and its reply the user may have gone elsewhere, typed on, opened another dialog,
or started something else. None of this may be lost when the operation fails, so a failure must not
touch anything that it need not.

* `Dashboard.failed` is the dashboard with one more notice. It is written out field by field, so
  what it does not name stays as it was.
* `failure_only_adds_notice` — in every state of every run, that is all that a failure does, and an
  operation that the user backs out of does nothing at all.

Why an operation fails is said by `Operation.Unsendable` and `Operation.FailsOn`, which know nothing
of the dashboard.
-/

namespace FaultConsole

/-- The operation creates a record, from a form. -/
def Operation.creates : Operation → Bool
  | createExperiment _ | createTarget _ => true
  | _ => false

namespace Dashboard

/-! ## What a failure does -/

/-- The operation that an event asks for, and the answer to the question it may lead to. -/
def operation? (d : Dashboard) : Event → Option (Operation × Bool)
  | .submitExperiment => some (.createExperiment d.experimentModal.form.draft, false)
  | .submitTarget => some (.createTarget d.targetModal.form.draft, false)
  | .clickExperiment event confirmed => some (event.onExperiment, confirmed)
  | .clickTarget event confirmed => event.onTarget?.map fun op => (op, confirmed)
  | _ => none

/-- The dashboard once an operation has failed: with one more notice, which goes away by itself if
it is a warning, and with no creation out if the operation was one. -/
def failed (op : Operation) (p : Problem) (d : Dashboard) : Dashboard :=
  let notice := Notice.ofProblem op.context p
  { d with
    notices := d.notices ++ [(d.nextNotice, notice)]
    nextNotice := d.nextNotice + 1
    timers :=
      if notice.tone = .warning then d.timers ++ [⟨d.clock + 5000, d.nextNotice⟩] else d.timers
    submitting := if op.creates then false else d.submitting }

/-- The notice of a problem goes away by itself if it is a warning. -/
theorem dismissesItself_ofProblem (context : String) (p : Problem) :
    (Notice.ofProblem context p).dismissesItself =
      decide ((Notice.ofProblem context p).tone = .warning) := by
  cases p <;> rfl

/-- **A failure does what `failed` says.** -/
theorem conclude_failed (op : Operation) (p : Problem) (d : Dashboard) :
    d.conclude op (.failed op.context p) = d.failed op p := by
  have notified : ∀ d' : Dashboard, d'.apply (.failed op.context p) =
      d'.notify (.ofProblem op.context p) := fun _ => rfl
  rw [conclude, notified, notify, failed, dismissesItself_ofProblem]
  cases op <;> simp [settleModal, Modal.settle, Outcome.failed, Operation.creates, noticeTime]

/-- What the user backs out of does nothing. -/
theorem conclude_cancelled {confirmed : Bool} {op : Operation} (h : op.Declined confirmed)
    (d : Dashboard) : d.conclude op .cancelled = d := by
  obtain ⟨id, rfl | rfl⟩ := h.isDeletion
  · rfl
  · rfl

/-- An event that asks for an operation starts it; if it is a creation, one is out now. -/
theorem step_of_operation? {d : Dashboard} {e : Event} {op : Operation} {confirmed : Bool}
    (h : d.operation? e = some (op, confirmed)) :
    d.step e =
      { d with submitting := if op.creates then true else d.submitting }.perform op confirmed := by
  cases e with
  | submitExperiment => cases h; rfl
  | submitTarget => cases h; rfl
  | clickExperiment event answer =>
      cases h
      obtain ⟨action, id⟩ := event
      cases action <;> rfl
  | clickTarget event answer =>
      obtain ⟨action, id⟩ := event
      cases action with
      | view => cases h; rfl
      | delete => cases h; rfl
      | execute => exact absurd h (by simp [operation?, RowEvent.onTarget?])
      | stop => exact absurd h (by simp [operation?, RowEvent.onTarget?])
  | _ => exact absurd h (by simp [operation?])

/-- What can be sent is sent, and nothing else happens. -/
theorem step_of_start {d : Dashboard} {e : Event} {op : Operation} {confirmed : Bool} {call : Call}
    (h : d.operation? e = some (op, confirmed)) (starts : op.start d.base confirmed = .ok call) :
    d.step e =
      { d with submitting := if op.creates then true else d.submitting }.send call
        (.finish op) := by
  rw [step_of_operation? h, perform, starts]

/-- What cannot be sent fails at once. -/
theorem step_of_unsendable {d : Dashboard} {e : Event} {op : Operation} {confirmed : Bool}
    {p : Problem} (h : d.operation? e = some (op, confirmed)) (unsendable : op.Unsendable p) :
    d.step e = d.failed op p := by
  have start : op.start d.base confirmed = .error (.failed op.context p) :=
    Operation.start_eq_error_iff.mpr (Or.inr ⟨p, unsendable, rfl⟩)
  rw [step_of_operation? h, perform, start]
  simp only
  rw [conclude_failed]
  unfold failed
  cases op.creates <;> rfl

theorem step_of_declined {d : Dashboard} {e : Event} {op : Operation} {confirmed : Bool}
    (h : d.operation? e = some (op, confirmed)) (declined : op.Declined confirmed) :
    d.step e = d := by
  have start : op.start d.base confirmed = .error .cancelled :=
    Operation.start_eq_error_iff.mpr (Or.inl ⟨declined, rfl⟩)
  have noCreation : op.creates = false := by
    obtain ⟨id, rfl | rfl⟩ := declined.isDeletion
    · rfl
    · rfl
  rw [step_of_operation? h, perform, start]
  simp only
  rw [conclude_cancelled declined, noCreation]
  rfl

/-- What was sent fails when a reply arrives that it fails on. The request is out no more. -/
theorem step_of_failsOn {d : Dashboard} {i : Nat} {r : Reply} {call : Call} {op : Operation}
    {p : Problem} (out : d.pending[i]? = some ⟨call, .finish op⟩) (fails : op.FailsOn r p) :
    d.step (.deliver i r) = { d with pending := d.pending.eraseIdx i }.failed op p := by
  simp only [step, deliver, out, receive]
  rw [Operation.finish_of_failsOn fails, conclude_failed]

/-- Targets can be neither executed nor stopped. -/
theorem step_clickTarget_of_noOperation {d : Dashboard} {event : RowEvent} {confirmed : Bool}
    (h : event.action = .execute ∨ event.action = .stop) :
    d.step (.clickTarget event confirmed) = d := by
  obtain ⟨action, id⟩ := event
  rcases h with h | h
  · cases h; rfl
  · cases h; rfl

/-- A request that ends an operation is sent by an event that asks for it. -/
theorem operation?_of_launched {d : Dashboard} {e : Event} {p : Pending} {op : Operation}
    (h : p ∈ d.launched e) (ends : p.task = .finish op) :
    ∃ confirmed, d.operation? e = some (op, confirmed) := by
  have loads : ∀ {ls : List Loader} {base : String} {router : Router},
      p ∉ ls.map (loadRequest base router) := by
    intro ls base router hp
    obtain ⟨l, -, rfl⟩ := List.mem_map.mp hp
    exact Task.noConfusion ends
  have begins : ∀ {base : String} {confirmed : Bool} {op' : Operation},
      p ∈ begun base confirmed op' → op' = op := by
    intro base confirmed op' hp
    unfold begun at hp
    cases hs : op'.start base confirmed with
    | error o => rw [hs] at hp; exact absurd hp List.not_mem_nil
    | ok call =>
        rw [hs] at hp
        cases List.mem_singleton.mp hp
        exact Task.finish.inj ends
  cases e with
  | navigate v => exact absurd h loads
  | reload => exact absurd h loads
  | submitExperiment => exact ⟨_, by rw [operation?, begins h]⟩
  | submitTarget => exact ⟨_, by rw [operation?, begins h]⟩
  | clickExperiment event confirmed => exact ⟨_, by rw [operation?, begins h]⟩
  | clickTarget event confirmed =>
      simp only [launched] at h
      cases ho : event.onTarget? with
      | none => rw [ho] at h; exact absurd h List.not_mem_nil
      | some op' =>
          rw [ho] at h
          exact ⟨confirmed, by rw [operation?, ho, begins h]; rfl⟩
  | deliver i r =>
      simp only [launched] at h
      cases out : d.pending[i]? with
      | none => rw [out] at h; exact absurd h List.not_mem_nil
      | some q =>
          obtain ⟨call, task⟩ := q
          rw [out] at h
          cases task with
          | configure => exact absurd h loads
          | load t => exact absurd h List.not_mem_nil
          | refreshChoices => exact absurd h List.not_mem_nil
          | finish op' => exact absurd h loads
  | start => cases List.mem_singleton.mp h; exact Task.noConfusion ends
  | load l => cases List.mem_singleton.mp h; exact Task.noConfusion ends
  | refreshChoices => cases List.mem_singleton.mp h; exact Task.noConfusion ends
  | openExperimentModal => cases List.mem_singleton.mp h; exact Task.noConfusion ends
  | _ => exact absurd h List.not_mem_nil

end Dashboard

namespace Chronicle

/-- Every operation that is out was asked for by an event of the run. -/
theorem exists_operation? {s : Settings} {es : List Event} {i : Nat} {call : Call}
    {op : Operation}
    (out : ((Dashboard.new s).run es).pending[i]? = some ⟨call, .finish op⟩) :
    ∃ before e after confirmed, es = before ++ e :: after ∧
      ((Dashboard.new s).run before).operation? e = some (op, confirmed) := by
  have sound := sound_record s es
  have now : (record s es).now = (Dashboard.new s).run es := now_run (new s) es
  have requests : ((record s es).flights.map (·.request))[i]? = some ⟨call, .finish op⟩ := by
    rw [sound.requests, now]
    exact out
  rw [List.getElem?_map] at requests
  obtain ⟨f, hf, request⟩ := Option.map_eq_some_iff.mp requests
  obtain ⟨before, e, after, rfl, launched, -⟩ :=
    startedIn_of_mem_record (List.mem_of_getElem? hf)
  rw [now_run] at launched
  have ends : f.request.task = .finish op := congrArg Pending.task request
  obtain ⟨confirmed, h⟩ := Dashboard.operation?_of_launched launched ends
  exact ⟨before, e, after, confirmed, rfl, h⟩

end Chronicle

/-- **A failure adds one notice, and changes nothing else.**

The run may be any, so between a request and its reply anything else may have happened; what is
kept is what is there when the reply arrives. -/
theorem failure_only_adds_notice (s : Settings) (es : List Event) :
    let d := (Dashboard.new s).run es
    -- what cannot be sent fails at once
    (∀ e op confirmed p, d.operation? e = some (op, confirmed) → op.Unsendable p →
      d.step e = d.failed op p) ∧
    -- what was sent fails when its reply arrives
    (∀ (i : Nat) r call op p, d.pending[i]? = some ⟨call, .finish op⟩ → op.FailsOn r p →
      d.step (.deliver i r) = { d with pending := d.pending.eraseIdx i }.failed op p) ∧
    -- there is no other way to fail, and nothing fails that nobody asked for
    (∀ e op confirmed, d.operation? e = some (op, confirmed) →
      (∃ call, op.start d.base confirmed = .ok call) ∨ op.Declined confirmed ∨
        ∃ p, op.Unsendable p) ∧
    (∀ r op, (op.finish r).succeeded = false ↔ ∃ p, Operation.FailsOn r op p) ∧
    (∀ (i : Nat) call op, d.pending[i]? = some ⟨call, .finish op⟩ →
      ∃ before e after confirmed, es = before ++ e :: after ∧
        ((Dashboard.new s).run before).operation? e = some (op, confirmed)) ∧
    -- what the user backs out of, and what targets do not offer, does nothing
    (∀ e op confirmed, d.operation? e = some (op, confirmed) → op.Declined confirmed →
      d.step e = d) ∧
    (∀ event confirmed, event.action = .execute ∨ event.action = .stop →
      d.step (.clickTarget event confirmed) = d) := by
  intro d
  refine ⟨?_, ?_, ?_, ?_, ?_, ?_, ?_⟩
  · intro e op confirmed p
    exact Dashboard.step_of_unsendable
  · intro i r call op p
    exact Dashboard.step_of_failsOn
  · intro e op confirmed _
    cases start : op.start d.base confirmed with
    | ok call => exact Or.inl ⟨call, rfl⟩
    | error o =>
        rcases Operation.start_eq_error_iff.mp start with ⟨declined, -⟩ | ⟨p, unsendable, -⟩
        · exact Or.inr (Or.inl declined)
        · exact Or.inr (Or.inr ⟨p, unsendable⟩)
  · intro r op
    exact Operation.succeeded_eq_false_iff
  · intro i call op
    exact Chronicle.exists_operation?
  · intro e op confirmed
    exact Dashboard.step_of_declined
  · intro event confirmed
    exact Dashboard.step_clickTarget_of_noOperation

end FaultConsole
