import FaultConsole.Proofs.Form.Drafts
import FaultConsole.Proofs.Json.Reading
import FaultConsole.Proofs.Outcome.Problems
import Mathlib.Logic.ExistsUnique

/-!
# How operations end

Whoever starts an operation is told how it ended, and acts on that without asking further: a notice
is shown, lists are loaded again, a record is opened. So the ways to end must not be mixed up. A
deletion that the user called off must not look like one that failed, and one that failed must not
load anything again.

* `Ending` names the four ways to end, and `EndsIn` says what each of them comes with. No two of
  them have the same outcome.
* `Reply.Accepted` and `Reply.Shows` say when a reply is a success, in terms of its status and its
  body. A change is over with the status: a body that cannot be read does not undo it.
* `operation_ends_in_one_way` puts them together for every operation, every reply and both answers
  to the question that a deletion asks.
-/

namespace FaultConsole

/-! ## When a reply is a success -/

namespace Reply

/-- The reply is a response with a status of success. -/
def Accepted (r : Reply) (response : Response) : Prop :=
  r = .response response ∧ 200 ≤ response.status ∧ response.status ≤ 299

/-- The body of a response lists targets; `null` lists none. -/
def ListsTargets (response : Response) (targets : List Target) : Prop :=
  (Json.read response.body = .ok .null ∧ targets = []) ∨
    readBody Target.listReader response.body = .ok targets

/-- The reply holds the record that an operation is to show: the experiment in its body, or the
first target of its list that has the id. -/
inductive Shows (r : Reply) : Operation → Detail → Prop where
  | experiment {id : String} {response : Response} {e : Experiment} (accepted : r.Accepted response)
    (read : readBody Experiment.reader response.body = .ok e) :
    Shows r (.viewExperiment id) (.experiment e)
  | target {id : String} {response : Response} {before after : List Target} {t : Target}
    (accepted : r.Accepted response) (listed : ListsTargets response (before ++ t :: after))
    (found : t.id = id) (first : ∀ t' ∈ before, t'.id ≠ id) :
    Shows r (.viewTarget id) (.target t)

theorem accepted_iff {r : Reply} {response : Response} :
    r.Accepted response ↔ r.accept = .ok response := by
  cases r with
  | failure reason => simp [Accepted, accept]
  | response other =>
      by_cases success : 200 ≤ other.status ∧ other.status < 300
      · rw [accept_of_success success]
        constructor
        · rintro ⟨same, -⟩
          cases same
          rfl
        · intro same
          cases same
          exact ⟨rfl, success.1, by omega⟩
      · rw [accept_of_no_success success]
        constructor
        · rintro ⟨same, low, high⟩
          cases same
          exact absurd ⟨low, by omega⟩ success
        · intro same
          cases same

theorem listsTargets_iff {response : Response} {targets : List Target} :
    ListsTargets response targets ↔
      readBody (orNull Target.listReader) response.body = .ok targets :=
  (readBody_orNull_iff Target.listReader_isListReader).symm

end Reply

namespace Operation

/-! ## The ways to end -/

/-- The operation changes records; any other only shows one. -/
def isChange : Operation → Bool
  | viewExperiment _ | viewTarget _ => false
  | _ => true

/-- The lists that show the records which an operation is about. -/
def owners : Operation → List Loader
  | createExperiment _ | viewExperiment _ | executeExperiment _ | stopExperiment _
  | deleteExperiment _ => [.dashboard, .experiments]
  | createTarget _ | viewTarget _ | deleteTarget _ => [.targets]

/-- The drafts of creations are what forms made of their fields. -/
def FromForm : Operation → Prop
  | createExperiment draft => ∃ form : ExperimentForm, draft = form.draft
  | createTarget draft => ∃ form : TargetForm, draft = form.draft
  | _ => True

/-- The ways for an operation to end. -/
inductive Ending where
  | cancelled
  | failed
  | changed
  | shown
deriving DecidableEq

/-- What an operation that ended in a way has sent, and what it came to. -/
def EndsIn (op : Operation) (confirmed : Bool) (sent : List Call) (o : Outcome) : Ending → Prop
  | .cancelled =>
    op.Declined confirmed ∧ sent = [] ∧
      o = { succeeded := false, notice := none, reload := [], detail := none }
  | .failed =>
    ∃ p, (op.FromForm → (p.isLocal = true ↔ sent = [])) ∧
      o = { succeeded := false, notice := some (.ofProblem op.context p), reload := [],
            detail := none }
  | .changed =>
    op.isChange = true ∧ sent.length = 1 ∧ ∃ message,
      o = { succeeded := true, notice := some (.success message), reload := op.owners,
            detail := none }
  | .shown =>
    op.isChange = false ∧ sent.length = 1 ∧ ∃ detail,
      o = { succeeded := true, notice := none, reload := [], detail := some detail }

/-! ### No two ways are alike -/

/-- Whether an operation that ended in a way succeeded, and whether it has a notice. -/
def Ending.signs : Ending → Bool × Bool
  | cancelled => (false, false)
  | failed => (false, true)
  | changed => (true, true)
  | shown => (true, false)

variable {op : Operation} {confirmed : Bool} {sent : List Call} {o : Outcome}

/-- The way to end can be told from the outcome. -/
theorem EndsIn.signs_eq {ending : Ending} (h : op.EndsIn confirmed sent o ending) :
    ending.signs = (o.succeeded, o.notice.isSome) := by
  cases ending with
  | cancelled => obtain ⟨-, -, rfl⟩ := h; rfl
  | failed => obtain ⟨p, -, rfl⟩ := h; rfl
  | changed => obtain ⟨-, -, message, rfl⟩ := h; rfl
  | shown => obtain ⟨-, -, detail, rfl⟩ := h; rfl

theorem EndsIn.unique {a b : Ending} (ha : op.EndsIn confirmed sent o a)
    (hb : op.EndsIn confirmed sent o b) : a = b := by
  have same : a.signs = b.signs := ha.signs_eq.trans hb.signs_eq.symm
  cases a <;> cases b <;> first | rfl | exact absurd same (by decide)

/-! ## Which way it is -/

/-- What is wrong with a body is never found before it is asked for. -/
theorem isLocal_of_readBody {α : Type} {reader : Json.Reader α} {body : String} {p : Problem}
    (h : readBody reader body = .error p) : p.isLocal = false := by
  unfold readBody at h
  split at h
  · cases h
  · cases h; rfl

/-- What goes wrong with a reply is not local. -/
theorem FailsOn.isLocal_eq_false {r : Reply} {p : Problem} (h : op.FailsOn r p) :
    p.isLocal = false := by
  cases h with
  | rejected op failed => rfl
  | refused op answered status => rfl
  | unreadableExperiment id accepted unread => exact isLocal_of_readBody unread
  | unreadableTargets id accepted unread => exact isLocal_of_readBody unread
  | missingTarget id accepted read missing => rfl

/-- A form only has complaints that are local. -/
theorem isLocal_of_experimentForm {form : ExperimentForm} {p : Problem}
    (h : form.draft = .error p) : p.isLocal = true := by
  obtain ⟨message, rfl⟩ := ExperimentForm.exists_validation_of_draft h
  rfl

theorem isLocal_of_targetForm {form : TargetForm} {p : Problem} (h : form.draft = .error p) :
    p.isLocal = true := by
  obtain ⟨message, rfl⟩ := TargetForm.exists_validation_of_draft h
  rfl

/-- What keeps an operation from being sent is local. -/
theorem Unsendable.isLocal {p : Problem} (h : op.Unsendable p) (fromForm : op.FromForm) :
    p.isLocal = true := by
  cases h with
  | experimentForm p =>
      obtain ⟨form, same⟩ := fromForm
      exact isLocal_of_experimentForm same.symm
  | targetForm p =>
      obtain ⟨form, same⟩ := fromForm
      exact isLocal_of_targetForm same.symm
  | stop id => rfl

/-- A change is over once its reply is accepted, whatever the body. -/
theorem finish_of_accepted {r : Reply} {response : Response} (accepted : r.Accepted response)
    (change : op.isChange = true) :
    ∃ message, op.finish r =
      { succeeded := true, notice := some (.success message), reload := op.owners,
        detail := none } := by
  have accept := Reply.accepted_iff.mp accepted
  have done : r.done = .ok () := by
    rw [Reply.done, accept]
    rfl
  cases op with
  | viewExperiment id => cases change
  | viewTarget id => cases change
  | createExperiment draft =>
      obtain ⟨record, created⟩ := Reply.created_of_accept accept Experiment.reader
      rw [finish, result, created]
      exact ⟨_, rfl⟩
  | createTarget draft =>
      obtain ⟨record, created⟩ := Reply.created_of_accept accept Target.reader
      rw [finish, result, created]
      exact ⟨_, rfl⟩
  | _ => rw [finish, result, done]; exact ⟨_, rfl⟩

theorem finish_of_shows {r : Reply} {detail : Detail} (shows : r.Shows op detail) :
    op.finish r = { succeeded := true, notice := none, reload := [], detail := some detail } := by
  cases shows with
  | experiment accepted read =>
      rw [finish, result_viewExperiment (Reply.accepted_iff.mp accepted), read]
      rfl
  | @target id response before after t accepted listed found first =>
      have lookup : (before ++ t :: after).find? (·.id = id) = some t := by
        refine List.find?_eq_some_iff_append.mpr ⟨by simpa using found, before, after, rfl, ?_⟩
        intro t' ht'
        simpa using first t' ht'
      rw [finish, result_viewTarget (Reply.accepted_iff.mp accepted),
        Reply.listsTargets_iff.mp listed]
      simp only [lookup]
      rfl

/-- **A reply to an operation is refused, or is all that it needs.** -/
theorem failsOn_or (r : Reply) (op : Operation) :
    (∃ p, op.FailsOn r p) ∨ (op.isChange = true ∧ ∃ response, r.Accepted response) ∨
      (op.isChange = false ∧ ∃ detail, r.Shows op detail) := by
  cases accept : r.accept with
  | error p => exact Or.inl ⟨p, failsOn_of_accept_eq_error accept op⟩
  | ok response =>
      have accepted := Reply.accepted_iff.mpr accept
      cases op with
      | viewExperiment id =>
          cases body : readBody Experiment.reader response.body with
          | error p => exact Or.inl ⟨p, .unreadableExperiment id accept body⟩
          | ok e => exact Or.inr (Or.inr ⟨rfl, _, .experiment accepted body⟩)
      | viewTarget id =>
          cases body : readBody (orNull Target.listReader) response.body with
          | error p => exact Or.inl ⟨p, .unreadableTargets id accept body⟩
          | ok targets =>
              cases lookup : targets.find? (·.id = id) with
              | none =>
                  refine Or.inl ⟨_, .missingTarget id accept body ?_⟩
                  simpa using lookup
              | some t =>
                  obtain ⟨found, before, after, rfl, first⟩ :=
                    List.find?_eq_some_iff_append.mp lookup
                  refine Or.inr (Or.inr ⟨rfl, _, .target accepted
                    (Reply.listsTargets_iff.mpr body) (by simpa using found) ?_⟩)
                  intro t' ht'
                  simpa using first t' ht'
      | _ => exact Or.inr (Or.inl ⟨rfl, response, accepted⟩)

/-- What an operation has loaded again is what it changed. -/
theorem reload_finish (r : Reply) (op : Operation) :
    (op.finish r).reload = [] ∨ (op.finish r).reload = op.owners := by
  rcases failsOn_or r op with ⟨p, fails⟩ | ⟨change, response, accepted⟩ | ⟨-, detail, shows⟩
  · rw [finish_of_failsOn fails]
    exact Or.inl rfl
  · obtain ⟨message, ended⟩ := finish_of_accepted accepted change
    rw [ended]
    exact Or.inr rfl
  · rw [finish_of_shows shows]
    exact Or.inl rfl

/-- A view always has something to send. -/
theorem exists_call_of_view (view : op.isChange = false) (base : String) (confirmed : Bool) :
    ∃ call, op.start base confirmed = .ok call := by
  cases op with
  | viewExperiment id => exact ⟨_, rfl⟩
  | viewTarget id => exact ⟨_, rfl⟩
  | _ => cases view

/-- An operation that was sent ends as its reply says. -/
theorem exists_endsIn_finish (op : Operation) (confirmed : Bool) (call : Call) (r : Reply) :
    ∃ ending, op.EndsIn confirmed [call] (op.finish r) ending := by
  rcases failsOn_or r op with ⟨p, fails⟩ | ⟨change, response, accepted⟩ | ⟨view, detail, shows⟩
  · refine ⟨.failed, p, ?_, finish_of_failsOn fails⟩
    intro _
    simp [fails.isLocal_eq_false]
  · exact ⟨.changed, change, rfl, finish_of_accepted accepted change⟩
  · exact ⟨.shown, view, rfl, detail, finish_of_shows shows⟩

/-- An operation that could not be sent was called off, or has a local problem. -/
theorem exists_endsIn_of_start_eq_error {base : String} {confirmed : Bool}
    (h : op.start base confirmed = .error o) : ∃ ending, op.EndsIn confirmed [] o ending := by
  rcases start_eq_error_iff.mp h with ⟨declined, rfl⟩ | ⟨p, unsendable, rfl⟩
  · exact ⟨.cancelled, declined, rfl, rfl⟩
  · refine ⟨.failed, p, ?_, rfl⟩
    intro fromForm
    simp [unsendable.isLocal fromForm]

/-- A change that was sent succeeds exactly if its reply is accepted. -/
theorem succeeded_change_iff {r : Reply} (change : op.isChange = true) :
    (op.finish r).succeeded = true ↔ ∃ response, r.Accepted response := by
  constructor
  · intro succeeded
    rcases failsOn_or r op with ⟨p, fails⟩ | ⟨-, accepted⟩ | ⟨view, -⟩
    · rw [finish_of_failsOn fails] at succeeded
      cases succeeded
    · exact accepted
    · rw [change] at view
      cases view
  · rintro ⟨response, accepted⟩
    obtain ⟨message, ended⟩ := finish_of_accepted accepted change
    rw [ended]

/-- What is opened is what the reply shows. -/
theorem detail_finish_iff {r : Reply} {detail : Detail} (view : op.isChange = false) :
    (op.finish r).detail = some detail ↔ r.Shows op detail := by
  constructor
  · intro opened
    rcases failsOn_or r op with ⟨p, fails⟩ | ⟨change, -⟩ | ⟨-, other, shows⟩
    · rw [finish_of_failsOn fails] at opened
      cases opened
    · rw [view] at change
      cases change
    · rw [finish_of_shows shows] at opened
      cases opened
      exact shows
  · intro shows
    rw [finish_of_shows shows]

theorem succeeded_view_iff {r : Reply} (view : op.isChange = false) :
    (op.finish r).succeeded = true ↔ ∃ detail, r.Shows op detail := by
  constructor
  · intro succeeded
    rcases failsOn_or r op with ⟨p, fails⟩ | ⟨change, -⟩ | ⟨-, shows⟩
    · rw [finish_of_failsOn fails] at succeeded
      cases succeeded
    · rw [view] at change
      cases change
    · exact shows
  · rintro ⟨detail, shows⟩
    rw [finish_of_shows shows]

end Operation

open Operation in
/-- **Every operation ends in exactly one way, with one request at most.**

Nothing is sent exactly if the user declined a deletion or there is nothing to send. A change that
was sent succeeds by the status of its reply alone. A view always is sent; it succeeds if the reply
also holds the record, and that is the record it shows. -/
theorem operation_ends_in_one_way (op : Operation) (base : String) (confirmed : Bool)
    (answer : Call → Reply) :
    let sent := (op.run base confirmed answer).1
    let o := (op.run base confirmed answer).2
    sent.length ≤ 1 ∧
    (sent = [] ↔ op.Declined confirmed ∨ ∃ p, op.Unsendable p) ∧
    (∃! ending, op.EndsIn confirmed sent o ending) ∧
    (op.isChange = true → ∀ call ∈ sent,
      (o.succeeded = true ↔ ∃ response, (answer call).Accepted response)) ∧
    (op.isChange = false → ∃ call, sent = [call] ∧
      (o.succeeded = true ↔ ∃ detail, (answer call).Shows op detail) ∧
      ∀ detail, o.detail = some detail ↔ (answer call).Shows op detail) := by
  have one : ∀ {sent o}, (∃ ending, op.EndsIn confirmed sent o ending) →
      ∃! ending, op.EndsIn confirmed sent o ending :=
    fun ⟨ending, ends⟩ => ⟨ending, ends, fun _ other => other.unique ends⟩
  unfold run
  cases started : op.start base confirmed with
  | ok call =>
      refine ⟨Nat.le_refl 1, ⟨nofun, ?_⟩, one (exists_endsIn_finish op confirmed call _), ?_, ?_⟩
      · intro unsent
        have refused : ∃ o, op.start base confirmed = .error o := by
          rcases unsent with declined | ⟨p, unsendable⟩
          · exact ⟨_, start_eq_error_iff.mpr (Or.inl ⟨declined, rfl⟩)⟩
          · exact ⟨_, start_eq_error_iff.mpr (Or.inr ⟨p, unsendable, rfl⟩)⟩
        obtain ⟨o, refused⟩ := refused
        rw [started] at refused
        cases refused
      · intro change call' hcall
        rw [List.mem_singleton.mp hcall]
        exact succeeded_change_iff change
      · intro view
        exact ⟨call, rfl, succeeded_view_iff view, fun _ => detail_finish_iff view⟩
  | error o =>
      refine ⟨Nat.zero_le 1, ⟨fun _ => ?_, fun _ => rfl⟩,
        one (exists_endsIn_of_start_eq_error started), fun _ _ hcall => ?_, fun view => ?_⟩
      · rcases start_eq_error_iff.mp started with ⟨declined, -⟩ | ⟨p, unsendable, -⟩
        · exact Or.inl declined
        · exact Or.inr ⟨p, unsendable⟩
      · exact absurd hcall List.not_mem_nil
      · obtain ⟨call, sendable⟩ := exists_call_of_view view base confirmed
        rw [started] at sendable
        cases sendable

end FaultConsole
