import FaultConsole.Outcome.Operation

/-!
# What can go wrong with an operation

An operation can fail in two places: at once, before anything is sent, or when its reply arrives.

* `Unsendable` and `FailsOn` say why, in the two places, without the outcomes that an operation
  comes to.
* `start_eq_error_iff` and `succeeded_eq_false_iff` say that an operation fails for these reasons
  and for no others; apart from them, an operation does not start only if the user declines it.
-/

namespace FaultConsole

/-! ## Replies that are accepted -/

namespace Reply

/-- A status of success. -/
theorem isSuccess_iff {status : Nat} :
    isSuccess status = true ↔ 200 ≤ status ∧ status < 300 := by
  simp [isSuccess]

theorem accept_of_success {response : Response}
    (h : 200 ≤ response.status ∧ response.status < 300) :
    (Reply.response response).accept = .ok response := by
  rw [accept, isSuccess_iff.mpr h]
  rfl

theorem accept_of_no_success {response : Response}
    (h : ¬ (200 ≤ response.status ∧ response.status < 300)) :
    (Reply.response response).accept = .error (.http response.status response.statusText) := by
  rw [accept, Bool.eq_false_iff.mpr (mt isSuccess_iff.mp h)]
  rfl

/-- The value of a reply that is accepted is the one in its body. -/
theorem value_of_accept {α : Type} {r : Reply} {response : Response}
    (h : r.accept = .ok response) (reader : Json.Reader α) :
    r.value reader = readBody reader response.body := by
  rw [value, h]
  rfl

theorem exists_accept_of_value {α : Type} {reader : Json.Reader α} {r : Reply} {v : α}
    (h : r.value reader = .ok v) : ∃ response, r.accept = .ok response := by
  cases accepted : r.accept with
  | ok response => exact ⟨response, rfl⟩
  | error p =>
      rw [value, accepted] at h
      cases h

/-- A creation is over once its reply is accepted, whether or not the body shows the record. -/
theorem created_of_accept {α : Type} {r : Reply} {response : Response}
    (h : r.accept = .ok response) (reader : Json.Reader α) :
    ∃ record, r.created reader = .ok record := by
  rw [created, h]
  cases blank : Text.isBlankText response.body with
  | true => exact ⟨none, by simp [bind, Except.bind, blank, pure, Except.pure]⟩
  | false => exact ⟨_, by simp [bind, Except.bind, blank, pure, Except.pure]; rfl⟩

end Reply

/-- A reply that is accepted is not worth an entry in the log. -/
theorem Call.replyLog_of_accept {r : Reply} {response : Response} (h : r.accept = .ok response)
    (c : Call) : c.replyLog r = [] := by
  cases r with
  | failure reason => cases h
  | response other =>
      rw [Reply.accept] at h
      split at h
      next success => simp only [replyLog, success, if_true]
      next => cases h

namespace Operation

/-! ## What can go wrong -/

/-- An operation cannot be sent, because of a problem: its form is not filled in, or there is no
such operation of the service. -/
inductive Unsendable : Operation → Problem → Prop where
  | experimentForm (p : Problem) : Unsendable (.createExperiment (.error p)) p
  | targetForm (p : Problem) : Unsendable (.createTarget (.error p)) p
  | stop (id : String) : Unsendable (.stopExperiment id) stopUnsupported

/-- The user was asked about an operation, and did not confirm it. -/
def Declined (confirmed : Bool) (op : Operation) : Prop :=
  op.question?.isSome = true ∧ confirmed = false

/-- Only deletions are asked about. -/
theorem Declined.isDeletion {confirmed : Bool} {op : Operation} (h : op.Declined confirmed) :
    ∃ id, op = .deleteExperiment id ∨ op = .deleteTarget id := by
  have asked := h.1
  cases op with
  | deleteExperiment id => exact ⟨id, Or.inl rfl⟩
  | deleteTarget id => exact ⟨id, Or.inr rfl⟩
  | _ => exact absurd asked (by simp [question?])

/-- An operation fails when a reply arrives, because of a problem. -/
inductive FailsOn (r : Reply) : Operation → Problem → Prop where
  /-- There was no response. -/
  | rejected (op : Operation) {reason : String} (failed : r = .failure reason) :
    FailsOn r op (.network reason)
  /-- The status is no success. -/
  | refused (op : Operation) {response : Response} (answered : r = .response response)
    (status : ¬ (200 ≤ response.status ∧ response.status < 300)) :
    FailsOn r op (.http response.status response.statusText)
  /-- The experiment to be shown cannot be read. -/
  | unreadableExperiment (id : String) {response : Response} {p : Problem}
    (accepted : r.accept = .ok response)
    (unread : readBody Experiment.reader response.body = .error p) :
    FailsOn r (.viewExperiment id) p
  /-- The targets, one of which is to be shown, cannot be read. -/
  | unreadableTargets (id : String) {response : Response} {p : Problem}
    (accepted : r.accept = .ok response)
    (unread : readBody (orNull Target.listReader) response.body = .error p) :
    FailsOn r (.viewTarget id) p
  /-- The target to be shown is not among them. -/
  | missingTarget (id : String) {response : Response} {targets : List Target}
    (accepted : r.accept = .ok response)
    (read : readBody (orNull Target.listReader) response.body = .ok targets)
    (missing : ∀ t ∈ targets, t.id ≠ id) :
    FailsOn r (.viewTarget id) (.notFound ("target " ++ id))

/-- An operation does not start exactly if it cannot be sent or the user declined it. -/
theorem start_eq_error_iff {base : String} {confirmed : Bool} {op : Operation} {o : Outcome} :
    op.start base confirmed = .error o ↔
      (op.Declined confirmed ∧ o = .cancelled) ∨
        ∃ p, op.Unsendable p ∧ o = .failed op.context p := by
  constructor
  · intro h
    cases op with
    | createExperiment draft =>
        cases draft with
        | ok draft => exact absurd h (by simp [start])
        | error p => cases h; exact Or.inr ⟨p, .experimentForm p, rfl⟩
    | createTarget draft =>
        cases draft with
        | ok draft => exact absurd h (by simp [start])
        | error p => cases h; exact Or.inr ⟨p, .targetForm p, rfl⟩
    | viewExperiment id => exact absurd h (by simp [start])
    | executeExperiment id => exact absurd h (by simp [start])
    | stopExperiment id => cases h; exact Or.inr ⟨_, .stop id, rfl⟩
    | deleteExperiment id =>
        cases confirmed with
        | true => exact absurd h (by simp [start])
        | false => cases h; exact Or.inl ⟨⟨rfl, rfl⟩, rfl⟩
    | viewTarget id => exact absurd h (by simp [start])
    | deleteTarget id =>
        cases confirmed with
        | true => exact absurd h (by simp [start])
        | false => cases h; exact Or.inl ⟨⟨rfl, rfl⟩, rfl⟩
  · rintro (⟨declined, rfl⟩ | ⟨p, unsendable, rfl⟩)
    · have unconfirmed : confirmed = false := declined.2
      subst unconfirmed
      obtain ⟨id, rfl | rfl⟩ := declined.isDeletion
      · rfl
      · rfl
    · cases unsendable with
      | experimentForm => rfl
      | targetForm => rfl
      | stop id => rfl

/-- Without an accepted response every operation has the same problem. -/
theorem result_of_accept_eq_error {r : Reply} {p : Problem} (h : r.accept = .error p)
    (op : Operation) : op.result r = .error p := by
  have value : ∀ {α : Type} (reader : Json.Reader α), r.value reader = .error p := by
    intro α reader
    rw [Reply.value, h]
    rfl
  cases op with
  | viewExperiment id => rw [result, Reply.experiment, value]; rfl
  | viewTarget id => rw [result, Reply.target, Reply.targets, value]; rfl
  | createExperiment draft => rw [result, Reply.created, h]; rfl
  | createTarget draft => rw [result, Reply.created, h]; rfl
  | _ => rw [result, Reply.done, h]; rfl

theorem failsOn_of_accept_eq_error {r : Reply} {p : Problem} (h : r.accept = .error p)
    (op : Operation) : op.FailsOn r p := by
  cases r with
  | failure reason => cases h; exact .rejected op rfl
  | response response =>
      by_cases hs : 200 ≤ response.status ∧ response.status < 300
      · rw [Reply.accept_of_success hs] at h
        exact absurd h (by simp)
      · rw [Reply.accept_of_no_success hs] at h
        cases h
        exact .refused op rfl hs

theorem result_viewExperiment {r : Reply} {response : Response}
    (accepted : r.accept = .ok response) (id : String) :
    (viewExperiment id).result r =
      match readBody Experiment.reader response.body with
      | .error p => .error p
      | .ok e => .ok (.shown (.experiment e)) := by
  rw [result, Reply.experiment, Reply.value_of_accept accepted]
  cases readBody Experiment.reader response.body <;> rfl

theorem result_viewTarget {r : Reply} {response : Response} (accepted : r.accept = .ok response)
    (id : String) :
    (viewTarget id).result r =
      match readBody (orNull Target.listReader) response.body with
      | .error p => .error p
      | .ok targets =>
        match targets.find? (·.id = id) with
        | some t => .ok (.shown (.target t))
        | none => .error (.notFound ("target " ++ id)) := by
  rw [result, Reply.target, Reply.targets, Reply.value_of_accept accepted]
  cases readBody (orNull Target.listReader) response.body with
  | error p => rfl
  | ok targets =>
      simp only [bind, Except.bind]
      cases targets.find? (·.id = id) <;> rfl

theorem result_of_failsOn {r : Reply} {op : Operation} {p : Problem} (h : op.FailsOn r p) :
    op.result r = .error p := by
  cases h with
  | rejected op failed =>
      subst failed
      exact result_of_accept_eq_error rfl op
  | refused op answered status =>
      subst answered
      exact result_of_accept_eq_error (Reply.accept_of_no_success status) op
  | unreadableExperiment id accepted unread => rw [result_viewExperiment accepted, unread]
  | unreadableTargets id accepted unread => rw [result_viewTarget accepted, unread]
  | @missingTarget id response targets accepted read missing =>
      have absent : targets.find? (·.id = id) = none := by simpa using missing
      rw [result_viewTarget accepted, read]
      simp only [absent]

/-- An operation whose reply has arrived fails or succeeds. -/
theorem result_cases (r : Reply) (op : Operation) :
    (∃ p, op.FailsOn r p ∧ op.result r = .error p) ∨
      ∃ o, op.result r = .ok o ∧ o.succeeded = true := by
  cases accepted : r.accept with
  | error p =>
      exact Or.inl ⟨p, failsOn_of_accept_eq_error accepted op,
        result_of_accept_eq_error accepted op⟩
  | ok response =>
      cases op with
      | viewExperiment id =>
          rw [result_viewExperiment accepted]
          cases body : readBody Experiment.reader response.body with
          | error p => exact Or.inl ⟨p, .unreadableExperiment id accepted body, rfl⟩
          | ok e => exact Or.inr ⟨_, rfl, rfl⟩
      | viewTarget id =>
          rw [result_viewTarget accepted]
          cases body : readBody (orNull Target.listReader) response.body with
          | error p => exact Or.inl ⟨p, .unreadableTargets id accepted body, rfl⟩
          | ok targets =>
              cases found : targets.find? (·.id = id) with
              | some t => exact Or.inr ⟨.shown (.target t), by simp only [found], rfl⟩
              | none =>
                  refine Or.inl ⟨_, .missingTarget id accepted body ?_, by simp only [found]⟩
                  simpa using found
      | createExperiment draft =>
          obtain ⟨record, created⟩ := Reply.created_of_accept accepted Experiment.reader
          rw [result, created]
          exact Or.inr ⟨_, rfl, rfl⟩
      | createTarget draft =>
          obtain ⟨record, created⟩ := Reply.created_of_accept accepted Target.reader
          rw [result, created]
          exact Or.inr ⟨_, rfl, rfl⟩
      | _ =>
          -- a change is over with the response
          rw [result, Reply.done, accepted]
          exact Or.inr ⟨_, rfl, rfl⟩

theorem finish_of_failsOn {r : Reply} {op : Operation} {p : Problem} (h : op.FailsOn r p) :
    op.finish r = .failed op.context p := by
  rw [finish, result_of_failsOn h]

/-- **An operation does not succeed exactly if it fails.** -/
theorem succeeded_eq_false_iff {r : Reply} {op : Operation} :
    (op.finish r).succeeded = false ↔ ∃ p, op.FailsOn r p := by
  constructor
  · intro h
    rcases result_cases r op with ⟨p, fails, -⟩ | ⟨o, result, succeeded⟩
    · exact ⟨p, fails⟩
    · rw [finish, result] at h
      exact absurd h (by simp [succeeded])
  · rintro ⟨p, fails⟩
    rw [finish_of_failsOn fails]
    rfl

end Operation

end FaultConsole
