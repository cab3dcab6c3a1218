import FaultConsole.Proofs.Dashboard.Failures
import Mathlib.Data.List.Perm.Basic

/-!
# One submission at a time

Two dialogs create records, and one mark says that a form is being sent. The mark is set by
whichever dialog is submitted and cleared by whichever outcome comes next, so it tells the truth
only if submissions do not overlap. The dialogs see to that: while the mark is set, neither can be
submitted.

* `dialogs_step` says what an event does to the dialogs and to the mark: what it does by itself, and
  what the outcomes do that are applied with it.
* `accounts_step` keeps the books. What was being sent or is submitted now is either at its end or
  still being sent.
* `submitting_iff_one_is_out` — if forms are submitted in turn, the mark is set exactly while one
  submission waits for its outcome. Never do two of them wait, and one that succeeds closes its own
  dialog and leaves the other alone.

A form that makes no draft is submitted, too. Its outcome is applied at once, so it is never out.
-/

namespace FaultConsole

/-! ## Submissions and outcomes -/

/-- An event submits a form. -/
def Event.submits : Event → Bool
  | .submitExperiment | .submitTarget => true
  | _ => false

/-- The creation that a request belongs to, if it does to one. -/
def Pending.creation? (p : Pending) : Option Operation :=
  match p.task with
  | .finish op => if op.creates then some op else none
  | _ => none

/-- A request asks the service to create a record: it is the only kind that brings one. -/
def Call.creates (c : Call) : Bool := c.method == .post && c.body.isSome

namespace Dashboard

/-- The creations among some requests. -/
def creationsAmong (ps : List Pending) : List Operation := ps.filterMap (·.creation?)

/-- The submissions that are out: they have been sent, and their replies have not come. -/
def creationsOut (d : Dashboard) : List Operation := creationsAmong d.pending

/-- The submission that an event starts, if it does. -/
def submitted (d : Dashboard) : Event → List Operation
  | .submitExperiment => [.createExperiment d.experimentModal.form.draft]
  | .submitTarget => [.createTarget d.targetModal.form.draft]
  | _ => []

/-- A submission that ends as it starts, since there is nothing to send, and its outcome. -/
def refused (d : Dashboard) (op : Operation) : List (Operation × Outcome) :=
  match op.start d.base false with
  | .ok _ => []
  | .error o => [(op, o)]

/-- The submission whose outcome is applied with an event, if one is, and that outcome. -/
def applied (d : Dashboard) : Event → List (Operation × Outcome)
  | .submitExperiment => d.refused (.createExperiment d.experimentModal.form.draft)
  | .submitTarget => d.refused (.createTarget d.targetModal.form.draft)
  | .deliver i r => ((d.pending[i]?.bind (·.creation?)).map fun op => (op, op.finish r)).toList
  | _ => []

theorem submitted_eq_nil {d : Dashboard} {e : Event} (h : e.submits = false) :
    d.submitted e = [] := by
  cases e with
  | submitExperiment => cases h
  | submitTarget => cases h
  | _ => rfl

theorem refused_cases (d : Dashboard) {op : Operation} (creates : op.creates = true) :
    d.refused op = [] ∧ creationsAmong (begun d.base false op) = [op] ∨
      ∃ o, d.refused op = [(op, o)] ∧ o.succeeded = false ∧
        creationsAmong (begun d.base false op) = [] := by
  unfold refused begun
  cases start : op.start d.base false with
  | ok call =>
      refine Or.inl ⟨rfl, ?_⟩
      simp [creationsAmong, Pending.creation?, creates]
  | error o =>
      refine Or.inr ⟨o, rfl, ?_, rfl⟩
      rcases Operation.start_eq_error_iff.mp start with ⟨-, rfl⟩ | ⟨p, -, rfl⟩
      · rfl
      · rfl

/-! ## The books -/

theorem creationsAmong_append (ps qs : List Pending) :
    creationsAmong (ps ++ qs) = creationsAmong ps ++ creationsAmong qs :=
  List.filterMap_append

theorem creationsAmong_loads (base : String) (router : Router) (ls : List Loader) :
    creationsAmong (ls.map (loadRequest base router)) = [] := by
  refine List.filterMap_eq_nil_iff.mpr ?_
  intro p hp
  obtain ⟨l, -, rfl⟩ := List.mem_map.mp hp
  rfl

/-- What a reply leads to are loads. -/
theorem creationsAmong_answered (r : Reply) (d : Dashboard) (task : Task) :
    creationsAmong (d.answered r task) = [] := by
  cases task with
  | configure => exact creationsAmong_loads _ _ _
  | load t => rfl
  | refreshChoices => rfl
  | finish op => exact creationsAmong_loads _ _ _

theorem creationsAmong_begun {op : Operation} (h : op.creates = false) (base : String)
    (confirmed : Bool) : creationsAmong (begun base confirmed op) = [] := by
  unfold begun
  cases op.start base confirmed with
  | ok call => simp [creationsAmong, Pending.creation?, h]
  | error o => rfl

theorem creates_onExperiment (event : RowEvent) : event.onExperiment.creates = false := by
  obtain ⟨action, id⟩ := event
  cases action <;> rfl

theorem creates_onTarget {event : RowEvent} {op : Operation} (h : event.onTarget? = some op) :
    op.creates = false := by
  obtain ⟨action, id⟩ := event
  cases action with
  | view => cases h; rfl
  | delete => cases h; rfl
  | execute => cases h
  | stop => cases h

/-- Only a submission sends a request for a creation. -/
theorem creationsAmong_launched {d : Dashboard} {e : Event} (h : e.submits = false) :
    creationsAmong (d.launched e) = [] := by
  cases e with
  | start => rfl
  | navigate v => exact creationsAmong_loads _ _ _
  | reload => exact creationsAmong_loads _ _ _
  | load l => exact creationsAmong_loads d.base d.router [l]
  | submitExperiment => cases h
  | submitTarget => cases h
  | clickExperiment event confirmed => exact creationsAmong_begun (creates_onExperiment event) _ _
  | clickTarget event confirmed =>
      simp only [launched]
      cases ho : event.onTarget? with
      | none => rfl
      | some op => exact creationsAmong_begun (creates_onTarget ho) _ _
  | deliver i r =>
      simp only [launched]
      cases d.pending[i]? with
      | none => rfl
      | some p => exact creationsAmong_answered r d p.task
  | _ => rfl

/-- A reply takes the request at its position, and the creation that this belongs to. -/
theorem creationsAmong_eraseIdx (ps : List Pending) (i : Nat) :
    (creationsAmong ps).Perm
      ((ps[i]?.bind (·.creation?)).toList ++ creationsAmong (ps.eraseIdx i)) := by
  cases h : ps[i]? with
  | none =>
      rw [List.eraseIdx_of_length_le (List.getElem?_eq_none_iff.mp h)]
      exact List.Perm.refl _
  | some p =>
      obtain ⟨hi, rfl⟩ := List.getElem?_eq_some_iff.mp h
      have taken := (List.getElem_cons_eraseIdx_perm hi).symm.filterMap (·.creation?)
      rw [List.filterMap_cons] at taken
      simp only [Option.bind_some]
      cases hc : ps[i].creation? with
      | none => rw [hc] at taken; exact taken
      | some op => rw [hc] at taken; exact taken

/-- **The books of an event.** What is out and what is submitted either comes to its end with the
event or is out after it. -/
theorem accounts_step (d : Dashboard) (e : Event) :
    (d.creationsOut ++ d.submitted e).Perm
      ((d.applied e).map (·.1) ++ (d.step e).creationsOut) := by
  have submission : ∀ op : Operation, op.creates = true →
      (d.creationsOut ++ [op]).Perm ((d.refused op).map (·.1) ++
        (d.creationsOut ++ creationsAmong (begun d.base false op))) := by
    intro op creates
    rcases d.refused_cases creates with ⟨sent, out⟩ | ⟨o, atOnce, -, out⟩
    · rw [sent, out]
      exact List.Perm.refl _
    · rw [atOnce, out, List.append_nil]
      exact List.perm_append_comm
  rw [creationsOut, creationsOut, pending_step, creationsAmong_append]
  cases e with
  | submitExperiment => exact submission _ rfl
  | submitTarget => exact submission _ rfl
  | deliver i r =>
      rw [creationsAmong_launched rfl]
      have ended : (d.applied (.deliver i r)).map (·.1) =
          (d.pending[i]?.bind (·.creation?)).toList := by
        rw [applied]
        cases d.pending[i]?.bind (·.creation?) <;> rfl
      rw [ended, submitted_eq_nil rfl, remaining, List.append_nil, List.append_nil]
      exact creationsAmong_eraseIdx d.pending i
  | _ =>
      rw [creationsAmong_launched rfl]
      exact List.Perm.refl _

/-! ## The dialogs -/

/-- The dialogs with their forms, and the mark that one of them is being sent. -/
structure Dialogs where
  experiment : Modal ExperimentForm
  target : Modal TargetForm
  submitting : Bool

namespace Dialogs

/-- What an event does to the dialogs by itself. -/
def touch (v : Dialogs) : Event → Dialogs
  | .openExperimentModal => { v with experiment := v.experiment.reveal }
  | .openTargetModal => { v with target := v.target.reveal }
  | .hideExperimentModal => { v with experiment := v.experiment.hide }
  | .hideTargetModal => { v with target := v.target.hide }
  | .editExperiment change => { v with experiment := v.experiment.edit change }
  | .editTarget change => { v with target := v.target.edit change }
  | .submitExperiment | .submitTarget => { v with submitting := true }
  | _ => v

/-- What the outcome of an operation does to the dialogs. -/
def settle (op : Operation) (succeeded : Bool) (v : Dialogs) : Dialogs :=
  match op with
  | .createExperiment _ =>
    { v with experiment := v.experiment.settle succeeded, submitting := false }
  | .createTarget _ => { v with target := v.target.settle succeeded, submitting := false }
  | _ => v

theorem settle_of_not_creates {op : Operation} (h : op.creates = false) (succeeded : Bool)
    (v : Dialogs) : v.settle op succeeded = v := by
  cases op with
  | createExperiment draft => cases h
  | createTarget draft => cases h
  | _ => rfl

theorem submitting_settle {op : Operation} (h : op.creates = true) (succeeded : Bool)
    (v : Dialogs) : (v.settle op succeeded).submitting = false := by
  cases op with
  | createExperiment draft => rfl
  | createTarget draft => rfl
  | _ => cases h

end Dialogs

/-- The dialogs of the dashboard. -/
def dialogs (d : Dashboard) : Dialogs := ⟨d.experimentModal, d.targetModal, d.submitting⟩

theorem dialogs_configure (s : Settings) (d : Dashboard) : (d.configure s).dialogs = d.dialogs := by
  simp only [dialogs, configure]

theorem dialogs_notifyAny (n : Option Notice) (d : Dashboard) :
    (notifyAny n d).dialogs = d.dialogs := by
  cases n <;> rfl

theorem dialogs_wait (ms : Nat) (d : Dashboard) : (d.wait ms).dialogs = d.dialogs :=
  wait_keeps dialogs (fun _ _ => rfl) (fun _ _ _ => rfl) ms d

theorem dialogs_load (l : Loader) (d : Dashboard) : (d.load l).dialogs = d.dialogs := by
  cases l <;> rfl

theorem dialogs_loadAll (ls : List Loader) (d : Dashboard) :
    (d.loadAll ls).dialogs = d.dialogs := by
  induction ls generalizing d with
  | nil => rfl
  | cons l ls ih => exact (ih (d.load l)).trans (dialogs_load l d)

theorem dialogs_navigate (v : View) (d : Dashboard) : (d.navigate v).dialogs = d.dialogs :=
  dialogs_loadAll _ _

theorem dialogs_reload (d : Dashboard) : d.reload.dialogs = d.dialogs := dialogs_loadAll _ _

theorem dialogs_apply (o : Outcome) (d : Dashboard) : (d.apply o).dialogs = d.dialogs := by
  unfold apply
  rw [dialogs_loadAll]
  cases o.detail with
  | none => exact dialogs_notifyAny o.notice d
  | some detail => exact dialogs_notifyAny o.notice d

theorem dialogs_conclude (op : Operation) (o : Outcome) (d : Dashboard) :
    (d.conclude op o).dialogs = d.dialogs.settle op o.succeeded := by
  rw [conclude, dialogs_apply]
  cases op <;> rfl

theorem dialogs_perform (op : Operation) (confirmed : Bool) (d : Dashboard) :
    (d.perform op confirmed).dialogs =
      match op.start d.base confirmed with
      | .ok _ => d.dialogs
      | .error o => d.dialogs.settle op o.succeeded := by
  unfold perform
  cases op.start d.base confirmed with
  | ok call => rfl
  | error o => exact dialogs_conclude op o d

theorem dialogs_perform_of_not_creates {op : Operation} (h : op.creates = false)
    (confirmed : Bool) (d : Dashboard) : (d.perform op confirmed).dialogs = d.dialogs := by
  rw [dialogs_perform]
  cases op.start d.base confirmed with
  | ok call => rfl
  | error o => exact Dialogs.settle_of_not_creates h _ _

theorem dialogs_settle (t : Ticket) (r : Reply) (d : Dashboard) :
    (d.settle t r).dialogs = d.dialogs := by
  have offered : (d.offer r).dialogs = d.dialogs := by
    unfold offer
    cases r.targets <;> rfl
  rw [settle_eq, dialogs_notifyAny]
  cases t.loader with
  | dashboard => rfl
  | experiments => rfl
  | targets => exact offered

/-- What the outcomes do that are applied with an event. -/
def Dialogs.settleAll (outcomes : List (Operation × Outcome)) (v : Dialogs) : Dialogs :=
  outcomes.foldl (fun v a => v.settle a.1 a.2.succeeded) v

theorem dialogs_receive (r : Reply) (d : Dashboard) (p : Pending) :
    (d.receive r p.task).dialogs =
      d.dialogs.settleAll ((p.creation?.map fun op => (op, op.finish r)).toList) := by
  obtain ⟨call, task⟩ := p
  cases task with
  | configure => simp only [receive]; rw [dialogs_reload, dialogs_configure]; rfl
  | load t => exact dialogs_settle t r d
  | refreshChoices =>
      simp only [receive]
      cases r.targets with
      | ok targets => rfl
      | error p => exact dialogs_notifyAny (some _) d
  | finish op =>
      simp only [receive, Pending.creation?]
      rw [dialogs_conclude]
      cases creates : op.creates with
      | true => rfl
      | false => exact Dialogs.settle_of_not_creates creates _ _

/-- **What an event does to the dialogs.** -/
theorem dialogs_step (d : Dashboard) (e : Event) :
    (d.step e).dialogs = (d.dialogs.touch e).settleAll (d.applied e) := by
  have submission : ∀ op : Operation,
      ({ d with submitting := true }.perform op false).dialogs =
        { d.dialogs with submitting := true }.settleAll (d.refused op) := by
    intro op
    rw [dialogs_perform, refused]
    cases op.start d.base false <;> rfl
  cases e with
  | configure s => exact dialogs_configure s d
  | navigate v => exact dialogs_navigate v d
  | reload => exact dialogs_reload d
  | load l => exact dialogs_load l d
  | submitExperiment => rw [step, submitExperiment, submission, applied, Dialogs.touch]
  | submitTarget => rw [step, submitTarget, submission, applied, Dialogs.touch]
  | clickExperiment event confirmed =>
      exact dialogs_perform_of_not_creates (creates_onExperiment event) confirmed d
  | clickTarget event confirmed =>
      simp only [step]
      cases ho : event.onTarget? with
      | none => rfl
      | some op => exact dialogs_perform_of_not_creates (creates_onTarget ho) confirmed d
  | wait ms => exact dialogs_wait ms d
  | deliver i r =>
      simp only [step, deliver, applied]
      cases d.pending[i]? with
      | none => rfl
      | some p => exact dialogs_receive r _ p
  | _ => rfl

/-- An outcome that is applied is that of one creation. -/
theorem applied_cases (d : Dashboard) (e : Event) :
    d.applied e = [] ∨ ∃ op o, d.applied e = [(op, o)] ∧ op.creates = true := by
  have submission : ∀ op : Operation, op.creates = true →
      d.refused op = [] ∨ ∃ op' o, d.refused op = [(op', o)] ∧ op'.creates = true := by
    intro op creates
    rcases d.refused_cases creates with ⟨sent, -⟩ | ⟨o, atOnce, -⟩
    · exact Or.inl sent
    · exact Or.inr ⟨op, o, atOnce, creates⟩
  cases e with
  | submitExperiment => rw [applied]; exact submission _ rfl
  | submitTarget => rw [applied]; exact submission _ rfl
  | deliver i r =>
      simp only [applied]
      cases h : d.pending[i]?.bind (·.creation?) with
      | none => exact Or.inl rfl
      | some op =>
          obtain ⟨p, -, own⟩ := Option.bind_eq_some_iff.mp h
          refine Or.inr ⟨op, _, rfl, ?_⟩
          unfold Pending.creation? at own
          split at own
          · split at own
            · cases own; assumption
            · cases own
          · cases own
  | _ => exact Or.inl rfl

/-- A submission sets the mark, and an outcome clears it. -/
theorem submitting_step (d : Dashboard) (e : Event) :
    (d.step e).submitting = ((d.submitting || e.submits) && (d.applied e).isEmpty) := by
  have touched : (d.dialogs.touch e).submitting = (d.submitting || e.submits) := by
    cases e with
    | submitExperiment => exact (Bool.or_true _).symm
    | submitTarget => exact (Bool.or_true _).symm
    | _ => exact (Bool.or_false _).symm
  have after : (d.step e).submitting = ((d.dialogs.touch e).settleAll (d.applied e)).submitting :=
    congrArg Dialogs.submitting (dialogs_step d e)
  rw [after, ← touched]
  rcases d.applied_cases e with none | ⟨op, o, one, creates⟩
  · rw [none]
    exact (Bool.and_true _).symm
  · rw [one]
    exact (Dialogs.submitting_settle creates _ _).trans (Bool.and_false _).symm

/-! ## Submissions in turn -/

/-- The mark tells the truth: it is set while one submission is out, and otherwise none is. -/
def InTurn (d : Dashboard) : Prop := d.creationsOut.length = if d.submitting then 1 else 0

/-- An event submits a form only while none is being sent. -/
def Permits (d : Dashboard) (e : Event) : Prop := e.submits = true → d.submitting = false

theorem length_submitted (d : Dashboard) (e : Event) :
    (d.submitted e).length = if e.submits then 1 else 0 := by
  cases e <;> rfl

theorem length_applied (d : Dashboard) (e : Event) :
    (d.applied e).length = if (d.applied e).isEmpty then 0 else 1 := by
  rcases d.applied_cases e with none | ⟨op, o, one, -⟩
  · rw [none]; rfl
  · rw [one]; rfl

/-- **An event that is permitted keeps the mark true.** -/
theorem inTurn_step {d : Dashboard} {e : Event} (h : d.InTurn) (permitted : d.Permits e) :
    (d.step e).InTurn := by
  have books := (accounts_step d e).length_eq
  rw [List.length_append, List.length_append, List.length_map, length_submitted, length_applied,
    h] at books
  rw [Permits] at permitted
  rw [InTurn, submitting_step]
  -- the mark, the submission and the outcome are three bits, and the books say what is left
  generalize (d.step e).creationsOut.length = out at books ⊢
  generalize (d.applied e).isEmpty = none at books ⊢
  generalize e.submits = submits at books permitted ⊢
  generalize d.submitting = mark at books permitted ⊢
  cases submits with
  | true =>
      obtain rfl := permitted rfl
      cases none <;> simp at books ⊢ <;> omega
  | false => cases mark <;> cases none <;> simp at books ⊢ <;> omega

/-- With one submission at most, the books have only one order. -/
theorem accounts_step_of_permits {d : Dashboard} {e : Event} (h : d.InTurn)
    (permitted : d.Permits e) :
    d.creationsOut ++ d.submitted e = (d.applied e).map (·.1) ++ (d.step e).creationsOut := by
  have books := accounts_step d e
  have few : (d.creationsOut ++ d.submitted e).length ≤ 1 := by
    rw [List.length_append, length_submitted, h]
    cases submits : e.submits with
    | true => rw [permitted submits]; exact Nat.le_refl 1
    | false => cases d.submitting <;> simp
  cases left : d.creationsOut ++ d.submitted e with
  | nil =>
      rw [left] at books
      exact (List.nil_perm.mp books).symm
  | cons op rest =>
      rw [left] at books few
      obtain rfl : rest = [] := List.length_eq_zero_iff.mp (by simpa using few)
      exact List.singleton_perm.mp books

/-- Along a run forms are submitted only while none is being sent. -/
def SubmitsInTurn (d : Dashboard) (es : List Event) : Prop :=
  ∀ m ∈ d.moments es, m.before.Permits m.event

end Dashboard

/-- The submission that was started at a moment, if one was. -/
def Moment.submitted (m : Moment) : List Operation := m.before.submitted m.event

/-- The submission whose outcome was applied at a moment, if one was, and that outcome. -/
def Moment.applied (m : Moment) : List (Operation × Outcome) := m.before.applied m.event

namespace Dashboard

/-- **The books of a run.** -/
theorem accounts_run {d : Dashboard} (h : d.InTurn) {es : List Event}
    (permitted : d.SubmitsInTurn es) :
    d.creationsOut ++ (d.moments es).flatMap (·.submitted) =
        ((d.moments es).flatMap (·.applied)).map (·.1) ++ (d.run es).creationsOut ∧
      (d.run es).InTurn := by
  induction es generalizing d with
  | nil => exact ⟨by simp [moments, run], h⟩
  | cons e es ih =>
      have now : d.Permits e := permitted ⟨d, e⟩ List.mem_cons_self
      have later : (d.step e).SubmitsInTurn es := fun m hm =>
        permitted m (List.mem_cons_of_mem _ hm)
      obtain ⟨books, inTurn⟩ := ih (inTurn_step h now) later
      refine ⟨?_, inTurn⟩
      calc d.creationsOut ++ (d.moments (e :: es)).flatMap (·.submitted)
          = (d.creationsOut ++ d.submitted e) ++
              ((d.step e).moments es).flatMap (·.submitted) := by
            rw [List.append_assoc]; rfl
        _ = (d.applied e).map (·.1) ++ ((d.step e).creationsOut ++
              ((d.step e).moments es).flatMap (·.submitted)) := by
            rw [accounts_step_of_permits h now, List.append_assoc]
        _ = (d.applied e ++ ((d.step e).moments es).flatMap (·.applied)).map (·.1) ++
              ((d.step e).run es).creationsOut := by
            rw [books, List.map_append, List.append_assoc]
        _ = ((d.moments (e :: es)).flatMap (·.applied)).map (·.1) ++
              (d.run (e :: es)).creationsOut := rfl

/-! ## Requests for creations -/

/-- Only the request of a creation brings a record. -/
theorem creates_of_start {op : Operation} {base : String} {confirmed : Bool} {call : Call}
    (h : op.start base confirmed = .ok call) : call.creates = op.creates := by
  cases op with
  | createExperiment draft =>
      cases draft with
      | ok draft => cases h; rfl
      | error p => cases h
  | createTarget draft =>
      cases draft with
      | ok draft => cases h; rfl
      | error p => cases h
  | viewExperiment id => cases h; rfl
  | executeExperiment id => cases h; rfl
  | stopExperiment id => cases h
  | deleteExperiment id =>
      cases confirmed with
      | true => cases h; rfl
      | false => cases h
  | viewTarget id => cases h; rfl
  | deleteTarget id =>
      cases confirmed with
      | true => cases h; rfl
      | false => cases h

theorem creates_of_addressedTo {base : String} {p : Pending} (h : p.AddressedTo base) :
    p.call.creates = p.creation?.isSome := by
  obtain ⟨call, task⟩ := p
  cases task with
  | configure => cases h; rfl
  | load t =>
      cases h
      obtain ⟨loader, generation⟩ := t
      cases loader <;> rfl
  | refreshChoices => cases h; rfl
  | finish op =>
      obtain ⟨confirmed, start⟩ := h
      simp only [Pending.creation?, creates_of_start start]
      cases op.creates <;> rfl

theorem creates_run {d : Dashboard} (h : ∀ p ∈ d.pending, p.call.creates = p.creation?.isSome)
    (es : List Event) : ∀ p ∈ (d.run es).pending, p.call.creates = p.creation?.isSome := by
  induction es generalizing d with
  | nil => exact h
  | cons e es ih =>
      refine ih (d := d.step e) ?_
      intro p hp
      rw [pending_step] at hp
      rcases List.mem_append.mp hp with hp | hp
      · refine h p ?_
        cases e with
        | deliver i r => exact List.mem_of_mem_eraseIdx hp
        | _ => exact hp
      · exact creates_of_addressedTo (launched_fits hp).1

/-- The requests for creations that are in flight are those of the submissions that are out. -/
theorem countP_creates {d : Dashboard}
    (h : ∀ p ∈ d.pending, p.call.creates = p.creation?.isSome) :
    d.pending.countP (·.call.creates) = d.creationsOut.length := by
  rw [creationsOut, creationsAmong, List.length_filterMap_eq_countP]
  exact List.countP_congr fun p hp => by rw [h p hp]

/-! ## Submissions that succeed -/

/-- A submission that succeeds has had a reply, and its own dialog is settled. -/
theorem dialogs_of_succeeded {d : Dashboard} {e : Event} {op : Operation} {o : Outcome}
    (h : (op, o) ∈ d.applied e) (succeeded : o.succeeded = true) :
    (d.step e).dialogs = d.dialogs.settle op true := by
  have notAtOnce : ∀ op' : Operation, op'.creates = true → (op, o) ∉ d.refused op' := by
    intro op' creates hm
    rcases d.refused_cases creates with ⟨sent, -⟩ | ⟨o', atOnce, failed, -⟩
    · rw [sent] at hm
      exact absurd hm List.not_mem_nil
    · rw [atOnce] at hm
      cases List.mem_singleton.mp hm
      exact absurd succeeded (by simp [failed])
  have untouched : d.dialogs.touch e = d.dialogs := by
    cases e with
    | submitExperiment => rw [applied] at h; exact absurd h (notAtOnce _ rfl)
    | submitTarget => rw [applied] at h; exact absurd h (notAtOnce _ rfl)
    | deliver i r => rfl
    | _ => exact absurd h List.not_mem_nil
  rw [dialogs_step, untouched]
  rcases d.applied_cases e with none | ⟨op', o', one, -⟩
  · rw [none] at h
    exact absurd h List.not_mem_nil
  · rw [one] at h ⊢
    cases List.mem_singleton.mp h
    rw [← succeeded]
    rfl

end Dashboard

open Dashboard in
/-- **A form is being sent exactly while one submission waits for its outcome.**

The run may be any in which forms are submitted only while none is being sent; the dialogs may be
edited, closed and opened again meanwhile, and the service may move. The submissions come to their
outcomes in the order in which they were started, and all that were started have, but for the one
that is out. So there never are two, nor are two requests for creations in flight. One that
succeeds closes the dialog it was submitted from, whose form starts afresh, and leaves the other as
it is. -/
theorem submitting_iff_one_is_out (s : Settings) (es : List Event)
    (inTurn : (Dashboard.new s).SubmitsInTurn es) :
    let d := (Dashboard.new s).run es
    let ms := (Dashboard.new s).moments es
    ms.flatMap (·.submitted) = (ms.flatMap (·.applied)).map (·.1) ++ d.creationsOut ∧
    (d.submitting = true ↔ d.creationsOut.length = 1) ∧ d.creationsOut.length ≤ 1 ∧
    d.pending.countP (·.call.creates) = d.creationsOut.length ∧
    (∀ e draft o, (.createExperiment draft, o) ∈ d.applied e → o.succeeded = true →
      (d.step e).experimentModal = { isOpen := false, form := {} } ∧
        (d.step e).targetModal = d.targetModal) ∧
    (∀ e draft o, (.createTarget draft, o) ∈ d.applied e → o.succeeded = true →
      (d.step e).targetModal = { isOpen := false, form := {} } ∧
        (d.step e).experimentModal = d.experimentModal) := by
  intro d ms
  obtain ⟨books, mark⟩ := accounts_run (d := Dashboard.new s) rfl inTurn
  have mark : d.creationsOut.length = if d.submitting then 1 else 0 := mark
  refine ⟨books, ?_, ?_, ?_, ?_, ?_⟩
  · rw [mark]
    cases d.submitting <;> simp
  · rw [mark]
    cases d.submitting <;> simp
  · exact countP_creates (creates_run (fun p hp => absurd hp List.not_mem_nil) es)
  · intro e draft o applied succeeded
    have settled := dialogs_of_succeeded applied succeeded
    exact ⟨congrArg Dialogs.experiment settled, congrArg Dialogs.target settled⟩
  · intro e draft o applied succeeded
    have settled := dialogs_of_succeeded applied succeeded
    exact ⟨congrArg Dialogs.target settled, congrArg Dialogs.experiment settled⟩

/-- An experiment is submitted without a name, which ends at once, and then with one. While it is
being sent the other dialog is opened and filled in. -/
def secondAttempt : List Event :=
  [.openExperimentModal, .submitExperiment,
    .editExperiment fun f => { f with name := "outage", target := "app=web" }, .submitExperiment,
    .openTargetModal, .editTarget fun f => { f with name := "web" }]

/-- The service has created the experiment. -/
def experimentCreated : Event := .deliver 1 (.response ⟨201, "Created", ""⟩)

open Dashboard in
/-- The second attempt is out, and when it succeeds the other dialog keeps what was typed. -/
theorem second_attempt_is_out :
    let d := (Dashboard.new {}).run secondAttempt
    (Dashboard.new {}).SubmitsInTurn secondAttempt ∧ d.submitting = true ∧
      d.creationsOut.length = 1 ∧
      (d.step experimentCreated).experimentModal = { isOpen := false, form := {} } ∧
      (d.step experimentCreated).targetModal.isOpen = true ∧
      (d.step experimentCreated).targetModal.form.name = "web" := by
  intro d
  have inTurn : (Dashboard.new {}).SubmitsInTurn secondAttempt := by
    unfold SubmitsInTurn Permits
    decide
  have submitting : d.submitting = true := by rfl
  obtain ⟨-, mark, -, -, closes, -⟩ := submitting_iff_one_is_out {} secondAttempt inTurn
  obtain ⟨draft, o, applied, succeeded⟩ : ∃ draft o,
      (.createExperiment draft, o) ∈ d.applied experimentCreated ∧ o.succeeded = true :=
    ⟨_, _, List.mem_singleton.mpr rfl, rfl⟩
  obtain ⟨closed, kept⟩ := closes experimentCreated draft o applied succeeded
  exact ⟨inTurn, submitting, mark.mp submitting, closed, by rw [kept]; rfl, by rw [kept]; rfl⟩

end FaultConsole
