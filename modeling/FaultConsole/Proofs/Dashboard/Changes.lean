import FaultConsole.Dashboard.Browser
import FaultConsole.Proofs.Dashboard.Chronicle

/-!
# Which requests change records

Most requests only ask for records. A request to create, execute or delete one is another matter:
sent twice it starts a fault twice, and sent without being asked for it destroys something. This
file says when such a request is sent, over every run:

* `changes` lists what an event asks the service to change, in the words of the service: a method,
  an address and a body. It is said without the operations that the dashboard goes through.
* `changes_sent_exactly` — the requests of a run that change records are those lists, one behind
  the other, and nothing else. Neither a reply, nor a timer, nor start-up ever adds one.

The body of a creation is the draft of the form as it was at the submission. What was sent stays as
it was sent, so it does not matter what is typed afterwards.
-/

namespace FaultConsole

/-- Whether a request changes records; any other only asks for them. -/
def Call.isChange (c : Call) : Bool := c.method != .get

namespace Dashboard

/-- What an event asks the service to change. -/
def changes (d : Dashboard) : Event → List Call
  | .submitExperiment =>
    match d.experimentModal.form.draft with
    | .ok draft => [⟨.post, d.base ++ "/experiments", some draft.toJson⟩]
    | .error _ => []
  | .submitTarget =>
    match d.targetModal.form.draft with
    | .ok draft => [⟨.post, d.base ++ "/targets", some draft.toJson⟩]
    | .error _ => []
  | .clickExperiment ⟨.execute, id⟩ _ =>
    [⟨.post, d.base ++ ("/experiments/" ++ Text.Percent.encode id ++ "/execute"), none⟩]
  | .clickExperiment ⟨.delete, id⟩ true =>
    [⟨.delete, d.base ++ ("/experiments/" ++ Text.Percent.encode id), none⟩]
  | .clickTarget ⟨.delete, id⟩ true =>
    [⟨.delete, d.base ++ ("/targets/" ++ Text.Percent.encode id), none⟩]
  | _ => []

end Dashboard

/-- What a moment asked the service to change. -/
def Moment.changes (m : Moment) : List Call := m.before.changes m.event

namespace Dashboard

/-- The changes among some requests. -/
def changesAmong (ps : List Pending) : List Call := (ps.map (·.call)).filter (·.isChange)

theorem changesAmong_eq_nil {ps : List Pending} (h : ∀ p ∈ ps, p.call.method = .get) :
    changesAmong ps = [] := by
  refine List.filter_eq_nil_iff.mpr ?_
  intro c hc
  obtain ⟨p, hp, rfl⟩ := List.mem_map.mp hc
  simp [Call.isChange, h p hp]

/-- A load only asks for a list. -/
theorem changesAmong_loads (base : String) (router : Router) (ls : List Loader) :
    changesAmong (ls.map (loadRequest base router)) = [] := by
  refine changesAmong_eq_nil ?_
  intro p hp
  obtain ⟨l, -, rfl⟩ := List.mem_map.mp hp
  cases l <;> rfl

theorem changesAmong_answered (r : Reply) (d : Dashboard) (task : Task) :
    changesAmong (d.answered r task) = [] := by
  cases task with
  | configure => exact changesAmong_loads _ _ _
  | load t => rfl
  | refreshChoices => rfl
  | finish op => exact changesAmong_loads _ _ _

/-- **An event sends the changes it asks for.** An operation that cannot start sends nothing, and
what is loaded once a reply has come is only asked for. -/
theorem changesAmong_launched (d : Dashboard) (e : Event) :
    changesAmong (d.launched e) = d.changes e := by
  cases e with
  | start => rfl
  | navigate v => exact changesAmong_loads _ _ _
  | reload => exact changesAmong_loads _ _ _
  | load l => exact changesAmong_loads d.base d.router [l]
  | submitExperiment =>
      simp only [launched, begun, changes, Operation.start]
      cases d.experimentModal.form.draft with
      | ok draft => rfl
      | error p => rfl
  | submitTarget =>
      simp only [launched, begun, changes, Operation.start]
      cases d.targetModal.form.draft with
      | ok draft => rfl
      | error p => rfl
  | clickExperiment event confirmed =>
      obtain ⟨action, id⟩ := event
      cases action with
      | view => rfl
      | execute => rfl
      | stop => rfl
      | delete => cases confirmed <;> rfl
  | clickTarget event confirmed =>
      obtain ⟨action, id⟩ := event
      cases action with
      | view => rfl
      | execute => rfl
      | stop => rfl
      | delete => cases confirmed <;> rfl
  | deliver i r =>
      simp only [launched, changes]
      cases d.pending[i]? with
      | none => rfl
      | some p => exact changesAmong_answered r d p.task
  | _ => rfl

/-- The changes of a run come behind those from before it, event by event. -/
theorem changes_run (d : Dashboard) (es : List Event) :
    (d.run es).sent.filter (·.isChange) =
      d.sent.filter (·.isChange) ++ (d.moments es).flatMap (·.changes) := by
  induction es generalizing d with
  | nil => simp [run, moments]
  | cons e es ih =>
      have first : (d.step e).sent.filter (·.isChange) =
          d.sent.filter (·.isChange) ++ d.changes e := by
        rw [sent_step, List.filter_append, ← changesAmong_launched d e]
        rfl
      calc ((d.step e).run es).sent.filter (·.isChange)
          = (d.step e).sent.filter (·.isChange) ++
              ((d.step e).moments es).flatMap (·.changes) := ih (d.step e)
        _ = d.sent.filter (·.isChange) ++ (d.changes e ++
              ((d.step e).moments es).flatMap (·.changes)) := by
            rw [first, List.append_assoc]
        _ = d.sent.filter (·.isChange) ++ (d.moments (e :: es)).flatMap (·.changes) := rfl

theorem length_changes_le_one (d : Dashboard) (e : Event) : (d.changes e).length ≤ 1 := by
  unfold changes
  split
  · split <;> simp
  · split <;> simp
  · simp
  · simp
  · simp
  · simp

/-- A browser that cannot ask has not confirmed. -/
theorem changes_delete_ne_nil_iff (d : Dashboard) (b : Browser) (id : String) :
    (d.changes (.clickExperiment ⟨.delete, id⟩ b.confirms) ≠ [] ↔
        b.hasWindow = true ∧ b.answer = some true) ∧
      (d.changes (.clickTarget ⟨.delete, id⟩ b.confirms) ≠ [] ↔
        b.hasWindow = true ∧ b.answer = some true) := by
  have confirms : b.confirms = true ↔ b.hasWindow = true ∧ b.answer = some true := by
    simp [Browser.confirms]
  rw [← confirms]
  cases b.confirms with
  | true => exact ⟨by simp [changes], by simp [changes]⟩
  | false => exact ⟨by simp [changes], by simp [changes]⟩

end Dashboard

/-- **The requests of a run that change records are those that its events ask for**, in order and
each once. -/
theorem changes_sent_exactly (s : Settings) (es : List Event) :
    let d := Dashboard.new s
    (d.run es).sent.filter (·.isChange) = (d.moments es).flatMap (·.changes) ∧
    -- no event asks for more than one
    (∀ m ∈ d.moments es, m.changes.length ≤ 1) ∧
    -- what was sent is not touched by anything that happens later
    (∀ later, (d.run es).sent <+: (d.run (es ++ later)).sent) ∧
    -- and a deletion needs a dialog that is answered with yes
    (∀ (b : Browser) (id : String),
      ((d.run es).changes (.clickExperiment ⟨.delete, id⟩ b.confirms) ≠ [] ↔
        b.hasWindow = true ∧ b.answer = some true) ∧
      ((d.run es).changes (.clickTarget ⟨.delete, id⟩ b.confirms) ≠ [] ↔
        b.hasWindow = true ∧ b.answer = some true)) := by
  intro d
  refine ⟨?_, ?_, ?_, ?_⟩
  · exact Dashboard.changes_run d es
  · intro m _
    exact Dashboard.length_changes_le_one m.before m.event
  · intro later
    rw [Dashboard.run_append]
    exact Dashboard.sent_prefix_run _ later
  · exact Dashboard.changes_delete_ne_nil_iff _

end FaultConsole
