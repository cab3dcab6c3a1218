import FaultConsole.Dashboard.Basic

/-!
# What the dashboard does with replies

A list that was loaded reaches its panel only if its ticket still counts, while the targets on
offer in the experiment form are always the last that arrived. An operation ends in its
outcome; one that created a record also settles the dialog it was entered in.
-/

namespace FaultConsole

/-- The settings that a reply holds, or the default ones if it holds none that can be used. -/
def Reply.settings (r : Reply) : Settings :=
  let read : Except Problem Settings := do
    let s ← r.value Settings.reader
    s.validate
    return s
  match read with
  | .ok s => s
  | .error _ => {}

namespace Dashboard

/-! ## Outcomes -/

/-- Acts on an outcome: its notice, its record, then its loaders. -/
def apply (o : Outcome) (d : Dashboard) : Dashboard :=
  let d := d.notifyAny o.notice
  let d := match o.detail with
    | some detail => { d with detail := some detail }
    | none => d
  d.loadAll o.reload

/-- Settles the dialog that an operation was entered in, if there is one. -/
def settleModal (op : Operation) (succeeded : Bool) (d : Dashboard) : Dashboard :=
  match op with
  | .createExperiment _ =>
    { d with experimentModal := d.experimentModal.settle succeeded, submitting := false }
  | .createTarget _ =>
    { d with targetModal := d.targetModal.settle succeeded, submitting := false }
  | _ => d

/-- Ends an operation. -/
def conclude (op : Operation) (o : Outcome) (d : Dashboard) : Dashboard :=
  (d.settleModal op o.succeeded).apply o

/-- Starts an operation: its request is sent, or it ends at once. -/
def perform (op : Operation) (confirmed : Bool) (d : Dashboard) : Dashboard :=
  match op.start d.base confirmed with
  | .ok call => d.send call (.finish op)
  | .error o => d.conclude op o

/-- Sends what the experiment form holds. -/
def submitExperiment (d : Dashboard) : Dashboard :=
  { d with submitting := true }.perform (.createExperiment d.experimentModal.form.draft) false

/-- Sends what the target form holds. -/
def submitTarget (d : Dashboard) : Dashboard :=
  { d with submitting := true }.perform (.createTarget d.targetModal.form.draft) false

/-! ## Replies -/

/-- Replaces the targets on offer by the ones of a reply, if it holds any list. -/
def offer (r : Reply) (d : Dashboard) : Dashboard :=
  match r.targets with
  | .ok targets => { d with targetChoices := targets }
  | .error _ => d

/-- Ends a load. -/
def settle (t : Ticket) (r : Reply) (d : Dashboard) : Dashboard :=
  let current := d.router.isCurrent t
  match t.loader with
  | .dashboard =>
    let (p, n) := d.recent.settle r.experiments current t.loader.context
    { d with recent := p }.notifyAny n
  | .experiments =>
    let (p, n) := d.experiments.settle r.experiments current t.loader.context
    { d with experiments := p }.notifyAny n
  | .targets =>
    let (p, n) := d.targets.settle r.targets current t.loader.context
    { d.offer r with targets := p }.notifyAny n

/-- Does a task with the reply it waited for. -/
def receive (r : Reply) (d : Dashboard) : Task → Dashboard
  | .configure => (d.configure r.settings).reload
  | .load t => d.settle t r
  | .refreshChoices =>
    match r.targets with
    | .ok targets => { d with targetChoices := targets }
    | .error p => d.notify (.ofProblem Loader.targets.context p)
  | .finish op => d.conclude op (op.finish r)

/-- The reply to the request at a position of those that are out arrives. -/
def deliver (index : Nat) (r : Reply) (d : Dashboard) : Dashboard :=
  match d.pending[index]? with
  | some p => { d with pending := d.pending.eraseIdx index }.receive r p.task
  | none => d

end Dashboard

end FaultConsole
