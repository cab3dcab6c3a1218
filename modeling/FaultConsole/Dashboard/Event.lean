import FaultConsole.Dashboard.Browser
import FaultConsole.Dashboard.Reply

/-!
# What can happen to the dashboard

An event is something the user does, a reply that arrives, or time that passes. Events come one
at a time, in any order; the dashboard after a run is its start with every event applied.
-/

namespace FaultConsole

/-- The operation that a click on a row of experiments asks for. -/
def RowEvent.onExperiment (e : RowEvent) : Operation :=
  match e.action with
  | .view => .viewExperiment e.id
  | .execute => .executeExperiment e.id
  | .stop => .stopExperiment e.id
  | .delete => .deleteExperiment e.id

/-- The operation that a click on a row of targets asks for; targets can only be viewed and
deleted. -/
def RowEvent.onTarget? (e : RowEvent) : Option Operation :=
  match e.action with
  | .view => some (.viewTarget e.id)
  | .delete => some (.deleteTarget e.id)
  | .execute | .stop => none

/-- Something that happens to the dashboard. -/
inductive Event where
  | start
  | configure (settings : Settings)
  | navigate (view : View)
  | reload
  | load (loader : Loader)
  | refreshChoices
  | openExperimentModal
  | openTargetModal
  | hideExperimentModal
  | hideTargetModal
  | editExperiment (change : ExperimentForm → ExperimentForm)
  | editTarget (change : TargetForm → TargetForm)
  | submitExperiment
  | submitTarget
  /-- A click on a row, and the answer to the question it may lead to. -/
  | clickExperiment (event : RowEvent) (confirmed : Bool)
  | clickTarget (event : RowEvent) (confirmed : Bool)
  | closeDetail
  | notify (notice : Notice)
  | dismiss (id : Nat)
  | wait (milliseconds : Nat)
  /-- The reply to a request that is out arrives. -/
  | deliver (index : Nat) (reply : Reply)

namespace Dashboard

/-- The dashboard after an event. -/
def step (d : Dashboard) : Event → Dashboard
  | .start => d.start
  | .configure s => d.configure s
  | .navigate v => d.navigate v
  | .reload => d.reload
  | .load l => d.load l
  | .refreshChoices => d.refreshChoices
  | .openExperimentModal =>
    { d with experimentModal := d.experimentModal.reveal }.refreshChoices
  | .openTargetModal => { d with targetModal := d.targetModal.reveal }
  | .hideExperimentModal => { d with experimentModal := d.experimentModal.hide }
  | .hideTargetModal => { d with targetModal := d.targetModal.hide }
  | .editExperiment change => { d with experimentModal := d.experimentModal.edit change }
  | .editTarget change => { d with targetModal := d.targetModal.edit change }
  | .submitExperiment => d.submitExperiment
  | .submitTarget => d.submitTarget
  | .clickExperiment e confirmed => d.perform e.onExperiment confirmed
  | .clickTarget e confirmed =>
    match e.onTarget? with
    | some op => d.perform op confirmed
    | none => d
  | .closeDetail => { d with detail := none }
  | .notify n => d.notify n
  | .dismiss id => d.dismiss id
  | .wait ms => d.wait ms
  | .deliver index r => d.deliver index r

/-- The dashboard after events, in order. -/
def run (d : Dashboard) (events : List Event) : Dashboard := events.foldl step d

/-- The dashboard after a click in the body of a table, which listens to all clicks there at once.
`path` holds the element that was hit and those around it, innermost first. `listen` is the event
that the table makes of a click on a row; a click that hit no action is passed over. -/
def click (listen : RowEvent → Bool → Event) (path : List Attributes) (confirmed : Bool)
    (d : Dashboard) : Dashboard :=
  match RowEvent.ofClick? path with
  | some event => d.step (listen event confirmed)
  | none => d

end Dashboard

end FaultConsole
