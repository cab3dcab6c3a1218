import FaultConsole.Form.Modal
import FaultConsole.Navigation.Router
import FaultConsole.Outcome.Operation
import FaultConsole.Outcome.Panel
import FaultConsole.Settings.Basic

/-!
# The state of the dashboard

Everything the browser page knows: where the service lives, the active view, the three panels,
the dialogs, the notices, and the requests whose replies are still out. Each of these requests
carries the task that will be done with its reply, so replies may come in any order.

A notice has a number that is never used again. One that goes away by itself has a timer; a
timer whose notice is gone does nothing.
-/

namespace FaultConsole

/-- What is done with the reply to a request. -/
inductive Task where
  /-- The service's place is learned and the active view is loaded. -/
  | configure
  /-- A panel is filled. -/
  | load (ticket : Ticket)
  /-- The targets that the experiment form offers are replaced. -/
  | refreshChoices
  /-- An operation ends. -/
  | finish (operation : Operation)

/-- A request whose reply is still out. -/
structure Pending where
  call : Call
  task : Task

/-- The end of a notice's time. -/
structure Timer where
  /-- In milliseconds. -/
  due : Nat
  notice : Nat
deriving Repr, DecidableEq

/-- The state of the dashboard. -/
structure Dashboard where
  /-- What the paths of requests are put behind. -/
  base : String
  router : Router := {}
  /-- Every experiment, for the counts and the table of recent ones. -/
  recent : Panel Experiment := {}
  experiments : Panel Experiment := {}
  targets : Panel Target := {}
  /-- The targets that the experiment form offers. -/
  targetChoices : List Target := []
  /-- The notices on show, each with its number. -/
  notices : List (Nat × Notice) := []
  /-- The number of the next notice. -/
  nextNotice : Nat := 0
  /-- The record that is shown in full. -/
  detail : Option Detail := none
  experimentModal : Modal ExperimentForm := .new
  targetModal : Modal TargetForm := .new
  /-- Whether a creation is out. -/
  submitting : Bool := false
  /-- The requests whose replies are out, in the order they were sent. -/
  pending : List Pending := []
  /-- Every request sent so far. -/
  sent : List Call := []
  /-- The time, in milliseconds. -/
  clock : Nat := 0
  timers : List Timer := []

/-- How long a notice stays that goes away by itself, in milliseconds. -/
def noticeTime : Nat := 5000

/-- The operation of the service that a loader asks for. -/
def Loader.endpoint : Loader → Endpoint
  | dashboard | experiments => .listExperiments
  | targets => .listTargets

/-- The request for the settings, to whoever served the page. -/
def settingsCall : Call := { method := .get, url := "/dashboard/config" }

namespace Dashboard

/-- The dashboard for some settings, before anything happened. -/
def new (s : Settings) : Dashboard := { base := s.apiBase }

/-- Sends a request; the task waits for its reply. -/
def send (call : Call) (task : Task) (d : Dashboard) : Dashboard :=
  { d with pending := d.pending ++ [⟨call, task⟩], sent := d.sent ++ [call] }

/-- Makes later requests go to where settings say. -/
def configure (s : Settings) (d : Dashboard) : Dashboard := { d with base := s.apiBase }

/-! ## Notices -/

/-- Shows a notice. -/
def notify (n : Notice) (d : Dashboard) : Dashboard :=
  { d with
    notices := d.notices ++ [(d.nextNotice, n)]
    nextNotice := d.nextNotice + 1
    timers :=
      if n.dismissesItself then d.timers ++ [⟨d.clock + noticeTime, d.nextNotice⟩] else d.timers }

/-- Shows a notice, if there is one. -/
def notifyAny : Option Notice → Dashboard → Dashboard
  | some n, d => d.notify n
  | none, d => d

/-- Takes the notice with a number away. -/
def dismiss (id : Nat) (d : Dashboard) : Dashboard :=
  { d with notices := d.notices.filter (·.1 != id) }

/-- Lets time pass. The timers that are due take their notices away. -/
def wait (milliseconds : Nat) (d : Dashboard) : Dashboard :=
  let now := d.clock + milliseconds
  let (due, later) := d.timers.partition (·.due ≤ now)
  due.foldl (fun d t => d.dismiss t.notice) { d with clock := now, timers := later }

/-! ## Loading -/

/-- Marks the panel of a loader as loading. -/
def begin (l : Loader) (d : Dashboard) : Dashboard :=
  match l with
  | .dashboard => { d with recent := d.recent.begin }
  | .experiments => { d with experiments := d.experiments.begin }
  | .targets => { d with targets := d.targets.begin }

/-- Starts a loader. -/
def load (l : Loader) (d : Dashboard) : Dashboard :=
  (d.begin l).send (l.endpoint.call d.base) (.load (d.router.ticket l))

/-- Starts loaders, in order. -/
def loadAll (ls : List Loader) (d : Dashboard) : Dashboard := ls.foldl (fun d l => d.load l) d

/-- Starts what the active view loads. -/
def loadActive (d : Dashboard) : Dashboard := d.loadAll d.router.active.plan.loaders

/-- Goes to a view. -/
def navigate (v : View) (d : Dashboard) : Dashboard :=
  { d with router := d.router.navigate v }.loadActive

/-- Goes to the active view again; loads that are still out no longer count. -/
def reload (d : Dashboard) : Dashboard := { d with router := d.router.reload }.loadActive

/-- Asks for the targets that the experiment form offers, whatever the view. -/
def refreshChoices (d : Dashboard) : Dashboard :=
  d.send (Endpoint.listTargets.call d.base) .refreshChoices

/-- Asks whoever served the page where the service lives. -/
def start (d : Dashboard) : Dashboard := d.send settingsCall .configure

end Dashboard

end FaultConsole
