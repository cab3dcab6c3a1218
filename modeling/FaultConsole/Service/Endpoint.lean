import FaultConsole.Problem
import FaultConsole.Service.Call
import FaultConsole.Text.Percent

/-!
# The operations of the service

Each operation has a method and a path, and an id takes exactly one segment of the path,
percent-encoded. There is no operation that stops an experiment, and none that fetches a single
target.
-/

namespace FaultConsole

/-- An operation of the service. -/
inductive Endpoint where
  | listExperiments
  | getExperiment (id : String)
  | createExperiment
  | executeExperiment (id : String)
  | deleteExperiment (id : String)
  | listTargets
  | createTarget
  | deleteTarget (id : String)
deriving Repr, DecidableEq

namespace Endpoint

/-- The method of an operation. -/
def method : Endpoint → Method
  | listExperiments | getExperiment _ | listTargets => .get
  | createExperiment | executeExperiment _ | createTarget => .post
  | deleteExperiment _ | deleteTarget _ => .delete

/-- The path of an operation, behind the base. -/
def path : Endpoint → String
  | listExperiments | createExperiment => "/experiments"
  | getExperiment id | deleteExperiment id => "/experiments/" ++ Text.Percent.encode id
  | executeExperiment id => "/experiments/" ++ Text.Percent.encode id ++ "/execute"
  | listTargets | createTarget => "/targets"
  | deleteTarget id => "/targets/" ++ Text.Percent.encode id

/-- The request of an operation to the service at a base. -/
def call (base : String) (e : Endpoint) (body : Option Json := none) : Call :=
  { method := e.method, url := base ++ e.path, body }

end Endpoint

/-- The response of a request that succeeded. -/
def Reply.accept : Reply → Except Problem Response
  | failure reason => .error (.network reason)
  | response r => if isSuccess r.status then .ok r else .error (.http r.status r.statusText)

end FaultConsole
