import FaultConsole.Model.Status

/-!
# Actions on a row

What a row of a table offers to do with its record, and how a click on it is recognised again:
an action's control carries the name of the action and the id of the record, and a click counts
only if both are there.
-/

namespace FaultConsole

/-- Something that can be done with the record of a row. -/
inductive RowAction where
  | view
  | execute
  | stop
  | delete
deriving Repr, DecidableEq, Inhabited

namespace RowAction

/-- The name of an action. -/
def name : RowAction → String
  | view => "view"
  | execute => "execute"
  | stop => "stop"
  | delete => "delete"

/-- The action with a name. -/
def ofName? : String → Option RowAction
  | "view" => some view
  | "execute" => some execute
  | "stop" => some stop
  | "delete" => some delete
  | _ => none

end RowAction

/-- A click on an action of a row. -/
structure RowEvent where
  action : RowAction
  id : String
deriving Repr, DecidableEq

/-- The event for the action name and the id that a control carries, if it carries both. -/
def RowEvent.ofAttributes? (action id : Option String) : Option RowEvent := do
  let action ← RowAction.ofName? (← action)
  let id ← id
  if id.isEmpty then none else some ⟨action, id⟩

/-- The two tables of experiments. -/
inductive ExperimentTable where
  /-- The newest few, without deletion. -/
  | recent
  /-- All of them. -/
  | full
deriving Repr, DecidableEq, Inhabited

/-- An experiment can be executed while it is pending and stopped while it is running, viewed
always, and deleted in the full table. -/
def ExperimentTable.actions (table : ExperimentTable) (status : Status) : List RowAction :=
  [.view] ++
    (match status with
      | .pending => [.execute]
      | .running => [.stop]
      | _ => []) ++
    (match table with
      | .full => [.delete]
      | .recent => [])

/-- A target can be viewed and deleted. -/
def targetActions : List RowAction := [.view, .delete]

end FaultConsole
