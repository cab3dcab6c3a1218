/-!
# Statuses of experiments

The service assigns the status. One that is not known here is kept as it is.
-/

namespace FaultConsole

/-- Where an experiment stands. -/
inductive Status where
  | pending
  | running
  | completed
  | failed
  /-- A status that is not known here, by its name. -/
  | other (name : String)
deriving Repr, DecidableEq, Inhabited

namespace Status

/-- The name a status has on the wire. -/
def name : Status → String
  | pending => "pending"
  | running => "running"
  | completed => "completed"
  | failed => "failed"
  | other name => name

/-- The status with a name. -/
def ofName : String → Status
  | "pending" => pending
  | "running" => running
  | "completed" => completed
  | "failed" => failed
  | s => other s

end Status

end FaultConsole
