import FaultConsole.Model.Status

/-!
# Badges

The colour in which a status is shown. Pending and unknown statuses share the quiet one.
-/

namespace FaultConsole

/-- The colour of a status. -/
inductive Badge where
  | secondary
  | primary
  | success
  | danger
deriving Repr, DecidableEq, Inhabited

namespace Badge

/-- The badge of a status. -/
def ofStatus : Status → Badge
  | .running => primary
  | .completed => success
  | .failed => danger
  | .pending | .other _ => secondary

/-- The name of a badge. -/
def name : Badge → String
  | secondary => "secondary"
  | primary => "primary"
  | success => "success"
  | danger => "danger"

end Badge

end FaultConsole
