import FaultConsole.Problem

/-!
# The log

What is done on behalf of a user is noted down in a log as well, for whoever looks into a failure
later on. An entry has a level, a message and named values. Where the lines of the log are written,
and from which level on, is not decided here.

Whatever the user could have avoided is a warning, and so is a reply that is no success; an
operation that failed because of its reply is an error.
-/

namespace FaultConsole.Log

/-- How much an entry matters. -/
inductive Level where
  | info
  | warn
  | error
deriving Repr, DecidableEq

/-- A level at the front of a line. -/
def Level.label : Level → String
  | info => " INFO"
  | warn => " WARN"
  | error => "ERROR"

/-- An entry of the log. -/
structure Entry where
  level : Level
  message : String
  values : List (String × String) := []
deriving Repr, DecidableEq

namespace Entry

/-- An entry on one line, behind the time. -/
def text (e : Entry) : String :=
  e.level.label ++ " " ++ e.message ++
    String.join (e.values.map fun (name, value) => " " ++ name ++ "=" ++ value)

/-- The entry for an operation that failed because of a problem. -/
def ofProblem (context : String) (p : Problem) : Entry where
  level := if p.isLocal then .warn else .error
  message := context
  values := [("error", p.message)]

end Entry

end FaultConsole.Log
