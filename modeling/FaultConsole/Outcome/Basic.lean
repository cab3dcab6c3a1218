import FaultConsole.Model.Experiment
import FaultConsole.Model.Target
import FaultConsole.Navigation.View
import FaultConsole.Outcome.Notice

/-!
# Outcomes

An operation never fails outright: it ends in an outcome, which says whether it succeeded, what
to tell the user, which lists to load again, and which record to show.
-/

namespace FaultConsole

/-- A record that is shown in full. -/
inductive Detail where
  | experiment (experiment : Experiment)
  | target (target : Target)
deriving Repr

/-- How an operation ended. -/
structure Outcome where
  succeeded : Bool := false
  notice : Option Notice := none
  reload : List Loader := []
  detail : Option Detail := none
deriving Repr

namespace Outcome

/-- The user backed out and nothing happened. -/
def cancelled : Outcome := {}

/-- Something was changed. -/
def changed (message : String) (reload : List Loader) : Outcome :=
  { succeeded := true, notice := some (.success message), reload }

/-- A record is to be shown. -/
def shown (detail : Detail) : Outcome := { succeeded := true, detail := some detail }

/-- Something went wrong. -/
def failed (context : String) (p : Problem) : Outcome :=
  { notice := some (.ofProblem context p) }

end Outcome

end FaultConsole
