import FaultConsole.Problem

/-!
# Notices

A notice tells the user how an operation ended. Successes and warnings go away by themselves;
errors stay until they are closed.
-/

namespace FaultConsole

/-- How a notice is meant. -/
inductive Tone where
  | success
  | warning
  | error
deriving Repr, DecidableEq, Inhabited

/-- The name of a tone. -/
def Tone.name : Tone → String
  | success => "success"
  | warning => "warning"
  | error => "error"

/-- Something said to the user. -/
structure Notice where
  tone : Tone
  message : String
deriving Repr, DecidableEq

namespace Notice

/-- A notice of success. -/
def success (message : String) : Notice := ⟨.success, message⟩

/-- Whether a notice goes away by itself. -/
def dismissesItself (n : Notice) : Bool := n.tone != .error

/-- The notice of a problem. What the user can mend is said bare, as a warning; anything else is
an error and says first what was tried. -/
def ofProblem (context : String) : Problem → Notice
  | .validation message => ⟨.warning, message⟩
  | .unsupported operation => ⟨.warning, (Problem.unsupported operation).message⟩
  | p => ⟨.error, context ++ ": " ++ p.message⟩

end Notice

end FaultConsole
