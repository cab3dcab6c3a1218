import FaultConsole.Outcome.Notice

/-!
# Panels

A panel shows the last list that was loaded successfully, and whether a load is out. A load that
fails keeps the rows and gives a notice; one that no longer counts is dropped without a word.
-/

namespace FaultConsole

/-- A list that is loaded, and loaded again. -/
structure Panel (α : Type) where
  items : List α := []
  /-- Whether a load is out. -/
  loading : Bool := false
  /-- Whether a load has succeeded yet. -/
  loaded : Bool := false
deriving Repr, DecidableEq

namespace Panel

variable {α : Type}

/-- A panel that has loaded nothing. -/
instance : Inhabited (Panel α) := ⟨{}⟩

/-- The panel when a load starts. -/
def begin (p : Panel α) : Panel α := { p with loading := true }

/-- Whether the first load is out, so that an empty list means "not known yet". -/
def awaitingFirstLoad (p : Panel α) : Bool := p.loading && !p.loaded

/-- The panel when a load ends, and what is said about it. -/
def settle (result : Except Problem (List α)) (current : Bool) (context : String)
    (p : Panel α) : Panel α × Option Notice :=
  match result with
  | .ok items =>
    if current then ({ items, loading := false, loaded := true }, none)
    else ({ p with loading := false }, none)
  | .error problem => ({ p with loading := false }, some (.ofProblem context problem))

end Panel

end FaultConsole
