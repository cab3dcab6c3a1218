import FaultConsole.Navigation.View

/-!
# The router

The router knows the active view and counts navigations. A load takes a ticket when it starts;
its result counts only while no navigation has happened since and the loader's view is the
active one. Going to the view that is already active is a navigation too, so loads that were
started before it no longer count.
-/

namespace FaultConsole

/-- The active view, and how many navigations led to it. -/
structure Router where
  active : View := .dashboard
  generation : Nat := 0
deriving Repr, DecidableEq, Inhabited

/-- The navigation that a load was started under. -/
structure Ticket where
  loader : Loader
  generation : Nat
deriving Repr, DecidableEq

namespace Router

/-- The router after going to a view. -/
def navigate (view : View) (r : Router) : Router :=
  { active := view, generation := r.generation + 1 }

/-- The router after going to the view that is active. -/
def reload (r : Router) : Router := r.navigate r.active

/-- The ticket of a load that starts now. -/
def ticket (r : Router) (loader : Loader) : Ticket := ⟨loader, r.generation⟩

/-- Whether the result of a load still counts. -/
def isCurrent (r : Router) (t : Ticket) : Bool :=
  t.generation == r.generation && t.loader.view == r.active

end Router

end FaultConsole
