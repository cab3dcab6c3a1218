/-!
# Views and what they load

The dashboard shows one view at a time. A view with a list has a loader that fetches it;
entering a view starts the loaders of its plan.
-/

namespace FaultConsole

/-- What the dashboard can show. -/
inductive View where
  | dashboard
  | experiments
  | targets
  | results
  | settings
deriving Repr, DecidableEq, Inhabited

/-- A list that is fetched for a view. -/
inductive Loader where
  /-- Every experiment, for the counts and the table of recent ones. -/
  | dashboard
  /-- Every experiment, for the full table. -/
  | experiments
  /-- Every target, for the table and for the dropdown of the experiment form. -/
  | targets
deriving Repr, DecidableEq, Inhabited

/-- What entering a view does. -/
inductive LoadPlan where
  | run (loaders : List Loader)
  /-- The view cannot show anything yet. -/
  | unimplemented
  /-- The view needs nothing. -/
  | nothing
deriving Repr, DecidableEq

namespace View

/-- The views in the order of the menu. -/
def all : List View := [dashboard, experiments, targets, results, settings]

/-- The heading of a view. -/
def title : View → String
  | dashboard => "Dashboard"
  | experiments => "Experiments"
  | targets => "Targets"
  | results => "Results"
  | settings => "Settings"

/-- What entering a view loads. -/
def plan : View → LoadPlan
  | dashboard => .run [.dashboard]
  | experiments => .run [.experiments]
  | targets => .run [.targets]
  | results => .unimplemented
  | settings => .nothing

end View

/-- The loaders of a plan. -/
def LoadPlan.loaders : LoadPlan → List Loader
  | run loaders => loaders
  | _ => []

namespace Loader

/-- The loaders, in order. -/
def all : List Loader := [dashboard, experiments, targets]

/-- The view whose content a loader fetches. -/
def view : Loader → View
  | dashboard => .dashboard
  | experiments => .experiments
  | targets => .targets

/-- What is said before the reason when a load fails. -/
def context : Loader → String
  | dashboard => "Error loading dashboard data"
  | experiments => "Error loading experiments"
  | targets => "Error loading targets"

end Loader

/-- The loaders to run after experiments have changed. -/
def experimentLoaders : List Loader := [.dashboard, .experiments]

/-- The loaders to run after targets have changed. -/
def targetLoaders : List Loader := [.targets]

end FaultConsole
