import FaultConsole.Listing.Table
import FaultConsole.Outcome.Operation
import FaultConsole.Settings.Server
import FaultConsole.Terminal.Arguments

/-!
# Commands

What a command line asks for, once its arguments have been read. A command that creates a record
fills in the same form as the dashboard does, as a whole: an option that is left out has a value that
the command says itself, and a new form plays no part.

An option for the whole program counts where it stands furthest in. The root of the service may
also come from the environment, which gives way to any option.
-/

namespace FaultConsole.Terminal

/-- What a command line asks for. -/
inductive Command where
  /-- Serve the dashboard at a host and a port. -/
  | serve (host : String) (port : Nat)
  | listExperiments (table : ExperimentTable)
  | listTargets
  /-- Operate on a record; `confirmed` answers the operation's question ahead of time. -/
  | operate (operation : Operation) (confirmed : Bool)
  | summary

namespace Reading

/-- The text that an option was given. -/
def text? (name : String) (r : Reading) : Option String :=
  match r.values.lookup name with
  | some (.text s) => some s
  | _ => none

/-- The number that an option was given. -/
def number? (name : String) (r : Reading) : Option Nat :=
  match r.values.lookup name with
  | some (.number n) => some n
  | _ => none

/-- Whether an option was given. -/
def given (name : String) (r : Reading) : Bool := (r.values.lookup name).isSome

end Reading

/-! ## Commands that create records -/

/-- What a command that creates an experiment has been given, with the values of options that are
left out. -/
structure ExperimentArguments where
  name : String := ""
  description : String := ""
  kind : String := "external-target"
  target : String := ""
  duration : String := "60"
  endpoint : String := ""
  authToken : String := ""
  cleanupEndpoint : String := ""
  scope : String := "default"
  percentage : Nat := defaultPercentage
deriving Repr, DecidableEq

/-- What a command that creates a target has been given, with the values of options that are left
out. -/
structure TargetArguments where
  name : String := ""
  description : String := ""
  kind : String := "pod"
  scope : String := "default"
  selector : String := ""
deriving Repr, DecidableEq

/-- The form that is filled in with arguments. -/
def ExperimentArguments.form (a : ExperimentArguments) : ExperimentForm where
  name := a.name
  description := a.description
  kind := a.kind
  target := a.target
  duration := a.duration
  external :=
    { endpoint := a.endpoint, authToken := a.authToken, cleanupEndpoint := a.cleanupEndpoint }
  workload := { scope := a.scope, percentage := a.percentage }

/-- The form that is filled in with arguments. -/
def TargetArguments.form (a : TargetArguments) : TargetForm where
  name := a.name
  description := a.description
  kind := a.kind
  scope := a.scope
  selector := a.selector

namespace Reading

/-- The arguments of a command that creates an experiment. -/
def experimentArguments (r : Reading) : ExperimentArguments :=
  let unset : ExperimentArguments := {}
  { name := (r.text? "name").getD unset.name
    description := (r.text? "description").getD unset.description
    kind := (r.text? "type").getD unset.kind
    target := (r.text? "target").getD unset.target
    duration := (r.text? "duration").getD unset.duration
    endpoint := (r.text? "endpoint").getD unset.endpoint
    authToken := (r.text? "auth-token").getD unset.authToken
    cleanupEndpoint := (r.text? "cleanup-endpoint").getD unset.cleanupEndpoint
    scope := (r.text? "namespace").getD unset.scope
    percentage := (r.number? "percentage").getD unset.percentage }

/-- The arguments of a command that creates a target. -/
def targetArguments (r : Reading) : TargetArguments :=
  let unset : TargetArguments := {}
  { name := (r.text? "name").getD unset.name
    description := (r.text? "description").getD unset.description
    kind := (r.text? "type").getD unset.kind
    scope := (r.text? "namespace").getD unset.scope
    selector := (r.text? "selector").getD unset.selector }

end Reading

/-! ## Commands and invocations -/

/-- The command of a place, with what was read there. -/
def Command.ofReading (p : Place) (r : Reading) : Except Stop Command :=
  let id := r.id.getD ""
  let server : ServerSettings := {}
  match p with
  | .program | .experiments | .targets => .error (.commandMissing p)
  | .serve =>
    .ok (.serve ((r.text? "host").getD server.host) ((r.number? "port").getD server.port))
  | .listExperiments =>
    .ok (.listExperiments (if r.given "recent" then .recent else .full))
  | .showExperiment => .ok (.operate (.viewExperiment id) false)
  | .createExperiment =>
    .ok (.operate (.createExperiment r.experimentArguments.form.draft) false)
  | .executeExperiment => .ok (.operate (.executeExperiment id) false)
  | .stopExperiment => .ok (.operate (.stopExperiment id) false)
  | .deleteExperiment => .ok (.operate (.deleteExperiment id) (r.given yesOption.long))
  | .listTargets => .ok .listTargets
  | .showTarget => .ok (.operate (.viewTarget id) false)
  | .createTarget => .ok (.operate (.createTarget r.targetArguments.form.draft) false)
  | .deleteTarget => .ok (.operate (.deleteTarget id) (r.given yesOption.long))
  | .summary => .ok .summary

/-- A command, and where to find the service. -/
structure Invocation where
  /-- The root of the service, if it is given. -/
  apiRoot : Option String := none
  /-- The path of a file of settings, if it is given. -/
  settingsPath : Option String := none
  command : Command

namespace Invocation

/-- The text of an option for the whole program. -/
def globalText? (name : String) (readings : List (Place × Reading)) : Option String :=
  readings.foldl (fun found (_, r) => r.text? name <|> found) none

/-- What the arguments ask for; `environment` is the root that the environment gives. -/
def ofArguments (environment : Option String) (args : List String) : Except Stop Invocation := do
  let readings ← readArguments environment.isSome .program {} args
  let command ← match readings.getLast? with
    | some (p, r) => Command.ofReading p r
    | none => throw (.nothingAsked .program)
  return {
    apiRoot := globalText? "api-root" readings <|> environment
    settingsPath := globalText? "config" readings
    command }

end Invocation

end FaultConsole.Terminal
