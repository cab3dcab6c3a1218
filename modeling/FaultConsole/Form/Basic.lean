import FaultConsole.Decimal.Digits
import FaultConsole.Form.Draft
import FaultConsole.Problem
import FaultConsole.Text.Blank

/-!
# The forms that create records

A form holds what was typed, as it was typed. `draft` decides whether it can be sent: it trims
every field, checks that the required ones are filled in, and builds the draft. Nothing is sent
when it fails.

The experiment form has a part for external services and a part for workloads. Both keep what
was typed into them while they are hidden; the kind alone decides which of them counts.
-/

namespace FaultConsole

/-- What is said when a required field is empty. -/
def requiredFields : String := "Please fill in all required fields"

/-- What is said when the share of a workload is too large. -/
def percentageRange : String := "Percentage must be between 0 and 100"

/-- The share of a workload that a new form starts with. -/
def defaultPercentage : Nat := 50

/-- The duration, in seconds, that a new form starts with. -/
def defaultDuration : Nat := 60

/-- The kinds of targets that are offered. -/
def targetKinds : List String := ["pod", "deployment", "service", "node", "external"]

/-- The part of the experiment form for external services. -/
structure ExternalFields where
  endpoint : String := ""
  authToken : String := ""
  cleanupEndpoint : String := ""
deriving Repr, DecidableEq

/-- The part of the experiment form for workloads. -/
structure WorkloadFields where
  scope : String := "default"
  percentage : Nat := defaultPercentage
deriving Repr, DecidableEq

/-- The form for a new experiment. -/
structure ExperimentForm where
  name : String := ""
  description : String := ""
  kind : String := Kind.externalTarget.name
  /-- The selector of the target. -/
  target : String := ""
  duration : String := toString defaultDuration
  external : ExternalFields := {}
  workload : WorkloadFields := {}
deriving Repr, DecidableEq

/-- A new form. -/
instance : Inhabited ExperimentForm := ⟨{}⟩

/-- The form for a new target. -/
structure TargetForm where
  name : String := ""
  description : String := ""
  kind : String := "pod"
  scope : String := "default"
  selector : String := ""
deriving Repr, DecidableEq

/-- A new form. -/
instance : Inhabited TargetForm := ⟨{}⟩

/-- A trimmed text, unless nothing is left of it. -/
def nonBlank? (s : String) : Option String :=
  let t := Text.trim s
  if t.isEmpty then none else some t

/-- A duration as it may be typed: a whole number of seconds from 1 to 64 bits, with an optional
plus sign. -/
def duration? (s : String) : Option Nat :=
  let cs := match Text.trimmed s.toList with
    | '+' :: rest => rest
    | cs => cs
  if cs.isEmpty || !cs.all Char.isDigit then none
  else
    let n := Decimal.digitsValue cs
    if 1 ≤ n ∧ n < Nat.pow 2 64 then some n else none

namespace ExperimentForm

/-- The kind that was chosen, if any. -/
def chosenKind? (f : ExperimentForm) : Option Kind := (nonBlank? f.kind).map Kind.ofName

/-- Whether the part for external services is the visible one. -/
def showsExternal (f : ExperimentForm) : Bool := f.chosenKind?.any (·.isExternal)

/-- The form with another kind, both parts as they were. -/
def setKind (kind : String) (f : ExperimentForm) : ExperimentForm := { f with kind }

/-- The parameters for a kind, from the part of the form that counts for it. -/
def parametersFor (f : ExperimentForm) (kind : Kind) : Except Problem Parameters :=
  if kind.isExternal then
    .ok (.external
      { endpoint := Text.trim f.external.endpoint
        authToken := nonBlank? f.external.authToken
        cleanupEndpoint := nonBlank? f.external.cleanupEndpoint })
  else if 100 < f.workload.percentage then .error (.validation percentageRange)
  else
    .ok (.workload
      { scope := Text.trim f.workload.scope, percentage := f.workload.percentage })

/-- The draft that the form makes, or what is wrong with it. -/
def draft (f : ExperimentForm) : Except Problem ExperimentDraft :=
  match nonBlank? f.name, f.chosenKind?, nonBlank? f.target, duration? f.duration with
  | some name, some kind, some target, some duration => do
    let parameters ← f.parametersFor kind
    return { name, description := Text.trim f.description, kind, target, parameters, duration }
  | _, _, _, _ => .error (.validation requiredFields)

end ExperimentForm

namespace TargetForm

/-- The draft that the form makes, or what is wrong with it. -/
def draft (f : TargetForm) : Except Problem TargetDraft :=
  match nonBlank? f.name, nonBlank? f.kind, nonBlank? f.scope, nonBlank? f.selector with
  | some name, some kind, some scope, some selector =>
    .ok { name, description := Text.trim f.description, kind, scope, selector }
  | _, _, _, _ => .error (.validation requiredFields)

end TargetForm

end FaultConsole
