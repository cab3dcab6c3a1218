/-!
# Kinds of experiments

An experiment either calls an external service or disrupts a workload in one of several ways.
The service may report kinds that are not known here; they are kept as they are, so a kind and
its name determine each other.
-/

namespace FaultConsole

/-- What an experiment does. -/
inductive Kind where
  | externalTarget
  | podFailure
  | networkDelay
  | cpuStress
  | memoryStress
  | diskFailure
  | serviceFailure
  /-- A kind that is not known here, by its name. -/
  | other (name : String)
deriving Repr, DecidableEq, Inhabited

namespace Kind

/-- The name a kind has on the wire. -/
def name : Kind → String
  | externalTarget => "external-target"
  | podFailure => "pod-failure"
  | networkDelay => "network-delay"
  | cpuStress => "cpu-stress"
  | memoryStress => "memory-stress"
  | diskFailure => "disk-failure"
  | serviceFailure => "service-failure"
  | other name => name

/-- The kinds offered when an experiment is created, in the order shown. -/
def selectable : List Kind :=
  [externalTarget, podFailure, networkDelay, cpuStress, memoryStress, diskFailure, serviceFailure]

/-- The kind with a name. -/
def ofName : String → Kind
  | "external-target" => externalTarget
  | "pod-failure" => podFailure
  | "network-delay" => networkDelay
  | "cpu-stress" => cpuStress
  | "memory-stress" => memoryStress
  | "disk-failure" => diskFailure
  | "service-failure" => serviceFailure
  | s => other s

/-- What a person reads for a kind. -/
def label : Kind → String
  | externalTarget => "External Target"
  | podFailure => "Pod Failure"
  | networkDelay => "Network Delay"
  | cpuStress => "CPU Stress"
  | memoryStress => "Memory Stress"
  | diskFailure => "Disk Failure"
  | serviceFailure => "Service Failure"
  | other name => name

/-- Every kind but one disrupts a workload. -/
def isExternal (k : Kind) : Bool := k == externalTarget

end Kind

end FaultConsole
