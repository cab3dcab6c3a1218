import FaultConsole.Json.Printer
import FaultConsole.Model.Kind

/-!
# What is sent to create a record

A draft is a form that has been accepted. Its members have a fixed order when it is shown; the
body of a request is the same members as a JSON object.

The parameters of an experiment depend on its kind: an external service is given by its
endpoint, a workload by where it lives and the share of it to disrupt. Every parameter is sent
as a string.
-/

namespace FaultConsole

/-- The fault that an external service is always asked for. -/
def serviceFailure : String := "service-failure"

/-- The parameters of an external service. -/
structure ExternalParameters where
  endpoint : String
  authToken : Option String
  cleanupEndpoint : Option String
deriving Repr, DecidableEq

/-- The parameters of a disrupted workload. -/
structure WorkloadParameters where
  scope : String
  percentage : Nat
deriving Repr, DecidableEq

/-- The parameters of an experiment. -/
inductive Parameters where
  | external (parameters : ExternalParameters)
  | workload (parameters : WorkloadParameters)
deriving Repr, DecidableEq

/-- A member that is left out when it has no value. -/
def optionalMember (key : String) : Option String → List Json.Member
  | some s => [(key, .string s)]
  | none => []

/-- The members of parameters, in order. -/
def Parameters.members : Parameters → List Json.Member
  | external p =>
    [("target_type", .string "external"), ("endpoint", .string p.endpoint),
      ("type", .string serviceFailure)] ++
      optionalMember "auth_token" p.authToken ++
      optionalMember "cleanup_endpoint" p.cleanupEndpoint
  | workload p =>
    [("namespace", .string p.scope), ("percentage", .string (toString p.percentage))]

/-- An experiment to be created. -/
structure ExperimentDraft where
  name : String
  description : String
  kind : Kind
  target : String
  parameters : Parameters
  duration : Nat
deriving Repr, DecidableEq

namespace ExperimentDraft

/-- The text of a draft: members and parameters in their own order. -/
def toText (d : ExperimentDraft) : String :=
  String.ofList (['\x7b'] ++
    Json.membersText [("name", .string d.name), ("description", .string d.description),
      ("type", .string d.kind.name), ("target", .string d.target)] ++
    ",\"parameters\":\x7b".toList ++ Json.membersText d.parameters.members ++
    "\x7d,".toList ++ Json.membersText [("duration", .int d.duration)] ++ ['\x7d'])

/-- The body of the request. -/
def toJson (d : ExperimentDraft) : Json :=
  .ofMembers [("name", .string d.name), ("description", .string d.description),
    ("type", .string d.kind.name), ("target", .string d.target),
    ("parameters", .ofMembers d.parameters.members), ("duration", .int d.duration)]

end ExperimentDraft

/-- A target to be created. -/
structure TargetDraft where
  name : String
  description : String
  kind : String
  scope : String
  selector : String
deriving Repr, DecidableEq

namespace TargetDraft

/-- The members of a draft, in order. -/
def members (d : TargetDraft) : List Json.Member :=
  [("name", .string d.name), ("description", .string d.description), ("type", .string d.kind),
    ("namespace", .string d.scope), ("selector", .string d.selector)]

/-- The text of a draft. -/
def toText (d : TargetDraft) : String := Json.compactInOrder d.members

/-- The body of the request. -/
def toJson (d : TargetDraft) : Json := .ofMembers d.members

end TargetDraft

end FaultConsole
