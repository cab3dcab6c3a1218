import FaultConsole.Form.Basic
import FaultConsole.Outcome.Basic
import FaultConsole.Service.Result

/-!
# The user's operations

What a user can do with records: create one from a form, view, execute, stop or delete one. An
operation first decides whether there is anything to send. If there is, it sends one request,
and the reply decides the outcome; if not, the outcome is known at once.

A deletion is sent only if the user confirms it. What the log says about an operation is decided
beside its outcome and changes nothing about it.
-/

namespace FaultConsole

/-- An operation on records. -/
inductive Operation where
  | createExperiment (draft : Except Problem ExperimentDraft)
  | createTarget (draft : Except Problem TargetDraft)
  | viewExperiment (id : String)
  | executeExperiment (id : String)
  | stopExperiment (id : String)
  | deleteExperiment (id : String)
  | viewTarget (id : String)
  | deleteTarget (id : String)

namespace Operation

/-- What is said before the reason when an operation fails. -/
def context : Operation → String
  | createExperiment _ => "Error creating experiment"
  | createTarget _ => "Error creating target"
  | viewExperiment _ => "Error loading experiment"
  | executeExperiment _ => "Error executing experiment"
  | stopExperiment _ => "Error stopping experiment"
  | deleteExperiment _ => "Error deleting experiment"
  | viewTarget _ => "Error loading target"
  | deleteTarget _ => "Error deleting target"

/-- What the user is asked before an operation is sent. -/
def question? : Operation → Option String
  | deleteExperiment _ => some "Are you sure you want to delete this experiment?"
  | deleteTarget _ => some "Are you sure you want to delete this target?"
  | _ => none

/-- The request of an operation to the service at a base, or the outcome if there is none to
send. `confirmed` is the answer to the operation's question, if it has one. -/
def start (base : String) (confirmed : Bool) : Operation → Except Outcome Call
  | op@(createExperiment draft) =>
    match draft with
    | .ok d => .ok (Endpoint.createExperiment.call base (some d.toJson))
    | .error p => .error (.failed op.context p)
  | op@(createTarget draft) =>
    match draft with
    | .ok d => .ok (Endpoint.createTarget.call base (some d.toJson))
    | .error p => .error (.failed op.context p)
  | viewExperiment id => .ok ((Endpoint.getExperiment id).call base)
  | executeExperiment id => .ok ((Endpoint.executeExperiment id).call base)
  | op@(stopExperiment _) => .error (.failed op.context stopUnsupported)
  | deleteExperiment id =>
    if confirmed then .ok ((Endpoint.deleteExperiment id).call base) else .error .cancelled
  | viewTarget _ => .ok (Endpoint.listTargets.call base)
  | deleteTarget id =>
    if confirmed then .ok ((Endpoint.deleteTarget id).call base) else .error .cancelled

/-- The outcome of an operation whose request had a reply, except its failures. -/
def result (reply : Reply) : Operation → Except Problem Outcome
  | createExperiment _ => do
    let _ ← reply.created Experiment.reader
    return .changed "Experiment created successfully" experimentLoaders
  | createTarget _ => do
    let _ ← reply.created Target.reader
    return .changed "Target created successfully" targetLoaders
  | viewExperiment _ => do
    let e ← reply.experiment
    return .shown (.experiment e)
  | executeExperiment id => do
    reply.done
    return .changed ("Experiment " ++ id ++ " started successfully") experimentLoaders
  | stopExperiment id => do
    reply.done
    return .changed ("Experiment " ++ id ++ " stopped") experimentLoaders
  | deleteExperiment _ => do
    reply.done
    return .changed "Experiment deleted successfully" experimentLoaders
  | viewTarget id => do
    let t ← reply.target id
    return .shown (.target t)
  | deleteTarget _ => do
    reply.done
    return .changed "Target deleted successfully" targetLoaders

/-- The outcome of an operation whose request had a reply. -/
def finish (reply : Reply) (op : Operation) : Outcome :=
  match op.result reply with
  | .ok outcome => outcome
  | .error p => .failed op.context p

/-! ## What is logged -/

/-- What is logged about an operation that has nothing to send. -/
def unsentLog : Operation → List Log.Entry
  | op@(createExperiment (.error p)) | op@(createTarget (.error p)) => [.ofProblem op.context p]
  | op@(stopExperiment id) =>
    [⟨.warn, "stop requested but the API exposes no stop endpoint", [("experiment", id)]⟩,
      .ofProblem op.context stopUnsupported]
  | _ => []

/-- What is logged about an operation whose request succeeded. -/
def successLog (reply : Reply) : Operation → List Log.Entry
  | createExperiment (.ok d) =>
    reply.createdLog Experiment.reader ++
      [⟨.info, "experiment created", [("name", d.name), ("kind", d.kind.name)]⟩]
  | createTarget (.ok d) =>
    reply.createdLog Target.reader ++
      [⟨.info, "target created", [("name", d.name), ("selector", d.selector)]⟩]
  | executeExperiment id => [⟨.info, "experiment started", [("experiment", id)]⟩]
  | deleteExperiment id => [⟨.info, "experiment deleted", [("experiment", id)]⟩]
  | deleteTarget id => [⟨.info, "target deleted", [("target_id", id)]⟩]
  | _ => []

/-- What is logged about an operation whose request had a reply, apart from the reply itself. -/
def finishLog (reply : Reply) (op : Operation) : List Log.Entry :=
  match op.result reply with
  | .ok _ => op.successLog reply
  | .error p => [.ofProblem op.context p]

/-- An operation from start to end, where `answer` gives the reply to each request: the calls
that were sent, and the outcome. -/
def run (base : String) (confirmed : Bool) (answer : Call → Reply) (op : Operation) :
    List Call × Outcome :=
  match op.start base confirmed with
  | .ok call => ([call], op.finish (answer call))
  | .error outcome => ([], outcome)

end Operation

end FaultConsole
