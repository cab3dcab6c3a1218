import FaultConsole.Log
import FaultConsole.Model.Experiment
import FaultConsole.Model.Target
import FaultConsole.Service.Endpoint

/-!
# What replies mean

How the reply to each operation is understood, and what the log says about it. A list may be given
as `null` when it is empty. Whether a record was created is decided by the status alone: a body that
cannot be read does not turn a completed creation into a failure, but it is logged.
-/

namespace FaultConsole

/-- Reads a list, where `null` is the empty list. -/
def orNull {α : Type} (reader : Json.Reader (List α)) : Json.Reader (List α) := fun c => do
  let (items, c) ← Json.Record.readOptional reader c
  return (items.getD [], c)

namespace Reply

/-- The value that the body of a successful reply holds. -/
def value {α : Type} (reader : Json.Reader α) (r : Reply) : Except Problem α := do
  let response ← r.accept
  readBody reader response.body

/-- The experiments of a reply. -/
def experiments (r : Reply) : Except Problem (List Experiment) :=
  r.value (orNull Experiment.listReader)

/-- The experiment of a reply. -/
def experiment (r : Reply) : Except Problem Experiment := r.value Experiment.reader

/-- The targets of a reply. -/
def targets (r : Reply) : Except Problem (List Target) := r.value (orNull Target.listReader)

/-- The first target of a reply that has an id. -/
def target (id : String) (r : Reply) : Except Problem Target := do
  let all ← r.targets
  match all.find? (·.id = id) with
  | some t => return t
  | none => throw (.notFound ("target " ++ id))

/-- The record that was created, if the reply shows it. -/
def created {α : Type} (reader : Json.Reader α) (r : Reply) : Except Problem (Option α) := do
  let response ← r.accept
  if Text.isBlankText response.body then return none
  else return (readBody reader response.body).toOption

/-- What is logged about the record that was created: a body that cannot be read. -/
def createdLog {α : Type} (reader : Json.Reader α) : Reply → List Log.Entry
  | failure _ => []
  | response r =>
    if Text.isBlankText r.body then []
    else match Json.readWith reader r.body with
      | .ok _ => []
      | .error f => [⟨.warn, "created record could not be decoded", [("error", f.message r.body)]⟩]

/-- Success without a result. -/
def done (r : Reply) : Except Problem Unit := do
  let _ ← r.accept
  return ()

end Reply

/-- What is logged about the reply to a call: that there is no response, or that its status is no
success. -/
def Call.replyLog (c : Call) (r : Reply) : List Log.Entry :=
  let place := [("method", c.method.name), ("url", c.url)]
  match r with
  | .failure reason =>
    [⟨.warn, "request failed", place ++ [("error", (Problem.network reason).message)]⟩]
  | .response response =>
    if isSuccess response.status then []
    else [⟨.warn, "api returned an error status",
      place ++ [("status", toString response.status)]⟩]

/-- The problem of asking an experiment to stop: nothing is sent. -/
def stopUnsupported : Problem := .unsupported "stopping experiments"

end FaultConsole
