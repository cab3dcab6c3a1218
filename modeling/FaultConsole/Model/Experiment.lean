import FaultConsole.Json.Record.Reader
import FaultConsole.Json.Record.Value
import FaultConsole.Model.Kind
import FaultConsole.Model.Status

/-!
# Experiments

An experiment as the service reports it. Its record is read from text and from JSON values by
one shape, and written back with the members in the order of that shape.
-/

namespace FaultConsole

open Json.Record (Field Shape Values)

/-- An experiment. -/
structure Experiment where
  id : String
  name : String
  description : String
  kind : Kind
  /-- The selector of the target. -/
  target : String
  parameters : Json
  /-- In seconds. -/
  duration : Nat
  status : Status
  createdAt : Time.Instant
  updatedAt : Option Time.Instant
deriving Repr, Inhabited

namespace Experiment

/-- The fields of the record. -/
abbrev shape : Shape :=
  ⟨"Experiment",
    [.required "id" .text, .required "name" .text, .optional "description" .text "",
      .required "type" .text, .required "target" .text,
      .optional "parameters" .parameters .null, .required "duration" .count,
      .required "status" .text, .required "created_at" .instant,
      .optional "updated_at" .optionalInstant none]⟩

/-- The experiment with these values. -/
def ofValues : Values shape.fields → Experiment
  | (id, name, description, kind, target, parameters, duration, status, createdAt, updatedAt, ()) =>
    { id, name, description, kind := Kind.ofName kind, target, parameters, duration,
      status := Status.ofName status, createdAt, updatedAt }

/-- The values of an experiment. -/
def toValues (e : Experiment) : Values shape.fields :=
  (e.id, e.name, e.description, e.kind.name, e.target, e.parameters, e.duration, e.status.name,
    e.createdAt, e.updatedAt, ())

/-- The experiment that a JSON value stands for. -/
def ofJson (v : Json) : Except Json.Cause Experiment := ofValues <$> Json.Record.ofJson shape v

/-- The members of an experiment's record, in order. -/
def members (e : Experiment) : List Json.Member := Json.Record.toMembers shape.fields e.toValues

/-- The JSON value of an experiment. -/
def toJson (e : Experiment) : Json := .ofMembers e.members

/-- The JSON text of an experiment. -/
def toText (e : Experiment) : String := Json.compactInOrder e.members

/-- Reads an experiment. -/
def reader : Json.Reader Experiment := fun c => do
  let (v, c) ← Json.Record.readOne shape c
  return (ofValues v, c)

/-- Reads a list of experiments. -/
def listReader : Json.Reader (List Experiment) := fun c => do
  let (vs, c) ← Json.Record.readList shape c
  return (vs.map ofValues, c)

end Experiment

end FaultConsole
