import FaultConsole.Json.Record.Reader
import FaultConsole.Json.Record.Value

/-!
# Targets

A target as the service reports it. Experiments refer to it by its selector.
-/

namespace FaultConsole

open Json.Record (Field Shape Values)

/-- Something that experiments can be aimed at. -/
structure Target where
  id : String
  name : String
  description : String
  kind : String
  /-- Where the target lives. -/
  scope : String
  selector : String
  createdAt : Time.Instant
  updatedAt : Option Time.Instant
deriving Repr, DecidableEq, Inhabited

namespace Target

/-- The fields of the record. -/
abbrev shape : Shape :=
  ⟨"Target",
    [.required "id" .text, .required "name" .text, .optional "description" .text "",
      .required "type" .text, .required "namespace" .text, .required "selector" .text,
      .required "created_at" .instant, .optional "updated_at" .optionalInstant none]⟩

/-- The target with these values. -/
def ofValues : Values shape.fields → Target
  | (id, name, description, kind, scope, selector, createdAt, updatedAt, ()) =>
    { id, name, description, kind, scope, selector, createdAt, updatedAt }

/-- The values of a target. -/
def toValues (t : Target) : Values shape.fields :=
  (t.id, t.name, t.description, t.kind, t.scope, t.selector, t.createdAt, t.updatedAt, ())

/-- The target that a JSON value stands for. -/
def ofJson (v : Json) : Except Json.Cause Target := ofValues <$> Json.Record.ofJson shape v

/-- The members of a target's record, in order. -/
def members (t : Target) : List Json.Member := Json.Record.toMembers shape.fields t.toValues

/-- The JSON value of a target. -/
def toJson (t : Target) : Json := .ofMembers t.members

/-- The JSON text of a target. -/
def toText (t : Target) : String := Json.compactInOrder t.members

/-- Reads a target. -/
def reader : Json.Reader Target := fun c => do
  let (v, c) ← Json.Record.readOne shape c
  return (ofValues v, c)

/-- Reads a list of targets. -/
def listReader : Json.Reader (List Target) := fun c => do
  let (vs, c) ← Json.Record.readList shape c
  return (vs.map ofValues, c)

end Target

end FaultConsole
