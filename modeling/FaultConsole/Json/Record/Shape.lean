import FaultConsole.Json.Basic
import FaultConsole.Json.Fault
import FaultConsole.Time.Timestamp

/-!
# The shapes of records

A record has fields in a fixed order. Each has a name, a kind of value, and, if it may be left
out, the value it then has. The shape of a record is the list of its fields, as data, so that
one description serves both readers: the one that reads text and reports where it is wrong, and
the one that reads a `Json` value.

`Values fields` is the type of what is read, one component for each field.
-/

namespace FaultConsole.Json.Record

/-- The kinds of values that fields hold. -/
inductive Kind where
  /-- A string. -/
  | text
  /-- A natural number of 64 bits. -/
  | count
  /-- A natural number of 64 bits, or nothing. -/
  | optionalCount
  /-- A timestamp. -/
  | instant
  /-- A timestamp, or nothing. -/
  | optionalInstant
  /-- Any value; a string that is itself JSON text stands for the value it encodes. -/
  | parameters
deriving Repr, DecidableEq

/-- What a field of a kind holds. -/
abbrev Kind.Value : Kind → Type
  | .text => String
  | .count => Nat
  | .optionalCount => Option Nat
  | .instant => Time.Instant
  | .optionalInstant => Option Time.Instant
  | .parameters => Json

/-- A field of a record. -/
structure Field where
  name : String
  kind : Kind
  /-- The value of a field that is left out, if it may be. -/
  fallback : Option kind.Value

/-- A field that must be there. -/
abbrev Field.required (name : String) (kind : Kind) : Field := ⟨name, kind, none⟩

/-- A field that may be left out. -/
abbrev Field.optional (name : String) (kind : Kind) (value : kind.Value) : Field :=
  ⟨name, kind, some value⟩

/-- A record's name in messages, and its fields. -/
structure Shape where
  title : String
  fields : List Field

/-- How messages name a record of a shape. -/
def Shape.expected (s : Shape) : String := "struct " ++ s.title

/-- How messages name a record of a shape written as a sequence. -/
def Shape.expectedLength (s : Shape) : String :=
  s.expected ++ " with " ++ toString s.fields.length ++ " elements"

/-- One value for each field. -/
abbrev Values : List Field → Type
  | [] => Unit
  | f :: fs => f.kind.Value × Values fs

/-- The values read so far. -/
abbrev Slots : List Field → Type
  | [] => Unit
  | f :: fs => Option f.kind.Value × Slots fs

/-- Nothing read yet. -/
def Slots.none : (fields : List Field) → Slots fields
  | [] => ()
  | _ :: fs => (Option.none, Slots.none fs)

/-- The values of a record whose members have all been read: a field that was left out has its
fallback, and the first one without is missing. -/
def Slots.complete : (fields : List Field) → Slots fields → Except Cause (Values fields)
  | [], () => .ok ()
  | f :: fs, (slot, rest) => do
    let v ← match slot <|> f.fallback with
      | some v => .ok v
      | Option.none => .error (.missingField f.name)
    let vs ← Slots.complete fs rest
    return (v, vs)

/-- What parameters stand for: a string that is JSON text is read, once. -/
def decodeParameters (read : String → Option Json) : Json → Json
  | .string s => (read s).getD (.string s)
  | v => v

end FaultConsole.Json.Record
