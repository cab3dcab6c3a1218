import FaultConsole.Json.Reader
import FaultConsole.Json.Record.Shape

/-!
# Reading records from values, and writing them

The same shapes read from a `Json` value instead of a text. There are no places to report, only
causes.
-/

namespace FaultConsole.Json.Record

/-- The instant of a timestamp. -/
def instantOf (s : String) : Except Cause Time.Instant :=
  match Time.Instant.parse? s with
  | some t => .ok t
  | none => .error (.notATimestamp s)

/-- The value of a field, from a JSON value. -/
def ofJsonKind : (kind : Kind) → Json → Except Cause kind.Value
  | .text, .string s => .ok s
  | .text, v => .error (.wrongKind (shown v) "a string")
  | .count, .int n =>
    if 0 ≤ n then .ok n.toNat else .error (.wrongValue (.int n) "u64")
  | .count, v => .error (.wrongKind (shown v) "u64")
  | .optionalCount, .null => .ok none
  | .optionalCount, .int n =>
    if 0 ≤ n then .ok (some n.toNat) else .error (.wrongValue (.int n) "u64")
  | .optionalCount, v => .error (.wrongKind (shown v) "u64")
  | .instant, .string s => instantOf s
  | .instant, v => .error (.wrongKind (shown v) "a string")
  | .optionalInstant, .null => .ok none
  | .optionalInstant, .string s => some <$> instantOf s
  | .optionalInstant, v => .error (.wrongKind (shown v) "a string")
  | .parameters, v => .ok (decodeParameters (fun s => (read s).toOption) v)

/-- The values of a record from the members of an object. -/
def ofMembersJson (members : List Member) :
    (fields : List Field) → Except Cause (Values fields)
  | [] => .ok ()
  | f :: fs => do
    let v ← match members.lookup f.name with
      | some v => ofJsonKind f.kind v
      | none =>
        match f.fallback with
        | some v => .ok v
        | none => .error (.missingField f.name)
    let vs ← ofMembersJson members fs
    return (v, vs)

/-- The values of a record from the elements of a sequence; `index` is the place of the first. -/
def ofItemsJson (title : String) :
    (fields : List Field) → (index : Nat) → List Json → Except Cause (Values fields)
  | [], _, [] => .ok ()
  | [], index, extra => .error (.wrongLength (index + extra.length) "fewer elements in array")
  | f :: fs, index, [] => do
    let v ← match f.fallback with
      | some v => .ok v
      | none => .error (.wrongLength index title)
    let vs ← ofItemsJson title fs (index + 1) []
    return (v, vs)
  | f :: fs, index, item :: items => do
    let v ← ofJsonKind f.kind item
    let vs ← ofItemsJson title fs (index + 1) items
    return (v, vs)

/-- The values of a record from a JSON value: an object with its members, or the sequence of
its values. -/
def ofJson (shape : Shape) : Json → Except Cause (Values shape.fields)
  | .object members => ofMembersJson members shape.fields
  | .array items => ofItemsJson shape.expectedLength shape.fields 0 items
  | v => .error (.wrongKind (shown v) shape.expected)

/-- The JSON value of a field. -/
def toJsonKind : (kind : Kind) → kind.Value → Json
  | .text, s => .string s
  | .count, n => .int n
  | .optionalCount, none => .null
  | .optionalCount, some n => .int n
  | .instant, t => .string t.toText
  | .optionalInstant, none => .null
  | .optionalInstant, some t => .string t.toText
  | .parameters, v => v

/-- The members of a record, in the order of its fields. -/
def toMembers : (fields : List Field) → Values fields → List Member
  | [], () => []
  | f :: fs, (v, vs) => (f.name, toJsonKind f.kind v) :: toMembers fs vs

end FaultConsole.Json.Record
