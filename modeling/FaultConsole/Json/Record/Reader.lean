import FaultConsole.Json.Reader
import FaultConsole.Json.Record.Shape

/-!
# Reading records from text

A record is an object with the fields of its shape, or a sequence of their values in order. It
is read in one pass and the first fault counts.

Faults of two sorts meet here. A fault of the text has a place of its own. A fault of the
record, such as a missing field, has none: it is reported where reading stood once the end of
the record was tried for.
-/

namespace FaultConsole.Json.Record

/-- Why a record is refused. -/
inductive Refusal where
  /-- The text is at fault. -/
  | text (fault : Fault)
  /-- The record is at fault; reading had come to the cursor. -/
  | content (cause : Cause) (reached : Cursor)

/-- Keeps a fault of the text. -/
def lift {α : Type} : Except Fault α → Except Refusal α
  | .ok a => .ok a
  | .error f => .error (.text f)

/-! ## Values of fields -/

/-- Takes a value that turned out to be of the wrong kind: the value is read if it is a simple
one, and the fault is reported after it. -/
def wrongKind (expected : String) (c : Cursor) : Fault :=
  match c.rest with
  | '[' :: _ => c.fault (.wrongKind .sequence expected)
  | '\x7b' :: _ => c.fault (.wrongKind .map expected)
  | _ =>
    match value maxDepth c with
    | .ok (v, after) => after.fault (.wrongKind (shown v) expected)
    | .error f => f

/-- Reads a string. -/
def readText : Reader String := fun c =>
  let c := c.skipSpace
  match c.rest with
  | [] => .error (c.lookFault .endInValue)
  | '"' :: _ => stringAfterQuote c
  | _ => .error (wrongKind "a string" c)

/-- Reads a natural number of 64 bits. -/
def readCount : Reader Nat := fun c =>
  let c := c.skipSpace
  match c.rest with
  | [] => .error (c.lookFault .endInValue)
  | ch :: _ =>
    if ch == '-' || ch.isDigit then do
      let (n, c) ← number c
      match n with
      | .natural n => return (n, c)
      | .negative n => throw (c.fault (.wrongValue (.int n) "u64"))
      | .double bits => throw (c.fault (.wrongKind (.float bits) "u64"))
    else .error (wrongKind "u64" c)

/-- Reads nothing, written `null`, or what a reader reads. -/
def readOptional {α : Type} (reader : Reader α) : Reader (Option α) := fun c =>
  let c := c.skipSpace
  match c.rest with
  | 'n' :: _ => do
    let c ← word "ull".toList (c.skip 1)
    return (none, c)
  | _ => do
    let (v, c) ← reader c
    return (some v, c)

/-- The instant of a timestamp that was read up to a cursor. -/
def toInstant (s : String) (c : Cursor) : Except Refusal Time.Instant :=
  match Time.Instant.parse? s with
  | some t => .ok t
  | none => .error (.content (.notATimestamp s) c)

/-- Reads the value of a field. The depth bounds the nesting of parameters. -/
def readKind (depth : Nat) : (kind : Kind) → Cursor → Except Refusal (kind.Value × Cursor)
  | .text, c => lift (readText c)
  | .count, c => lift (readCount c)
  | .optionalCount, c => lift (readOptional readCount c)
  | .instant, c => do
    let (s, c) ← lift (readText c)
    let t ← toInstant s c
    return (t, c)
  | .optionalInstant, c => do
    let (s, c) ← lift (readOptional readText c)
    match s with
    | none => return (none, c)
    | some s =>
      let t ← toInstant s c
      return (some t, c)
  | .parameters, c => do
    let (v, c) ← lift (value depth c)
    return (decodeParameters (fun s => (read s).toOption) v, c)

/-! ## Records written as objects -/

/-- Reads the member with a key, after the key, into the slot of the field of that name; what no
field is named after is passed over. -/
def readMember (depth : Nat) (key : String) :
    (fields : List Field) → Slots fields → Cursor → Except Refusal (Slots fields × Cursor)
  | [], (), c => do
    let c ← lift (colon c)
    let c ← lift (pass c)
    return ((), c)
  | f :: fs, (slot, rest), c => do
    if f.name = key then
      if slot.isSome then throw (.content (.repeatedField f.name) c)
      else
        let c ← lift (colon c)
        let (v, c) ← readKind depth f.kind c
        return ((some v, rest), c)
    else
      let (rest, c) ← readMember depth key fs rest c
      return ((slot, rest), c)

/-- Reads the members of a record, the key of the first of which is next, up to the brace. -/
def readMembers (depth : Nat) (fields : List Field) :
    Nat → Slots fields → Cursor → Except Refusal (Slots fields × Cursor)
  | 0, _, c => .error (.text (c.lookFault .endInObject))
  | fuel + 1, slots, c => do
    let (key, c) ← lift (stringAfterQuote c)
    let (slots, c) ← readMember depth key fields slots c
    let c := c.skipSpace
    match c.rest with
    | '\x7d' :: _ => return (slots, c)
    | ',' :: _ =>
      let c := (c.skip 1).skipSpace
      match c.rest with
      | '"' :: _ => readMembers depth fields fuel slots c
      | '\x7d' :: _ => throw (.text (c.lookFault .trailingComma))
      | [] => throw (.text (c.lookFault .endInValue))
      | _ => throw (.text (c.lookFault .keyExpected))
    | [] => throw (.text (c.lookFault .endInObject))
    | _ => throw (.text (c.lookFault .objectGoesOn))

/-- Reads an object up to its brace, after the opening one. -/
def readObject (depth : Nat) (fields : List Field) (c : Cursor) :
    Except Refusal (Values fields × Cursor) := do
  let c := c.skipSpace
  let (slots, c) ← match c.rest with
    | [] => throw (.text (c.lookFault .endInObject))
    | '\x7d' :: _ => pure (Slots.none fields, c)
    | '"' :: _ => readMembers depth fields c.rest.length (Slots.none fields) c
    | _ => throw (.text (c.lookFault .keyExpected))
  match Slots.complete fields slots with
  | .ok vs => return (vs, c)
  | .error cause => throw (.content cause c)

/-- Goes to the end of an object: where reading stands after the brace was tried for. -/
def closeObject (c : Cursor) : Cursor × Option Fault :=
  let c := c.skipSpace
  match c.rest with
  | '\x7d' :: _ => (c.skip 1, none)
  | ',' :: _ => (c, some (c.lookFault .trailingComma))
  | [] => (c, some (c.lookFault .endInObject))
  | _ => (c, some (c.lookFault .trailingCharacters))

/-! ## Records written as sequences -/

/-- Reads the values of the fields from the elements of a sequence. `first` says that no element
has been read; a field without an element has its fallback. -/
def readElements (depth : Nat) (title : String) :
    (fields : List Field) → (index : Nat) → (first : Bool) → Cursor →
      Except Refusal (Values fields × Cursor)
  | [], _, _, c => .ok ((), c)
  | f :: fs, index, first, c => do
    let c := c.skipSpace
    match c.rest with
    | [] => throw (.text (c.lookFault .endInList))
    | ']' :: _ =>
      match f.fallback with
      | some v =>
        let (vs, c) ← readElements depth title fs (index + 1) first c
        return ((v, vs), c)
      | none => throw (.content (.wrongLength index title) c)
    | ch :: _ =>
      let c ← if first then pure c
        else if ch == ',' then
          let c := (c.skip 1).skipSpace
          match c.rest with
          | ']' :: _ => throw (.text (c.lookFault .trailingComma))
          | [] => throw (.text (c.lookFault .endInValue))
          | _ => pure c
        else throw (.text (c.lookFault .listGoesOn))
      let (v, c) ← readKind depth f.kind c
      let (vs, c) ← readElements depth title fs (index + 1) false c
      return ((v, vs), c)

/-- Goes to the end of a sequence: where reading stands after the bracket was tried for. -/
def closeSequence (c : Cursor) : Cursor × Option Fault :=
  let c := c.skipSpace
  match c.rest with
  | ']' :: _ => (c.skip 1, none)
  | ',' :: _ =>
    let c := (c.skip 1).skipSpace
    match c.rest with
    | ']' :: _ => (c, some (c.lookFault .trailingComma))
    | _ => (c, some (c.lookFault .trailingCharacters))
  | [] => (c, some (c.lookFault .endInList))
  | _ => (c, some (c.lookFault .trailingCharacters))

/-! ## Whole records -/

/-- The words in front of ` at line N column M`, and N and M, where a message ends so and both
are decimal numbers of 64 bits. -/
def ownPlace? (message : String) : Option (String × Nat × Nat) := do
  let mark := " at line ".toList
  let cs := message.toList
  let starts := (List.range (cs.length + 1)).filter fun i => mark.isPrefixOf (cs.drop i)
  let start ← starts.getLast?
  let rest := cs.drop (start + mark.length)
  let line := rest.takeWhile Char.isDigit
  let rest := rest.dropWhile Char.isDigit
  let middle := " column ".toList
  let column := rest.drop middle.length
  if !middle.isPrefixOf rest || !column.all Char.isDigit || line.isEmpty || column.isEmpty then none
  else
    let l := Decimal.digitsValue line
    let m := Decimal.digitsValue column
    if maxSignificand < l || maxSignificand < m then none
    else some (String.ofList (cs.take start), l, m)

/-- The fault of a record that is at fault, reported at an offset; a timestamp whose text ends
with a place of its own is reported there. -/
def contentFault (cause : Cause) (offset : Nat) : Fault :=
  match cause with
  | .notATimestamp _ =>
    match ownPlace? cause.message with
    | some (words, line, column) =>
      if line = 0 then .at (.worded words) offset
      else ⟨.worded words, .lineColumn line column⟩
    | none => .at cause offset
  | _ => .at cause offset

/-- Ends a record: after a success the closing bracket must follow; a fault of the record is
given its place. -/
def settle {α : Type} (close : Cursor → Cursor × Option Fault) :
    Except Refusal (α × Cursor) → Except Fault (α × Cursor)
  | .ok (v, c) =>
    match close c with
    | (after, none) => .ok (v, after)
    | (_, some f) => .error f
  | .error (.text f) => .error f
  | .error (.content cause c) => .error (contentFault cause (close c).1.offset)

/-- Reads a record with at most so many levels of nesting, its own included. -/
def readRecord (shape : Shape) : Nat → Reader (Values shape.fields)
  | depth, c =>
    let c := c.skipSpace
    match c.rest, depth with
    | [], _ => .error (c.lookFault .endInValue)
    | '[' :: _, 0 => .error (c.lookFault .tooDeep)
    | '\x7b' :: _, 0 => .error (c.lookFault .tooDeep)
    | '[' :: _, depth + 1 =>
      settle closeSequence
        (readElements depth shape.expectedLength shape.fields 0 true (c.skip 1))
    | '\x7b' :: _, depth + 1 =>
      settle closeObject (readObject depth shape.fields (c.skip 1))
    | _, _ => .error (wrongKind shape.expected c)

/-- Reads the records of a list, the first of which is next, up to the bracket. -/
def readItems (shape : Shape) (depth : Nat) : Nat → Reader (List (Values shape.fields))
  | 0, c => .error (c.lookFault .endInList)
  | fuel + 1, c => do
    let (v, c) ← readRecord shape depth c
    let c := c.skipSpace
    match c.rest with
    | ']' :: _ => return ([v], c.skip 1)
    | ',' :: _ =>
      let c := (c.skip 1).skipSpace
      match c.rest with
      | ']' :: _ => throw (c.lookFault .trailingComma)
      | [] => throw (c.lookFault .endInValue)
      | _ =>
        let (vs, c) ← readItems shape depth fuel c
        return (v :: vs, c)
    | [] => throw (c.lookFault .endInList)
    | _ => throw (c.lookFault .listGoesOn)

/-- Reads a list of records. -/
def readList (shape : Shape) : Reader (List (Values shape.fields)) := fun c =>
  let c := c.skipSpace
  match c.rest with
  | [] => .error (c.lookFault .endInValue)
  | '[' :: _ =>
    let inside := (c.skip 1).skipSpace
    match inside.rest with
    | [] => .error (inside.lookFault .endInList)
    | ']' :: _ => .ok ([], inside.skip 1)
    | _ => readItems shape (maxDepth - 1) inside.rest.length inside
  | _ => .error (wrongKind "a sequence" c)

/-- Reads one record. -/
def readOne (shape : Shape) : Reader (Values shape.fields) := readRecord shape maxDepth

end FaultConsole.Json.Record
