import FaultConsole.Json.Cursor

/-!
# Reading JSON values

`Json.read` reads a whole text as one value. A value is read in two ways: kept, as a `Json`, to
a limited depth of nesting; or passed over, to any depth, where only its form is checked. What
is passed over are the members of a record that nobody asked for.
-/

namespace FaultConsole.Json

/-- How deep a kept value may be nested. -/
def maxDepth : Nat := 127

/-! ## Kept values -/

/-- Reads the elements of a list, the first of which is next, up to the bracket. The fuel is at
least the number of characters left. -/
def elements (element : Reader Json) : Nat → Reader (List Json)
  | 0, c => .error (c.lookFault .endInList)
  | fuel + 1, c => do
    let (v, c) ← element c
    let c := c.skipSpace
    match c.rest with
    | ']' :: _ => return ([v], c.skip 1)
    | ',' :: _ =>
      let c := (c.skip 1).skipSpace
      match c.rest with
      | ']' :: _ => throw (c.lookFault .trailingComma)
      | [] => throw (c.lookFault .endInValue)
      | _ =>
        let (vs, c) ← elements element fuel c
        return (v :: vs, c)
    | [] => throw (c.lookFault .endInList)
    | _ => throw (c.lookFault .listGoesOn)

/-- Reads the colon between a key and its value. -/
def colon (c : Cursor) : Except Fault Cursor :=
  let c := c.skipSpace
  match c.rest with
  | ':' :: _ => .ok (c.skip 1)
  | [] => .error (c.lookFault .endInObject)
  | _ => .error (c.lookFault .colonExpected)

/-- Reads the members of an object, the key of the first of which is next, up to the brace. -/
def members (value : Reader Json) : Nat → Reader (List Member)
  | 0, c => .error (c.lookFault .endInObject)
  | fuel + 1, c => do
    let (k, c) ← stringAfterQuote c
    let c ← colon c
    let (v, c) ← value c
    let c := c.skipSpace
    match c.rest with
    | '\x7d' :: _ => return ([(k, v)], c.skip 1)
    | ',' :: _ =>
      let c := (c.skip 1).skipSpace
      match c.rest with
      | '"' :: _ =>
        let (ms, c) ← members value fuel c
        return ((k, v) :: ms, c)
      | '\x7d' :: _ => throw (c.lookFault .trailingComma)
      | [] => throw (c.lookFault .endInValue)
      | _ => throw (c.lookFault .keyExpected)
    | [] => throw (c.lookFault .endInObject)
    | _ => throw (c.lookFault .objectGoesOn)

/-- Reads a value whose first character is next and whose parts `inner` reads; `none` for
`inner` says that a list or an object would be too deep. -/
def valueWith (inner : Option (Reader Json)) : Reader Json := fun c =>
  let c := c.skipSpace
  match c.rest with
  | [] => .error (c.lookFault .endInValue)
  | 'n' :: _ => do
    let c ← word "ull".toList (c.skip 1)
    return (.null, c)
  | 't' :: _ => do
    let c ← word "rue".toList (c.skip 1)
    return (.bool true, c)
  | 'f' :: _ => do
    let c ← word "alse".toList (c.skip 1)
    return (.bool false, c)
  | '"' :: _ => do
    let (s, c) ← stringAfterQuote c
    return (.string s, c)
  | '[' :: _ =>
    match inner with
    | none => .error (c.lookFault .tooDeep)
    | some element =>
      let inside := (c.skip 1).skipSpace
      match inside.rest with
      | [] => .error (inside.lookFault .endInList)
      | ']' :: _ => .ok (.array [], inside.skip 1)
      | _ => do
        let (vs, c) ← elements element inside.rest.length inside
        return (.array vs, c)
  | '\x7b' :: _ =>
    match inner with
    | none => .error (c.lookFault .tooDeep)
    | some value =>
      let inside := (c.skip 1).skipSpace
      match inside.rest with
      | [] => .error (inside.lookFault .endInObject)
      | '\x7d' :: _ => .ok (.object [], inside.skip 1)
      | '"' :: _ => do
        let (ms, c) ← members value inside.rest.length inside
        return (ofMembers ms, c)
      | _ => .error (inside.lookFault .keyExpected)
  | ch :: _ =>
    if ch == '-' || ch.isDigit then do
      let (n, c) ← number c
      return (n.toJson, c)
    else .error (c.lookFault .valueExpected)

/-- Reads a value with at most so many levels of lists and objects. -/
def value : Nat → Reader Json
  | 0 => valueWith none
  | depth + 1 => valueWith (some (value depth))

/-- Accepts the end of the text, after space. -/
def ending (c : Cursor) : Except Fault Unit :=
  let c := c.skipSpace
  if c.rest.isEmpty then .ok () else .error (c.lookFault .trailingCharacters)

/-- Reads a whole text with a reader. -/
def readWith {α : Type} (reader : Reader α) (source : String) : Except Fault α := do
  let (v, c) ← reader (Cursor.start source)
  ending c
  return v

/-- Reads a whole text as one value. -/
def read (source : String) : Except Fault Json := readWith (value maxDepth) source

/-! ## Values that are passed over -/

/-- What surrounds the point reached in a value that is passed over. -/
inductive Bracket where
  | list
  | object
deriving Repr, DecidableEq

/-- The fault of a text that ends inside a bracket. -/
def Bracket.endCause : Bracket → Cause
  | .list => .endInList
  | .object => .endInObject

/-- The fault of a text that neither goes on nor closes a bracket. -/
def Bracket.goesOnCause : Bracket → Cause
  | .list => .listGoesOn
  | .object => .objectGoesOn

/-- Passes over a number after its sign. -/
def passNumber (c : Cursor) : Except Fault Cursor :=
  let whole := c.rest.takeWhile Char.isDigit
  match c.rest with
  | [] => .error (c.fault .invalidNumber)
  | first :: _ =>
    if !first.isDigit then .error (.at .invalidNumber (c.offset + 1))
    else if first == '0' && 1 < whole.length then .error (.at .invalidNumber (c.offset + 2))
    else fraction (c.skip whole.length)
where
  /-- Passes over a fraction and an exponent. -/
  fraction (c : Cursor) : Except Fault Cursor :=
    match c.rest with
    | '.' :: _ =>
      let afterPoint := c.skip 1
      let digits := afterPoint.rest.takeWhile Char.isDigit
      if digits.isEmpty then .error (afterPoint.lookFault .invalidNumber)
      else exponent (afterPoint.skip digits.length)
    | _ => exponent c
  /-- Passes over an exponent. -/
  exponent (c : Cursor) : Except Fault Cursor :=
    match c.rest with
    | 'e' :: _ | 'E' :: _ =>
      let afterE := c.skip 1
      let start := match afterE.rest with
        | '+' :: _ | '-' :: _ => afterE.skip 1
        | _ => afterE
      let digits := start.rest.takeWhile Char.isDigit
      if digits.isEmpty then
        .error (.at .invalidNumber (if start.rest.isEmpty then start.offset else start.offset + 1))
      else .ok (start.skip digits.length)
    | _ => .ok c

/-- Passes over a string whose opening quote is next. -/
def passString (c : Cursor) : Except Fault Cursor := do
  let (_, after) ← stringChars .passedOver (c.rest.drop 1) (c.offset + 1)
  return after

/-- Passes over one value that is no list or object, or enters one. -/
def passStart (c : Cursor) : Except Fault (Option Bracket × Cursor) :=
  let c := c.skipSpace
  match c.rest with
  | [] => .error (c.lookFault .endInValue)
  | 'n' :: _ => (none, ·) <$> word "ull".toList (c.skip 1)
  | 't' :: _ => (none, ·) <$> word "rue".toList (c.skip 1)
  | 'f' :: _ => (none, ·) <$> word "alse".toList (c.skip 1)
  | '-' :: _ => (none, ·) <$> passNumber (c.skip 1)
  | '"' :: _ => (none, ·) <$> passString c
  | '[' :: _ => .ok (some .list, c.skip 1)
  | '\x7b' :: _ => .ok (some .object, c.skip 1)
  | ch :: _ =>
    if ch.isDigit then (none, ·) <$> passNumber c else .error (c.lookFault .valueExpected)

/-- Closes brackets as long as the text does. Gives the brackets still open, or none left; what
is open goes on with another element. -/
def passClosings (afterValue : Bool) : List Bracket → Cursor → Nat →
    Except Fault (List Bracket × Cursor)
  | [], c, _ => .ok ([], c)
  | _ :: _, c, 0 => .error (c.lookFault .endInValue)
  | b :: outer, c, fuel + 1 =>
    let c := c.skipSpace
    match c.rest, b with
    | [], b => .error (c.lookFault b.endCause)
    | ']' :: _, .list => passClosings true outer (c.skip 1) fuel
    | '\x7d' :: _, .object => passClosings true outer (c.skip 1) fuel
    | ch :: _, b =>
      if afterValue then
        if ch == ',' then .ok (b :: outer, c.skip 1) else .error (c.lookFault b.goesOnCause)
      else .ok (b :: outer, c)

/-- Passes over the key and the colon that an element of an object starts with. -/
def passKey : Bracket → Cursor → Except Fault Cursor
  | .list, c => .ok c
  | .object, c =>
    let c := c.skipSpace
    match c.rest with
    | '"' :: _ => do colon (← passString c)
    | [] => .error (c.lookFault .endInObject)
    | _ => .error (c.lookFault .keyExpected)

/-- Passes over values until the brackets given are closed. The fuel is at least the number of
characters left. -/
def passWithin : Nat → List Bracket → Cursor → Except Fault Cursor
  | 0, _, c => .error (c.lookFault .endInValue)
  | fuel + 1, stack, c => do
    let (entered, c) ← passStart c
    let (stack, c) ← match entered with
      | some b => passClosings false (b :: stack) c (c.rest.length + 1)
      | none => passClosings true stack c (c.rest.length + 1)
    match stack with
    | [] => return c
    | b :: _ => passWithin fuel stack (← passKey b c)

/-- Passes over one value. -/
def pass (c : Cursor) : Except Fault Cursor := passWithin (c.rest.length + 1) [] c

end FaultConsole.Json
