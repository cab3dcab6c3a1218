import FaultConsole.Decimal.Digits
import FaultConsole.Json.Fault

/-!
# Reading a JSON text from left to right

A cursor is what is left of the text and the number of octets behind it. A reader takes a
cursor and gives a result with the cursor after it, or the first fault.

Two places matter when a fault is found: the point that was reached, and the point just behind
the next octet, for a reader that has only looked at it.
-/

namespace FaultConsole.Json

open Decimal (digitValue digitsValue)

/-- A point in a text. -/
structure Cursor where
  rest : List Char
  offset : Nat
deriving Repr, DecidableEq

/-- Reads something at a point of a text. -/
abbrev Reader (α : Type) := Cursor → Except Fault (α × Cursor)

namespace Cursor

/-- The start of a text. -/
def start (source : String) : Cursor := ⟨source.toList, 0⟩

/-- The number of octets of some characters. -/
def octets (cs : List Char) : Nat := cs.foldl (fun n c => n + c.utf8Size) 0

/-- The point after some ASCII characters. -/
def skip (n : Nat) (c : Cursor) : Cursor := ⟨c.rest.drop n, c.offset + n⟩

/-- The four characters that may stand between tokens. -/
def isSpace (c : Char) : Bool := c == ' ' || c == '\n' || c == '\t' || c == '\r'

/-- The point after any space. -/
def skipSpace (c : Cursor) : Cursor :=
  ⟨c.rest.dropWhile isSpace, c.offset + (c.rest.takeWhile isSpace).length⟩

/-- A fault at the point reached. -/
def fault (c : Cursor) (cause : Cause) : Fault := .at cause c.offset

/-- The offset just behind the next octet, or the end. -/
def lookOffset (c : Cursor) : Nat := if c.rest.isEmpty then c.offset else c.offset + 1

/-- A fault at the octet looked at. -/
def lookFault (c : Cursor) (cause : Cause) : Fault := .at cause c.lookOffset

end Cursor

/-! ## Words -/

/-- Reads the rest of `null`, `true` or `false`. -/
def word (cs : List Char) (c : Cursor) : Except Fault Cursor :=
  match cs with
  | [] => .ok c
  | expected :: more =>
    match c.rest with
    | [] => .error (c.fault .endInValue)
    | found :: rest =>
      if found = expected then word more ⟨rest, c.offset + 1⟩
      else .error (.at .wordExpected (c.offset + 1))

/-! ## Strings -/

/-- How strictly a string is read: a string that is kept must pair its surrogates; one that is
only passed over need not. -/
inductive StringUse where
  | kept
  | passedOver
deriving Repr, DecidableEq

/-- The value of four hexadecimal digits. -/
def fourHex? (a b c d : Char) : Option Nat := do
  let w ← digit? a
  let x ← digit? b
  let y ← digit? c
  let z ← digit? d
  return ((w * 16 + x) * 16 + y) * 16 + z
where
  /-- The value of one hexadecimal digit of either case. -/
  digit? (c : Char) : Option Nat :=
    let n := c.toNat
    if 48 ≤ n ∧ n ≤ 57 then some (n - 48)
    else if 65 ≤ n ∧ n ≤ 70 then some (n - 55)
    else if 97 ≤ n ∧ n ≤ 102 then some (n - 87)
    else none

/-- The fault of a `\u` that four digits do not follow: the text ends before four octets, or
some of them is no digit. -/
def hexFault (rest : List Char) (offset : Nat) : Fault :=
  let left := Cursor.octets (rest.take 4)
  if left < 4 then .at .endInString (offset + left) else .at .invalidEscape (offset + 4)

/-- The character that a one-letter escape stands for. -/
def simpleEscape? : Char → Option Char
  | '"' => some '"'
  | '\\' => some '\\'
  | '/' => some '/'
  | 'b' => some '\x08'
  | 'f' => some '\x0c'
  | 'n' => some '\n'
  | 'r' => some '\r'
  | 't' => some '\t'
  | _ => none

/-- The first half of a surrogate pair. -/
def isHighSurrogate (n : Nat) : Bool := 0xD800 ≤ n && n ≤ 0xDBFF

/-- The second half of a surrogate pair. -/
def isLowSurrogate (n : Nat) : Bool := 0xDC00 ≤ n && n ≤ 0xDFFF

/-- The character of a surrogate pair. -/
def pairedChar (high low : Nat) : Char :=
  Char.ofNat ((high - 0xD800) * 0x400 + (low - 0xDC00) + 0x10000)

/-- Puts a character in front of what was read after it. -/
def prepend (ch : Char) :
    Except Fault (List Char × Cursor) → Except Fault (List Char × Cursor)
  | .ok (cs, c) => .ok (ch :: cs, c)
  | .error f => .error f

/-- Reads the characters of a string up to the closing quote. -/
def stringChars (use : StringUse) : List Char → Nat → Except Fault (List Char × Cursor)
  | [], offset => .error (.at .endInString offset)
  | '"' :: rest, offset => .ok ([], ⟨rest, offset + 1⟩)
  | '\\' :: [], offset => .error (.at .endInString (offset + 1))
  | '\\' :: 'u' :: a :: b :: c :: d :: rest, offset =>
    match fourHex? a b c d with
    | none => .error (hexFault (a :: b :: c :: d :: rest) (offset + 2))
    | some high =>
      if use = .passedOver then
        prepend 'u' (stringChars use rest (offset + 6))
      else if isLowSurrogate high then .error (.at .loneSurrogate (offset + 6))
      else if isHighSurrogate high then
        match rest with
        | '\\' :: 'u' :: a' :: b' :: c' :: d' :: rest' =>
          match fourHex? a' b' c' d' with
          | none => .error (hexFault (a' :: b' :: c' :: d' :: rest') (offset + 8))
          | some low =>
            if isLowSurrogate low then
              prepend (pairedChar high low) (stringChars use rest' (offset + 12))
            else .error (.at .loneSurrogate (offset + 12))
        | '\\' :: 'u' :: rest' => .error (hexFault rest' (offset + 8))
        | '\\' :: [] => .error (.at .endInString (offset + 7))
        | '\\' :: _ => .error (.at .surrogateCutOff (offset + 8))
        | [] => .error (.at .endInString (offset + 6))
        | _ => .error (.at .surrogateCutOff (offset + 7))
      else prepend (Char.ofNat high) (stringChars use rest (offset + 6))
  | '\\' :: 'u' :: rest, offset => .error (hexFault rest (offset + 2))
  | '\\' :: e :: rest, offset =>
    match simpleEscape? e with
    | some ch => prepend ch (stringChars use rest (offset + 2))
    | none => .error (.at .invalidEscape (offset + 2))
  | ch :: rest, offset =>
    if ch.toNat < 0x20 then
      .error (.at .controlInString (if use = .kept then offset + 1 else offset))
    else prepend ch (stringChars use rest (offset + ch.utf8Size))

/-- Reads a string whose opening quote is next. -/
def stringAfterQuote (c : Cursor) : Except Fault (String × Cursor) := do
  let (cs, after) ← stringChars .kept (c.rest.drop 1) (c.offset + 1)
  return (String.ofList cs, after)

/-! ## Numbers -/

/-- A number as it was read: an integer of 64 bits, or a double. -/
inductive Number where
  | natural (n : Nat)
  | negative (n : Int)
  | double (bits : UInt64)
deriving Repr, DecidableEq

/-- The greatest significand that is kept exactly. -/
def maxSignificand : Nat := Nat.pow 2 64 - 1

/-- Takes digits into a significand while it stays within 64 bits; gives the significand and
the digits left. -/
def accumulate (significand : Nat) : List Char → Nat × List Char
  | [] => (significand, [])
  | d :: rest =>
    let next := significand * 10 + digitValue d
    if maxSignificand < next then (significand, d :: rest) else accumulate next rest

/-- The greatest exponent that is kept; a larger one is zero or overflow. -/
def maxExponent : Nat := Nat.pow 2 31 - 1

/-- The number of digits of an exponent read before it passes the limit, if it does. -/
def exponentOverflow? (digits : List Char) : Option Nat :=
  go 0 0 digits
where
  /-- Follows the value of the digits so far. -/
  go (value read : Nat) : List Char → Option Nat
    | [] => none
    | d :: rest =>
      let next := value * 10 + digitValue d
      if maxExponent < next then some (read + 1) else go next (read + 1) rest

/-- The double that a sign and bits of a magnitude make. -/
def signed (negative : Bool) (bits : UInt64) : UInt64 :=
  if negative then Decimal.Binary64.negate bits else bits

/-- Reads a number after its sign, if it has one. -/
def numberAfterSign (negative : Bool) : Reader Number := fun c =>
  let whole := c.rest.takeWhile Char.isDigit
  let afterWhole := c.skip whole.length
  match c.rest with
  | [] => .error (c.fault .endInValue)
  | first :: _ =>
    if !first.isDigit then .error (.at .invalidNumber (c.offset + 1))
    else if first == '0' && 1 < whole.length then .error (.at .invalidNumber (c.offset + 2))
    else
      let (significand, dropped) := accumulate 0 whole
      fraction significand dropped.length afterWhole
where
  /-- Reads on after the digits of the whole part: a point, an exponent, or the end. -/
  fraction (significand dropped : Nat) (c : Cursor) : Except Fault (Number × Cursor) :=
    match c.rest with
    | '.' :: _ =>
      let afterPoint := c.skip 1
      let digits := afterPoint.rest.takeWhile Char.isDigit
      if digits.isEmpty then
        .error (afterPoint.lookFault
          (if afterPoint.rest.isEmpty then .endInValue else .invalidNumber))
      else
        let (significand, ignored) := accumulate significand digits
        let places : Int := digits.length - ignored.length
        exponent significand (dropped - places) (afterPoint.skip digits.length)
    | 'e' :: _ | 'E' :: _ => exponent significand dropped c
    | _ =>
      if 0 < dropped then finish significand dropped c
      else if !negative then .ok (.natural significand, c)
      else if significand = 0 ∨ Nat.pow 2 63 < significand then
        .ok (.double (signed true (Decimal.Binary64.ofNat significand)), c)
      else .ok (.negative (-(significand : Int)), c)
  /-- Reads an exponent, if there is one, and scales the significand. -/
  exponent (significand : Nat) (scale : Int) (c : Cursor) : Except Fault (Number × Cursor) :=
    match c.rest with
    | 'e' :: _ | 'E' :: _ =>
      let afterE := c.skip 1
      let (down, start) := match afterE.rest with
        | '+' :: _ => (false, afterE.skip 1)
        | '-' :: _ => (true, afterE.skip 1)
        | _ => (false, afterE)
      let digits := start.rest.takeWhile Char.isDigit
      match start.rest with
      | [] => .error (start.fault .endInValue)
      | _ :: _ =>
        if digits.isEmpty then .error (.at .invalidNumber (start.offset + 1))
        else match exponentOverflow? digits with
          | some read =>
            if significand ≠ 0 ∧ !down then .error (.at .numberOutOfRange (start.offset + read))
            else .ok (.double (signed negative 0), start.skip digits.length)
          | none =>
            let e : Int := digitsValue digits
            finish significand (if down then scale - e else scale + e) (start.skip digits.length)
    | _ => finish significand scale c
  /-- The double for a significand and a power of ten. -/
  finish (significand : Nat) (scale : Int) (c : Cursor) : Except Fault (Number × Cursor) :=
    match Decimal.Binary64.scale? significand scale with
    | some bits => .ok (.double (signed negative bits), c)
    | none => .error (c.fault .numberOutOfRange)

/-- Reads a number whose sign or first digit is next. -/
def number : Reader Number := fun c =>
  match c.rest with
  | '-' :: _ => numberAfterSign true (c.skip 1)
  | _ => numberAfterSign false c

/-- A number as a value. -/
def Number.toJson : Number → Json
  | .natural n => .int n
  | .negative n => .int n
  | .double bits => .float bits

end FaultConsole.Json
