import FaultConsole.Decimal.Shortest
import FaultConsole.Decimal.Digits
import FaultConsole.Text.Quoted
import FaultConsole.Yaml.Event

/-!
# What plain scalars mean

A plain scalar is nothing, a truth value, a number or a string, by its spelling. Integers are
decimal, or hexadecimal, octal or binary with the prefixes `0x`, `0o`, `0b`; digits with a
leading zero are a string.
-/

namespace FaultConsole.Yaml

/-- What a scalar means. -/
inductive Meaning where
  | nothing
  | truth (value : Bool)
  /-- An integer of 64 bits. -/
  | integer (value : Int)
  /-- An integer of more than 64 and at most 128 bits. -/
  | wideInteger (value : Int)
  | float (bits : UInt64)
  | infinity (negative : Bool)
  | notANumber
  | string (text : String)
deriving Repr, DecidableEq

/-- Doubles in messages are written without an exponent. -/
def plainLayout : Decimal.Layout := ⟨-1000, 1000, false⟩

/-- An integer in decimal. -/
def integerText (n : Int) : String :=
  (if n < 0 then "-" else "") ++ toString n.natAbs

/-- How a message names what a scalar means. -/
def Meaning.describe : Meaning → String
  | .nothing => "unit value"
  | .truth true => "boolean `true`"
  | .truth false => "boolean `false`"
  | .integer n => "integer `" ++ integerText n ++ "`"
  | .wideInteger n =>
    "integer `" ++ integerText n ++ "` as " ++ (if n < 0 then "i128" else "u128")
  | .float bits => "floating point `" ++ String.ofList (plainLayout.write bits) ++ "`"
  | .infinity false => "floating point `inf`"
  | .infinity true => "floating point `-inf`"
  | .notANumber => "floating point `NaN`"
  | .string s => "string " ++ Text.quoted s

/-! ## Spellings -/

/-- The spellings of nothing. -/
def isNothing (s : String) : Bool := s == "null" || s == "Null" || s == "NULL" || s == "~"

/-- The truth value of a spelling. -/
def truth? (s : String) : Option Bool :=
  if s == "true" || s == "True" || s == "TRUE" then some true
  else if s == "false" || s == "False" || s == "FALSE" then some false
  else none

/-- The value of a digit in a base up to sixteen. -/
def digitIn? (base : Nat) (c : Char) : Option Nat :=
  let n := c.toNat
  let v := if 48 ≤ n ∧ n ≤ 57 then some (n - 48)
    else if 65 ≤ n ∧ n ≤ 70 then some (n - 55)
    else if 97 ≤ n ∧ n ≤ 102 then some (n - 87)
    else none
  v.filter (· < base)

/-- The value of at least one digit in a base. -/
def naturalIn? (base : Nat) (cs : List Char) : Option Nat :=
  if cs.isEmpty then none
  else cs.foldlM (fun n c => (digitIn? base c).map (n * base + ·)) 0

/-- A list of characters without a plus sign in front. -/
def withoutPlus : List Char → List Char
  | '+' :: rest => rest
  | cs => cs

/-- Whether digits have a leading zero, after any sign. -/
def hasLeadingZero (cs : List Char) : Bool :=
  let digits := match cs with
    | '+' :: rest => rest
    | '-' :: rest => rest
    | cs => cs
  1 < digits.length && digits.head? == some '0' && digits.all Char.isDigit

/-- Digits after a base prefix, where there is one. -/
def basedDigits? : List Char → Option (Nat × List Char)
  | '0' :: 'x' :: rest => some (16, rest)
  | '0' :: 'o' :: rest => some (8, rest)
  | '0' :: 'b' :: rest => some (2, rest)
  | _ => none

/-- A natural number below a limit. -/
def natural? (limit : Nat) (s : String) : Option Nat :=
  let cs := withoutPlus s.toList
  let based := (basedDigits? cs).bind fun (base, digits) =>
    (naturalIn? base digits).filter (· < limit)
  match based with
  | some n => some n
  | none =>
    if hasLeadingZero s.toList then none
    else (naturalIn? 10 cs).filter (· < limit)

/-- A negative integer down to a limit, as a positive number. -/
def negative? (limit : Nat) (s : String) : Option Nat :=
  match s.toList with
  | '-' :: cs =>
    let based := (basedDigits? cs).bind fun (base, digits) =>
      (naturalIn? base digits).filter (· ≤ limit)
    match based with
    | some n => some n
    | none =>
      if hasLeadingZero cs then none else (naturalIn? 10 cs).filter (· ≤ limit)
  | _ => none

/-- An integer of at most 128 bits. -/
def integer? (s : String) : Option Meaning :=
  (natural? (Nat.pow 2 64) s).map (fun n => Meaning.integer n)
    <|> (negative? (Nat.pow 2 63) s).map (fun n => Meaning.integer (-(n : Int)))
    <|> (natural? (Nat.pow 2 128) s).map (fun n => Meaning.wideInteger n)
    <|> (negative? (Nat.pow 2 127) s).map (fun n => Meaning.wideInteger (-(n : Int)))

/-- The double nearest to a decimal: digits and the exponent of the last of them. -/
def nearest? (digits : Nat) (exponent : Int) : Option UInt64 :=
  let size : Int := (Nat.toDigits 10 digits).length
  if digits = 0 then some 0
  else if 400 < exponent + size then none
  else if exponent + size < -400 then some 0
  else if 0 ≤ exponent then Decimal.Binary64.ofQuotient? (digits * Nat.pow 10 exponent.toNat) 1
  else Decimal.Binary64.ofQuotient? digits (Nat.pow 10 (-exponent).toNat)

/-- A finite decimal number with an optional sign, point and exponent. -/
def decimal? (cs : List Char) : Option UInt64 :=
  let (negative, cs) := match cs with
    | '-' :: rest => (true, rest)
    | '+' :: rest => (false, rest)
    | cs => (false, cs)
  let whole := cs.takeWhile Char.isDigit
  let rest := cs.dropWhile Char.isDigit
  let (places, rest) := match rest with
    | '.' :: rest => (rest.takeWhile Char.isDigit, rest.dropWhile Char.isDigit)
    | rest => ([], rest)
  if whole.isEmpty && places.isEmpty then none
  else do
    let exponent ← exponent? rest
    let bits ← nearest? (Decimal.digitsValue (whole ++ places)) (exponent - places.length)
    some (if negative then Decimal.Binary64.negate bits else bits)
where
  /-- The value of an exponent, zero if there is none. -/
  exponent? : List Char → Option Int
    | [] => some 0
    | e :: rest =>
      if e == 'e' || e == 'E' then
        let (negative, digits) := match rest with
          | '-' :: digits => (true, digits)
          | '+' :: digits => (false, digits)
          | digits => (false, digits)
        (naturalIn? 10 digits).map fun n => if negative then -(n : Int) else n
      else none

/-- A number with a fraction, an exponent, or no finite value. -/
def float? (s : String) : Option Meaning :=
  let cs := s.toList
  let (signed, cs') := match cs with
    | '+' :: rest => (true, rest)
    | cs => (false, cs)
  let positive := String.ofList cs'
  if signed && (cs'.head? == some '+' || cs'.head? == some '-') then none
  else if positive == ".inf" || positive == ".Inf" || positive == ".INF" then some (.infinity false)
  else if s == "-.inf" || s == "-.Inf" || s == "-.INF" then some (.infinity true)
  else if s == ".nan" || s == ".NaN" || s == ".NAN" then some .notANumber
  else (decimal? cs').map .float

/-- What an untagged plain scalar means. -/
def plainMeaning (s : String) : Meaning :=
  if s.isEmpty || isNothing s then .nothing
  else match truth? s with
    | some b => .truth b
    | none =>
      match integer? s with
      | some m => m
      | none =>
        if hasLeadingZero s.toList then .string s else (float? s).getD (.string s)

/-! ## Tags -/

/-- A scalar that its tag does not fit. -/
structure Misfit where
  text : String
  expected : String

/-- The tag of the core schema with a name. -/
def coreTag (name : String) : String := "tag:yaml.org,2002:" ++ name

/-- Whether a tag is a local one, which says nothing about the spelling. -/
def isLocalTag (tag : String) : Bool := tag.toList.head? == some '!'

/-- What a scalar means: by its tag if it has one of the core schema, else by its spelling if it
is plain. With any other global tag it is a string. -/
def Scalar.meaning (s : Scalar) : Except Misfit Meaning :=
  let fit (m : Option Meaning) (expected : String) : Except Misfit Meaning :=
    match m with
    | some m => .ok m
    | none => .error ⟨s.text, expected⟩
  match s.tag with
  | some tag =>
    if tag == coreTag "bool" then fit ((truth? s.text).map .truth) "a boolean"
    else if tag == coreTag "int" then fit (integer? s.text) "an integer"
    else if tag == coreTag "float" then fit (float? s.text) "a float"
    else if tag == coreTag "null" then
      fit (if isNothing s.text then some .nothing else none) "null"
    else if isLocalTag tag && s.style = .plain then .ok (plainMeaning s.text)
    else .ok (.string s.text)
  | none => .ok (if s.style = .plain then plainMeaning s.text else .string s.text)

end FaultConsole.Yaml
