import FaultConsole.Decimal.Digits
import FaultConsole.Text.Blank
import FaultConsole.Time.Instant

/-!
# Reading timestamps

A timestamp is accepted in three forms, tried in this order:

* a full date and time with a zone, in fixed widths;
* a date and time without a zone, which is taken as UTC;
* a bare date, which is midnight UTC.

In the two forms without a zone every number may have blanks before it and fewer digits than
usual, and the year may carry a sign and then any number of digits.
-/

namespace FaultConsole.Time

open Decimal (digitsValue)

/-- The years that can be represented. -/
def yearInRange (year : Int) : Bool := -262143 ≤ year && year ≤ 262142

/-- Exactly so many digits at the front. -/
def exactDigits? (width : Nat) (cs : List Char) : Option (Nat × List Char) :=
  let front := cs.take width
  if front.length = width ∧ front.all Char.isDigit then some (digitsValue front, cs.drop width)
  else none

/-- A given character at the front. -/
def expectChar? (ch : Char) : List Char → Option (List Char)
  | [] => none
  | c :: rest => if c = ch then some rest else none

/-- A fraction of a second as nanoseconds: digits after the ninth are dropped. -/
def nanosOf (digits : List Char) : Nat :=
  digitsValue (digits.take 9) * Nat.pow 10 (9 - (digits.take 9).length)

/-- An optional fraction of a second: if there is a point, at least one digit follows. -/
def fraction? : List Char → Option (Nat × List Char)
  | '.' :: rest =>
    let digits := rest.takeWhile Char.isDigit
    if digits.isEmpty then none else some (nanosOf digits, rest.dropWhile Char.isDigit)
  | cs => some (0, cs)

/-- Hour, minute and second within a day; 60 is a leap second. -/
def validTime (hour minute second : Nat) : Bool := hour ≤ 23 && minute ≤ 59 && second ≤ 60

/-! ## With a zone -/

/-- A zone as seconds east of UTC: `Z`, or a sign, hours and minutes below a day. -/
def zone? (cs : List Char) : Option Int :=
  match cs with
  | ['Z'] | ['z'] => some 0
  | sign :: rest => do
    let negative ← if sign == '+' then some false
      else if sign == '-' || sign == '\u2212' then some true else none
    let (hours, rest) ← exactDigits? 2 rest
    let rest ← expectChar? ':' rest
    let (minutes, rest) ← exactDigits? 2 rest
    if !rest.isEmpty || 59 < minutes || 23 < hours then none
    else
      let s : Int := hours * 3600 + minutes * 60
      some (if negative then -s else s)
  | [] => none

/-- A date and time with a zone. -/
def zoned? (cs : List Char) : Option Instant := do
  let (year, cs) ← exactDigits? 4 cs
  let cs ← expectChar? '-' cs
  let (month, cs) ← exactDigits? 2 cs
  let cs ← expectChar? '-' cs
  let (day, cs) ← exactDigits? 2 cs
  let cs ← match cs with
    | c :: rest => if c == 'T' || c == 't' || c == ' ' then some rest else none
    | [] => none
  let (hour, cs) ← exactDigits? 2 cs
  let cs ← expectChar? ':' cs
  let (minute, cs) ← exactDigits? 2 cs
  let cs ← expectChar? ':' cs
  let (second, cs) ← exactDigits? 2 cs
  let (nanos, cs) ← fraction? cs
  let offset ← zone? cs
  let date : Date := ⟨year, month, day⟩
  if date.isValid && validTime hour minute second then
    some ((Instant.ofCivil date hour minute second nanos).earlier offset)
  else none

/-! ## Without a zone -/

/-- At most so many digits, at least one, after any blanks. -/
def looseDigits? (width : Nat) (cs : List Char) : Option (Nat × List Char) :=
  let cs := cs.dropWhile Text.isBlank
  let digits := (cs.take width).takeWhile Char.isDigit
  if digits.isEmpty then none else some (digitsValue digits, cs.drop digits.length)

/-- A year: a sign and any number of digits, or at most four digits, after any blanks. -/
def looseYear? (cs : List Char) : Option (Int × List Char) :=
  let cs := cs.dropWhile Text.isBlank
  match cs with
  | '+' :: rest => signed rest false
  | '-' :: rest => signed rest true
  | _ => (looseDigits? 4 cs).map fun (n, rest) => ((n : Int), rest)
where
  /-- The digits after a sign. -/
  signed (rest : List Char) (negative : Bool) : Option (Int × List Char) :=
    let digits := rest.takeWhile Char.isDigit
    if digits.isEmpty then none
    else
      let n : Int := digitsValue digits
      some (if negative then -n else n, rest.dropWhile Char.isDigit)

/-- A date at the front. -/
def looseDate? (cs : List Char) : Option (Date × List Char) := do
  let (year, cs) ← looseYear? cs
  let cs ← expectChar? '-' cs
  let (month, cs) ← looseDigits? 2 cs
  let cs ← expectChar? '-' cs
  let (day, cs) ← looseDigits? 2 cs
  let date : Date := ⟨year, month, day⟩
  if yearInRange year && date.isValid then some (date, cs) else none

/-- A date and time without a zone. -/
def unzoned? (cs : List Char) : Option Instant := do
  let (date, cs) ← looseDate? cs
  let cs ← expectChar? 'T' cs
  let (hour, cs) ← looseDigits? 2 cs
  let cs ← expectChar? ':' cs
  let (minute, cs) ← looseDigits? 2 cs
  let cs ← expectChar? ':' cs
  let (second, cs) ← looseDigits? 2 cs
  let (nanos, cs) ← fraction? cs
  if cs.isEmpty && validTime hour minute second then
    some (Instant.ofCivil date hour minute second nanos)
  else none

/-- A bare date. -/
def bareDate? (cs : List Char) : Option Instant := do
  let (date, cs) ← looseDate? cs
  if cs.isEmpty then some (Instant.ofCivil date 0 0 0 0) else none

/-- The instant a timestamp denotes. -/
def Instant.parse? (s : String) : Option Instant :=
  let cs := s.toList
  zoned? cs <|> unzoned? cs <|> bareDate? cs

end FaultConsole.Time
