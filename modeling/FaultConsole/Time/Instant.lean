import FaultConsole.Time.Calendar

/-!
# Instants

An instant is a second counted from the start of 1970 in UTC and a number of nanoseconds. A
leap second is the second before it with a thousand million nanoseconds or more, so it comes
after every other instant of that second and before the next one.

Two ways of writing an instant belong here: the full one, which reads back, and the short one
that tables show in the viewer's zone.
-/

namespace FaultConsole.Time

/-- A point in time. -/
structure Instant where
  /-- Seconds from 1970-01-01T00:00:00Z. -/
  seconds : Int
  /-- Nanoseconds of the second; from a thousand million on, those of a leap second. -/
  nanos : Nat
deriving Repr, DecidableEq, Inhabited

/-- A viewer's zone: by how many seconds its clocks are ahead of UTC at an instant. Over the year
that need not be the same. -/
abbrev Zone := Instant → Int

/-- The zone whose clocks show UTC. -/
def Zone.utc : Zone := fun _ => 0

namespace Instant

/-- Earlier or equal. -/
def le (a b : Instant) : Bool :=
  a.seconds < b.seconds || (a.seconds == b.seconds && a.nanos ≤ b.nanos)

/-- The nanoseconds of one second. -/
def nanosPerSecond : Nat := 1000000000

/-- The seconds of one day. -/
def secondsPerDay : Int := 86400

/-- The instant of a date and a time of day in UTC; second 60 is a leap second. -/
def ofCivil (date : Date) (hour minute second nanos : Nat) : Instant :=
  let leap := second == 60
  let s : Int := hour * 3600 + minute * 60 + (if leap then 59 else second)
  ⟨date.toDays * secondsPerDay + s, if leap then nanos + nanosPerSecond else nanos⟩

/-- The instant so many seconds earlier. -/
def earlier (seconds : Int) (t : Instant) : Instant := { t with seconds := t.seconds - seconds }

/-- The date of an instant in UTC. -/
def date (t : Instant) : Date := Date.ofDays (t.seconds / secondsPerDay)

/-- The seconds since midnight UTC. -/
def secondOfDay (t : Instant) : Nat := (t.seconds % secondsPerDay).toNat

/-- A number with at least so many digits, filled up with zeros. -/
def padded (width n : Nat) : List Char :=
  let digits := Nat.toDigits 10 n
  List.replicate (width - digits.length) '0' ++ digits

/-- A year: four digits from 0 to 9999, else a sign and at least four digits. -/
def yearText (year : Int) : List Char :=
  if 0 ≤ year ∧ year ≤ 9999 then padded 4 year.toNat
  else (if year < 0 then '-' else '+') :: padded 4 year.natAbs

/-- A fraction of a second: nothing, or a point and 3, 6 or 9 digits. -/
def fractionText (nanos : Nat) : List Char :=
  if nanos == 0 then []
  else if nanos % 1000000 == 0 then '.' :: padded 3 (nanos / 1000000)
  else if nanos % 1000 == 0 then '.' :: padded 6 (nanos / 1000)
  else '.' :: padded 9 nanos

/-- The full form of an instant, in UTC. -/
def text (t : Instant) : List Char :=
  let d := t.date
  let s := t.secondOfDay
  let leap := nanosPerSecond ≤ t.nanos
  let second := s % 60 + (if leap then 1 else 0)
  yearText d.year ++ ['-'] ++ padded 2 d.month ++ ['-'] ++ padded 2 d.day ++ ['T'] ++
    padded 2 (s / 3600) ++ [':'] ++ padded 2 (s / 60 % 60) ++ [':'] ++ padded 2 second ++
    fractionText (if leap then t.nanos - nanosPerSecond else t.nanos) ++ "+00:00".toList

/-- The full form of an instant, in UTC. -/
def toText (t : Instant) : String := String.ofList t.text

/-- The short form of an instant, `hh:mm, dd Mon, yyyy`, as the clocks of a zone show it. -/
def shortText (zone : Zone) (t : Instant) : String :=
  let there := t.earlier (-zone t)
  let d := there.date
  let s := there.secondOfDay
  String.ofList (padded 2 (s / 3600) ++ [':'] ++ padded 2 (s / 60 % 60) ++ [',', ' '] ++
    padded 2 d.day ++ [' '] ++ (monthAbbreviation d.month).toList ++ [',', ' '] ++ yearText d.year)

end Instant

end FaultConsole.Time
