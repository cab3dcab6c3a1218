import FaultConsole.Proofs.Listing.Order
import FaultConsole.Proofs.Time.Timestamps
import Mathlib.Data.List.TakeWhile

/-!
# One instant, many spellings

A service may write the same point in time with a zone or without one, as the time of another place, or,
at midnight, as a date alone. Three readers are tried on a timestamp, and the first that can read it
decides. So it has to be shown of each spelling that the readers before its own refuse it, and that its
own finds what was meant.

* A date and a time are read digit by digit in the same widths, by the reader that wants a zone
  (`zoned?_dateTime`) as well as by the one that wants none (`unzoned?_dateTime`).
* `Spelling` has all of these spellings, `Spelling.instant` is what they mean, and `parse?_text` says
  that they are read so.
* `spellings_denote_one_instant` says it once more for each spelling by itself, and that records are
  listed by what their timestamps mean, however these are spelled.
-/

namespace FaultConsole.Time

open Decimal (digitsValue)
open Instant

/-! ## What is spelled -/

/-- A day of the calendar whose year has four digits. -/
structure Day where
  date : Date
  valid : date.isValid = true
  low : 0 ≤ date.year
  high : date.year ≤ 9999

/-- A time of day. A fraction of its second is given by its digits, of which there may be none. -/
structure Clock where
  hour : Nat
  minute : Nat
  second : Nat
  digits : List Char
  hour_lt : hour < 24
  minute_lt : minute < 60
  second_lt : second < 60
  areDigits : ∀ c ∈ digits, c.isDigit = true
  few : digits.length ≤ 9

/-- How far the clocks of a place are ahead of UTC, or behind it. -/
structure Offset where
  behind : Bool
  hours : Nat
  minutes : Nat
  hours_lt : hours < 24
  minutes_lt : minutes < 60

/-- A day as `YYYY-MM-DD`. -/
def Day.text (d : Day) : String := String.ofList (dateText d.date)

/-- The point and the digits of a fraction, if there are any. -/
def Clock.fractionText (c : Clock) : List Char := if c.digits = [] then [] else '.' :: c.digits

/-- A time of day as `hh:mm:ss`, with a fraction behind a point. -/
def Clock.text (c : Clock) : String :=
  String.ofList (timeText c.hour c.minute c.second ++ c.fractionText)

/-- The nanoseconds of a fraction: its digits are those of tenths, hundredths, and so on. -/
def Clock.nanos (c : Clock) : Nat := digitsValue c.digits * 10 ^ (9 - c.digits.length)

/-- Midnight, without a fraction. -/
def Clock.midnight : Clock where
  hour := 0
  minute := 0
  second := 0
  digits := []
  hour_lt := by decide
  minute_lt := by decide
  second_lt := by decide
  areDigits := by simp
  few := by decide

/-- A difference as `+hh:mm` or `-hh:mm`. -/
def Offset.text (o : Offset) : String :=
  String.ofList ((if o.behind then '-' else '+') ::
    (padded 2 o.hours ++ (':' :: padded 2 o.minutes)))

/-- No difference. -/
def Offset.greenwich : Offset where
  behind := false
  hours := 0
  minutes := 0
  hours_lt := by decide
  minutes_lt := by decide

/-- The seconds by which the clocks of a place are ahead. -/
def Offset.seconds (o : Offset) : Int :=
  let s : Int := o.hours * 3600 + o.minutes * 60
  if o.behind then -s else s

/-- In UTC, an instant has this day on the calendar and this time on the clock. -/
structure Instant.IsAt (t : Instant) (d : Day) (c : Clock) : Prop where
  date : t.date = d.date
  hour : t.hour = c.hour
  minute : t.minute = c.minute
  second : t.second = c.second
  nanos : t.nanos = c.nanos

/-! ## Digits without a width -/

theorem isBlank_of_isDigit {c : Char} (h : c.isDigit = true) : Text.isBlank c = false := by
  have range := Char.isDigit_iff_toNat.mp h
  have low : 48 ≤ c.toNat := range.1
  have high : c.toNat ≤ 57 := range.2
  simp only [Text.isBlank, Bool.or_eq_false_iff, Bool.and_eq_false_iff, decide_eq_false_iff_not,
    beq_eq_false_iff_ne]
  omega

theorem exists_digit_padded {width n : Nat} (positive : 0 < width) (h : n < 10 ^ width) :
    ∃ c rest, padded width n = c :: rest ∧ c.isDigit = true := by
  have length := length_padded positive h
  cases written : padded width n with
  | nil =>
      rw [written] at length
      exact absurd length (Nat.ne_of_lt positive)
  | cons c rest =>
      exact ⟨c, rest, rfl, isDigit_of_mem_padded (written ▸ List.mem_cons_self)⟩

theorem dropWhile_isBlank_padded {width n : Nat} (positive : 0 < width) (h : n < 10 ^ width)
    (rest : List Char) :
    (padded width n ++ rest).dropWhile Text.isBlank = padded width n ++ rest := by
  obtain ⟨c, more, written, digit⟩ := exists_digit_padded positive h
  rw [written, List.cons_append, List.dropWhile_cons_of_neg]
  simp [isBlank_of_isDigit digit]

/-- A number in its width is read as that number, too, where fewer digits would do. -/
theorem looseDigits?_padded {width n : Nat} (positive : 0 < width) (h : n < 10 ^ width)
    (rest : List Char) : looseDigits? width (padded width n ++ rest) = some (n, rest) := by
  have length := length_padded positive h
  have front : (padded width n ++ rest).take width = padded width n := List.take_left' length
  have behind : (padded width n ++ rest).drop width = rest := List.drop_left' length
  have digits : (padded width n).takeWhile Char.isDigit = padded width n :=
    List.takeWhile_eq_self_iff.mpr fun c hc => isDigit_of_mem_padded hc
  have some_digit : (padded width n).isEmpty = false := by
    rw [List.isEmpty_eq_false_iff, ← List.length_pos_iff, length]
    exact positive
  simp only [looseDigits?]
  rw [dropWhile_isBlank_padded positive h, front, digits, some_digit, length, behind,
    digitsValue_padded]
  rfl

/-- A year of four digits is read as that year. -/
theorem looseYear?_padded {n : Nat} (h : n < 10 ^ 4) (rest : List Char) :
    looseYear? (padded 4 n ++ rest) = some ((n : Int), rest) := by
  obtain ⟨c, more, written, digit⟩ := exists_digit_padded (by decide) h
  have loose := looseDigits?_padded (by decide) h rest
  unfold looseYear?
  rw [dropWhile_isBlank_padded (by decide) h]
  rw [written, List.cons_append] at loose ⊢
  simp only
  -- a year that begins with a digit has no sign
  split
  next same => cases same; exact absurd digit (by decide)
  next same => cases same; exact absurd digit (by decide)
  next => rw [loose, Option.map_some]

theorem looseDate?_dateText (d : Day) (rest : List Char) :
    looseDate? (dateText d.date ++ rest) = some (d.date, rest) := by
  obtain ⟨month, day⟩ := Date.lt_of_isValid d.valid
  have low := d.low
  have high := d.high
  have written : (⟨(d.date.year.toNat : Int), d.date.month, d.date.day⟩ : Date) = d.date := by
    rw [Int.toNat_of_nonneg low]
  have range : yearInRange (d.date.year.toNat : Int) = true := by
    simp only [yearInRange, Bool.and_eq_true, decide_eq_true_eq]
    omega
  simp only [dateText, List.append_assoc, List.cons_append]
  refine (bind_of_eq_some (looseYear?_padded (by omega) _) _).trans ?_
  refine (bind_of_eq_some (expectChar?_cons '-' _) _).trans ?_
  refine (bind_of_eq_some (looseDigits?_padded (by decide) month _) _).trans ?_
  refine (bind_of_eq_some (expectChar?_cons '-' _) _).trans ?_
  refine (bind_of_eq_some (looseDigits?_padded (by decide) day _) _).trans ?_
  simp only [written, range, d.valid, Bool.and_self, if_true]

/-- A date may be all that there is. -/
theorem looseDate?_whole (d : Day) : looseDate? (dateText d.date) = some (d.date, []) := by
  have read := looseDate?_dateText d []
  rwa [List.append_nil] at read

/-! ## The parts of a timestamp -/

theorem Clock.validTime (c : Clock) : validTime c.hour c.minute c.second = true := by
  have hour := c.hour_lt
  have minute := c.minute_lt
  have second := c.second_lt
  simp only [Time.validTime, Bool.and_eq_true, decide_eq_true_eq]
  omega

theorem Clock.no_leap_second (c : Clock) : (c.second == 60) = false :=
  beq_eq_false_iff_ne.mpr (Nat.ne_of_lt c.second_lt)

theorem Clock.nanosOf_digits (c : Clock) : nanosOf c.digits = c.nanos := by
  have whole : c.digits.take 9 = c.digits := List.take_of_length_le c.few
  simp only [nanosOf, whole]
  rfl

theorem Clock.nanos_lt (c : Clock) : c.nanos < nanosPerSecond :=
  c.nanosOf_digits ▸ nanosOf_lt c.areDigits

/-- A fraction ends where a zone begins, or the text. -/
theorem Clock.fraction?_fractionText (c : Clock) {rest : List Char} (stop : StopsDigits rest)
    (no_point : rest.head? ≠ some '.') :
    fraction? (c.fractionText ++ rest) = some (c.nanos, rest) := by
  unfold fractionText
  split
  next none =>
    have zero : c.nanos = 0 := by
      rw [nanos, none]
      rfl
    rw [List.nil_append, zero, fraction?_of_no_point no_point]
  next some_digit =>
    rw [fraction?_point some_digit c.areDigits stop, c.nanosOf_digits]

/-- The zone of a place is its difference. -/
theorem Offset.zone?_text (o : Offset) : zone? o.text.toList = some o.seconds := by
  have hours := o.hours_lt
  have minutes := o.minutes_lt
  have below : (59 < o.minutes ∨ 23 < o.hours) = False := by
    simp only [eq_iff_iff, iff_false]
    omega
  rw [Offset.text, String.toList_ofList]
  cases side : o.behind
  all_goals
    simp only [Bool.false_eq_true, if_false, if_true]
    unfold zone?
    -- a text that begins with a sign is neither of the letters
    split
    next same => cases same
    next same => cases same
    next same =>
      cases same
      refine (bind_of_eq_some rfl _).trans ?_
      refine (bind_of_eq_some (exactDigits?_padded (by decide) (by omega) _) _).trans ?_
      refine (bind_of_eq_some (expectChar?_cons ':' _) _).trans ?_
      refine (bind_of_eq_some (exactDigits?_last (by decide) (by omega)) _).trans ?_
      simp [below, seconds, side]
    next none => cases none

/-! ## Dates without a time, and times without a zone -/

theorem unzoned?_dateTime (d : Day) (c : Clock) :
    unzoned? (dateText d.date ++ ('T' :: (timeText c.hour c.minute c.second ++ c.fractionText))) =
      some (ofCivil d.date c.hour c.minute c.second c.nanos) := by
  have hour := c.hour_lt
  have minute := c.minute_lt
  have second := c.second_lt
  have read_fraction : fraction? c.fractionText = some (c.nanos, []) := by
    have stop : StopsDigits [] := by simp [StopsDigits]
    have read := c.fraction?_fractionText stop (by simp)
    rwa [List.append_nil] at read
  simp only [timeText, List.append_assoc, List.cons_append]
  refine (bind_of_eq_some (looseDate?_dateText d _) _).trans ?_
  refine (bind_of_eq_some (expectChar?_cons 'T' _) _).trans ?_
  refine (bind_of_eq_some (looseDigits?_padded (by decide) (by omega) _) _).trans ?_
  refine (bind_of_eq_some (expectChar?_cons ':' _) _).trans ?_
  refine (bind_of_eq_some (looseDigits?_padded (by decide) (by omega) _) _).trans ?_
  refine (bind_of_eq_some (expectChar?_cons ':' _) _).trans ?_
  refine (bind_of_eq_some (looseDigits?_padded (by decide) (by omega) _) _).trans ?_
  refine (bind_of_eq_some read_fraction _).trans ?_
  simp only [List.isEmpty_nil, c.validTime, Bool.and_self, if_true]

theorem zoned?_dateText (d : Day) : zoned? (dateText d.date) = none := by
  obtain ⟨month, day⟩ := Date.lt_of_isValid d.valid
  have low := d.low
  have high := d.high
  simp only [dateText]
  refine (bind_of_eq_some (exactDigits?_padded (by decide) (by omega) _) _).trans ?_
  refine (bind_of_eq_some (expectChar?_cons '-' _) _).trans ?_
  refine (bind_of_eq_some (exactDigits?_padded (by decide) month _) _).trans ?_
  refine (bind_of_eq_some (expectChar?_cons '-' _) _).trans ?_
  exact (bind_of_eq_some (exactDigits?_last (by decide) day) _).trans rfl

theorem unzoned?_dateText (d : Day) : unzoned? (dateText d.date) = none :=
  (bind_of_eq_some (looseDate?_whole d) _).trans rfl

theorem bareDate?_dateText (d : Day) :
    bareDate? (dateText d.date) = some (ofCivil d.date 0 0 0 0) :=
  (bind_of_eq_some (looseDate?_whole d) _).trans rfl

/-! ## What a spelling means -/

/-- The instant at which UTC has a day and a time of day. -/
def Day.at (d : Day) (c : Clock) : Instant := ofCivil d.date c.hour c.minute c.second c.nanos

theorem Day.seconds_at (d : Day) (c : Clock) :
    (d.at c).seconds = d.date.toDays * 86400 + (c.hour * 3600 + c.minute * 60 + c.second) := by
  simp only [Day.at, ofCivil, secondsPerDay, c.no_leap_second, Bool.false_eq_true, if_false]

theorem Day.nanos_at (d : Day) (c : Clock) : (d.at c).nanos = c.nanos := by
  simp only [Day.at, ofCivil, c.no_leap_second, Bool.false_eq_true, if_false]

/-- **The instant of a day and a time has that day, and that time.** -/
theorem Day.isAt_at (d : Day) (c : Clock) : (d.at c).IsAt d c := by
  have hour := c.hour_lt
  have minute := c.minute_lt
  have second := c.second_lt
  have seconds := d.seconds_at c
  have ordinary : ¬nanosPerSecond ≤ (d.at c).nanos := by
    rw [d.nanos_at]
    exact Nat.not_le_of_lt c.nanos_lt
  have day : (d.at c).seconds / 86400 = d.date.toDays := by omega
  have secondOfDay : (d.at c).secondOfDay = c.hour * 3600 + c.minute * 60 + c.second := by
    have cast := (d.at c).secondOfDay_cast
    omega
  constructor
  case date => rw [Instant.date, secondsPerDay, day, Date.ofDays_toDays d.valid]
  case hour => rw [Instant.hour, secondOfDay]; omega
  case minute => rw [Instant.minute, secondOfDay]; omega
  case second => rw [Instant.second, secondOfDay, if_neg ordinary]; omega
  case nanos => exact d.nanos_at c

/-- A timestamp of a day with a four-digit year, in one of the forms a service may give it. -/
inductive Spelling
  /-- A date alone. -/
  | bare (d : Day)
  /-- A date and a time without a zone. -/
  | zoneless (d : Day) (c : Clock)
  /-- A date and a time with a `Z` behind them. -/
  | utc (d : Day) (c : Clock)
  /-- A date and a time as they are at some place, and how far its clocks are off. -/
  | elsewhere (d : Day) (c : Clock) (o : Offset)

namespace Spelling

/-- What is written. -/
def text : Spelling → String
  | bare d => d.text
  | zoneless d c => d.text ++ "T" ++ c.text
  | utc d c => d.text ++ "T" ++ c.text ++ "Z"
  | elsewhere d c o => d.text ++ "T" ++ c.text ++ o.text

/-- What is meant. -/
def instant : Spelling → Instant
  | bare d => d.at .midnight
  | zoneless d c => d.at c
  | utc d c => d.at c
  | elsewhere d c o => (d.at c).earlier o.seconds

/-- The nanoseconds from the start of 1970 to what a spelling denotes. -/
def moment : Spelling → Int
  | bare d => d.date.toDays * 86400 * 1000000000
  | zoneless d c | utc d c =>
      (d.date.toDays * 86400 + (c.hour * 3600 + c.minute * 60 + c.second)) * 1000000000 + c.nanos
  | elsewhere d c o =>
      (d.date.toDays * 86400 + (c.hour * 3600 + c.minute * 60 + c.second) - o.seconds) *
        1000000000 + c.nanos

/-- A date and a time are left to the zone behind them. -/
theorem zoned?_text (d : Day) (c : Clock) {zone : List Char} (stop : StopsDigits zone)
    (no_point : zone.head? ≠ some '.') :
    zoned? (dateText d.date ++ ('T' :: (timeText c.hour c.minute c.second ++
      (c.fractionText ++ zone)))) = (zone? zone).map fun offset => (d.at c).earlier offset :=
  zoned?_dateTime d.valid d.low d.high c.validTime (c.fraction?_fractionText stop no_point)

theorem earlier_zero (t : Instant) : t.earlier 0 = t := by
  simp only [Instant.earlier, Int.sub_zero]

/-- **Each spelling is read as what it means.** -/
theorem parse?_text (s : Spelling) : parse? s.text = some s.instant := by
  cases s with
  | bare d =>
      -- the other two readers get through the date, and want a time behind it
      have read : zoned? d.text.toList = none ∧ unzoned? d.text.toList = none ∧
          bareDate? d.text.toList = some (d.at .midnight) := by
        rw [Day.text, String.toList_ofList]
        exact ⟨zoned?_dateText d, unzoned?_dateText d, bareDate?_dateText d⟩
      simp only [parse?, text, instant, read.1, read.2.1, read.2.2]
      rfl
  | zoneless d c =>
      have chars : (d.text ++ "T" ++ c.text).toList =
          dateText d.date ++ ('T' :: (timeText c.hour c.minute c.second ++ c.fractionText)) := by
        simp [Day.text, Clock.text]
      -- the first reader gets through the time, and wants a zone behind it
      have stop : StopsDigits [] := by simp [StopsDigits]
      have no_zone := zoned?_text d c stop (by simp)
      rw [List.append_nil] at no_zone
      simp only [parse?, text, instant, chars, no_zone, unzoned?_dateTime d c]
      rfl
  | utc d c =>
      have chars : (d.text ++ "T" ++ c.text ++ "Z").toList = dateText d.date ++
          ('T' :: (timeText c.hour c.minute c.second ++ (c.fractionText ++ ['Z']))) := by
        simp [Day.text, Clock.text]
      have stop : StopsDigits ['Z'] := by simp [StopsDigits]
      have zoned := zoned?_text d c stop (by simp)
      simp only [parse?, text, instant, chars, zoned, zone?, Option.map_some, earlier_zero]
      rfl
  | elsewhere d c o =>
      have chars : (d.text ++ "T" ++ c.text ++ o.text).toList = dateText d.date ++
          ('T' :: (timeText c.hour c.minute c.second ++ (c.fractionText ++ o.text.toList))) := by
        simp [Day.text, Clock.text]
      have sign : o.text.toList.head? = some (if o.behind then '-' else '+') := by
        rw [Offset.text, String.toList_ofList, List.head?_cons]
      have stop : StopsDigits o.text.toList := by
        rw [StopsDigits, sign]
        cases o.behind <;> simp
      have no_point : o.text.toList.head? ≠ some '.' := by
        rw [sign]
        cases o.behind <;> simp
      have zoned := zoned?_text d c stop no_point
      simp only [parse?, text, instant, chars, zoned, o.zone?_text, Option.map_some]
      rfl

/-- An instant is as many nanoseconds from the start of 1970 as its spelling denotes. -/
theorem moment_eq (s : Spelling) :
    s.moment = s.instant.seconds * 1000000000 + s.instant.nanos := by
  cases s with
  | bare d =>
    have no_fraction : Clock.midnight.nanos = 0 := by decide
    simp only [moment, instant, d.seconds_at, d.nanos_at, no_fraction]
    simp only [Clock.midnight]
    omega
  | zoneless d c => simp only [moment, instant, d.seconds_at, d.nanos_at]
  | utc d c => simp only [moment, instant, d.seconds_at, d.nanos_at]
  | elsewhere d c o => simp only [moment, instant, earlier, d.seconds_at, d.nanos_at]

theorem nanos_instant_lt (s : Spelling) : s.instant.nanos < nanosPerSecond := by
  cases s <;> simp only [instant, earlier, Day.nanos_at] <;> exact Clock.nanos_lt _

/-- Of two spellings the one that denotes the earlier moment is read as the earlier instant. -/
theorem le_iff_moment_le (s s' : Spelling) :
    s.instant.le s'.instant = true ↔ s.moment ≤ s'.moment := by
  have nanos := s.nanos_instant_lt
  have nanos' := s'.nanos_instant_lt
  unfold nanosPerSecond at nanos nanos'
  rw [Instant.le_iff, Instant.IsAfter, moment_eq, moment_eq]
  omega

end Spelling

/-! ## The theorem -/

/-- **A timestamp may be spelled in many ways.** With a `Z`, without a zone and with the zone `+00:00`
it denotes the day and the time that it names in UTC; with the zone of some other place it denotes the
instant that is earlier by that place's difference; a date alone denotes the midnight it begins with.
So however the timestamps of records are spelled, the records are listed by what these denote. -/
theorem spellings_denote_one_instant :
    (∀ (d : Day) (c : Clock), ∃ t : Instant, t.IsAt d c ∧
      parse? (d.text ++ "T" ++ c.text ++ "Z") = some t ∧
      parse? (d.text ++ "T" ++ c.text) = some t ∧
      parse? (d.text ++ "T" ++ c.text ++ "+00:00") = some t ∧
      ∀ o : Offset, parse? (d.text ++ "T" ++ c.text ++ o.text) = some (t.earlier o.seconds)) ∧
    (∀ d : Day, ∃ t : Instant, t.IsAt d .midnight ∧
      parse? d.text = some t ∧ parse? (d.text ++ "T00:00:00Z") = some t) ∧
    ∀ {α : Type} (createdAt : α → Instant) (spelled : α → Spelling) (records : List α),
      (∀ r ∈ records, parse? (spelled r).text = some (createdAt r)) →
        (newestFirst createdAt records).Perm records ∧
        (newestFirst createdAt records).Pairwise fun r r' =>
          (spelled r').moment ≤ (spelled r).moment := by
  refine ⟨?_, ?_, ?_⟩
  · intro d c
    have offset (o : Offset) := (Spelling.elsewhere d c o).parse?_text
    refine ⟨d.at c, d.isAt_at c, (Spelling.utc d c).parse?_text,
      (Spelling.zoneless d c).parse?_text, ?_, offset⟩
    have written : Offset.greenwich.text = "+00:00" := by rfl
    have seconds : Offset.greenwich.seconds = 0 := by decide
    have greenwich := offset .greenwich
    rwa [Spelling.text, Spelling.instant, written, seconds, Spelling.earlier_zero] at greenwich
  · intro d
    refine ⟨d.at .midnight, d.isAt_at _, (Spelling.bare d).parse?_text, ?_⟩
    have midnight : Clock.midnight.text = "00:00:00" := by rfl
    have written : "T00:00:00Z" = "T" ++ Clock.midnight.text ++ "Z" := by
      rw [midnight]
      decide
    rw [written, ← String.append_assoc, ← String.append_assoc]
    exact (Spelling.utc d .midnight).parse?_text
  · intro α createdAt spelled records read
    have instants : ∀ r ∈ records, createdAt r = (spelled r).instant := by
      intro r hr
      exact Option.some.inj ((read r hr).symm.trans (spelled r).parse?_text)
    have perm := newestFirst_perm createdAt records
    refine ⟨perm, (pairwise_newestFirst createdAt records).imp_of_mem ?_⟩
    intro r r' hr hr' older
    rw [instants r (perm.mem_iff.mp hr), instants r' (perm.mem_iff.mp hr')] at older
    exact (Spelling.le_iff_moment_le _ _).mp older

/-- A midnight, half past twelve in the night after a leap day, and the leap day's evening at a place
that is an hour behind. -/
def leapDayNight : List Spelling :=
  let march : Day := ⟨⟨2024, 3, 1⟩, by decide, by decide, by decide⟩
  let leapDay : Day := ⟨⟨2024, 2, 29⟩, by decide, by decide, by decide⟩
  [.bare march,
    .zoneless march ⟨0, 30, 0, [], by decide, by decide, by decide, by simp, by decide⟩,
    .elsewhere leapDay ⟨23, 30, 0, ['5'], by decide, by decide, by decide, by simp, by decide⟩
      ⟨true, 1, 0, by decide, by decide⟩]

/-- The evening of the leap day was half a second after half past twelve of the next day in UTC, and
is listed before it. -/
theorem evening_of_leap_day_is_listed_first :
    leapDayNight.map Spelling.text =
      ["2024-03-01", "2024-03-01T00:30:00", "2024-02-29T23:30:00.5-01:00"] ∧
    (∀ s ∈ leapDayNight, parse? s.text = some s.instant) ∧
    newestFirst Spelling.instant leapDayNight = leapDayNight.reverse ∧
    (newestFirst Spelling.instant leapDayNight).Pairwise fun s s' => s'.moment ≤ s.moment := by
  have read : ∀ s ∈ leapDayNight, parse? s.text = some s.instant := by decide
  have newest : newestFirst Spelling.instant leapDayNight = leapDayNight.reverse :=
    newestFirst_eq_of_pairwise (List.reverse_perm _) (by decide) (by decide)
  exact ⟨by decide, read, newest,
    (spellings_denote_one_instant.2.2 Spelling.instant id leapDayNight read).2⟩

end FaultConsole.Time
