import FaultConsole.Proofs.Decimal.Numerals
import FaultConsole.Proofs.Time.Calendar
import FaultConsole.Time.Timestamp
import Mathlib.Algebra.Ring.Nat
import Mathlib.Data.List.Induction

/-!
# Timestamps that are written and read back

An instant is written as a date, a time of day, a fraction and a zone, each number in a fixed
width, and the reader takes the parts off in the same order. So the argument goes part by part: a
number in its width is read as that number (`exactDigits?_padded`), a fraction as those nanoseconds
(`fraction?_fractionText`), and a whole timestamp as the instant of its parts (`zoned?_written`).

Not everything of the type `Instant` is a point in time: a leap second belongs to the last second
of a minute. `WellFormed` says which ones are, and `wellFormed_of_parse?` that a reader gives no
others, whatever the spelling and the zone. For those, writing and reading back changes nothing as
long as the year has four digits: `parse?_toText`.
-/

namespace FaultConsole.Time

open Decimal (digitsValue)

/-! ## Digits -/

namespace Instant

theorem isDigit_of_mem_padded {width n : Nat} {c : Char} (h : c ∈ padded width n) :
    c.isDigit = true :=
  Decimal.isDigit_of_mem_zeros_append h

@[simp] theorem digitsValue_padded (width n : Nat) : digitsValue (padded width n) = n :=
  Decimal.digitsValue_zeros_append _ n

theorem length_padded {width n : Nat} (positive : 0 < width) (h : n < 10 ^ width) :
    (padded width n).length = width := by
  have fits := (Nat.length_toDigits_le_iff (by decide) positive).mpr h
  simp only [padded, List.length_append, List.length_replicate]
  omega

end Instant

open Instant

/-- **A number in its width is read as that number.** -/
theorem exactDigits?_padded {width n : Nat} (positive : 0 < width) (h : n < 10 ^ width)
    (rest : List Char) : exactDigits? width (padded width n ++ rest) = some (n, rest) := by
  have length := length_padded positive h
  have front : (padded width n ++ rest).take width = padded width n := List.take_left' length
  have behind : (padded width n ++ rest).drop width = rest := List.drop_left' length
  have digits : (padded width n).all Char.isDigit = true :=
    List.all_eq_true.mpr fun c hc => isDigit_of_mem_padded hc
  simp only [exactDigits?]
  rw [front, behind, if_pos ⟨length, digits⟩, digitsValue_padded]

/-- The last number of a text leaves nothing behind. -/
theorem exactDigits?_last {width n : Nat} (positive : 0 < width) (h : n < 10 ^ width) :
    exactDigits? width (padded width n) = some (n, []) := by
  have read := exactDigits?_padded positive h []
  rwa [List.append_nil] at read

theorem expectChar?_cons (ch : Char) (rest : List Char) :
    expectChar? ch (ch :: rest) = some rest := if_pos rfl

/-! ## Fractions -/

/-- A fraction ends where no digit is next. -/
def StopsDigits (rest : List Char) : Prop := ∀ c ∈ rest.head?, c.isDigit = false

theorem takeWhile_digits {digits rest : List Char} (h : ∀ c ∈ digits, c.isDigit = true)
    (stop : StopsDigits rest) : (digits ++ rest).takeWhile Char.isDigit = digits := by
  rw [List.takeWhile_append_of_pos h]
  cases rest with
  | nil => simp
  | cons c rest => simp [stop c rfl]

theorem dropWhile_digits {digits rest : List Char} (h : ∀ c ∈ digits, c.isDigit = true)
    (stop : StopsDigits rest) : (digits ++ rest).dropWhile Char.isDigit = rest := by
  rw [List.dropWhile_append_of_pos h]
  cases rest with
  | nil => simp
  | cons c rest => simp [stop c rfl]

theorem fraction?_point {digits rest : List Char} (some_digit : digits ≠ [])
    (h : ∀ c ∈ digits, c.isDigit = true) (stop : StopsDigits rest) :
    fraction? ('.' :: digits ++ rest) = some (nanosOf digits, rest) := by
  simp only [List.cons_append, fraction?]
  rw [takeWhile_digits h stop, dropWhile_digits h stop, if_neg (by simpa using some_digit)]

/-- Without a point there is no fraction. -/
theorem fraction?_of_no_point {rest : List Char} (no_point : rest.head? ≠ some '.') :
    fraction? rest = some (0, rest) := by
  unfold fraction?
  split
  · exact absurd rfl no_point
  · rfl

theorem nanosOf_lt {digits : List Char} (h : ∀ c ∈ digits, c.isDigit = true) :
    nanosOf digits < nanosPerSecond := by
  have length : (digits.take 9).length ≤ 9 := List.length_take_le 9 digits
  have value : digitsValue (digits.take 9) < 10 ^ (digits.take 9).length :=
    Decimal.digitsValue_lt fun c hc => h c (List.mem_of_mem_take hc)
  calc nanosOf digits
      < 10 ^ (digits.take 9).length * 10 ^ (9 - (digits.take 9).length) :=
        Nat.mul_lt_mul_of_pos_right value (Nat.pow_pos (by decide))
    _ = 10 ^ 9 := by rw [← Nat.pow_add, Nat.add_sub_cancel' length]

/-- Up to nine digits count as many places from the left. -/
theorem nanosOf_padded {width n : Nat} (positive : 0 < width) (few : width ≤ 9)
    (h : n < 10 ^ width) : nanosOf (padded width n) = n * 10 ^ (9 - width) := by
  have length := length_padded positive h
  have whole : (padded width n).take 9 = padded width n :=
    List.take_of_length_le (by rw [length]; exact few)
  simp only [nanosOf]
  rw [whole, length, digitsValue_padded]
  rfl

theorem fraction?_padded {width n : Nat} (positive : 0 < width) (few : width ≤ 9)
    (h : n < 10 ^ width) {rest : List Char} (stop : StopsDigits rest) :
    fraction? ('.' :: padded width n ++ rest) = some (n * 10 ^ (9 - width), rest) := by
  have length := length_padded positive h
  have some_digit : padded width n ≠ [] := by
    intro none
    rw [none] at length
    exact absurd length (Nat.ne_of_lt positive)
  rw [fraction?_point some_digit (fun c hc => isDigit_of_mem_padded hc) stop,
    nanosOf_padded positive few h]

/-- **A fraction is read as the nanoseconds it was written for**, in each of its widths. -/
theorem fraction?_fractionText {nanos : Nat} (h : nanos < nanosPerSecond) {rest : List Char}
    (stop : StopsDigits rest) (no_point : rest.head? ≠ some '.') :
    fraction? (fractionText nanos ++ rest) = some (nanos, rest) := by
  unfold nanosPerSecond at h
  unfold fractionText
  split
  · rename_i zero
    obtain rfl : nanos = 0 := by simpa using zero
    exact fraction?_of_no_point no_point
  · split
    · rename_i millis
      have exact : nanos / 1000000 * 10 ^ (9 - 3) = nanos := by
        have := beq_iff_eq.mp millis
        omega
      rw [fraction?_padded (by decide) (by decide) (by omega) stop, exact]
    · split
      · rename_i micros
        have exact : nanos / 1000 * 10 ^ (9 - 6) = nanos := by
          have := beq_iff_eq.mp micros
          omega
        rw [fraction?_padded (by decide) (by decide) (by omega) stop, exact]
      · rw [fraction?_padded (by decide) (by decide) (by omega) stop]
        simp

/-! ## Whole timestamps -/

/-- A date in fixed widths. -/
def dateText (d : Date) : List Char :=
  padded 4 d.year.toNat ++ ('-' :: (padded 2 d.month ++ ('-' :: padded 2 d.day)))

/-- A time of day in fixed widths. -/
def timeText (hour minute second : Nat) : List Char :=
  padded 2 hour ++ (':' :: (padded 2 minute ++ (':' :: padded 2 second)))

/-- The month and the day of a date of the calendar have two digits. -/
theorem Date.lt_of_isValid {d : Date} (h : d.isValid = true) :
    d.month < 10 ^ 2 ∧ d.day < 10 ^ 2 := by
  have days : daysInMonth d.year d.month ≤ 31 := by
    unfold daysInMonth
    split
    · split <;> decide
    all_goals decide
  simp only [isValid, Bool.and_eq_true, decide_eq_true_eq] at h
  omega

theorem bind_of_eq_some {α β : Type} {x : Option α} {a : α} (h : x = some a)
    (f : α → Option β) : (x >>= f) = f a := by
  rw [h]
  rfl

/-- **A date and time are read part by part**, and then it is up to the zone. -/
theorem zoned?_dateTime {d : Date} (date : d.isValid = true) (low : 0 ≤ d.year)
    (high : d.year ≤ 9999) {hour minute second : Nat}
    (time : validTime hour minute second = true) {fraction zone : List Char} {nanos : Nat}
    (read_fraction : fraction? (fraction ++ zone) = some (nanos, zone)) :
    zoned? (dateText d ++ ('T' :: (timeText hour minute second ++ (fraction ++ zone)))) =
      (zone? zone).map fun offset => (ofCivil d hour minute second nanos).earlier offset := by
  obtain ⟨month, day⟩ := Date.lt_of_isValid date
  have bounds := time
  simp only [validTime, Bool.and_eq_true, decide_eq_true_eq] at bounds
  have written : (⟨(d.year.toNat : Int), d.month, d.day⟩ : Date) = d := by
    rw [Int.toNat_of_nonneg low]
  simp only [dateText, timeText, List.append_assoc, List.cons_append]
  -- each part in turn: its digits, and the character behind it
  refine (bind_of_eq_some (exactDigits?_padded (by decide) (by omega) _) _).trans ?_
  refine (bind_of_eq_some (expectChar?_cons '-' _) _).trans ?_
  refine (bind_of_eq_some (exactDigits?_padded (by decide) month _) _).trans ?_
  refine (bind_of_eq_some (expectChar?_cons '-' _) _).trans ?_
  refine (bind_of_eq_some (exactDigits?_padded (by decide) day _) _).trans ?_
  refine (if_pos rfl).trans ((bind_of_eq_some rfl _).trans ?_)
  refine (bind_of_eq_some (exactDigits?_padded (by decide) (by omega) _) _).trans ?_
  refine (bind_of_eq_some (expectChar?_cons ':' _) _).trans ?_
  refine (bind_of_eq_some (exactDigits?_padded (by decide) (by omega) _) _).trans ?_
  refine (bind_of_eq_some (expectChar?_cons ':' _) _).trans ?_
  refine (bind_of_eq_some (exactDigits?_padded (by decide) (by omega) _) _).trans ?_
  refine (bind_of_eq_some read_fraction _).trans ?_
  simp only [written, date, time, Bool.and_self, if_true]
  cases zone? zone <;> rfl

/-- **A timestamp is read as the instant of its parts.** -/
theorem zoned?_written {d : Date} (date : d.isValid = true) (low : 0 ≤ d.year)
    (high : d.year ≤ 9999) {hour minute second : Nat}
    (time : validTime hour minute second = true) {fraction zone : List Char} {nanos : Nat}
    {offset : Int} (read_fraction : fraction? (fraction ++ zone) = some (nanos, zone))
    (read_zone : zone? zone = some offset) :
    zoned? (dateText d ++ ('T' :: (timeText hour minute second ++ (fraction ++ zone)))) =
      some ((ofCivil d hour minute second nanos).earlier offset) := by
  rw [zoned?_dateTime date low high time read_fraction, read_zone, Option.map_some]

/-! ## Points in time -/

attribute [ext] Instant

namespace Instant

/-- A point in time: a leap second is the last second of its minute, and it ends. -/
structure WellFormed (t : Instant) : Prop where
  nanos_lt : t.nanos < 2 * nanosPerSecond
  leap : nanosPerSecond ≤ t.nanos → t.seconds % 60 = 59

theorem wellFormed_ofCivil (d : Date) (hour minute second : Nat) {nanos : Nat}
    (h : nanos < nanosPerSecond) : (ofCivil d hour minute second nanos).WellFormed where
  nanos_lt := by
    simp only [ofCivil]
    split <;> omega
  leap leap := by
    simp only [ofCivil, secondsPerDay] at leap ⊢
    split at leap
    · rename_i sixty
      simp only [sixty, if_true]
      omega
    · omega

theorem wellFormed_earlier {t : Instant} (h : t.WellFormed) {offset : Int}
    (minutes : offset % 60 = 0) : (t.earlier offset).WellFormed where
  nanos_lt := h.nanos_lt
  leap leap := by
    have last := h.leap leap
    simp only [earlier]
    omega

end Instant

theorem fraction?_lt {cs rest : List Char} {nanos : Nat} (h : fraction? cs = some (nanos, rest)) :
    nanos < nanosPerSecond := by
  unfold fraction? at h
  split at h
  · rename_i digits
    simp only at h
    split at h
    · cases h
    · cases h
      exact nanosOf_lt fun c hc => List.all_eq_true.mp List.all_takeWhile c hc
  · cases h
    decide

/-- Zones differ by whole minutes. -/
theorem zone?_minutes {cs : List Char} {offset : Int} (h : zone? cs = some offset) :
    offset % 60 = 0 := by
  unfold zone? at h
  split at h
  · cases h
    rfl
  · cases h
    rfl
  · simp only [Option.bind_eq_bind] at h
    -- a plus sign, a minus sign, or neither
    split at h
    on_goal 2 => split at h
    on_goal 3 => cases h
    all_goals
      simp only [Option.bind_some, Option.bind_eq_some_iff] at h
      obtain ⟨⟨hours, rest⟩, -, rest, -, ⟨minutes, rest⟩, -, h⟩ := h
      simp only at h
      split at h
      · cases h
      · cases h
        simp only [if_true, Bool.false_eq_true, if_false]
        omega
  · cases h

theorem wellFormed_of_zoned? {cs : List Char} {t : Instant} (h : zoned? cs = some t) :
    t.WellFormed := by
  unfold zoned? at h
  obtain ⟨⟨year, cs⟩, -, h⟩ := Option.bind_eq_some_iff.mp h
  obtain ⟨cs, -, h⟩ := Option.bind_eq_some_iff.mp h
  obtain ⟨⟨month, cs⟩, -, h⟩ := Option.bind_eq_some_iff.mp h
  obtain ⟨cs, -, h⟩ := Option.bind_eq_some_iff.mp h
  obtain ⟨⟨day, cs⟩, -, h⟩ := Option.bind_eq_some_iff.mp h
  cases cs with
  | nil => cases h
  | cons separator cs =>
      by_cases known : (separator == 'T' || separator == 't' || separator == ' ') = true
      · have h := (if_pos known).symm.trans h
        obtain ⟨cs, -, h⟩ := Option.bind_eq_some_iff.mp h
        obtain ⟨⟨hour, cs⟩, -, h⟩ := Option.bind_eq_some_iff.mp h
        obtain ⟨cs, -, h⟩ := Option.bind_eq_some_iff.mp h
        obtain ⟨⟨minute, cs⟩, -, h⟩ := Option.bind_eq_some_iff.mp h
        obtain ⟨cs, -, h⟩ := Option.bind_eq_some_iff.mp h
        obtain ⟨⟨second, cs⟩, -, h⟩ := Option.bind_eq_some_iff.mp h
        obtain ⟨⟨nanos, cs⟩, fraction, h⟩ := Option.bind_eq_some_iff.mp h
        obtain ⟨offset, zone, h⟩ := Option.bind_eq_some_iff.mp h
        simp only at h
        split at h
        · cases h
          exact wellFormed_earlier (wellFormed_ofCivil _ _ _ _ (fraction?_lt fraction))
            (zone?_minutes zone)
        · cases h
      · have h := (if_neg known).symm.trans h
        cases h

theorem wellFormed_of_unzoned? {cs : List Char} {t : Instant} (h : unzoned? cs = some t) :
    t.WellFormed := by
  unfold unzoned? at h
  obtain ⟨⟨date, cs⟩, -, h⟩ := Option.bind_eq_some_iff.mp h
  obtain ⟨cs, -, h⟩ := Option.bind_eq_some_iff.mp h
  obtain ⟨⟨hour, cs⟩, -, h⟩ := Option.bind_eq_some_iff.mp h
  obtain ⟨cs, -, h⟩ := Option.bind_eq_some_iff.mp h
  obtain ⟨⟨minute, cs⟩, -, h⟩ := Option.bind_eq_some_iff.mp h
  obtain ⟨cs, -, h⟩ := Option.bind_eq_some_iff.mp h
  obtain ⟨⟨second, cs⟩, -, h⟩ := Option.bind_eq_some_iff.mp h
  obtain ⟨⟨nanos, cs⟩, fraction, h⟩ := Option.bind_eq_some_iff.mp h
  simp only at h
  split at h
  · cases h
    exact wellFormed_ofCivil _ _ _ _ (fraction?_lt fraction)
  · cases h

theorem wellFormed_of_bareDate? {cs : List Char} {t : Instant} (h : bareDate? cs = some t) :
    t.WellFormed := by
  obtain ⟨⟨date, cs⟩, -, h⟩ := Option.bind_eq_some_iff.mp h
  simp only at h
  split at h
  · cases h
    exact wellFormed_ofCivil _ _ _ _ (by decide)
  · cases h

/-- **Whatever its spelling, a timestamp denotes a point in time.** -/
theorem wellFormed_of_parse? {s : String} {t : Instant} (h : Instant.parse? s = some t) :
    t.WellFormed := by
  simp only [Instant.parse?, Option.orElse_eq_orElse, Option.orElse_eq_or,
    Option.or_eq_some_iff] at h
  rcases h with zoned | ⟨-, unzoned | ⟨-, bare⟩⟩
  · exact wellFormed_of_zoned? zoned
  · exact wellFormed_of_unzoned? unzoned
  · exact wellFormed_of_bareDate? bare

/-! ## The parts of a point in time -/

namespace Instant

variable {t : Instant}

def hour (t : Instant) : Nat := t.secondOfDay / 3600

def minute (t : Instant) : Nat := t.secondOfDay / 60 % 60

/-- The second of the minute, which is 60 for a leap second. -/
def second (t : Instant) : Nat :=
  t.secondOfDay % 60 + if nanosPerSecond ≤ t.nanos then 1 else 0

/-- The nanoseconds of the second. -/
def fraction (t : Instant) : Nat :=
  if nanosPerSecond ≤ t.nanos then t.nanos - nanosPerSecond else t.nanos

theorem secondOfDay_cast (t : Instant) : (t.secondOfDay : Int) = t.seconds % 86400 := by
  unfold secondOfDay secondsPerDay
  omega

theorem isValid_date (t : Instant) : t.date.isValid = true := Date.isValid_ofDays _

theorem validTime_parts (t : Instant) : validTime t.hour t.minute t.second = true := by
  have day := t.secondOfDay_cast
  simp only [validTime, Bool.and_eq_true, decide_eq_true_eq]
  unfold hour minute second
  split <;> omega

theorem fraction_lt (h : t.WellFormed) : t.fraction < nanosPerSecond := by
  have := h.nanos_lt
  unfold fraction
  split <;> omega

/-- A point in time is the instant of its parts. -/
theorem ofCivil_parts (h : t.WellFormed) :
    ofCivil t.date t.hour t.minute t.second t.fraction = t := by
  have day := t.secondOfDay_cast
  have date : t.date.toDays = t.seconds / 86400 := Date.toDays_ofDays _
  by_cases leap : nanosPerSecond ≤ t.nanos
  · have last := h.leap leap
    have sixty : t.second = 60 := by
      simp only [second, leap, if_true]
      omega
    ext
    · simp only [ofCivil, sixty, date, hour, minute, beq_self_eq_true, if_true, secondsPerDay]
      omega
    · simp only [ofCivil, sixty, fraction, leap, beq_self_eq_true, if_true]
      omega
  · have plain : t.second = t.secondOfDay % 60 := by simp [second, leap]
    have before : (t.second == 60) = false := by
      simp only [beq_eq_false_iff_ne]
      omega
    ext
    · simp only [ofCivil, before, date, hour, minute, Bool.false_eq_true, if_false, secondsPerDay]
      omega
    · simp only [ofCivil, before, fraction, leap, Bool.false_eq_true, if_false]

/-- The full form of an instant whose year has four digits. -/
theorem text_eq (low : 0 ≤ t.date.year) (high : t.date.year ≤ 9999) :
    t.text = dateText t.date ++ ('T' :: (timeText t.hour t.minute t.second ++
      (fractionText t.fraction ++ "+00:00".toList))) := by
  have year : yearText t.date.year = padded 4 t.date.year.toNat := if_pos ⟨low, high⟩
  simp only [text, dateText, timeText, hour, minute, second, fraction, year, List.append_assoc,
    List.cons_append, List.nil_append]

/-- **Writing and reading back changes nothing**, neither in the nanoseconds nor in a leap
second. -/
theorem parse?_toText (h : t.WellFormed) (low : 0 ≤ t.date.year) (high : t.date.year ≤ 9999) :
    parse? t.toText = some t := by
  have stop : StopsDigits "+00:00".toList := by
    rintro c hc
    cases hc
    rfl
  have read_fraction := fraction?_fractionText (fraction_lt h) stop (by decide)
  have read_zone : zone? "+00:00".toList = some 0 := by decide
  have read := zoned?_written t.isValid_date low high t.validTime_parts read_fraction read_zone
  have parts : (ofCivil t.date t.hour t.minute t.second t.fraction).earlier 0 = t := by
    rw [ofCivil_parts h]
    simp [earlier]
  simp only [parse?, toText, String.toList_ofList]
  rw [text_eq low high, read, parts]
  rfl

/-- A leap second is written as the second 60. -/
example : toText ⟨1483228799, 1500000000⟩ = "2016-12-31T23:59:60.500+00:00" := by decide

end Instant

end FaultConsole.Time
