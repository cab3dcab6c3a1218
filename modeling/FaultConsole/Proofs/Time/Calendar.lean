import FaultConsole.Time.Calendar

/-!
# Days and dates

A day is counted from the start of 1970, and a date names it by year, month and day. The way from
the count to the date is division with remainder, three times over: by eras of four hundred years,
by years that begin in March, and by months. Only the second is no plain division, since years are
not of one length; the correction by `e / 1460`, `e / 36524` and `e / 146096` makes up for the leap
days that have passed.

`yearOfEra_bounds` says that the correction is right: the day lies in the year that the formula
names, and only a year that ends with a leap day has a day 365. From there `isValid_ofDays` and
`toDays_ofDays` follow: every count is the count of a date of the calendar.

The other way round a later date has a larger count (`toDays_lt_of_isBefore`), so no count belongs to
two dates, and the date of a count is the one that was counted: `ofDays_toDays`.
-/

namespace FaultConsole.Time.Date

/-! ## Years of an era -/

/-- The year of a day of an era. -/
def yearOfEra (e : Int) : Int := (e - e / 1460 + e / 36524 - e / 146096) / 365

/-- The day of its era that a year begins with. -/
def firstDay (y : Int) : Int := 365 * y + y / 4 - y / 100

/-- The century of the year is the one of the day, but for the last day of an era: it would begin
a fifth century. -/
theorem century_yearOfEra {e : Int} (low : 0 ≤ e) (high : e < 146097) :
    yearOfEra e / 100 = e / 36524 - e / 146096 := by
  have last : e / 146096 = 0 ∨ e / 146096 = 1 := by omega
  have century : e / 36524 = 0 ∨ e / 36524 = 1 ∨ e / 36524 = 2 ∨ e / 36524 = 3 ∨ e / 36524 = 4 := by
    omega
  unfold yearOfEra
  rcases last with last | last <;>
    rcases century with century | century | century | century | century <;>
      rw [last, century] <;> omega

/-- **The day lies in its year.** A year has a day 365, counted from zero, only if the February at
its end is that of a leap year. -/
theorem yearOfEra_bounds {e : Int} (low : 0 ≤ e) (high : e < 146097) :
    0 ≤ yearOfEra e ∧ yearOfEra e ≤ 399 ∧
      firstDay (yearOfEra e) ≤ e ∧ e ≤ firstDay (yearOfEra e) + 365 ∧
      (e = firstDay (yearOfEra e) + 365 → isLeapYear (yearOfEra e + 1) = true) := by
  have century := century_yearOfEra low high
  have quotient : yearOfEra e = (e - e / 1460 + e / 36524 - e / 146096) / 365 := rfl
  unfold firstDay
  generalize yearOfEra e = y at century quotient
  have range : 0 ≤ y ∧ y ≤ 399 := by omega
  have passed : y / 100 ≤ e / 1460 := by omega
  have begun : 1460 * (y / 4) ≤ e := by omega
  -- the correction by `e / 1460` is ahead of the leap days that have passed by one at most
  have ahead : y / 4 ≤ e / 1460 ∧ e / 1460 ≤ y / 4 + 1 := by omega
  have first : 365 * y + y / 4 - y / 100 ≤ e := by omega
  have last : e ≤ 365 * y + y / 4 - y / 100 + 365 := by omega
  refine ⟨range.1, range.2, first, last, ?_⟩
  intro full
  have fourth : y = 4 * (y / 4) + 3 := by omega
  have leap : (y + 1) % 4 = 0 ∧ ((y + 1) % 100 ≠ 0 ∨ (y + 1) % 400 = 0) := by
    refine ⟨by omega, ?_⟩
    by_cases hundredth : (y + 1) % 100 = 0
    · have next : y = 100 * (y / 100) + 99 := by omega
      have day : e = 36524 * (y / 100 + 1) := by omega
      have era : e / 146096 = 1 := by omega
      exact Or.inr (by omega)
    · exact Or.inl hundredth
  simpa [isLeapYear] using leap

/-! ## Months of a year -/

/-- The month of a day of a year, both counted from March. -/
def monthOfYear (d : Int) : Int := (5 * d + 2) / 153

/-- The day of its year that a month begins with. -/
def firstOfMonth (m : Int) : Int := (153 * m + 2) / 5

/-- The number by which a month is known, which counts from January. -/
def monthNumber (m : Int) : Int := if m < 10 then m + 3 else m - 9

theorem monthOfYear_bounds {d : Int} (low : 0 ≤ d) (high : d ≤ 365) :
    0 ≤ monthOfYear d ∧ monthOfYear d ≤ 11 ∧
      firstOfMonth (monthOfYear d) ≤ d ∧ d < firstOfMonth (monthOfYear d + 1) := by
  unfold monthOfYear firstOfMonth
  omega

/-- A month has as many days as lie between its first and that of the next, but for February, with
which the year ends. -/
theorem le_daysInMonth {year m : Int} (low : 0 ≤ m) (high : m ≤ 11) {day : Int}
    (before : day ≤ firstOfMonth (m + 1) - firstOfMonth m)
    (february : m = 11 → day ≤ if isLeapYear year then 29 else 28) :
    day ≤ daysInMonth year (monthNumber m).toNat := by
  have months : m = 0 ∨ m = 1 ∨ m = 2 ∨ m = 3 ∨ m = 4 ∨ m = 5 ∨ m = 6 ∨ m = 7 ∨ m = 8 ∨ m = 9 ∨
      m = 10 ∨ m = 11 := by
    omega
  rcases months with
    rfl | rfl | rfl | rfl | rfl | rfl | rfl | rfl | rfl | rfl | rfl | rfl
  case inr.inr.inr.inr.inr.inr.inr.inr.inr.inr.inr =>
    have short := february rfl
    simp only [monthNumber, daysInMonth]
    cases leap : isLeapYear year <;> simpa [leap] using short
  all_goals simpa [firstOfMonth, monthNumber, daysInMonth] using before

/-! ## Dates -/

/-- The era of a day, and the day of the era. -/
def era (days : Int) : Int := (days + 719468) / 146097

def dayOfEra (days : Int) : Int := (days + 719468) % 146097

/-- The day of the year that begins in March. -/
def dayOfYear (days : Int) : Int := dayOfEra days - firstDay (yearOfEra (dayOfEra days))

/-- The date of a day, in these words. -/
theorem ofDays_eq (days : Int) :
    ofDays days =
      let month := monthNumber (monthOfYear (dayOfYear days))
      { year := yearOfEra (dayOfEra days) + era days * 400 + if month ≤ 2 then 1 else 0
        month := month.toNat
        day := (dayOfYear days - firstOfMonth (monthOfYear (dayOfYear days)) + 1).toNat } := rfl

/-- A year has 366 days at most, and that many only if its last day is a leap day. -/
theorem dayOfYear_bounds (days : Int) :
    0 ≤ dayOfYear days ∧ dayOfYear days ≤ 365 ∧
      (dayOfYear days = 365 → isLeapYear (yearOfEra (dayOfEra days) + 1) = true) := by
  have low : 0 ≤ dayOfEra days := Int.emod_nonneg _ (by decide)
  have high : dayOfEra days < 146097 := Int.emod_lt_of_pos _ (by decide)
  obtain ⟨-, -, first, last, leap⟩ := yearOfEra_bounds low high
  unfold dayOfYear
  refine ⟨by omega, by omega, ?_⟩
  intro full
  exact leap (by omega)

/-- Eras do not matter to leap years. -/
theorem isLeapYear_add_era (year era : Int) :
    isLeapYear (year + era * 400) = isLeapYear year := by
  have four : (year + era * 400) % 4 = year % 4 := by omega
  have hundred : (year + era * 400) % 100 = year % 100 := by omega
  have all : (year + era * 400) % 400 = year % 400 := by omega
  rw [isLeapYear, isLeapYear, four, hundred, all]

/-- **The date of a day is one of the calendar.** -/
theorem isValid_ofDays (days : Int) : (ofDays days).isValid = true := by
  obtain ⟨low, high, leap⟩ := dayOfYear_bounds days
  obtain ⟨lowMonth, highMonth, first, last⟩ := monthOfYear_bounds low high
  rw [ofDays_eq]
  generalize yearOfEra (dayOfEra days) = y at leap
  generalize dayOfYear days = d at low high leap lowMonth highMonth first last
  generalize monthOfYear d = m at lowMonth highMonth first last
  simp only
  have february : m = 11 → d - firstOfMonth m + 1 ≤
      if isLeapYear (y + era days * 400 + if monthNumber m ≤ 2 then 1 else 0) then 29 else 28 := by
    rintro rfl
    have next : y + era days * 400 + (if monthNumber 11 ≤ 2 then 1 else 0) =
        y + 1 + era days * 400 := by
      simp only [monthNumber]
      omega
    rw [next, isLeapYear_add_era]
    simp only [firstOfMonth] at first ⊢
    by_cases full : d = 365
    · rw [leap full, if_pos rfl]
      omega
    · split <;> omega
  have fits := le_daysInMonth lowMonth highMonth (by omega) february
  have number : 1 ≤ monthNumber m ∧ monthNumber m ≤ 12 := by
    unfold monthNumber
    split <;> omega
  simp only [isValid, Bool.and_eq_true, decide_eq_true_eq]
  omega

/-- **The date of a day has the day's count.** -/
theorem toDays_ofDays (days : Int) : (ofDays days).toDays = days := by
  have low : 0 ≤ dayOfEra days := Int.emod_nonneg _ (by decide)
  have high : dayOfEra days < 146097 := Int.emod_lt_of_pos _ (by decide)
  obtain ⟨lowYear, highYear, -, -, -⟩ := yearOfEra_bounds low high
  obtain ⟨lowDay, highDay, -⟩ := dayOfYear_bounds days
  obtain ⟨lowMonth, highMonth, first, last⟩ := monthOfYear_bounds lowDay highDay
  have day : dayOfYear days = dayOfEra days - firstDay (yearOfEra (dayOfEra days)) := rfl
  have whole : era days * 146097 + dayOfEra days = days + 719468 := by
    unfold era dayOfEra
    omega
  rw [ofDays_eq]
  generalize yearOfEra (dayOfEra days) = y at *
  generalize dayOfYear days = d at *
  generalize monthOfYear d = m at *
  generalize dayOfEra days = e at *
  generalize era days = era at *
  have shifted : (((monthNumber m).toNat : Int) + 9) % 12 = m := by
    unfold monthNumber
    split <;> omega
  have number : ((d - firstOfMonth m + 1).toNat : Int) = d - firstOfMonth m + 1 := by omega
  -- January and February end the year that began in the March before them
  have year : (if (monthNumber m).toNat ≤ 2
        then y + era * 400 + (if monthNumber m ≤ 2 then 1 else 0) - 1
        else y + era * 400 + (if monthNumber m ≤ 2 then 1 else 0)) = y + era * 400 := by
    unfold monthNumber
    split <;> split <;> omega
  have quotient : (y + era * 400) / 400 = era := by omega
  have remainder : (y + era * 400) % 400 = y := by omega
  have month : (153 * m + 2) / 5 = firstOfMonth m := rfl
  simp only [toDays]
  rw [year, shifted, quotient, remainder, number, month]
  unfold firstDay at day
  omega

/-! ## The order of dates -/

/-- One date of the calendar comes before another. -/
def IsBefore (d d' : Date) : Prop :=
  d.year < d'.year ∨ d.year = d'.year ∧
    (d.month < d'.month ∨ d.month = d'.month ∧ d.day < d'.day)

/-- The days of all years before one that begins in March. -/
def yearStart (y : Int) : Int := 365 * y + y / 4 - y / 100 + y / 400

/-- The year of a date, if years begin in March. -/
def marchYear (d : Date) : Int := if d.month ≤ 2 then d.year - 1 else d.year

/-- The month of a date, counted from March. -/
def marchMonth (d : Date) : Int := ((d.month : Int) + 9) % 12

theorem toDays_eq (d : Date) :
    d.toDays = yearStart d.marchYear + firstOfMonth d.marchMonth + d.day - 1 - 719468 := by
  unfold toDays yearStart firstOfMonth marchYear marchMonth
  simp only
  generalize (if d.month ≤ 2 then d.year - 1 else d.year) = y
  generalize (153 * (((d.month : Int) + 9) % 12) + 2) / 5 = m
  omega

/-- A year that begins in March has the leap day of the next January year at its end. -/
theorem yearStart_succ (y : Int) :
    yearStart (y + 1) = yearStart y + if isLeapYear (y + 1) then 366 else 365 := by
  have leap : isLeapYear (y + 1) = true ↔
      (y + 1) % 4 = 0 ∧ ((y + 1) % 100 ≠ 0 ∨ (y + 1) % 400 = 0) := by
    simp [isLeapYear]
  unfold yearStart
  split
  next h => have := leap.mp h; omega
  next h => have := mt leap.mpr h; omega

theorem yearStart_mono {y z : Int} (h : y ≤ z) : yearStart y ≤ yearStart z := by
  unfold yearStart
  omega

/-- A month but February is as long as its place in the year says. -/
theorem daysInMonth_eq {year : Int} {month : Nat} (low : 1 ≤ month) (high : month ≤ 12)
    (other : month ≠ 2) :
    (daysInMonth year month : Int) =
      firstOfMonth (((month : Int) + 9) % 12 + 1) - firstOfMonth (((month : Int) + 9) % 12) := by
  have months : month = 1 ∨ month = 3 ∨ month = 4 ∨ month = 5 ∨ month = 6 ∨ month = 7 ∨ month = 8 ∨
      month = 9 ∨ month = 10 ∨ month = 11 ∨ month = 12 := by
    omega
  rcases months with rfl | rfl | rfl | rfl | rfl | rfl | rfl | rfl | rfl | rfl | rfl <;> rfl

/-- A date of the calendar lies in its month, and in its year. -/
theorem marchDay_bounds {d : Date} (valid : d.isValid = true) :
    0 ≤ d.marchMonth ∧ d.marchMonth ≤ 11 ∧ 1 ≤ d.day ∧
      (d.marchMonth < 11 → firstOfMonth d.marchMonth + d.day ≤ firstOfMonth (d.marchMonth + 1)) ∧
      firstOfMonth d.marchMonth + d.day ≤ if isLeapYear (d.marchYear + 1) then 366 else 365 := by
  obtain ⟨year, month, day⟩ := d
  simp only [isValid, Bool.and_eq_true, decide_eq_true_eq] at valid
  obtain ⟨⟨⟨low, high⟩, first⟩, last⟩ := valid
  simp only [marchMonth, marchYear]
  refine ⟨by omega, by omega, first, ?_⟩
  by_cases february : month = 2
  · subst february
    have next : (if 2 ≤ 2 then year - 1 else year) + 1 = year := by simp
    rw [next]
    simp only [daysInMonth] at last
    refine ⟨by simp, ?_⟩
    cases leap : isLeapYear year with
    | false =>
        simp only [leap, Bool.false_eq_true, if_false] at last ⊢
        unfold firstOfMonth
        omega
    | true =>
        simp only [leap, if_true] at last ⊢
        unfold firstOfMonth
        omega
  · have length : (daysInMonth year month : Int) = _ := daysInMonth_eq low high february
    have fits : firstOfMonth (((month : Int) + 9) % 12) + day ≤
        firstOfMonth (((month : Int) + 9) % 12 + 1) := by
      omega
    refine ⟨fun _ => fits, Int.le_trans fits ?_⟩
    unfold firstOfMonth
    split <;> omega

/-- **A later date is counted as a later day.** -/
theorem toDays_lt_of_isBefore {d d' : Date} (valid : d.isValid = true)
    (valid' : d'.isValid = true) (h : d.IsBefore d') : d.toDays < d'.toDays := by
  obtain ⟨low, high, first, inMonth, inYear⟩ := marchDay_bounds valid
  obtain ⟨low', high', first', -, -⟩ := marchDay_bounds valid'
  have months : 1 ≤ d.month ∧ d.month ≤ 12 ∧ 1 ≤ d'.month ∧ d'.month ≤ 12 := by
    simp only [isValid, Bool.and_eq_true, decide_eq_true_eq] at valid valid'
    omega
  have same_order : d.marchYear < d'.marchYear ∨ d.marchYear = d'.marchYear ∧
      (d.marchMonth < d'.marchMonth ∨ d.marchMonth = d'.marchMonth ∧ d.day < d'.day) := by
    unfold IsBefore at h
    unfold marchYear marchMonth
    split <;> split <;> omega
  rw [toDays_eq, toDays_eq]
  rcases same_order with years | ⟨year, months | ⟨month, days⟩⟩
  · -- the year of the earlier date is over
    have ended := yearStart_succ d.marchYear
    have later := yearStart_mono (Int.add_one_le_of_lt years)
    have start : 0 ≤ firstOfMonth d'.marchMonth := by
      unfold firstOfMonth
      omega
    omega
  · -- the month of the earlier date is over
    have ended := inMonth (by omega)
    have later : firstOfMonth (d.marchMonth + 1) ≤ firstOfMonth d'.marchMonth := by
      unfold firstOfMonth
      omega
    rw [year]
    omega
  · rw [year, month]
    omega

/-- Two dates of the calendar are not counted as the same day. -/
theorem eq_of_toDays_eq {d d' : Date} (valid : d.isValid = true) (valid' : d'.isValid = true)
    (h : d.toDays = d'.toDays) : d = d' := by
  have notBefore : ¬ d.IsBefore d' := by
    intro before
    have := toDays_lt_of_isBefore valid valid' before
    omega
  have notAfter : ¬ d'.IsBefore d := by
    intro after
    have := toDays_lt_of_isBefore valid' valid after
    omega
  obtain ⟨year, month, day⟩ := d
  obtain ⟨year', month', day'⟩ := d'
  simp only [IsBefore] at notBefore notAfter
  rw [mk.injEq]
  omega

/-- **The day of a date has that date.** -/
theorem ofDays_toDays {d : Date} (valid : d.isValid = true) : ofDays d.toDays = d :=
  eq_of_toDays_eq (isValid_ofDays _) valid (toDays_ofDays _)

/-- The last day of an era is a leap day. -/
example : ofDays 11016 = ⟨2000, 2, 29⟩ ∧ (⟨2000, 2, 29⟩ : Date).toDays = 11016 := by decide

end FaultConsole.Time.Date
