import CordonWatch.Time.Instant

/-!
# Days and dates

Every day has a date that exists (`isValid_ofDays`), and the date names the day
(`toDays_ofDays`).

Both functions count from March. The steps of `Date.ofDays` are given names here. Its
one guess is the year: the leap days that have passed are estimated before the division
by 365. `year_of_day` says that the guess is right: the day lies in that year.
-/

namespace CordonWatch.Date

/-- The year of an era in which a day of the era lies. -/
def yearOfDay (dayOfEra : Nat) : Nat :=
  (dayOfEra - dayOfEra / 1460 + dayOfEra / 36524 - dayOfEra / 146096) / 365

/-- Days of an era before a year of it. -/
def daysBeforeYear (yearOfEra : Nat) : Nat := 365 * yearOfEra + yearOfEra / 4 - yearOfEra / 100

/-- Days of its year before a day of an era. -/
def dayOfYear (dayOfEra : Nat) : Nat := dayOfEra - daysBeforeYear (yearOfDay dayOfEra)

/-- The month in which a day of the year lies, counted from March as 0. -/
def monthOfDay (dayOfYear : Nat) : Nat := (5 * dayOfYear + 2) / 153

/-- A month counted from March as 0, by its usual number. -/
def monthNumber (monthFromMarch : Nat) : Nat :=
  if monthFromMarch < 10 then monthFromMarch + 3 else monthFromMarch - 9

theorem ofDays_eq (days : Int) {dayOfEra : Nat}
    (h : dayOfEra = ((days + 719468) % 146097).toNat) :
    ofDays days = {
      year := (days + 719468) / 146097 * 400 + yearOfDay dayOfEra
        + (if monthNumber (monthOfDay (dayOfYear dayOfEra)) ≤ 2 then 1 else 0)
      month := monthNumber (monthOfDay (dayOfYear dayOfEra))
      day := dayOfYear dayOfEra - daysBefore (monthOfDay (dayOfYear dayOfEra)) + 1 } := by
  subst h
  rfl

/-! ### The year -/

/-- A day lies in its year, and in the last day of a long year only if the year that
begins in its last January is a leap year. -/
theorem year_of_day {d : Nat} (h : d < 146097) :
    yearOfDay d < 400 ∧ daysBeforeYear (yearOfDay d) ≤ d ∧
      d ≤ daysBeforeYear (yearOfDay d) + 365 ∧
      (d = daysBeforeYear (yearOfDay d) + 365 →
        (yearOfDay d + 1) % 4 = 0 ∧ ((yearOfDay d + 1) % 100 ≠ 0 ∨ yearOfDay d = 399)) := by
  obtain rfl | hd : d = 146096 ∨ d < 146096 := by omega
  · decide
  obtain ⟨c, hc⟩ : ∃ c, c = d / 36524 := ⟨_, rfl⟩
  obtain ⟨n, hn⟩ : ∃ n, n = d - d / 1460 + c := ⟨_, rfl⟩
  obtain ⟨y, hy⟩ : ∃ y, y = n / 365 := ⟨_, rfl⟩
  have hyear : yearOfDay d = y := by
    unfold yearOfDay
    rw [← hc, Nat.div_eq_of_lt hd, Nat.sub_zero, ← hn, ← hy]
  have hcentury : y / 100 = c := by omega
  have hstart : daysBeforeYear y + c = 365 * y + y / 4 := by
    unfold daysBeforeYear
    omega
  -- The estimate of leap days is right, or it is one too great on the last day of a long year.
  have hleaps : d / 1460 = y / 4 ∨ d / 1460 = y / 4 + 1 := by omega
  rw [hyear]
  obtain hleaps | hleaps := hleaps
  · have hday : d + c = n + y / 4 := by omega
    exact ⟨by omega, by omega, by omega, fun hlast => by omega⟩
  · have hday : d + c = n + y / 4 + 1 := by omega
    refine ⟨by omega, by omega, by omega, fun hlast => ?_⟩
    have hrest : n % 365 = 364 := by omega
    have hfour : y % 4 = 3 := by omega
    refine ⟨by omega, Or.inl fun hhundred => ?_⟩
    have hy' : y = 100 * c + 99 := by omega
    subst hy'
    omega

theorem daysBeforeYear_add_dayOfYear {d : Nat} (h : d < 146097) :
    daysBeforeYear (yearOfDay d) + dayOfYear d = d :=
  Nat.add_sub_cancel' (year_of_day h).2.1

theorem dayOfYear_le {d : Nat} (h : d < 146097) : dayOfYear d ≤ 365 := by
  have hin := (year_of_day h).2.2.1
  have hsum := daysBeforeYear_add_dayOfYear h
  omega

/-! ### The month -/

/-- Before a month but the first lie the days of the months before it. -/
theorem daysBefore_succ (year : Int) : ∀ {m : Nat}, m < 11 →
    daysBefore (m + 1) = daysBefore m + daysInMonth year (monthNumber m)
  | 0, _ | 1, _ | 2, _ | 3, _ | 4, _ | 5, _ | 6, _ | 7, _ | 8, _ | 9, _ | 10, _ => rfl

/-- A day lies in its month. The last day of a long year is one only of a leap year's
February. -/
theorem month_of_day {d : Nat} (h : d ≤ 365) {year : Int}
    (hleap : d = 365 → isLeapYear year = true) :
    monthOfDay d ≤ 11 ∧ daysBefore (monthOfDay d) ≤ d ∧
      d < daysBefore (monthOfDay d) + daysInMonth year (monthNumber (monthOfDay d)) := by
  obtain ⟨m, hm⟩ : ∃ m, m = (5 * d + 2) / 153 := ⟨_, rfl⟩
  have hmonth : monthOfDay d = m := hm.symm
  rw [hmonth]
  refine ⟨by omega, by unfold daysBefore; omega, ?_⟩
  obtain hm' | rfl : m < 11 ∨ m = 11 := by omega
  · rw [← daysBefore_succ year hm']
    unfold daysBefore
    omega
  · show d < 337 + if isLeapYear year then 29 else 28
    split
    · omega
    next hnot =>
      have hne : d ≠ 365 := fun hd => hnot (hleap hd)
      omega

theorem monthNumber_mem {m : Nat} (h : m ≤ 11) : 1 ≤ monthNumber m ∧ monthNumber m ≤ 12 := by
  unfold monthNumber
  split <;> omega

theorem monthNumber_from_march {m : Nat} (h : m ≤ 11) : (monthNumber m + 9) % 12 = m := by
  unfold monthNumber
  split <;> omega

/-! ### The date -/

/-- The year in which the last day of a long year lies is a leap year. -/
theorem isLeapYear_of_dayOfYear {d : Nat} (h : d < 146097) (hlast : dayOfYear d = 365)
    (era : Int) : isLeapYear (era * 400 + yearOfDay d + 1) = true := by
  have hsum := daysBeforeYear_add_dayOfYear h
  obtain ⟨hfour, hhundred⟩ := (year_of_day h).2.2.2 (by omega)
  unfold isLeapYear
  simp only [Bool.and_eq_true, Bool.or_eq_true, beq_iff_eq, bne_iff_ne]
  omega

/-- Every day has a date that exists. -/
theorem isValid_ofDays (days : Int) : (ofDays days).isValid = true := by
  obtain ⟨d, hd⟩ : ∃ d, d = ((days + 719468) % 146097).toNat := ⟨_, rfl⟩
  have hera : d < 146097 := by omega
  rw [ofDays_eq days hd]
  obtain ⟨year, hyear⟩ : ∃ year : Int, year = (days + 719468) / 146097 * 400 + yearOfDay d
      + (if monthNumber (monthOfDay (dayOfYear d)) ≤ 2 then 1 else 0) := ⟨_, rfl⟩
  have hleap : dayOfYear d = 365 → isLeapYear year = true := by
    intro hlast
    rw [hyear, hlast]
    exact isLeapYear_of_dayOfYear hera hlast _
  obtain ⟨hm, hfrom, hto⟩ := month_of_day (dayOfYear_le hera) hleap
  have hmonth := monthNumber_mem hm
  rw [← hyear]
  unfold isValid
  simp only [Bool.and_eq_true, decide_eq_true_eq]
  omega

/-- The date of a day names the day. -/
theorem toDays_ofDays (days : Int) : (ofDays days).toDays = days := by
  obtain ⟨d, hd⟩ : ∃ d, d = ((days + 719468) % 146097).toNat := ⟨_, rfl⟩
  obtain ⟨era, hera⟩ : ∃ era, era = (days + 719468) / 146097 := ⟨_, rfl⟩
  have hin : d < 146097 := by omega
  obtain ⟨hm, hfrom, -⟩ := month_of_day (dayOfYear_le hin) fun _ => (rfl : isLeapYear 0 = true)
  have hyears := (year_of_day hin).1
  have hsum := daysBeforeYear_add_dayOfYear hin
  unfold daysBeforeYear at hsum
  rw [ofDays_eq days hd, ← hera]
  obtain ⟨month, hmonth⟩ : ∃ month, month = monthNumber (monthOfDay (dayOfYear d)) := ⟨_, rfl⟩
  have hmarch : (month + 9) % 12 = monthOfDay (dayOfYear d) :=
    hmonth ▸ monthNumber_from_march hm
  have hyear : (if month ≤ 2 then era * 400 + yearOfDay d + (if month ≤ 2 then 1 else 0) - 1
      else era * 400 + yearOfDay d + (if month ≤ 2 then 1 else 0)) = era * 400 + yearOfDay d := by
    split
    · omega
    · omega
  have hquotient : (era * 400 + yearOfDay d) / 400 = era := by omega
  have hrest : (era * 400 + yearOfDay d) % 400 = yearOfDay d := by omega
  rw [← hmonth]
  unfold toDays
  dsimp only
  rw [hyear, hmarch, hquotient, hrest]
  omega

end CordonWatch.Date
