/-
Both calendar conversions of the recovery timestamps count days.

* `epoch`: the first of January 1970;
* `daysFromCivil_eq`: **days from a date**, the number of the date since the epoch;
* `exists_marchDate`: a day of a year that begins in March is the day of a date;
* `civilFromDays_eq`: **the date of a day**, the only one with that number.
-/
import Sts2Gateway.Library.Calendar
import Sts2Gateway.Service.Timestamps

namespace Sts2Gateway.Service

open Calendar

/-! ### Days -/

/-- The first of January 1970. -/
def epoch : Date where
  year := 1970
  month := 1
  day := 1
  month_pos := le_rfl
  month_le := by norm_num
  day_pos := le_rfl
  day_le := by decide

lemma epoch_dayNumber : epoch.dayNumber = 719528 := by
  have hstart := yearStart_eq 1970
  have hmonth : monthStart 1970 1 = 0 := rfl
  rw [Date.dayNumber, epoch]
  dsimp only
  omega

/-- The days before a year, by the year before it. -/
lemma yearStart_closed {year : ℕ} (before : ℤ) (h : before + 1 = year) :
    (yearStart year : ℤ) = 365 * before + before / 4 - before / 100 + before / 400 + 366 := by
  have := yearStart_eq year
  omega

/-- The source divides towards zero, and shifts negative years so that this rounds down. -/
lemma tdiv_era (year : ℤ) : (if 0 ≤ year then year else year - 399).tdiv 400 = year / 400 := by
  have hsign : Int.sign 400 = 1 := rfl
  rw [Int.tdiv_eq_ediv, hsign]
  split <;> split <;> omega

/-- The day count of the source, by a year that begins in March. -/
lemma daysFromCivil_closed (year : ℤ) {month : ℤ} (day : ℤ) (hmonth : 1 ≤ month) :
    ∃ march : ℤ, march = (year - if month ≤ 2 then 1 else 0) ∧ daysFromCivil year month day =
      365 * march + march / 4 - march / 100 + march / 400 +
        ((153 * (month + if 2 < month then -3 else 9) + 2) / 5 + day - 1) - 719468 := by
  obtain ⟨march, hmarch⟩ : ∃ march, march = year - if month ≤ 2 then 1 else 0 := ⟨_, rfl⟩
  refine ⟨march, hmarch, ?_⟩
  have hdays : 0 ≤ 153 * (month + if 2 < month then -3 else 9) + 2 := by split <;> omega
  have hyears : 0 ≤ march - march / 400 * 400 := by omega
  rw [daysFromCivil, ← hmarch, tdiv_era, Int.tdiv_eq_ediv_of_nonneg hdays,
    Int.tdiv_eq_ediv_of_nonneg hyears, Int.tdiv_eq_ediv_of_nonneg hyears]
  omega

/-- **Days from a date**: the source counts the days since the epoch. -/
theorem daysFromCivil_eq (date : Date) :
    daysFromCivil date.year date.month date.day = (date.dayNumber : ℤ) - epoch.dayNumber := by
  obtain ⟨march, hmarch, hclosed⟩ := daysFromCivil_closed date.year date.day
    (Int.ofNat_le.mpr date.month_pos)
  have hday := date.day_pos
  rw [hclosed, Date.dayNumber, epoch_dayNumber]
  obtain hmonth | hmonth := Nat.lt_or_ge 2 date.month
  · rw [if_neg (by omega), sub_zero] at hmarch
    rw [if_pos (by omega)]
    have hnext : (yearStart (date.year + 1) : ℤ) = _ :=
      yearStart_closed march (by omega)
    have hlate := monthStart_late date.year hmonth date.month_le
    rw [yearStart_succ] at hnext
    omega
  · rw [if_pos (by omega)] at hmarch
    have hstart : (yearStart date.year : ℤ) = _ := yearStart_closed march (by omega)
    have hpos := date.month_pos
    rw [if_neg (by omega), monthStart_early hpos hmonth]
    omega

/-! ### Dates -/

/-- A day of an era, by its century, its four years, its year and its day. The leap day ends
the last of the four years, unless the century ends with them before the era does. -/
lemma era_decompose (dayOfEra : ℕ) (h : dayOfEra < 146097) :
    ∃ century four one day, century ≤ 3 ∧ four ≤ 24 ∧ one ≤ 3 ∧ day ≤ 365 ∧
      (day = 365 → one = 3 ∧ (four ≠ 24 ∨ century = 3)) ∧
      dayOfEra = 36524 * century + 1461 * four + 365 * one + day := by
  obtain ⟨century, hcentury⟩ : ∃ century, century = min 3 (dayOfEra / 36524) := ⟨_, rfl⟩
  obtain ⟨four, hfour⟩ : ∃ four, four = min 24 ((dayOfEra - 36524 * century) / 1461) := ⟨_, rfl⟩
  obtain ⟨one, hone⟩ : ∃ one, one = min 3 ((dayOfEra - 36524 * century - 1461 * four) / 365) :=
    ⟨_, rfl⟩
  refine ⟨century, four, one, dayOfEra - 36524 * century - 1461 * four - 365 * one,
    ?_, ?_, ?_, ?_, ?_, ?_⟩ <;> omega

/-- The source's year of an era: the corrections of the quotient count the leap days. -/
lemma yearOfEra_eq {dayOfEra century four one day : ℕ} (hcentury : century ≤ 3)
    (hfour : four ≤ 24) (hone : one ≤ 3) (hday : day ≤ 365)
    (hleap : day = 365 → one = 3 ∧ (four ≠ 24 ∨ century = 3))
    (hsum : dayOfEra = 36524 * century + 1461 * four + 365 * one + day) :
    (dayOfEra - dayOfEra / 1460 + dayOfEra / 36524 - dayOfEra / 146096) / 365 =
      100 * century + 4 * four + one := by
  have hend : dayOfEra / 146096 = if dayOfEra = 146096 then 1 else 0 := by split <;> omega
  have hcenturies : dayOfEra / 36524 = century + if dayOfEra = 146096 then 1 else 0 := by
    split <;> omega
  have hleaps : dayOfEra / 1460 = 25 * century + four +
      if 1460 ≤ 24 * century + four + 365 * one + day then 1 else 0 := by
    split <;> omega
  rw [hend, hcenturies, hleaps]
  split <;> split <;> omega

/-- The length of a month whose number counts from March. -/
lemma day_le_monthLength {year march day : ℕ} (hmarch : march ≤ 11)
    (hlow : (153 * march + 2) / 5 ≤ day) (hhigh : day < (153 * (march + 1) + 2) / 5)
    (hday : day ≤ 365) (hleap : day = 365 → IsLeap year) :
    day - (153 * march + 2) / 5 + 1 ≤
      monthLength year (if march < 10 then march + 3 else march - 9) := by
  obtain hlt | rfl := Nat.lt_or_eq_of_le hmarch
  · interval_cases march <;> simp only [monthLength, monthLengths] <;> simp <;> omega
  · simp only [monthLength, monthLengths]
    by_cases h : IsLeap year
    · simp [h]
      omega
    · have : day ≠ 365 := fun heq => h (hleap heq)
      simp [h]
      omega

/-- **A day of a year that begins in March** is the day of a date. -/
lemma exists_marchDate {before day : ℕ} (hday : day ≤ 365)
    (hleap : day = 365 → IsLeap (before + 1)) {march month : ℕ}
    (hmarch : march = (5 * day + 2) / 153)
    (hmonth : month = if march < 10 then march + 3 else march - 9) :
    ∃ date : Date, date.year = (before + if month ≤ 2 then 1 else 0) ∧ date.month = month ∧
      date.day = day - (153 * march + 2) / 5 + 1 ∧
      date.dayNumber + 306 = yearStart (before + 1) + day := by
  obtain ⟨year, hyear⟩ : ∃ year, year = before + if month ≤ 2 then 1 else 0 := ⟨_, rfl⟩
  have hle : march ≤ 11 := by omega
  have hmonths : 1 ≤ month ∧ month ≤ 12 := by
    rw [hmonth]
    split <;> omega
  have hfits : day - (153 * march + 2) / 5 + 1 ≤ monthLength year month := by
    rw [hmonth]
    refine day_le_monthLength hle (by omega) (by omega) hday fun hlast => ?_
    obtain rfl : march = 11 := by omega
    rw [if_neg (by norm_num)] at hmonth
    rw [hyear, hmonth]
    exact hleap hlast
  refine ⟨⟨year, month, _, hmonths.1, hmonths.2, by omega, hfits⟩, hyear, rfl, rfl, ?_⟩
  rw [Date.dayNumber]
  dsimp only
  obtain hlate | hearly := Nat.lt_or_ge march 10
  · rw [if_pos hlate] at hmonth
    rw [if_neg (by omega), add_zero] at hyear
    have hstart := monthStart_late year (by omega : 2 < month) (by omega)
    have hfirst : month - 3 = march := by omega
    rw [hfirst] at hstart
    rw [hyear] at hstart ⊢
    rw [yearStart_succ]
    omega
  · rw [if_neg (by omega)] at hmonth
    rw [if_pos (by omega)] at hyear
    rw [monthStart_early hmonths.1 (by omega), hyear]
    omega

/-- The days before the year after a year of an era. -/
lemma yearStart_era (era : ℕ) {yearOfEra : ℕ} (h : yearOfEra < 400) :
    yearStart (yearOfEra + era * 400 + 1) + yearOfEra / 100 =
      era * 146097 + 365 * yearOfEra + yearOfEra / 4 + 366 := by
  have := yearStart_eq (yearOfEra + era * 400 + 1)
  omega

/-- **The date of a day**: the source finds the only date with that number. -/
theorem civilFromDays_eq (days : ℕ) :
    ∃ date : Date, civilFromDays days = (date.year, date.month, date.day) ∧
      date.dayNumber = days + epoch.dayNumber := by
  obtain ⟨era, hera⟩ : ∃ era, era = (days + 719468) / 146097 := ⟨_, rfl⟩
  obtain ⟨dayOfEra, hdayOfEra⟩ : ∃ d, d = days + 719468 - era * 146097 := ⟨_, rfl⟩
  obtain ⟨century, four, one, day, hcentury, hfour, hone, hday, hleap, hsum⟩ :=
    era_decompose dayOfEra (by omega)
  obtain ⟨yearOfEra, hyearOfEra⟩ : ∃ y, y = 100 * century + 4 * four + one := ⟨_, rfl⟩
  have hleapYear : day = 365 → IsLeap (yearOfEra + era * 400 + 1) := by
    intro hlast
    obtain ⟨rfl, hfour⟩ := hleap hlast
    rw [IsLeap]
    omega
  obtain ⟨date, hyear, hmonth, hdate, hnumber⟩ := exists_marchDate hday hleapYear rfl rfl
  refine ⟨date, ?_, ?_⟩
  · have hyears := yearOfEra_eq hcentury hfour hone hday hleap hsum
    have hdayOfYear : dayOfEra - (365 * yearOfEra + yearOfEra / 4 - yearOfEra / 100) = day := by
      omega
    rw [hyear, hmonth, hdate, civilFromDays, ← hera, ← hdayOfEra, hyears, ← hyearOfEra,
      hdayOfYear]
  · have hnext := yearStart_era era (by omega : yearOfEra < 400)
    have hfours : yearOfEra / 4 = 25 * century + four := by omega
    have hcenturies : yearOfEra / 100 = century := by omega
    clear hyear hmonth hdate
    rw [epoch_dayNumber]
    omega

end Sts2Gateway.Service
