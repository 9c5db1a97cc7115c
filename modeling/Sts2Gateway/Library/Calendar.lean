/-
The proleptic Gregorian calendar.

* `IsLeap`, `monthLength`, `Date`: leap years, the lengths of the months, and the dates
  that exist;
* `yearStart`, `Date.dayNumber`: the number of a day, by counting the years, the months and
  the days before it;
* `yearStart_eq`: the days before a year in closed form;
* `Date.Before`, `dayNumber_lt`: **days are numbered in the order of their dates**;
* `Date.ext_dayNumber`: a date is known by its number.
-/
import Mathlib.Tactic

namespace Calendar

/-! ### Years and months -/

/-- Every fourth year, and of the centuries every fourth one. -/
def IsLeap (year : ℕ) : Prop := year % 4 = 0 ∧ (year % 100 ≠ 0 ∨ year % 400 = 0)

instance (year : ℕ) : Decidable (IsLeap year) := inferInstanceAs (Decidable (_ ∧ _))

def yearLength (year : ℕ) : ℕ := if IsLeap year then 366 else 365

/-- The lengths of the months from January on. -/
def monthLengths (year : ℕ) : List ℕ :=
  [31, if IsLeap year then 29 else 28, 31, 30, 31, 30, 31, 31, 30, 31, 30, 31]

/-- The length of a month; January is month one. -/
def monthLength (year month : ℕ) : ℕ := (monthLengths year).getD (month - 1) 0

/-- The days of a year before a month of it. -/
def monthStart (year month : ℕ) : ℕ := ((monthLengths year).take (month - 1)).sum

/-- The days before a year, from the year zero on. -/
def yearStart (year : ℕ) : ℕ := ∑ y ∈ Finset.range year, yearLength y

lemma yearLength_le (year : ℕ) : yearLength year ≤ 366 := by
  rw [yearLength]
  split <;> omega

lemma yearStart_succ (year : ℕ) : yearStart (year + 1) = yearStart year + yearLength year :=
  Finset.sum_range_succ yearLength year

/-- The days before a year: the leap days are counted by the years that would have one. -/
lemma yearStart_eq (year : ℕ) :
    yearStart year + (year + 99) / 100 = 365 * year + (year + 3) / 4 + (year + 399) / 400 := by
  induction year with
  | zero => rfl
  | succ year ih =>
    rw [yearStart_succ, yearLength]
    split_ifs with hleap <;> rw [IsLeap] at hleap <;> omega

lemma yearStart_strictMono : StrictMono yearStart := by
  refine strictMono_nat_of_lt_succ fun year => ?_
  rw [yearStart_succ, yearLength]
  split <;> omega

-- A comparison of two years would count their days one by one.
attribute [irreducible] yearStart

/-- A month begins where the one before it ends. -/
lemma monthStart_succ {year month : ℕ} (hpos : 1 ≤ month) (hle : month ≤ 12) :
    monthStart year (month + 1) = monthStart year month + monthLength year month := by
  interval_cases month <;> rfl

lemma monthStart_le {year first second : ℕ} (hpos : 1 ≤ first) (hlt : first < second)
    (hle : second ≤ 13) :
    monthStart year first + monthLength year first ≤ monthStart year second := by
  induction second, Nat.succ_le_of_lt hlt using Nat.le_induction with
  | base => rw [monthStart_succ hpos (by omega)]
  | succ second hsecond ih =>
    have hbefore := ih (by omega) (by omega)
    rw [monthStart_succ (by omega) (by omega)]
    omega

/-- The months fill the year. -/
lemma monthStart_thirteen (year : ℕ) : monthStart year 13 = yearLength year := by
  rw [monthStart, monthLengths, yearLength]
  split <;> rfl

/-- The days of a year before January or February. -/
lemma monthStart_early {year month : ℕ} (hpos : 1 ≤ month) (hle : month ≤ 2) :
    monthStart year month = 31 * (month - 1) := by
  interval_cases month <;> rfl

/-- From March on, the months of every year are the same: they begin 306 days before its
end. -/
lemma monthStart_late (year : ℕ) {month : ℕ} (hpos : 3 ≤ month) (hle : month ≤ 12) :
    monthStart year month + 306 = yearLength year + (153 * (month - 3) + 2) / 5 := by
  rw [monthStart, monthLengths, yearLength]
  split <;> interval_cases month <;> rfl

/-! ### Dates -/

/-- A date that exists. -/
@[ext]
structure Date where
  year : ℕ
  month : ℕ
  day : ℕ
  month_pos : 1 ≤ month
  month_le : month ≤ 12
  day_pos : 1 ≤ day
  day_le : day ≤ monthLength year month
deriving DecidableEq, Repr

namespace Date

/-- No month has more than 31 days. -/
lemma day_le_thirtyOne (date : Date) : date.day ≤ 31 := by
  obtain ⟨year, month, day, hpos, hle, _, hday⟩ := date
  dsimp only
  rw [monthLength, monthLengths] at hday
  have hfebruary : (if IsLeap year then 29 else 28) ≤ 31 := by split <;> norm_num
  interval_cases month <;> simp at hday <;> omega

/-- The days before a date, from the first day of the year zero on. -/
def dayNumber (date : Date) : ℕ :=
  yearStart date.year + monthStart date.year date.month + (date.day - 1)

/-- The order of dates. -/
def Before (first second : Date) : Prop :=
  first.year < second.year ∨ first.year = second.year ∧
    (first.month < second.month ∨ first.month = second.month ∧ first.day < second.day)

/-- A date lies in its year. -/
lemma dayNumber_lt_yearStart (date : Date) : date.dayNumber < yearStart (date.year + 1) := by
  have hmonth : monthStart date.year date.month + monthLength date.year date.month ≤
      monthStart date.year 13 :=
    monthStart_le date.month_pos (by have := date.month_le; omega) le_rfl
  rw [monthStart_thirteen] at hmonth
  have := date.day_pos
  have := date.day_le
  rw [dayNumber, yearStart_succ]
  omega

/-- An earlier date has a smaller number. -/
lemma dayNumber_lt_of_before {first second : Date} (h : first.Before second) :
    first.dayNumber < second.dayNumber := by
  obtain hyear | ⟨hyear, hmonth | ⟨hmonth, hday⟩⟩ := h
  · calc first.dayNumber
        < yearStart (first.year + 1) := first.dayNumber_lt_yearStart
      _ ≤ yearStart second.year := yearStart_strictMono.monotone hyear
      _ ≤ second.dayNumber := by rw [dayNumber]; omega
  · have hstart : monthStart first.year first.month + monthLength first.year first.month ≤
        monthStart first.year second.month :=
      monthStart_le first.month_pos hmonth (by have := second.month_le; omega)
    have := first.day_pos
    have := first.day_le
    rw [dayNumber, dayNumber, ← hyear]
    omega
  · have := first.day_pos
    rw [dayNumber, dayNumber, ← hyear, ← hmonth]
    omega

lemma before_trichotomy (first second : Date) :
    first.Before second ∨ first = second ∨ second.Before first := by
  rw [Before, Before, Date.ext_iff]
  omega

/-- **Days are numbered in the order of their dates.** -/
theorem dayNumber_lt {first second : Date} :
    first.dayNumber < second.dayNumber ↔ first.Before second := by
  refine ⟨fun hlt => ?_, dayNumber_lt_of_before⟩
  obtain hbefore | rfl | hafter := before_trichotomy first second
  · exact hbefore
  · exact absurd hlt (lt_irrefl _)
  · exact absurd hlt (dayNumber_lt_of_before hafter).not_gt

/-- A date is known by its number. -/
lemma ext_dayNumber {first second : Date} (h : first.dayNumber = second.dayNumber) :
    first = second := by
  obtain hbefore | heq | hafter := before_trichotomy first second
  · exact absurd h (dayNumber_lt_of_before hbefore).ne
  · exact heq
  · exact absurd h (dayNumber_lt_of_before hafter).ne'

end Date

end Calendar
