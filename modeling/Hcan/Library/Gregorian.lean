import Mathlib.Algebra.Order.Ring.Nat
import Mathlib.Order.Monotone.Basic

/-!
# The Gregorian calendar

Dates carry that they exist.  The number of a date counts the days since the first of January of
the year 0, and a moment the seconds since its midnight; the date after a date has the next number,
and no two dates share one.
-/

namespace Hcan.Library.Gregorian

def IsLeap (year : Nat) : Prop := 4 ∣ year ∧ (100 ∣ year → 400 ∣ year)

instance isLeapDecidable (year : Nat) : Decidable (IsLeap year) := by
  unfold IsLeap
  infer_instance

/-- The days of a month; there is no month 0. -/
def monthLength (year month : Nat) : Nat :=
  if month = 0 ∨ 12 < month then 0
  else if month = 2 then (if IsLeap year then 29 else 28)
  else if month = 4 ∨ month = 6 ∨ month = 9 ∨ month = 11 then 30
  else 31

def yearLength (year : Nat) : Nat := if IsLeap year then 366 else 365

/-- The days before the first of January. -/
def yearStart : Nat → Nat
  | 0 => 0
  | year + 1 => yearStart year + yearLength year

/-- The days of a year before the first of a month. -/
def monthStart (year : Nat) : Nat → Nat
  | 0 => 0
  | month + 1 => monthStart year month + monthLength year month

structure Date where
  year : Nat
  month : Nat
  day : Nat
  month_pos : 0 < month
  day_pos : 0 < day
  day_le : day ≤ monthLength year month
  deriving DecidableEq

/-- The days between the first of January of the year 0 and the date. -/
def Date.number (date : Date) : Nat :=
  yearStart date.year + monthStart date.year date.month + (date.day - 1)

/-- The day of the week of a numbered day, with Monday as day 1; the year 0 began on a Saturday. -/
def weekday (number : Nat) : Nat := (number + 5) % 7 + 1

/-- The 29th of February, which leap years have only. -/
def Date.IsLeapDay (date : Date) : Prop := date.month = 2 ∧ date.day = 29

instance isLeapDayDecidable (date : Date) : Decidable date.IsLeapDay := by
  unfold Date.IsLeapDay
  infer_instance

/-- The number of the date if every year before it were a common one. -/
def Date.commonNumber (date : Date) : Nat :=
  365 * date.year + monthStart 1 date.month + (date.day - 1)

section Lengths

variable (year month : Nat)

theorem monthLength_le : monthLength year month ≤ 31 := by
  unfold monthLength
  split_ifs <;> omega

theorem monthLength_pos (first : 0 < month) (last : month ≤ 12) : 0 < monthLength year month := by
  unfold monthLength
  rw [if_neg (by omega)]
  split_ifs <;> decide

theorem month_le_of_monthLength_pos (pos : 0 < monthLength year month) : month ≤ 12 := by
  by_contra above
  unfold monthLength at pos
  rw [if_pos (by omega)] at pos
  exact absurd pos (by decide)

/-- A month is as long as in a common year, but for February in a leap year. -/
theorem monthLength_eq :
    monthLength year month = monthLength 1 month + if month = 2 ∧ IsLeap year then 1 else 0 := by
  unfold monthLength
  rw [if_neg (by decide : ¬ IsLeap 1)]
  by_cases february : month = 2
  · by_cases leap : IsLeap year
    · simp [february, leap]
    · simp [february, leap]
  · simp [february]

theorem monthStart_mono {month later : Nat} (before : month ≤ later) :
    monthStart year month ≤ monthStart year later := by
  induction before with
  | refl => exact le_refl _
  | @step later _ ih => exact Nat.le_trans ih (Nat.le_add_right _ _)

theorem yearStart_mono {year later : Nat} (before : year ≤ later) :
    yearStart year ≤ yearStart later := by
  induction before with
  | refl => exact le_refl _
  | @step later _ ih => exact Nat.le_trans ih (Nat.le_add_right _ _)

/-- The months make up the year. -/
theorem monthStart_end : monthStart year 13 = yearLength year := by
  unfold yearLength
  by_cases leap : IsLeap year
  · simp [monthStart, monthLength, leap]
  · simp [monthStart, monthLength, leap]

theorem monthStart_one : monthStart year 1 = 0 := by simp [monthStart, monthLength]

theorem yearStart_ge : 365 * year ≤ yearStart year := by
  induction year with
  | zero => exact le_refl _
  | succ year ih =>
      rw [yearStart]
      unfold yearLength
      split_ifs <;> omega

theorem monthStart_ge : monthStart 1 month ≤ monthStart year month := by
  induction month with
  | zero => exact le_refl _
  | succ month ih =>
      have common := monthLength_eq year month
      rw [monthStart, monthStart]
      omega

theorem yearStart_eq :
    yearStart year = 365 * year + (year + 3) / 4 - (year + 99) / 100 + (year + 399) / 400 := by
  induction year with
  | zero => rfl
  | succ year ih =>
      rw [yearStart, ih]
      unfold yearLength
      by_cases leap : IsLeap year
      · rw [if_pos leap]
        unfold IsLeap at leap
        omega
      · rw [if_neg leap]
        unfold IsLeap at leap
        omega

end Lengths

/-! ## The next day -/

namespace Date

variable (date : Date)

theorem month_le : date.month ≤ 12 :=
  month_le_of_monthLength_pos date.year date.month (Nat.lt_of_lt_of_le date.day_pos date.day_le)

/-- The date after a date. -/
def next : Date :=
  if inMonth : date.day < monthLength date.year date.month then
    { year := date.year
      month := date.month
      day := date.day + 1
      month_pos := date.month_pos
      day_pos := Nat.succ_pos _
      day_le := inMonth }
  else if inYear : date.month < 12 then
    { year := date.year
      month := date.month + 1
      day := 1
      month_pos := Nat.succ_pos _
      day_pos := Nat.one_pos
      day_le := monthLength_pos date.year _ (Nat.succ_pos _) inYear }
  else
    { year := date.year + 1
      month := 1
      day := 1
      month_pos := Nat.one_pos
      day_pos := Nat.one_pos
      day_le := monthLength_pos _ 1 Nat.one_pos (by decide) }

/-- The fields of the next date, by the place of the date in its month and its year. -/
theorem next_inMonth (inMonth : date.day < monthLength date.year date.month) :
    date.next.year = date.year ∧ date.next.month = date.month ∧ date.next.day = date.day + 1 := by
  unfold next
  rw [dif_pos inMonth]
  exact ⟨rfl, rfl, rfl⟩

theorem next_inYear (lastOfMonth : ¬ date.day < monthLength date.year date.month)
    (inYear : date.month < 12) :
    date.next.year = date.year ∧ date.next.month = date.month + 1 ∧ date.next.day = 1 := by
  unfold next
  rw [dif_neg lastOfMonth, dif_pos inYear]
  exact ⟨rfl, rfl, rfl⟩

theorem next_lastOfYear (lastOfMonth : ¬ date.day < monthLength date.year date.month)
    (lastOfYear : ¬ date.month < 12) :
    date.next.year = date.year + 1 ∧ date.next.month = 1 ∧ date.next.day = 1 := by
  unfold next
  rw [dif_neg lastOfMonth, dif_neg lastOfYear]
  exact ⟨rfl, rfl, rfl⟩

theorem number_next : date.next.number = date.number + 1 := by
  have day := date.day_pos
  have length := date.day_le
  have months := date.month_le
  unfold number
  by_cases inMonth : date.day < monthLength date.year date.month
  · obtain ⟨year, month, next⟩ := date.next_inMonth inMonth
    rw [year, month, next]
    omega
  · by_cases inYear : date.month < 12
    · obtain ⟨year, month, next⟩ := date.next_inYear inMonth inYear
      rw [year, month, next, monthStart]
      omega
    · obtain ⟨year, month, next⟩ := date.next_lastOfYear inMonth inYear
      have december : date.month = 12 := by omega
      have whole := monthStart_end date.year
      have january := monthStart_one (date.year + 1)
      rw [monthStart] at whole
      rw [year, month, next, yearStart]
      rw [december] at inMonth length ⊢
      omega

/-- A date lies in its month, which lies in its year. -/
theorem number_bounds :
    yearStart date.year + monthStart date.year date.month ≤ date.number ∧
      date.number < yearStart date.year + monthStart date.year (date.month + 1) ∧
      date.number < yearStart (date.year + 1) := by
  have day := date.day_pos
  have length := date.day_le
  have months := date.month_le
  have whole := monthStart_end date.year
  have later : monthStart date.year (date.month + 1) ≤ monthStart date.year 13 :=
    monthStart_mono date.year (by omega)
  have month : monthStart date.year (date.month + 1) =
    monthStart date.year date.month + monthLength date.year date.month := rfl
  have year : yearStart (date.year + 1) = yearStart date.year + yearLength date.year := rfl
  unfold number
  omega

theorem year_le_of_number_lt {date : Date} {year : Nat} (before : date.number < yearStart year) :
    date.year < year := by
  by_contra later
  have start := yearStart_mono (not_lt.mp later)
  have bounds := date.number_bounds
  omega

theorem commonNumber_le : date.commonNumber ≤ date.number := by
  have years := yearStart_ge date.year
  have months := monthStart_ge date.year date.month
  unfold commonNumber number
  omega

theorem commonNumber_next_le : date.next.commonNumber ≤ date.commonNumber + 1 := by
  have day := date.day_pos
  have length := date.day_le
  have months := date.month_le
  have common := monthLength_eq date.year date.month
  unfold commonNumber
  by_cases inMonth : date.day < monthLength date.year date.month
  · obtain ⟨year, month, next⟩ := date.next_inMonth inMonth
    rw [year, month, next]
    omega
  · by_cases inYear : date.month < 12
    · obtain ⟨year, month, next⟩ := date.next_inYear inMonth inYear
      rw [year, month, next, monthStart]
      omega
    · obtain ⟨year, month, next⟩ := date.next_lastOfYear inMonth inYear
      have december : date.month = 12 := by omega
      have november : monthStart 1 12 = 334 := by decide +kernel
      rw [year, month, next, monthStart_one]
      rw [december] at inMonth common ⊢
      have thirtyOne : monthLength 1 12 = 31 := by decide
      omega

/-- The first of March follows on a leap day. -/
theorem next_afterLeapDay (leapDay : date.IsLeapDay) :
    date.next.year = date.year ∧ date.next.month = 3 ∧ date.next.day = 1 := by
  obtain ⟨february, last⟩ := leapDay
  have bound : monthLength date.year 2 ≤ 29 := by
    unfold monthLength
    split_ifs <;> omega
  obtain ⟨year, month, next⟩ := date.next_inYear (by rw [february]; omega) (by omega)
  exact ⟨year, by rw [month, february], next⟩

/-- The first of March has the number of the leap day if every year were a common one. -/
theorem commonNumber_afterLeapDay (leapDay : date.IsLeapDay) :
    date.next.commonNumber = date.commonNumber := by
  obtain ⟨year, month, next⟩ := date.next_afterLeapDay leapDay
  obtain ⟨february, last⟩ := leapDay
  have march : monthStart 1 3 = 59 := by decide +kernel
  have start : monthStart 1 2 = 31 := by decide +kernel
  unfold commonNumber
  rw [year, month, next, february, last, march, start]

/-- No two dates have the same number. -/
theorem number_injective : Function.Injective number := by
  intro first second same
  have firstBounds := first.number_bounds
  have secondBounds := second.number_bounds
  have years : first.year = second.year := by
    have below : first.year < second.year + 1 := year_le_of_number_lt (by omega)
    have above : second.year < first.year + 1 := year_le_of_number_lt (by omega)
    omega
  rw [years] at firstBounds
  have months : first.month = second.month := by
    rcases Nat.lt_trichotomy first.month second.month with below | equal | above
    · have start := monthStart_mono second.year below
      simp only [Nat.succ_eq_add_one] at start
      omega
    · exact equal
    · have start := monthStart_mono second.year above
      simp only [Nat.succ_eq_add_one] at start
      omega
  have days : first.day = second.day := by
    have firstDay := first.day_pos
    have secondDay := second.day_pos
    unfold number at same
    rw [years, months] at same
    omega
  cases first
  cases second
  cases years
  cases months
  cases days
  rfl

end Date

end Hcan.Library.Gregorian
