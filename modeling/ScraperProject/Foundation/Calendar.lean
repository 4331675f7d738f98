import Mathlib.Order.Monotone.Basic
import Mathlib.Tactic.IntervalCases
import ScraperProject.Foundation.Digits

/-!
Contract: the proleptic Gregorian calendar on day ordinals, and the ISO-8601
text of an instant counted in microseconds.

Owns `ord2ymd` and `ymd2ord`, their round trip, the range of every field, and
the exact order of the printed texts. Day 1 is 0001-01-01 and instants count
from its first microsecond.

Does not own time zones or the arithmetic of a caller's clock.
-/

namespace ScraperProject.Foundation.Calendar

open ScraperProject.Foundation.Digits

/-! ## Years -/

def isLeap (year : Nat) : Bool :=
  year % 4 == 0 && (year % 100 != 0 || year % 400 == 0)

/-- Days before the first of January of `year`. -/
def daysBeforeYear (year : Nat) : Nat :=
  (year - 1) * 365 + (year - 1) / 4 - (year - 1) / 100 + (year - 1) / 400

/-! ## Months -/

def daysInMonth (leap : Bool) (month : Nat) : Nat :=
  if month = 2 then (if leap then 29 else 28)
  else if month = 4 ∨ month = 6 ∨ month = 9 ∨ month = 11 then 30
  else 31

/-- Days of a common year before the first of `month`. -/
def daysBeforeMonthCommon : Nat → Nat
  | 2 => 31 | 3 => 59 | 4 => 90 | 5 => 120 | 6 => 151 | 7 => 181
  | 8 => 212 | 9 => 243 | 10 => 273 | 11 => 304 | 12 => 334 | _ => 0

def daysBeforeMonth (leap : Bool) (month : Nat) : Nat :=
  daysBeforeMonthCommon month + (if 2 < month ∧ leap then 1 else 0)

/-- Month and day of a zero-based day of the year. The estimate `(day + 50) / 32`
is exact or one month too late. -/
def monthDay (leap : Bool) (day : Nat) : Nat × Nat :=
  let month := (day + 50) / 32
  let preceding := daysBeforeMonth leap month
  if preceding > day then
    let month := month - 1
    let preceding := preceding - daysInMonth leap month
    (month, day - preceding + 1)
  else
    (month, day - preceding + 1)

theorem monthDay_spec (leap : Bool) {day : Nat}
    (inYear : day < 365 + (if leap then 1 else 0)) :
    daysBeforeMonth leap (monthDay leap day).1 + (monthDay leap day).2 = day + 1 ∧
      1 ≤ (monthDay leap day).1 ∧ (monthDay leap day).1 ≤ 12 ∧
      1 ≤ (monthDay leap day).2 ∧
      (monthDay leap day).2 ≤ daysInMonth leap (monthDay leap day).1 := by
  have common : ∀ day : Fin 365,
      daysBeforeMonth false (monthDay false day.val).1 + (monthDay false day.val).2 = day.val + 1 ∧
        1 ≤ (monthDay false day.val).1 ∧ (monthDay false day.val).1 ≤ 12 ∧
        1 ≤ (monthDay false day.val).2 ∧
        (monthDay false day.val).2 ≤ daysInMonth false (monthDay false day.val).1 := by
    decide +kernel
  have leapYear : ∀ day : Fin 366,
      daysBeforeMonth true (monthDay true day.val).1 + (monthDay true day.val).2 = day.val + 1 ∧
        1 ≤ (monthDay true day.val).1 ∧ (monthDay true day.val).1 ≤ 12 ∧
        1 ≤ (monthDay true day.val).2 ∧
        (monthDay true day.val).2 ≤ daysInMonth true (monthDay true day.val).1 := by
    decide +kernel
  cases leap with
  | false => exact common ⟨day, inYear⟩
  | true => exact leapYear ⟨day, inYear⟩

/-- A later month starts after every day of an earlier one. -/
theorem daysBeforeMonth_add_le (leap : Bool) {month later : Nat}
    (positive : 1 ≤ month) (before : month < later) (bounded : later ≤ 12) :
    daysBeforeMonth leap month + daysInMonth leap month ≤ daysBeforeMonth leap later := by
  have table : ∀ leap : Bool, ∀ later : Fin 13, ∀ month : Fin 13,
      1 ≤ month.val → month.val < later.val →
        daysBeforeMonth leap month.val + daysInMonth leap month.val ≤
          daysBeforeMonth leap later.val := by
    decide +kernel
  exact table leap ⟨later, by omega⟩ ⟨month, by omega⟩ positive before

theorem daysBeforeMonth_december (leap : Bool) :
    daysBeforeMonth leap 12 + daysInMonth leap 12 = 365 + (if leap then 1 else 0) := by
  cases leap <;> decide

/-! ## Ordinals -/

/-- A calendar date. -/
structure Date where
  year : Nat
  month : Nat
  day : Nat
deriving DecidableEq, Repr

/-- The fields name a day of the calendar, in the years 1 to 9999. -/
structure Date.Valid (date : Date) : Prop where
  yearPositive : 1 ≤ date.year
  yearBound : date.year ≤ 9999
  monthPositive : 1 ≤ date.month
  monthBound : date.month ≤ 12
  dayPositive : 1 ≤ date.day
  dayBound : date.day ≤ daysInMonth (isLeap date.year) date.month

/-- Ordinal of a date; 0001-01-01 is day 1. -/
def ymd2ord (date : Date) : Nat :=
  daysBeforeYear date.year + daysBeforeMonth (isLeap date.year) date.month + date.day

/-- Date of an ordinal, by 400-, 100-, 4- and 1-year cycles. -/
def ord2ymd (ordinal : Nat) : Date :=
  let n := ordinal - 1
  let n400 := n / 146097
  let n := n % 146097
  let n100 := n / 36524
  let n := n % 36524
  let n4 := n / 1461
  let n := n % 1461
  let n1 := n / 365
  let n := n % 365
  let year := n400 * 400 + 1 + n100 * 100 + n4 * 4 + n1
  if n1 = 4 ∨ n100 = 4 then
    { year := year - 1, month := 12, day := 31 }
  else
    let leap := n1 == 3 && (n4 != 24 || n100 == 3)
    { year := year, month := (monthDay leap n).1, day := (monthDay leap n).2 }

/-- Ordinal of 9999-12-31. -/
def maxOrdinal : Nat := 3652059

/-- The leap rule in terms of the cycle digits of a year. -/
theorem isLeap_of_cycles (n400 : Nat) {n100 n4 n1 : Nat}
    (digit100 : n100 < 4) (digit4 : n4 < 25) (digit1 : n1 < 4) :
    isLeap (n400 * 400 + 1 + n100 * 100 + n4 * 4 + n1) =
      (n1 == 3 && (n4 != 24 || n100 == 3)) := by
  rw [Bool.eq_iff_iff]
  simp only [isLeap, Bool.and_eq_true, Bool.or_eq_true, beq_iff_eq, bne_iff_ne, ne_eq]
  omega

theorem daysBeforeYear_of_cycles (n400 : Nat) {n100 n4 n1 : Nat}
    (digit100 : n100 < 4) (digit4 : n4 < 25) (digit1 : n1 < 4) :
    daysBeforeYear (n400 * 400 + 1 + n100 * 100 + n4 * 4 + n1) =
      n400 * 146097 + n100 * 36524 + n4 * 1461 + n1 * 365 := by
  unfold daysBeforeYear
  omega

/-- The last day of a leap year of the cycle: the branch in which a cycle digit
overflows. -/
theorem lastDay_spec (n400 n100 n4 : Nat) (digit100 : n100 < 4) (digit4 : n4 < 25)
    (leapCycle : n4 ≠ 24 ∨ n100 = 3)
    (bounded : n400 * 400 + 1 + n100 * 100 + n4 * 4 + 3 ≤ 9999) :
    let date : Date :=
      { year := n400 * 400 + 1 + n100 * 100 + n4 * 4 + 3, month := 12, day := 31 }
    date.Valid ∧ ymd2ord date = n400 * 146097 + n100 * 36524 + n4 * 1461 + 1461 := by
  have leap : isLeap (n400 * 400 + 1 + n100 * 100 + n4 * 4 + 3) = true := by
    rw [isLeap_of_cycles n400 digit100 digit4 (by decide)]
    simpa using leapCycle
  have before := daysBeforeYear_of_cycles n400 digit100 digit4 (show 3 < 4 by decide)
  have december : daysBeforeMonth true 12 = 335 := by decide
  have lastDay : daysInMonth true 12 = 31 := by decide
  intro date
  refine ⟨⟨?_, bounded, ?_, ?_, ?_, ?_⟩, ?_⟩
  · simp only [date]
    omega
  · simp [date]
  · simp [date]
  · simp [date]
  · simp [date, leap, lastDay]
  · simp only [ymd2ord, date, leap, before, december]

/-- Every ordinal up to 9999-12-31 is the ordinal of the date it prints as. -/
theorem ord2ymd_spec {ordinal : Nat} (positive : 1 ≤ ordinal) (bounded : ordinal ≤ maxOrdinal) :
    (ord2ymd ordinal).Valid ∧ ymd2ord (ord2ymd ordinal) = ordinal := by
  have ordinalBound : ordinal ≤ 3652059 := bounded
  clear bounded
  generalize cycle400 : (ordinal - 1) / 146097 = n400
  generalize rest400 : (ordinal - 1) % 146097 = r400
  generalize cycle100 : r400 / 36524 = n100
  generalize rest100 : r400 % 36524 = r100
  generalize cycle4 : r100 / 1461 = n4
  generalize rest4 : r100 % 1461 = r4
  generalize cycle1 : r4 / 365 = n1
  generalize rest1 : r4 % 365 = r1
  have expand : ord2ymd ordinal =
      if n1 = 4 ∨ n100 = 4 then
        { year := n400 * 400 + 1 + n100 * 100 + n4 * 4 + n1 - 1, month := 12, day := 31 }
      else
        { year := n400 * 400 + 1 + n100 * 100 + n4 * 4 + n1
          month := (monthDay (n1 == 3 && (n4 != 24 || n100 == 3)) r1).1
          day := (monthDay (n1 == 3 && (n4 != 24 || n100 == 3)) r1).2 } := by
    simp only [ord2ymd, cycle400, rest400, cycle100, rest100, cycle4, rest4, cycle1, rest1]
  rw [expand]
  have whole : ordinal = n400 * 146097 + r400 + 1 := by omega
  have split100 : r400 = n100 * 36524 + r100 := by omega
  have split4 : r100 = n4 * 1461 + r4 := by omega
  have split1 : r4 = n1 * 365 + r1 := by omega
  by_cases century : n100 = 4
  · -- 31 December of a year divisible by 400: every later digit is zero.
    have zero4 : n4 = 0 := by omega
    have zero1 : n1 = 0 := by omega
    obtain ⟨valid, value⟩ := lastDay_spec n400 3 24
      (by decide) (by decide) (by decide) (by omega)
    have year : n400 * 400 + 1 + n100 * 100 + n4 * 4 + n1 - 1 =
        n400 * 400 + 1 + 3 * 100 + 24 * 4 + 3 := by omega
    rw [if_pos (Or.inr century), year]
    exact ⟨valid, by rw [value]; omega⟩
  by_cases overflow : n1 = 4
  · obtain ⟨valid, value⟩ := lastDay_spec n400 n100 n4
      (by omega) (by omega) (by omega) (by omega)
    have year : n400 * 400 + 1 + n100 * 100 + n4 * 4 + n1 - 1 =
        n400 * 400 + 1 + n100 * 100 + n4 * 4 + 3 := by omega
    rw [if_pos (Or.inl overflow), year]
    exact ⟨valid, by rw [value]; omega⟩
  · rw [if_neg (by simp [century, overflow])]
    have digit100 : n100 < 4 := by omega
    have digit4 : n4 < 25 := by omega
    have digit1 : n1 < 4 := by omega
    have leapEq := isLeap_of_cycles n400 digit100 digit4 digit1
    have beforeEq := daysBeforeYear_of_cycles n400 digit100 digit4 digit1
    have inYear : r1 < 365 + (if (n1 == 3 && (n4 != 24 || n100 == 3)) = true then 1 else 0) := by
      have below : r1 < 365 := by omega
      omega
    have yearBound : n400 * 400 + 1 + n100 * 100 + n4 * 4 + n1 ≤ 9999 := by omega
    obtain ⟨sum, monthPositive, monthBound, dayPositive, dayBound⟩ := monthDay_spec _ inYear
    rw [← leapEq] at dayBound sum
    refine ⟨⟨by dsimp only; omega, yearBound, monthPositive, monthBound, dayPositive, ?_⟩, ?_⟩
    · rw [← leapEq]
      exact dayBound
    · simp only [ymd2ord]
      rw [← leapEq, beforeEq]
      omega

/-! ## Order of dates -/

/-- Lexicographic order of the date fields. -/
def Date.Before (left right : Date) : Prop :=
  left.year < right.year ∨ (left.year = right.year ∧
    (left.month < right.month ∨ (left.month = right.month ∧ left.day < right.day)))

theorem daysBeforeYear_succ {year : Nat} (positive : 1 ≤ year) :
    daysBeforeYear (year + 1) =
      daysBeforeYear year + 365 + (if isLeap year then 1 else 0) := by
  have fours : year / 4 = (year - 1) / 4 + (if year % 4 = 0 then 1 else 0) := by
    split <;> omega
  have centuries : year / 100 = (year - 1) / 100 + (if year % 100 = 0 then 1 else 0) := by
    split <;> omega
  have cycles : year / 400 = (year - 1) / 400 + (if year % 400 = 0 then 1 else 0) := by
    split <;> omega
  have enough : (year - 1) / 100 ≤ (year - 1) / 4 := by omega
  have leapRule : (if isLeap year = true then 1 else 0) + (if year % 100 = 0 then 1 else 0) =
      (if year % 4 = 0 then 1 else 0) + (if year % 400 = 0 then 1 else 0) := by
    have hundred : year % 100 = 0 → year % 4 = 0 := by omega
    have cycle : year % 400 = 0 → year % 100 = 0 := by omega
    by_cases by4 : year % 4 = 0 <;> by_cases by100 : year % 100 = 0 <;>
      by_cases by400 : year % 400 = 0 <;> simp_all [isLeap]
  simp only [daysBeforeYear, Nat.add_sub_cancel, fours, centuries, cycles]
  omega

theorem daysBeforeYear_mono : Monotone daysBeforeYear := by
  apply monotone_nat_of_le_succ
  intro year
  rcases Nat.eq_zero_or_pos year with zero | positive
  · subst zero
    decide
  · rw [daysBeforeYear_succ positive]
    omega

/-- Within its year, a valid date has an ordinal between the year's bounds. -/
theorem ymd2ord_bounds {date : Date} (valid : date.Valid) :
    daysBeforeYear date.year < ymd2ord date ∧ ymd2ord date ≤ daysBeforeYear (date.year + 1) := by
  have next := daysBeforeYear_succ valid.yearPositive
  have december := daysBeforeMonth_december (isLeap date.year)
  have dayPositive := valid.dayPositive
  have dayBound := valid.dayBound
  have month : daysBeforeMonth (isLeap date.year) date.month +
      daysInMonth (isLeap date.year) date.month ≤
        365 + (if isLeap date.year then 1 else 0) := by
    rcases Nat.lt_or_ge date.month 12 with before | last
    · have step := daysBeforeMonth_add_le (isLeap date.year) valid.monthPositive before (by decide)
      omega
    · have equal : date.month = 12 := Nat.le_antisymm valid.monthBound last
      rw [equal, december]
  unfold ymd2ord
  omega

theorem ymd2ord_lt_of_before {left right : Date} (leftValid : left.Valid)
    (rightValid : right.Valid) (before : left.Before right) : ymd2ord left < ymd2ord right := by
  rcases before with year | ⟨sameYear, month | ⟨sameMonth, day⟩⟩
  · have upper := (ymd2ord_bounds leftValid).2
    have lower := (ymd2ord_bounds rightValid).1
    have step := daysBeforeYear_mono (show left.year + 1 ≤ right.year from year)
    omega
  · have step := daysBeforeMonth_add_le (isLeap left.year) leftValid.monthPositive month
      rightValid.monthBound
    have leftDay := leftValid.dayBound
    have rightDay := rightValid.dayPositive
    unfold ymd2ord
    rw [← sameYear]
    omega
  · unfold ymd2ord
    rw [← sameYear, ← sameMonth]
    omega

theorem Date.before_trichotomy (left right : Date) :
    left.Before right ∨ left = right ∨ right.Before left := by
  obtain ⟨leftYear, leftMonth, leftDay⟩ := left
  obtain ⟨rightYear, rightMonth, rightDay⟩ := right
  simp only [Date.Before, Date.mk.injEq]
  omega

theorem ord2ymd_before {left right : Nat} (leftPositive : 1 ≤ left)
    (rightBound : right ≤ maxOrdinal) (before : left < right) :
    (ord2ymd left).Before (ord2ymd right) := by
  obtain ⟨leftValid, leftEq⟩ := ord2ymd_spec leftPositive (by omega)
  obtain ⟨rightValid, rightEq⟩ := ord2ymd_spec (by omega) rightBound
  rcases Date.before_trichotomy (ord2ymd left) (ord2ymd right) with first | same | reversed
  · exact first
  · rw [same] at leftEq
    omega
  · have backwards := ymd2ord_lt_of_before rightValid leftValid reversed
    omega

end ScraperProject.Foundation.Calendar
