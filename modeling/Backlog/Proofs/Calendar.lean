import Backlog.Instant.Basic
import Mathlib.Tactic.Common

/-!
# Dates and the days they number

The Gregorian calendar numbers its days by the lengths of its years and months. The date computed
for a day, by way of years that begin in March and cycles of 400 of them, has that day as its
number, so no two days share a date.
-/

namespace Backlog.Date

def isLeap (year : Int) : Bool :=
  decide (year % 4 = 0) && (decide (year % 100 ≠ 0) || decide (year % 400 = 0))

/-- Days from the first of January of year 0 to that of the given year, less the leap day of
year 0. -/
def daysBeforeYear (year : Int) : Int :=
  365 * year + (year - 1) / 4 - (year - 1) / 100 + (year - 1) / 400

/-- Days of a common year before a month. -/
def daysBeforeMonth (month : Nat) : Nat :=
  [0, 31, 59, 90, 120, 151, 181, 212, 243, 273, 304, 334].getD (month - 1) 0

/-- Days from the first of January 1970 to a date. -/
def dayNumber (d : Date) : Int :=
  daysBeforeYear d.year + daysBeforeMonth d.month + (if isLeap d.year ∧ 2 < d.month then 1 else 0) +
    d.day - 719528

/-! ### Years that begin in March -/

/-- The year of a cycle of 400 to which a day of it belongs. -/
def yearOfCycle (dayOfCycle : Nat) : Nat :=
  (dayOfCycle - dayOfCycle / 1460 + dayOfCycle / 36524 - dayOfCycle / 146096) / 365

def daysBeforeYearOfCycle (year : Nat) : Nat := 365 * year + year / 4 - year / 100

/-- Within a century of a cycle, of which only the last can begin with a leap day. -/
lemma yearOfCycle_century {century day : Nat} (hcentury : century ≤ 3) (hday : day < 36524) :
    ∃ year < 100, yearOfCycle (36524 * century + day) = 100 * century + year ∧
      365 * year + year / 4 ≤ day ∧ day ≤ 365 * year + year / 4 + 365 := by
  have hcenturies : (36524 * century + day) / 36524 = century := by omega
  have hlast : (36524 * century + day) / 146096 = 0 := by omega
  have hleaps : (36524 * century + day) / 1460 = 25 * century + (day + 24 * century) / 1460 := by
    omega
  refine ⟨(day - (day + 24 * century) / 1460) / 365, by omega, ?_, by omega, by omega⟩
  rw [yearOfCycle, hcenturies, hlast, hleaps]
  omega

/-- A day lies within the year of the cycle that is computed for it. -/
lemma yearOfCycle_spec {day : Nat} (hday : day < 146097) : yearOfCycle day < 400 ∧
    daysBeforeYearOfCycle (yearOfCycle day) ≤ day ∧
      day ≤ daysBeforeYearOfCycle (yearOfCycle day) + 365 := by
  by_cases hlast : day = 146096
  · subst hlast
    decide
  · have hsplit : 36524 * (day / 36524) + day % 36524 = day := Nat.div_add_mod day 36524
    obtain ⟨year, hyear, heq, hlow, hhigh⟩ := yearOfCycle_century
      (show day / 36524 ≤ 3 by omega) (show day % 36524 < 36524 by omega)
    generalize day / 36524 = century at hsplit heq
    have hcount : daysBeforeYearOfCycle (100 * century + year) =
        36524 * century + (365 * year + year / 4) := by
      have hfour : (100 * century + year) / 4 = 25 * century + year / 4 := by omega
      have hhundred : (100 * century + year) / 100 = century := by omega
      rw [daysBeforeYearOfCycle, hfour, hhundred]
      omega
    rw [hsplit] at heq
    rw [heq, hcount]
    omega

/-- The number of a month that is counted from March. -/
def monthOfMarch (month : Nat) : Nat := if month < 10 then month + 3 else month - 9

lemma daysBeforeMonth_ofMarch : ∀ month < 12,
    daysBeforeMonth (monthOfMarch month) + (if month < 10 then 0 else 365) =
      (153 * month + 2) / 5 + 59 := by
  decide

/-- The leap day of the year before counts in years that begin in March. -/
lemma daysBeforeYear_march (year : Int) :
    daysBeforeYear year + (if isLeap year then 1 else 0) =
        365 * year + year / 4 - year / 100 + year / 400 ∧
      daysBeforeYear (year + 1) = 365 * (year + 1) + year / 4 - year / 100 + year / 400 := by
  constructor
  · have hleap : isLeap year = true ↔ year % 4 = 0 ∧ (year % 100 ≠ 0 ∨ year % 400 = 0) := by
      simp [isLeap]
    rw [daysBeforeYear]
    by_cases h : isLeap year = true
    · rw [if_pos h]
      rw [hleap] at h
      omega
    · rw [if_neg h]
      rw [hleap] at h
      omega
  · rw [daysBeforeYear, Int.add_sub_cancel]

/-- A date by its year from March, its month in that year and its day. -/
lemma dayNumber_march (year : Int) {month : Nat} (hmonth : month < 12) (day : Nat) :
    dayNumber ⟨if monthOfMarch month ≤ 2 then year + 1 else year, monthOfMarch month, day + 1⟩ =
      365 * year + year / 4 - year / 100 + year / 400 + ((153 * month + 2) / 5 : Nat) + day -
        719468 := by
  obtain ⟨hthis, hnext⟩ := daysBeforeYear_march year
  have hdays := daysBeforeMonth_ofMarch month hmonth
  by_cases hearly : month < 10
  · have hof : monthOfMarch month = month + 3 := if_pos hearly
    rw [if_pos hearly] at hdays
    rw [hof] at hdays ⊢
    have hlate : ¬month + 3 ≤ 2 := by omega
    have hafter : 2 < month + 3 := by omega
    simp only [dayNumber, hlate, hafter, and_true, if_false]
    omega
  · have hof : monthOfMarch month = month - 9 := if_neg hearly
    rw [if_neg hearly] at hdays
    rw [hof] at hdays ⊢
    have hjanuary : month - 9 ≤ 2 := by omega
    have hbefore : ¬2 < month - 9 := by omega
    simp only [dayNumber, hjanuary, hbefore, and_false, if_true, if_false]
    omega

/-! ### The date of a day -/

/-- The date of a day is made of its year from March, its month in it and its day in that. -/
lemma exists_march (days : Int) : ∃ (year : Int) (month day : Nat), month < 12 ∧ day < 31 ∧
    ofDays days =
      ⟨if monthOfMarch month ≤ 2 then year + 1 else year, monthOfMarch month, day + 1⟩ ∧
    365 * year + year / 4 - year / 100 + year / 400 + ((153 * month + 2) / 5 : Nat) + day - 719468 =
      days := by
  have hcycle : ((days + 719468) % 146097).toNat < 146097 := by omega
  obtain ⟨hyear, hlow, hhigh⟩ := yearOfCycle_spec hcycle
  generalize hday : ((days + 719468) % 146097).toNat = dayOfCycle at hyear hlow hhigh
  generalize hcycleYear : yearOfCycle dayOfCycle = cycleYear at hyear hlow hhigh
  generalize hdayOfYear : dayOfCycle - daysBeforeYearOfCycle cycleYear = dayOfYear
  generalize hmonth : (5 * dayOfYear + 2) / 153 = month
  have hdate : ofDays days =
      ⟨if monthOfMarch month ≤ 2 then (days + 719468) / 146097 * 400 + cycleYear + 1
        else (days + 719468) / 146097 * 400 + cycleYear,
        monthOfMarch month, dayOfYear - (153 * month + 2) / 5 + 1⟩ := by
    subst hmonth hdayOfYear hcycleYear hday
    rfl
  refine ⟨_, month, _, by omega, by omega, hdate, ?_⟩
  have hsplit : days + 719468 = 146097 * ((days + 719468) / 146097) + dayOfCycle := by omega
  generalize (days + 719468) / 146097 = cycle at hsplit
  rw [daysBeforeYearOfCycle] at hdayOfYear hlow hhigh
  have hfour : (cycle * 400 + cycleYear) / 4 = cycle * 100 + (cycleYear / 4 : Nat) := by omega
  have hhundred : (cycle * 400 + cycleYear) / 100 = cycle * 4 + (cycleYear / 100 : Nat) := by omega
  have hcycles : (cycle * 400 + cycleYear) / 400 = cycle := by omega
  rw [hfour, hhundred, hcycles]
  omega

/-- The date of a day has that day as its number. -/
theorem dayNumber_ofDays (days : Int) : dayNumber (ofDays days) = days := by
  obtain ⟨year, month, day, hmonth, _, hdate, hnumber⟩ := exists_march days
  rw [hdate, dayNumber_march year hmonth, hnumber]

example : ofDays 11016 = ⟨2000, 2, 29⟩ := by decide

/-- Months and days of the month have two digits at most. -/
theorem ofDays_ranges (days : Int) : (ofDays days).month ≤ 12 ∧ (ofDays days).day ≤ 31 := by
  obtain ⟨year, month, day, hmonth, hday, hdate, _⟩ := exists_march days
  rw [hdate]
  dsimp only
  rw [monthOfMarch]
  constructor
  · split <;> omega
  · omega

end Backlog.Date
