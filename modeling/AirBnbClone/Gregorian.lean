import Mathlib.Tactic

/-!
# The proleptic Gregorian calendar on day numbers

Day number `0` is 1 January 1970. Years start in March inside the computation, so that the leap
day is the last day of the year, and every count is an integer division that rounds down. A month
outside `1..12` and a day outside the month carry over.
-/

namespace Gregorian

structure Civil where
  year : ℤ
  month : ℤ
  day : ℤ
  deriving DecidableEq

/-- Days from 1 March of year `0` to 1 March of year `y`. -/
def daysBeforeMarch (y : ℤ) : ℤ := 365 * y + y / 4 - y / 100 + y / 400

/-- Days from 1 March to the first day of the month with index `m`, March being `0`. -/
def daysBeforeMonth (m : ℤ) : ℤ := (153 * m + 2) / 5

def dayNumber (year month day : ℤ) : ℤ :=
  let y := year + (month - 1) / 12
  let m := (month - 1) % 12
  daysBeforeMarch (if m < 2 then y - 1 else y) + daysBeforeMonth ((m + 10) % 12) + (day - 1) -
    719468

def civil (n : ℤ) : Civil :=
  let era := (n + 719468) / 146097
  let dayOfEra := (n + 719468) % 146097
  let century := min (dayOfEra / 36524) 3
  let cycle := (dayOfEra - 36524 * century) / 1461
  let dayOfCycle := (dayOfEra - 36524 * century) % 1461
  let yearOfCycle := min (dayOfCycle / 365) 3
  let y := 400 * era + 100 * century + 4 * cycle + yearOfCycle
  let dayOfYear := dayOfCycle - 365 * yearOfCycle
  let m := (5 * dayOfYear + 2) / 153
  ⟨if m < 10 then y else y + 1, if m < 10 then m + 3 else m - 9,
    dayOfYear - daysBeforeMonth m + 1⟩

theorem daysBeforeMarch_cycle {era century cycle yearOfCycle : ℤ} (hc : 0 ≤ century ∧ century ≤ 3)
    (hq : 0 ≤ cycle ∧ cycle ≤ 24) (ha : 0 ≤ yearOfCycle ∧ yearOfCycle ≤ 3) :
    daysBeforeMarch (400 * era + 100 * century + 4 * cycle + yearOfCycle) =
      146097 * era + 36524 * century + 1461 * cycle + 365 * yearOfCycle := by
  unfold daysBeforeMarch
  omega

/-- The month index and the year survive the shift between March and January. -/
theorem dayNumber_shift (y m d : ℤ) (hm : 0 ≤ m ∧ m ≤ 11) :
    dayNumber (if m < 10 then y else y + 1) (if m < 10 then m + 3 else m - 9) d =
      daysBeforeMarch y + daysBeforeMonth m + (d - 1) - 719468 := by
  unfold dayNumber
  by_cases h : m < 10
  · simp only [if_pos h]
    have hcarry : (m + 3 - 1) / 12 = 0 := by omega
    have hmod : (m + 3 - 1) % 12 = m + 2 := by omega
    have hlt : ¬ (m + 2 < 2) := by omega
    have hidx : (m + 2 + 10) % 12 = m := by omega
    simp only [hcarry, hmod, if_neg hlt, hidx, add_zero]
  · simp only [if_neg h]
    have hcarry : (m - 9 - 1) / 12 = 0 := by omega
    have hmod : (m - 9 - 1) % 12 = m - 10 := by omega
    have hlt : m - 10 < 2 := by omega
    have hidx : (m - 10 + 10) % 12 = m := by omega
    simp only [hcarry, hmod, if_pos hlt, hidx, add_zero, add_sub_cancel_right]

theorem dayNumber_add_day (y m d i : ℤ) : dayNumber y m (d + i) = dayNumber y m d + i := by
  unfold dayNumber
  ring

/-- Reading a day number as a date and numbering that date gives the day number back. -/
theorem dayNumber_civil (n : ℤ) : dayNumber (civil n).year (civil n).month (civil n).day = n := by
  have hera : 0 ≤ (n + 719468) % 146097 ∧ (n + 719468) % 146097 < 146097 := by omega
  set doe := (n + 719468) % 146097 with hdoe
  set c := min (doe / 36524) 3 with hc
  have hcb : 0 ≤ c ∧ c ≤ 3 := by omega
  have hdoc : 0 ≤ doe - 36524 * c ∧ doe - 36524 * c ≤ 36524 := by omega
  set q := (doe - 36524 * c) / 1461 with hq
  have hqb : 0 ≤ q ∧ q ≤ 24 := by omega
  set doq := (doe - 36524 * c) % 1461 with hdoq
  have hdoqb : 0 ≤ doq ∧ doq ≤ 1460 := by omega
  set a := min (doq / 365) 3 with ha
  have hab : 0 ≤ a ∧ a ≤ 3 := by omega
  have hdoy : 0 ≤ doq - 365 * a ∧ doq - 365 * a ≤ 365 := by omega
  have hm : 0 ≤ (5 * (doq - 365 * a) + 2) / 153 ∧ (5 * (doq - 365 * a) + 2) / 153 ≤ 11 := by omega
  have hshift := dayNumber_shift (400 * ((n + 719468) / 146097) + 100 * c + 4 * q + a)
    ((5 * (doq - 365 * a) + 2) / 153)
    (doq - 365 * a - daysBeforeMonth ((5 * (doq - 365 * a) + 2) / 153) + 1) hm
  rw [daysBeforeMarch_cycle hcb hqb hab] at hshift
  unfold civil
  simp only [← hdoe, ← hc, ← hq, ← hdoq, ← ha]
  rw [hshift]
  omega

example : civil 20000 = ⟨2024, 10, 4⟩ := by decide

end Gregorian
