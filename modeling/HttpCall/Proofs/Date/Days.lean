import Mathlib.Order.Monotone.Basic
import HttpCall.Calendar

/-!
# From a number of days to a date

The date of a day is found in two steps: the year, from the mean length of a year and at
most one correction, and then the month, by going through the months of that year.  Its
day number is the day.
-/

namespace HttpCall
namespace Calendar

def epoch : Nat := daysBeforeYear 1970

/-- The year of a day, counted from 1 January of the year 1.  Four hundred years have 146097
days; the year found by their mean length may be the one before. -/
def yearOf (day : Nat) : Nat :=
  if daysBeforeYear (day * 400 / 146097 + 2) <= day then day * 400 / 146097 + 2
  else day * 400 / 146097 + 1

def monthFrom (year : Nat) : Nat -> Nat -> Nat -> Nat
  | 0, month, _ => month
  | left + 1, month, dayOfYear =>
      if dayOfYear < daysBeforeMonth year (month + 1) then month
      else monthFrom year left (month + 1) dayOfYear

/-! ## Years -/

theorem daysBeforeYear_mono {y z : Nat} (h : y <= z) : daysBeforeYear y <= daysBeforeYear z := by
  refine monotone_nat_of_le_succ (fun year => ?_) h
  unfold daysBeforeYear
  omega

theorem daysBeforeYear_mean (years : Nat) :
    400 * daysBeforeYear (years + 1) < 146097 * years + 400 ∧
      146097 * years < 400 * daysBeforeYear (years + 1) + 800 := by
  unfold daysBeforeYear
  omega

theorem daysBeforeYear_yearOf_le (day : Nat) : daysBeforeYear (yearOf day) <= day := by
  unfold yearOf
  split
  · assumption
  · have hmean := (daysBeforeYear_mean (day * 400 / 146097)).1
    omega

theorem lt_daysBeforeYear_yearOf_succ (day : Nat) : day < daysBeforeYear (yearOf day + 1) := by
  unfold yearOf
  split
  · have hmean := (daysBeforeYear_mean (day * 400 / 146097 + 2)).2
    omega
  · rename_i h
    exact Nat.lt_of_not_le h

theorem le_yearOf {year day : Nat} (h : daysBeforeYear year <= day) : year <= yearOf day := by
  have hnext := lt_daysBeforeYear_yearOf_succ day
  rcases Nat.lt_or_ge (yearOf day) year with hlt | hge
  · have hmono := daysBeforeYear_mono (show yearOf day + 1 <= year from hlt)
    omega
  · exact hge

theorem yearOf_lt {year day : Nat} (h : day < daysBeforeYear year) : yearOf day < year := by
  have hle := daysBeforeYear_yearOf_le day
  rcases Nat.lt_or_ge (yearOf day) year with hlt | hge
  · exact hlt
  · have hmono := daysBeforeYear_mono hge
    omega

/-! ## Months -/

theorem monthLength_le (year month : Nat) : monthLength year month <= 31 := by
  unfold monthLength
  split <;> first | decide | (split <;> decide)

theorem daysBeforeMonth_succ {year month : Nat} (hmonth : 1 <= month) :
    daysBeforeMonth year (month + 1) = daysBeforeMonth year month + monthLength year month := by
  obtain ⟨before, rfl⟩ : exists before, month = before + 1 := ⟨month - 1, by omega⟩
  unfold daysBeforeMonth
  rw [Nat.add_sub_cancel, Nat.add_sub_cancel, List.range_succ, List.foldl_append]
  rfl

theorem isLeapYear_eq_false {year : Nat} (h : isLeapYear year = false) :
    year % 4 ≠ 0 ∨ year % 100 = 0 ∧ year % 400 ≠ 0 := by
  by_cases hfour : year % 4 = 0
  · exact .inr (by simpa [isLeapYear, hfour] using h)
  · exact .inl hfour

theorem daysBeforeYear_succ {year : Nat} (hyear : 1 <= year) :
    daysBeforeYear (year + 1) = daysBeforeYear year + daysBeforeMonth year 13 := by
  have hlength : daysBeforeMonth year 13 = if isLeapYear year then 366 else 365 := by
    unfold daysBeforeMonth
    rw [show List.range (13 - 1) = [0, 1, 2, 3, 4, 5, 6, 7, 8, 9, 10, 11] from rfl]
    cases hleap : isLeapYear year <;> simp [monthLength, hleap]
  rw [hlength]
  unfold daysBeforeYear
  cases hleap : isLeapYear year with
  | true =>
      simp only [isLeapYear, Bool.and_eq_true, Bool.or_eq_true, beq_iff_eq, bne_iff_ne] at hleap
      obtain ⟨hfour, hhundred | hfourHundred⟩ := hleap <;> simp only [if_true] <;> omega
  | false =>
      simp only [Bool.false_eq_true, if_false, Nat.add_sub_cancel]
      obtain hfour | ⟨hhundred, hfourHundred⟩ := isLeapYear_eq_false hleap
      · have hfours : year / 4 = (year - 1) / 4 := by omega
        have hhundreds : year / 100 = (year - 1) / 100 := by omega
        have hfourHundreds : year / 400 = (year - 1) / 400 := by omega
        rw [hfours, hhundreds, hfourHundreds]
        omega
      · omega

theorem monthFrom_bounds (year left month dayOfYear : Nat) :
    month <= monthFrom year left month dayOfYear ∧
      monthFrom year left month dayOfYear <= month + left := by
  induction left generalizing month with
  | zero =>
      exact ⟨Nat.le_refl month, Nat.le_refl month⟩
  | succ left ih =>
      unfold monthFrom
      split
      · exact ⟨Nat.le_refl month, by omega⟩
      · have hbounds := ih (month + 1)
        omega

theorem monthFrom_holds {year left month dayOfYear : Nat}
    (hstart : daysBeforeMonth year month <= dayOfYear)
    (hend : dayOfYear < daysBeforeMonth year (month + left + 1)) :
    daysBeforeMonth year (monthFrom year left month dayOfYear) <= dayOfYear ∧
      dayOfYear < daysBeforeMonth year (monthFrom year left month dayOfYear + 1) := by
  induction left generalizing month with
  | zero =>
      exact ⟨hstart, hend⟩
  | succ left ih =>
      unfold monthFrom
      split
      · rename_i hhere
        exact ⟨hstart, hhere⟩
      · rename_i hlater
        rw [show month + (left + 1) + 1 = month + 1 + left + 1 by omega] at hend
        exact ih (Nat.le_of_not_lt hlater) hend

/-! ## The date of a day -/

section

variable (day : Nat)

def yearAt : Nat := yearOf (day + epoch)

def dayOfYearAt : Nat := day + epoch - daysBeforeYear (yearAt day)

def monthAt : Nat := monthFrom (yearAt day) 11 1 (dayOfYearAt day)

def dayOfMonthAt : Nat := dayOfYearAt day - daysBeforeMonth (yearAt day) (monthAt day) + 1

theorem le_yearAt : 1970 <= yearAt day := le_yearOf (Nat.le_add_left epoch day)

theorem daysBeforeYear_yearAt_le : daysBeforeYear (yearAt day) <= day + epoch :=
  daysBeforeYear_yearOf_le (day + epoch)

theorem monthAt_bounds : 1 <= monthAt day ∧ monthAt day <= 12 :=
  monthFrom_bounds (yearAt day) 11 1 (dayOfYearAt day)

theorem monthAt_holds :
    daysBeforeMonth (yearAt day) (monthAt day) <= dayOfYearAt day ∧
      dayOfYearAt day < daysBeforeMonth (yearAt day) (monthAt day + 1) := by
  have hyear := le_yearAt day
  have hnext : day + epoch < daysBeforeYear (yearAt day + 1) :=
    lt_daysBeforeYear_yearOf_succ (day + epoch)
  have hle := daysBeforeYear_yearAt_le day
  have hend : dayOfYearAt day < daysBeforeMonth (yearAt day) 13 := by
    have hsucc := daysBeforeYear_succ (show 1 <= yearAt day by omega)
    unfold dayOfYearAt
    omega
  exact monthFrom_holds (Nat.zero_le _) hend

theorem dayOfMonthAt_le : dayOfMonthAt day <= monthLength (yearAt day) (monthAt day) := by
  obtain ⟨hstart, hend⟩ := monthAt_holds day
  rw [daysBeforeMonth_succ (monthAt_bounds day).1] at hend
  unfold dayOfMonthAt
  omega

/-- The date of a day has the number of the day. -/
theorem dayNumber_at : dayNumber (yearAt day) (monthAt day) (dayOfMonthAt day) = day := by
  have hmonth := (monthAt_holds day).1
  have hle := daysBeforeYear_yearAt_le day
  have hepoch : epoch <= daysBeforeYear (yearAt day) := daysBeforeYear_mono (le_yearAt day)
  unfold dayNumber dayOfMonthAt
  unfold dayOfYearAt at *
  unfold epoch at *
  omega

end

theorem yearAt_lt {year day : Nat} (h : day + epoch < daysBeforeYear year) :
    yearAt day < year :=
  yearOf_lt h

end Calendar
end HttpCall
