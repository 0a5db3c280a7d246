/-!
# The Gregorian calendar

Days are counted from 1 January 1970, which was a Thursday.  A weekday is a
number from 1 (Monday) to 7 (Sunday).
-/

namespace HttpCall
namespace Calendar

def isLeapYear (year : Nat) : Bool :=
  year % 4 == 0 && (year % 100 != 0 || year % 400 == 0)

def monthLength (year month : Nat) : Nat :=
  match month with
  | 1 | 3 | 5 | 7 | 8 | 10 | 12 => 31
  | 4 | 6 | 9 | 11 => 30
  | 2 => if isLeapYear year then 29 else 28
  | _ => 0

def daysBeforeMonth (year month : Nat) : Nat :=
  (List.range (month - 1)).foldl (fun days m => days + monthLength year (m + 1)) 0

def daysBeforeYear (year : Nat) : Nat :=
  (year - 1) * 365 + (year - 1) / 4 - (year - 1) / 100 + (year - 1) / 400

def dayNumber (year month day : Nat) : Nat :=
  daysBeforeYear year - daysBeforeYear 1970 + daysBeforeMonth year month + (day - 1)

def weekdayOf (dayNumber : Nat) : Nat :=
  (dayNumber + 3) % 7 + 1

example : dayNumber 1970 1 1 = 0 := by decide
example : dayNumber 2000 3 1 = 11017 := by decide
example : weekdayOf (dayNumber 1994 11 6) = 7 := by decide

end Calendar
end HttpCall
