import HttpCall.Calendar
import HttpCall.Text.Numeral
import HttpCall.Text.Blank

/-!
# HTTP dates

The three forms of a date in a header field: the fixed form of current
senders, the older form with a long weekday and a two-digit year, and the form
of the C library.  All are case-sensitive, and a date that does not exist, or
whose weekday is not that of its day, is refused.
-/

namespace HttpCall

structure HttpDate where
  year : Nat
  month : Nat
  day : Nat
  hour : Nat
  minute : Nat
  second : Nat
  weekday : Nat
deriving DecidableEq, Repr

namespace HttpDate

/-- The date exists, lies in the years 1970 to 9999 and has its own weekday. -/
def isReal (d : HttpDate) : Bool :=
  d.second < 60 && d.minute < 60 && d.hour < 24 &&
    1970 <= d.year && d.year <= 9999 &&
    1 <= d.month && d.month <= 12 &&
    1 <= d.day && d.day <= Calendar.monthLength d.year d.month &&
    d.weekday == Calendar.weekdayOf (Calendar.dayNumber d.year d.month d.day)

def toSeconds (d : HttpDate) : Nat :=
  Calendar.dayNumber d.year d.month d.day * 86400 +
    d.hour * 3600 + d.minute * 60 + d.second

def weekdayNames : List String :=
  ["Mon", "Tue", "Wed", "Thu", "Fri", "Sat", "Sun"]

def longWeekdayNames : List String :=
  ["Monday", "Tuesday", "Wednesday", "Thursday", "Friday", "Saturday", "Sunday"]

def monthNames : List String :=
  ["Jan", "Feb", "Mar", "Apr", "May", "Jun",
   "Jul", "Aug", "Sep", "Oct", "Nov", "Dec"]

abbrev Scan (α : Type) := StateT (List Char) Option α

namespace Scan

def char (p : Char -> Bool) : Scan Char := fun s =>
  match s with
  | c :: rest => if p c then some (c, rest) else none
  | [] => none

def text (t : String) : Scan Unit := fun s =>
  if t.toList.isPrefixOf s then some ((), s.drop t.length) else none

def digits (count : Nat) : Scan Nat := fun s =>
  if (s.take count).length = count then
    (Text.readNat (s.take count)).map fun n => (n, s.drop count)
  else none

def name (names : List String) (after : String) : Scan Nat := fun s =>
  names.zipIdx.findSome? fun (n, i) =>
    if (n ++ after).toList.isPrefixOf s then
      some (i + 1, s.drop (n ++ after).length)
    else none

def finish : Scan Unit := fun s =>
  if s.isEmpty then some ((), []) else none

def clock : Scan (Nat × Nat × Nat) := do
  let hour <- digits 2
  text ":"
  let minute <- digits 2
  text ":"
  let second <- digits 2
  return (hour, minute, second)

end Scan

open Scan

def fixedForm : Scan HttpDate := do
  let weekday <- name weekdayNames ", "
  let day <- digits 2
  text " "
  let month <- name monthNames " "
  let year <- digits 4
  text " "
  let (hour, minute, second) <- clock
  text " GMT"
  finish
  return { year, month, day, hour, minute, second, weekday }

/-- The form `Sunday, 06-Nov-94 08:49:37 GMT`; years below 70 belong to the
century from 2000.  Any one character of ASCII may stand before the time. -/
def longForm : Scan HttpDate := do
  let weekday <- name longWeekdayNames ", "
  let day <- digits 2
  text "-"
  let month <- name monthNames "-"
  let year <- digits 2
  let _ <- char fun c => c.toNat < 128
  let (hour, minute, second) <- clock
  text " GMT"
  finish
  let century := if year < 70 then 2000 else 1900
  return { year := century + year, month, day, hour, minute, second, weekday }

/-- The form `Sun Nov  6 08:49:37 1994`; a day of one digit follows a second blank. -/
def plainForm : Scan HttpDate := do
  let weekday <- name weekdayNames " "
  let month <- name monthNames " "
  let day <- (do text " "; digits 1) <|> digits 2
  text " "
  let (hour, minute, second) <- clock
  text " "
  let year <- digits 4
  finish
  return { year, month, day, hour, minute, second, weekday }

def parse? (s : List Char) : Option HttpDate :=
  match (fixedForm.run (Text.trim s) <|> longForm.run (Text.trim s) <|>
      plainForm.run (Text.trim s)) with
  | some (date, _) => if date.isReal then some date else none
  | none => none

end HttpDate
end HttpCall
