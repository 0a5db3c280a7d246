/-!
# Durations

A span of time in whole nanoseconds.  Its text names the largest of the units
second, millisecond, microsecond and nanosecond that it reaches, with the
fraction written out and no trailing zero.
-/

namespace HttpCall

structure Duration where
  nanos : Nat
deriving DecidableEq, Repr

namespace Duration

def ofSeconds (seconds nanos : Nat) : Duration := ⟨seconds * 1000000000 + nanos⟩

def zero : Duration := ⟨0⟩

def isZero (d : Duration) : Bool := d.nanos == 0

def wholeSeconds (d : Duration) : Nat := d.nanos / 1000000000

def subsecond (d : Duration) : Nat := d.nanos % 1000000000

def ceilMillis (d : Duration) : Nat := (d.nanos + 999999) / 1000000

def fractionDigits (part places : Nat) : List Char :=
  let digits := Nat.toDigits 10 part
  let padded := List.replicate (places - digits.length) '0' ++ digits
  (padded.reverse.dropWhile (· == '0')).reverse

/-- A count of units with the remaining parts of `10 ^ places` as a fraction. -/
def withUnit (count part places : Nat) (unit : String) : String :=
  let fraction := if part = 0 then [] else '.' :: fractionDigits part places
  toString count ++ String.ofList fraction ++ unit

def text (d : Duration) : String :=
  if 1000000000 <= d.nanos then withUnit (d.nanos / 1000000000) (d.nanos % 1000000000) 9 "s"
  else if 1000000 <= d.nanos then withUnit (d.nanos / 1000000) (d.nanos % 1000000) 6 "ms"
  else if 1000 <= d.nanos then withUnit (d.nanos / 1000) (d.nanos % 1000) 3 "µs"
  else withUnit d.nanos 0 0 "ns"

example : (ofSeconds 1 50000000).text = "1.05s" := by decide
example : (ofSeconds 0 50000000).text = "50ms" := by decide
example : (ofSeconds 0 1001).text = "1.001µs" := by decide
example : zero.text = "0ns" := by decide

end Duration
end HttpCall
