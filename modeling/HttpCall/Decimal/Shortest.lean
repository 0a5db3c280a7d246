/-!
# Shortest decimals

The decimal with the fewest digits among those that round to a given binary
fraction; of two such decimals the nearer one.  A positive finite fraction is
`mantissa * 2 ^ exponent`, and the decimals that round to it lie between its
midpoints with the neighbouring fractions.
-/

namespace HttpCall
namespace Decimal

structure Scaled where
  digits : Nat
  power : Int
deriving DecidableEq, Repr

/-- A positive fraction over a common denominator, with the bounds of what
rounds to it. -/
structure Interval where
  low : Nat
  value : Nat
  high : Nat
  denominator : Nat
  closed : Bool

/-- The interval of `mantissa * 2 ^ exponent`; `narrow` says that the fractions
below are twice as dense. -/
def Interval.of (mantissa : Nat) (exponent : Int) (narrow : Bool) : Interval :=
  let scale := if 2 <= exponent then Nat.pow 2 (exponent - 2).toNat else 1
  { low := (4 * mantissa - (if narrow then 1 else 2)) * scale
    value := 4 * mantissa * scale
    high := (4 * mantissa + 2) * scale
    denominator := if 2 <= exponent then 1 else Nat.pow 2 (2 - exponent).toNat
    closed := mantissa % 2 == 0 }

def Interval.holds (i : Interval) (digits : Nat) (power : Int) : Bool :=
  let left := if 0 <= power then digits * Nat.pow 10 power.toNat * i.denominator
    else digits * i.denominator
  let scale := if 0 <= power then 1 else Nat.pow 10 (-power).toNat
  if i.closed then i.low * scale <= left && left <= i.high * scale
  else i.low * scale < left && left < i.high * scale

def Interval.floor (i : Interval) (power : Int) : Nat :=
  if 0 <= power then i.value / (i.denominator * Nat.pow 10 power.toNat)
  else i.value * Nat.pow 10 (-power).toNat / i.denominator

def Interval.nearerAbove (i : Interval) (floor : Nat) (power : Int) : Bool :=
  let scale := if 0 <= power then 1 else Nat.pow 10 (-power).toNat
  let unit := if 0 <= power then i.denominator * Nat.pow 10 power.toNat else i.denominator
  let twice := 2 * (i.value * scale)
  (2 * floor + 1) * unit < twice ||
    ((2 * floor + 1) * unit == twice && floor % 2 == 1)

def Interval.magnitude (i : Interval) : Int :=
  if i.denominator <= i.value then
    ((Nat.toDigits 10 (i.value / i.denominator)).length : Int) - 1
  else
    ((Nat.toDigits 10 i.value).length : Int) - ((Nat.toDigits 10 i.denominator).length : Int)
      - (if i.value * Nat.pow 10 ((Nat.toDigits 10 i.denominator).length -
            (Nat.toDigits 10 i.value).length) < i.denominator then 1 else 0)

/-- Try grids of more and more digits. -/
def Interval.search (i : Interval) : Nat -> Nat -> Scaled
  | 0, _ => ⟨i.floor (i.magnitude - 16), i.magnitude - 16⟩
  | fuel + 1, places =>
      let power := i.magnitude - (places : Int)
      let floor := i.floor power
      let below := i.holds floor power
      let above := i.holds (floor + 1) power
      if above && (!below || i.nearerAbove floor power) then ⟨floor + 1, power⟩
      else if below then ⟨floor, power⟩
      else search i fuel (places + 1)

def Scaled.trim : Nat -> Scaled -> Scaled
  | 0, s => s
  | fuel + 1, s =>
      if s.digits % 10 == 0 && s.digits != 0 then
        trim fuel { digits := s.digits / 10, power := s.power + 1 }
      else s

def shortest (x : Float) : Scaled :=
  let bits := x.toBits.toNat % 0x8000000000000000
  let field : Nat := bits / 0x10000000000000
  let part : Nat := bits % 0x10000000000000
  let interval :=
    if field = 0 then Interval.of part (-1074) false
    else Interval.of (part + 0x10000000000000) ((field : Int) - 1075) (part == 0 && 1 < field)
  (interval.search 17 0).trim 20

end Decimal
end HttpCall
