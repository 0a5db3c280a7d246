/-!
# Searching in ascending keys

Halving an interval finds how many of some ascending keys are at most a number.
-/

namespace HttpCall
namespace Text

/-- The number of keys that are at most `n`, if those before `low` are and those
from `high` on are not. -/
def searchBetween (key : Nat -> Nat) (n : Nat) : Nat -> Nat -> Nat -> Nat
  | 0, low, _ => low
  | fuel + 1, low, high =>
      if low < high then
        let middle := (low + high) / 2
        if key middle <= n then searchBetween key n fuel (middle + 1) high
        else searchBetween key n fuel low middle
      else low

def search (key : Nat -> Nat) (n size : Nat) : Nat := searchBetween key n size 0 size

end Text
end HttpCall
