import HttpCall.Duration

/-!
# The clock

The clock counts nanoseconds and holds less than `2 ^ 63` seconds, so not every
deadline that can be named can be represented.
-/

namespace HttpCall
namespace Clock

/-- The first reading in nanoseconds that the clock cannot hold. -/
def limit : Nat := 0x8000000000000000 * 1000000000

/-- The reading after a time, if the clock can hold it. -/
def after? (start : Nat) (d : Duration) : Option Nat :=
  if start + d.nanos < limit then some (start + d.nanos) else none

end Clock
end HttpCall
