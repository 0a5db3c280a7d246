import HttpCall.Text.Numeral
import HttpCall.Text.Search
import HttpCall.Text.Split

/-!
# Tables of code points

A set of code points, given by the places at which membership changes.  The text
of a table lists the distances between these places in hexadecimal.
-/

namespace HttpCall
namespace Text

structure RangeTable where
  flips : Array Nat

namespace RangeTable

def places (distances : List Nat) : List Nat :=
  (distances.foldl (fun (sum, acc) d => (sum + d, (sum + d) :: acc))
    (0, ([] : List Nat))).2.reverse

def ofText (s : String) : RangeTable :=
  ⟨(places ((words s.toList).filterMap (readDigits hexValue? 16 0))).toArray⟩

def contains (t : RangeTable) (n : Nat) : Bool :=
  search (fun i => t.flips.getD i 0) n t.flips.size % 2 == 1

end RangeTable
end Text
end HttpCall
