/-!
# Punycode

A text is written as its basic characters, then, after a hyphen, the places at
which the other ones are inserted, in ascending order of code points.  Each place
is given as the distance from the one before, in digits of variable base.
-/

namespace HttpCall
namespace Idna
namespace Punycode

def firstCode : Nat := 128

def isBasic (c : Char) : Bool := c.toNat < firstCode

/-- Distances fit thirty-two bits. -/
def limit : Nat := 0x100000000

def digitValue? (c : Char) : Option Nat :=
  if 'a' <= c ∧ c <= 'z' then some (c.toNat - 97)
  else if 'A' <= c ∧ c <= 'Z' then some (c.toNat - 65)
  else if '0' <= c ∧ c <= '9' then some (c.toNat - 22)
  else none

def digit (value : Nat) : Char :=
  if value < 26 then Char.ofNat (97 + value) else Char.ofNat (22 + value)

/-- Digits below this value end a number; the position counts in steps of
thirty-six. -/
def threshold (position bias : Nat) : Nat := max 1 (min 26 (position - bias))

theorem threshold_pos (position bias : Nat) : 0 < threshold position bias := by
  unfold threshold
  omega

def reduce (distance : Nat) : Nat × Nat :=
  if 455 < distance then
    let (times, rest) := reduce (distance / 35)
    (times + 1, rest)
  else (0, distance)
termination_by distance
decreasing_by omega

/-- The bias after a distance, given the number of characters so far. -/
def adapt (distance count : Nat) (isFirst : Bool) : Nat :=
  let scaled := if isFirst then distance / 700 else distance / 2
  let (times, rest) := reduce (scaled + scaled / count)
  36 * times + 36 * rest / (rest + 38)

/-! ## Reading -/

def readNumber? (bias : Nat) : Nat -> Nat -> Nat -> List Char -> Option (Nat × List Char)
  | _, _, _, [] => none
  | position, weight, sum, c :: rest =>
      match digitValue? c with
      | none => none
      | some d =>
          let t := threshold position bias
          if limit <= sum + d * weight then none
          else if d < t then some (sum + d * weight, rest)
          else if limit <= weight * (36 - t) then none
          else readNumber? bias (position + 36) (weight * (36 - t)) (sum + d * weight) rest

theorem length_lt_of_readNumber? {bias position weight sum : Nat} {s : List Char}
    {result : Nat × List Char} (h : readNumber? bias position weight sum s = some result) :
    result.2.length < s.length := by
  induction s generalizing position weight sum with
  | nil => simp [readNumber?] at h
  | cons c rest ih =>
      unfold readNumber? at h
      split at h
      · cases h
      · simp only at h
        split at h
        · cases h
        · split at h
          · cases h
            simp
          · split at h
            · cases h
            · have := ih h
              simp only [List.length_cons]
              omega

/-- Insert characters until the digits end, given the last code point, the place
for the next insertion, and the text so far. -/
def insertAll? (bias code index : Nat) (text : List Char) (digits : List Char) :
    Option (List Char) :=
  match digits with
  | [] => some text
  | c :: rest =>
      match h : readNumber? bias 36 1 index (c :: rest) with
      | none => none
      | some (sum, after) =>
          let count := text.length + 1
          let next := code + sum / count
          if next.isValidChar then
            insertAll? (adapt (sum - index) count (index == 0)) next (sum % count + 1)
              (text.insertIdx (sum % count) (Char.ofNat next)) after
          else none
termination_by digits.length
decreasing_by
  have := length_lt_of_readNumber? h
  simpa using this

/-- The text before the last hyphen and the text after it; a hyphen in front is
not one that separates. -/
def splitBasic (s : List Char) : List Char × List Char :=
  let digits := (s.reverse.takeWhile (· ≠ '-')).reverse
  let basic := s.take (s.length - digits.length - 1)
  if basic.isEmpty then ([], s) else (basic, digits)

def decode? (s : List Char) : Option (List Char) :=
  let (basic, digits) := splitBasic s
  if basic.all isBasic then insertAll? 72 firstCode 0 basic digits else none

/-! ## Writing -/

def writeNumber (bias position n : Nat) : List Char :=
  let t := threshold position bias
  if n < t then [digit n]
  else digit (t + (n - t) % (36 - t)) :: writeNumber bias (position + 36) ((n - t) / (36 - t))
termination_by n
decreasing_by
  have := threshold_pos position bias
  have := Nat.div_le_self (n - threshold position bias) (36 - threshold position bias)
  omega

structure Writer where
  distance : Nat
  bias : Nat
  count : Nat
  isFirst : Bool
  digits : List Char

def Writer.pass (code : Nat) (w : Writer) (c : Char) : Writer :=
  if c.toNat < code then { w with distance := w.distance + 1 }
  else if c.toNat = code then
    { distance := 0, bias := adapt w.distance (w.count + 1) w.isFirst, count := w.count + 1,
      isFirst := false, digits := w.digits ++ writeNumber w.bias 36 w.distance }
  else w

def writeAll (text : List Char) : Nat -> List Nat -> Writer -> List Char
  | _, [], w => w.digits
  | first, code :: rest, w =>
      let ready := { w with distance := w.distance + (code - first) * (w.count + 1) }
      let done := text.foldl (Writer.pass code) ready
      writeAll text (code + 1) rest { done with distance := done.distance + 1 }

def encode (text : List Char) : List Char :=
  let basic := text.filter isBasic
  let codes := ((text.filter fun c => !isBasic c).map Char.toNat).mergeSort.eraseDups
  let digits := writeAll text firstCode codes ⟨0, 72, basic.length, true, []⟩
  if basic.isEmpty then digits else basic ++ '-' :: digits

end Punycode
end Idna
end HttpCall
