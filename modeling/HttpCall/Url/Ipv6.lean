import HttpCall.Text.Numeral
import HttpCall.Text.Split

/-!
# Addresses of a hundred and twenty-eight bits

Eight groups of up to four hexadecimal digits between colons.  Two colons stand
once for one or more groups of zero, and the last two groups may be written as
four decimal parts.
-/

namespace HttpCall
namespace Url
namespace Ipv6

def readByte (s : List Char) : Option Nat :=
  match Text.readNat s with
  | some n => if n <= 255 && (s.length == 1 || s.head? != some '0') then some n else none
  | none => none

def readDotted (s : List Char) : Option (List Nat) :=
  match (Text.splitOn '.' s).mapM readByte with
  | some [a, b, c, d] => some [a * 256 + b, c * 256 + d]
  | _ => none

def readGroup (s : List Char) : Option Nat :=
  if s.isEmpty || 4 < s.length then none else Text.readDigits Text.hexValue? 16 0 s

/-- Read groups between colons; only the last may be dotted. -/
def readGroups : List (List Char) -> Option (List Nat)
  | [] => some []
  | [last] => if last.contains '.' then readDotted last else (readGroup last).map ([·])
  | group :: rest =>
      match readGroup group, readGroups rest with
      | some g, some gs => some (g :: gs)
      | _, _ => none

def splitGap : List Char -> Option (List Char × List Char)
  | ':' :: ':' :: rest => some ([], rest)
  | c :: rest => (splitGap rest).map fun cut => (c :: cut.1, cut.2)
  | [] => none

def readSide (s : List Char) : Option (List Nat) :=
  if s.isEmpty then some [] else readGroups (Text.splitOn ':' s)

def parse? (s : List Char) : Option (List Nat) :=
  match splitGap s with
  | some (left, right) =>
      if left.contains '.' then none
      else
        match readSide left, readSide right with
        | some l, some r =>
            if l.length + r.length <= 7 then
              some (l ++ List.replicate (8 - l.length - r.length) 0 ++ r)
            else none
        | _, _ => none
  | none =>
      match readSide s with
      | some groups => if groups.length = 8 then some groups else none
      | none => none

def zeroRun (groups : List Nat) : Nat := (groups.takeWhile (· == 0)).length

/-- Where the longest run of zeros begins and how long it is; the first of
several. -/
def longestZeros (groups : List Nat) : Nat × Nat :=
  (List.range groups.length).foldl
    (fun best i =>
      if best.2 < zeroRun (groups.drop i) then (i, zeroRun (groups.drop i)) else best)
    (0, 0)

def groupsText (groups : List Nat) : String :=
  ":".intercalate (groups.map fun g => String.ofList (Text.toHex g))

/-- The groups without leading zeros, the longest run of two or more zeros left
out. -/
def text (groups : List Nat) : String :=
  let (start, length) := longestZeros groups
  if 2 <= length then
    groupsText (groups.take start) ++ "::" ++ groupsText (groups.drop (start + length))
  else groupsText groups

example : parse? "1::2:0:0:3".toList = some [1, 0, 0, 0, 2, 0, 0, 3] := by decide
example : text [1, 0, 0, 0, 2, 0, 0, 3] = "1::2:0:0:3" := by decide
example : parse? "::ffff:1.2.3.4".toList = some [0, 0, 0, 0, 0, 0xffff, 0x102, 0x304] := by
  decide

end Ipv6
end Url
end HttpCall
