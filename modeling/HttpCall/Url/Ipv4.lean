import HttpCall.Text.Numeral
import HttpCall.Text.Split

/-!
# Addresses of thirty-two bits

A host whose last part is a number is read as an address: up to four parts, each
decimal, octal after `0` or hexadecimal after `0x`, where the last part fills
all the bits that are left.
-/

namespace HttpCall
namespace Url
namespace Ipv4

/-- Read a part of an address in the base that its beginning tells. -/
def readPart : List Char -> Option Nat
  | [] => none
  | '0' :: 'x' :: rest => Text.readDigits Text.hexValue? 16 0 rest
  | '0' :: 'X' :: rest => Text.readDigits Text.hexValue? 16 0 rest
  | '0' :: c :: rest => Text.readDigits octalValue? 8 0 (c :: rest)
  | s => Text.readDigits Text.digitValue? 10 0 s
where
  octalValue? (c : Char) : Option Nat :=
    if '0' <= c ∧ c <= '7' then some (c.toNat - 48) else none

def parts (host : List Char) : List (List Char) :=
  match (Text.splitOn '.' host).reverse with
  | [] :: front => front.reverse
  | all => all.reverse

def endsInNumber (host : List Char) : Bool :=
  match (parts host).getLast? with
  | some last =>
      (!last.isEmpty && last.all (fun c => (Text.digitValue? c).isSome)) ||
        (readPart last).isSome
  | none => false

def ofParts? (numbers : List Nat) : Option Nat :=
  match numbers.reverse with
  | [] => none
  | last :: front =>
      let leading := front.reverse
      if leading.all (· <= 255) && last < Nat.pow 256 (4 - leading.length) then
        some (leading.foldl (fun acc n => acc * 256 + n) 0 * Nat.pow 256 (4 - leading.length) + last)
      else none

def parse? (host : List Char) : Option Nat :=
  if 4 < (parts host).length then none
  else (parts host).mapM readPart >>= ofParts?

def text (address : Nat) : String :=
  ".".intercalate ([16777216, 65536, 256, 1].map fun w => toString (address / w % 256))

example : parse? "0x7f.1".toList = some 2130706433 := by decide
example : text 2130706433 = "127.0.0.1" := by decide
example : parse? "256.0.0.1".toList = none := by decide

end Ipv4
end Url
end HttpCall
