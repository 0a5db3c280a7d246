/-!
# Numerals

Reading and writing natural numbers in decimal and hexadecimal, over lists of
characters.
-/

namespace HttpCall
namespace Text

def digitValue? (c : Char) : Option Nat :=
  if '0' <= c ∧ c <= '9' then some (c.toNat - 48) else none

def hexValue? (c : Char) : Option Nat :=
  if '0' <= c ∧ c <= '9' then some (c.toNat - 48)
  else if 'a' <= c ∧ c <= 'f' then some (c.toNat - 87)
  else if 'A' <= c ∧ c <= 'F' then some (c.toNat - 55)
  else none

def readDigits (value? : Char -> Option Nat) (base : Nat) (acc : Nat) :
    List Char -> Option Nat
  | [] => some acc
  | c :: rest =>
      match value? c with
      | some d => readDigits value? base (acc * base + d) rest
      | none => none

def readNat (s : List Char) : Option Nat :=
  if s.isEmpty then none else readDigits digitValue? 10 0 s

def readInt64 : List Char -> Option Int64
  | '-' :: rest =>
      match readNat rest with
      | some n => if n <= 0x8000000000000000 then some (Int64.ofInt (-(n : Int))) else none
      | none => none
  | '+' :: rest => bounded rest
  | s => bounded s
where
  bounded (s : List Char) : Option Int64 :=
    match readNat s with
    | some n => if n < 0x8000000000000000 then some (Int64.ofInt n) else none
    | none => none

def hexDigit (n : Nat) : Char :=
  if n < 10 then Char.ofNat (48 + n) else Char.ofNat (87 + n)

def hexDigitUpper (n : Nat) : Char :=
  if n < 10 then Char.ofNat (48 + n) else Char.ofNat (55 + n)

def toHex (n : Nat) : List Char := Nat.toDigits 16 n

def hexOfBytes (bytes : List UInt8) : List Char :=
  bytes.flatMap fun b => [hexDigit (b.toNat / 16), hexDigit (b.toNat % 16)]

def bytesOfHex : List Char -> Option (List UInt8)
  | [] => some []
  | [_] => none
  | high :: low :: rest =>
      match hexValue? high, hexValue? low, bytesOfHex rest with
      | some h, some l, some bytes => some (UInt8.ofNat (h * 16 + l) :: bytes)
      | _, _, _ => none

end Text
end HttpCall
