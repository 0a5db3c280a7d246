/-!
# UTF-8

Encoding a text as bytes, and decoding bytes either strictly or with U+FFFD in
the place of each longest beginning of a character that is not continued.
-/

namespace HttpCall
namespace Text
namespace Utf8

def encode (s : List Char) : List UInt8 := s.flatMap String.utf8EncodeChar

def isTail (b : UInt8) : Bool := 0x80 <= b && b <= 0xBF

def isSecondOfThree (first b : UInt8) : Bool :=
  if first = 0xE0 then 0xA0 <= b && b <= 0xBF
  else if first = 0xED then 0x80 <= b && b <= 0x9F
  else isTail b

def isSecondOfFour (first b : UInt8) : Bool :=
  if first = 0xF0 then 0x90 <= b && b <= 0xBF
  else if first = 0xF4 then 0x80 <= b && b <= 0x8F
  else isTail b

/-- The number of bytes of a character, from its first one; 0 if none starts so. -/
def width (first : UInt8) : Nat :=
  if first < 0x80 then 1
  else if 0xC2 <= first && first <= 0xDF then 2
  else if 0xE0 <= first && first <= 0xEF then 3
  else if 0xF0 <= first && first <= 0xF4 then 4
  else 0

def low (b : UInt8) : Nat := b.toNat % 64

/-- What stands at the front of some bytes: a character or a broken piece, with
the number of further bytes that belong to it. -/
structure Front where
  char? : Option Char
  more : Nat

def front (first : UInt8) (rest : List UInt8) : Front :=
  match width first, rest with
  | 1, _ => ⟨some (Char.ofNat first.toNat), 0⟩
  | 2, b :: _ =>
      if isTail b then ⟨some (Char.ofNat (first.toNat % 32 * 64 + low b)), 1⟩ else ⟨none, 0⟩
  | 3, b :: rest =>
      if isSecondOfThree first b then
        match rest with
        | c :: _ =>
            if isTail c then
              ⟨some (Char.ofNat (first.toNat % 16 * 4096 + low b * 64 + low c)), 2⟩
            else ⟨none, 1⟩
        | [] => ⟨none, 1⟩
      else ⟨none, 0⟩
  | 4, b :: rest =>
      if isSecondOfFour first b then
        match rest with
        | c :: rest =>
            if isTail c then
              match rest with
              | d :: _ =>
                  if isTail d then
                    ⟨some (Char.ofNat
                      (first.toNat % 8 * 262144 + low b * 4096 + low c * 64 + low d)), 3⟩
                  else ⟨none, 2⟩
              | [] => ⟨none, 2⟩
            else ⟨none, 1⟩
        | [] => ⟨none, 1⟩
      else ⟨none, 0⟩
  | _, _ => ⟨none, 0⟩

def decodeLossyAfter : Nat -> List UInt8 -> List Char
  | _, [] => []
  | skip + 1, _ :: rest => decodeLossyAfter skip rest
  | 0, first :: rest =>
      ((front first rest).char?.getD '\uFFFD') ::
        decodeLossyAfter (front first rest).more rest

def decodeLossy (bytes : List UInt8) : List Char := decodeLossyAfter 0 bytes

def decodeAfter? : Nat -> List UInt8 -> Option (List Char)
  | _, [] => some []
  | skip + 1, _ :: rest => decodeAfter? skip rest
  | 0, first :: rest =>
      match (front first rest).char?, decodeAfter? (front first rest).more rest with
      | some c, some cs => some (c :: cs)
      | _, _ => none

def decode? (bytes : List UInt8) : Option (List Char) := decodeAfter? 0 bytes

example : decodeLossy [0xE2, 0x82, 0x28] = ['\uFFFD', '('] := by decide
example : decode? [0xF0, 0x9F, 0x98, 0x80] = some ['😀'] := by decide
example : decode? [0xED, 0xA0, 0x80] = none := by decide

end Utf8
end Text
end HttpCall
