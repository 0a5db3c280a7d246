import HttpCall.Text.Numeral
import HttpCall.Text.Utf8

/-!
# Percent-encoding

A character outside the set that a part of a URL allows is written as the bytes
of its UTF-8 form, each of them a percent sign and two upper-case digits.
-/

namespace HttpCall
namespace Url
namespace Percent

def isControl (c : Char) : Bool := c.toNat < 32 || c.toNat == 127

def escapedInFragment (c : Char) : Bool :=
  isControl c || c == ' ' || c == '"' || c == '<' || c == '>' || c == '\x60'

def escapedInQuery (c : Char) : Bool :=
  isControl c || c == ' ' || c == '"' || c == '#' || c == '<' || c == '>'

def escapedInSpecialQuery (c : Char) : Bool := escapedInQuery c || c == '\''

def escapedInPath (c : Char) : Bool :=
  escapedInFragment c || c == '#' || c == '?' || c == '\x7b' || c == '\x7d'

def escapedInUserinfo (c : Char) : Bool :=
  escapedInPath c || "/:;=@[\\]^|".toList.contains c

def encodeByte (b : UInt8) : List Char :=
  ['%', Text.hexDigitUpper (b.toNat / 16), Text.hexDigitUpper (b.toNat % 16)]

def encode (escaped : Char -> Bool) (s : List Char) : List Char :=
  s.flatMap fun c =>
    if escaped c || 128 <= c.toNat then (String.utf8EncodeChar c).flatMap encodeByte else [c]

def decode : List Char -> List UInt8
  | '%' :: a :: b :: rest =>
      match Text.hexValue? a, Text.hexValue? b with
      | some h, some l => UInt8.ofNat (h * 16 + l) :: decode rest
      | _, _ => 37 :: decode (a :: b :: rest)
  | c :: rest => String.utf8EncodeChar c ++ decode rest
  | [] => []

end Percent
end Url
end HttpCall
