import HttpCall.Text.Utf16
import HttpCall.Text.Utf8

/-!
# Character sets of bodies

The character sets in which a body can be sent.  A character is encoded on its
own, or the set has no bytes for it.
-/

namespace HttpCall

inductive Charset where
  | utf8
  | ascii
  | latin1
  | utf16be
  | utf16le
deriving DecidableEq, Repr

namespace Charset

/-- The character set that a label names, in any case of its letters. -/
def ofLabel? (label : String) : Option Charset :=
  match String.ofList (label.toList.map Char.toLower) with
  | "utf-8" | "utf8" => some utf8
  | "us-ascii" | "ascii" => some ascii
  | "iso-8859-1" | "latin1" | "latin-1" => some latin1
  | "utf-16be" => some utf16be
  | "utf-16le" => some utf16le
  | _ => none

def encodeChar? (charset : Charset) (c : Char) : Option (List UInt8) :=
  match charset with
  | utf8 => some (String.utf8EncodeChar c)
  | ascii => if c.toNat < 128 then some [UInt8.ofNat c.toNat] else none
  | latin1 => if c.toNat < 256 then some [UInt8.ofNat c.toNat] else none
  | utf16be => some ((Text.Utf16.unitsOf c).flatMap Text.Utf16.bigEndian)
  | utf16le => some ((Text.Utf16.unitsOf c).flatMap Text.Utf16.littleEndian)

inductive Refusal where
  | unknownLabel
  | missing (c : Char)
deriving DecidableEq, Repr

/-- The bytes of a text, or the first character that the set does not have. -/
def encode (charset : Charset) : List Char -> Except Refusal (List UInt8)
  | [] => .ok []
  | c :: rest =>
      match charset.encodeChar? c with
      | none => .error (.missing c)
      | some bytes =>
          match encode charset rest with
          | .ok more => .ok (bytes ++ more)
          | .error r => .error r

def encodeAs (label : String) (s : String) : Except Refusal (List UInt8) :=
  match ofLabel? label with
  | some charset => encode charset s.toList
  | none => .error .unknownLabel

end Charset
end HttpCall
