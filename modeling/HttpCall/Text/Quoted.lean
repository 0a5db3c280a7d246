import HttpCall.Text.Extender
import HttpCall.Text.Numeral
import HttpCall.Text.Printable

/-!
# Quoted characters and texts

A character between single quotes, or a text between double ones, as a message
shows it: what cannot be seen, or would change how the quote looks, is escaped.
-/

namespace HttpCall
namespace Text

def escapeShown (mark c : Char) : List Char :=
  if c = mark then ['\\', c]
  else
    match c with
    | '\x00' => ['\\', '0']
    | '\t' => ['\\', 't']
    | '\r' => ['\\', 'r']
    | '\n' => ['\\', 'n']
    | '\\' => ['\\', '\\']
    | c =>
        if isExtender c || !isPrintable c then
          '\\' :: 'u' :: '\x7b' :: toHex c.toNat ++ ['\x7d']
        else [c]

def quoteChar (c : Char) : String :=
  String.ofList ('\'' :: escapeShown '\'' c ++ ['\''])

def quoteText (s : String) : String :=
  String.ofList ('"' :: s.toList.flatMap (escapeShown '"') ++ ['"'])

end Text
end HttpCall
