import HttpCall.Json.Basic
import HttpCall.Decimal.Shortest
import HttpCall.Text.Numeral

/-!
# Writing JSON

The compact form of a value: no blanks, and the fields of an object in the order
of their keys.
-/

namespace HttpCall
namespace Json

def escape (c : Char) : List Char :=
  match c with
  | '"' => ['\\', '"']
  | '\\' => ['\\', '\\']
  | '\x08' => ['\\', 'b']
  | '\x0c' => ['\\', 'f']
  | '\n' => ['\\', 'n']
  | '\r' => ['\\', 'r']
  | '\t' => ['\\', 't']
  | c =>
      if c.toNat < 32 then
        ['\\', 'u', '0', '0', Text.hexDigit (c.toNat / 16), Text.hexDigit (c.toNat % 16)]
      else [c]

def quote (s : String) : String :=
  String.ofList ('"' :: s.toList.flatMap escape ++ ['"'])

/-- Digits with the point after a number of them, `0.` and zeros before them, or
zeros and `.0` after them; beyond sixteen places or five zeros, with an exponent. -/
def decimalText (s : Decimal.Scaled) : String :=
  let digits := Nat.toDigits 10 s.digits
  let point := (digits.length : Int) + s.power
  if 0 <= s.power && point <= 16 then
    String.ofList (digits ++ List.replicate s.power.toNat '0' ++ ['.', '0'])
  else if 0 < point && point <= 16 then
    String.ofList (digits.take point.toNat ++ '.' :: digits.drop point.toNat)
  else if -5 < point && point <= 0 then
    String.ofList ('0' :: '.' :: List.replicate (-point).toNat '0' ++ digits)
  else
    let mantissa := match digits with
      | [d] => [d]
      | d :: rest => d :: '.' :: rest
      | [] => []
    String.ofList mantissa ++ "e" ++ toString (point - 1)

def fractionText (x : Float) : String :=
  let negative := 0x8000000000000000 <= x.toBits.toNat
  let magnitude := if x == 0.0 then "0.0" else decimalText (Decimal.shortest x)
  if negative then "-" ++ magnitude else magnitude

def Number.text : Number -> String
  | natural n => toString n
  | negative n => toString n
  | fraction x => fractionText x

mutual

def compact : Json -> String
  | .null => "null"
  | .bool b => if b then "true" else "false"
  | .number n => n.text
  | .string s => quote s
  | .array items => "[" ++ ",".intercalate (compactItems items) ++ "]"
  | .object fields =>
      let sorted := (compactFields fields).mergeSort fun a b => decide (a.1 <= b.1)
      "\x7b" ++ ",".intercalate (sorted.map fun f => quote f.1 ++ ":" ++ f.2) ++ "\x7d"

def compactItems : List Json -> List String
  | [] => []
  | item :: rest => compact item :: compactItems rest

def compactFields : List (String × Json) -> List (String × String)
  | [] => []
  | (key, value) :: rest => (key, compact value) :: compactFields rest

end

end Json
end HttpCall
