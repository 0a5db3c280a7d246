import HttpCall.Json.Basic
import HttpCall.Text.Numeral
import HttpCall.Text.Utf8

/-!
# Reading JSON

A reader of JSON texts over bytes.  An error names its cause and the place up
to which the text was read, as a line and a column of bytes.
-/

namespace HttpCall
namespace Json

inductive Cause where
  | endInList
  | endInObject
  | endInString
  | endInValue
  | expectedColon
  | expectedListCommaOrEnd
  | expectedObjectCommaOrEnd
  | expectedIdent
  | expectedValue
  | invalidEscape
  | invalidNumber
  | numberOutOfRange
  | invalidCodePoint
  | controlCharacter
  | keyNotString
  | loneSurrogate
  | trailingComma
  | trailingCharacters
  | endOfHexEscape
  | recursionLimit
deriving DecidableEq, Repr

def Cause.text : Cause -> String
  | endInList => "EOF while parsing a list"
  | endInObject => "EOF while parsing an object"
  | endInString => "EOF while parsing a string"
  | endInValue => "EOF while parsing a value"
  | expectedColon => "expected \x60:\x60"
  | expectedListCommaOrEnd => "expected \x60,\x60 or \x60]\x60"
  | expectedObjectCommaOrEnd => "expected \x60,\x60 or \x60\x7d\x60"
  | expectedIdent => "expected ident"
  | expectedValue => "expected value"
  | invalidEscape => "invalid escape"
  | invalidNumber => "invalid number"
  | numberOutOfRange => "number out of range"
  | invalidCodePoint => "invalid unicode code point"
  | controlCharacter =>
      "control character (\\u0000-\\u001F) found while parsing a string"
  | keyNotString => "key must be a string"
  | loneSurrogate => "lone leading surrogate in hex escape"
  | trailingComma => "trailing comma"
  | trailingCharacters => "trailing characters"
  | endOfHexEscape => "unexpected end of hex escape"
  | recursionLimit => "recursion limit exceeded"

structure Fault where
  cause : Cause
  rest : List UInt8

abbrev Reading (α : Type) := Except Fault (α × List UInt8)

def failHere {α : Type} (cause : Cause) (rest : List UInt8) : Except Fault α :=
  .error ⟨cause, rest⟩

def failAtNext {α : Type} (cause : Cause) (rest : List UInt8) : Except Fault α :=
  .error ⟨cause, rest.drop 1⟩

def isSpace (b : UInt8) : Bool := b == 32 || b == 10 || b == 9 || b == 13

def skipSpace (s : List UInt8) : List UInt8 := s.dropWhile isSpace

def isDigit (b : UInt8) : Bool := 48 <= b && b <= 57

def byteChar (b : UInt8) : Char := Char.ofNat b.toNat

/-! ## Words and numbers -/

def readWord (value : Json) : List Char -> List UInt8 -> Reading Json
  | [], s => .ok (value, s)
  | _ :: _, [] => failHere .endInValue []
  | c :: cs, b :: rest =>
      if byteChar b = c then readWord value cs rest else failHere .expectedIdent rest

def maxNatural : Nat := 0xFFFFFFFFFFFFFFFF

/-- Divide a value by powers of ten, at most `10 ^ 308` at a time. -/
def scaleDown : Nat -> Float -> Nat -> Float
  | 0, x, _ => x
  | fuel + 1, x, places =>
      if places <= 308 then x / Float.ofScientific 1 false places
      else if x == 0.0 then x
      else scaleDown fuel (x / 1e308) (places - 308)

def fractionOf (digits : Nat) (exponent : Int) : Option Float :=
  let x := Float.ofNat digits
  if exponent < 0 then some (scaleDown 4 x (min exponent.natAbs 1000))
  else if exponent <= 308 then
    let y := x * Float.ofScientific 1 false exponent.natAbs
    if y.isInf then none else some y
  else if digits = 0 then some 0.0
  else none

def finishFraction (positive : Bool) (digits : Nat) (exponent : Int) (rest : List UInt8) :
    Reading Number :=
  match fractionOf digits exponent with
  | some x => .ok (.fraction (if positive then x else -x), rest)
  | none => failHere .numberOutOfRange rest

/-- The largest exponent that is told from a larger one. -/
def maxExponent : Nat := 0x7FFFFFFF

/-- Take the digits of an exponent, up to the one that makes it too large. -/
def takeExponent : Nat -> List UInt8 -> Nat × List UInt8
  | acc, b :: rest =>
      if isDigit b then
        if maxExponent < acc * 10 + (b.toNat - 48) then (maxExponent + 1, rest)
        else takeExponent (acc * 10 + (b.toNat - 48)) rest
      else (acc, b :: rest)
  | acc, [] => (acc, [])

def readExponentDigits (positive : Bool) (digits : Nat) (start : Int) (up : Bool)
    (s : List UInt8) : Reading Number :=
  match s with
  | [] => failHere .endInValue []
  | b :: rest =>
      if isDigit b then
        match takeExponent (b.toNat - 48) rest with
        | (size, rest) =>
            if size <= maxExponent then
              finishFraction positive digits (if up then start + size else start - size) rest
            else if up && digits != 0 then failHere .numberOutOfRange rest
            else .ok (.fraction (if positive then 0.0 else -0.0), rest.dropWhile isDigit)
      else failHere .invalidNumber rest

def readExponent (positive : Bool) (digits : Nat) (start : Int) :
    List UInt8 -> Reading Number
  | [] => failHere .endInValue []
  | b :: rest =>
      if b == 43 then readExponentDigits positive digits start true rest
      else if b == 45 then readExponentDigits positive digits start false rest
      else readExponentDigits positive digits start true (b :: rest)

def takeDigits : Nat -> List UInt8 -> Nat × List UInt8
  | acc, b :: rest =>
      if isDigit b && acc * 10 + (b.toNat - 48) <= maxNatural then
        takeDigits (acc * 10 + (b.toNat - 48)) rest
      else (acc, b :: rest)
  | acc, [] => (acc, [])

def isExponentMark (b : UInt8) : Bool := b == 101 || b == 69

def afterDigits (positive : Bool) (digits : Nat) (exponent : Int) :
    List UInt8 -> Reading Number
  | b :: rest =>
      if isExponentMark b then readExponent positive digits exponent rest
      else finishFraction positive digits exponent (b :: rest)
  | [] => finishFraction positive digits exponent []

/-- Read the places after the point; those beyond the precision are passed over. -/
def readPlaces (positive : Bool) (digits : Nat) (exponent : Int) (s : List UInt8) :
    Reading Number :=
  match s with
  | [] => failAtNext .endInValue []
  | b :: _ =>
      if isDigit b then
        let (total, rest) := takeDigits digits s
        let places := s.length - rest.length
        afterDigits positive total (exponent - places) (rest.dropWhile isDigit)
      else failAtNext .invalidNumber s

def afterWhole (positive : Bool) (whole : Nat) (s : List UInt8) : Reading Number :=
  match s with
  | b :: rest =>
      if b == 46 then readPlaces positive whole 0 rest
      else if isExponentMark b then readExponent positive whole 0 rest
      else .ok (integer, s)
  | [] => .ok (integer, s)
where
  integer : Number :=
    if positive then .natural whole
    else if whole = 0 then .fraction (-0.0)
    else if whole <= 0x8000000000000000 then .negative (-(whole : Int))
    else .fraction (-(Float.ofNat whole))

/-- Read on in a whole part too long for sixty-four bits. -/
def readLong (positive : Bool) (digits : Nat) (s : List UInt8) : Reading Number :=
  let more := s.takeWhile isDigit
  match s.drop more.length with
  | b :: rest =>
      if b == 46 then readPlaces positive digits more.length rest
      else afterDigits positive digits more.length (b :: rest)
  | [] => afterDigits positive digits more.length []

def readNumber (positive : Bool) : List UInt8 -> Reading Number
  | [] => failHere .endInValue []
  | b :: rest =>
      if b == 48 then
        match rest with
        | c :: _ =>
            if isDigit c then failAtNext .invalidNumber rest else afterWhole positive 0 rest
        | [] => afterWhole positive 0 rest
      else if isDigit b then
        match takeDigits (b.toNat - 48) rest with
        | (whole, c :: more) =>
            if isDigit c then readLong positive whole (c :: more)
            else afterWhole positive whole (c :: more)
        | (whole, []) => afterWhole positive whole []
      else failHere .invalidNumber rest

/-! ## Strings -/

def readUnit : List UInt8 -> Reading Nat
  | a :: b :: c :: d :: rest =>
      match Text.readDigits Text.hexValue? 16 0 ([a, b, c, d].map byteChar) with
      | some n => .ok (n, rest)
      | none => failHere .invalidEscape rest
  | _ => failHere .endInString []

def readLowHalf (high : Nat) : List UInt8 -> Reading Char
  | [] => failHere .endInString []
  | a :: rest =>
      if a == 92 then
        match rest with
        | [] => failHere .endInString []
        | b :: rest =>
            if b == 117 then
              match readUnit rest with
              | .error f => .error f
              | .ok (low, rest) =>
                  if 0xDC00 <= low && low <= 0xDFFF then
                    .ok (Char.ofNat (0x10000 + (high - 0xD800) * 0x400 + (low - 0xDC00)), rest)
                  else failHere .loneSurrogate rest
            else failHere .endOfHexEscape rest
      else failHere .endOfHexEscape rest

def readUnicodeEscape (s : List UInt8) : Reading Char :=
  match readUnit s with
  | .error f => .error f
  | .ok (unit, rest) =>
      if 0xDC00 <= unit && unit <= 0xDFFF then failHere .loneSurrogate rest
      else if 0xD800 <= unit && unit <= 0xDBFF then readLowHalf unit rest
      else .ok (Char.ofNat unit, rest)

def readEscape : List UInt8 -> Reading Char
  | [] => failHere .endInString []
  | b :: rest =>
      match byteChar b with
      | '"' => .ok ('"', rest)
      | '\\' => .ok ('\\', rest)
      | '/' => .ok ('/', rest)
      | 'b' => .ok ('\x08', rest)
      | 'f' => .ok ('\x0c', rest)
      | 'n' => .ok ('\n', rest)
      | 'r' => .ok ('\r', rest)
      | 't' => .ok ('\t', rest)
      | 'u' => readUnicodeEscape rest
      | _ => failHere .invalidEscape rest

def collectString : Nat -> List UInt8 -> List UInt8 -> Reading String
  | 0, _, _ => failHere .endInString []
  | _ + 1, _, [] => failHere .endInString []
  | fuel + 1, acc, b :: rest =>
      if b == 34 then
        match Text.Utf8.decode? acc.reverse with
        | some s => .ok (String.ofList s, rest)
        | none => failHere .invalidCodePoint (b :: rest)
      else if b == 92 then
        match readEscape rest with
        | .error f => .error f
        | .ok (c, rest) => collectString fuel ((Text.Utf8.encode [c]).reverse ++ acc) rest
      else if b < 32 then failHere .controlCharacter rest
      else collectString fuel (b :: acc) rest

def readString (s : List UInt8) : Reading String := collectString (s.length + 1) [] s

/-! ## Values -/

def readItems (item : List UInt8 -> Reading Json) :
    Nat -> List Json -> List UInt8 -> Reading Json
  | 0, _, s => failAtNext .endInList s
  | fuel + 1, acc, s =>
      match skipSpace s with
      | [] => failAtNext .endInList []
      | b :: rest =>
          if b == 93 then .ok (.array acc.reverse, rest)
          else if acc.isEmpty then one fuel acc (b :: rest)
          else if b == 44 then
            match skipSpace rest with
            | [] => failAtNext .endInValue []
            | c :: more =>
                if c == 93 then failAtNext .trailingComma (c :: more)
                else one fuel acc (c :: more)
          else failAtNext .expectedListCommaOrEnd (b :: rest)
where
  one (fuel : Nat) (acc : List Json) (s : List UInt8) : Reading Json :=
    match item s with
    | .error f => .error f
    | .ok (value, rest) => readItems item fuel (value :: acc) rest

def readFieldValue (value : List UInt8 -> Reading Json) (s : List UInt8) : Reading Json :=
  match skipSpace s with
  | [] => failAtNext .endInObject []
  | b :: rest => if b == 58 then value rest else failAtNext .expectedColon (b :: rest)

def readFields (value : List UInt8 -> Reading Json) :
    Nat -> Option (List (String × Json)) -> List UInt8 -> Reading Json
  | 0, _, s => failAtNext .endInObject s
  | fuel + 1, acc?, s =>
      match skipSpace s with
      | [] => failAtNext .endInObject []
      | b :: rest =>
          if b == 125 then .ok (.object (acc?.getD []), rest)
          else
            match acc? with
            | none =>
                if b == 34 then one fuel [] rest else failAtNext .keyNotString (b :: rest)
            | some acc =>
                if b == 44 then
                  match skipSpace rest with
                  | [] => failAtNext .endInValue []
                  | c :: more =>
                      if c == 34 then one fuel acc more
                      else if c == 125 then failAtNext .trailingComma (c :: more)
                      else failAtNext .keyNotString (c :: more)
                else failAtNext .expectedObjectCommaOrEnd (b :: rest)
where
  one (fuel : Nat) (acc : List (String × Json)) (s : List UInt8) : Reading Json :=
    match readString s with
    | .error f => .error f
    | .ok (key, rest) =>
        match readFieldValue value rest with
        | .error f => .error f
        | .ok (v, rest) => readFields value fuel (some (setField acc key v)) rest

def readValue : Nat -> List UInt8 -> Reading Json
  | depth, s =>
      match skipSpace s with
      | [] => failAtNext .endInValue []
      | b :: rest =>
          match byteChar b with
          | 'n' => readWord .null ['u', 'l', 'l'] rest
          | 't' => readWord (.bool true) ['r', 'u', 'e'] rest
          | 'f' => readWord (.bool false) ['a', 'l', 's', 'e'] rest
          | '-' => (readNumber false rest).map fun r => (.number r.1, r.2)
          | '"' => (readString rest).map fun r => (.string r.1, r.2)
          | '[' =>
              match depth with
              | 0 => failAtNext .recursionLimit (b :: rest)
              | d + 1 => readItems (readValue d) (rest.length + 1) [] rest
          | '\x7b' =>
              match depth with
              | 0 => failAtNext .recursionLimit (b :: rest)
              | d + 1 => readFields (readValue d) (rest.length + 1) none rest
          | _ =>
              if isDigit b then
                (readNumber true (b :: rest)).map fun r => (.number r.1, r.2)
              else failAtNext .expectedValue (b :: rest)

def maxDepth : Nat := 127

structure ParseError where
  cause : Cause
  line : Nat
  column : Nat
deriving DecidableEq, Repr

def ParseError.text (e : ParseError) : String :=
  e.cause.text ++ " at line " ++ toString e.line ++ " column " ++ toString e.column

/-- The line of a place counts the line ends before it; the column counts the
bytes since the last one. -/
def locate (input : List UInt8) (f : Fault) : ParseError :=
  let before := input.take (input.length - f.rest.length)
  { cause := f.cause
    line := before.count 10 + 1
    column := (before.reverse.takeWhile (· != 10)).length }

def parse (input : List UInt8) : Except ParseError Json :=
  match readValue maxDepth input with
  | .error f => .error (locate input f)
  | .ok (value, rest) =>
      match skipSpace rest with
      | [] => .ok value
      | b :: more =>
          .error (locate input ⟨.trailingCharacters, (b :: more).drop 1⟩)

end Json
end HttpCall
