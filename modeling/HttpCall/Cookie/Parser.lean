import HttpCall.Cookie.Attribute
import HttpCall.Token

/-!
# Reading `Set-Cookie`

The text before the first semicolon must be a name and a value; otherwise there
is no cookie.  Each segment after it is an attribute, and those that are not
understood are ignored.
-/

namespace HttpCall
namespace Cookie

/-- A character that may stand in a cookie value: visible ASCII except the
double quote, the comma, the semicolon and the backslash. -/
def isOctet (c : Char) : Bool :=
  c.toNat == 0x21 || (0x23 <= c.toNat && c.toNat <= 0x2B) ||
    (0x2D <= c.toNat && c.toNat <= 0x3A) || (0x3C <= c.toNat && c.toNat <= 0x5B) ||
    (0x5D <= c.toNat && c.toNat <= 0x7E)

/-- Take off the double quotes around a value.  A value that opens with one must
close with another. -/
def unquote? : List Char -> Option (List Char)
  | '"' :: rest => if rest.getLast? = some '"' then some rest.dropLast else none
  | s => some s

def pair? (segment : List Char) : Option (List Char × List Char) :=
  match Text.splitOnce '=' segment with
  | none => none
  | some (name, value) =>
      if Token.isToken (Text.trim name) then
        match unquote? (Text.trim value) with
        | none => none
        | some octets =>
            if octets.all isOctet then some (Text.trim name, octets) else none
      else none

def ofSegments? : List (List Char) -> Option Cookie
  | [] => none
  | first :: attributes =>
      (pair? first).map fun nv =>
        attributes.foldl applySegment (bare (String.ofList nv.1) (String.ofList nv.2))

def parse? (header : String) : Option Cookie :=
  ofSegments? (Text.splitOn ';' header.toList)

end Cookie
end HttpCall
