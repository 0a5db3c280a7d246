import HttpCall.Cookie.Basic
import HttpCall.HttpDate
import HttpCall.Text.Split

/-!
# Cookie attributes

An attribute segment of a `Set-Cookie` text is either understood, and then
changes one field of the cookie, or ignored.
-/

namespace HttpCall
namespace Cookie

inductive Attribute where
  | domain (name : String)
  | path (path : String)
  | maxAge (seconds : Int64)
  | expires (seconds : Nat)
  | secure
  | httpOnly
  | sameSite (mode : Option SameSite)
deriving DecidableEq, Repr

def lower (s : List Char) : List Char := s.map Char.toLower

/-- The keyword of a `SameSite` attribute; an unknown one stands for no mode. -/
def SameSite.ofKeyword? (s : List Char) : Option SameSite :=
  if lower s = "strict".toList then some .strict
  else if lower s = "lax".toList then some .lax
  else if lower s = "none".toList then some .none
  else none

namespace Attribute

/-- The name and the value of a segment, without the blanks around them.
A segment without `=` has the empty value. -/
def split (segment : List Char) : List Char × List Char :=
  match Text.splitOnce '=' segment with
  | some (key, value) => (Text.trim key, Text.trim value)
  | none => (Text.trim segment, [])

def ofNamed? (name value : List Char) : Option Attribute :=
  if name = "domain".toList then
    if value.isEmpty then none
    else some (.domain (String.ofList (lower (value.dropWhile (· == '.')))))
  else if name = "path".toList then
    if value.head? = some '/' then some (.path (String.ofList value)) else none
  else if name = "max-age".toList then
    (Text.readInt64 value).map .maxAge
  else if name = "expires".toList then
    (HttpDate.parse? value).map fun date => .expires date.toSeconds
  else if name = "secure".toList then some .secure
  else if name = "httponly".toList then some .httpOnly
  else if name = "samesite".toList then some (.sameSite (SameSite.ofKeyword? value))
  else none

def parse? (segment : List Char) : Option Attribute :=
  ofNamed? (lower (split segment).1) (split segment).2

/-- Record an attribute; it replaces an earlier one of the same name. -/
def apply (c : Cookie) : Attribute -> Cookie
  | domain name => { c with domain := some name }
  | path p => { c with path := some p }
  | maxAge seconds => { c with maxAge := some seconds }
  | expires seconds => { c with expires := some seconds }
  | secure => { c with secure := true }
  | httpOnly => { c with httpOnly := true }
  | sameSite mode => { c with sameSite := mode }

end Attribute

def applySegment (c : Cookie) (segment : List Char) : Cookie :=
  match Attribute.parse? segment with
  | some a => Attribute.apply c a
  | none => c

end Cookie
end HttpCall
