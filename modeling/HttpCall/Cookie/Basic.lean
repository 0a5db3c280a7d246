/-!
# Cookies

A cookie as a server sets it: a name, a value and the attributes that were
understood.
-/

namespace HttpCall

inductive SameSite where
  | strict
  | lax
  | none
deriving DecidableEq, Repr

structure Cookie where
  name : String
  value : String
  domain : Option String
  path : Option String
  maxAge : Option Int64
  /-- Last moment of the cookie, in seconds since the beginning of 1970. -/
  expires : Option Nat
  secure : Bool
  httpOnly : Bool
  sameSite : Option SameSite
deriving DecidableEq, Repr

namespace Cookie

def bare (name value : String) : Cookie where
  name := name
  value := value
  domain := none
  path := none
  maxAge := none
  expires := none
  secure := false
  httpOnly := false
  sameSite := none

def pair (c : Cookie) : String := c.name ++ "=" ++ c.value

end Cookie
end HttpCall
