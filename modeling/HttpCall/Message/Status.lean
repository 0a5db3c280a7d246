/-!
# Status codes and protocol versions
-/

namespace HttpCall

structure Status where
  code : Nat
  hundred_le : 100 <= code
  le_max : code <= 999
deriving DecidableEq, Repr

namespace Status

def ofNat? (n : Nat) : Option Status :=
  if h : 100 <= n ∧ n <= 999 then some ⟨n, h.1, h.2⟩ else none

def ok : Status := ⟨200, by decide, by decide⟩
def movedPermanently : Status := ⟨301, by decide, by decide⟩
def found : Status := ⟨302, by decide, by decide⟩
def seeOther : Status := ⟨303, by decide, by decide⟩
def notModified : Status := ⟨304, by decide, by decide⟩
def temporaryRedirect : Status := ⟨307, by decide, by decide⟩
def permanentRedirect : Status := ⟨308, by decide, by decide⟩

def isRedirection (s : Status) : Bool :=
  300 <= s.code && s.code < 400 && s != notModified

/-- The status asks for the request to be made again at its location. -/
def isFollowable (s : Status) : Bool :=
  s = movedPermanently || s = found || s = seeOther ||
    s = temporaryRedirect || s = permanentRedirect

end Status

inductive ProtocolVersion where
  | http09
  | http10
  | http11
  | http2
  | http3
deriving DecidableEq, Repr

namespace ProtocolVersion

def text : ProtocolVersion -> String
  | http09 => "HTTP/0.9"
  | http10 => "HTTP/1.0"
  | http11 => "HTTP/1.1"
  | http2 => "HTTP/2.0"
  | http3 => "HTTP/3.0"

/-- The version that a protocol string names, in any case of its letters; a
major version of 2 or 3 needs no minor one. -/
def ofText? (s : String) : Option ProtocolVersion :=
  match String.ofList (s.toList.map Char.toUpper) with
  | "HTTP/0.9" => some http09
  | "HTTP/1.0" => some http10
  | "HTTP/1.1" => some http11
  | "HTTP/2" | "HTTP/2.0" => some http2
  | "HTTP/3" | "HTTP/3.0" => some http3
  | _ => none

def isSendable : ProtocolVersion -> Bool
  | http10 | http11 => true
  | _ => false

end ProtocolVersion
end HttpCall
