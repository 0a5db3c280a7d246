import HttpCall.Duration
import HttpCall.Message.Header
import HttpCall.Message.Method
import HttpCall.Message.Status
import HttpCall.Url.Host

/-!
# Requests

The description of one exchange.  A request does not change; a followed redirect
makes a new one.
-/

namespace HttpCall

inductive Body where
  | empty
  | text (content contentType : String) (encoded : List UInt8)
  | binary (bytes : List UInt8) (contentType : String)
deriving DecidableEq, Repr

namespace Body

def bytes : Body -> List UInt8
  | empty => []
  | text _ _ encoded => encoded
  | binary bytes _ => bytes

end Body

/-- Where a connection leads: what a pool keeps connections apart by. -/
structure Target where
  scheme : String
  host : String
  port : Nat
deriving DecidableEq, Repr

namespace Target

/-- A URL has a target if it has a host and its port is written or implied. -/
def ofUrl? (url : Url) : Option Target :=
  match url.hostText?, url.effectivePort? with
  | some host, some port => some ⟨url.scheme, host, port⟩
  | _, _ => none

def text (t : Target) : String := t.scheme ++ "://" ++ t.host ++ ":" ++ toString t.port

end Target

structure Request where
  method : Method
  url : Url
  target : Target
  version : ProtocolVersion
  headers : Headers
  body : Body
  followRedirects : Bool
  maxRedirects : Nat
  /-- The time allowed for the whole call, redirects included. -/
  timeout : Option Duration
deriving DecidableEq, Repr

def Request.header? (r : Request) (name : String) : Option String := r.headers.lookup? name

end HttpCall
