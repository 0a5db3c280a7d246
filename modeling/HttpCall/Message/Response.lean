import HttpCall.Message.Header
import HttpCall.Message.Status
import HttpCall.Json.Parser
import HttpCall.Url.Basic

/-!
# Responses

A response as it was received in full.  Its status is not interpreted: any of
them completes a call.
-/

namespace HttpCall

structure Response where
  status : Status
  version : ProtocolVersion
  headers : Headers
  body : List UInt8
  url : Url
deriving DecidableEq, Repr

namespace Response

def header? (r : Response) (name : String) : Option String := r.headers.lookup? name

/-- The `Set-Cookie` values that are plain ASCII, in order. -/
def setCookies (r : Response) : List String :=
  (r.headers.values HeaderName.setCookie).filterMap HeaderValue.text?

def text (r : Response) : String := String.ofList (Text.Utf8.decodeLossy r.body)

def json (r : Response) : Except Json.ParseError Json := Json.parse r.body

def isRedirection (r : Response) : Bool := r.status.isRedirection

end Response
end HttpCall
