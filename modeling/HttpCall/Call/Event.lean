import HttpCall.Failure
import HttpCall.Message.Response
import HttpCall.Request.Basic

/-!
# Transport events

What a connection reports about one exchange.  An event may also be given before
it is known which request it answers; its response then takes the URL of that
request if it names none of its own.
-/

namespace HttpCall

inductive Event where
  | response (r : Response)
  | closed
  | error (e : TransportError)
deriving DecidableEq, Repr

inductive Reply where
  | response (status : Status) (version : ProtocolVersion) (headers : Headers)
      (body : List UInt8) (url : Option Url)
  | closed
  | error (e : TransportError)
deriving DecidableEq, Repr

def Reply.toEvent (request : Request) : Reply -> Event
  | response status version headers body url =>
      .response { status, version, headers, body, url := url.getD request.url }
  | closed => .closed
  | error e => .error e

def Reply.plainOk : Reply := .response .ok .http11 .empty [] none

end HttpCall
