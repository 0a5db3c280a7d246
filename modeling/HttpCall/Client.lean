import HttpCall.Pool.Basic
import HttpCall.Redirect.Policy
import HttpCall.Request.Draft

/-!
# Clients

A client holds what its requests have in common: default headers, the timeout,
the rules for redirects and the pool.  It is configured by settings, which are
checked when they are made.
-/

namespace HttpCall

structure Client where
  defaultHeaders : Headers
  timeout : Option Duration
  followRedirects : Bool
  maxRedirects : Nat
  policy : Policy
  maxConnections : Nat
  acquireTimeout : Duration

namespace Client

def defaultUserAgent : String := "hopcall/0.1.0"

def standard : Client where
  defaultHeaders := Headers.empty.insert .userAgent (.ofPlain defaultUserAgent)
  timeout := none
  followRedirects := true
  maxRedirects := 10
  policy := .standard
  maxConnections := 32
  acquireTimeout := .ofSeconds 10 0

inductive Setting where
  | defaultHeader (name value : String)
  | userAgent (value : String)
  | timeout (limit : Duration)
  | followRedirects (follow : Bool)
  | maxRedirects (limit : Nat)
  | maxConnections (count : Nat)
  | acquireTimeout (limit : Duration)
  | policy (p : Policy)

def setDefaultHeader (name value : String) (c : Client) : Except Error Client :=
  match Draft.headerField name value with
  | .ok (n, v) => .ok { c with defaultHeaders := c.defaultHeaders.insert n v }
  | .error e => .error e

/-- Make one setting.  Any timeout is accepted. -/
def apply (c : Client) : Setting -> Except Error Client
  | .defaultHeader name value => c.setDefaultHeader name value
  | .userAgent value => c.setDefaultHeader HeaderName.userAgent.text value
  | .timeout limit => .ok { c with timeout := some limit }
  | .followRedirects follow => .ok { c with followRedirects := follow }
  | .maxRedirects limit => .ok { c with maxRedirects := limit }
  | .maxConnections count => .ok { c with maxConnections := count }
  | .acquireTimeout limit => .ok { c with acquireTimeout := limit }
  | .policy p => .ok { c with policy := p }

/-- Make the client's own pool, as it is needed unless another one is supplied. -/
def ownPool (c : Client) : Construction Pool := Pool.create c.maxConnections c.acquireTimeout

def draft (c : Client) : Draft where
  method := .get
  url := none
  version := .http11
  headers := c.defaultHeaders
  body := .empty
  followRedirects := c.followRedirects
  maxRedirects := c.maxRedirects
  timeout := c.timeout

def request (c : Client) (method : Method) (url : String) : Except Error Draft :=
  { c.draft with method := method }.setUrl url

end Client
end HttpCall
