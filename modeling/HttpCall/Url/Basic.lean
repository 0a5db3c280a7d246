/-!
# URLs

A URL in its parts, all of them already in normal form: letters of the scheme
in lower case, the host as it is looked up, characters that may not stand for
themselves percent-encoded, and no port that the scheme implies.
-/

namespace HttpCall

inductive Url.Host where
  | empty
  | named (name : String)
  | ipv4 (address : Nat)
  | ipv6 (groups : List Nat)
deriving DecidableEq, Repr

inductive Url.Path where
  | whole (text : String)
  | segments (parts : List String)
deriving DecidableEq, Repr

structure Url where
  scheme : String
  username : String
  password : String
  /-- `none` stands for a URL without an authority. -/
  host : Option Url.Host
  port : Option Nat
  path : Url.Path
  query : Option String
  fragment : Option String
deriving DecidableEq, Repr

namespace Url

def defaultPort? (scheme : String) : Option Nat :=
  if scheme = "http" ∨ scheme = "ws" then some 80
  else if scheme = "https" ∨ scheme = "wss" then some 443
  else if scheme = "ftp" then some 21
  else none

def isSpecialScheme (scheme : String) : Bool :=
  scheme = "file" || (defaultPort? scheme).isSome

def isHttp (url : Url) : Bool := url.scheme = "http" || url.scheme = "https"

/-- The port to connect to, if it is written or implied. -/
def effectivePort? (url : Url) : Option Nat :=
  match url.port with
  | some p => some p
  | none => defaultPort? url.scheme

inductive ParseError where
  | emptyHost
  | invalidInternationalName
  | invalidPort
  | invalidIpv4Address
  | invalidIpv6Address
  | invalidDomainCharacter
  | relativeWithoutBase
  | relativeToWholePath
deriving DecidableEq, Repr

def ParseError.text : ParseError -> String
  | emptyHost => "empty host"
  | invalidInternationalName => "invalid international domain name"
  | invalidPort => "invalid port number"
  | invalidIpv4Address => "invalid IPv4 address"
  | invalidIpv6Address => "invalid IPv6 address"
  | invalidDomainCharacter => "invalid domain character"
  | relativeWithoutBase => "relative URL without a base"
  | relativeToWholePath => "relative URL with a cannot-be-a-base base"

end Url
end HttpCall
