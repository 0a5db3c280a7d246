import HttpCall.Idna.Domain
import HttpCall.Url.Basic
import HttpCall.Url.Ipv4
import HttpCall.Url.Ipv6
import HttpCall.Url.Percent

/-!
# Hosts

Reading the host of a URL.  Special schemes have domain names and addresses; all
other schemes have names that are not interpreted.
-/

namespace HttpCall
namespace Url
namespace Host

def parseBracketed (s : List Char) : Except ParseError Host :=
  if s.getLast? = some ']' then
    match Ipv6.parse? s.dropLast with
    | some groups => .ok (.ipv6 groups)
    | none => .error .invalidIpv6Address
  else .error .invalidIpv6Address

def ofAscii (name : List Char) : Except ParseError Host :=
  if name.isEmpty then .error .emptyHost
  else if Ipv4.endsInNumber name then
    match Ipv4.parse? name with
    | some address => .ok (.ipv4 address)
    | none => .error .invalidIpv4Address
  else .ok (.named (String.ofList name))

/-- Read the host of a special scheme. -/
def parseDomain : List Char -> Except ParseError Host
  | '[' :: rest => parseBracketed rest
  | s =>
      match (Text.Utf8.decode? (Percent.decode s)).bind Idna.toAscii? with
      | some name => ofAscii name
      | none => .error .invalidInternationalName

def isForbidden (c : Char) : Bool :=
  "\x00\t\n\r #/:<>?@[\\]^|".toList.contains c

/-- Read the host of a scheme that is not special. -/
def parseOpaque : List Char -> Except ParseError Host
  | [] => .ok .empty
  | '[' :: rest => parseBracketed rest
  | s =>
      if s.any isForbidden then .error .invalidDomainCharacter
      else .ok (.named (String.ofList (Percent.encode Percent.isControl s)))

def text : Host -> String
  | empty => ""
  | named name => name
  | ipv4 address => Ipv4.text address
  | ipv6 groups => "[" ++ Ipv6.text groups ++ "]"

end Host

def hostText? (url : Url) : Option String :=
  match url.host with
  | none => none
  | some .empty => none
  | some host => some host.text

end Url
end HttpCall
