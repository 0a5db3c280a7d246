import HttpCall.Fault
import HttpCall.Message.Response
import HttpCall.Request.Basic
import HttpCall.Url.Parser

/-!
# Redirect policies

A policy looks at a response and says where the call continues, if it does.  The
follow flag and the limit of the request are applied before any policy is asked.
-/

namespace HttpCall

/-- Where a response to a request, received after a number of followed redirects,
leads; `none` makes it the final one. -/
abbrev Policy := Response -> Request -> Nat -> Except Fault (Option Url)

namespace Policy

/-- The place that a followable response names, relative to the request, if a
call can go there. -/
def locationOf (response : Response) (request : Request) : Option Url :=
  if response.status.isFollowable then
    match response.headers.text? .location with
    | none => none
    | some location =>
        match request.url.join location with
        | .ok url => if url.isHttp then some url else none
        | .error _ => none
  else none

def standard : Policy := fun response request _ => .ok (locationOf response request)

def never : Policy := fun _ _ _ => .ok none

/-- Follow usable locations on the host of the request; the port and the scheme
may change. -/
def sameHost : Policy := fun response request _ =>
  match locationOf response request with
  | some url => .ok (if url.hostText? = request.url.hostText? then some url else none)
  | none => .ok none

/-- Go to one URL, whatever the response, as long as fewer redirects than a bound
were followed. -/
def always (url : Url) (below : Option Nat) : Policy := fun _ _ count =>
  match below with
  | some bound => .ok (if count < bound then some url else none)
  | none => .ok (some url)

/-- Ask a policy, unless the request follows no redirect or no more of them. -/
def consult (policy : Policy) (response : Response) (request : Request) (count : Nat) :
    Except Fault (Option Url) :=
  if !request.followRedirects || request.maxRedirects <= count then .ok none
  else policy response request count

def Returns (policy : Policy) : Prop :=
  forall response request count, exists location, policy response request count = .ok location

theorem consult_returns {policy : Policy} (h : policy.Returns) (response : Response)
    (request : Request) (count : Nat) :
    exists location, policy.consult response request count = .ok location := by
  unfold consult
  split
  · exact ⟨none, rfl⟩
  · exact h response request count

end Policy
end HttpCall
