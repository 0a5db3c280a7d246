import HttpCall.Call.Basic
import HttpCall.Call.Event
import HttpCall.Cookie.Parser
import HttpCall.Redirect.Policy

/-!
# Plans

Handling an event is planned before it is done: from the event and a snapshot of
the call, a plan lists the effects in the order in which they take place.  All
plans end with the release of the connection, except that of a followed redirect,
which keeps it for the caller.
-/

namespace HttpCall

/-- What a plan depends on of the call. -/
structure Snapshot where
  phase : Phase
  redirects : Nat
deriving DecidableEq, Repr

def Call.snapshot (c : Call) : Snapshot := ⟨c.phase, c.redirects⟩

inductive Effect where
  | notifyHeaders (headers : Headers)
  | recordCookie (cookie : Cookie)
  | notifyResponse (response : Response)
  | notifyException (e : TransportError)
  | follow (location : Url) (status : Status)
  | succeed (response : Response)
  | fail (failure : Failure)
  | release
deriving DecidableEq, Repr

namespace Plan

def cookiesOf (response : Response) : List Cookie :=
  response.setCookies.filterMap Cookie.parse?

def notices (response : Response) : List Effect :=
  .notifyHeaders response.headers ::
    ((cookiesOf response).map Effect.recordCookie ++ [.notifyResponse response])

def conclusion (response : Response) : Option Url -> List Effect
  | some location => [.follow location response.status]
  | none => [.succeed response, .release]

/-- Where a response leads; a call that is over goes nowhere. -/
def destination (policy : Policy) (snapshot : Snapshot) (request : Request)
    (response : Response) : Except Fault (Option Url) :=
  if snapshot.phase = .pending then
    policy.consult response request snapshot.redirects
  else .ok none

end Plan

/-- The effects of an event.  The policy is asked while the plan is made, so a
policy that breaks down leaves no plan. -/
def plan (policy : Policy) (snapshot : Snapshot) (request : Request) :
    Event -> Except Fault (List Effect)
  | .response response =>
      (Plan.destination policy snapshot request response).map fun location =>
        Plan.notices response ++ Plan.conclusion response location
  | .closed =>
      .ok (if snapshot.phase = .pending then [.fail .connectionClosed, .release]
        else [.release])
  | .error e => .ok [.notifyException e, .fail (.transport e.message), .release]

theorem Plan.destination_returns {policy : Policy} (h : policy.Returns)
    (snapshot : Snapshot) (request : Request) (response : Response) :
    exists location, destination policy snapshot request response = .ok location := by
  unfold destination
  split
  · exact Policy.consult_returns h response request snapshot.redirects
  · exact ⟨none, rfl⟩

theorem plan_returns {policy : Policy} (h : policy.Returns) (snapshot : Snapshot)
    (request : Request) (event : Event) :
    exists effects, plan policy snapshot request event = .ok effects := by
  cases event with
  | response response =>
      rcases Plan.destination_returns h snapshot request response with ⟨location, hlocation⟩
      simp only [plan, hlocation]
      exact ⟨_, rfl⟩
  | closed =>
      exact ⟨_, rfl⟩
  | error e =>
      exact ⟨_, rfl⟩

theorem policy_of_plan_error {policy : Policy} {snapshot : Snapshot} {request : Request}
    {event : Event} {fault : Fault} (h : plan policy snapshot request event = .error fault) :
    exists response, event = .response response ∧ snapshot.phase = .pending ∧
      policy response request snapshot.redirects = .error fault := by
  cases event with
  | closed =>
      cases h
  | error e =>
      cases h
  | response response =>
      simp only [plan] at h
      cases hdestination : Plan.destination policy snapshot request response with
      | ok location? =>
          rw [hdestination] at h
          cases h
      | error first =>
          rw [hdestination] at h
          cases h
          unfold Plan.destination at hdestination
          split at hdestination
          · rename_i hpending
            unfold Policy.consult at hdestination
            split at hdestination
            · cases hdestination
            · exact ⟨response, rfl, hpending, hdestination⟩
          · cases hdestination

end HttpCall
