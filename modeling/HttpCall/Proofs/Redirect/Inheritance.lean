import HttpCall.Proofs.Redirect.Credentials
import HttpCall.Proofs.Redirect.Limit

/-!
# What a policy passes on

If something holds of the first request of a call, and the policy follows redirects only to
where it holds again of the next request, then it holds of all requests that the call sends,
whatever user code does besides.
-/

namespace HttpCall

/-- What holds of a request holds of the next one, if the policy follows the redirect. -/
def Policy.PassesOn (policy : Policy) (holds : Request -> Prop) : Prop :=
  forall response request count location, holds request ->
    policy response request count = .ok (some location) ->
    holds (request.redirected location response.status)

/-- A request that comes of another by redirects that the policy follows. -/
inductive Policy.Reaches (policy : Policy) (first : Request) : Request -> Prop
  | start : policy.Reaches first first
  | redirect {request : Request} {response : Response} {count : Nat} {location : Url} :
      policy.Reaches first request ->
      policy response request count = .ok (some location) ->
      policy.Reaches first (request.redirected location response.status)

namespace World

def AllSent (holds : Request -> Prop) (w : World) : Prop :=
  forall q, .sent q ∈ w.moves -> holds q

/-- It holds of the request that is under way, too. -/
def Inherits (holds : Request -> Prop) (w : World) : Stage -> Prop
  | .exchanging _ _ q | .acquiring _ q => holds q ∧ w.AllSent holds
  | .over | .lost _ => w.AllSent holds

section

variable {holds : Request -> Prop} {v w : World} {stage : Stage}

theorem AllSent.of_moves (h : v.AllSent holds) (hmoves : w.moves = v.moves) :
    w.AllSent holds := by
  unfold AllSent
  rw [hmoves]
  exact h

theorem AllSent.note {e : Entry} (h : w.AllSent holds)
    (he : forall q, e.move? = some (.sent q) -> holds q) : (w.note e).AllSent holds := by
  intro q hq
  rw [moves_note, List.mem_append, Option.mem_toList] at hq
  rcases hq with hq | hq
  · exact h q hq
  · exact he q hq

theorem Inherits.allSent (h : w.Inherits holds stage) : w.AllSent holds := by
  cases stage with
  | exchanging c hop q | acquiring hop q => exact h.right
  | «over» | lost fault => exact h

theorem Inherits.of_moves (h : v.Inherits holds stage) (hmoves : w.moves = v.moves) :
    w.Inherits holds stage := by
  cases stage with
  | exchanging c hop q | acquiring hop q => exact ⟨h.left, h.right.of_moves hmoves⟩
  | «over» | lost fault => exact AllSent.of_moves h hmoves

theorem AllSent.inherits (h : w.AllSent holds) (hstage : stage.waits = false) :
    w.Inherits holds stage := by
  cases stage with
  | exchanging c hop q | acquiring hop q => cases hstage
  | «over» | lost fault => exact h

theorem Inherits.orLost (h : w.Inherits holds stage) (fault? : Option Fault) :
    w.Inherits holds (stage.orLost fault?) := by
  cases fault? with
  | none => exact h
  | some fault => exact h.allSent

/-- Every block of work of a call passes it on, if the policy does. -/
theorem inherits_upkeep (k : Conditions) (hconduct : Conduct k.caller True k.reaction)
    (hpolicy : k.caller.policy.PassesOn holds) :
    Upkeep k (fun _ => True) (Inherits holds) where
  pass _ h := h.of_moves rfl
  act {w stage actions} _ h :=
    have hmoves := moves_drift.of_actions (fun _ => .outside) hconduct actions
      (fun _ _ _ => trivial) w
    (h.of_moves hmoves).orLost _
  send h := by
    refine ⟨h.left, h.right.note ?_⟩
    rintro q ⟨⟩
    exact h.left
  answer {w c hop request} event h := by
    have hmoves := moves_drift.onEvent .outside hconduct.still k.caller k.listeners c hop
      request event w
    have hsent := h.right.of_moves hmoves
    rcases stage_onEvent k.caller k.reaction k.listeners c hop request event w with
      hends | ⟨location, status, hstage⟩
    · exact hsent.inherits hends
    · -- the loop has a new request only by a redirect on which the policy was asked
      rcases leads_of_onEvent hstage with ⟨_, _, hnext, response, _, rfl, hconsult⟩
      rw [hstage, hnext]
      exact ⟨hpolicy response request _ _ h.left (Policy.of_consult hconsult).right, hsent⟩
  expire {w c hop request} h _ := by
    have hreleased := h.right.of_moves (moves_drift.release hconduct.still c w)
    cases (w.release k.reaction c).2 with
    | none => exact hreleased
    | some fault => exact hreleased
  ask h := h.of_moves rfl
  grant h := by
    refine ⟨h.left, h.right.note ?_⟩
    rintro q ⟨⟩
  refuse cause h := h.of_moves (moves_note_of_none _ rfl)
  unavailable e h := h.right.of_moves (moves_unavailable hconduct k.listeners e _)

end
end World

namespace Session

variable {caller : Caller} {react : Reaction}

theorem allSent_of_passesOn (hconduct : World.Conduct caller True react)
    {holds : Request -> Prop} (hpolicy : caller.policy.PassesOn holds)
    {clockStart nextConnection : Nat} {plot : Plot} {request : Request}
    (hrequest : holds request) {hops : List Hop} {w : World}
    (hw : w ∈ (launch caller react clockStart nextConnection plot request hops).worlds) :
    w.AllSent holds := by
  revert w
  have hnone : forall {v : World}, v.moves = [] -> v.AllSent holds := by
    intro v hmoves q hq
    rw [hmoves] at hq
    cases hq
  apply worlds_induction
  · exact hnone rfl
  · intro time asked v hv
    exact hv.of_moves rfl
  · intro cause v hv
    exact hv.of_moves (World.moves_note_of_none v rfl)
  · rintro h w hanswer rfl
    have hmoves :
        (withHooks caller react plot (firstConnected request nextConnection h).1).moves =
          [.acquired request.target] :=
      World.moves_drift.withHooks hconduct.still plot _
    have hbegun :
        (withHooks caller react plot (firstConnected request nextConnection h).1).AllSent
          holds := by
      intro q hq
      rw [hmoves] at hq
      cases hq with
      | tail _ hq => cases hq
    refine ⟨hbegun, fun rest p hp => ?_⟩
    exact (Upkeep.inv_course
      (fun deadline => World.inherits_upkeep ⟨caller, react, plot.listeners, deadline⟩ hconduct
        hpolicy)
      (fun _ _ => ⟨trivial, trivial⟩) ⟨hrequest, hbegun⟩ (fun _ => hbegun) p hp).allSent

end Session
end HttpCall
