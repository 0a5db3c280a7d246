import HttpCall.Proofs.Redirect.Credentials
import Mathlib.Data.List.Induction

/-!
# Where requests are sent

The target of a request stands beside its URL, and a redirect changes it only if the new
URL has one.  So a request goes where its URL points if its URL has a target, and otherwise
where the last URL before it pointed that had one.
-/

namespace HttpCall

def Move.request? : Move -> Option Request
  | sent q => some q
  | acquired _ => none

namespace Request

/-- The target of the last URL that has one. -/
def lastTarget? (requests : List Request) : Option Target :=
  (requests.filterMap fun q => Target.ofUrl? q.url).getLast?

theorem lastTarget?_concat (requests : List Request) (q : Request) :
    lastTarget? (requests ++ [q]) = (Target.ofUrl? q.url).or (lastTarget? requests) := by
  unfold lastTarget?
  rw [List.filterMap_append]
  cases htarget : Target.ofUrl? q.url <;> simp [htarget]

theorem url_redirected (r : Request) (location : Url) (status : Status) :
    (r.redirected location status).url = location := rfl

theorem lastTarget?_chain {r : Request} (hr : Target.ofUrl? r.url = some r.target)
    (trail : List (Url × Status)) :
    lastTarget? (r.chain trail) = some (r.followed trail).target := by
  induction trail using List.reverseRecOn with
  | nil =>
      show lastTarget? ([] ++ [r]) = some r.target
      rw [lastTarget?_concat, hr, Option.some_or]
  | append_singleton trail hop ih =>
      rw [chain_concat, lastTarget?_concat, ih, followed_concat, url_redirected,
        target_redirected]
      cases Target.ofUrl? hop.1 <;> rfl

/-- The requests of a chain, up to one of them, are a chain themselves. -/
theorem chain_split {r q : Request} {trail : List (Url × Status)}
    {earlier later : List Request} (h : r.chain trail = earlier ++ q :: later) :
    exists shorter, r.chain shorter = earlier ++ [q] ∧ r.followed shorter = q := by
  induction trail generalizing r earlier with
  | nil =>
      have hsingle : earlier = [] ∧ q = r ∧ later = [] := by
        simpa [chain, List.singleton_eq_append_iff] using h
      rcases hsingle with ⟨rfl, rfl, rfl⟩
      exact ⟨[], rfl, rfl⟩
  | cons hop rest ih =>
      cases earlier with
      | nil =>
          cases congrArg List.head? h
          exact ⟨[], rfl, rfl⟩
      | cons first earlier =>
          rcases List.cons.inj h with ⟨rfl, hrest⟩
          rcases ih hrest with ⟨shorter, hchain, hlast⟩
          exact ⟨hop :: shorter, congrArg (List.cons r) hchain, hlast⟩

theorem filterMap_legs (requests : List Request) :
    (legs requests).filterMap Move.request? = requests := by
  induction requests with
  | nil =>
      rfl
  | cons q rest ih =>
      exact congrArg (List.cons q) ih

/-- The request goes where its URL points, or if that has no target, where the last one
before it points that has one. -/
def Directed (earlier : List Request) (q : Request) : Prop :=
  Target.ofUrl? q.url = some q.target ∨
    Target.ofUrl? q.url = none ∧ lastTarget? earlier = some q.target

theorem directed_of_chain {r q : Request} (hr : Target.ofUrl? r.url = some r.target)
    {trail : List (Url × Status)} {earlier later : List Request}
    (h : r.chain trail = earlier ++ q :: later) : Directed earlier q := by
  rcases chain_split h with ⟨shorter, hchain, hlast⟩
  have htarget : lastTarget? (earlier ++ [q]) = some q.target := by
    rw [← hchain, lastTarget?_chain hr, hlast]
  rw [lastTarget?_concat] at htarget
  unfold Directed
  cases hurl : Target.ofUrl? q.url with
  | some t =>
      rw [hurl] at htarget
      exact Or.inl htarget
  | none =>
      rw [hurl] at htarget
      exact Or.inr ⟨rfl, htarget⟩

end Request

namespace Session

variable {caller : Caller} {react : Reaction}

/-- Along every chain of redirects, and in every call whatever its policy, a request is
sent where its URL points, if its URL has a target, on a connection that was acquired for
that just before.  If its URL has none, it is sent where the last request went whose URL
has one. -/
theorem sent_to_last_target (hconduct : World.Conduct caller True react) {d : Draft}
    {r : Request} (hbuild : d.build = .ok r) :
    (forall trail earlier q later, r.chain trail = earlier ++ q :: later ->
      Request.Directed earlier q) ∧
    forall clockStart nextConnection plot hops w,
      w ∈ (launch caller react clockStart nextConnection plot r hops).worlds ->
      forall before q after, w.moves = before ++ .sent q :: after ->
        before.getLast? = some (.acquired q.target) ∧
          Request.Directed (before.filterMap Move.request?) q := by
  have hr := Draft.target_of_build hbuild
  refine ⟨fun _ _ _ _ hchain => Request.directed_of_chain hr hchain, ?_⟩
  intro clockStart nextConnection plot hops w hw before q after hmoves
  rcases onTrail_of_mem_worlds hconduct hw with ⟨trail, rest, hlegs⟩
  rw [hmoves] at hlegs
  rcases Request.legs_at hlegs with ⟨earlier, later, hchain, rfl⟩
  have hearlier : (Request.legs earlier ++ [Move.acquired q.target]).filterMap
      Move.request? = earlier := by
    rw [List.filterMap_append, Request.filterMap_legs]
    exact List.append_nil earlier
  rw [hearlier]
  exact ⟨List.getLast?_concat, Request.directed_of_chain hr hchain⟩

/-!
### A redirect without a target
-/

def mailUrl : Url := ⟨"mailto", "", "", none, none, .whole "x@y", none, none⟩

def strayCaller : Caller where
  policy := .always mailUrl (some 1)
  triggers := []
  transform _ := .ok .null

def plainDraft : Draft := { plainPlot.draft with url := some (plainUrl "a.test") }

def strayRequest : Request := (plainRequest none).redirected mailUrl .ok

theorem moves_of_strayCaller :
    exists w, w ∈ (launch strayCaller strayCaller.reaction 0 1 plainPlot (plainRequest none)
        [plainHop 5, plainHop 7]).worlds ∧
      w.moves = [.acquired (plainRequest none).target, .sent (plainRequest none),
        .acquired (plainRequest none).target, .sent strayRequest] := by
  have hlast : (launch strayCaller strayCaller.reaction 0 1 plainPlot (plainRequest none)
      [plainHop 5, plainHop 7]).worlds.getLast?.map World.moves =
        some [.acquired (plainRequest none).target, .sent (plainRequest none),
          .acquired (plainRequest none).target, .sent strayRequest] := by
    decide +kernel
  rcases Option.map_eq_some_iff.mp hlast with ⟨w, hw, hmoves⟩
  exact ⟨w, List.mem_of_getLast? hw, hmoves⟩

theorem sent_to_last_target_without_own :
    plainDraft.build = .ok (plainRequest none) ∧
      Request.lastTarget? [plainRequest none] = some strayRequest.target := by
  have hconduct := Caller.reaction_conduct (Caller.within_true strayCaller)
  have hbuild : plainDraft.build = .ok (plainRequest none) := by cbv
  rcases moves_of_strayCaller with ⟨w, hw, hmoves⟩
  have hdirected := ((sent_to_last_target hconduct hbuild).right 0 1 plainPlot _ w hw
    [.acquired (plainRequest none).target, .sent (plainRequest none),
      .acquired (plainRequest none).target] strayRequest [] hmoves).right
  have hnone : Target.ofUrl? strayRequest.url ≠ some strayRequest.target := by decide
  exact ⟨hbuild, (hdirected.resolve_left hnone).right⟩

/-- The request for a mailbox is sent to the host that was asked first. -/
theorem stray_request_sent_to_first_host :
    exists w before, w ∈ (launch strayCaller strayCaller.reaction 0 1 plainPlot
        (plainRequest none) [plainHop 5, plainHop 7]).worlds ∧
      w.moves = before ++ [.sent strayRequest] ∧
      before.getLast? = some (.acquired (plainRequest none).target) ∧
      Target.ofUrl? strayRequest.url = none := by
  rcases moves_of_strayCaller with ⟨w, hw, hmoves⟩
  exact ⟨w, [.acquired (plainRequest none).target, .sent (plainRequest none),
    .acquired (plainRequest none).target], hw, hmoves, rfl, by decide⟩

end Session
end HttpCall
