import HttpCall.Proofs.Redirect.Journey

/-!
# The loop follows the itinerary

As long as nobody interferes and the time is not up, the loop over hops sends what the
itinerary lists, each request on a connection that was acquired for it, and ends as the
itinerary says.
-/

namespace HttpCall
namespace World

/-- The loop from an exchange on keeps to the itinerary. -/
theorem travelled_run {k : Conditions} (hconduct : Conduct k.caller False k.reaction)
    (hreturns : Returning k.reaction) (rest : List Hop) {h : Hop} {c : Connection} {hop : Nat}
    {request : Request} {w : World} {before : List Move}
    (hallowed : forall x, x ∈ h :: rest ->
      Orderly False x.acquireActions ∧ Orderly False x.actions)
    (hdeparts : Departs k rest h c hop request before w) :
    (Itinerary.ofHops k.caller.policy rest h hop request).Travelled hop before
      (k.run rest h c hop request w) := by
  induction rest generalizing h c hop request w before with
  | nil =>
      have hactions := (hallowed h List.mem_cons_self).right
      rcases follows_or_stops k.caller.policy h hop request with
        ⟨reply, location, status, hreply, hverdict⟩ | hstops
      · exact hdeparts.exhausted hconduct hreturns hactions hreply hverdict
      · exact hdeparts.stop hconduct hreturns hactions hstops
  | cons next rest ih =>
      have hactions := (hallowed h List.mem_cons_self).right
      have hallowed' := fun x hx => hallowed x (List.mem_cons_of_mem h hx)
      have hnext := (hallowed' next List.mem_cons_self).left
      rcases follows_or_stops k.caller.policy h hop request with
        ⟨reply, location, status, hreply, hverdict⟩ | hstops
      · exact hdeparts.further hconduct hreturns hactions hnext hreply hverdict
          (fun _ _ hdeparts' => ih hallowed' hdeparts')
      · exact hdeparts.stop hconduct hreturns hactions hstops

end World

namespace Session

variable {caller : Caller} {react : Reaction}

theorem departs_withHooks (hreact : World.Aloof react) (plot : Plot) (request : Request)
    (nextConnection : Nat) (h : Hop) (rest : List Hop) {w : World} {deadline : Option Nat}
    (hw : w = withHooks caller react plot (firstConnected request nextConnection h).1)
    (htime : forall d, deadline = some d ->
      (Itinerary.ofHops caller.policy rest h 0 request).arrival ≠ .waiting ∧
        w.now + (Itinerary.ofHops caller.policy rest h 0 request).millis <= d) :
    World.Departs ⟨caller, react, plot.listeners, deadline⟩ rest h
      (firstConnected request nextConnection h).2 0 request [] w := by
  have hposition : w.position = (firstConnected request nextConnection h).1.position := by
    rw [hw]
    exact World.position_drift.withHooks hreact plot _
  constructor
  · exact ⟨congrArg Position.outcome hposition, congrArg Position.published hposition⟩
  · exact congrArg Position.redirects hposition
  · exact congrArg Position.moves hposition
  · rfl
  · exact htime

/-- When nobody interferes and the time is not up, a call whose first connection is
granted keeps to its itinerary: while a request is out, its hop is the number of redirects
counted and its connection leads to its target; each request is sent after the
acquisition for it, in order; and the call ends where the itinerary does.  However the
policy decides, a response on the hop of the limit ends it. -/
theorem itinerary_followed (hconduct : World.Conduct caller False react)
    (hreturns : World.Returning react) {h : Hop} {rest : List Hop}
    (hhops : forall x, x ∈ h :: rest ->
      Orderly False x.acquireActions ∧ Orderly False x.actions)
    (hgrant : h.grant = .connection) (clockStart nextConnection : Nat) (plot : Plot)
    (request : Request) :
    let i := Itinerary.ofHops caller.policy rest h 0 request
    exists w course,
      launch caller react clockStart nextConnection plot request (h :: rest) =
          .underway w course ∧
        (i.InTime w.now (deadline? clockStart request w) ->
          (forall p, p ∈ course -> forall c hop sent, p.2 = .exchanging c hop sent ->
            p.1.call.redirects = hop ∧ i.requests[hop]? = some sent ∧
              c.target = sent.target ∧ p.1.call.visible = none) ∧
          (exists past v stage, course = past ++ [(v, stage)] ∧ v.moves = i.moves ∧
            v.call.redirects = i.followed ∧ i.arrival.Reached v stage) ∧
          forall (n : Nat) hop sent reply response, (h :: rest)[n]? = some hop ->
            i.requests[n]? = some sent -> hop.reply = some reply ->
            reply.toEvent sent = .response response ->
            request.followRedirects = false ∨ request.maxRedirects <= n ->
            i.arrival = .settled (.ok response) ∧ i.followed = n ∧
              i.requests.length = n + 1) := by
  intro i
  refine ⟨_, _, launch_of_connection hgrant, ?_⟩
  rintro ⟨limit, hdeadline, htime⟩
  have hdeparts := departs_withHooks hconduct.aloof plot request nextConnection h rest rfl
    htime
  have hrun := (World.travelled_run hconduct hreturns rest hhops hdeparts).cons
    (hdeparts.inFlight hdeparts.isOpen hdeparts.redirects)
  rw [course_of_deadline hdeadline]
  refine ⟨?_, ?_, ?_⟩
  · intro p hp c hop sent hstage
    rcases hrun.inFlight p hp c hop sent hstage with
      ⟨hredirects, hvisible, htarget, j, hj, hsent⟩
    rw [Nat.zero_add] at hj
    rw [hj]
    exact ⟨hredirects.trans hj, hsent, htarget, hvisible⟩
  · rcases hrun.arrives with ⟨past, v, stage, hcourse, hmoves, hredirects, hreached⟩
    rw [Nat.zero_add] at hredirects
    exact ⟨past, v, stage, hcourse, hmoves, hredirects, hreached⟩
  · intro n hop sent reply response hhop hsent hreply hevent hlimit
    rw [← Nat.zero_add n] at hlimit
    exact Itinerary.settled_at_limit n rest h 0 request hhop hsent hreply hevent hlimit

/-!
### A call that is redirected once

A hook breaks down in the end, which makes no difference.
-/

theorem reactionAt_returning {caller : Caller} (hwithin : caller.Within False)
    (hspares : forall m, m ≠ .exception -> m ≠ .complete -> caller.Spares m) (depth : Nat) :
    World.Returning (caller.reactionAt depth) := by
  intro m w hexception hcomplete
  cases depth with
  | zero =>
      rfl
  | succ depth =>
      have hactions : Orderly False (caller.actionsFor m (w.count m)) := by
        intro a ha
        rcases List.mem_flatMap.mp ha with ⟨t, ht, hat⟩
        have horderly := Caller.spares_actionsFor (hspares m hexception hcomplete) _ a ha
        exact ⟨horderly.left, hwithin t (List.mem_filter.mp ht).left a hat⟩
      exact World.act_returns (fun hfalse => hfalse.elim) _ hactions w

def strollingCaller : Caller where
  policy := .always (plainUrl "b.test") (some 1)
  triggers := [⟨.complete, 1, [.poll, .breakDown .other]⟩]
  transform _ := .ok .null

theorem strollingCaller_returning : World.Returning strollingCaller.reaction := by
  apply reactionAt_returning
  · decide
  · intro m _ hcomplete t ht hmoment
    cases List.mem_singleton.mp ht
    exact absurd hmoment.symm hcomplete

theorem itinerary_followed_over_redirect :
    let i := Itinerary.ofHops strollingCaller.policy [plainHop 7] (plainHop 5) 0
      (plainRequest (some (.ofSeconds 1 0)))
    i.requests.length = 2 ∧
      exists w course,
        launch strollingCaller strollingCaller.reaction 0 1 plainPlot
            (plainRequest (some (.ofSeconds 1 0))) [plainHop 5, plainHop 7] =
          .underway w course ∧
        exists past v stage, course = past ++ [(v, stage)] ∧ v.moves = i.moves ∧
          v.call.redirects = i.followed ∧ i.arrival.Reached v stage := by
  intro i
  have hwithin : strollingCaller.Within False := by decide
  have hhops : forall x, x ∈ [plainHop 5, plainHop 7] ->
      Orderly False x.acquireActions ∧ Orderly False x.actions := by decide
  rcases itinerary_followed (Caller.reaction_conduct hwithin) strollingCaller_returning hhops
    rfl 0 1 plainPlot (plainRequest (some (.ofSeconds 1 0))) with
    ⟨w, course, hlaunch, hfollowed⟩
  refine ⟨by decide +kernel, w, course, hlaunch, ?_⟩
  rw [launch_of_connection rfl] at hlaunch
  injection hlaunch with hw _
  have hdeadline : deadline? 0 (plainRequest (some (.ofSeconds 1 0))) w =
      some (some 1000) := by
    rw [← hw]
    decide +kernel
  have hnow : w.now = 0 := by
    rw [← hw]
    decide +kernel
  have hends : (match i.arrival with | .waiting => false | _ => true) = true := by
    decide +kernel
  have htime : i.InTime w.now
      (deadline? 0 (plainRequest (some (.ofSeconds 1 0))) w) := by
    refine ⟨some 1000, hdeadline, ?_⟩
    intro d hd
    cases hd
    rw [hnow]
    constructor
    · intro hwaiting
      rw [hwaiting] at hends
      cases hends
    · decide +kernel
  exact (hfollowed htime).right.left

end Session
end HttpCall
