import HttpCall.Proofs.Handling.Course
import HttpCall.Proofs.Redirect.Position

/-!
# Journeys

A journey is a course that keeps to an itinerary.  While nobody interferes and the time
is not up, each block of work of the loop is a leg of one.
-/

namespace HttpCall

def Itinerary.moves (i : Itinerary) : List Move :=
  i.requests.flatMap fun request => [.acquired request.target, .sent request]

def Arrival.Reached (v : World) (stage : Stage) : Arrival -> Prop
  | settled o => stage = .over ∧ v.call.visible = some o
  | waiting => stage.waits = true ∧ v.call.visible = none
  | lost fault => stage = .lost fault ∧ v.call.visible = none

namespace Itinerary

/-- While a request is out, it is the one that the itinerary lists for the hop, the hop
is the number of redirects that were counted, and the connection leads to the target of
the request.  Hops are counted from a number on. -/
def InFlight (i : Itinerary) (count : Nat) (p : World × Stage) : Prop :=
  forall c hop request, p.2 = .exchanging c hop request ->
    p.1.call.redirects = hop ∧ p.1.call.visible = none ∧ c.target = request.target ∧
      exists j, hop = count + j ∧ i.requests[j]? = some request

/-- The course of a call, from moves that were made before, keeps to the itinerary. -/
structure Travelled (i : Itinerary) (count : Nat) (before : List Move)
    (course : List (World × Stage)) : Prop where
  inFlight : forall p, p ∈ course -> i.InFlight count p
  arrives : exists past v stage, course = past ++ [(v, stage)] ∧
    v.moves = before ++ i.moves ∧ v.call.redirects = count + i.followed ∧
      i.arrival.Reached v stage

section

variable {i : Itinerary} {count : Nat} {before : List Move}
  {course : List (World × Stage)} {p : World × Stage}

theorem inFlight_of_not_exchanging
    (h : forall c hop request, p.2 ≠ .exchanging c hop request) : i.InFlight count p :=
  fun c hop request hp => absurd hp (h c hop request)

theorem Travelled.of_end {v : World} {stage : Stage} (hflight : i.InFlight count (v, stage))
    (hmoves : v.moves = before ++ i.moves) (hredirects : v.call.redirects = count + i.followed)
    (hreached : i.arrival.Reached v stage) : i.Travelled count before [(v, stage)] where
  inFlight := by
    intro p hp
    cases List.mem_singleton.mp hp
    exact hflight
  arrives := ⟨[], v, stage, rfl, hmoves, hredirects, hreached⟩

theorem Travelled.cons (h : i.Travelled count before course)
    (hflight : i.InFlight count p) : i.Travelled count before (p :: course) where
  inFlight := by
    intro q hq
    rcases List.mem_cons.mp hq with rfl | hq
    · exact hflight
    · exact h.inFlight q hq
  arrives := by
    rcases h.arrives with ⟨past, v, stage, rfl, hend⟩
    exact ⟨p :: past, v, stage, rfl, hend⟩

theorem Travelled.precede {request : Request} (millis : Nat)
    (h : i.Travelled (count + 1) (before ++ [.acquired request.target, .sent request])
      course) :
    (i.precede request millis).Travelled count before course where
  inFlight := by
    intro p hp c hop sent hstage
    rcases h.inFlight p hp c hop sent hstage with ⟨hredirects, hvisible, htarget, j, hj, hsent⟩
    refine ⟨hredirects, hvisible, htarget, j + 1, ?_, hsent⟩
    rw [hj, Nat.add_assoc, Nat.add_comm 1 j]
  arrives := by
    rcases h.arrives with ⟨past, v, stage, hcourse, hmoves, hredirects, hreached⟩
    refine ⟨past, v, stage, hcourse, ?_, ?_, hreached⟩
    · rw [hmoves, List.append_assoc]
      rfl
    · rw [hredirects, Nat.add_assoc, Nat.add_comm 1 i.followed]
      rfl

theorem inFlight_acquiring (i : Itinerary) (count : Nat) (v : World) (hop : Nat)
    (request : Request) : i.InFlight count (v, .acquiring hop request) :=
  inFlight_of_not_exchanging (fun _ _ _ => Stage.noConfusion)

theorem Travelled.of_settled {v : World} {q : Position} {o : Outcome}
    (hv : v.position = { q with outcome := some o, published := true })
    (hmoves : q.moves = before ++ i.moves) (hredirects : q.redirects = count + i.followed)
    (harrival : i.arrival = .settled o) : i.Travelled count before [(v, .over)] := by
  have hvisible : v.call.visible = some o :=
    Call.visible_eq_some.mpr ⟨congrArg Position.published hv, congrArg Position.outcome hv⟩
  apply of_end
  · exact inFlight_of_not_exchanging (fun _ _ _ => Stage.noConfusion)
  · exact (congrArg Position.moves hv).trans hmoves
  · exact (congrArg Position.redirects hv).trans hredirects
  · rw [harrival]
    exact ⟨rfl, hvisible⟩

end
end Itinerary

theorem Wait.of_inTime {deadline : Option Nat} {now delay : Nat}
    (h : forall d, deadline = some d -> now + delay <= d) :
    Wait.of deadline now delay = .ended (now + delay) := by
  unfold Wait.of
  split
  · rename_i hzero
    rw [hzero, Nat.add_zero]
  · cases deadline with
    | none =>
        rfl
    | some d =>
        dsimp only
        rw [if_pos (h d rfl)]

namespace World

section Blocks

variable {k : Conditions} {w : World} {h : Hop} {c : Connection} {hop : Nat}
  {request : Request}

theorem act_undisturbed {caller : Caller} {react : Reaction}
    (hconduct : Conduct caller False react) {actions : List Action}
    (hactions : Orderly False actions) (w : World) :
    exists v, w.act caller react actions = (v, none) ∧ v.position = w.position := by
  have hnone : (w.act caller react actions).2 = none :=
    act_returns (fun hfalse => hfalse.elim) actions hactions w
  have hposition := position_drift.of_actions False.elim hconduct actions
    (fun a ha => (hactions a ha).right) w
  exact ⟨_, Prod.ext rfl hnone, hposition⟩

theorem exchange_inTime (hconduct : Conduct k.caller False k.reaction)
    (hactions : Orderly False h.actions)
    (hwait : forall d, k.deadline = some d -> w.now + h.delay <= d)
    (hanswer : h.reply = none -> k.deadline = none) :
    exists v, v.position =
        { w.position with now := w.now + h.delay, moves := w.moves ++ [.sent request] } ∧
      k.exchange h c hop request w =
        ([(w.send request, .exchanging c hop request)],
          match h.reply with
          | some reply =>
              v.onEvent k.caller k.reaction k.listeners c hop request (reply.toEvent request)
          | none => (v, .exchanging c hop request)) := by
  rcases act_undisturbed hconduct hactions { w.send request with now := w.now + h.delay } with
    ⟨v, hact, hv⟩
  have hmoves : (w.send request).moves = w.moves ++ [.sent request] := moves_note _ _
  refine ⟨v, ?_, ?_⟩
  · rw [hv]
    exact congrArg (Position.mk (w.now + h.delay) w.call.redirects w.call.outcome
      w.call.published) hmoves
  · have hended : Wait.of k.deadline (w.send request).now h.delay =
        .ended (w.now + h.delay) :=
      Wait.of_inTime hwait
    unfold Conditions.exchange
    dsimp only at hact ⊢
    rw [hended]
    dsimp only
    rw [hact]
    cases hreply : h.reply with
    | none =>
        simp only [Conditions.untilExpired, hanswer hreply]
    | some reply =>
        rfl

theorem acquire_inTime (hconduct : Conduct k.caller False k.reaction)
    (hactions : Orderly False h.acquireActions)
    (hwait : forall d, k.deadline = some d -> w.now + h.acquireDelay <= d)
    (hanswer : h.grant = .silence -> k.deadline = none) :
    exists v, v.position = { w.position with now := w.now + h.acquireDelay } ∧
      k.acquire h hop request w =
        ([({ w with asked := w.asked + 1 }, .acquiring hop request)],
          match h.grant with
          | .connection => v.onGranted hop request
          | .refusal e =>
              (v.note (.refused request.target (some e))).onUnavailable k.caller k.reaction
                k.listeners e
          | .silence => (v, .acquiring hop request)) := by
  rcases act_undisturbed hconduct hactions
    { w with asked := w.asked + 1, now := w.now + h.acquireDelay } with ⟨v, hact, hv⟩
  refine ⟨v, hv, ?_⟩
  unfold Conditions.acquire
  dsimp only at hact ⊢
  rw [Wait.of_inTime hwait]
  dsimp only
  rw [hact]
  cases hgrant : h.grant with
  | connection =>
      rfl
  | refusal e =>
      rfl
  | silence =>
      simp only [Conditions.untilExpired, hanswer hgrant]

theorem travelled_onUnavailable {i : Itinerary} {count : Nat} {before : List Move}
    (hconduct : Conduct k.caller False k.reaction) {y : World} (target : Target)
    (cause : Option TransportError) (e : TransportError) (hopen : y.Open)
    (hmoves : y.moves = before ++ i.moves) (hredirects : y.call.redirects = count + i.followed)
    (harrival : i.arrival = .settled (.error (.transport e.message))) :
    i.Travelled count before
      [(y.note (.refused target cause)).onUnavailable k.caller k.reaction k.listeners e] := by
  have hrefused : (y.note (.refused target cause)).position = y.position :=
    position_note y rfl
  rcases position_onUnavailable k.caller hconduct.aloof k.listeners e
    (hopen.of_position hrefused) with ⟨hended, hover⟩
  rcases hresult : (y.note (.refused target cause)).onUnavailable k.caller k.reaction
    k.listeners e with ⟨z, stage⟩
  rw [hresult, hrefused] at hended
  rw [hresult] at hover
  cases hover
  exact .of_settled hended hmoves hredirects harrival

structure Departs (k : Conditions) (rest : List Hop) (h : Hop) (c : Connection) (hop : Nat)
    (request : Request) (before : List Move) (w : World) : Prop where
  isOpen : w.Open
  redirects : w.call.redirects = hop
  moves : w.moves = before ++ [.acquired request.target]
  target : c.target = request.target
  inTime : forall d, k.deadline = some d ->
    (Itinerary.ofHops k.caller.policy rest h hop request).arrival ≠ .waiting ∧
      w.now + (Itinerary.ofHops k.caller.policy rest h hop request).millis <= d

theorem Departs.exchange {rest : List Hop} {before : List Move}
    (hdeparts : Departs k rest h c hop request before w)
    (hconduct : Conduct k.caller False k.reaction) (hactions : Orderly False h.actions) :
    exists v, v.position = ⟨w.now + h.delay, hop, none, false,
        before ++ [.acquired request.target, .sent request]⟩ ∧
      k.exchange h c hop request w =
        ([(w.send request, .exchanging c hop request)],
          match h.reply with
          | some reply =>
              v.onEvent k.caller k.reaction k.listeners c hop request (reply.toEvent request)
          | none => (v, .exchanging c hop request)) := by
  have hbegins := Itinerary.begins_ofHops k.caller.policy rest h hop request
  have hwait : forall d, k.deadline = some d -> w.now + h.delay <= d := by
    intro d hd
    have hend := (hdeparts.inTime d hd).right
    omega
  have hanswer : h.reply = none -> k.deadline = none := by
    intro hreply
    cases hdeadline : k.deadline with
    | none =>
        rfl
    | some d =>
        have harrival := (hdeparts.inTime d hdeadline).left
        rw [Itinerary.ofHops_of_silence hreply] at harrival
        exact absurd rfl harrival
  rcases exchange_inTime hconduct hactions hwait hanswer with ⟨v, hv, hexchange⟩
  refine ⟨v, ?_, hexchange⟩
  rw [hv, hdeparts.moves, List.append_assoc]
  simp only [position, hdeparts.redirects, hdeparts.isOpen.outcome, hdeparts.isOpen.published]
  rfl

theorem Departs.inFlight {rest : List Hop} {before : List Move} {v : World}
    (hdeparts : Departs k rest h c hop request before w) (hopen : v.Open)
    (hredirects : v.call.redirects = hop) :
    (Itinerary.ofHops k.caller.policy rest h hop request).InFlight hop
      (v, .exchanging c hop request) := by
  rcases (Itinerary.begins_ofHops k.caller.policy rest h hop request).left with
    ⟨others, hothers⟩
  intro c' hop' request' hstage
  cases hstage
  refine ⟨hredirects, hopen.visible, hdeparts.target, 0, rfl, ?_⟩
  rw [hothers]
  rfl

theorem Departs.sent {rest : List Hop} {before : List Move}
    (hdeparts : Departs k rest h c hop request before w) :
    (Itinerary.ofHops k.caller.policy rest h hop request).InFlight hop
      (w.send request, .exchanging c hop request) :=
  hdeparts.inFlight ⟨hdeparts.isOpen.outcome, hdeparts.isOpen.published⟩ hdeparts.redirects

/-!
## The last hop
-/

theorem Departs.ends {rest : List Hop} {before : List Move} {x : World} {stage : Stage}
    (hdeparts : Departs k rest h c hop request before w)
    (hexchange : k.exchange h c hop request w =
      ([(w.send request, .exchanging c hop request)], x, stage))
    (hstage : forall n r, stage ≠ .acquiring n r)
    (hend : (Itinerary.ofHops k.caller.policy rest h hop request).Travelled hop before
      [(x, stage)]) :
    (Itinerary.ofHops k.caller.policy rest h hop request).Travelled hop before
      (k.run rest h c hop request w) := by
  rw [Conditions.run_of_end hexchange hstage]
  exact hend.cons hdeparts.sent

theorem Departs.stop {rest : List Hop} {before : List Move}
    (hdeparts : Departs k rest h c hop request before w)
    (hconduct : Conduct k.caller False k.reaction) (hreturns : Returning k.reaction)
    (hactions : Orderly False h.actions)
    (hstop : forall reply location status, h.reply = some reply ->
      verdict k.caller.policy request hop (reply.toEvent request) ≠
        .follow location status) :
    (Itinerary.ofHops k.caller.policy rest h hop request).Travelled hop before
      (k.run rest h c hop request w) := by
  rcases hdeparts.exchange hconduct hactions with ⟨v, hv, hexchange⟩
  have hmoves : v.moves = before ++ [.acquired request.target, .sent request] :=
    congrArg Position.moves hv
  have hredirects : v.call.redirects = hop := congrArg Position.redirects hv
  have hopen : v.Open := ⟨congrArg Position.outcome hv, congrArg Position.published hv⟩
  cases hreply : h.reply with
  | none =>
      have hflight := hdeparts.inFlight hopen hredirects
      rw [hreply] at hexchange
      apply hdeparts.ends hexchange (fun _ _ => Stage.noConfusion)
      rw [Itinerary.ofHops_of_silence hreply] at hflight ⊢
      exact .of_end hflight hmoves hredirects ⟨rfl, hopen.visible⟩
  | some reply =>
      have hevent := onEvent_verdict k.caller hconduct.aloof hreturns k.listeners c hop
        request (reply.toEvent request) hopen
      rw [hreply] at hexchange
      rw [hredirects] at hevent
      cases hverdict : verdict k.caller.policy request hop (reply.toEvent request) with
      | settle o =>
          rw [hverdict] at hevent
          rcases hresult : v.onEvent k.caller k.reaction k.listeners c hop request
            (reply.toEvent request) with ⟨x, stage⟩
          rw [hresult] at hevent
          rcases hevent with ⟨hx, rfl⟩
          dsimp only at hexchange
          rw [hresult] at hexchange
          apply hdeparts.ends hexchange (fun _ _ => Stage.noConfusion)
          rw [Itinerary.ofHops_of_settle hreply hverdict]
          exact .of_settled hx hmoves hredirects rfl
      | lost fault =>
          rw [hverdict] at hevent
          dsimp only at hexchange hevent
          rw [hevent] at hexchange
          apply hdeparts.ends hexchange (fun _ _ => Stage.noConfusion)
          rw [Itinerary.ofHops_of_lost hreply hverdict]
          refine .of_end ?_ hmoves hredirects ⟨rfl, hopen.visible⟩
          exact Itinerary.inFlight_of_not_exchanging (fun _ _ _ => Stage.noConfusion)
      | follow location status =>
          exact absurd hverdict (hstop reply location status hreply)

/-!
## Hops that are followed by others
-/

theorem Departs.follow {rest : List Hop} {before : List Move} {reply : Reply} {location : Url}
    {status : Status} (hdeparts : Departs k rest h c hop request before w)
    (hconduct : Conduct k.caller False k.reaction) (hreturns : Returning k.reaction)
    (hactions : Orderly False h.actions) (hreply : h.reply = some reply)
    (hverdict : verdict k.caller.policy request hop (reply.toEvent request) =
      .follow location status) :
    exists x, x.position = ⟨w.now + h.delay, hop + 1, none, false,
        before ++ [.acquired request.target, .sent request]⟩ ∧
      k.exchange h c hop request w =
        ([(w.send request, .exchanging c hop request)], x,
          .acquiring hop (request.redirected location status)) := by
  rcases hdeparts.exchange hconduct hactions with ⟨v, hv, hexchange⟩
  have hredirects : v.call.redirects = hop := congrArg Position.redirects hv
  have hopen : v.Open := ⟨congrArg Position.outcome hv, congrArg Position.published hv⟩
  have hevent := onEvent_verdict k.caller hconduct.aloof hreturns k.listeners c hop request
    (reply.toEvent request) hopen
  rw [hredirects, hverdict, hv] at hevent
  rw [hreply] at hexchange
  rcases hresult : v.onEvent k.caller k.reaction k.listeners c hop request
    (reply.toEvent request) with ⟨x, stage⟩
  rw [hresult] at hevent
  rcases hevent with ⟨hx, rfl⟩
  dsimp only at hexchange
  rw [hresult] at hexchange
  exact ⟨x, hx, hexchange⟩

theorem Departs.exhausted {before : List Move} {reply : Reply} {location : Url}
    {status : Status} (hdeparts : Departs k [] h c hop request before w)
    (hconduct : Conduct k.caller False k.reaction) (hreturns : Returning k.reaction)
    (hactions : Orderly False h.actions) (hreply : h.reply = some reply)
    (hverdict : verdict k.caller.policy request hop (reply.toEvent request) =
      .follow location status) :
    (Itinerary.ofHops k.caller.policy [] h hop request).Travelled hop before
      (k.run [] h c hop request w) := by
  have hsent := hdeparts.sent
  rcases hdeparts.follow hconduct hreturns hactions hreply hverdict with ⟨x, hx, hexchange⟩
  have hopen : x.Open := ⟨congrArg Position.outcome hx, congrArg Position.published hx⟩
  rw [Conditions.run_of_exhausted hexchange]
  rw [Itinerary.ofHops_of_exhausted hreply hverdict] at hsent ⊢
  have hend : Itinerary.Travelled
      ⟨[request], 1, h.delay, .settled (.error (.transport exhaustedError.message))⟩ hop before
      [k.refuse (request.redirected location status) x] :=
    travelled_onUnavailable hconduct _ none exhaustedError hopen (congrArg Position.moves hx)
      (congrArg Position.redirects hx) rfl
  exact (hend.cons (Itinerary.inFlight_acquiring _ _ x _ _)).cons hsent

theorem Departs.acquire {next : Hop} {rest : List Hop} {before : List Move} {reply : Reply}
    {location : Url} {status : Status}
    (hdeparts : Departs k (next :: rest) h c hop request before w)
    (hconduct : Conduct k.caller False k.reaction) (hnext : Orderly False next.acquireActions)
    (hreply : h.reply = some reply)
    (hverdict : verdict k.caller.policy request hop (reply.toEvent request) =
      .follow location status) {x : World} {moves : List Move}
    (hx : x.position = ⟨w.now + h.delay, hop + 1, none, false, moves⟩) :
    exists y, y.position =
        ⟨w.now + h.delay + next.acquireDelay, hop + 1, none, false, moves⟩ ∧
      k.acquire next hop (request.redirected location status) x =
        ([({ x with asked := x.asked + 1 },
            .acquiring hop (request.redirected location status))],
          match next.grant with
          | .connection => y.onGranted hop (request.redirected location status)
          | .refusal e =>
              (y.note (.refused (request.redirected location status).target
                (some e))).onUnavailable k.caller k.reaction k.listeners e
          | .silence => (y, .acquiring hop (request.redirected location status))) := by
  have hnow : x.now = w.now + h.delay := congrArg Position.now hx
  have hend : forall d, k.deadline = some d ->
      x.now + next.acquireDelay <= d ∧ next.grant ≠ .silence := by
    intro d hd
    rcases hdeparts.inTime d hd with ⟨harrival, hmillis⟩
    rw [Itinerary.ofHops_of_follow hreply hverdict] at harrival hmillis
    rw [hnow]
    cases hgrant : next.grant with
    | connection =>
        rw [hgrant] at hmillis
        dsimp only [Itinerary.precede] at hmillis
        exact ⟨by omega, Grant.noConfusion⟩
    | refusal e =>
        rw [hgrant] at hmillis
        dsimp only at hmillis
        exact ⟨by omega, Grant.noConfusion⟩
    | silence =>
        rw [hgrant] at harrival
        exact absurd rfl harrival
  have hanswer : next.grant = .silence -> k.deadline = none := by
    intro hsilence
    cases hdeadline : k.deadline with
    | none =>
        rfl
    | some d =>
        exact absurd hsilence (hend d hdeadline).right
  have hwait : forall d, k.deadline = some d -> x.now + next.acquireDelay <= d :=
    fun d hd => (hend d hd).left
  rcases acquire_inTime hconduct hnext hwait hanswer with ⟨y, hy, hacquire⟩
  rw [hnow, hx] at hy
  exact ⟨y, hy, hacquire⟩

theorem onGranted_departs {next : Hop} {rest : List Hop} {moves : List Move} {y : World}
    (hopen : y.Open) (hredirects : y.call.redirects = hop + 1) (hmoves : y.moves = moves)
    (htime : forall d, k.deadline = some d ->
      (Itinerary.ofHops k.caller.policy rest next (hop + 1) request).arrival ≠ .waiting ∧
        y.now + (Itinerary.ofHops k.caller.policy rest next (hop + 1) request).millis <= d) :
    exists z c', y.onGranted hop request = (z, .exchanging c' (hop + 1) request) ∧
      Departs k rest next c' (hop + 1) request moves z := by
  refine ⟨_, _, rfl, ?_⟩
  constructor
  · exact ⟨hopen.outcome, hopen.published⟩
  · exact hredirects
  · rw [← hmoves]
    exact moves_note _ _
  · rfl
  · exact htime

theorem Departs.further {next : Hop} {rest : List Hop} {before : List Move} {reply : Reply}
    {location : Url} {status : Status}
    (hdeparts : Departs k (next :: rest) h c hop request before w)
    (hconduct : Conduct k.caller False k.reaction) (hreturns : Returning k.reaction)
    (hactions : Orderly False h.actions) (hnext : Orderly False next.acquireActions)
    (hreply : h.reply = some reply)
    (hverdict : verdict k.caller.policy request hop (reply.toEvent request) =
      .follow location status)
    (hrest : forall c' y,
      Departs k rest next c' (hop + 1) (request.redirected location status)
        (before ++ [.acquired request.target, .sent request]) y ->
      (Itinerary.ofHops k.caller.policy rest next (hop + 1)
        (request.redirected location status)).Travelled (hop + 1)
          (before ++ [.acquired request.target, .sent request])
          (k.run rest next c' (hop + 1) (request.redirected location status) y)) :
    (Itinerary.ofHops k.caller.policy (next :: rest) h hop request).Travelled hop before
      (k.run (next :: rest) h c hop request w) := by
  have htime := hdeparts.inTime
  rcases hdeparts.follow hconduct hreturns hactions hreply hverdict with ⟨x, hx, hexchange⟩
  rcases hdeparts.acquire hconduct hnext hreply hverdict hx with ⟨y, hy, hacquire⟩
  have hopen : y.Open := ⟨congrArg Position.outcome hy, congrArg Position.published hy⟩
  -- the request is out, then the pool is asked: two waits before the course goes on
  have hasks : forall course,
      (Itinerary.ofHops k.caller.policy (next :: rest) h hop request).Travelled hop before
        course ->
      (Itinerary.ofHops k.caller.policy (next :: rest) h hop request).Travelled hop before
        ((w.send request, .exchanging c hop request) ::
          (x, .acquiring hop (request.redirected location status)) ::
            ({ x with asked := x.asked + 1 },
              .acquiring hop (request.redirected location status)) :: course) := by
    intro course hcourse
    have hasked := hcourse.cons (Itinerary.inFlight_acquiring _ _
      { x with asked := x.asked + 1 } hop (request.redirected location status))
    have hfollowed := hasked.cons (Itinerary.inFlight_acquiring _ _ x hop
      (request.redirected location status))
    exact hfollowed.cons hdeparts.sent
  cases hgrant : next.grant with
  | connection =>
      rw [Itinerary.ofHops_of_follow hreply hverdict, hgrant] at htime
      rw [hgrant] at hacquire
      have hnow : y.now = w.now + h.delay + next.acquireDelay := congrArg Position.now hy
      have htime' : forall d, k.deadline = some d ->
          (Itinerary.ofHops k.caller.policy rest next (hop + 1)
              (request.redirected location status)).arrival ≠ .waiting ∧
            y.now + (Itinerary.ofHops k.caller.policy rest next (hop + 1)
              (request.redirected location status)).millis <= d := by
        intro d hd
        rcases htime d hd with ⟨harrival, hmillis⟩
        dsimp only [Itinerary.precede] at harrival hmillis
        exact ⟨harrival, by omega⟩
      rcases onGranted_departs hopen (congrArg Position.redirects hy)
        (congrArg Position.moves hy) htime' with ⟨z, c', hgranted, hdeparts'⟩
      dsimp only at hacquire
      rw [hgranted] at hacquire
      rw [Conditions.run_of_acquired hexchange hacquire]
      apply hasks
      rw [Itinerary.ofHops_of_follow hreply hverdict, hgrant]
      have harrived := hdeparts'.inFlight hdeparts'.isOpen hdeparts'.redirects
      exact ((hrest c' z hdeparts').cons harrived).precede (h.delay + next.acquireDelay)
  | refusal e =>
      rw [hgrant] at hacquire
      rw [Conditions.run_of_unacquired hexchange hacquire (fun _ _ _ => Stage.noConfusion)]
      apply hasks
      rw [Itinerary.ofHops_of_follow hreply hverdict, hgrant]
      exact travelled_onUnavailable hconduct _ (some e) e hopen (congrArg Position.moves hy)
        (congrArg Position.redirects hy) rfl
  | silence =>
      rw [hgrant] at hacquire
      rw [Conditions.run_of_unacquired hexchange hacquire (fun _ _ _ => Stage.noConfusion)]
      apply hasks
      rw [Itinerary.ofHops_of_follow hreply hverdict, hgrant]
      exact .of_end (Itinerary.inFlight_acquiring _ _ _ _ _) (congrArg Position.moves hy)
        (congrArg Position.redirects hy) ⟨rfl, hopen.visible⟩

end Blocks
end World
end HttpCall
