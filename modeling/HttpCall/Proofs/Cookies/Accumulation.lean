import HttpCall.Proofs.Cookies.Gathering
import HttpCall.Proofs.Trace.Order

/-!
# Cookies of a whole call

The cookies of a call are those of the responses that it has received, hop by hop.  The
last response contributes all of its cookies, unless a listener breaks down; then it
contributes those up to the one that was told by then.
-/

namespace HttpCall

def Hop.cookies (h : Hop) : List Cookie :=
  match h.reply with
  | some (.response _ _ headers _ _) => headers.cookies
  | _ => []

def gathered (hops : List Hop) (n : Nat) : List Cookie := (hops.take n).flatMap Hop.cookies

theorem IsEventOf.gathered_succ {hops : List Hop} {n : Nat} {q : Request} {r : Response}
    (h : IsEventOf hops n q (.response r)) :
    gathered hops (n + 1) = gathered hops n ++ r.headers.cookies := by
  rcases h with ⟨hop, reply, hhop, hreply, hevent⟩ | hlate
  · have hcookies : hop.cookies = r.headers.cookies := by
      unfold Hop.cookies
      rw [hreply]
      cases reply <;> cases hevent
      rfl
    unfold gathered
    rw [List.take_add_one, hhop, List.flatMap_append, ← hcookies]
    simp
  · cases hlate

namespace World

/-- The call ended on a hop, with the event of that hop. -/
def EndedOnHop (caller : Caller) (react : Reaction) (listeners : Listeners)
    (hops : List Hop) (w : World) : Prop :=
  exists n q event, IsEventOf hops n q event ∧
    Concluded Call.visible caller react listeners q n (gathered hops n) event w

/-- There was no connection for the next hop. -/
def EndedBetweenHops (listeners : Listeners) (hops : List Hop) (w : World) : Prop :=
  w.CookiesTold listeners ∧ exists n, exists e : TransportError,
    w.call.visible = some (.error (.transport e.message)) ∧
      w.call.cookies = gathered hops (n + 1)

/-- Which cookies are recorded and were told, by what is waited for. -/
def Accumulated (caller : Caller) (react : Reaction) (listeners : Listeners)
    (hops : List Hop) (w : World) : Stage -> Prop
  | .exchanging _ hop _ => Collected listeners hop (gathered hops hop) w
  | .acquiring hop _ => Collected listeners (hop + 1) (gathered hops (hop + 1)) w
  | .over => EndedOnHop caller react listeners hops w ∨ EndedBetweenHops listeners hops w
  | .lost _ => (exists n, Collected listeners n (gathered hops n) w) ∨
      EndedOnHop caller react listeners hops w

section

variable {caller : Caller} {react : Reaction} {listeners : Listeners} {hops : List Hop}
  {stage : Stage} {c : Connection} {hop : Nat} {q : Request} {event : Event} {v w : World}

theorem Accumulated.lull (h : Accumulated caller react listeners hops v stage)
    (hlull : Lull False v w) : Accumulated caller react listeners hops w stage := by
  have honHop : EndedOnHop caller react listeners hops v ->
      EndedOnHop caller react listeners hops w := by
    rintro ⟨n, q, event, hevent, hconcluded⟩
    exact ⟨n, q, event, hevent, hconcluded.lull hlull.allowing hlull.shown⟩
  cases stage with
  | exchanging c hop q => exact Collected.lull h hlull
  | acquiring hop q => exact Collected.lull h hlull
  | «over» =>
      rcases h with hended | ⟨htold, n, e, hvisible, hcookies⟩
      · exact Or.inl (honHop hended)
      · exact Or.inr ⟨hlull.cookiesTold htold, n, e, hlull.shown _ hvisible,
          hlull.cookies.trans hcookies⟩
  | lost fault =>
      rcases h with ⟨n, hcollected⟩ | hended
      · exact Or.inl ⟨n, hcollected.lull hlull⟩
      · exact Or.inr (honHop hended)

theorem Accumulated.told (h : Accumulated caller react listeners hops w stage) :
    w.CookiesTold listeners := by
  cases stage with
  | exchanging c hop q => exact Collected.told h
  | acquiring hop q => exact Collected.told h
  | «over» =>
      rcases h with ⟨_, _, _, _, htold, _⟩ | ⟨htold, _⟩
      · exact htold
      · exact htold
  | lost fault =>
      rcases h with ⟨_, hcollected⟩ | ⟨_, _, _, _, htold, _⟩
      · exact hcollected.told
      · exact htold

theorem Accumulated.orLost (h : Accumulated caller react listeners hops w stage)
    (hwaits : stage.waits = true) (fault? : Option Fault) :
    Accumulated caller react listeners hops w (stage.orLost fault?) := by
  cases fault? with
  | none =>
      exact h
  | some fault =>
      cases stage with
      | exchanging c hop q => exact Or.inl ⟨hop, h⟩
      | acquiring hop q => exact Or.inl ⟨hop + 1, h⟩
      | «over» => cases hwaits
      | lost fault => cases hwaits

theorem Collected.of_followed (hevent : IsEventOf hops hop q event)
    (h : Followed listeners hop (gathered hops hop) event w) :
    Collected listeners (hop + 1) (gathered hops (hop + 1)) w := by
  rcases h with ⟨r, rfl, hcollected⟩
  rw [hevent.gathered_succ]
  exact hcollected

theorem accumulated_onEvent (hreact : Relying caller listeners react) (c : Connection)
    (hevent : IsEventOf hops hop q event)
    (hw : Collected listeners hop (gathered hops hop) w) :
    Accumulated caller react listeners hops
      (w.onEvent caller react listeners c hop q event).1
      (w.onEvent caller react listeners c hop q event).2 := by
  have hcollected := onEvent_collected hreact c hop q event hw
  have hended : forall v,
      Concluded Call.visible caller react listeners q hop (gathered hops hop) event v ->
      EndedOnHop caller react listeners hops v :=
    fun v hv => ⟨hop, q, event, hevent, hv⟩
  rcases hresult : w.onEvent caller react listeners c hop q event with
    ⟨v, _ | ⟨n, r⟩ | _ | fault⟩ <;> rw [hresult] at hcollected
  · exact hcollected.elim
  · have hstage : (w.onEvent caller react listeners c hop q event).2 = .acquiring n r := by
      rw [hresult]
    cases Conditions.hop_of_onEvent hstage
    exact Collected.of_followed hevent hcollected
  · exact Or.inl (hended v hcollected)
  · rcases hcollected with rfl | hconcluded | hfollowed
    · exact Or.inl ⟨hop, hw⟩
    · exact Or.inr (hended v hconcluded)
    · exact Or.inl ⟨hop + 1, Collected.of_followed hevent hfollowed⟩

theorem accumulated_onUnavailable (hreact : Relying caller listeners react)
    (e : TransportError) (hw : Collected listeners (hop + 1) (gathered hops (hop + 1)) w) :
    Accumulated caller react listeners hops (w.onUnavailable caller react listeners e).1
      .over := by
  rcases onUnavailable_collected hreact e hw with ⟨htold, hvisible, hcookies⟩
  exact Or.inr ⟨htold, hop, e, hvisible, hcookies⟩

theorem accumulated_route (hreact : Relying caller listeners react) (hops : List Hop)
    (deadline : Option Nat) :
    Route ⟨caller, react, listeners, deadline⟩ hops KeepsOut
      (fun _ hop _ => Collected listeners hop (gathered hops hop))
      (fun hop _ => Collected listeners (hop + 1) (gathered hops (hop + 1)))
      (Accumulated caller react listeners hops) where
  pass _ _ h := h.lull (.of_same rfl rfl)
  act {w stage actions} hactions hwaits h :=
    (h.lull ((lull_drift False listeners).act (hreact.lull False) actions hactions w
      h.told)).orLost hwaits _
  send {w c hop q} h := by
    have hrequested : Lull False w { w with request := q } := .of_same rfl rfl
    exact Collected.lull h (hrequested.trans (lull_note _ rfl))
  answer {w c hop q h reply} hhop hreply hw := by
    have hevent : IsEventOf hops hop q (reply.toEvent q) :=
      Or.inl ⟨h, reply, hhop, hreply, rfl⟩
    exact Route.reached_of_inv (accumulated_onEvent hreact c hevent hw)
  late {w c hop q} hw :=
    Route.reached_of_inv (accumulated_onEvent hreact c (Or.inr rfl) hw)
  expire {w c hop q} hw hdone := by
    have hpending : w.call.isDone = false := by
      have hnone := Collected.pending hw
      simp [Call.isDone, Call.phase, Call.visible, hnone, Phase.isTerminal]
    rw [hpending] at hdone
    cases hdone
  ask h := h.lull (.of_same rfl rfl)
  grant {w hop q} h := by
    have hconnected : Lull False w (w.connect q.target).1 := .of_same rfl rfl
    exact Collected.lull h (hconnected.trans (lull_note _ rfl))
  refuse e h := accumulated_onUnavailable hreact e (h.lull (lull_note _ rfl))
  exhaust h := accumulated_onUnavailable hreact exhaustedError (h.lull (lull_note _ rfl))
  outOfTime h := accumulated_onUnavailable hreact _ h

end
end World

namespace Session

variable {caller : Caller} {react : Reaction}

theorem collected_withHooks {plot : Plot}
    (hreact : World.Relying caller plot.listeners react) (request : Request)
    (nextConnection : Nat) (h : Hop) :
    World.Collected plot.listeners 0 []
      (withHooks caller react plot (firstConnected request nextConnection h).1) := by
  have hconnected : World.Collected plot.listeners 0 []
      (firstConnected request nextConnection h).1 := by
    refine ⟨?_, rfl, rfl, rfl⟩
    unfold World.CookiesTold
    cases plot.listeners.cookie <;> rfl
  exact hconnected.lull ((World.lull_drift False plot.listeners).withHooks
    (hreact.lull False) plot _ hconnected.told)

/-- Cookies accumulate over the hops of a call, in the order of the responses and of their
headers.  The last response contributes all of them unless a listener breaks down; then it
contributes none if that is the headers listener, and those up to the one that was told if
it is the cookie listener.  Whenever user code runs, the cookie listener was called with the
recorded cookies.  How a call ends depends on the policy, on the pool and on listeners that
break down, and on no cookie. -/
theorem cookies_accumulate {plot : Plot}
    (hreact : World.Relying caller plot.listeners react) {hops : List Hop}
    (hhops : forall h, h ∈ hops -> KeepsOut h.acquireActions ∧ KeepsOut h.actions)
    {clockStart nextConnection : Nat} {request : Request} {w : World}
    {course : List (World × Stage)}
    (hlaunch : launch caller react clockStart nextConnection plot request hops =
      .underway w course) :
    World.Collected plot.listeners 0 [] w ∧ forall p, p ∈ course ->
      p.1.CookiesTold plot.listeners ∧
        World.Accumulated caller react plot.listeners hops p.1 p.2 := by
  rcases launch_eq_underway hlaunch with ⟨h, rest, rfl, rfl, rfl⟩
  have hready := collected_withHooks hreact request nextConnection h
  have hlost : World.Accumulated caller react plot.listeners (h :: rest)
      (withHooks caller react plot (firstConnected request nextConnection h).1)
      (.lost deadlineFault) :=
    Or.inl ⟨0, hready⟩
  refine ⟨hready, ?_⟩
  intro p hp
  have haccumulated : World.Accumulated caller react plot.listeners (h :: rest) p.1 p.2 := by
    rcases Route.standing_course (World.accumulated_route hreact (h :: rest)) hhops hready
      (fun _ => hlost) p hp with
      hinv | ⟨c, hop, q, hstage, hcollected⟩ | ⟨hop, q, hstage, hcollected⟩
    · exact hinv
    · rw [hstage]
      exact hcollected
    · rw [hstage]
      exact hcollected
  exact ⟨haccumulated.told, haccumulated⟩

def choosyCaller : Caller where
  policy := .always (plainUrl "b.test") none
  triggers := [⟨.cookie, 3, [.breakDown .other]⟩]
  transform _ := .ok .null

def cookieHop (delay : Nat) (first second : String) : Hop :=
  { plainHop delay with
    reply := some (.response .ok .http11
      (((Headers.empty.append .setCookie (.ofPlain first)).append .setCookie
        (.ofPlain "none")).append .setCookie (.ofPlain second)) [] none) }

theorem cookies_accumulate_when_listener_breaks_down :
    exists w course v,
      launch choosyCaller choosyCaller.reaction 0 1 plainPlot (plainRequest none)
        [cookieHop 5 "a=1" "b=2", cookieHop 7 "c=3" "d=4"] = .underway w course ∧
      (v, Stage.over) ∈ course ∧ v.call.cookies.map Cookie.name = ["a", "b", "c"] ∧
      v.CookiesTold .all ∧
      World.Accumulated choosyCaller choosyCaller.reaction .all
        [cookieHop 5 "a=1" "b=2", cookieHop 7 "c=3" "d=4"] v .over := by
  have hwithin : choosyCaller.Within False := by decide
  have hkeeps : forall h, h ∈ [cookieHop 5 "a=1" "b=2", cookieHop 7 "c=3" "d=4"] ->
      KeepsOut h.acquireActions ∧ KeepsOut h.actions := by decide
  have hlaunch : launch choosyCaller choosyCaller.reaction 0 1 plainPlot (plainRequest none)
      [cookieHop 5 "a=1" "b=2", cookieHop 7 "c=3" "d=4"] = .underway _ _ :=
    launch_of_connection rfl
  have hlast : (course choosyCaller choosyCaller.reaction plainPlot 0
      (cookieHop 5 "a=1" "b=2") [cookieHop 7 "c=3" "d=4"]
      (firstConnected (plainRequest none) 1 (cookieHop 5 "a=1" "b=2")).2 (plainRequest none)
      (withHooks choosyCaller choosyCaller.reaction plainPlot
        (firstConnected (plainRequest none) 1 (cookieHop 5 "a=1" "b=2")).1)).getLast?.map
      (fun p => (p.2, p.1.call.cookies.map Cookie.name)) =
        some (.over, ["a", "b", "c"]) := by
    decide +kernel
  rcases Option.map_eq_some_iff.mp hlast with ⟨⟨v, stage⟩, hp, heq⟩
  cases congrArg Prod.fst heq
  have hmem := List.mem_of_getLast? hp
  rcases (cookies_accumulate ((Caller.reaction_conduct hwithin).relying .all) hkeeps
    hlaunch).right _ hmem with ⟨htold, haccumulated⟩
  exact ⟨_, _, v, hlaunch, hmem, congrArg Prod.snd heq, htold, haccumulated⟩

end Session
end HttpCall
