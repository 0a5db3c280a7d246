import HttpCall.Proofs.Deadline.Expiry
import HttpCall.Proofs.Deadline.Representable
import HttpCall.Proofs.Deadline.Timing
import HttpCall.Proofs.Deadline.Unreached

/-!
# One deadline for all hops

The deadline is computed once, from the time at which a call has its first connection, and
limits all its waits alike.  When it ends one of them, the call goes on as if whatever it
waits for had answered then that the time is up.
-/

namespace HttpCall

theorem World.timeoutError_eq {q : Request} {limit : Duration}
    (hlimit : q.timeout = some limit) : timeoutError q = .timeout limit := by
  unfold timeoutError
  rw [hlimit]
  rfl

def Stage.Limited (limit : Option Duration) : Stage -> Prop
  | .exchanging _ _ q | .acquiring _ q => q.timeout = limit
  | _ => True

theorem Wait.of_remaining {now d : Nat} (h : now <= d) :
    Wait.of (some d) now (d - now) = .ended d := by
  have hended := Nat.add_sub_of_le h
  have hwait : Wait.of (some d) now (d - now) = .ended (now + (d - now)) := by
    apply Wait.of_inTime
    intro d' hd'
    cases hd'
    exact Nat.le_of_eq hended
  rw [hwait, hended]

def Retelling.unrefused : Retelling where
  request q := q
  refusals := false
  url _ := rfl
  target _ := rfl
  followRedirects _ := rfl
  maxRedirects _ := rfl
  redirected _ _ _ := rfl

/-!
## Spells that are answered at the deadline
-/

namespace Spell

variable {α : Type}

def actsUntil (d : Nat) : Nat -> List (Nat × List Action) -> List (Nat × List Action)
  | now, [] => [(d - now, [])]
  | now, (delay, actions) :: rest =>
      match Wait.of (some d) now delay with
      | .ended time => (delay, actions) :: actsUntil d time rest
      | .expired _ => [(d - now, [])]

def answeredAt (d start : Nat) (a : α) (s : Spell α) : Spell α :=
  ⟨actsUntil d start s.acts, some a⟩

end Spell

namespace Conditions

section

variable {k : Conditions} {d : Nat} {α : Type} {stage : Stage} {w v : World}
  {past : List (World × Stage)}

theorem attend_remaining (hdeadline : k.deadline = some d) (hw : w.now <= d) (a : α) :
    k.attend stage (some a) [(d - w.now, [])] w =
      ([(w, stage)], { w with now := d }, .answered a) := by
  have hwait : Wait.of k.deadline w.now (d - w.now) = .ended d := by
    rw [hdeadline]
    exact Wait.of_remaining hw
  rw [attend_of_acted hwait rfl]
  rfl

/-- A wait that the deadline ends is as one that is answered then. -/
theorem attend_answeredAt (hconduct : World.Conduct k.caller True k.reaction)
    (hdeadline : k.deadline = some d) {answer : Option α} {acts : List (Nat × List Action)}
    (hw : w.now <= d) (hattend : k.attend stage answer acts w = (past, v, .expired)) (a : α) :
    k.attend stage (some a) (Spell.actsUntil d w.now acts) w = (past, v, .answered a) ∧
      v.now = d := by
  induction acts generalizing w past with
  | nil =>
      cases answer with
      | some b =>
          cases hattend
      | none =>
          rw [attend_nil_of_deadline hdeadline] at hattend
          cases hattend
          rw [Nat.max_eq_right hw]
          exact ⟨attend_remaining hdeadline hw a, rfl⟩
  | cons act rest ih =>
      rcases act with ⟨delay, actions⟩
      unfold Spell.actsUntil
      rw [← hdeadline]
      cases hwait : Wait.of k.deadline w.now delay with
      | expired time =>
          rw [attend_of_expired hwait] at hattend
          cases hattend
          rcases Wait.of_eq_expired hwait with ⟨d', hd', rfl⟩
          cases hdeadline.symm.trans hd'
          rw [Nat.max_eq_right hw]
          exact ⟨attend_remaining hdeadline hw a, rfl⟩
      | ended time =>
          dsimp only
          have htime : time <= d := by
            have hle := (Wait.of_eq_ended hwait).right d hdeadline
            rwa [Nat.max_eq_right hw] at hle
          have hacted := World.atOnce_act hconduct actions (fun _ _ _ => trivial)
            { w with now := time }
          rcases hact : { w with now := time }.act k.caller k.reaction actions with
            ⟨x, _ | fault⟩ <;> rw [hact] at hacted
          · have hx : x.now = time := hacted.now
            rw [attend_of_acted hwait hact] at hattend ⊢
            rcases hrest : k.attend stage answer rest x with ⟨more, y, last⟩
            rw [hrest] at hattend
            cases hattend
            have hanswered := ih (hx ▸ htime) hrest
            rw [hx] at hanswered
            rw [hanswered.left]
            exact ⟨rfl, hanswered.right⟩
          · rw [attend_of_brokeDown hwait hact] at hattend
            cases hattend

end

/-!
## Runs that are answered at the deadline
-/

section

variable {k : Conditions} {d hop : Nat} {c : Connection} {q : Request} {w x : World}
  {past : List (World × Stage)}

theorem exchangeIn_answeredAt (hconduct : World.Conduct k.caller True k.reaction)
    (hdeadline : k.deadline = some d) {s : Spell Reply} (hw : w.now <= d)
    (hattend : k.attend (.exchanging c hop q) s.answer s.acts (w.send q) =
      (past, x, .expired)) (error : TransportError) :
    k.exchangeIn (s.answeredAt d w.now (.error error)) c hop q w =
        (past, x.onEvent k.caller k.reaction k.listeners c hop q (.error error)) ∧
      x.now = d := by
  have hsent : (w.send q).now <= d := hw
  rcases attend_answeredAt hconduct hdeadline hsent hattend (Reply.error error) with
    ⟨hanswered, hnow⟩
  refine ⟨?_, hnow⟩
  unfold exchangeIn Spell.answeredAt
  exact congrArg (fun p => (p.1, k.afterExchange c hop q p.2.1 p.2.2)) hanswered

theorem acquireIn_answeredAt (hconduct : World.Conduct k.caller True k.reaction)
    (hdeadline : k.deadline = some d) {s : Spell (Except TransportError Unit)}
    (hw : w.now <= d)
    (hattend : k.attend (.acquiring hop q) s.answer s.acts { w with asked := w.asked + 1 } =
      (past, x, .expired)) (error : TransportError) :
    k.acquireIn (s.answeredAt d w.now (.error error)) hop q w =
        (past, (x.note (.refused q.target (some error))).onUnavailable k.caller k.reaction
          k.listeners error) ∧
      x.now = d := by
  have hasked : { w with asked := w.asked + 1 }.now <= d := hw
  rcases attend_answeredAt hconduct hdeadline hasked hattend (Except.error error) with
    ⟨hanswered, hnow⟩
  refine ⟨?_, hnow⟩
  unfold acquireIn Spell.answeredAt
  exact congrArg (fun p => (p.1, k.afterAcquisition hop q p.2.1 p.2.2)) hanswered

theorem timeout_of_afterExchange {e : Spell.End Reply} {n : Nat} {r : Request}
    (h : (k.afterExchange c hop q x e).2 = .acquiring n r) : r.timeout = q.timeout := by
  cases e with
  | answered reply =>
      rcases World.stage_onEvent k.caller k.reaction k.listeners c hop q (reply.toEvent q) x with
        hends | ⟨location, status, hstage⟩
      · exact absurd h (ne_acquiring hends n r)
      · cases hstage.symm.trans h
        exact q.timeout_redirected location status
  | expired =>
      exact absurd h (ne_acquiring (World.stage_onExchangeExpired ..) n r)
  | brokeDown fault =>
      cases h
  | endless =>
      cases h

theorem request_of_afterAcquisition {e : Spell.End (Except TransportError Unit)} {n : Nat}
    {r : Request} (h : (k.afterAcquisition hop q x e).2 = .exchanging c n r) : r = q := by
  rcases e with (cause | _) | _ | fault | _
  · cases h
  · cases h
    rfl
  · cases h
  · cases h
  · cases h

end
end Conditions

namespace Expiry

/-- The stretch of the wait, with an answer at the deadline. -/
def answering (e : Expiry) (d : Nat) (error : TransportError) (s : Stretch) : Stretch :=
  match e.stage with
  | .exchanging _ _ _ => { s with exchange := s.exchange.answeredAt d e.since (.error error) }
  | _ => { s with acquisition := s.acquisition.answeredAt d e.since (.error error) }

end Expiry

namespace Conditions

def afterAnswer (k : Conditions) (e : Expiry) (error : TransportError) : World × Stage :=
  match e.stage with
  | .exchanging c hop q =>
      e.world.onEvent k.caller k.reaction k.listeners c hop q (.error error)
  | .acquiring _ q =>
      (e.world.note (.refused q.target (some error))).onUnavailable k.caller k.reaction
        k.listeners error
  | stage => (e.world, stage)

section

variable {k : Conditions} {script : List Stretch} {c : Connection} {hop : Nat} {q : Request}
  {w : World} {e : Expiry} {d : Nat}

theorem Expires.answering_acquisition {s : Stretch} {rest : List Stretch}
    (h : k.Expires (s :: rest) c hop q w e) (d : Nat) (error : TransportError) :
    exists s' rest', (s :: rest).modify e.place (e.answering d error) = s' :: rest' ∧
      s'.acquisition = s.acquisition := by
  cases h with
  | exchange _ =>
      exact ⟨_, _, rfl, rfl⟩
  | acquisition _ _ =>
      exact ⟨_, _, rfl, rfl⟩
  | later _ _ _ =>
      exact ⟨_, _, rfl, rfl⟩

theorem Expires.runIn_answering (hconduct : World.Conduct k.caller True k.reaction)
    (hdeadline : k.deadline = some d) (h : k.Expires script c hop q w e)
    (hw : w.By d) (error : TransportError) :
    k.runIn (script.modify e.place (e.answering d error)) c hop q w =
        e.past ++ [k.afterAnswer e error] ∧ e.world.now = d := by
  have hclocked := Clocked.by_deadline hdeadline
  -- On the expiry: what comes before it is on the clock, so its wait begins by the deadline.
  induction h with
  | exchange hattend =>
      have hanswered := exchangeIn_answeredAt hconduct hdeadline hw.left hattend error
      refine ⟨?_, hanswered.right⟩
      apply runIn_of_end hanswered.left
      exact ne_acquiring (World.stage_onEvent_error ..)
  | @acquisition s next rest c hop n q r w x v past past' hexchange hattend =>
      have hx := hclocked.kept_exchangeIn hconduct s.exchange c hop q hw
      rw [hexchange] at hx
      have hanswered := acquireIn_answeredAt hconduct hdeadline hx.right.left hattend error
      refine ⟨?_, hanswered.right⟩
      apply (runIn_of_unacquired hexchange hanswered.left
        (fun _ _ _ => Stage.noConfusion)).trans
      exact (List.append_assoc _ (_ :: _) _).symm
  | @later s next rest c c' hop n m q r r' w x y past past' e hexchange hacquire hrest ih =>
      have hx := hclocked.kept_exchangeIn hconduct s.exchange c hop q hw
      rw [hexchange] at hx
      have hy := hclocked.kept_acquireIn hconduct next.acquisition n r hx.right
      rw [hacquire] at hy
      have hanswered := ih hy.right
      refine ⟨?_, hanswered.right⟩
      -- the connection for the rest of the script is acquired as before
      rcases hrest.answering_acquisition d error with ⟨next', rest', hscript, hacquisition⟩
      have hmodified : (s :: next :: rest).modify (e.place + 1) (e.answering d error) =
          s :: next' :: rest' := by
        rw [List.modify_succ_cons, hscript]
      rw [← hacquisition] at hacquire
      rw [hscript] at hanswered
      apply (congrArg (fun script => k.runIn script c hop q w) hmodified).trans
      dsimp only
      rw [runIn_of_acquired hexchange hacquire, hanswered.left]
      simp only [List.append_assoc, List.cons_append]
      rfl

theorem Expires.limited {limit : Option Duration} (h : k.Expires script c hop q w e)
    (hlimit : q.timeout = limit) : e.stage.Limited limit := by
  induction h with
  | exchange _ =>
      exact hlimit
  | acquisition hexchange _ =>
      exact (timeout_of_afterExchange (congrArg (fun p => p.2.2) hexchange)).trans hlimit
  | later hexchange hacquire _ ih =>
      apply ih
      cases request_of_afterAcquisition (congrArg (fun p => p.2.2) hacquire)
      exact (timeout_of_afterExchange (congrArg (fun p => p.2.2) hexchange)).trans hlimit

theorem afterAnswer_of_exchanging {limit : Duration} {n : Nat} {r : Request}
    (hstage : e.stage = .exchanging c n r) (hlimit : r.timeout = some limit)
    (hpending : e.world.call.isDone = false) :
    k.afterAnswer e (.timeout limit) = k.afterExpiry e := by
  have herror := World.timeoutError_eq hlimit
  unfold afterAnswer afterExpiry World.onExchangeExpired
  rw [hstage]
  dsimp only
  rw [hpending, herror]
  rfl

theorem afterAnswer_of_acquiring {limit : Duration} {n : Nat} {r : Request}
    (hstage : e.stage = .acquiring n r) (hlimit : r.timeout = some limit)
    (hreact : Retelling.unrefused.Unnoticed k.reaction) :
    Retelling.unrefused.block (k.afterAnswer e (.timeout limit)) =
      Retelling.unrefused.block (k.afterExpiry e) := by
  have herror := World.timeoutError_eq hlimit
  unfold afterAnswer afterExpiry
  rw [hstage]
  dsimp only
  rw [herror, ← World.onUnavailable_retold hreact, ← World.onUnavailable_retold hreact,
    World.retold_note_of_untold _ rfl]

/-- The run is the one in which whatever was waited for answers at the deadline that the
time is up.  If that is the pool, its own note of the answer is all that differs, as long as
user code takes no notice of it, which it cannot with the handle of a call. -/
def AsAnswered (k : Conditions) (script : List Stretch) (c : Connection) (hop : Nat)
    (q : Request) (w : World) (d : Nat) (limit : Duration) (e : Expiry) : Prop :=
  let answered := k.runIn (script.modify e.place (e.answering d (.timeout limit))) c hop q w
  match e.stage with
  | .exchanging _ _ _ => answered = k.runIn script c hop q w
  | _ =>
      Retelling.unrefused.Unnoticed k.reaction ->
        answered.map Retelling.unrefused.block =
          (k.runIn script c hop q w).map Retelling.unrefused.block

theorem Expires.asAnswered {limit : Duration}
    (hconduct : World.Conduct k.caller True k.reaction) (hdeadline : k.deadline = some d)
    (h : k.Expires script c hop q w e) (hw : w.By d) (hlimit : q.timeout = some limit)
    (hpending : e.world.call.isDone = false) :
    e.world.now = d ∧ k.AsAnswered script c hop q w d limit e := by
  have hanswered := h.runIn_answering hconduct hdeadline hw (.timeout limit)
  have hlimited := h.limited hlimit
  refine ⟨hanswered.right, ?_⟩
  unfold AsAnswered
  rw [hanswered.left, h.runIn_eq]
  rcases h.waited with ⟨c, n, r, hstage⟩ | ⟨n, r, hstage⟩
  · rw [hstage] at hlimited
    simp only [hstage]
    rw [afterAnswer_of_exchanging hstage hlimited hpending]
  · rw [hstage] at hlimited
    simp only [hstage]
    intro hreact
    rw [List.map_append, List.map_append, List.map_singleton, List.map_singleton,
      afterAnswer_of_acquiring hstage hlimited hreact]

end
end Conditions

namespace Session

section

variable {caller : Caller} {react : Reaction} {clockStart nextConnection : Nat} {plot : Plot}
  {request : Request} {hops : List Hop} {limit : Duration} {w : World}
  {course : List (World × Stage)}

theorem atOnce_withHooks (hconduct : World.Conduct caller True react) (plot : Plot)
    (w : World) : World.AtOnce w (withHooks caller react plot w) :=
  World.atOnce_drift.withHooks hconduct.atOnce plot w

theorem by_deadline_withHooks (hconduct : World.Conduct caller True react) (plot : Plot)
    (request : Request) (nextConnection : Nat) (h : Hop) {d : Nat}
    (hd : (withHooks caller react plot
      (firstConnected request nextConnection h).1).now <= d) :
    (withHooks caller react plot (firstConnected request nextConnection h).1).By d := by
  have hstill := atOnce_withHooks hconduct plot (firstConnected request nextConnection h).1
  have hconnected : (firstConnected request nextConnection h).1.By d := by
    rw [hstill.now] at hd
    refine ⟨hd, ?_⟩
    intro s hs
    cases List.mem_singleton.mp hs
    exact hd
  exact (Clocked.by_deadline (d := d) rfl).still hstill hconnected

/-- The deadline of a call is the first tick at which its time, counted from its first
connection, is up.  Nothing happens after it.  If the policy, the pool and the connections
return from what they are asked, the call has ended by then.  And whatever wait it ends while
the call is pending, on whichever hop, might as well have been answered then. -/
theorem one_deadline_for_all_hops (hconduct : World.Conduct caller True react)
    (htimeout : request.timeout = some limit)
    (hlaunch : launch caller react clockStart nextConnection plot request hops =
      .underway w course)
    (hclock : Clock.after? (clockStart + w.now * 1000000) limit ≠ none) :
    exists d, (forall tick, w.now * 1000000 + limit.nanos <= tick * 1000000 <-> d <= tick) ∧
      (forall p, p ∈ course -> p.1.By d) ∧
      (caller.policy.Returns -> (forall v, (react .release v).2 = none) ->
        (forall h, h ∈ hops -> Orderly True h.acquireActions ∧ Orderly True h.actions) ->
        exists v, course.getLast? = some (v, .over) ∧ v.call.isDone = true) ∧
      exists (k : Conditions) (c : Connection),
        k = ⟨caller, react, plot.listeners, some d⟩ ∧
        course = (w, .exchanging c 0 request) ::
          k.runIn (hops.map Hop.stretch) c 0 request w ∧
        forall e, k.Expires (hops.map Hop.stretch) c 0 request w e ->
          e.world.call.isDone = false ->
          e.world.now = d ∧
            k.AsAnswered (hops.map Hop.stretch) c 0 request w d limit e := by
  have hdeadline := deadline?_of_clock htimeout hclock
  have hends : caller.policy.Returns -> (forall v, (react .release v).2 = none) ->
      (forall h, h ∈ hops -> Orderly True h.acquireActions ∧ Orderly True h.actions) ->
      exists v, course.getLast? = some (v, .over) ∧ v.call.isDone = true := by
    intro hpolicy hrelease hhops
    rcases course_ends hconduct hpolicy hrelease hhops hlaunch hdeadline
      (Or.inl (Option.some_ne_none _)) with ⟨v, hlast⟩
    exact ⟨v, hlast, isDone_of_over hconduct hhops hlaunch (List.mem_of_getLast? hlast)⟩
  rcases launch_eq_underway hlaunch with ⟨h, rest, rfl, hw, hcourse⟩
  have hby : w.By (w.now + limit.ceilMillis) := by
    rw [hw]
    exact by_deadline_withHooks hconduct plot request nextConnection h (Nat.le_add_right _ _)
  rw [course_of_deadline hdeadline, ← Conditions.runIn_stretches] at hcourse
  refine ⟨w.now + limit.ceilMillis, ?_, ?_, hends, _, _, rfl, hcourse, ?_⟩
  · intro tick
    unfold Duration.ceilMillis
    omega
  · intro p hp
    rw [hcourse] at hp
    rcases List.mem_cons.mp hp with rfl | hp
    · exact hby
    · exact (Clocked.by_deadline rfl).kept_runIn hconduct _ hby p hp
  · intro e hexpires hpending
    exact hexpires.asAnswered hconduct rfl hby htimeout hpending

end

/-!
### A call whose time is up while it waits for its second connection
-/

section

open Conditions (limitedRequest slowHop)

def slowScript : List Stretch := [plainHop 5, slowHop].map Hop.stretch

def slowConditions : Conditions :=
  ⟨strollingCaller, strollingCaller.reaction, plainPlot.listeners, some 1000⟩

def slowStart : World :=
  withHooks strollingCaller strollingCaller.reaction plainPlot
    (firstConnected limitedRequest 1 (plainHop 5)).1

theorem slowScript_expires :
    exists e r, slowConditions.Expires slowScript
        (firstConnected limitedRequest 1 (plainHop 5)).2 0 limitedRequest slowStart e ∧
      e.stage = .acquiring 0 r ∧ e.world.call.isDone = false := by
  let c := (firstConnected limitedRequest 1 (plainHop 5)).2
  let p := slowConditions.exchangeIn (plainHop 5).stretch.exchange c 0 limitedRequest slowStart
  have hstage : p.2.2 = .acquiring 0 (limitedRequest.redirected (plainUrl "b.test") .ok) := by
    decide +kernel
  have hwait : Wait.of slowConditions.deadline p.2.1.now 5000 = .expired 1000 := by
    decide +kernel
  have hexpires := Conditions.Expires.of_idle_acquisition slowHop.stretch [] hstage rfl hwait
  refine ⟨_, _, hexpires, rfl, ?_⟩
  decide +kernel

theorem one_deadline_for_all_hops_on_second_hop :
    exists (course : List (World × Stage)) (c : Connection) (e : Expiry),
      launch strollingCaller strollingCaller.reaction 0 1 plainPlot limitedRequest
          [plainHop 5, slowHop] = .underway slowStart course ∧
        course = (slowStart, .exchanging c 0 limitedRequest) ::
          slowConditions.runIn slowScript c 0 limitedRequest slowStart ∧
        (exists v, course.getLast? = some (v, .over) ∧ v.call.isDone = true) ∧
        e.world.now = 1000 ∧
        (slowConditions.runIn (slowScript.modify e.place
            (e.answering 1000 (.timeout (.ofSeconds 1 0)))) c 0 limitedRequest slowStart).map
            Retelling.unrefused.block =
          (slowConditions.runIn slowScript c 0 limitedRequest slowStart).map
            Retelling.unrefused.block := by
  have hwithin : strollingCaller.Within True := Caller.within_true strollingCaller
  have hpolicy : strollingCaller.policy.Returns := fun _ _ _ => ⟨_, rfl⟩
  have hspares : strollingCaller.Spares .release := by decide
  have hhops : forall h, h ∈ [plainHop 5, slowHop] ->
      Orderly True h.acquireActions ∧ Orderly True h.actions := by decide
  have hunnoticed : Retelling.unrefused.Unnoticed strollingCaller.reaction :=
    Caller.reaction_unnoticed (fun _ _ _ => rfl)
  have hlaunch : launch strollingCaller strollingCaller.reaction 0 1 plainPlot limitedRequest
      [plainHop 5, slowHop] = .underway slowStart _ :=
    launch_of_connection rfl
  have hdeadline : deadline? 0 limitedRequest slowStart = some (some 1000) := by
    decide +kernel
  rcases one_deadline_for_all_hops (Caller.reaction_conduct hwithin) rfl hlaunch
    (by decide +kernel) with ⟨d, htick, _, hends, k, c, rfl, hcourse, hexpiries⟩
  have hended := hends hpolicy (Caller.release_returns hpolicy hspares) hhops
  have hd : d = 1000 := by
    have hstart : slowStart.now = 0 := by
      decide +kernel
    have hlower := (htick d).mpr (Nat.le_refl d)
    have hupper := (htick 1000).mp (by decide +kernel)
    rw [hstart] at hlower
    have hnanos : (Duration.ofSeconds 1 0).nanos = 1000000000 := rfl
    omega
  subst hd
  have hc : (slowStart, Stage.exchanging (firstConnected limitedRequest 1 (plainHop 5)).2 0
      limitedRequest) = (slowStart, .exchanging c 0 limitedRequest) :=
    (List.cons.inj ((course_of_deadline hdeadline).symm.trans hcourse)).left
  cases hc
  rcases slowScript_expires with ⟨e, r, hexpires, hstage, hpending⟩
  rcases hexpiries e hexpires hpending with ⟨hnow, hanswered⟩
  unfold Conditions.AsAnswered at hanswered
  rw [hstage] at hanswered
  exact ⟨_, _, e, hlaunch, hcourse, hended, hnow, hanswered hunnoticed⟩

end
end Session
end HttpCall
