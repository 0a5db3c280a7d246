import HttpCall.Proofs.Connection.Conservation
import HttpCall.Proofs.Handling.Finish
import HttpCall.Proofs.Trace.Telling

/-!
# The order of a whole call

The trace of a call, over all its hops, belongs to a small language: hops that were
followed come first, one after the other, and then one of a few ends.  A world that waits
has a beginning of such a trace.
-/

namespace HttpCall

/-- Hops that were followed: a connection is acquired, the request is sent on it,
listeners are told of the response, and the connection is given back. -/
inductive Passed (listeners : Listeners) : Nat -> List Entry -> Prop where
  | start : Passed listeners 0 []
  | hop {n : Nat} {earlier : List Entry} (c : Connection) (q : Request) (r : Response) :
      Passed listeners n earlier -> c.target = q.target ->
      Passed listeners (n + 1)
        (earlier ++ .acquired c :: .sent q :: (listeners.told r ++ [.released c]))

inductive Unavailable : List Entry -> TransportError -> Prop where
  | refused (target : Target) (cause : Option TransportError) :
      Unavailable [.refused target cause] (cause.getD exhaustedError)
  | outOfTime (request : Request) : Unavailable [] (World.timeoutError request)

/-- The trace of a call that has ended with the outcome: its end comes on a hop, or after
one that was followed. -/
inductive Complete (listeners : Listeners) (o : Outcome) : List Entry -> Prop where
  | onHop {n : Nat} {earlier words calls : List Entry} (c : Connection) (q : Request) :
      Passed listeners n earlier -> c.target = q.target -> LastWords listeners words o ->
      (forall e, e ∈ calls -> e.IsCall o) ->
      Complete listeners o (earlier ++ .acquired c :: .sent q ::
        (words ++ .settled (some c) :: .released c :: .published :: calls))
  | betweenHops {n : Nat} {earlier refused calls : List Entry} (e : TransportError) :
      Passed listeners (n + 1) earlier -> Unavailable refused e ->
      o = .error (.transport e.message) -> (forall e, e ∈ calls -> e.IsCall o) ->
      Complete listeners o
        (earlier ++ refused ++ (listeners.raised e ++ .settled none :: .published :: calls))

/-- The trace of a call that has not ended. -/
inductive Unfinished (listeners : Listeners) : List Entry -> Prop where
  | unsent {n : Nat} {earlier : List Entry} (c : Connection) :
      Passed listeners n earlier -> Unfinished listeners (earlier ++ [.acquired c])
  | unanswered {n : Nat} {earlier : List Entry} (c : Connection) (q : Request) :
      Passed listeners n earlier -> c.target = q.target ->
      Unfinished listeners (earlier ++ [.acquired c, .sent q])
  | betweenHops {n : Nat} {earlier : List Entry} :
      Passed listeners (n + 1) earlier -> Unfinished listeners earlier

def KeepsOut (actions : List Action) : Prop := forall a, a ∈ actions -> a.isMeddling = false

instance (actions : List Action) : Decidable (KeepsOut actions) :=
  inferInstanceAs (Decidable (forall a, a ∈ actions -> _))

namespace World

/-- The trace of a world in the course of a call, by what is waited for. -/
def Ordered (listeners : Listeners) (w : World) : Stage -> Prop
  | .exchanging c hop q => w.call.visible = none ∧ c.target = q.target ∧
      exists earlier, Passed listeners hop earlier ∧
        (w.trace = earlier ++ [.acquired c] ∨ w.trace = earlier ++ [.acquired c, .sent q])
  | .acquiring hop _ => w.call.visible = none ∧ Passed listeners (hop + 1) w.trace
  | .over => exists o, w.call.visible = some o ∧ Complete listeners o w.trace
  | .lost _ => w.call.visible = none ∧ Unfinished listeners w.trace ∨
      exists o, w.call.visible = some o ∧ Complete listeners o w.trace

/-!
## The trace in the course of a call
-/

def AboutToSend (u : World) (listeners : Listeners) (c : Connection) (hop : Nat)
    (q : Request) (w : World) : Prop :=
  Live w ∧ c.target = q.target ∧
    exists earlier, Passed listeners hop earlier ∧ Adds u w (earlier ++ [.acquired c])

def Along (u : World) (listeners : Listeners) (w : World) : Stage -> Prop
  | .exchanging c hop q => Live w ∧ c.target = q.target ∧
      exists earlier, Passed listeners hop earlier ∧
        Adds u w (earlier ++ [.acquired c, .sent q])
  | .acquiring hop _ => Live w ∧
      exists earlier, Passed listeners (hop + 1) earlier ∧ Adds u w earlier
  | .over => exists o t, w.call.visible = some o ∧ Complete listeners o t ∧ Adds u w t
  | .lost _ => (Live w ∧ exists t, Unfinished listeners t ∧ Adds u w t) ∨
      exists o t, w.call.visible = some o ∧ Complete listeners o t ∧ Adds u w t

section Along

variable {u v w : World} {listeners : Listeners} {stage : Stage} {c : Connection} {hop : Nat}
  {q : Request}

theorem Along.live (h : Along u listeners w stage) (hwaits : stage.waits = true) : Live w := by
  cases stage with
  | exchanging c hop q => exact h.left
  | acquiring hop q => exact h.left
  | «over» => cases hwaits
  | lost fault => cases hwaits

theorem Along.of_same (h : Along u listeners v stage) (hlive : Live v -> Live w)
    (hvisible : w.call.visible = v.call.visible) (hsame : Adds v w []) :
    Along u listeners w stage := by
  cases stage with
  | exchanging c hop q =>
      rcases h with ⟨hv, htarget, earlier, hpassed, hadds⟩
      exact ⟨hlive hv, htarget, earlier, hpassed, hadds.keep hsame⟩
  | acquiring hop q =>
      rcases h with ⟨hv, earlier, hpassed, hadds⟩
      exact ⟨hlive hv, earlier, hpassed, hadds.keep hsame⟩
  | «over» =>
      rcases h with ⟨o, t, ho, hcomplete, hadds⟩
      exact ⟨o, t, hvisible.trans ho, hcomplete, hadds.keep hsame⟩
  | lost fault =>
      rcases h with ⟨hv, t, hunfinished, hadds⟩ | ⟨o, t, ho, hcomplete, hadds⟩
      · exact Or.inl ⟨hlive hv, t, hunfinished, hadds.keep hsame⟩
      · exact Or.inr ⟨o, t, hvisible.trans ho, hcomplete, hadds.keep hsame⟩

theorem Along.orLost (h : Along u listeners w stage) (hwaits : stage.waits = true)
    (fault? : Option Fault) : Along u listeners w (stage.orLost fault?) := by
  cases fault? with
  | none =>
      exact h
  | some fault =>
      left
      cases stage with
      | exchanging c hop q =>
          rcases h with ⟨hw, htarget, earlier, hpassed, hadds⟩
          exact ⟨hw, _, .unanswered c q hpassed htarget, hadds⟩
      | acquiring hop q =>
          rcases h with ⟨hw, earlier, hpassed, hadds⟩
          exact ⟨hw, _, .betweenHops hpassed, hadds⟩
      | «over» => cases hwaits
      | lost fault => cases hwaits

theorem complete_of_ends {earlier : List Entry} (hpassed : Passed listeners hop earlier)
    (htarget : c.target = q.target)
    (hadds : Adds u v (earlier ++ [.acquired c, .sent q])) (hends : Ends listeners c v w) :
    exists o t, w.call.visible = some o ∧ Complete listeners o t ∧ Adds u w t := by
  rcases hends with ⟨words, o, calls, hlast, hcalls, hvisible, hmore⟩
  have hall := hadds.trans hmore
  rw [List.append_assoc] at hall
  exact ⟨o, _, hvisible, .onHop c q hpassed htarget hlast hcalls, hall⟩

theorem passed_of_told {earlier : List Entry} {r : Response}
    (hpassed : Passed listeners hop earlier) (htarget : c.target = q.target)
    (hadds : Adds u v (earlier ++ [.acquired c, .sent q]))
    (hmore : Adds v w (listeners.told r ++ [.released c])) :
    exists t, Passed listeners (hop + 1) t ∧ Adds u w t := by
  have hall := hadds.trans hmore
  rw [List.append_assoc] at hall
  exact ⟨_, .hop c q r hpassed htarget, hall⟩

theorem along_onUnavailable {react : Reaction} (hreact : forall m v, Aside v (react m v).1)
    (caller : Caller) {n : Nat} {earlier refused : List Entry} {e : TransportError}
    (hpassed : Passed listeners (n + 1) earlier) (hrefused : Unavailable refused e)
    (hw : Live w) (hadds : Adds u w (earlier ++ refused)) :
    Along u listeners (w.onUnavailable caller react listeners e).1 .over := by
  rcases onUnavailable_live hreact caller listeners e hw with
    ⟨hvisible, calls, hcalls, hmore⟩
  exact ⟨_, _, hvisible, .betweenHops e hpassed hrefused rfl hcalls, hadds.trans hmore⟩

theorem along_passage (k : Conditions) (hconduct : Conduct k.caller False k.reaction)
    (u : World) :
    Passage k KeepsOut (AboutToSend u k.listeners) (Along u k.listeners) where
  pass _ h :=
    h.of_same (fun hv => ⟨hv.started, hv.isOpen.outcome, hv.isOpen.published⟩) rfl
      (Adds.of_same rfl)
  act {w stage actions} hactions hwaits h := by
    have hlive := h.live hwaits
    have haside : Aside w (w.act k.caller k.reaction actions).1 := by
      apply aside_of_deed
      apply act_deed hconduct
      intro a ha hmeddling
      rw [hactions a ha] at hmeddling
      cases hmeddling
    exact (h.of_same (fun hv => hv.of_aside haside) (visible_of_position haside.position)
      (haside.hidden hlive.visible)).orLost hwaits _
  send {w c hop q} h := by
    rcases h with ⟨hw, htarget, earlier, hpassed, hadds⟩
    have hsent : Live (w.send q) := ⟨hw.started, hw.isOpen.outcome, hw.isOpen.published⟩
    have hmore : Adds w (w.send q) [.sent q] :=
      (Adds.of_same (w := { w with request := q }) rfl).trans (Adds.mark rfl rfl)
    have hall := hadds.trans hmore
    rw [List.append_assoc] at hall
    exact ⟨hsent, htarget, earlier, hpassed, hall⟩
  answer {w c hop q} event h := by
    rcases h with ⟨hw, htarget, earlier, hpassed, hadds⟩
    have hevent := onEvent_live (c := c) hconduct.aside k.caller k.listeners hop q event hw
    rcases hresult : w.onEvent k.caller k.reaction k.listeners c hop q event with
      ⟨v, _ | ⟨n, q'⟩ | _ | fault⟩ <;> rw [hresult] at hevent
    · exact hevent.elim
    · rcases hevent with ⟨rfl, hv, r, hmore⟩
      exact ⟨hv, passed_of_told hpassed htarget hadds hmore⟩
    · exact complete_of_ends hpassed htarget hadds hevent
    · rcases hevent with rfl | hends | ⟨hv, r, hmore⟩
      · exact Or.inl ⟨hw, _, .unanswered c q hpassed htarget, hadds⟩
      · exact Or.inr (complete_of_ends hpassed htarget hadds hends)
      · rcases passed_of_told hpassed htarget hadds hmore with ⟨t, ht, hall⟩
        exact Or.inl ⟨hv, t, .betweenHops ht, hall⟩
  expire {w c hop q} h hdone := by
    have hpending : w.call.isDone = false := by
      simp [Call.isDone, Call.phase, h.left.visible, Phase.isTerminal]
    rw [hpending] at hdone
    cases hdone
  ask h :=
    h.of_same (fun hv => ⟨hv.started, hv.isOpen.outcome, hv.isOpen.published⟩) rfl
      (Adds.of_same rfl)
  grant {w hop q} h := by
    rcases h with ⟨hw, earlier, hpassed, hadds⟩
    have hgranted : Live (w.onGranted hop q).1 :=
      ⟨hw.started, hw.isOpen.outcome, hw.isOpen.published⟩
    have hmore : Adds w (w.onGranted hop q).1 [.acquired (w.connect q.target).2] :=
      (Adds.of_same (w := (w.connect q.target).1) rfl).trans (Adds.mark rfl rfl)
    exact ⟨hgranted, rfl, earlier, hpassed, hadds.trans hmore⟩
  refuse {w hop q} cause h := by
    rcases h with ⟨hw, earlier, hpassed, hadds⟩
    exact along_onUnavailable hconduct.aside k.caller hpassed (.refused q.target cause)
      (hw.note _) (hadds.trans (Adds.mark rfl rfl))
  outOfTime {w hop q} h := by
    rcases h with ⟨hw, earlier, hpassed, hadds⟩
    rw [← List.append_nil earlier] at hadds
    exact along_onUnavailable hconduct.aside k.caller hpassed (.outOfTime q) hw hadds

theorem Along.ordered (h : Along u listeners w stage) (hu : u.journal = []) :
    Ordered listeners w stage ∧ forall s, s ∈ w.journal -> s.Timely := by
  cases stage with
  | exchanging c hop q =>
      rcases h with ⟨hw, htarget, earlier, hpassed, hadds⟩
      rcases hadds.trace_eq hu with ⟨htrace, htimely⟩
      exact ⟨⟨hw.visible, htarget, earlier, hpassed, Or.inr htrace⟩, htimely⟩
  | acquiring hop q =>
      rcases h with ⟨hw, earlier, hpassed, hadds⟩
      rcases hadds.trace_eq hu with ⟨rfl, htimely⟩
      exact ⟨⟨hw.visible, hpassed⟩, htimely⟩
  | «over» =>
      rcases h with ⟨o, t, ho, hcomplete, hadds⟩
      rcases hadds.trace_eq hu with ⟨rfl, htimely⟩
      exact ⟨⟨o, ho, hcomplete⟩, htimely⟩
  | lost fault =>
      rcases h with ⟨hw, t, hunfinished, hadds⟩ | ⟨o, t, ho, hcomplete, hadds⟩
      · rcases hadds.trace_eq hu with ⟨rfl, htimely⟩
        exact ⟨Or.inl ⟨hw.visible, hunfinished⟩, htimely⟩
      · rcases hadds.trace_eq hu with ⟨rfl, htimely⟩
        exact ⟨Or.inr ⟨o, ho, hcomplete⟩, htimely⟩

theorem AboutToSend.ordered (h : AboutToSend u listeners c hop q w) (hu : u.journal = []) :
    Ordered listeners w (.exchanging c hop q) ∧ forall s, s ∈ w.journal -> s.Timely := by
  rcases h with ⟨hw, htarget, earlier, hpassed, hadds⟩
  rcases hadds.trace_eq hu with ⟨htrace, htimely⟩
  exact ⟨⟨hw.visible, htarget, earlier, hpassed, Or.inl htrace⟩, htimely⟩

end Along
end World

namespace Session

variable {caller : Caller} {react : Reaction}

theorem aboutToSend_withHooks (hconduct : World.Conduct caller False react) (plot : Plot)
    (request : Request) (nextConnection : Nat) (h : Hop) :
    World.AboutToSend (firstAnswer request nextConnection h) plot.listeners
      (firstConnected request nextConnection h).2 0 request
      (withHooks caller react plot (firstConnected request nextConnection h).1) := by
  have hacquired : World.Adds (firstAnswer request nextConnection h)
      (firstConnected request nextConnection h).1
      [.acquired (firstConnected request nextConnection h).2] :=
    ((World.Adds.of_same
      (w := ((firstAnswer request nextConnection h).connect request.target).1) rfl).trans
        (World.Adds.mark rfl rfl)).keep (World.Adds.of_same rfl)
  have hlive : World.Live (firstConnected request nextConnection h).1 := ⟨rfl, rfl, rfl⟩
  have hregistered := @withHooks_induction caller react
    (fun v => World.Aside (firstConnected request nextConnection h).1 v)
    (fun hook v hv => hv.trans (World.aside_register hconduct.aside hook v))
    (fun _ _ hv => hv.trans (.of_same rfl rfl rfl)) plot _ (.of_same rfl rfl rfl)
  exact ⟨hlive.of_aside hregistered, rfl, [], .start,
    hacquired.keep (hregistered.hidden hlive.visible)⟩

theorem ordered_course (hconduct : World.Conduct caller False react) {hops : List Hop}
    (hhops : forall h, h ∈ hops -> KeepsOut h.acquireActions ∧ KeepsOut h.actions)
    {clockStart nextConnection : Nat} {plot : Plot} {request : Request} {w : World}
    {course : List (World × Stage)}
    (hlaunch : launch caller react clockStart nextConnection plot request hops =
      .underway w course) :
    forall p, p ∈ course -> World.Ordered plot.listeners p.1 p.2 ∧
      forall s, s ∈ p.1.journal -> s.Timely := by
  intro p hp
  rcases launch_eq_underway hlaunch with ⟨h, rest, rfl, rfl, rfl⟩
  have hready := aboutToSend_withHooks hconduct plot request nextConnection h
  have hlost : World.Along (firstAnswer request nextConnection h) plot.listeners
      (withHooks caller react plot (firstConnected request nextConnection h).1)
      (.lost deadlineFault) := by
    rcases hready with ⟨hlive, _, earlier, hpassed, hadds⟩
    exact Or.inl ⟨hlive, _, .unsent _ hpassed, hadds⟩
  have hstanding := Passage.standing_course
    (fun deadline => World.along_passage ⟨caller, react, plot.listeners, deadline⟩
      hconduct (firstAnswer request nextConnection h))
    hhops hready (fun _ => hlost) p hp
  rcases hstanding with halong | ⟨c, hop, q, hstage, habout⟩
  · exact halong.ordered rfl
  · rw [hstage]
    exact habout.ordered rfl

/-- A call comes to its end, unless user code that nothing shields it from breaks down,
or nobody answers and its time is not limited. -/
theorem course_ends {meddling : Prop} (hconduct : World.Conduct caller meddling react)
    (hpolicy : caller.policy.Returns) (hrelease : forall w, (react .release w).2 = none)
    {hops : List Hop}
    (hhops : forall h, h ∈ hops ->
      Orderly meddling h.acquireActions ∧ Orderly meddling h.actions)
    {clockStart nextConnection : Nat} {plot : Plot} {request : Request} {w : World}
    {course : List (World × Stage)} {limit : Option Nat}
    (hlaunch : launch caller react clockStart nextConnection plot request hops =
      .underway w course)
    (hdeadline : deadline? clockStart request w = some limit)
    (hanswers : limit ≠ none ∨ forall h, h ∈ hops -> h.reply ≠ none ∧ h.grant ≠ .silence) :
    exists v, course.getLast? = some (v, .over) := by
  have hclock : deadline? clockStart request w ≠ none := by
    rw [hdeadline]
    exact Option.some_ne_none limit
  have hcustody := custody_course hconduct hpolicy hrelease hhops hlaunch hclock
  rcases launch_eq_underway hlaunch with ⟨h, rest, rfl, rfl, rfl⟩
  rw [course_of_deadline hdeadline] at hcustody ⊢
  rcases @Conditions.run_ends ⟨caller, react, plot.listeners, limit⟩ h _ 0 request _
    rest hanswers with ⟨v, stage, hlast, hends⟩
  refine ⟨v, ?_⟩
  rw [List.getLast?_cons, hlast]
  cases stage with
  | exchanging c hop q => cases hends
  | acquiring hop q => cases hends
  | «over» => rfl
  | lost fault =>
      have hfound := (hcustody _ (List.mem_cons_of_mem _ (List.mem_of_getLast? hlast))).left
      exact absurd rfl (hfound fault)

/-- Whatever the pool and the connections answer, whatever breaks down and whenever the
time is up, the trace of a call over all its hops is in the language, as long as nobody
else handles events for the call; and the call does come to its end. -/
theorem events_in_order (hconduct : World.Conduct caller False react) {hops : List Hop}
    (hhops : forall h, h ∈ hops -> KeepsOut h.acquireActions ∧ KeepsOut h.actions)
    {clockStart nextConnection : Nat} {plot : Plot} {request : Request} {w : World}
    {course : List (World × Stage)}
    (hlaunch : launch caller react clockStart nextConnection plot request hops =
      .underway w course) :
    (forall p, p ∈ course -> World.Ordered plot.listeners p.1 p.2) ∧
      forall limit, deadline? clockStart request w = some limit ->
        caller.policy.Returns -> (forall v, (react .release v).2 = none) ->
        (forall h, h ∈ hops -> Orderly False h.acquireActions ∧ Orderly False h.actions) ->
        (limit ≠ none ∨ forall h, h ∈ hops -> h.reply ≠ none ∧ h.grant ≠ .silence) ->
        exists v o, course.getLast? = some (v, .over) ∧ v.call.visible = some o ∧
          Complete plot.listeners o v.trace := by
  have hordered := ordered_course hconduct hhops hlaunch
  refine ⟨fun p hp => (hordered p hp).left, ?_⟩
  intro limit hdeadline hpolicy hrelease horderly hanswers
  rcases course_ends hconduct hpolicy hrelease horderly hlaunch hdeadline hanswers with
    ⟨v, hlast⟩
  rcases (hordered _ (List.mem_of_getLast? hlast)).left with ⟨o, ho, hcomplete⟩
  exact ⟨v, o, hlast, ho, hcomplete⟩

theorem events_in_order_when_listener_breaks_down :
    exists w course v o,
      launch brittleCaller brittleCaller.reaction 0 1 plainPlot
        (plainRequest (some (.ofSeconds 1 0))) [plainHop 5, plainHop 7] =
          .underway w course ∧
      course.getLast? = some (v, .over) ∧ v.call.visible = some o ∧
      Complete .all o v.trace := by
  have hwithin : brittleCaller.Within False := by decide
  have hspares : brittleCaller.Spares .release := by decide
  have hkeeps : forall h, h ∈ [plainHop 5, plainHop 7] ->
      KeepsOut h.acquireActions ∧ KeepsOut h.actions := by decide
  have horderly : forall h, h ∈ [plainHop 5, plainHop 7] ->
      Orderly False h.acquireActions ∧ Orderly False h.actions := by decide
  have hlaunch : launch brittleCaller brittleCaller.reaction 0 1 plainPlot
      (plainRequest (some (.ofSeconds 1 0))) [plainHop 5, plainHop 7] = .underway _ _ :=
    launch_of_connection rfl
  rcases (events_in_order (Caller.reaction_conduct hwithin) hkeeps hlaunch).right (some 1000)
    (by decide) brittleCaller_policy_returns
    (Caller.release_returns brittleCaller_policy_returns hspares) horderly
    (Or.inl (Option.some_ne_none 1000)) with ⟨v, o, hlast, ho, hcomplete⟩
  exact ⟨_, _, v, o, hlaunch, hlast, ho, hcomplete⟩

end Session
end HttpCall
