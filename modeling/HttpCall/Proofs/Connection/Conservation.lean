import HttpCall.Proofs.Connection.Traffic
import HttpCall.Proofs.Handling.Course

/-!
# Conservation of connections

A call takes its connections from the pool one after the other and returns each of
them before it takes the next.  This holds whatever the pool and the connections
answer, whether the time runs out, and wherever listeners and hooks break down; it
needs only that the policy, the pool and the connections return from what they are
asked.
-/

namespace HttpCall

namespace Transfer

/-- Connections are taken and returned one after the other; the one that is held, if
any, was taken last. -/
def inTurn (closed : List Connection) (held : Option Connection) : List Transfer :=
  closed.flatMap (fun c => [taken c, returned c]) ++ held.toList.map taken

def inTurnBack (held : Option Connection) (closed : List Connection) : List Transfer :=
  held.toList.map taken ++ closed.flatMap (fun c => [returned c, taken c])

theorem reverse_inTurnBack (held : Option Connection) (closed : List Connection) :
    (inTurnBack held closed).reverse = inTurn closed.reverse held := by
  have hheld : (held.toList.map taken).reverse = held.toList.map taken := by
    cases held <;> rfl
  unfold inTurnBack inTurn
  rw [List.reverse_append, hheld, List.reverse_flatMap]
  rfl

end Transfer

namespace World

/-- The transfers of a call are in turn, no connection comes twice, and user code
brings none unless it meddles. -/
def Conserves (meddling : Prop) (w : World) (held : Option Connection) : Prop :=
  (¬ meddling -> w.brought = []) ∧
    exists closed : List Connection,
      w.transfers = Transfer.inTurn closed held ∧ (closed ++ held.toList).Nodup

/-- What the loop relies on: all numbers that were given out are used up, and user
code brought none of the connections of the call. -/
structure Custody (meddling : Prop) (w : World) (held : Option Connection)
    (closed : List Connection) : Prop where
  transfers : Transfer.ofEntries w.entries = Transfer.inTurnBack held closed
  distinct : (held.toList ++ closed).Nodup
  used : forall c, c ∈ held.toList ++ closed -> c.id < w.nextConnection
  own : forall c, c ∈ held.toList ++ closed -> c ∉ w.brought
  foreign : forall c, c ∈ w.brought -> c.id < w.nextConnection
  alone : ¬ meddling -> w.brought = []

namespace Custody

variable {meddling : Prop} {v w : World} {held : Option Connection}
  {closed : List Connection} {c : Connection}

theorem conserves (h : Custody meddling w held closed) : w.Conserves meddling held := by
  refine ⟨h.alone, closed.reverse, ?_, ?_⟩
  · rw [World.transfers, h.transfers, Transfer.reverse_inTurnBack]
  · have hdistinct : (held.toList ++ closed).reverse.Nodup :=
      List.pairwise_reverse.mpr (h.distinct.imp Ne.symm)
    have hheld : held.toList.reverse = held.toList := by
      cases held <;> rfl
    rwa [List.reverse_append, hheld] at hdistinct

theorem used_of_traffic {ts : List Transfer} (h : Custody meddling v held closed)
    (hvw : Traffic meddling ts v w) :
    forall c, c ∈ held.toList ++ closed -> c.id < w.nextConnection :=
  fun c hc => Nat.lt_of_lt_of_le (h.used c hc) hvw.numbers

theorem own_of_traffic {ts : List Transfer} (h : Custody meddling v held closed)
    (hvw : Traffic meddling ts v w) :
    forall c, c ∈ held.toList ++ closed -> c ∉ w.brought := by
  intro c hc hbrought
  rcases hvw.fresh c hbrought with hold | ⟨hle, _⟩
  · exact h.own c hc hold
  · exact Nat.not_lt_of_le hle (h.used c hc)

theorem foreign_of_traffic {ts : List Transfer} (h : Custody meddling v held closed)
    (hvw : Traffic meddling ts v w) :
    forall c, c ∈ w.brought -> c.id < w.nextConnection := by
  intro c hbrought
  rcases hvw.fresh c hbrought with hold | ⟨_, hlt⟩
  · exact Nat.lt_of_lt_of_le (h.foreign c hold) hvw.numbers
  · exact hlt

theorem of_traffic (h : Custody meddling v held closed) (hvw : Traffic meddling [] v w) :
    Custody meddling w held closed where
  transfers := hvw.transfers.trans h.transfers
  distinct := h.distinct
  used := h.used_of_traffic hvw
  own := h.own_of_traffic hvw
  foreign := h.foreign_of_traffic hvw
  alone := fun halone => (hvw.alone halone).trans (h.alone halone)

theorem give (h : Custody meddling v (some c) closed)
    (hvw : Traffic meddling [.returned c] v w) :
    Custody meddling w none (c :: closed) where
  transfers := by
    rw [hvw.transfers, h.transfers]
    rfl
  distinct := h.distinct
  used := h.used_of_traffic hvw
  own := h.own_of_traffic hvw
  foreign := h.foreign_of_traffic hvw
  alone := fun halone => (hvw.alone halone).trans (h.alone halone)

theorem take (h : Custody meddling w none closed) (target : Target) :
    Custody meddling ((w.connect target).1.note (.acquired (w.connect target).2))
      (some (w.connect target).2) closed where
  transfers := congrArg (List.cons _) h.transfers
  distinct := by
    apply List.nodup_cons.mpr
    refine ⟨?_, h.distinct⟩
    intro hmem
    exact Nat.lt_irrefl _ (h.used _ hmem)
  used := by
    intro d hd
    rcases List.mem_cons.mp hd with rfl | hd
    · exact Nat.lt_succ_self _
    · exact Nat.lt_succ_of_lt (h.used d hd)
  own := by
    intro d hd hbrought
    rcases List.mem_cons.mp hd with rfl | hd
    · exact Nat.lt_irrefl _ (h.foreign _ hbrought)
    · exact h.own d hd hbrought
  foreign := fun d hd => Nat.lt_succ_of_lt (h.foreign d hd)
  alone := h.alone

end Custody

/-!
## Custody in the course of a call
-/

section Course

variable {meddling : Prop} {react : Reaction} {held : Option Connection}
  {closed : List Connection} {c : Connection} {w : World}

theorem custody_release (hreact : KeepsApart meddling react)
    (h : Custody meddling w (some c) closed) :
    Custody meddling (w.release react c).1 none (c :: closed) := by
  apply h.give
  have hrelease := traffic_release hreact c w
  rwa [if_neg (h.own c List.mem_cons_self)] at hrelease

theorem custody_handle (hreact : KeepsApart meddling react) (caller : Caller)
    (listeners : Listeners) (request : Request) (event : Event)
    (hpolicy : caller.policy.Returns) (hrelease : forall v, (react .release v).2 = none)
    (h : Custody meddling w (some c) closed) :
    match w.handle caller react listeners c request event with
    | (v, .ok .done) => Custody meddling v none (c :: closed)
    | (v, .ok (.redirect _ _)) => Custody meddling v (some c) closed
    | (_, .error _) => False := by
  have hback : forall v, Traffic meddling [] w v ->
      Traffic meddling [.returned c] w (v.release react c).1 := by
    intro v hv
    have hback := traffic_release hreact c v
    rw [if_neg (h.own_of_traffic hv c List.mem_cons_self)] at hback
    exact hv.trans hback
  have hhandled := (traffic_outline caller hreact c w [.returned c] hback).handled listeners
    request event (Traffic.refl w)
  have hreturns := handle_returns hpolicy hrelease listeners c request event w
  rcases hresult : w.handle caller react listeners c request event with
    ⟨v, fault | _ | ⟨location, status⟩⟩ <;> rw [hresult] at hhandled hreturns
  · rcases hreturns with ⟨step, hstep⟩
    cases hstep
  · exact h.give hhandled
  · exact h.of_traffic hhandled

theorem custody_unavailable (hreact : KeepsApart meddling react) (caller : Caller)
    (listeners : Listeners) (e : TransportError) (h : Custody meddling w held closed) :
    Custody meddling (w.onUnavailable caller react listeners e).1 held closed := by
  have hnotified := traffic_notifyException hreact listeners e (Traffic.refl w)
  have hsettled := traffic_settle none (.error (.transport e.message)) hnotified
  apply h.of_traffic
  unfold onUnavailable publishIf
  dsimp only
  split
  · exact traffic_publish hreact caller hsettled
  · exact hsettled

theorem custody_upkeep (k : Conditions) (hconduct : Conduct k.caller meddling k.reaction)
    (hpolicy : k.caller.policy.Returns)
    (hrelease : forall v, (k.reaction .release v).2 = none) :
    Upkeep k
      (Orderly meddling)
      (fun w stage => (forall fault, stage ≠ .lost fault) ∧
        exists closed, Custody meddling w stage.held closed) where
  pass := by
    rintro w stage time ⟨hstage, closed, h⟩
    exact ⟨hstage, closed, h.of_traffic ((Traffic.refl w).of_same rfl rfl)⟩
  act := by
    rintro w stage actions hallowed ⟨hstage, closed, h⟩
    have hdeed := act_deed hconduct actions (fun a ha => (hallowed a ha).right) w
    rw [act_returns (fun _ => inject_returns hpolicy hrelease) actions hallowed w]
    exact ⟨hstage, closed, h.of_traffic (traffic_of_deed hdeed)⟩
  send := by
    rintro w c hop request ⟨hstage, closed, h⟩
    have hsame : Traffic meddling [] w { w with request := request } :=
      (Traffic.refl w).of_same rfl rfl
    exact ⟨hstage, closed, h.of_traffic (hsame.note rfl)⟩
  answer := by
    rintro w c hop request event ⟨hstage, closed, h⟩
    have hhandle := custody_handle hconduct.keepsApart k.caller k.listeners request event
      hpolicy hrelease h
    unfold onEvent
    split
    · rename_i v hv
      rw [hv] at hhandle
      exact ⟨fun _ => Stage.noConfusion, c :: closed, hhandle⟩
    · rename_i v location status hv
      rw [hv] at hhandle
      rw [releaseThen_eq, show (v.release k.reaction c).2 = none from hrelease _]
      exact ⟨fun _ => Stage.noConfusion, c :: closed,
        custody_release hconduct.keepsApart hhandle⟩
    · rename_i v fault hv
      rw [hv] at hhandle
      exact hhandle.elim
  expire := by
    rintro w c hop request ⟨hstage, closed, h⟩ _
    rw [show (w.release k.reaction c).2 = none from hrelease _]
    exact ⟨fun _ => Stage.noConfusion, c :: closed,
      custody_release hconduct.keepsApart h⟩
  ask := by
    rintro w hop request ⟨hstage, closed, h⟩
    exact ⟨hstage, closed, h.of_traffic ((Traffic.refl w).of_same rfl rfl)⟩
  grant := by
    rintro w hop request ⟨_, closed, h⟩
    exact ⟨fun _ => Stage.noConfusion, closed, h.take request.target⟩
  refuse := by
    rintro w hop request cause ⟨hstage, closed, h⟩
    exact ⟨hstage, closed, h.of_traffic ((Traffic.refl w).note rfl)⟩
  unavailable := by
    rintro w hop request e ⟨_, closed, h⟩
    exact ⟨fun _ => Stage.noConfusion, closed,
      custody_unavailable hconduct.keepsApart k.caller k.listeners e h⟩

end Course

/-!
## Custody from the first acquisition on
-/

theorem custody_opening (meddling : Prop) (request : Request) (nextConnection : Nat) :
    Custody meddling (Session.opening request nextConnection) none [] where
  transfers := rfl
  distinct := List.nodup_nil
  used := fun _ hc => absurd hc List.not_mem_nil
  own := fun _ hc => absurd hc List.not_mem_nil
  foreign := fun _ hc => absurd hc List.not_mem_nil
  alone := fun _ => rfl

theorem custody_firstConnected (meddling : Prop) (request : Request) (nextConnection : Nat)
    (h : Hop) :
    Custody meddling (Session.firstConnected request nextConnection h).1
      (some (Session.firstConnected request nextConnection h).2) [] := by
  have hanswer : Custody meddling (Session.firstAnswer request nextConnection h) none [] :=
    (custody_opening meddling request nextConnection).of_traffic
      ((Traffic.refl _).of_same rfl rfl)
  exact (hanswer.take request.target).of_traffic ((Traffic.refl _).of_same rfl rfl)

theorem traffic_withHooks {meddling : Prop} {react : Reaction}
    (hreact : KeepsApart meddling react) (caller : Caller) (plot : Plot) (w : World) :
    Traffic meddling [] w (Session.withHooks caller react plot w) :=
  Session.withHooks_induction (fun hook _ hv => traffic_register hreact caller hook hv)
    (fun _ _ hv => hv.of_same rfl rfl) plot (Traffic.refl w)

end World

namespace Session

/-- The loop has custody of its connections throughout, and does not break down, if the
clock can hold the deadline. -/
theorem custody_course {caller : Caller} {react : Reaction} {meddling : Prop}
    (hconduct : World.Conduct caller meddling react) (hpolicy : caller.policy.Returns)
    (hrelease : forall w, (react .release w).2 = none) {hops : List Hop}
    (hhops : forall h, h ∈ hops ->
      Orderly meddling h.acquireActions ∧ Orderly meddling h.actions)
    {clockStart nextConnection : Nat} {plot : Plot} {request : Request} {w : World}
    {course : List (World × Stage)}
    (hlaunch : launch caller react clockStart nextConnection plot request hops =
      .underway w course)
    (hclock : deadline? clockStart request w ≠ none) :
    forall p, p ∈ course -> (forall fault, p.2 ≠ .lost fault) ∧
      exists closed, World.Custody meddling p.1 p.2.held closed := by
  rcases launch_eq_underway hlaunch with ⟨h, rest, rfl, rfl, rfl⟩
  have hbegun := (World.custody_firstConnected meddling request nextConnection h)
    |>.of_traffic (World.traffic_withHooks hconduct.keepsApart caller plot _)
  exact Upkeep.inv_course
    (fun deadline => World.custody_upkeep ⟨caller, react, plot.listeners, deadline⟩
      hconduct hpolicy hrelease)
    hhops ⟨fun _ => Stage.noConfusion, [], hbegun⟩ (fun hnone => absurd hnone hclock)

/-- A call takes connections from the pool one after the other, no connection twice,
and returns each before it takes the next.  While it waits for an answer it holds
the connection that the answer is to come on, and else none.  Only what user code
brought itself is left aside, and nothing is if user code does not meddle. -/
theorem connections_conserved {caller : Caller} {react : Reaction} {meddling : Prop}
    (hconduct : World.Conduct caller meddling react) (hpolicy : caller.policy.Returns)
    (hrelease : forall w, (react .release w).2 = none) {hops : List Hop}
    (hhops : forall h, h ∈ hops ->
      Orderly meddling h.acquireActions ∧ Orderly meddling h.actions)
    (clockStart nextConnection : Nat) (plot : Plot) (request : Request) :
    match launch caller react clockStart nextConnection plot request hops with
    | .unstarted _ w => w.Conserves meddling none ∧ w.transfers = []
    | .unanswered w => w.Conserves meddling none ∧ w.transfers = []
    | .underway w course =>
        deadline? clockStart request w ≠ none ->
        forall p, p ∈ course ->
          (forall fault, p.2 ≠ .lost fault) ∧ p.1.Conserves meddling p.2.held := by
  have hopening := World.custody_opening meddling request nextConnection
  cases hops with
  | nil =>
      exact ⟨(hopening.of_traffic ((World.Traffic.refl _).note rfl)).conserves, rfl⟩
  | cons h rest =>
      have hanswer : World.Custody meddling (firstAnswer request nextConnection h) none [] :=
        hopening.of_traffic ((World.Traffic.refl _).of_same rfl rfl)
      cases hgrant : h.grant with
      | refusal e =>
          rw [launch_of_refusal hgrant]
          exact ⟨(hanswer.of_traffic ((World.Traffic.refl _).note rfl)).conserves, rfl⟩
      | silence =>
          rw [launch_of_silence hgrant]
          exact ⟨hanswer.conserves, rfl⟩
      | connection =>
          rw [launch_of_connection hgrant]
          intro hclock p hp
          have hbegun := (World.custody_firstConnected meddling request nextConnection h)
            |>.of_traffic (World.traffic_withHooks hconduct.keepsApart caller plot _)
          have hupkeep := fun deadline =>
            World.custody_upkeep ⟨caller, react, plot.listeners, deadline⟩ hconduct hpolicy
              hrelease
          have hinv := Upkeep.inv_course hupkeep hhops
            ⟨fun _ => Stage.noConfusion, [], hbegun⟩ (fun hnone => absurd hnone hclock)
          rcases hinv p hp with ⟨hstage, closed, hcustody⟩
          exact ⟨hstage, hcustody.conserves⟩

/-!
### A call whose listener breaks down

It is redirected once; then the headers listener breaks down, and so does the hook
that hears of the failure.
-/

def brittleCaller : Caller where
  policy := .always (plainUrl "b.test") (some 1)
  triggers := [⟨.headers, 2, [.breakDown (.text "listener bug")]⟩,
    ⟨.complete, 1, [.poll, .breakDown .other]⟩]
  transform _ := .ok .null

theorem brittleCaller_policy_returns : brittleCaller.policy.Returns := by
  intro response request count
  unfold brittleCaller Policy.always
  exact ⟨_, rfl⟩

theorem connections_conserved_when_listener_breaks_down :
    exists w course,
      launch brittleCaller brittleCaller.reaction 0 1 plainPlot
        (plainRequest (some (.ofSeconds 1 0))) [plainHop 5, plainHop 7] =
          .underway w course ∧
      forall p, p ∈ course ->
        (forall fault, p.2 ≠ .lost fault) ∧ p.1.Conserves False p.2.held := by
  have hwithin : brittleCaller.Within False := by decide
  have hspares : brittleCaller.Spares .release := by decide
  have hhops : forall h, h ∈ [plainHop 5, plainHop 7] ->
      Orderly False h.acquireActions ∧ Orderly False h.actions := by decide
  have h := connections_conserved (Caller.reaction_conduct hwithin)
    brittleCaller_policy_returns
    (Caller.release_returns brittleCaller_policy_returns hspares) hhops
    0 1 plainPlot (plainRequest (some (.ofSeconds 1 0)))
  rw [launch_of_connection rfl] at h
  refine ⟨_, _, launch_of_connection rfl, h ?_⟩
  decide

end Session
end HttpCall
