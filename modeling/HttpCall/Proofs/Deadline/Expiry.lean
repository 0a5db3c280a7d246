import HttpCall.Proofs.Call.Lasting
import HttpCall.Proofs.Deadline.Spell
import HttpCall.Proofs.Handling.Finish
import HttpCall.Proofs.Redirect.Limit
import HttpCall.Proofs.Trace.Exception

/-!
# The deadline of a call that has ended

Somebody else may end a call while its loop waits, between two waits, or from inside the
user code that the loop runs.  If the deadline then ends the wait, the outcome stays as it
is.  In an exchange the loop does no more than give the connection back; while it waits
for a connection, it still tells the exception listener that the time is up.
-/

namespace HttpCall

/-- A wait that the deadline ends. -/
structure Expiry where
  place : Nat
  stage : Stage
  since : Nat
  past : List (World × Stage)
  world : World

namespace Conditions

/-- In the run of a script the deadline ends this wait. -/
inductive Expires (k : Conditions) :
    List Stretch -> Connection -> Nat -> Request -> World -> Expiry -> Prop where
  | exchange {s : Stretch} {rest : List Stretch} {c : Connection} {hop : Nat} {q : Request}
      {w v : World} {past : List (World × Stage)} :
      k.attend (.exchanging c hop q) s.exchange.answer s.exchange.acts (w.send q) =
        (past, v, .expired) ->
      Expires k (s :: rest) c hop q w ⟨0, .exchanging c hop q, w.now, past, v⟩
  | acquisition {s next : Stretch} {rest : List Stretch} {c : Connection} {hop n : Nat}
      {q r : Request} {w x v : World} {past past' : List (World × Stage)} :
      k.exchangeIn s.exchange c hop q w = (past, x, .acquiring n r) ->
      k.attend (.acquiring n r) next.acquisition.answer next.acquisition.acts
        { x with asked := x.asked + 1 } = (past', v, .expired) ->
      Expires k (s :: next :: rest) c hop q w
        ⟨1, .acquiring n r, x.now, past ++ (x, .acquiring n r) :: past', v⟩
  | later {s next : Stretch} {rest : List Stretch} {c d : Connection} {hop n m : Nat}
      {q r r' : Request} {w x y : World} {past past' : List (World × Stage)} {e : Expiry} :
      k.exchangeIn s.exchange c hop q w = (past, x, .acquiring n r) ->
      k.acquireIn next.acquisition n r x = (past', y, .exchanging d m r') ->
      Expires k (next :: rest) d m r' y e ->
      Expires k (s :: next :: rest) c hop q w { e with
        place := e.place + 1
        past := past ++ (x, .acquiring n r) :: (past' ++ (y, .exchanging d m r') :: e.past) }

section

variable {k : Conditions}

theorem exchangeIn_of_expired {s : Spell Reply} {c : Connection} {hop : Nat} {q : Request}
    {w v : World} {past : List (World × Stage)}
    (hattend : k.attend (.exchanging c hop q) s.answer s.acts (w.send q) =
      (past, v, .expired)) :
    k.exchangeIn s c hop q w =
      (past, v.onExchangeExpired k.caller k.reaction k.listeners c hop q) := by
  unfold exchangeIn
  rw [hattend]
  rfl

theorem acquireIn_of_expired {s : Spell (Except TransportError Unit)} {hop : Nat}
    {q : Request} {w v : World} {past : List (World × Stage)}
    (hattend : k.attend (.acquiring hop q) s.answer s.acts
      { w with asked := w.asked + 1 } = (past, v, .expired)) :
    k.acquireIn s hop q w =
      (past, v.onUnavailable k.caller k.reaction k.listeners (World.timeoutError q)) := by
  unfold acquireIn
  rw [hattend]
  rfl

theorem Expires.of_idle_acquisition {s : Stretch} (next : Stretch) (rest : List Stretch)
    {c : Connection} {hop n delay time : Nat} {q r : Request} {w : World}
    {actions : List Action} {more : List (Nat × List Action)}
    (hstage : (k.exchangeIn s.exchange c hop q w).2.2 = .acquiring n r)
    (hacts : next.acquisition.acts = (delay, actions) :: more)
    (hwait : Wait.of k.deadline (k.exchangeIn s.exchange c hop q w).2.1.now delay =
      .expired time) :
    let x := (k.exchangeIn s.exchange c hop q w).2.1
    k.Expires (s :: next :: rest) c hop q w
      ⟨1, .acquiring n r, x.now, (k.exchangeIn s.exchange c hop q w).1 ++
          (x, .acquiring n r) :: [({ x with asked := x.asked + 1 }, .acquiring n r)],
        { x with asked := x.asked + 1, now := time }⟩ := by
  intro x
  have hexchange : k.exchangeIn s.exchange c hop q w =
      ((k.exchangeIn s.exchange c hop q w).1, x, .acquiring n r) :=
    Prod.ext rfl (Prod.ext rfl hstage)
  refine .acquisition hexchange ?_
  rw [hacts]
  exact attend_of_expired hwait

end

end Conditions

namespace World

section

variable {caller : Caller} {react : Reaction} {w : World}

theorem onExchangeExpired_of_isDone (hdone : w.call.isDone = true) (listeners : Listeners)
    (c : Connection) (hop : Nat) (q : Request) :
    w.onExchangeExpired caller react listeners c hop q =
      ((react .release (w.note (.released c))).1,
        Stage.over.orLost (react .release (w.note (.released c))).2) := by
  unfold onExchangeExpired
  rw [if_pos hdone, releaseThen_eq]
  rfl

theorem onUnavailable_of_settled (hreact : forall m v, Lasting v (react m v).1)
    (listeners : Listeners) (e : TransportError)
    (houtcome : w.call.outcome.isSome = true) :
    w.onUnavailable caller react listeners e =
      (w.notifyException react listeners e, .over) := by
  have hnotified : Lasting w (w.notifyException react listeners e) :=
    lasting_fireIf hreact _ _ _ w
  rcases Option.isSome_iff_exists.mp (hnotified.settled houtcome) with ⟨o, ho⟩
  unfold onUnavailable settle Call.settle?
  rw [ho]
  rfl

end

end World

namespace World

theorem stage_onEvent_error (caller : Caller) (react : Reaction) (listeners : Listeners)
    (c : Connection) (hop : Nat) (q : Request) (e : TransportError) (w : World) :
    (w.onEvent caller react listeners c hop q (.error e)).2.waits = false := by
  rcases stage_onEvent caller react listeners c hop q (.error e) w with
    hends | ⟨location, status, hstage⟩
  · exact hends
  · rcases leads_of_onEvent hstage with ⟨_, _, _, response, hevent, _⟩
    cases hevent

theorem stage_onExchangeExpired (caller : Caller) (react : Reaction) (listeners : Listeners)
    (c : Connection) (hop : Nat) (q : Request) (w : World) :
    (w.onExchangeExpired caller react listeners c hop q).2.waits = false := by
  unfold onExchangeExpired
  split
  · rw [releaseThen_eq]
    cases (w.release react c).2 <;> rfl
  · exact stage_onEvent_error ..

end World

namespace Conditions

def afterExpiry (k : Conditions) (e : Expiry) : World × Stage :=
  match e.stage with
  | .exchanging c hop q =>
      e.world.onExchangeExpired k.caller k.reaction k.listeners c hop q
  | .acquiring _ q =>
      e.world.onUnavailable k.caller k.reaction k.listeners (World.timeoutError q)
  | stage => (e.world, stage)

section

variable {k : Conditions} {script : List Stretch} {c : Connection} {hop : Nat} {q : Request}
  {w : World} {e : Expiry}

/-- A run is over when the deadline ends one of its waits. -/
theorem Expires.runIn_eq (h : k.Expires script c hop q w e) :
    k.runIn script c hop q w = e.past ++ [k.afterExpiry e] := by
  induction h with
  | exchange hattend =>
      apply runIn_of_end (exchangeIn_of_expired hattend)
      exact ne_acquiring (World.stage_onExchangeExpired ..)
  | acquisition hexchange hattend =>
      rw [runIn_of_unacquired hexchange (acquireIn_of_expired hattend)
        (fun _ _ _ => Stage.noConfusion)]
      exact (List.append_assoc _ (_ :: _) _).symm
  | later hexchange hacquire _ ih =>
      rw [runIn_of_acquired hexchange hacquire, ih]
      simp only [List.append_assoc, List.cons_append]
      rfl

theorem Expires.waited (h : k.Expires script c hop q w e) :
    (exists d n r, e.stage = .exchanging d n r) ∨ exists n r, e.stage = .acquiring n r := by
  induction h with
  | exchange _ =>
      exact Or.inl ⟨_, _, _, rfl⟩
  | acquisition _ _ =>
      exact Or.inr ⟨_, _, rfl⟩
  | later _ _ _ ih =>
      exact ih

/-- If the deadline ends a wait of a call that has ended, its outcome stays.  A connection
that is held is given back, and nothing else is done; where none is held, the exception
listener is told that the time is up, if it is attached, and nothing else is done. -/
theorem finished_call_outlasts_deadline (hconduct : World.Conduct k.caller True k.reaction)
    (hexpires : k.Expires script c hop q w e) (hdone : e.world.call.isDone = true) :
    exists last stage, k.runIn script c hop q w = e.past ++ [(last, stage)] ∧
      last.call.visible = e.world.call.visible ∧
      match e.stage with
      | .exchanging d _ _ => last = (k.reaction .release (e.world.note (.released d))).1
      | .acquiring _ r =>
          last = e.world.notifyException k.reaction k.listeners (World.timeoutError r)
      | _ => False := by
  have hlasting := hconduct.lasting
  rcases World.visible_of_isDone hdone with ⟨o, ho⟩
  have hrun := hexpires.runIn_eq
  rcases hexpires.waited with ⟨d, n, r, hstage⟩ | ⟨n, r, hstage⟩
  · simp only [afterExpiry, hstage,
      World.onExchangeExpired_of_isDone hdone k.listeners d n r] at hrun
    simp only [hstage]
    refine ⟨_, _, hrun, ?_, rfl⟩
    rw [ho]
    exact (World.lasting_fire hlasting .release (.released d) e.world).visible ho
  · simp only [afterExpiry, hstage, World.onUnavailable_of_settled hlasting k.listeners
      (World.timeoutError r) (World.settled_of_isDone hdone)] at hrun
    simp only [hstage]
    refine ⟨_, _, hrun, ?_, rfl⟩
    rw [ho]
    exact (World.lasting_fireIf hlasting _ _ _ e.world).visible ho

end

/-!
### Calls that somebody else ends

One is ended by user code in the connection, which never answers after that; the other is
ended while its first connection is given back, and waits for the next one then.
-/

def hangingHop : Hop := { Session.plainHop 5 with actions := [.inject .plainOk], reply := none }

def hangingConditions : Conditions where
  caller := Session.meddlingCaller
  reaction := Session.meddlingCaller.reaction
  listeners := .all
  deadline := some 1000

def connectedWorld : World × Connection :=
  Session.firstConnected (Session.plainRequest (some (.ofSeconds 1 0))) 1 hangingHop

theorem finished_call_outlasts_deadline_in_exchange :
    exists e, hangingConditions.Expires [hangingHop.stretch] connectedWorld.2 0
        (Session.plainRequest (some (.ofSeconds 1 0))) connectedWorld.1 e ∧
      e.world.call.isDone = true ∧
      exists last stage, hangingConditions.runIn [hangingHop.stretch] connectedWorld.2 0
          (Session.plainRequest (some (.ofSeconds 1 0))) connectedWorld.1 =
          e.past ++ [(last, stage)] ∧
        last.call.visible = e.world.call.visible ∧
        last = (Session.meddlingCaller.reaction .release
          (e.world.note (.released connectedWorld.2))).1 := by
  have hconduct := Caller.reaction_conduct (Caller.within_true Session.meddlingCaller)
  have hexpires := @Expires.exchange hangingConditions hangingHop.stretch []
    connectedWorld.2 0 (Session.plainRequest (some (.ofSeconds 1 0))) connectedWorld.1 _ _ rfl
  have hdone : (hangingConditions.attend
      (.exchanging connectedWorld.2 0 (Session.plainRequest (some (.ofSeconds 1 0))))
      hangingHop.stretch.exchange.answer hangingHop.stretch.exchange.acts
      (connectedWorld.1.send (Session.plainRequest (some (.ofSeconds 1 0))))).2.1.call.isDone =
        true := by
    decide +kernel
  exact ⟨_, hexpires, hdone, finished_call_outlasts_deadline hconduct hexpires hdone⟩

def rivalCaller : Caller where
  policy := .always (Session.plainUrl "b.test") (some 1)
  triggers := [⟨.release, 1, [.inject .plainOk]⟩]
  transform _ := .ok .null

def slowHop : Hop := { Session.plainHop 0 with acquireDelay := 5000 }

def rivalConditions : Conditions where
  caller := rivalCaller
  reaction := rivalCaller.reaction
  listeners := .all
  deadline := some 1000

def limitedRequest : Request := Session.plainRequest (some (.ofSeconds 1 0))

def rivalWorld : World :=
  Session.withHooks rivalCaller rivalCaller.reaction Session.plainPlot
    (Session.firstConnected limitedRequest 1 (Session.plainHop 5)).1

/-- A call that has succeeded is told that its time is up. -/
theorem finished_call_told_of_timeout :
    exists course c e,
      Session.launch rivalCaller rivalCaller.reaction 0 1 Session.plainPlot limitedRequest
          [Session.plainHop 5, slowHop] = .underway rivalWorld course ∧
        rivalConditions.Expires ([Session.plainHop 5, slowHop].map Hop.stretch) c 0
          limitedRequest rivalWorld e ∧
        e.world.call.isDone = true ∧ e.world.errors = [] ∧
        course.getLast?.map (fun p => (p.1.errors, p.2)) =
          some ([.timeout (.ofSeconds 1 0)], .over) := by
  let c := (Session.firstConnected limitedRequest 1 (Session.plainHop 5)).2
  have hlaunch : Session.launch rivalCaller rivalCaller.reaction 0 1 Session.plainPlot
      limitedRequest [Session.plainHop 5, slowHop] = .underway rivalWorld _ :=
    Session.launch_of_connection rfl
  let p := rivalConditions.exchangeIn (Session.plainHop 5).stretch.exchange c 0 limitedRequest
    rivalWorld
  have hstage : p.2.2 =
      .acquiring 0 (limitedRequest.redirected (Session.plainUrl "b.test") .ok) := by
    decide +kernel
  have hwait : Wait.of rivalConditions.deadline p.2.1.now 5000 = .expired 1000 := by
    decide +kernel
  have hexpires := Expires.of_idle_acquisition slowHop.stretch [] hstage rfl hwait
  refine ⟨_, c, _, hlaunch, hexpires, ?_, ?_, ?_⟩
  · decide +kernel
  · decide +kernel
  · decide +kernel

end Conditions
end HttpCall
