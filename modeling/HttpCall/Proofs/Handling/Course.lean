import HttpCall.Proofs.Handling.Outline

/-!
# What holds in the course of a call

The loop over hops goes from wait to wait.  An upkeep says what holds of each world
together with what is waited for then, and shows it for each block of work; it holds
then throughout the course, however many hops there are.
-/

namespace HttpCall

def Stage.orLost (next : Stage) : Option Fault -> Stage
  | none => next
  | some fault => .lost fault

def Stage.held : Stage -> Option Connection
  | exchanging c _ _ => some c
  | _ => none

def Stage.waits : Stage -> Bool
  | .exchanging _ _ _ | .acquiring _ _ => true
  | .over | .lost _ => false

/-- What holds when a wait is over: if the pool is to be asked next, `parted` does in
place of `inv`. -/
def Stage.Reached (parted : Nat -> Request -> World -> Prop) (inv : World -> Stage -> Prop) :
    World × Stage -> Prop
  | (w, .acquiring hop request) => parted hop request w
  | (w, stage) => inv w stage

theorem World.releaseThen_eq (react : Reaction) (c : Connection) (next : Stage) (w : World) :
    w.releaseThen react c next =
      ((w.release react c).1, next.orLost (w.release react c).2) := by
  unfold World.releaseThen
  rcases w.release react c with ⟨v, _ | fault⟩ <;> rfl

theorem World.stage_onEvent (caller : Caller) (react : Reaction) (listeners : Listeners)
    (c : Connection) (hop : Nat) (request : Request) (event : Event) (w : World) :
    (w.onEvent caller react listeners c hop request event).2.waits = false ∨
      exists location status, (w.onEvent caller react listeners c hop request event).2 =
        .acquiring hop (request.redirected location status) := by
  unfold World.onEvent
  split
  · exact Or.inl rfl
  · rename_i v location status _
    rw [World.releaseThen_eq]
    cases (v.release react c).2 with
    | none =>
        exact Or.inr ⟨location, status, rfl⟩
    | some fault =>
        exact Or.inl rfl
  · exact Or.inl rfl

/-!
## Hops are counted on
-/

namespace Conditions

section

variable {k : Conditions} {h : Hop} {c d : Connection} {hop n : Nat} {q r : Request}
  {v w : World} {past : List (World × Stage)}

theorem hop_of_onEvent {caller : Caller} {react : Reaction} {listeners : Listeners}
    {event : Event}
    (hevent : (w.onEvent caller react listeners c hop q event).2 = .acquiring n r) :
    n = hop := by
  rcases World.stage_onEvent caller react listeners c hop q event w with
    hends | ⟨location, status, hstage⟩
  · rw [hevent] at hends
    cases hends
  · cases hevent.symm.trans hstage
    rfl

theorem hop_of_onExchangeExpired {caller : Caller} {react : Reaction} {listeners : Listeners}
    (hexpired : (w.onExchangeExpired caller react listeners c hop q).2 = .acquiring n r) :
    n = hop := by
  unfold World.onExchangeExpired at hexpired
  split at hexpired
  · rw [World.releaseThen_eq] at hexpired
    cases hfault : (w.release react c).2 <;> rw [hfault] at hexpired <;> cases hexpired
  · exact hop_of_onEvent hexpired

theorem hop_of_exchange (hexchange : k.exchange h c hop q w = (past, v, .acquiring n r)) :
    n = hop := by
  have hstage : (k.exchange h c hop q w).2.2 = .acquiring n r := by
    rw [hexchange]
  unfold exchange at hstage
  dsimp only at hstage
  split at hstage
  · exact hop_of_onExchangeExpired hstage
  · split at hstage
    · cases hstage
    · split at hstage
      · exact hop_of_onEvent hstage
      · unfold untilExpired at hstage
        split at hstage
        · cases hstage
        · exact hop_of_onExchangeExpired hstage

theorem hop_of_acquire (hacquire : k.acquire h hop q w = (past, v, .exchanging d n r)) :
    n = hop + 1 ∧ r = q := by
  have hstage : (k.acquire h hop q w).2.2 = .exchanging d n r := by
    rw [hacquire]
  unfold acquire at hstage
  dsimp only at hstage
  split at hstage
  · cases hstage
  · split at hstage
    · cases hstage
    · split at hstage
      · cases hstage
        exact ⟨rfl, rfl⟩
      · cases hstage
      · unfold untilExpired at hstage
        split at hstage <;> cases hstage

end

end Conditions

/-- The event is what is replied on a hop, or says that the time is up. -/
def IsEventOf (hops : List Hop) (n : Nat) (q : Request) (event : Event) : Prop :=
  (exists h reply, hops[n]? = some h ∧ h.reply = some reply ∧ event = reply.toEvent q) ∨
    event = .error (World.timeoutError q)

/-!
## Routes

A route says block by block what holds, and knows from a script of hops which of them
answers.  At two moments it may say something of its own: a connection was granted for a
request and the request was not sent yet, or a redirect was followed and the pool was not
asked yet.
-/

/-- `Route k script allowed ready parted inv` says that the blocks of work of a call lead
from `inv` to `inv`, as long as user code in the pool and in the connections does only what
is `allowed`.  Before a request is sent `ready` holds in place of `inv`, and before the
pool is asked `parted`. -/
structure Route (k : Conditions) (script : List Hop) (allowed : List Action -> Prop)
    (ready : Connection -> Nat -> Request -> World -> Prop)
    (parted : Nat -> Request -> World -> Prop) (inv : World -> Stage -> Prop) : Prop where
  pass {w : World} {stage : Stage} (time : Nat) :
    stage.waits = true -> inv w stage -> inv { w with now := time } stage
  act {w : World} {stage : Stage} {actions : List Action} :
    allowed actions -> stage.waits = true -> inv w stage ->
    inv (w.act k.caller k.reaction actions).1
      (stage.orLost (w.act k.caller k.reaction actions).2)
  send {w : World} {c : Connection} {hop : Nat} {request : Request} :
    ready c hop request w -> inv (w.send request) (.exchanging c hop request)
  answer {w : World} {c : Connection} {hop : Nat} {request : Request} {h : Hop}
      {reply : Reply} :
    script[hop]? = some h -> h.reply = some reply -> inv w (.exchanging c hop request) ->
    Stage.Reached parted inv (w.onEvent k.caller k.reaction k.listeners c hop request
      (reply.toEvent request))
  late {w : World} {c : Connection} {hop : Nat} {request : Request} :
    inv w (.exchanging c hop request) ->
    Stage.Reached parted inv (w.onEvent k.caller k.reaction k.listeners c hop request
      (.error (World.timeoutError request)))
  expire {w : World} {c : Connection} {hop : Nat} {request : Request} :
    inv w (.exchanging c hop request) -> w.call.isDone = true ->
    inv (w.release k.reaction c).1 (Stage.over.orLost (w.release k.reaction c).2)
  ask {w : World} {hop : Nat} {request : Request} :
    parted hop request w -> inv { w with asked := w.asked + 1 } (.acquiring hop request)
  grant {w : World} {hop : Nat} {request : Request} :
    inv w (.acquiring hop request) ->
    ready (w.connect request.target).2 (hop + 1) request (w.onGranted hop request).1
  refuse {w : World} {hop : Nat} {request : Request} (e : TransportError) :
    inv w (.acquiring hop request) ->
    inv ((w.note (.refused request.target (some e))).onUnavailable k.caller k.reaction
      k.listeners e).1 .over
  exhaust {w : World} {hop : Nat} {request : Request} :
    parted hop request w -> inv (k.refuse request w).1 .over
  outOfTime {w : World} {hop : Nat} {request : Request} :
    inv w (.acquiring hop request) ->
    inv (w.onUnavailable k.caller k.reaction k.listeners (World.timeoutError request)).1
      .over

namespace Route

variable {k : Conditions} {script : List Hop} {allowed : List Action -> Prop}
  {ready : Connection -> Nat -> Request -> World -> Prop}
  {parted : Nat -> Request -> World -> Prop} {inv : World -> Stage -> Prop}

def Past (inv : World -> Stage -> Prop) (course : Conditions.Course) : Prop :=
  forall p, p ∈ course.1 -> inv p.1 p.2

def Standing (ready : Connection -> Nat -> Request -> World -> Prop)
    (parted : Nat -> Request -> World -> Prop) (inv : World -> Stage -> Prop) (w : World)
    (stage : Stage) : Prop :=
  inv w stage ∨
    (exists c hop request, stage = .exchanging c hop request ∧ ready c hop request w) ∨
    exists hop request, stage = .acquiring hop request ∧ parted hop request w

def Gained (ready : Connection -> Nat -> Request -> World -> Prop)
    (inv : World -> Stage -> Prop) (w : World) : Stage -> Prop
  | .exchanging c hop request => ready c hop request w
  | stage => inv w stage

theorem past_singleton {w : World} {stage : Stage} (hw : inv w stage) :
    forall p, p ∈ [(w, stage)] -> inv p.1 p.2 := by
  intro p hp
  cases List.mem_singleton.mp hp
  exact hw

theorem reached_orLost {w : World} {next : Stage} {fault? : Option Fault}
    (hnext : forall hop request, next ≠ .acquiring hop request)
    (hw : inv w (next.orLost fault?)) : Stage.Reached parted inv (w, next.orLost fault?) := by
  cases fault? with
  | some fault =>
      exact hw
  | none =>
      cases next with
      | acquiring hop request => exact absurd rfl (hnext hop request)
      | exchanging c hop request => exact hw
      | «over» => exact hw
      | lost fault => exact hw

theorem reached_of_inv {p : World × Stage} (hp : inv p.1 p.2) :
    Stage.Reached (fun hop request w => inv w (.acquiring hop request)) inv p := by
  rcases p with ⟨w, _ | _ | _ | _⟩ <;> exact hp

theorem expired (u : Route k script allowed ready parted inv) {w : World} {c : Connection}
    {hop : Nat} {request : Request} (hw : inv w (.exchanging c hop request)) :
    Stage.Reached parted inv
      (w.onExchangeExpired k.caller k.reaction k.listeners c hop request) := by
  unfold World.onExchangeExpired
  split
  · rename_i hdone
    rw [World.releaseThen_eq]
    exact reached_orLost (fun _ _ => Stage.noConfusion) (u.expire hw hdone)
  · exact u.late hw

theorem kept_untilExpired (u : Route k script allowed ready parted inv)
    (final : World × Stage -> Prop) {past : List (World × Stage)} {stage : Stage} {w : World}
    {onExpired : World -> World × Stage} (hpast : forall p, p ∈ past -> inv p.1 p.2)
    (hwaits : stage.waits = true) (hw : inv w stage) (hstays : final (w, stage))
    (hexpired : forall v, inv v stage -> final (onExpired v)) :
    Past inv (k.untilExpired past stage w onExpired) ∧
      final (k.untilExpired past stage w onExpired).2 := by
  unfold Conditions.untilExpired
  split
  · exact ⟨hpast, hstays⟩
  · refine ⟨?_, hexpired _ (u.pass _ hwaits hw)⟩
    intro p hp
    rcases List.mem_append.mp hp with hp | hp
    · exact hpast p hp
    · exact past_singleton hw p hp

theorem kept_exchange (u : Route k script allowed ready parted inv) {h : Hop} {w : World}
    {c : Connection} {hop : Nat} {request : Request} (hhop : script[hop]? = some h)
    (hactions : allowed h.actions) (hw : ready c hop request w) :
    Past inv (k.exchange h c hop request w) ∧
      Stage.Reached parted inv (k.exchange h c hop request w).2 := by
  have hsent := u.send hw
  unfold Conditions.exchange
  dsimp only
  split
  · exact ⟨past_singleton hsent, u.expired (u.pass _ rfl hsent)⟩
  · rename_i time _
    have hacted := u.act hactions rfl (u.pass time rfl hsent)
    split
    · rename_i v fault hv
      rw [hv] at hacted
      exact ⟨past_singleton hsent, hacted⟩
    · rename_i v hv
      rw [hv] at hacted
      split
      · rename_i reply hreply
        exact ⟨past_singleton hsent, u.answer hhop hreply hacted⟩
      · exact u.kept_untilExpired (Stage.Reached parted inv) (past_singleton hsent) rfl hacted
          hacted (fun x hx => u.expired hx)

theorem kept_acquire (u : Route k script allowed ready parted inv) {h : Hop} {w : World}
    {hop : Nat} {request : Request} (hactions : allowed h.acquireActions)
    (hw : parted hop request w) :
    Past inv (k.acquire h hop request w) ∧
      Gained ready inv (k.acquire h hop request w).2.1
        (k.acquire h hop request w).2.2 := by
  have hasked := u.ask hw
  unfold Conditions.acquire
  dsimp only
  split
  · exact ⟨past_singleton hasked, u.outOfTime (u.pass _ rfl hasked)⟩
  · rename_i time _
    have hacted := u.act hactions rfl (u.pass time rfl hasked)
    split
    · rename_i v fault hv
      rw [hv] at hacted
      exact ⟨past_singleton hasked, hacted⟩
    · rename_i v hv
      rw [hv] at hacted
      split
      · exact ⟨past_singleton hasked, u.grant hacted⟩
      · rename_i e _
        exact ⟨past_singleton hasked, u.refuse e hacted⟩
      · exact u.kept_untilExpired (fun p => Gained ready inv p.1 p.2) (past_singleton hasked)
          rfl hacted hacted (fun x hx => u.outOfTime hx)

theorem standing_append {past more : List (World × Stage)} {w : World} {stage : Stage}
    (hpast : Past inv (past, w, stage)) (hw : Standing ready parted inv w stage)
    (hmore : forall p, p ∈ more -> Standing ready parted inv p.1 p.2) :
    forall p, p ∈ past ++ (w, stage) :: more -> Standing ready parted inv p.1 p.2 := by
  intro p hp
  rcases List.mem_append.mp hp with hp | hp
  · exact Or.inl (hpast p hp)
  · rcases List.mem_cons.mp hp with rfl | hp
    · exact hw
    · exact hmore p hp

/-- What holds block by block holds throughout the course from a hop on. -/
theorem standing_run (u : Route k script allowed ready parted inv) (earlier rest : List Hop)
    {h : Hop} {c : Connection} {hop : Nat} {request : Request} {w : World}
    (hscript : script = earlier ++ h :: rest) (hhop : hop = earlier.length)
    (hallowed : forall x, x ∈ script -> allowed x.acquireActions ∧ allowed x.actions)
    (hw : ready c hop request w) :
    forall p, p ∈ k.run rest h c hop request w -> Standing ready parted inv p.1 p.2 := by
  have hnone : forall p : World × Stage, p ∈ [] -> Standing ready parted inv p.1 p.2 :=
    fun p hp => absurd hp List.not_mem_nil
  induction rest generalizing earlier h c hop request w with
  | nil =>
      have hexchange := u.kept_exchange (h := h) (by simp [hscript, hhop])
        (hallowed h (by simp [hscript])).right hw
      rcases heq : k.exchange h c hop request w with ⟨past, v, stage⟩
      rw [heq] at hexchange
      cases stage with
      | acquiring n r =>
          rw [Conditions.run_of_exhausted heq]
          refine standing_append hexchange.left
            (Or.inr (Or.inr ⟨n, r, rfl, hexchange.right⟩)) ?_
          intro p hp
          cases List.mem_singleton.mp hp
          exact Or.inl (u.exhaust hexchange.right)
      | _ =>
          rw [Conditions.run_of_end heq (fun _ _ => Stage.noConfusion)]
          exact standing_append hexchange.left (Or.inl hexchange.right) hnone
  | cons next rest ih =>
      have hexchange := u.kept_exchange (h := h) (by simp [hscript, hhop])
        (hallowed h (by simp [hscript])).right hw
      rcases heq : k.exchange h c hop request w with ⟨past, v, stage⟩
      rw [heq] at hexchange
      cases stage with
      | acquiring n r =>
          have hacquire := u.kept_acquire (hallowed next (by simp [hscript])).left
            hexchange.right
          have hparted : Standing ready parted inv v (.acquiring n r) :=
            Or.inr (Or.inr ⟨n, r, rfl, hexchange.right⟩)
          rcases heq' : k.acquire next n r v with ⟨past', x, stage⟩
          rw [heq'] at hacquire
          cases stage with
          | exchanging d m s =>
              rw [Conditions.run_of_acquired heq heq']
              have hn : n = hop := Conditions.hop_of_exchange heq
              rcases Conditions.hop_of_acquire heq' with ⟨hm, _⟩
              refine standing_append hexchange.left hparted (standing_append hacquire.left
                (Or.inr (Or.inl ⟨d, m, s, rfl, hacquire.right⟩)) ?_)
              refine ih (earlier ++ [h]) ?_ ?_ hacquire.right
              · rw [hscript, List.append_assoc]
                rfl
              · rw [hm, hn, hhop, List.length_append]
                rfl
          | _ =>
              rw [Conditions.run_of_unacquired heq heq' (fun _ _ _ => Stage.noConfusion)]
              exact standing_append hexchange.left hparted
                (standing_append hacquire.left (Or.inl hacquire.right) hnone)
      | _ =>
          rw [Conditions.run_of_end heq (fun _ _ => Stage.noConfusion)]
          exact standing_append hexchange.left (Or.inl hexchange.right) hnone

/-- What holds block by block, whatever the deadline, holds from the moment at which a
call is under way. -/
theorem standing_course {caller : Caller} {react : Reaction} {plot : Plot} {clockStart : Nat}
    {h : Hop} {rest : List Hop} {c : Connection} {request : Request} {w : World}
    (hroute : forall deadline, Route ⟨caller, react, plot.listeners, deadline⟩ (h :: rest)
      allowed ready parted inv)
    (hallowed : forall x, x ∈ h :: rest -> allowed x.acquireActions ∧ allowed x.actions)
    (hw : ready c 0 request w)
    (hlost : Session.deadline? clockStart request w = none ->
      inv w (.lost Session.deadlineFault)) :
    forall p, p ∈ Session.course caller react plot clockStart h rest c request w ->
      Standing ready parted inv p.1 p.2 := by
  intro p hp
  cases hdeadline : Session.deadline? clockStart request w with
  | some deadline =>
      rw [Session.course_of_deadline hdeadline] at hp
      rcases List.mem_cons.mp hp with rfl | hp
      · exact Or.inr (Or.inl ⟨c, 0, request, rfl, hw⟩)
      · exact (hroute deadline).standing_run [] rest rfl rfl hallowed hw p hp
  | none =>
      rw [Session.course_of_no_deadline hdeadline] at hp
      cases List.mem_singleton.mp hp
      exact Or.inl (hlost hdeadline)

end Route

/-!
## Passages

Often it makes no difference which hop answers, nor whether the pool was asked.
-/

/-- `Passage k allowed ready inv` says that the blocks of work of a call lead from `inv`
to `inv`, as long as user code in the pool and in the connections does only what is
`allowed`.  When there is a connection for a request and the request was not sent yet,
`ready` holds in place of `inv`. -/
structure Passage (k : Conditions) (allowed : List Action -> Prop)
    (ready : Connection -> Nat -> Request -> World -> Prop)
    (inv : World -> Stage -> Prop) : Prop where
  pass {w : World} {stage : Stage} (time : Nat) :
    inv w stage -> inv { w with now := time } stage
  act {w : World} {stage : Stage} {actions : List Action} :
    allowed actions -> stage.waits = true -> inv w stage ->
    inv (w.act k.caller k.reaction actions).1
      (stage.orLost (w.act k.caller k.reaction actions).2)
  send {w : World} {c : Connection} {hop : Nat} {request : Request} :
    ready c hop request w -> inv (w.send request) (.exchanging c hop request)
  answer {w : World} {c : Connection} {hop : Nat} {request : Request} (event : Event) :
    inv w (.exchanging c hop request) ->
    inv (w.onEvent k.caller k.reaction k.listeners c hop request event).1
      (w.onEvent k.caller k.reaction k.listeners c hop request event).2
  expire {w : World} {c : Connection} {hop : Nat} {request : Request} :
    inv w (.exchanging c hop request) -> w.call.isDone = true ->
    inv (w.release k.reaction c).1 (Stage.over.orLost (w.release k.reaction c).2)
  ask {w : World} {hop : Nat} {request : Request} :
    inv w (.acquiring hop request) ->
    inv { w with asked := w.asked + 1 } (.acquiring hop request)
  grant {w : World} {hop : Nat} {request : Request} :
    inv w (.acquiring hop request) ->
    ready (w.connect request.target).2 (hop + 1) request (w.onGranted hop request).1
  refuse {w : World} {hop : Nat} {request : Request} (cause : Option TransportError) :
    inv w (.acquiring hop request) ->
    inv ((w.note (.refused request.target cause)).onUnavailable k.caller k.reaction
      k.listeners (cause.getD exhaustedError)).1 .over
  outOfTime {w : World} {hop : Nat} {request : Request} :
    inv w (.acquiring hop request) ->
    inv (w.onUnavailable k.caller k.reaction k.listeners (World.timeoutError request)).1
      .over

namespace Passage

variable {k : Conditions} {allowed : List Action -> Prop}
  {ready : Connection -> Nat -> Request -> World -> Prop} {inv : World -> Stage -> Prop}

def Standing (ready : Connection -> Nat -> Request -> World -> Prop)
    (inv : World -> Stage -> Prop) (w : World) (stage : Stage) : Prop :=
  inv w stage ∨
    exists c hop request, stage = .exchanging c hop request ∧ ready c hop request w

theorem route (u : Passage k allowed ready inv) (script : List Hop) :
    Route k script allowed ready (fun hop request w => inv w (.acquiring hop request)) inv where
  pass time _ hw := u.pass time hw
  act := u.act
  send := u.send
  answer _ _ hw := Route.reached_of_inv (u.answer _ hw)
  late hw := Route.reached_of_inv (u.answer _ hw)
  expire := u.expire
  ask := u.ask
  grant := u.grant
  refuse e hw := u.refuse (some e) hw
  exhaust hw := u.refuse none hw
  outOfTime := u.outOfTime

/-- What holds block by block, whatever the deadline, holds from the moment at which a
call is under way. -/
theorem standing_course {caller : Caller} {react : Reaction} {plot : Plot} {clockStart : Nat}
    {h : Hop} {rest : List Hop} {c : Connection} {request : Request} {w : World}
    (hpassage : forall deadline,
      Passage ⟨caller, react, plot.listeners, deadline⟩ allowed ready inv)
    (hallowed : forall x, x ∈ h :: rest -> allowed x.acquireActions ∧ allowed x.actions)
    (hw : ready c 0 request w)
    (hlost : Session.deadline? clockStart request w = none ->
      inv w (.lost Session.deadlineFault)) :
    forall p, p ∈ Session.course caller react plot clockStart h rest c request w ->
      Standing ready inv p.1 p.2 := by
  intro p hp
  have hstanding := Route.standing_course
    (fun deadline => (hpassage deadline).route (h :: rest)) hallowed hw hlost p hp
  rcases hstanding with hinv | hready | ⟨hop, request, hstage, hinv⟩
  · exact Or.inl hinv
  · exact Or.inr hready
  · rw [hstage]
    exact Or.inl hinv

end Passage

/-- `Upkeep k allowed inv` says that the blocks of work of a call keep `inv`, as long as
user code in the pool and in the connections does only what is `allowed`. -/
structure Upkeep (k : Conditions) (allowed : List Action -> Prop)
    (inv : World -> Stage -> Prop) : Prop where
  pass {w : World} {stage : Stage} (time : Nat) :
    inv w stage -> inv { w with now := time } stage
  act {w : World} {stage : Stage} {actions : List Action} :
    allowed actions -> inv w stage ->
    inv (w.act k.caller k.reaction actions).1
      (stage.orLost (w.act k.caller k.reaction actions).2)
  send {w : World} {c : Connection} {hop : Nat} {request : Request} :
    inv w (.exchanging c hop request) -> inv (w.send request) (.exchanging c hop request)
  answer {w : World} {c : Connection} {hop : Nat} {request : Request} (event : Event) :
    inv w (.exchanging c hop request) ->
    inv (w.onEvent k.caller k.reaction k.listeners c hop request event).1
      (w.onEvent k.caller k.reaction k.listeners c hop request event).2
  expire {w : World} {c : Connection} {hop : Nat} {request : Request} :
    inv w (.exchanging c hop request) -> w.call.isDone = true ->
    inv (w.release k.reaction c).1 (Stage.over.orLost (w.release k.reaction c).2)
  ask {w : World} {hop : Nat} {request : Request} :
    inv w (.acquiring hop request) ->
    inv { w with asked := w.asked + 1 } (.acquiring hop request)
  grant {w : World} {hop : Nat} {request : Request} :
    inv w (.acquiring hop request) ->
    inv (w.onGranted hop request).1 (w.onGranted hop request).2
  refuse {w : World} {hop : Nat} {request : Request} (cause : Option TransportError) :
    inv w (.acquiring hop request) ->
    inv (w.note (.refused request.target cause)) (.acquiring hop request)
  unavailable {w : World} {hop : Nat} {request : Request} (e : TransportError) :
    inv w (.acquiring hop request) ->
    inv (w.onUnavailable k.caller k.reaction k.listeners e).1
      (w.onUnavailable k.caller k.reaction k.listeners e).2

namespace Upkeep

variable {k : Conditions} {allowed : List Action -> Prop} {inv : World -> Stage -> Prop}

theorem passage (u : Upkeep k allowed inv) :
    Passage k allowed (fun c hop request w => inv w (.exchanging c hop request)) inv where
  pass := u.pass
  act hactions _ hw := u.act hactions hw
  send := u.send
  answer := u.answer
  expire := u.expire
  ask := u.ask
  grant := u.grant
  refuse cause hw := u.unavailable _ (u.refuse cause hw)
  outOfTime hw := u.unavailable _ hw

/-- What is kept up by the loop, whatever its deadline, holds from the moment at which
a call is under way. -/
theorem inv_course {caller : Caller} {react : Reaction} {plot : Plot} {clockStart : Nat}
    {h : Hop} {rest : List Hop} {c : Connection} {request : Request} {w : World}
    (hupkeep : forall deadline,
      Upkeep ⟨caller, react, plot.listeners, deadline⟩ allowed inv)
    (hallowed : forall x, x ∈ h :: rest -> allowed x.acquireActions ∧ allowed x.actions)
    (hw : inv w (.exchanging c 0 request))
    (hlost : Session.deadline? clockStart request w = none ->
      inv w (.lost Session.deadlineFault)) :
    forall p, p ∈ Session.course caller react plot clockStart h rest c request w ->
      inv p.1 p.2 := by
  intro p hp
  have hstanding := Passage.standing_course (fun deadline => (hupkeep deadline).passage)
    hallowed hw hlost p hp
  rcases hstanding with hinv | ⟨c, hop, request, hstage, hinv⟩
  · exact hinv
  · rw [hstage]
    exact hinv

end Upkeep

theorem Session.launch_eq_underway {caller : Caller} {react : Reaction}
    {clockStart nextConnection : Nat} {plot : Plot} {request : Request} {hops : List Hop}
    {w : World} {worlds : List (World × Stage)}
    (hlaunch : launch caller react clockStart nextConnection plot request hops =
      .underway w worlds) :
    exists h rest, hops = h :: rest ∧
      w = withHooks caller react plot (firstConnected request nextConnection h).1 ∧
      worlds = course caller react plot clockStart h rest
        (firstConnected request nextConnection h).2 request w := by
  cases hops with
  | nil =>
      cases hlaunch
  | cons h rest =>
      cases hgrant : h.grant with
      | refusal e =>
          rw [launch_of_refusal hgrant] at hlaunch
          cases hlaunch
      | silence =>
          rw [launch_of_silence hgrant] at hlaunch
          cases hlaunch
      | connection =>
          rw [launch_of_connection hgrant] at hlaunch
          cases hlaunch
          exact ⟨h, rest, rfl, rfl, rfl⟩

def Session.Launch.worlds : Session.Launch -> List World
  | .unstarted _ w => [w]
  | .unanswered w => [w]
  | .underway w course => w :: course.map Prod.fst

/-- What holds before a call is under way, and from then on, holds of all worlds. -/
theorem Session.worlds_induction {inv : World -> Prop} {caller : Caller} {react : Reaction}
    {clockStart nextConnection : Nat} {plot : Plot} {request : Request} {hops : List Hop}
    (hopening : inv (opening request nextConnection))
    (hwait : forall time asked v, inv v -> inv { v with now := time, asked := asked })
    (hrefused : forall cause v, inv v -> inv (v.note (.refused request.target cause)))
    (hunderway : forall h w, inv (firstAnswer request nextConnection h) ->
      w = withHooks caller react plot (firstConnected request nextConnection h).1 ->
      inv w ∧ forall rest p,
        p ∈ course caller react plot clockStart h rest
          (firstConnected request nextConnection h).2 request w ->
        inv p.1) :
    forall w, w ∈ (launch caller react clockStart nextConnection plot request hops).worlds ->
      inv w := by
  intro w hw
  cases hops with
  | nil =>
      cases List.mem_singleton.mp hw
      exact hrefused none _ hopening
  | cons h rest =>
      have hanswer : inv (firstAnswer request nextConnection h) :=
        hwait h.acquireDelay 1 _ hopening
      cases hgrant : h.grant with
      | refusal e =>
          rw [launch_of_refusal hgrant] at hw
          cases List.mem_singleton.mp hw
          exact hrefused (some e) _ hanswer
      | silence =>
          rw [launch_of_silence hgrant] at hw
          cases List.mem_singleton.mp hw
          exact hanswer
      | connection =>
          rw [launch_of_connection hgrant] at hw
          rcases hunderway h _ hanswer rfl with ⟨hbegun, hcourse⟩
          rcases List.mem_cons.mp hw with rfl | hw
          · exact hbegun
          · rcases List.mem_map.mp hw with ⟨p, hp, rfl⟩
            exact hcourse rest p hp

/-!
## Plain calls

They serve where a call is needed about which nothing is special.
-/

namespace Session

def plainUrl (host : String) : Url :=
  ⟨"http", "", "", some (.named host), none, .segments [""], none, none⟩

def plainRequest (timeout : Option Duration) : Request where
  method := .get
  url := plainUrl "a.test"
  target := ⟨"http", "a.test", 80⟩
  version := .http11
  headers := .empty
  body := .empty
  followRedirects := true
  maxRedirects := 10
  timeout := timeout

def plainPlot : Plot where
  draft := ⟨.get, none, .http11, .empty, .empty, true, 10, none⟩
  hops := []
  listeners := .all
  hooks := 1
  transformed := false

def plainResponse : Response where
  status := .ok
  version := .http11
  headers := .empty
  body := []
  url := plainUrl "a.test"

def plainHop (delay : Nat) : Hop := ⟨0, [], .connection, delay, [], some .plainOk⟩

def meddlingCaller : Caller where
  policy := .never
  triggers := [⟨.release, 1, [.inject .closed, .poll]⟩,
    ⟨.complete, 1, [.inject .plainOk, .breakDown .other]⟩]
  transform _ := .ok .null

end Session
end HttpCall
