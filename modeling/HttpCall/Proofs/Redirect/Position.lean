import HttpCall.Proofs.Handling.Drift
import HttpCall.Proofs.Redirect.Itinerary

/-!
# The position of a call

Of all that a world holds, little decides on where a call goes: the time, the redirects
that were counted, the outcome, and what was acquired and sent until then.  User code
that handles no events for the call leaves all of it as it is, so the handling of an
event moves the call on just as the verdict on the event says.
-/

namespace HttpCall

inductive Move where
  | acquired (target : Target)
  | sent (request : Request)
deriving DecidableEq, Repr

def Entry.move? : Entry -> Option Move
  | acquired c => some (.acquired c.target)
  | sent request => some (.sent request)
  | _ => none

theorem Entry.move?_of_isOfLoop_eq_false {e : Entry} (h : e.isOfLoop = false) :
    e.move? = none := by
  cases e <;> first | rfl | cases h

def Effect.isNotice : Effect -> Bool
  | notifyHeaders _ | recordCookie _ | notifyResponse _ | notifyException _ => true
  | _ => false

structure Position where
  now : Nat
  redirects : Nat
  outcome : Option Outcome
  published : Bool
  moves : List Move

namespace World

def moves (w : World) : List Move := (w.entries.filterMap Entry.move?).reverse

def position (w : World) : Position :=
  ⟨w.now, w.call.redirects, w.call.outcome, w.call.published, w.moves⟩

/-- The call is pending, and nothing is about to be published. -/
structure Open (w : World) : Prop where
  outcome : w.call.outcome = none
  published : w.call.published = false

theorem Open.of_position {v w : World} (h : v.Open) (hw : w.position = v.position) :
    w.Open :=
  ⟨(congrArg Position.outcome hw).trans h.outcome,
    (congrArg Position.published hw).trans h.published⟩

theorem Open.visible {w : World} (h : w.Open) : w.call.visible = none :=
  Call.visible_eq_none_of_not_published h.published

theorem moves_note (w : World) (e : Entry) :
    (w.note e).moves = w.moves ++ e.move?.toList := by
  unfold moves
  cases hmove : e.move? <;> simp [hmove]

theorem moves_note_of_none (w : World) {e : Entry} (he : e.move? = none) :
    (w.note e).moves = w.moves := by
  rw [moves_note, he]
  exact List.append_nil w.moves

theorem position_note (w : World) {e : Entry} (he : e.move? = none) :
    (w.note e).position = w.position := by
  simp only [position, moves_note_of_none w he]
  rfl

/-!
## User code that keeps out of it
-/

def Aloof (react : Reaction) : Prop := forall m w, (react m w).1.position = w.position

/-- No listener breaks down, and neither does the pool when it takes a connection back.
For the exception listener and the hooks it makes no difference. -/
def Returning (react : Reaction) : Prop :=
  forall m w, m ≠ .exception -> m ≠ .complete -> (react m w).2 = none

section Handling

variable {caller : Caller} {react : Reaction} {w : World}

theorem position_fire (hreact : Aloof react) (m : Moment) {e : Entry} (he : e.move? = none)
    (w : World) : (w.fire react m e).1.position = w.position :=
  (hreact m _).trans (position_note w he)

theorem position_fireIf (hreact : Aloof react) (attached : Bool) (m : Moment) {e : Entry}
    (he : e.move? = none) (w : World) :
    (w.fireIf attached react m e).1.position = w.position := by
  cases attached with
  | false =>
      rfl
  | true =>
      exact position_fire hreact m he w

theorem afterListener_returns (hreturns : Returning react) (listeners : Listeners)
    (c : Connection) (attached : Bool) {m : Moment} (hexception : m ≠ .exception)
    (hcomplete : m ≠ .complete) (e : Entry) (w : World) (next : World -> World × Ending) :
    afterListener react listeners c next (w.fireIf attached react m e) =
      next (w.fireIf attached react m e).1 := by
  cases attached with
  | false =>
      rfl
  | true =>
      have hnone : (w.fire react m e).2 = none := hreturns m _ hexception hcomplete
      have hfire : w.fireIf true react m e = ((w.fire react m e).1, none) :=
        Prod.ext rfl hnone
      rw [hfire]
      rfl

theorem afterListener_tells (hreact : Aloof react) (hreturns : Returning react)
    (listeners : Listeners) (c : Connection) (attached : Bool) {m : Moment}
    (hexception : m ≠ .exception) (hcomplete : m ≠ .complete) {e : Entry}
    (he : e.move? = none) {next finish : World -> World × Ending} (w : World)
    (hnext : forall x, exists v, v.position = x.position ∧ next x = finish v) :
    exists v, v.position = w.position ∧
      afterListener react listeners c next (w.fireIf attached react m e) = finish v := by
  rcases hnext (w.fireIf attached react m e).1 with ⟨v, hv, hfinish⟩
  refine ⟨v, hv.trans (position_fireIf hreact attached m he w), ?_⟩
  rw [← hfinish]
  exact afterListener_returns hreturns listeners c attached hexception hcomplete e w next

theorem position_drift :
    Drift (fun _ => False) (fun _ => False) (fun v w => w.position = v.position) where
  refl _ := rfl
  trans huv hvw := hvw.trans huv
  note w he := position_note w
    (Entry.move?_of_isOfLoop_eq_false (he.elim Entry.isOfLoop_of_isCommon False.elim))
  access w ha := by
    rcases access_of_isCommon (ha.resolve_right id) w with ⟨hooks, heq⟩
    rw [heq]
    rfl
  count _ _ _ _ := rfl

theorem Conduct.aloof (h : Conduct caller False react) : Aloof react :=
  position_drift.of_conduct False.elim h

theorem position_publish (hreact : Aloof react) {o : Outcome}
    (houtcome : w.call.outcome = some o) (hpublished : w.call.published = false) :
    (w.publish caller react).position = { w.position with published := true } := by
  unfold publish
  split
  · rename_i first hooks call hpublish
    rcases Call.of_publish? hpublish with ⟨_, rfl⟩
    have hhook : forall hook (v : World),
        v.position = { w.position with published := true } ->
        (v.runHook caller react first hook).position = { w.position with published := true } :=
      fun hook v hv => (position_drift.runHook hreact first hook v).trans hv
    exact @foldl_runHook_induction caller react
      (fun v => v.position = { w.position with published := true }) first hhook hooks _
      (position_note _ rfl)
  · rename_i hnothing
    simp only [Call.publish?, houtcome, hpublished] at hnothing
    cases hnothing

/-!
## Verdicts
-/

theorem settle_of_open (h : w.Open) (held : Option Connection) (o : Outcome) :
    (w.settle held o).1.position = { w.position with outcome := some o } ∧
      (w.settle held o).2 = true := by
  unfold settle Call.settle?
  rw [h.outcome]
  exact ⟨position_note _ rfl, rfl⟩

theorem perform_notices (hreact : Aloof react) (hreturns : Returning react)
    (listeners : Listeners) (c : Connection) (notices rest : List Effect) (first : Bool)
    (w : World) (hnotices : forall effect, effect ∈ notices -> effect.isNotice = true) :
    exists v, v.position = w.position ∧
      perform react listeners c (notices ++ rest) first w =
        perform react listeners c rest first v := by
  induction notices generalizing w with
  | nil =>
      exact ⟨w, rfl, rfl⟩
  | cons effect notices ih =>
      have hrest := fun x => ih x (fun e he => hnotices e (List.mem_cons_of_mem effect he))
      have hnotice := hnotices effect List.mem_cons_self
      cases effect with
      | notifyHeaders h =>
          exact afterListener_tells hreact hreturns listeners c listeners.headers
            Moment.noConfusion Moment.noConfusion rfl w hrest
      | recordCookie k =>
          exact afterListener_tells hreact hreturns listeners c listeners.cookie
            Moment.noConfusion Moment.noConfusion rfl { w with call := w.call.addCookie k } hrest
      | notifyResponse r =>
          exact afterListener_tells hreact hreturns listeners c listeners.response
            Moment.noConfusion Moment.noConfusion rfl w hrest
      | notifyException e =>
          rcases hrest (w.notifyException react listeners e) with ⟨v, hv, hperform⟩
          exact ⟨v, hv.trans (position_fireIf hreact _ _ rfl w), hperform⟩
      | follow location status =>
          cases hnotice
      | succeed r =>
          cases hnotice
      | fail f =>
          cases hnotice
      | release =>
          cases hnotice

theorem release_returns (hreact : Aloof react) (hreturns : Returning react) (c : Connection)
    (w : World) :
    (w.release react c).1.position = w.position ∧ (w.release react c).2 = none :=
  ⟨position_drift.release hreact c w, hreturns .release _ Moment.noConfusion
    Moment.noConfusion⟩

theorem position_publishIf (hreact : Aloof react) (h : w.Open) (held : Option Connection)
    (o : Outcome) {v : World} (hv : v.position = (w.settle held o).1.position) :
    (v.publishIf true caller react).position =
      { w.position with outcome := some o, published := true } := by
  rw [(settle_of_open h held o).left] at hv
  have houtcome : v.call.outcome = some o := congrArg Position.outcome hv
  have hpublished : v.call.published = false :=
    (congrArg Position.published hv).trans h.published
  rw [show v.publishIf true caller react = v.publish caller react from rfl,
    position_publish hreact houtcome hpublished, hv]

theorem handle_of_settle (hreact : Aloof react) (hreturns : Returning react)
    (listeners : Listeners) (c : Connection) {request : Request} {event : Event} (h : w.Open)
    {notices : List Effect} (hnotices : forall e, e ∈ notices -> e.isNotice = true)
    {finish : Effect} {o : Outcome} (hfinish : forall v,
      perform react listeners c [finish, .release] false v =
        ((v.settle c o).1, .release (v.settle c o).2))
    (hplan : plan caller.policy w.call.snapshot request event =
      .ok (notices ++ [finish, .release])) :
    (w.handle caller react listeners c request event).1.position =
        { w.position with outcome := some o, published := true } ∧
      (w.handle caller react listeners c request event).2 = .ok .done := by
  rcases perform_notices hreact hreturns listeners c notices [finish, .release] false w
    hnotices with ⟨v, hv, hperform⟩
  have hopen : v.Open := h.of_position hv
  rcases release_returns hreact hreturns c (v.settle c o).1 with ⟨hreleased, hnone⟩
  have hrelease : (v.settle c o).1.release react c =
      (((v.settle c o).1.release react c).1, none) :=
    Prod.ext rfl hnone
  unfold handle
  rw [hplan]
  dsimp only
  rw [hperform, hfinish, (settle_of_open hopen c o).right]
  dsimp only
  rw [hrelease]
  refine ⟨?_, rfl⟩
  rw [← hv]
  exact position_publishIf hreact hopen c o hreleased

theorem handle_of_follow (hreact : Aloof react) (hreturns : Returning react)
    (listeners : Listeners) (c : Connection) {request : Request} {event : Event} (h : w.Open)
    {notices : List Effect} (hnotices : forall e, e ∈ notices -> e.isNotice = true)
    {location : Url} {status : Status}
    (hplan : plan caller.policy w.call.snapshot request event =
      .ok (notices ++ [.follow location status])) :
    (w.handle caller react listeners c request event).1.position =
        { w.position with redirects := w.call.redirects + 1 } ∧
      (w.handle caller react listeners c request event).2 =
        .ok (.redirect location status) := by
  rcases perform_notices hreact hreturns listeners c notices [.follow location status] false
    w hnotices with ⟨v, hv, hperform⟩
  have hnone : v.call.outcome = none := (h.of_position hv).outcome
  have hcount : v.call.countRedirect? =
      some { v.call with redirects := v.call.redirects + 1 } := by
    simp only [Call.countRedirect?, hnone]
  unfold handle
  rw [hplan]
  dsimp only
  rw [hperform, perform, hcount]
  refine ⟨?_, rfl⟩
  rw [← show v.call.redirects = w.call.redirects from congrArg Position.redirects hv, ← hv]
  rfl

theorem isNotice_of_mem_notices {response : Response} {e : Effect}
    (he : e ∈ Plan.notices response) : e.isNotice = true := by
  unfold Plan.notices at he
  rcases List.mem_cons.mp he with rfl | he
  · rfl
  · rcases List.mem_append.mp he with he | he
    · rcases List.mem_map.mp he with ⟨k, _, rfl⟩
      rfl
    · cases List.mem_singleton.mp he
      rfl

/-- The handling of an event does what the verdict says. -/
theorem handle_verdict (caller : Caller) (hreact : Aloof react)
    (hreturns : Returning react) (listeners : Listeners) (c : Connection)
    (request : Request) (event : Event) (h : w.Open) :
    match verdict caller.policy request w.call.redirects event with
    | .settle o =>
        (w.handle caller react listeners c request event).1.position =
            { w.position with outcome := some o, published := true } ∧
          (w.handle caller react listeners c request event).2 = .ok .done
    | .follow location status =>
        (w.handle caller react listeners c request event).1.position =
            { w.position with redirects := w.call.redirects + 1 } ∧
          (w.handle caller react listeners c request event).2 =
            .ok (.redirect location status)
    | .lost fault =>
        w.handle caller react listeners c request event = (w, .error fault) := by
  have hpending : w.call.phase = .pending := by
    simp [Call.phase, h.visible]
  have hnone : forall e : Effect, e ∈ [] -> e.isNotice = true :=
    fun e he => absurd he List.not_mem_nil
  cases event with
  | closed =>
      have hplan : plan caller.policy w.call.snapshot request .closed =
          .ok ([] ++ [.fail .connectionClosed, .release]) := by
        simp [plan, Call.snapshot, hpending]
      exact handle_of_settle hreact hreturns listeners c h hnone (fun _ => rfl) hplan
  | error e =>
      have hnotice : forall effect : Effect, effect ∈ [.notifyException e] ->
          effect.isNotice = true := by
        intro effect heffect
        cases List.mem_singleton.mp heffect
        rfl
      exact handle_of_settle hreact hreturns listeners c h hnotice (fun _ => rfl) rfl
  | response response =>
      have hnotices : forall e, e ∈ Plan.notices response -> e.isNotice = true :=
        fun e => isNotice_of_mem_notices
      have hplan : plan caller.policy w.call.snapshot request (.response response) =
          (caller.policy.consult response request w.call.redirects).map fun location =>
            Plan.notices response ++ Plan.conclusion response location := by
        simp only [plan, Plan.destination, Call.snapshot, hpending, if_true]
      unfold verdict
      dsimp only
      cases hconsult : caller.policy.consult response request w.call.redirects with
      | error fault =>
          rw [hconsult] at hplan
          simp only [handle, hplan, Except.map]
      | ok location? =>
          rw [hconsult] at hplan
          cases location? with
          | none =>
              exact handle_of_settle hreact hreturns listeners c h hnotices (fun _ => rfl)
                hplan
          | some location =>
              exact handle_of_follow hreact hreturns listeners c h hnotices hplan

/-!
## Blocks of the loop
-/

/-- Where the loop goes from a hop, by the verdict on its event. -/
theorem onEvent_verdict (caller : Caller) (hreact : Aloof react)
    (hreturns : Returning react) (listeners : Listeners) (c : Connection) (hop : Nat)
    (request : Request) (event : Event) (h : w.Open) :
    match verdict caller.policy request w.call.redirects event with
    | .settle o =>
        (w.onEvent caller react listeners c hop request event).1.position =
            { w.position with outcome := some o, published := true } ∧
          (w.onEvent caller react listeners c hop request event).2 = .over
    | .follow location status =>
        (w.onEvent caller react listeners c hop request event).1.position =
            { w.position with redirects := w.call.redirects + 1 } ∧
          (w.onEvent caller react listeners c hop request event).2 =
            .acquiring hop (request.redirected location status)
    | .lost fault =>
        w.onEvent caller react listeners c hop request event = (w, .lost fault) := by
  have hhandle := handle_verdict caller hreact hreturns listeners c request event h
  unfold onEvent
  cases hverdict : verdict caller.policy request w.call.redirects event with
  | lost fault =>
      rw [hverdict] at hhandle
      dsimp only at hhandle ⊢
      rw [hhandle]
  | settle o =>
      rw [hverdict] at hhandle
      rcases hresult : w.handle caller react listeners c request event with ⟨v, result⟩
      rw [hresult] at hhandle
      rcases hhandle with ⟨hposition, rfl⟩
      exact ⟨hposition, rfl⟩
  | follow location status =>
      rw [hverdict] at hhandle
      rcases hresult : w.handle caller react listeners c request event with ⟨v, result⟩
      rw [hresult] at hhandle
      rcases hhandle with ⟨hposition, rfl⟩
      rcases release_returns hreact hreturns c v with ⟨hreleased, hnone⟩
      dsimp only
      unfold releaseThen
      rw [show v.release react c = ((v.release react c).1, none) from Prod.ext rfl hnone]
      exact ⟨hreleased.trans hposition, rfl⟩

theorem position_onUnavailable (caller : Caller) (hreact : Aloof react) (listeners : Listeners)
    (e : TransportError) (h : w.Open) :
    (w.onUnavailable caller react listeners e).1.position =
        { w.position with
          outcome := some (.error (.transport e.message)), published := true } ∧
      (w.onUnavailable caller react listeners e).2 = .over := by
  have hnotified : (w.notifyException react listeners e).position = w.position :=
    position_fireIf hreact listeners.exception .exception rfl w
  have hopen := h.of_position hnotified
  refine ⟨?_, rfl⟩
  unfold onUnavailable
  dsimp only
  rw [(settle_of_open hopen none (.error (.transport e.message))).right, ← hnotified]
  exact position_publishIf hreact hopen none (.error (.transport e.message)) rfl

end Handling
end World
end HttpCall
