import HttpCall.Proofs.Handling.Notices
import HttpCall.Proofs.Redirect.Limit

/-!
# What a handling does with its connection

The handling of an event disposes of its connection in one of two ways: it gives it back,
once, and is done, or a redirect is followed and the connection is still held.  Which of
the two it is was planned when the event arrived, but is decided only after the listeners
were told, and these may have ended the call meanwhile.
-/

namespace HttpCall

def Entry.isReturnOf (c : Connection) : Entry -> Bool
  | released d => d = c
  | _ => false

theorem Entry.Notice.isReturnOf_eq_false {m : Moment} {e : Entry} (h : Notice m e)
    (c : Connection) : e.isReturnOf c = false := by
  cases h <;> rfl

namespace World

def returns (w : World) (c : Connection) : Nat := w.entries.countP (Entry.isReturnOf c)

/-- From one world to another a connection is given back so many times, and no number of a
connection is given out twice. -/
structure Returned (c : Connection) (times : Nat) (v w : World) : Prop where
  numbers : v.nextConnection <= w.nextConnection
  returns : w.returns c = v.returns c + times

/-- User code does not give back a connection that was handed out before it runs: it may
bring others and handle events on them, but this one is not its own. -/
def LeavesAlone (react : Reaction) (c : Connection) : Prop :=
  forall m v, c.id < v.nextConnection -> Returned c 0 v (react m v).1

section

variable {caller : Caller} {react : Reaction} {listeners : Listeners} {c : Connection}
  {request : Request} {u v w : World} {times : Nat}

theorem Returned.of_same (hnumbers : v.nextConnection <= w.nextConnection)
    (hjournal : w.journal = v.journal) : Returned c 0 v w :=
  ⟨hnumbers, by simp [World.returns, entries, hjournal]⟩

theorem Returned.refl (c : Connection) (w : World) : Returned c 0 w w :=
  .of_same (Nat.le_refl _) rfl

theorem Returned.trans {more : Nat} (huv : Returned c times u v) (hvw : Returned c more v w) :
    Returned c (times + more) u w where
  numbers := Nat.le_trans huv.numbers hvw.numbers
  returns := by rw [hvw.returns, huv.returns, Nat.add_assoc]

theorem Returned.of_note {e : Entry} (he : e.isReturnOf c = false) (w : World) :
    Returned c 0 w (w.note e) where
  numbers := Nat.le_refl _
  returns := by simp [World.returns, he]

theorem Returned.of_call (h : Returned c times v w) (call : Call) :
    Returned c times v { w with call := call } :=
  ⟨h.numbers, h.returns⟩

theorem Returned.used (h : Returned c times v w) (hc : c.id < v.nextConnection) :
    c.id < w.nextConnection :=
  Nat.lt_of_lt_of_le hc h.numbers

/-!
## Single steps
-/

theorem returned_fire (hreact : LeavesAlone react c) (m : Moment) {e : Entry}
    (he : e.isReturnOf c = false) (hc : c.id < w.nextConnection) :
    Returned c 0 w (w.fire react m e).1 :=
  (Returned.of_note he w).trans (hreact m _ hc)

theorem returned_settle (held : Option Connection) (o : Outcome) (w : World) :
    Returned c 0 w (w.settle held o).1 := by
  unfold settle
  split
  · rename_i call _
    exact ((Returned.refl c w).of_call call).trans (.of_note (e := .settled held) rfl _)
  · exact .refl c w

theorem returned_runHook (hreact : LeavesAlone react c) (o : Outcome) (hook : Hook)
    (hc : c.id < w.nextConnection) : Returned c 0 w (w.runHook caller react o hook) := by
  cases hook with
  | numbered n =>
      exact returned_fire hreact .complete rfl hc
  | transform =>
      exact .of_same (Nat.le_refl _) rfl

theorem returned_publish (hreact : LeavesAlone react c) (hc : c.id < w.nextConnection) :
    Returned c 0 w (w.publish caller react) := by
  apply @publish_induction caller react (fun v => Returned c 0 w v)
  · intro _
    exact .refl c w
  · intro o hooks call _
    exact ((Returned.refl c w).of_call call).trans (.of_note (e := .published) rfl _)
  · intro o _ _ _ hook v hv
    exact hv.trans (returned_runHook hreact o hook (hv.used hc))

theorem returned_release (hreact : LeavesAlone react c) (d : Connection)
    (hc : c.id < w.nextConnection) :
    Returned c (if d = c then 1 else 0) w (w.release react d).1 := by
  have hnoted : Returned c (if d = c then 1 else 0) w (w.note (.released d)) := by
    refine ⟨Nat.le_refl _, ?_⟩
    simp [World.returns, List.countP_cons, Entry.isReturnOf]
  exact hnoted.trans (hreact .release _ hc)

/-!
## Whole handlings
-/

theorem returned_outline (caller : Caller) (hreact : LeavesAlone react c) (d : Connection)
    (hc : c.id < u.nextConnection) :
    Outline caller react d (fun _ => Returned c 0 u) (Returned c 0 u)
      (fun _ => Returned c (if d = c then 1 else 0) u)
      (Returned c (if d = c then 1 else 0) u) where
  notice hnotice h :=
    h.trans (returned_fire hreact _ (hnotice.isReturnOf_eq_false c) (h.used hc))
  cookie _ h := h.of_call _
  settle o h := h.trans (returned_settle (some d) o _)
  follow h _ := h.of_call _
  release h := by
    have hreleased := h.trans (returned_release hreact d (h.used hc))
    rwa [Nat.zero_add] at hreleased
  publish h := h.trans (returned_publish hreact (h.used hc))
  leave h := h

theorem returned_handle_of_ne (caller : Caller) (hreact : LeavesAlone react c)
    (listeners : Listeners) {d : Connection} (hd : d ≠ c) (request : Request) (event : Event)
    (hc : c.id < w.nextConnection) :
    Returned c 0 w (w.handle caller react listeners d request event).1 := by
  have houtline := returned_outline caller hreact d hc
  rw [if_neg hd] at houtline
  exact houtline.kept listeners request event (.refl c w)

/-- What happens to the connection of a handling: nothing, if a redirect is followed or no
plan was made, and otherwise it is given back. -/
theorem returned_handle (caller : Caller) (hreact : LeavesAlone react c)
    (hc : c.id < w.nextConnection) (listeners : Listeners) (request : Request)
    (event : Event) :
    match w.handle caller react listeners c request event with
    | (v, .ok .done) => Returned c 1 w v
    | (v, .ok (.redirect _ _)) => Returned c 0 w v
    | (v, .error fault) =>
        plan caller.policy w.call.snapshot request event = .error fault ∧ v = w ∨
          Returned c 1 w v ∧ exists x, (release react c x).2 = some fault := by
  have houtline := returned_outline caller hreact c hc
  rw [if_pos rfl] at houtline
  rcases handle_cases caller react listeners c request event w with
    ⟨fault, hplan, hhandle⟩ |
      ⟨effects, _, ⟨v, location, status, hperform, hhandle⟩ | ⟨v, first, hperform, hhandle⟩⟩
  · rw [hhandle]
    exact Or.inl ⟨hplan, rfl⟩
  · have hperformed : Outline.Performed _ _ (perform react listeners c effects false w) :=
      houtline.performed listeners effects (Returned.refl c w)
    rw [hperform] at hperformed
    rw [hhandle]
    exact hperformed
  · have hperformed : Outline.Performed _ _ (perform react listeners c effects false w) :=
      houtline.performed listeners effects (Returned.refl c w)
    rw [hperform] at hperformed
    have hreleased : Returned c 1 w (v.release react c).1 := by
      have hgiven := hperformed.trans (returned_release hreact c (hperformed.used hc))
      rwa [if_pos rfl] at hgiven
    have hended : Returned c 1 w ((v.release react c).1.publishIf first caller react) :=
      houtline.ended_publishIf hreleased
    rw [hhandle]
    cases hbroken : (v.release react c).2 with
    | none => exact hended
    | some fault => exact Or.inr ⟨hended, v, hbroken⟩

/-!
## User code
-/

theorem returned_inject (caller : Caller) (hreact : LeavesAlone react c) (reply : Reply)
    (hc : c.id < w.nextConnection) : Returned c 0 w (w.inject caller react reply).1 := by
  have hconnected : Returned c 0 w (w.connect w.request.target).1 :=
    .of_same (Nat.le_succ _) rfl
  have hbrought := hconnected.trans
    (.of_note (e := .injecting (w.connect w.request.target).2) rfl _)
  have hne : (w.connect w.request.target).2 ≠ c := fun heq => Nat.ne_of_gt hc (heq ▸ rfl)
  have hhandled := hbrought.trans (returned_handle_of_ne caller hreact .none hne w.request
    (reply.toEvent w.request) (hbrought.used hc))
  unfold inject
  dsimp only [connect] at hhandled ⊢
  split
  · rename_i v step heq
    rw [heq] at hhandled
    exact hhandled.trans (.of_note rfl v)
  · rename_i v fault heq
    rw [heq] at hhandled
    exact hhandled

theorem returned_registerNumbered (caller : Caller) (hreact : LeavesAlone react c)
    (hc : c.id < w.nextConnection) : Returned c 0 w (w.registerNumbered caller react) := by
  unfold registerNumbered register
  split
  · have hnumbered : Returned c 0 w { w with nextHook := w.nextHook + 1 } :=
      .of_same (Nat.le_refl _) rfl
    exact hnumbered.trans (returned_runHook hreact _ _ hc)
  · exact .of_same (Nat.le_refl _) rfl

theorem returned_act (hreact : LeavesAlone react c) (actions : List Action)
    (hc : c.id < w.nextConnection) : Returned c 0 w (w.act caller react actions).1 := by
  induction actions generalizing w with
  | nil =>
      exact .refl c w
  | cons a rest ih =>
      cases a with
      | inject reply =>
          have hinjected := returned_inject caller hreact reply hc
          unfold act
          split
          · rename_i v heq
            rw [heq] at hinjected
            exact hinjected.trans (ih (hinjected.used hc))
          · rename_i v fault heq
            rw [heq] at hinjected
            exact hinjected
      | hook =>
          have hregistered := returned_registerNumbered caller hreact hc
          exact hregistered.trans (ih (hregistered.used hc))
      | poll =>
          have hpolled : Returned c 0 w (w.note (.polled w.call.result?)) := .of_note rfl w
          exact hpolled.trans (ih (hpolled.used hc))
      | breakDown fault =>
          exact .refl c w

theorem leavesAlone_reaction (caller : Caller) (c : Connection) :
    LeavesAlone caller.reaction c := by
  have hdepth : forall depth, LeavesAlone (caller.reactionAt depth) c := by
    intro depth
    induction depth with
    | zero =>
        intro m v _
        exact .refl c v
    | succ depth ih =>
        intro m v hv
        exact returned_act ih _ hv
  exact hdepth caller.triggers.length

/-!
## Following a redirect
-/

def counting (w : World) : World :=
  { w with call := { w.call with redirects := w.call.redirects + 1 } }

theorem perform_follow_iff {location : Url} {status : Status} {rest : List Effect}
    {first : Bool} {destination : Url} {found : Status} {u : World} :
    perform react listeners c (.follow destination found :: rest) first u =
        (v, .follow location status) <->
      destination = location ∧ found = status ∧ u.call.outcome = none ∧ v = u.counting := by
  unfold perform
  cases houtcome : u.call.outcome with
  | some o =>
      have hcount : u.call.countRedirect? = none := by
        simp only [Call.countRedirect?, houtcome]
      rw [hcount]
      constructor
      · intro h
        cases h
      · rintro ⟨_, _, h, _⟩
        cases h
  | none =>
      have hcount : u.call.countRedirect? =
          some { u.call with redirects := u.call.redirects + 1 } := by
        simp only [Call.countRedirect?, houtcome]
      rw [hcount]
      constructor
      · intro h
        cases h
        exact ⟨rfl, rfl, rfl, rfl⟩
      · rintro ⟨rfl, rfl, _, rfl⟩
        rfl

/-- The plan of a response is carried out to a redirect if it ends with one, no listener
breaks down, and no outcome is recorded then. -/
theorem perform_response_iff {r : Response} {location? : Option Url} {location : Url}
    {status : Status} :
    perform react listeners c (Plan.notices r ++ Plan.conclusion r location?) false w =
        (v, .follow location status) <->
      location? = some location ∧ status = r.status ∧
        exists u, w.tellAll react listeners (Plan.notices r) = (u, none) ∧
          u.call.outcome = none ∧ v = u.counting := by
  rw [perform_telling fun _ => Plan.isTelling_of_mem_notices]
  rcases w.tellAll react listeners (Plan.notices r) with ⟨u, _ | fault⟩
  · cases location? with
    | none =>
        simp [afterListener, Plan.conclusion, perform]
    | some destination =>
        show perform react listeners c [.follow destination r.status] false u = _ <-> _
        rw [perform_follow_iff]
        constructor
        · rintro ⟨rfl, rfl, houtcome, hv⟩
          exact ⟨rfl, rfl, u, rfl, houtcome, hv⟩
        · rintro ⟨hlocation, hstatus, x, hx, houtcome, hv⟩
          cases hx
          exact ⟨Option.some.inj hlocation, hstatus.symm, houtcome, hv⟩
  · simp [afterListener]

theorem handle_eq_redirect_iff {event : Event} {location : Url} {status : Status} :
    w.handle caller react listeners c request event = (v, .ok (.redirect location status)) <->
      exists r, event = .response r ∧ status = r.status ∧ w.call.phase = .pending ∧
        caller.policy.consult r request w.call.redirects = .ok (some location) ∧
        exists u, w.tellAll react listeners (Plan.notices r) = (u, none) ∧
          u.call.outcome = none ∧ v = u.counting := by
  constructor
  · intro hredirect
    rcases leads_of_handle (congrArg Prod.snd hredirect) with ⟨r, rfl, hstatus, _⟩
    rcases handle_cases caller react listeners c request (.response r) w with
      ⟨fault, _, hhandle⟩ | ⟨effects, hplan, ⟨x, found, answer, hperform, hhandle⟩ |
        ⟨x, first, _, hhandle⟩⟩
    · cases hhandle.symm.trans hredirect
    · cases hhandle.symm.trans hredirect
      rcases plan_response_eq_ok hplan with ⟨location?, hdestination, rfl⟩
      rcases perform_response_iff.mp hperform with ⟨rfl, _, htold⟩
      rcases Plan.destination_eq_some.mp hdestination with ⟨hpending, hconsult⟩
      exact ⟨r, rfl, hstatus, hpending, hconsult, htold⟩
    · have hresult := congrArg Prod.snd (hhandle.symm.trans hredirect)
      dsimp only at hresult
      split at hresult <;> cases hresult
  · rintro ⟨r, rfl, hstatus, hpending, hconsult, htold⟩
    have hdestination : Plan.destination caller.policy w.call.snapshot request r =
        .ok (some location) :=
      Plan.destination_eq_some.mpr ⟨hpending, hconsult⟩
    have hplan : plan caller.policy w.call.snapshot request (.response r) =
        .ok (Plan.notices r ++ Plan.conclusion r (some location)) := by
      simp only [plan, hdestination]
      rfl
    have hperform : perform react listeners c
        (Plan.notices r ++ Plan.conclusion r (some location)) false w =
          (v, .follow location status) :=
      perform_response_iff.mpr ⟨rfl, hstatus, htold⟩
    unfold handle
    rw [hplan]
    dsimp only
    rw [hperform]

end

/-- A handling gives its connection back exactly once and is done, or it follows a redirect
and has not given it back: the loop then has this connection to give back, and goes on from
the same hop.  It follows one exactly if the event is a response, the call was pending when
it arrived and the policy, asked with the count of that moment, said where to go, no
listener that was told broke down, and no outcome was recorded by then; all that changes
in that moment is the count, by one.  If it does not return, the policy broke down, and
nothing was done, or the release did. -/
theorem disposed_of_once (caller : Caller) {react : Reaction} {w : World} {c : Connection}
    (hreact : LeavesAlone react c) (hc : c.id < w.nextConnection)
    (listeners : Listeners) (request : Request) (event : Event) :
    (match w.handle caller react listeners c request event with
      | (v, .ok .done) => v.returns c = w.returns c + 1
      | (v, .ok (.redirect location status)) =>
          v.returns c = w.returns c ∧
            forall hop, w.onEvent caller react listeners c hop request event =
              v.releaseThen react c (.acquiring hop (request.redirected location status))
      | (v, .error fault) =>
          plan caller.policy w.call.snapshot request event = .error fault ∧ v = w ∨
            v.returns c = w.returns c + 1 ∧ exists x, (release react c x).2 = some fault) ∧
    forall v location status,
      w.handle caller react listeners c request event =
          (v, .ok (.redirect location status)) <->
        exists r, event = .response r ∧ status = r.status ∧ w.call.phase = .pending ∧
          caller.policy.consult r request w.call.redirects = .ok (some location) ∧
          exists u, w.tellAll react listeners (Plan.notices r) = (u, none) ∧
            u.call.outcome = none ∧ v = u.counting := by
  refine ⟨?_, fun _ _ _ => handle_eq_redirect_iff⟩
  have hreturned := returned_handle caller hreact hc listeners request event
  rcases hresult : w.handle caller react listeners c request event with
    ⟨v, fault | _ | ⟨location, status⟩⟩ <;> rw [hresult] at hreturned
  · refine hreturned.imp_right ?_
    rintro ⟨hended, hbroken⟩
    exact ⟨hended.returns, hbroken⟩
  · exact hreturned.returns
  · refine ⟨hreturned.returns, ?_⟩
    intro hop
    unfold onEvent
    rw [hresult]

end World

namespace Session

def hastyCaller : Caller where
  policy := .always (plainUrl "b.test") none
  triggers := [⟨.headers, 1, [.inject .closed]⟩]
  transform _ := .ok .null

/-- A redirect was planned, but the call is over by then: the connection is given back. -/
theorem disposed_of_once_of_stale_redirect :
    (hastyCaller.policy.consult plainResponse
        (plainRequest none) 0 = .ok (some (plainUrl "b.test"))) ∧
      exists v,
        World.handle hastyCaller hastyCaller.reaction .all
            (firstConnected (plainRequest none) 1 (plainHop 5)).2 (plainRequest none)
            (.response plainResponse)
            (firstConnected (plainRequest none) 1 (plainHop 5)).1 = (v, .ok .done) ∧
          v.returns (firstConnected (plainRequest none) 1 (plainHop 5)).2 =
            (firstConnected (plainRequest none) 1 (plainHop 5)).1.returns
              (firstConnected (plainRequest none) 1 (plainHop 5)).2 + 1 := by
  have hissued : (firstConnected (plainRequest none) 1 (plainHop 5)).2.id <
      (firstConnected (plainRequest none) 1 (plainHop 5)).1.nextConnection := by
    decide
  have hdone : World.handle hastyCaller hastyCaller.reaction .all
      (firstConnected (plainRequest none) 1 (plainHop 5)).2 (plainRequest none)
      (.response plainResponse)
      (firstConnected (plainRequest none) 1 (plainHop 5)).1 = (_, .ok .done) :=
    Prod.ext rfl rfl
  have hdisposed := (World.disposed_of_once hastyCaller
    (World.leavesAlone_reaction hastyCaller _) hissued .all
    (plainRequest none) (.response plainResponse)).left
  rw [hdone] at hdisposed
  exact ⟨rfl, _, hdone, hdisposed⟩

end Session
end HttpCall
