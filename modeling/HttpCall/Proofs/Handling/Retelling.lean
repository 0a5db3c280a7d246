import HttpCall.Proofs.Handling.Course

/-!
# Calls told differently

A retelling of a call changes its requests in ways that decide nothing, and may leave out
what the pool said when it refused a connection.  If the policy and user code take no
notice of that, then whatever is done on a retold call is what is done on the call, retold.
-/

namespace HttpCall

structure Retelling where
  request : Request -> Request
  refusals : Bool
  url (q : Request) : (request q).url = q.url
  target (q : Request) : (request q).target = q.target
  followRedirects (q : Request) : (request q).followRedirects = q.followRedirects
  maxRedirects (q : Request) : (request q).maxRedirects = q.maxRedirects
  redirected (q : Request) (location : Url) (status : Status) :
    (request q).redirected location status = request (q.redirected location status)

namespace Retelling

def entry (r : Retelling) : Entry -> Option Entry
  | .sent q => some (.sent (r.request q))
  | .refused target cause => if r.refusals then some (.refused target cause) else none
  | e => some e

def stamped (r : Retelling) (s : Stamped) : Option Stamped :=
  (r.entry s.entry).map fun e => { s with entry := e }

def stage (r : Retelling) : Stage -> Stage
  | .exchanging c hop q => .exchanging c hop (r.request q)
  | .acquiring hop q => .acquiring hop (r.request q)
  | stage => stage

end Retelling

def World.retold (r : Retelling) (w : World) : World :=
  { w with journal := w.journal.filterMap r.stamped, request := r.request w.request }

namespace Retelling

def on {α : Type} (r : Retelling) (p : World × α) : World × α := (p.1.retold r, p.2)

def block (r : Retelling) (p : World × Stage) : World × Stage := (p.1.retold r, r.stage p.2)

/-- User code does the same on a call that is retold. -/
def Unnoticed (r : Retelling) (react : Reaction) : Prop :=
  forall m w, react m (w.retold r) = r.on (react m w)

/-- A policy decides the same. -/
def Indifferent (r : Retelling) (policy : Policy) : Prop :=
  forall response q count, policy response (r.request q) count = policy response q count

variable {r : Retelling} {policy : Policy}

theorem plan_request (h : r.Indifferent policy) (snapshot : Snapshot) (q : Request)
    (event : Event) : plan policy snapshot (r.request q) event = plan policy snapshot q event := by
  cases event with
  | response response =>
      simp only [plan, Plan.destination, Policy.consult, r.followRedirects, r.maxRedirects,
        h response q]
  | closed =>
      rfl
  | error e =>
      rfl

theorem toEvent_request (q : Request) (reply : Reply) :
    reply.toEvent (r.request q) = reply.toEvent q := by
  cases reply with
  | response status version headers body url =>
      simp only [Reply.toEvent, r.url]
  | closed =>
      rfl
  | error e =>
      rfl

end Retelling

namespace World

section

variable {r : Retelling} {caller : Caller} {react : Reaction} {w : World}

@[simp] theorem call_retold (r : Retelling) (w : World) : (w.retold r).call = w.call := rfl

theorem retold_note (e : Entry) {e' : Entry} (he : r.entry e = some e') (w : World) :
    (w.note e).retold r = (w.retold r).note e' := by
  have hstamped : r.stamped ⟨w.now, w.view, e⟩ = some ⟨w.now, w.view, e'⟩ := by
    simp [Retelling.stamped, he]
  simp only [retold, note, List.filterMap_cons_some hstamped]
  rfl

theorem retold_note_of_untold (e : Entry) (he : r.entry e = none) (w : World) :
    (w.note e).retold r = w.retold r := by
  have hstamped : r.stamped ⟨w.now, w.view, e⟩ = none := by
    simp [Retelling.stamped, he]
  simp only [retold, note, List.filterMap_cons_none hstamped]

theorem refused_retold (r : Retelling) (hrefusals : r.refusals = true) (q : Request)
    (cause : Option TransportError) (w : World) :
    (w.retold r).note (.refused (r.request q).target cause) =
      (w.note (.refused q.target cause)).retold r := by
  have hentry : r.entry (.refused q.target cause) = some (.refused q.target cause) :=
    if_pos hrefusals
  rw [r.target, retold_note _ hentry]

theorem count_retold (r : Retelling) (w : World) (m : Moment) :
    (w.retold r).count m = w.count m := by
  unfold count retold
  rw [List.countP_filterMap]
  apply List.countP_congr
  intro s _
  cases hentry : s.entry with
  | refused target cause =>
      cases hrefusals : r.refusals <;>
        simp [Retelling.stamped, Retelling.entry, hentry, hrefusals, Moment.ofEntry?]
  | _ =>
      simp [Retelling.stamped, Retelling.entry, hentry, Moment.ofEntry?]

/-!
### Listeners and hooks
-/

theorem fire_retold (hreact : r.Unnoticed react) (m : Moment) (e : Entry)
    (he : r.entry e = some e) (w : World) :
    (w.retold r).fire react m e = r.on (w.fire react m e) := by
  unfold fire
  rw [← retold_note e he, hreact]

theorem fireIf_retold (hreact : r.Unnoticed react) (attached : Bool) (m : Moment) (e : Entry)
    (he : r.entry e = some e) (w : World) :
    (w.retold r).fireIf attached react m e = r.on (w.fireIf attached react m e) := by
  cases attached with
  | false =>
      rfl
  | true =>
      exact fire_retold hreact m e he w

theorem notifyException_retold (hreact : r.Unnoticed react) (listeners : Listeners)
    (e : TransportError) (w : World) :
    (w.retold r).notifyException react listeners e =
      (w.notifyException react listeners e).retold r := by
  unfold notifyException
  rw [fireIf_retold hreact _ _ (.exception e) rfl]
  rfl

theorem runHook_retold (hreact : r.Unnoticed react) (o : Outcome) (hook : Hook) (w : World) :
    (w.retold r).runHook caller react o hook = (w.runHook caller react o hook).retold r := by
  cases hook with
  | numbered n =>
      exact congrArg Prod.fst (fire_retold hreact .complete (.completed n o) rfl w)
  | transform =>
      rfl

theorem register_retold (hreact : r.Unnoticed react) (hook : Hook) (w : World) :
    (w.retold r).register caller react hook = (w.register caller react hook).retold r := by
  unfold register
  rw [call_retold]
  cases w.call.visible with
  | some o =>
      exact runHook_retold hreact o hook w
  | none =>
      rfl

theorem registerNumbered_retold (hreact : r.Unnoticed react) (w : World) :
    (w.retold r).registerNumbered caller react = (w.registerNumbered caller react).retold r :=
  register_retold hreact (.numbered w.nextHook) { w with nextHook := w.nextHook + 1 }

theorem foldl_runHook_retold (hreact : r.Unnoticed react) (o : Outcome) (hooks : List Hook)
    (w : World) : hooks.foldl (runHook caller react o) (w.retold r) =
      (hooks.foldl (runHook caller react o) w).retold r := by
  induction hooks generalizing w with
  | nil =>
      rfl
  | cons hook rest ih =>
      rw [List.foldl_cons, runHook_retold hreact, ih]
      rfl

theorem publish_retold (hreact : r.Unnoticed react) (w : World) :
    (w.retold r).publish caller react = (w.publish caller react).retold r := by
  unfold publish
  rw [call_retold]
  cases w.call.publish? with
  | some p =>
      rcases p with ⟨o, hooks, call⟩
      have hmarked : { w.retold r with call := call }.note .published =
          ({ w with call := call }.note .published).retold r :=
        (retold_note .published rfl { w with call := call }).symm
      dsimp only
      rw [hmarked, foldl_runHook_retold hreact]
  | none =>
      rfl

theorem publishIf_retold (hreact : r.Unnoticed react) (first : Bool) (w : World) :
    (w.retold r).publishIf first caller react = (w.publishIf first caller react).retold r := by
  cases first with
  | false =>
      rfl
  | true =>
      exact publish_retold hreact w

theorem release_retold (hreact : r.Unnoticed react) (c : Connection) (w : World) :
    (w.retold r).release react c = r.on (w.release react c) :=
  fire_retold hreact .release (.released c) rfl w

theorem settle_retold (held : Option Connection) (o : Outcome) (w : World) :
    (w.retold r).settle held o = r.on (w.settle held o) := by
  unfold settle
  rw [call_retold]
  cases w.call.settle? o with
  | some call =>
      have hmarked : { w.retold r with call := call }.note (.settled held) =
          ({ w with call := call }.note (.settled held)).retold r :=
        (retold_note (.settled held) rfl { w with call := call }).symm
      dsimp only
      rw [hmarked]
      rfl
  | none =>
      rfl

/-!
### Handlings
-/

theorem afterListener_retold (hreact : r.Unnoticed react) (listeners : Listeners)
    (c : Connection) {next : World -> World × Ending}
    (hnext : forall v, next (v.retold r) = r.on (next v)) (p : World × Option Fault) :
    afterListener react listeners c next (r.on p) =
      r.on (afterListener react listeners c next p) := by
  rcases p with ⟨v, _ | fault⟩
  · exact hnext v
  · simp only [afterListener, Retelling.on, notifyException_retold hreact, settle_retold]

theorem perform_retold (hreact : r.Unnoticed react) (listeners : Listeners) (c : Connection)
    (effects : List Effect) (first : Bool) (w : World) :
    perform react listeners c effects first (w.retold r) =
      r.on (perform react listeners c effects first w) := by
  induction effects generalizing first w with
  | nil =>
      rfl
  | cons effect rest ih =>
      cases effect with
      | notifyHeaders h =>
          unfold perform
          rw [fireIf_retold hreact _ .headers (.headers h) rfl]
          exact afterListener_retold hreact listeners c (ih first) _
      | recordCookie k =>
          have hrecorded : { w.retold r with call := (w.retold r).call.addCookie k } =
            { w with call := w.call.addCookie k }.retold r := rfl
          unfold perform
          rw [hrecorded, fireIf_retold hreact _ .cookie (.cookie k) rfl]
          exact afterListener_retold hreact listeners c (ih first) _
      | notifyResponse x =>
          unfold perform
          rw [fireIf_retold hreact _ .response (.response x) rfl]
          exact afterListener_retold hreact listeners c (ih first) _
      | notifyException e =>
          simp only [perform, notifyException_retold hreact]
          exact ih first _
      | follow location status =>
          unfold perform
          rw [call_retold]
          cases w.call.countRedirect? <;> rfl
      | succeed x =>
          simp only [perform, settle_retold]
          exact ih _ _
      | fail f =>
          simp only [perform, settle_retold]
          exact ih _ _
      | release =>
          rfl

theorem handle_retold (hpolicy : r.Indifferent caller.policy) (hreact : r.Unnoticed react)
    (listeners : Listeners) (c : Connection) (q : Request) (event : Event) (w : World) :
    (w.retold r).handle caller react listeners c (r.request q) event =
      r.on (w.handle caller react listeners c q event) := by
  unfold handle
  rw [call_retold, Retelling.plan_request hpolicy]
  cases plan caller.policy w.call.snapshot q event with
  | error fault =>
      rfl
  | ok effects =>
      dsimp only
      rw [perform_retold hreact]
      rcases perform react listeners c effects false w with ⟨v, first | ⟨location, status⟩⟩
      · simp only [Retelling.on, release_retold hreact]
        rcases v.release react c with ⟨x, _ | fault⟩
        · simp only [publishIf_retold hreact]
        · simp only [publishIf_retold hreact]
      · rfl

/-!
### Actions
-/

theorem connect_retold (r : Retelling) (target : Target) (w : World) :
    (w.retold r).connect target = r.on (w.connect target) := rfl

theorem inject_retold (hpolicy : r.Indifferent caller.policy) (hreact : r.Unnoticed react)
    (reply : Reply) (w : World) :
    (w.retold r).inject caller react reply = r.on (w.inject caller react reply) := by
  have htarget : (w.retold r).request.target = w.request.target := r.target w.request
  unfold inject
  rw [htarget, connect_retold]
  rcases w.connect w.request.target with ⟨v, c⟩
  have hnoted : ((v.retold r).note (.injecting c)) = (v.note (.injecting c)).retold r :=
    (retold_note (.injecting c) rfl v).symm
  have hrequest : (v.retold r).request = r.request v.request := rfl
  simp only [Retelling.on]
  rw [hnoted, hrequest, Retelling.toEvent_request, handle_retold hpolicy hreact]
  rcases (v.note (.injecting c)).handle caller react .none c v.request
    (reply.toEvent v.request) with ⟨x, fault | step⟩
  · rfl
  · simp only [Retelling.on]
    rw [← retold_note (.injected step) rfl]

theorem act_retold (hpolicy : r.Indifferent caller.policy) (hreact : r.Unnoticed react)
    (actions : List Action) (w : World) :
    (w.retold r).act caller react actions = r.on (w.act caller react actions) := by
  induction actions generalizing w with
  | nil =>
      rfl
  | cons a rest ih =>
      cases a with
      | inject reply =>
          unfold act
          rw [inject_retold hpolicy hreact]
          rcases w.inject caller react reply with ⟨v, _ | fault⟩
          · exact ih v
          · rfl
      | hook =>
          unfold act
          rw [registerNumbered_retold hreact]
          exact ih _
      | poll =>
          unfold act
          rw [call_retold, ← retold_note (.polled _) rfl]
          exact ih _
      | breakDown fault =>
          rfl

end
end World

namespace Caller

/-- Triggers take no notice of a retelling. -/
theorem reactionAt_unnoticed {r : Retelling} {caller : Caller}
    (hpolicy : r.Indifferent caller.policy) (depth : Nat) :
    r.Unnoticed (caller.reactionAt depth) := by
  induction depth with
  | zero =>
      intro m w
      rfl
  | succ depth ih =>
      intro m w
      unfold reactionAt
      rw [World.count_retold]
      exact World.act_retold hpolicy ih _ w

theorem reaction_unnoticed {r : Retelling} {caller : Caller}
    (hpolicy : r.Indifferent caller.policy) : r.Unnoticed caller.reaction :=
  reactionAt_unnoticed hpolicy caller.triggers.length

end Caller

/-!
## Blocks of work
-/

namespace World

section

variable {r : Retelling} {caller : Caller} {react : Reaction}

theorem send_retold (r : Retelling) (q : Request) (w : World) :
    (w.retold r).send (r.request q) = (w.send q).retold r :=
  (retold_note (.sent q) rfl { w with request := q }).symm

theorem onEvent_retold (hpolicy : r.Indifferent caller.policy) (hreact : r.Unnoticed react)
    (listeners : Listeners) (c : Connection) (hop : Nat) (q : Request) (event : Event)
    (w : World) :
    (w.retold r).onEvent caller react listeners c hop (r.request q) event =
      r.block (w.onEvent caller react listeners c hop q event) := by
  unfold onEvent
  rw [handle_retold hpolicy hreact]
  rcases w.handle caller react listeners c q event with ⟨v, fault | _ | ⟨location, status⟩⟩
  · rfl
  · rfl
  · simp only [Retelling.on]
    rw [releaseThen_eq, releaseThen_eq, release_retold hreact, r.redirected]
    rcases v.release react c with ⟨x, _ | fault⟩ <;> rfl

theorem onGranted_retold (r : Retelling) (hop : Nat) (q : Request) (w : World) :
    (w.retold r).onGranted hop (r.request q) = r.block (w.onGranted hop q) := by
  unfold onGranted
  rw [r.target, connect_retold]
  simp only [Retelling.on]
  rw [← retold_note (.acquired _) rfl]
  rfl

theorem onUnavailable_retold (hreact : r.Unnoticed react) (listeners : Listeners)
    (e : TransportError) (w : World) :
    (w.retold r).onUnavailable caller react listeners e =
      r.block (w.onUnavailable caller react listeners e) := by
  unfold onUnavailable
  rw [notifyException_retold hreact, settle_retold]
  simp only [Retelling.on]
  rw [publishIf_retold hreact]
  rfl

end
end World

theorem Session.withHooks_retold {r : Retelling} {caller : Caller} {react : Reaction}
    (hreact : r.Unnoticed react) (plot : Plot) (w : World) :
    withHooks caller react plot (w.retold r) = (withHooks caller react plot w).retold r := by
  have hnumbered : forall (ns : List Nat) (v : World),
      ns.foldl (fun u _ => u.registerNumbered caller react) (v.retold r) =
        (ns.foldl (fun u _ => u.registerNumbered caller react) v).retold r := by
    intro ns
    induction ns with
    | nil =>
        exact fun v => rfl
    | cons n rest ih =>
        intro v
        rw [List.foldl_cons, World.registerNumbered_retold hreact, ih]
        rfl
  unfold withHooks
  cases plot.transformed with
  | true =>
      simp only [if_true]
      rw [World.register_retold hreact, hnumbered]
  | false =>
      exact hnumbered _ w

end HttpCall
