import HttpCall.Proofs.Call.Access
import HttpCall.Proofs.Handling.Course

/-!
# Drifts

Many facts say how a world can have changed when somebody was at work on it.  If a relation
between worlds is kept by each single thing that is done, it is kept by user code, by
handlings and by the blocks of the loop that are made up of such things.
-/

namespace HttpCall

namespace Entry

def isOfLoop : Entry -> Bool
  | acquired _ | refused _ _ | sent _ => true
  | _ => false

/-- The entry comes of user code that handles no events, or of the end of a call. -/
def isCommon : Entry -> Bool
  | polled _ | completed _ _ | exception _ | released _ | settled _ | published => true
  | _ => false

theorem Notice.isOfLoop_eq_false {m : Moment} {e : Entry} (h : Notice m e) :
    e.isOfLoop = false := by
  cases h <;> rfl

theorem isOfLoop_of_isCommon {e : Entry} (h : e.isCommon = true) : e.isOfLoop = false := by
  cases e <;> first | rfl | cases h

end Entry

def Access.isCommon : Access -> Bool
  | register _ | observe => true
  | _ => false

namespace World

def access (w : World) (a : Access) : World := { w with call := w.call.access a }

theorem access_of_isCommon {a : Access} (ha : a.isCommon = true) (w : World) :
    exists hooks, w.access a = { w with call := { w.call with hooks := hooks } } := by
  cases a with
  | register hook =>
      unfold access Call.access
      dsimp only
      split
      · exact ⟨w.call.hooks, rfl⟩
      · exact ⟨w.call.hooks ++ [hook], rfl⟩
  | observe =>
      exact ⟨w.call.hooks, rfl⟩
  | _ =>
      cases ha

/-- `Drift noted accessed rel` says that each single thing that is done outside of the loop
keeps to `rel`: what is common, and beyond it the entries that are `noted` and the accesses
that are `accessed`. -/
structure Drift (noted : Entry -> Prop) (accessed : Access -> Prop)
    (rel : World -> World -> Prop) : Prop where
  refl (w : World) : rel w w
  trans {u v w : World} : rel u v -> rel v w -> rel u w
  note {e : Entry} (w : World) : e.isCommon = true ∨ noted e -> rel w (w.note e)
  access {a : Access} (w : World) : a.isCommon = true ∨ accessed a -> rel w (w.access a)
  count (w : World) (connection hook : Nat) (result : Option (Except Failure Json)) :
    rel w { w with nextConnection := connection, nextHook := hook, result := result }

namespace Drift

variable {noted : Entry -> Prop} {accessed : Access -> Prop} {rel : World -> World -> Prop}
  {caller : Caller} {react : Reaction} {v w : World}

section Common

variable (d : Drift noted accessed rel) (hreact : forall m v, rel v (react m v).1)

include d hreact

theorem fire (m : Moment) {e : Entry} (he : e.isCommon = true ∨ noted e) (w : World) :
    rel w (w.fire react m e).1 :=
  d.trans (d.note w he) (hreact m _)

theorem runHook (o : Outcome) (hook : Hook) (w : World) :
    rel w (w.runHook caller react o hook) := by
  cases hook with
  | numbered n =>
      exact d.fire hreact .complete (Or.inl rfl) w
  | transform =>
      exact d.count w w.nextConnection w.nextHook _

theorem register (hook : Hook) (w : World) : rel w (w.register caller react hook) := by
  unfold World.register
  split
  · exact d.runHook hreact _ hook w
  · rename_i hvisible
    have hcall : w.access (.register hook) = { w with call := w.call.enqueue hook } := by
      simp [World.access, Call.access, hvisible]
    rw [← hcall]
    exact d.access w (Or.inl rfl)

theorem registerNumbered (w : World) : rel w (w.registerNumbered caller react) :=
  d.trans (d.count w w.nextConnection (w.nextHook + 1) w.result)
    (d.register hreact (.numbered w.nextHook) _)

theorem act (actions : List Action) (hactions : forall a, a ∈ actions -> a.isMeddling = false)
    (w : World) : rel w (w.act caller react actions).1 := by
  induction actions generalizing w with
  | nil =>
      exact d.refl w
  | cons a rest ih =>
      have hrest := ih fun b hb => hactions b (List.mem_cons_of_mem a hb)
      cases a with
      | inject reply => cases hactions _ List.mem_cons_self
      | hook => exact d.trans (d.registerNumbered hreact w) (hrest _)
      | poll => exact d.trans (d.note w (Or.inl rfl)) (hrest _)
      | breakDown fault => exact d.refl w

theorem withHooks (plot : Plot) (w : World) :
    rel w (Session.withHooks caller react plot w) := by
  apply @Session.withHooks_induction caller react (fun v => rel w v)
  · intro hook v hv
    exact d.trans hv (d.register hreact hook v)
  · intro n v hv
    exact d.trans hv (d.count v v.nextConnection n v.result)
  · exact d.refl w

theorem release (c : Connection) (w : World) : rel w (w.release react c).1 :=
  d.fire hreact .release (Or.inl rfl) w

theorem notifyException (listeners : Listeners) (e : TransportError) (w : World) :
    rel w (w.notifyException react listeners e) := by
  unfold World.notifyException fireIf
  split
  · exact d.fire hreact .exception (Or.inl rfl) w
  · exact d.refl w

omit hreact in
theorem settle (held : Option Connection) {o : Outcome} (ho : accessed (.settle o))
    (w : World) : rel w (w.settle held o).1 := by
  unfold World.settle
  split
  · rename_i call hcall
    have haccess : w.access (.settle o) = { w with call := call } := by
      simp [World.access, Call.access, hcall]
    rw [← haccess]
    exact d.trans (d.access w (Or.inr ho)) (d.note _ (Or.inl rfl))
  · exact d.refl w

theorem publish (haccessed : accessed .publish) (w : World) :
    rel w (w.publish caller react) := by
  apply @publish_induction caller react (fun v => rel w v)
  · intro _
    exact d.refl w
  · intro o hooks call hpublish
    have haccess : w.access .publish = { w with call := call } := by
      simp [World.access, Call.access, hpublish]
    rw [← haccess]
    exact d.trans (d.access w (Or.inr haccessed)) (d.note _ (Or.inl rfl))
  · intro o _ _ _ hook v hv
    exact d.trans hv (d.runHook hreact o hook v)

theorem publishIf (haccessed : accessed .publish) (settledHere : Bool) (w : World) :
    rel w (w.publishIf settledHere caller react) := by
  cases settledHere with
  | false =>
      exact d.refl w
  | true =>
      exact d.publish hreact haccessed w

theorem onUnavailable (hsettled : forall o, accessed (.settle o))
    (hpublished : accessed .publish) (listeners : Listeners) (e : TransportError)
    (w : World) :
    rel w (w.onUnavailable caller react listeners e).1 := by
  have hrecorded := d.trans (d.notifyException hreact listeners e w)
    (d.settle none (hsettled (.error (.transport e.message))) _)
  exact d.trans hrecorded (d.publishIf hreact hpublished _ _)

end Common

/-!
## Handlings and user code
-/

structure Whole (noted : Entry -> Prop) (accessed : Access -> Prop) : Prop where
  noted (e : Entry) : e.isOfLoop = false -> noted e
  accessed (a : Access) : accessed a

theorem Whole.outside : Whole (fun e => e.isOfLoop = false) (fun _ => True) where
  noted _ he := he
  accessed _ := trivial

theorem outline (d : Drift noted accessed rel) (hwhole : Whole noted accessed)
    (hreact : forall m v, rel v (react m v).1) (c : Connection) (u : World) :
    Outline caller react c (fun _ => rel u) (rel u) (fun _ => rel u) (rel u) where
  notice hnotice hw :=
    d.trans hw (d.fire hreact _ (Or.inr (hwhole.noted _ hnotice.isOfLoop_eq_false)) _)
  cookie k hw := d.trans hw (d.access _ (Or.inr (hwhole.accessed (.addCookie k))))
  settle o hw := d.trans hw (d.settle (some c) (hwhole.accessed (.settle o)) _)
  follow {_ w call} hw hcount := by
    have haccess : w.access .countRedirect = { w with call := call } := by
      simp [World.access, Call.access, hcount]
    rw [← haccess]
    exact d.trans hw (d.access w (Or.inr (hwhole.accessed .countRedirect)))
  release hw := d.trans hw (d.release hreact c _)
  publish hw := d.trans hw (d.publish hreact (hwhole.accessed .publish) _)
  leave hw := hw

theorem handle (d : Drift noted accessed rel) (hwhole : Whole noted accessed)
    (hreact : forall m v, rel v (react m v).1) (caller : Caller) (listeners : Listeners)
    (c : Connection) (request : Request) (event : Event) (w : World) :
    rel w (w.handle caller react listeners c request event).1 :=
  (d.outline hwhole hreact c w).kept listeners request event (d.refl w)

theorem onEvent (d : Drift noted accessed rel) (hwhole : Whole noted accessed)
    (hreact : forall m v, rel v (react m v).1) (caller : Caller) (listeners : Listeners)
    (c : Connection) (hop : Nat) (request : Request) (event : Event) (w : World) :
    rel w (w.onEvent caller react listeners c hop request event).1 := by
  have hhandled := d.handle hwhole hreact caller listeners c request event w
  unfold World.onEvent
  rcases hresult : w.handle caller react listeners c request event with
    ⟨v, fault | _ | ⟨location, status⟩⟩ <;> rw [hresult] at hhandled
  · exact hhandled
  · exact hhandled
  · dsimp only
    rw [releaseThen_eq]
    exact d.trans hhandled (d.release hreact c v)

/-- User code that handles no events does what is common, and no more. -/
theorem of_deed_of_handle {meddling : Prop} (d : Drift noted accessed rel)
    (hnoted : meddling -> forall e, e.isOfLoop = false -> noted e)
    (hhandle : meddling -> forall policy react listeners c request event w,
      Conduct caller meddling react -> (forall m v, rel v (react m v).1) -> c ∈ w.brought ->
      rel w
        (w.handle { caller with policy := policy } react listeners c request event).1)
    (h : Deed caller meddling v w) : rel v w := by
  induction h with
  | idle w =>
      exact d.refl w
  | andThen _ _ huv hvw =>
      exact d.trans huv hvw
  | poll w =>
      exact d.note w (Or.inl rfl)
  | hook react w _ ih =>
      exact d.registerNumbered ih w
  | bring target w hmeddling =>
      exact d.trans (d.count w (w.nextConnection + 1) w.nextHook w.result)
        (d.note _ (Or.inr (hnoted hmeddling _ rfl)))
  | handle policy react listeners c request event w hmeddling hreact hc ih =>
      exact hhandle hmeddling policy react listeners c request event w hreact ih hc
  | injected step w hmeddling =>
      exact d.note w (Or.inr (hnoted hmeddling _ rfl))

theorem of_deed {meddling : Prop} (d : Drift noted accessed rel)
    (hwhole : meddling -> Whole noted accessed) (h : Deed caller meddling v w) :
    rel v w := by
  apply d.of_deed_of_handle _ _ h
  · intro hmeddling
    exact (hwhole hmeddling).noted
  · intro hmeddling policy react listeners c request event w _ hreact _
    exact d.handle (hwhole hmeddling) hreact _ listeners c request event w

theorem of_conduct {meddling : Prop} (d : Drift noted accessed rel)
    (hwhole : meddling -> Whole noted accessed) (h : Conduct caller meddling react)
    (m : Moment) (v : World) : rel v (react m v).1 :=
  d.of_deed hwhole (h m v)

theorem of_actions {meddling : Prop} (d : Drift noted accessed rel)
    (hwhole : meddling -> Whole noted accessed) (h : Conduct caller meddling react)
    (actions : List Action) (hactions : forall a, a ∈ actions -> a.isMeddling = true -> meddling)
    (w : World) : rel w (w.act caller react actions).1 :=
  d.of_deed hwhole (act_deed h actions hactions w)

end Drift
end World
end HttpCall
