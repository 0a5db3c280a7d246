import HttpCall.Proofs.Handling.Conduct

/-!
# Outlines of a handling

The handling of an event has phases: effects are carried out, then the connection is
given back, then an outcome that was settled here is published; or the effects end
with a redirect.  An outline says what holds in each phase and that each single
change of the world keeps to it.  What holds after a whole handling then follows, for
every plan, once and for all.
-/

namespace HttpCall

inductive Entry.Notice : Moment -> Entry -> Prop where
  | headers (h : Headers) : Notice .headers (.headers h)
  | cookie (k : Cookie) : Notice .cookie (.cookie k)
  | response (r : Response) : Notice .response (.response r)
  | exception (e : TransportError) : Notice .exception (.exception e)

/-- `Outline caller react c doing followed returned ended` says that handlings on the
connection `c` go through these phases.  The flag tells whether the outcome was
settled on the way. -/
structure Outline (caller : Caller) (react : Reaction) (c : Connection)
    (doing : Bool -> World -> Prop) (followed : World -> Prop)
    (returned : Bool -> World -> Prop) (ended : World -> Prop) : Prop where
  notice {first : Bool} {m : Moment} {e : Entry} {w : World} :
    Entry.Notice m e -> doing first w -> doing first (w.fire react m e).1
  cookie {first : Bool} {w : World} (k : Cookie) :
    doing first w -> doing first { w with call := w.call.addCookie k }
  settle {first : Bool} {w : World} (o : Outcome) :
    doing first w -> doing (w.settle c o).2 (w.settle c o).1
  follow {first : Bool} {w : World} {call : Call} :
    doing first w -> w.call.countRedirect? = some call -> followed { w with call := call }
  release {first : Bool} {w : World} :
    doing first w -> returned first (w.release react c).1
  publish {w : World} : returned true w -> ended (w.publish caller react)
  leave {w : World} : returned false w -> ended w

namespace Outline

variable {caller : Caller} {react : Reaction} {c : Connection}
  {doing : Bool -> World -> Prop} {followed : World -> Prop}
  {returned : Bool -> World -> Prop} {ended : World -> Prop}

def Performed (doing : Bool -> World -> Prop) (followed : World -> Prop) :
    World × World.Ending -> Prop
  | (w, .release first) => doing first w
  | (w, .follow _ _) => followed w

/-- What holds after a handling that began in a world.  If it broke down, either
there was no plan or the release was the last thing to happen before the end. -/
def Handled (followed ended : World -> Prop) (before : World) :
    World × Except Fault Step -> Prop
  | (w, .ok .done) => ended w
  | (w, .ok (.redirect _ _)) => followed w
  | (w, .error _) => w = before ∨ ended w

theorem doing_fireIf (o : Outline caller react c doing followed returned ended)
    {attached first : Bool} {m : Moment} {e : Entry} {w : World}
    (hnotice : Entry.Notice m e) (hw : doing first w) :
    doing first (w.fireIf attached react m e).1 := by
  cases attached with
  | false =>
      exact hw
  | true =>
      exact o.notice hnotice hw

theorem performed_afterListener (o : Outline caller react c doing followed returned ended)
    {listeners : Listeners} {first : Bool} {next : World -> World × World.Ending}
    {p : World × Option Fault}
    (hnext : forall v, doing first v -> Performed doing followed (next v))
    (hp : doing first p.1) :
    Performed doing followed (World.afterListener react listeners c next p) := by
  rcases p with ⟨w, _ | fault⟩
  · exact hnext w hp
  · exact o.settle (.error (.transport (World.listenerError fault).message))
      (o.doing_fireIf (.exception (World.listenerError fault)) hp)

theorem performed (o : Outline caller react c doing followed returned ended)
    (listeners : Listeners) (effects : List Effect) {first : Bool} {w : World}
    (hw : doing first w) :
    Performed doing followed (World.perform react listeners c effects first w) := by
  induction effects generalizing first w with
  | nil =>
      exact hw
  | cons effect rest ih =>
      cases effect with
      | notifyHeaders h =>
          exact o.performed_afterListener (fun v hv => ih hv) (o.doing_fireIf (.headers h) hw)
      | recordCookie k =>
          exact o.performed_afterListener (fun v hv => ih hv)
            (o.doing_fireIf (.cookie k) (o.cookie k hw))
      | notifyResponse r =>
          exact o.performed_afterListener (fun v hv => ih hv) (o.doing_fireIf (.response r) hw)
      | notifyException e =>
          exact ih (o.doing_fireIf (.exception e) hw)
      | follow location status =>
          unfold World.perform
          split
          · rename_i call hcall
            exact o.follow hw hcall
          · exact hw
      | succeed r =>
          exact ih (o.settle (.ok r) hw)
      | fail f =>
          exact ih (o.settle (.error f) hw)
      | release =>
          exact hw

theorem ended_publishIf (o : Outline caller react c doing followed returned ended)
    {first : Bool} {w : World} (hw : returned first w) :
    ended (w.publishIf first caller react) := by
  cases first with
  | false =>
      exact o.leave hw
  | true =>
      exact o.publish hw

theorem handled (o : Outline caller react c doing followed returned ended)
    (listeners : Listeners) (request : Request) (event : Event) {w : World}
    (hw : doing false w) :
    Handled followed ended w (w.handle caller react listeners c request event) := by
  unfold World.handle
  split
  · exact Or.inl rfl
  · rename_i effects _
    have hperformed := o.performed listeners effects hw
    split
    · rename_i v location status hv
      rw [hv] at hperformed
      exact hperformed
    · rename_i v first hv
      rw [hv] at hperformed
      have hreturned := o.release hperformed
      split
      · rename_i u hu
        rw [hu] at hreturned
        exact o.ended_publishIf hreturned
      · rename_i u fault hu
        rw [hu] at hreturned
        exact Or.inr (o.ended_publishIf hreturned)

/-- What holds in every phase holds after the handling. -/
theorem kept {inv : World -> Prop}
    (o : Outline caller react c (fun _ => inv) inv (fun _ => inv) inv)
    (listeners : Listeners) (request : Request) (event : Event) {w : World} (hw : inv w) :
    inv (w.handle caller react listeners c request event).1 := by
  have hhandled := o.handled listeners request event hw
  rcases hresult : w.handle caller react listeners c request event with
    ⟨v, fault | _ | ⟨location, status⟩⟩ <;> rw [hresult] at hhandled
  · rcases hhandled with rfl | hended
    · exact hw
    · exact hended
  · exact hhandled
  · exact hhandled

end Outline

namespace World

variable {caller : Caller} {react : Reaction}

theorem foldl_runHook_induction {inv : World -> Prop} {o : Outcome}
    (hhook : forall hook v, inv v -> inv (v.runHook caller react o hook))
    (hooks : List Hook) {w : World} (hw : inv w) :
    inv (hooks.foldl (runHook caller react o) w) := by
  induction hooks generalizing w with
  | nil =>
      exact hw
  | cons hook rest ih =>
      exact ih (hhook hook w hw)

theorem publish_induction {inv : World -> Prop} {w : World}
    (hnothing : w.call.publish? = none -> inv w)
    (hvisible : forall o hooks call, w.call.publish? = some (o, hooks, call) ->
      inv ({ w with call := call }.note .published))
    (hhook : forall o hooks call, w.call.publish? = some (o, hooks, call) ->
      forall hook v, inv v -> inv (v.runHook caller react o hook)) :
    inv (w.publish caller react) := by
  unfold publish
  split
  · rename_i o hooks call hpublish
    exact foldl_runHook_induction (hhook o hooks call hpublish) hooks
      (hvisible o hooks call hpublish)
  · rename_i hpublish
    exact hnothing hpublish

end World

theorem Session.withHooks_induction {caller : Caller} {react : Reaction}
    {inv : World -> Prop}
    (hregister : forall hook v, inv v -> inv (v.register caller react hook))
    (hnumber : forall n v, inv v -> inv { v with nextHook := n }) (plot : Plot) {w : World}
    (hw : inv w) : inv (withHooks caller react plot w) := by
  have hnumbered : forall (ns : List Nat) (v : World), inv v ->
      inv (ns.foldl (fun u _ => u.registerNumbered caller react) v) := by
    intro ns
    induction ns with
    | nil =>
        intro v hv
        exact hv
    | cons n rest ih =>
        intro v hv
        exact ih _ (hregister _ _ (hnumber _ v hv))
  unfold withHooks
  apply hnumbered
  split
  · exact hregister .transform w hw
  · exact hw

end HttpCall
