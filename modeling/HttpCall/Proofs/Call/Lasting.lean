import HttpCall.Proofs.Handling.Drift
import HttpCall.Proofs.Redirect.Position

/-!
# Outcomes that last

Once an outcome is recorded, whatever happens to the call leaves it as it is.  Whoever
records one also publishes it, and does so before anything else is waited for; so a loop
that has nothing left to do leaves a call behind that everybody sees has ended.
-/

namespace HttpCall
namespace World

/-- No outcome is recorded that is yet to be published. -/
def Announced (w : World) : Prop :=
  w.call.outcome.isSome = true -> w.call.published = true

/-- What happened left a recorded outcome and its publication as they were, and no
outcome behind that is yet to be published, unless there was one before. -/
structure Lasting (v w : World) : Prop where
  outcome : forall o, v.call.outcome = some o -> w.call.outcome = some o
  published : v.call.published = true -> w.call.published = true
  announced : v.Announced -> w.Announced

namespace Lasting

variable {u v w : World}

theorem of_same (houtcome : w.call.outcome = v.call.outcome)
    (hpublished : w.call.published = v.call.published) : Lasting v w where
  outcome o ho := houtcome.trans ho
  published hv := hpublished.trans hv
  announced hv := by
    unfold Announced
    rw [houtcome, hpublished]
    exact hv

theorem refl (w : World) : Lasting w w := .of_same rfl rfl

theorem trans (huv : Lasting u v) (hvw : Lasting v w) : Lasting u w where
  outcome o ho := hvw.outcome o (huv.outcome o ho)
  published hu := hvw.published (huv.published hu)
  announced hu := hvw.announced (huv.announced hu)

theorem settled (h : Lasting v w) (hv : v.call.outcome.isSome = true) :
    w.call.outcome.isSome = true := by
  rcases Option.isSome_iff_exists.mp hv with ⟨o, ho⟩
  rw [h.outcome o ho]
  rfl

theorem visible (h : Lasting v w) {o : Outcome} (hv : v.call.visible = some o) :
    w.call.visible = some o := by
  rcases Call.visible_eq_some.mp hv with ⟨hpublished, houtcome⟩
  exact Call.visible_eq_some.mpr ⟨h.published hpublished, h.outcome o houtcome⟩

end Lasting

theorem isDone_of_announced {w : World} (h : w.Announced)
    (houtcome : w.call.outcome.isSome = true) : w.call.isDone = true := by
  rcases Option.isSome_iff_exists.mp houtcome with ⟨o, ho⟩
  have hvisible : w.call.visible = some o :=
    Call.visible_eq_some.mpr ⟨h houtcome, ho⟩
  rcases o with f | r <;> simp [Call.isDone, Call.phase, hvisible, Phase.isTerminal]

theorem visible_of_isDone {w : World} (h : w.call.isDone = true) :
    exists o, w.call.visible = some o := by
  cases hvisible : w.call.visible with
  | some o =>
      exact ⟨o, rfl⟩
  | none =>
      simp [Call.isDone, Call.phase, hvisible, Phase.isTerminal] at h

theorem settled_of_isDone {w : World} (h : w.call.isDone = true) :
    w.call.outcome.isSome = true := by
  rcases visible_of_isDone h with ⟨o, ho⟩
  rw [(Call.visible_eq_some.mp ho).right]
  rfl

/-!
## Handlings
-/

section Handling

variable {caller : Caller} {react : Reaction} {v w : World}

theorem lasting_fire (hreact : forall m v, Lasting v (react m v).1) (m : Moment) (e : Entry)
    (w : World) : Lasting w (w.fire react m e).1 := by
  have hnoted : Lasting w (w.note e) := .of_same rfl rfl
  exact hnoted.trans (hreact m _)

theorem lasting_fireIf (hreact : forall m v, Lasting v (react m v).1) (attached : Bool)
    (m : Moment) (e : Entry) (w : World) : Lasting w (w.fireIf attached react m e).1 := by
  cases attached with
  | false =>
      exact Lasting.refl w
  | true =>
      exact lasting_fire hreact m e w

theorem lasting_drift :
    Drift (fun e => e.isOfLoop = false) (fun _ => False) Lasting where
  refl := Lasting.refl
  trans := Lasting.trans
  note _ _ := .of_same rfl rfl
  access w ha := by
    rcases access_of_isCommon (ha.resolve_right id) w with ⟨hooks, heq⟩
    rw [heq]
    exact .of_same rfl rfl
  count _ _ _ _ := .of_same rfl rfl

theorem lasting_publish (caller : Caller) (hreact : forall m v, Lasting v (react m v).1)
    (w : World) :
    Lasting w (w.publish caller react) ∧ (w.publish caller react).Announced := by
  unfold publish
  split
  · rename_i o hooks call hpublish
    rcases Call.of_publish? hpublish with ⟨houtcome, rfl⟩
    have hmarked : Lasting w
        ({ w with call := { w.call with published := true, hooks := [] } }.note .published) :=
      ⟨fun _ ho => ho, fun _ => rfl, fun _ _ => rfl⟩
    have hhooks := @foldl_runHook_induction caller react
      (fun x => Lasting w x ∧ x.call.published = true) o
      (fun hook x hx =>
        have hran : Lasting x (x.runHook caller react o hook) :=
          lasting_drift.runHook hreact o hook x
        ⟨hx.left.trans hran, hran.published hx.right⟩)
      hooks _ ⟨hmarked, rfl⟩
    exact ⟨hhooks.left, fun _ => hhooks.right⟩
  · rename_i hnothing
    refine ⟨Lasting.refl w, ?_⟩
    intro houtcome
    rcases Option.isSome_iff_exists.mp houtcome with ⟨o, ho⟩
    cases hpublished : w.call.published with
    | true =>
        rfl
    | false =>
        simp [Call.publish?, ho, hpublished] at hnothing

theorem lasting_publishIf (caller : Caller) (hreact : forall m v, Lasting v (react m v).1)
    (first : Bool) (w : World) : Lasting w (w.publishIf first caller react) := by
  cases first with
  | false =>
      exact Lasting.refl w
  | true =>
      exact (lasting_publish caller hreact w).left

/-- An outcome is there, recorded by whoever the flag says: it is yet to be published only
if it was recorded here. -/
structure Resolves (v w : World) (first : Bool) : Prop where
  outcome : forall o, v.call.outcome = some o -> w.call.outcome = some o
  published : v.call.published = true -> w.call.published = true
  settled : w.call.outcome.isSome = true
  announced : first = false -> v.Announced -> w.Announced

theorem Lasting.resolves (h : Lasting v w) (hw : w.call.outcome.isSome = true) :
    Resolves v w false :=
  ⟨h.outcome, h.published, hw, fun _ => h.announced⟩

theorem Lasting.settle (h : Lasting v w) (held : Option Connection) (o : Outcome) :
    Resolves v (w.settle held o).1 (w.settle held o).2 := by
  unfold World.settle
  split
  · rename_i call hsettle
    rcases Call.outcome_of_settle? hsettle with ⟨hnone, hsome, hsame⟩
    refine ⟨?_, ?_, ?_, ?_⟩
    · intro first hfirst
      rw [h.outcome first hfirst] at hnone
      cases hnone
    · intro hpublished
      exact hsame.trans (h.published hpublished)
    · rw [call_note, hsome]
      rfl
    · intro hfirst
      cases hfirst
  · rename_i hsettle
    apply h.resolves
    cases houtcome : w.call.outcome with
    | some first =>
        rfl
    | none =>
        simp [Call.settle?, houtcome] at hsettle

def Carries (v : World) : World × Ending -> Prop
  | (w, .release first) => Resolves v w first
  | (w, .follow _ _) => Lasting v w

theorem carries_afterListener (hreact : forall m v, Lasting v (react m v).1)
    {listeners : Listeners} {c : Connection} {next : World -> World × Ending}
    {p : World × Option Fault} (hp : Lasting v p.1)
    (hnext : forall x, Lasting v x -> Carries v (next x)) :
    Carries v (afterListener react listeners c next p) := by
  rcases p with ⟨w, _ | fault⟩
  · exact hnext w hp
  · exact (hp.trans (lasting_fireIf hreact _ _ _ w)).settle c
      (.error (.transport (listenerError fault).message))

theorem carries_notices (hreact : forall m v, Lasting v (react m v).1)
    {listeners : Listeners} {c : Connection} {rest : List Effect} (notices : List Effect)
    (hnotices : forall effect, effect ∈ notices -> effect.isNotice = true)
    (hrest : forall x, Lasting v x -> Carries v (perform react listeners c rest false x))
    (hw : Lasting v w) :
    Carries v (perform react listeners c (notices ++ rest) false w) := by
  induction notices generalizing w with
  | nil =>
      exact hrest w hw
  | cons effect notices ih =>
      have hnext : forall x, Lasting v x ->
          Carries v (perform react listeners c (notices ++ rest) false x) :=
        fun x hx => ih (fun e he => hnotices e (List.mem_cons_of_mem effect he)) hx
      have hnotice := hnotices effect List.mem_cons_self
      cases effect with
      | notifyHeaders h =>
          exact carries_afterListener hreact (hw.trans (lasting_fireIf hreact _ _ _ w)) hnext
      | recordCookie k =>
          have hrecorded : Lasting v { w with call := w.call.addCookie k } :=
            hw.trans (.of_same rfl rfl)
          exact carries_afterListener hreact
            (hrecorded.trans (lasting_fireIf hreact _ _ _ _)) hnext
      | notifyResponse r =>
          exact carries_afterListener hreact (hw.trans (lasting_fireIf hreact _ _ _ w)) hnext
      | notifyException e =>
          exact hnext _ (hw.trans (lasting_fireIf hreact _ _ _ w))
      | follow location status =>
          cases hnotice
      | succeed r =>
          cases hnotice
      | fail f =>
          cases hnotice
      | release =>
          cases hnotice

theorem Lasting.follow (h : Lasting v w) {listeners : Listeners} {c : Connection}
    (location : Url) (status : Status) :
    Carries v (perform react listeners c [.follow location status] false w) := by
  unfold perform
  split
  · rename_i call hcount
    rcases Call.outcome_of_countRedirect? hcount with ⟨hnone, hnone', hsame⟩
    exact h.trans (.of_same (hnone'.trans hnone.symm) hsame)
  · rename_i hcount
    apply h.resolves
    cases houtcome : w.call.outcome with
    | some o =>
        rfl
    | none =>
        simp [Call.countRedirect?, houtcome] at hcount

/-- Whatever is planned for an event, an outcome is recorded in the end, or a redirect is
followed. -/
theorem carries_plan (hreact : forall m v, Lasting v (react m v).1) (policy : Policy)
    (listeners : Listeners) (c : Connection) (request : Request) (event : Event)
    {effects : List Effect} (hplan : plan policy w.call.snapshot request event = .ok effects) :
    Carries w (perform react listeners c effects false w) := by
  cases event with
  | closed =>
      cases hplan
      split
      · exact (Lasting.refl w).settle c _
      · rename_i hphase
        apply (Lasting.refl w).resolves
        apply settled_of_isDone
        unfold Call.isDone
        rw [show w.call.snapshot.phase = w.call.phase from rfl] at hphase
        cases hterminal : w.call.phase with
        | pending => exact absurd hterminal hphase
        | succeeded => rfl
        | failed => rfl
  | error e =>
      cases hplan
      exact ((Lasting.refl w).trans (lasting_fireIf hreact _ _ _ w)).settle c _
  | response r =>
      simp only [plan] at hplan
      cases hdestination : Plan.destination policy w.call.snapshot request r with
      | error fault =>
          rw [hdestination] at hplan
          cases hplan
      | ok location? =>
          rw [hdestination] at hplan
          cases hplan
          apply carries_notices hreact _ (fun _ => isNotice_of_mem_notices) _ (Lasting.refl w)
          intro x hx
          cases location? with
          | none =>
              exact hx.settle c (.ok r)
          | some location =>
              exact hx.follow location r.status

theorem Resolves.ends (caller : Caller) (hreact : forall m v, Lasting v (react m v).1)
    {first : Bool} (h : Resolves v w first) {x : World} (hx : Lasting w x) :
    Lasting v (x.publishIf first caller react) ∧
      (x.publishIf first caller react).call.outcome.isSome = true := by
  have hpublish := lasting_publishIf caller hreact first x
  have hall := hx.trans hpublish
  refine ⟨⟨?_, ?_, ?_⟩, hall.settled h.settled⟩
  · intro o ho
    exact hall.outcome o (h.outcome o ho)
  · intro hv
    exact hall.published (h.published hv)
  · intro hv
    cases first with
    | false =>
        exact hx.announced (h.announced rfl hv)
    | true =>
        exact (lasting_publish caller hreact x).right

theorem lasting_handle (caller : Caller) (hreact : forall m v, Lasting v (react m v).1)
    (listeners : Listeners) (c : Connection) (request : Request) (event : Event) (w : World) :
    Lasting w (w.handle caller react listeners c request event).1 ∧
      ((w.handle caller react listeners c request event).2 = .ok .done ->
        (w.handle caller react listeners c request event).1.call.outcome.isSome = true) := by
  unfold handle
  cases hplan : plan caller.policy w.call.snapshot request event with
  | error fault =>
      exact ⟨Lasting.refl w, fun h => nomatch h⟩
  | ok effects =>
      have hcarries := carries_plan hreact caller.policy listeners c request event hplan
      dsimp only
      rcases hperform : perform react listeners c effects false w with
        ⟨v, first | ⟨location, status⟩⟩ <;> rw [hperform] at hcarries
      · have hends := Resolves.ends caller hreact hcarries
          (lasting_fire hreact .release (.released c) v)
        dsimp only
        rcases hrelease : v.release react c with ⟨x, _ | fault⟩
        · rw [show v.fire react .release (.released c) = (x, none) from hrelease] at hends
          exact ⟨hends.left, fun _ => hends.right⟩
        · rw [show v.fire react .release (.released c) = (x, some fault) from hrelease]
            at hends
          exact ⟨hends.left, fun h => nomatch h⟩
      · exact ⟨hcarries, fun h => nomatch h⟩

theorem lasting_of_deed {meddling : Prop} (h : Deed caller meddling v w) : Lasting v w := by
  apply lasting_drift.of_deed_of_handle _ _ h
  · intro _ e he
    exact he
  · intro _ policy react listeners c request event w _ hreact _
    exact (lasting_handle _ hreact listeners c request event w).left

theorem Conduct.lasting {meddling : Prop} (h : Conduct caller meddling react) (m : Moment)
    (v : World) : Lasting v (react m v).1 :=
  lasting_of_deed (h m v)

theorem lasting_onUnavailable (caller : Caller)
    (hreact : forall m v, Lasting v (react m v).1) (listeners : Listeners)
    (e : TransportError) (w : World) :
    Lasting w (w.onUnavailable caller react listeners e).1 ∧
      (w.onUnavailable caller react listeners e).1.call.outcome.isSome = true := by
  have hnotified : Lasting w (w.notifyException react listeners e) :=
    lasting_fireIf hreact _ _ _ w
  exact Resolves.ends caller hreact
    (hnotified.settle none (.error (.transport e.message))) (Lasting.refl _)

end Handling

/-!
## The loop
-/

/-- Nothing is left to be published, and there is an outcome if nothing is left to do. -/
def Settles (w : World) (stage : Stage) : Prop :=
  w.Announced ∧ (stage = .over -> w.call.outcome.isSome = true)

section Course

variable {caller : Caller} {react : Reaction} {v w : World} {stage : Stage}

theorem Lasting.settles (h : Lasting v w) (hv : v.Announced)
    (hstage : stage = .over -> w.call.outcome.isSome = true) : Settles w stage :=
  ⟨h.announced hv, hstage⟩

theorem settles_onEvent (hreact : forall m v, Lasting v (react m v).1) (listeners : Listeners)
    (c : Connection) (hop : Nat) (request : Request) (event : Event) (hw : w.Announced) :
    Settles (w.onEvent caller react listeners c hop request event).1
      (w.onEvent caller react listeners c hop request event).2 := by
  have hhandle := lasting_handle caller hreact listeners c request event w
  unfold onEvent
  rcases hresult : w.handle caller react listeners c request event with
    ⟨v, fault | _ | ⟨location, status⟩⟩ <;> rw [hresult] at hhandle
  · exact hhandle.left.settles hw (fun h => nomatch h)
  · exact hhandle.left.settles hw (fun _ => hhandle.right rfl)
  · dsimp only
    rw [releaseThen_eq]
    apply (hhandle.left.trans (lasting_fire hreact .release _ v)).settles hw
    intro hstage
    cases hfault : (v.release react c).2 <;> rw [hfault] at hstage <;> cases hstage

theorem settles_upkeep (k : Conditions) {meddling : Prop}
    (hconduct : Conduct k.caller meddling k.reaction) :
    Upkeep k (Orderly meddling) Settles where
  pass _ h := h
  act {w stage actions} hactions h := by
    have hlasting := lasting_of_deed
      (act_deed hconduct actions (fun a ha => (hactions a ha).right) w)
    refine hlasting.settles h.left ?_
    cases (w.act k.caller k.reaction actions).2 with
    | none => exact fun hstage => hlasting.settled (h.right hstage)
    | some fault => exact fun hstage => nomatch hstage
  send h := ⟨h.left, fun hstage => nomatch hstage⟩
  answer event h := settles_onEvent hconduct.lasting k.listeners _ _ _ event h.left
  expire {w c hop request} h hdone := by
    have hlasting := lasting_fire hconduct.lasting .release (.released c) w
    exact hlasting.settles h.left (fun _ => hlasting.settled (settled_of_isDone hdone))
  ask h := h
  grant h := ⟨h.left, fun hstage => nomatch hstage⟩
  refuse _ h := h
  unavailable {w hop request} e h := by
    have hended := lasting_onUnavailable k.caller hconduct.lasting k.listeners e w
    exact hended.left.settles h.left (fun _ => hended.right)

end Course
end World

namespace Session

variable {caller : Caller} {react : Reaction} {meddling : Prop}

/-- A loop that has nothing left to do leaves a call behind that has ended. -/
theorem isDone_of_over (hconduct : World.Conduct caller meddling react) {hops : List Hop}
    (hhops : forall h, h ∈ hops ->
      Orderly meddling h.acquireActions ∧ Orderly meddling h.actions)
    {clockStart nextConnection : Nat} {plot : Plot} {request : Request} {w v : World}
    {course : List (World × Stage)}
    (hlaunch : launch caller react clockStart nextConnection plot request hops =
      .underway w course)
    (hv : (v, .over) ∈ course) : v.call.isDone = true := by
  rcases launch_eq_underway hlaunch with ⟨h, rest, rfl, rfl, rfl⟩
  have hconnected : (firstConnected request nextConnection h).1.Announced := by
    intro houtcome
    cases houtcome
  have hbegun :
      (withHooks caller react plot (firstConnected request nextConnection h).1).Announced :=
    (World.lasting_drift.withHooks hconduct.lasting plot _).announced hconnected
  have hsettles := Upkeep.inv_course
    (fun deadline => World.settles_upkeep ⟨caller, react, plot.listeners, deadline⟩ hconduct)
    hhops ⟨hbegun, fun hstage => nomatch hstage⟩
    (fun _ => ⟨hbegun, fun hstage => nomatch hstage⟩) _ hv
  exact World.isDone_of_announced hsettles.left (hsettles.right rfl)

end Session
end HttpCall
