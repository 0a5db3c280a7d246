import HttpCall.Call.Session

/-!
# The conduct of user code

A reaction is any function on worlds, while user code has only the handle of a call
to work with.  What it can make of a world is closed off here by a relation: user
code asks for the result, registers hooks, brings connections of its own and
handles events on them, and it may do all of this again from inside whatever it has
set going.

Reactions that are built from triggers keep to this relation.
-/

namespace HttpCall

def Action.isMeddling : Action -> Bool
  | inject _ => true
  | _ => false

def Action.returns : Action -> Bool
  | breakDown _ => false
  | _ => true

/-- The actions return, and handle events for the call only if that is allowed. -/
def Orderly (meddling : Prop) (actions : List Action) : Prop :=
  forall a, a ∈ actions -> a.returns = true ∧ (a.isMeddling = true -> meddling)

instance (meddling : Prop) [Decidable meddling] (actions : List Action) :
    Decidable (Orderly meddling actions) :=
  inferInstanceAs (Decidable (forall a, a ∈ actions -> _))

namespace World

/-- `Deed caller meddling v w` says that user code can turn the world `v` into `w`.
Events for the call are handled only by user code that meddles. -/
inductive Deed (caller : Caller) (meddling : Prop) : World -> World -> Prop where
  | idle (w : World) : Deed caller meddling w w
  | andThen {u v w : World} :
      Deed caller meddling u v -> Deed caller meddling v w -> Deed caller meddling u w
  | poll (w : World) : Deed caller meddling w (w.note (.polled w.call.result?))
  | hook (react : Reaction) (w : World) :
      (forall m v, Deed caller meddling v (react m v).1) ->
      Deed caller meddling w (w.registerNumbered caller react)
  | bring (target : Target) (w : World) :
      meddling ->
      Deed caller meddling w
        ((w.connect target).1.note (.injecting (w.connect target).2))
  | handle (policy : Policy) (react : Reaction) (listeners : Listeners) (c : Connection)
      (request : Request) (event : Event) (w : World) :
      meddling ->
      (forall m v, Deed caller meddling v (react m v).1) ->
      c ∈ w.brought ->
      Deed caller meddling w
        (w.handle { caller with policy := policy } react listeners c request event).1
  | injected (step : Step) (w : World) :
      meddling -> Deed caller meddling w (w.note (.injected step))

/-- User code, whenever it is called, does no more than it can. -/
def Conduct (caller : Caller) (meddling : Prop) (react : Reaction) : Prop :=
  forall m w, Deed caller meddling w (react m w).1

section Actions

variable {caller : Caller} {meddling : Prop} {react : Reaction}

theorem inject_deed (hmeddling : meddling) (hreact : Conduct caller meddling react)
    (reply : Reply) (w : World) : Deed caller meddling w (w.inject caller react reply).1 := by
  have hbring : Deed caller meddling w _ := .bring w.request.target w hmeddling
  have hhandle :=
    Deed.handle caller.policy react .none (w.connect w.request.target).2 w.request
      (reply.toEvent w.request)
      ((w.connect w.request.target).1.note (.injecting (w.connect w.request.target).2))
      hmeddling hreact (by simp [brought, Entry.brought?])
  have hboth := hbring.andThen hhandle
  unfold inject
  dsimp only [connect] at hboth ⊢
  split
  · rename_i v step heq
    rw [heq] at hboth
    exact hboth.andThen (.injected step v hmeddling)
  · rename_i v fault heq
    rw [heq] at hboth
    exact hboth

theorem act_deed (hreact : Conduct caller meddling react) (actions : List Action)
    (hactions : forall a, a ∈ actions -> a.isMeddling = true -> meddling) (w : World) :
    Deed caller meddling w (w.act caller react actions).1 := by
  induction actions generalizing w with
  | nil =>
      exact .idle w
  | cons a rest ih =>
      have hrest := ih (fun b hb => hactions b (List.mem_cons_of_mem a hb))
      cases a with
      | inject reply =>
          have hmeddling : meddling := hactions _ List.mem_cons_self rfl
          have hinject := inject_deed hmeddling hreact reply w
          unfold act
          split
          · rename_i v heq
            rw [heq] at hinject
            exact hinject.andThen (hrest v)
          · rename_i v fault heq
            rw [heq] at hinject
            exact hinject
      | hook =>
          exact (Deed.hook react w hreact).andThen (hrest _)
      | poll =>
          exact (Deed.poll w).andThen (hrest _)
      | breakDown fault =>
          exact .idle w

end Actions

/-!
## Code that returns

Neither a handling nor an action breaks down of itself: only the policy and the
release can make them.
-/

section Returning

variable {caller : Caller} {react : Reaction}

theorem handle_returns (hpolicy : caller.policy.Returns)
    (hrelease : forall v, (react .release v).2 = none) (listeners : Listeners)
    (c : Connection) (request : Request) (event : Event) (w : World) :
    exists step, (w.handle caller react listeners c request event).2 = .ok step := by
  rcases plan_returns hpolicy w.call.snapshot request event with ⟨effects, hplan⟩
  unfold handle
  rw [hplan]
  dsimp only
  split
  · rename_i v location status _
    exact ⟨.redirect location status, rfl⟩
  · rename_i v first _
    have hreturns : (v.release react c).2 = none := hrelease _
    split
    · exact ⟨.done, rfl⟩
    · rename_i u fault hu
      rw [hu] at hreturns
      cases hreturns

theorem inject_returns (hpolicy : caller.policy.Returns)
    (hrelease : forall v, (react .release v).2 = none) (reply : Reply) (w : World) :
    (w.inject caller react reply).2 = none := by
  unfold inject
  dsimp only
  split
  · rfl
  · rename_i v fault heq
    rcases handle_returns hpolicy hrelease .none (w.connect w.request.target).2
      (w.connect w.request.target).1.request
      (reply.toEvent (w.connect w.request.target).1.request)
      ((w.connect w.request.target).1.note (.injecting (w.connect w.request.target).2))
      with ⟨step, hstep⟩
    rw [heq] at hstep
    cases hstep

theorem act_returns {meddling : Prop}
    (hinject : meddling -> forall reply v, (World.inject caller react reply v).2 = none)
    (actions : List Action) (hactions : Orderly meddling actions) (w : World) :
    (w.act caller react actions).2 = none := by
  induction actions generalizing w with
  | nil =>
      rfl
  | cons a rest ih =>
      have hrest := ih (fun b hb => hactions b (List.mem_cons_of_mem a hb))
      rcases hactions a List.mem_cons_self with ⟨hreturns, hmeddling⟩
      cases a with
      | inject reply =>
          have hnone := hinject (hmeddling rfl) reply w
          unfold act
          split
          · exact hrest _
          · rename_i v fault heq
            rw [heq] at hnone
            cases hnone
      | hook =>
          exact hrest _
      | poll =>
          exact hrest _
      | breakDown fault =>
          cases hreturns

end Returning
end World

namespace Caller

def Within (caller : Caller) (meddling : Prop) : Prop :=
  forall t, t ∈ caller.triggers -> forall a, a ∈ t.actions -> a.isMeddling = true -> meddling

instance (caller : Caller) (meddling : Prop) [Decidable meddling] :
    Decidable (caller.Within meddling) :=
  inferInstanceAs (Decidable (forall t, t ∈ caller.triggers -> _))

theorem reactionAt_conduct {caller : Caller} {meddling : Prop}
    (hwithin : caller.Within meddling) (depth : Nat) :
    World.Conduct caller meddling (caller.reactionAt depth) := by
  induction depth with
  | zero =>
      intro m w
      exact .idle w
  | succ depth ih =>
      intro m w
      apply World.act_deed ih
      intro a ha
      rcases List.mem_flatMap.mp ha with ⟨t, ht, hat⟩
      exact hwithin t (List.mem_filter.mp ht).left a hat

theorem reaction_conduct {caller : Caller} {meddling : Prop}
    (hwithin : caller.Within meddling) :
    World.Conduct caller meddling caller.reaction :=
  reactionAt_conduct hwithin caller.triggers.length

theorem within_true (caller : Caller) : caller.Within True :=
  fun _ _ _ _ _ => trivial

def Spares (caller : Caller) (m : Moment) : Prop :=
  forall t, t ∈ caller.triggers -> t.moment = m ->
    forall a, a ∈ t.actions -> a.returns = true

instance (caller : Caller) (m : Moment) : Decidable (caller.Spares m) :=
  inferInstanceAs (Decidable (forall t, t ∈ caller.triggers -> _))

theorem spares_actionsFor {caller : Caller} {m : Moment} (h : caller.Spares m) (n : Nat) :
    Orderly True (caller.actionsFor m n) := by
  intro a ha
  rcases List.mem_flatMap.mp ha with ⟨t, ht, hat⟩
  have hmoment : t.moment = m := by
    have hboth := (List.mem_filter.mp ht).right
    simp only [Bool.and_eq_true, decide_eq_true_eq] at hboth
    exact hboth.left
  exact ⟨h t (List.mem_filter.mp ht).left hmoment a hat, fun _ => trivial⟩

theorem reactionAt_release_returns {caller : Caller} (hpolicy : caller.policy.Returns)
    (hrelease : caller.Spares .release) (depth : Nat) (w : World) :
    (caller.reactionAt depth .release w).2 = none := by
  induction depth generalizing w with
  | zero =>
      rfl
  | succ depth ih =>
      exact World.act_returns (fun _ => World.inject_returns hpolicy ih) _
        (spares_actionsFor hrelease _) w

theorem release_returns {caller : Caller} (hpolicy : caller.policy.Returns)
    (hrelease : caller.Spares .release) (w : World) :
    (caller.reaction .release w).2 = none :=
  reactionAt_release_returns hpolicy hrelease caller.triggers.length w

end Caller
end HttpCall
