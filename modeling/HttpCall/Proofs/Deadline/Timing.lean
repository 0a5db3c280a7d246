import HttpCall.Proofs.Deadline.Spell
import HttpCall.Proofs.Handling.Instant

/-!
# Time in a run

A run moves forward in time, by waiting only, and no wait goes past the deadline.  What is
kept by all that happens at one time, and by the waits, holds throughout a run.
-/

namespace HttpCall

theorem Wait.of_eq_ended {deadline : Option Nat} {now delay time : Nat}
    (h : Wait.of deadline now delay = .ended time) :
    time = now + delay ∧ forall d, deadline = some d -> time <= max now d := by
  unfold Wait.of at h
  split at h
  · rename_i hdelay
    cases h
    refine ⟨by rw [hdelay, Nat.add_zero], fun d _ => Nat.le_max_left now d⟩
  · cases deadline with
    | none =>
        cases h
        exact ⟨rfl, fun _ hd => nomatch hd⟩
    | some d =>
        dsimp only at h
        split at h
        · rename_i hle
          cases h
          refine ⟨rfl, ?_⟩
          intro d' hd'
          cases hd'
          exact Nat.le_trans hle (Nat.le_max_right now d)
        · cases h

theorem Wait.of_eq_expired {deadline : Option Nat} {now delay time : Nat}
    (h : Wait.of deadline now delay = .expired time) :
    exists d, deadline = some d ∧ time = max now d := by
  unfold Wait.of at h
  split at h
  · cases h
  · cases deadline with
    | none =>
        cases h
    | some d =>
        dsimp only at h
        split at h
        · cases h
        · cases h
          exact ⟨d, rfl, rfl⟩

namespace Conditions

variable {k : Conditions}

theorem atOnce_afterExchange (hconduct : World.Conduct k.caller True k.reaction)
    (c : Connection) (hop : Nat) (request : Request) (w : World) (e : Spell.End Reply) :
    World.AtOnce w (k.afterExchange c hop request w e).1 := by
  cases e with
  | answered reply =>
      exact World.atOnce_drift.onEvent .outside hconduct.atOnce k.caller k.listeners c hop
        request _ w
  | expired =>
      exact World.atOnce_onExchangeExpired k.caller hconduct.atOnce k.listeners c hop request w
  | brokeDown fault =>
      exact World.AtOnce.refl w
  | endless =>
      exact World.AtOnce.refl w

theorem atOnce_afterAcquisition (hconduct : World.Conduct k.caller True k.reaction)
    (hop : Nat) (request : Request) (w : World)
    (e : Spell.End (Except TransportError Unit)) :
    World.AtOnce w (k.afterAcquisition hop request w e).1 := by
  rcases e with (cause | _) | _ | fault | _
  · exact (World.AtOnce.of_note _ w).trans
      (World.atOnce_onUnavailable hconduct.atOnce k.listeners cause _)
  · exact World.atOnce_onGranted hop request w
  · exact World.atOnce_onUnavailable hconduct.atOnce k.listeners _ w
  · exact World.AtOnce.refl w
  · exact World.AtOnce.refl w

theorem atOnce_refuse (hconduct : World.Conduct k.caller True k.reaction) (request : Request)
    (w : World) : World.AtOnce w (k.refuse request w).1 :=
  (World.AtOnce.of_note _ w).trans
    (World.atOnce_onUnavailable hconduct.atOnce k.listeners _ _)

end Conditions

def World.By (d : Nat) (w : World) : Prop :=
  w.now <= d ∧ forall s, s ∈ w.journal -> s.time <= d

/-- `Clocked deadline inv` says that `inv` is kept while the clock stands still, and by
waits that end by the deadline, or at once. -/
structure Clocked (deadline : Option Nat) (inv : World -> Prop) : Prop where
  still {v w : World} : World.AtOnce v w -> inv v -> inv w
  wait {w : World} {time : Nat} :
    w.now <= time -> (forall d, deadline = some d -> time <= max w.now d) -> inv w ->
    inv { w with now := time }

namespace Clocked

open Conditions

def Throughout (inv : World -> Prop) (course : Conditions.Course) : Prop :=
  (forall p, p ∈ course.1 -> inv p.1) ∧ inv course.2.1

theorem Throughout.append {inv : World -> Prop} {past more : List (World × Stage)}
    {w : World} {stage : Stage} (h : Throughout inv (past, w, stage))
    (hmore : forall p, p ∈ more -> inv p.1) :
    forall p, p ∈ past ++ (w, stage) :: more -> inv p.1 := by
  intro p hp
  rcases List.mem_append.mp hp with hp | hp
  · exact h.left p hp
  · rcases List.mem_cons.mp hp with rfl | hp
    · exact h.right
    · exact hmore p hp

section

variable {k : Conditions} {inv : World -> Prop} {w : World}

theorem kept_wait (t : Clocked k.deadline inv) {delay time : Nat}
    (h : Wait.of k.deadline w.now delay = .ended time) (hw : inv w) :
    inv { w with now := time } := by
  rcases Wait.of_eq_ended h with ⟨rfl, hle⟩
  exact t.wait (Nat.le_add_right w.now delay) hle hw

theorem kept_expiry (t : Clocked k.deadline inv) {d : Nat} (h : k.deadline = some d)
    (hw : inv w) : inv { w with now := max w.now d } := by
  apply t.wait (Nat.le_max_left w.now d) _ hw
  intro d' hd'
  cases h.symm.trans hd'
  exact Nat.le_refl _

variable (t : Clocked k.deadline inv) (hconduct : World.Conduct k.caller True k.reaction)

include t hconduct

theorem kept_attend {α : Type} (stage : Stage) (answer : Option α)
    (acts : List (Nat × List Action)) (hw : inv w) :
    (forall p, p ∈ (k.attend stage answer acts w).1 -> inv p.1) ∧
      inv (k.attend stage answer acts w).2.1 := by
  induction acts generalizing w with
  | nil =>
      cases answer with
      | some a =>
          exact ⟨fun _ hp => absurd hp List.not_mem_nil, hw⟩
      | none =>
          cases hdeadline : k.deadline with
          | none =>
              rw [attend_nil_of_no_deadline hdeadline]
              exact ⟨fun _ hp => absurd hp List.not_mem_nil, hw⟩
          | some d =>
              rw [attend_nil_of_deadline hdeadline]
              exact ⟨fun p hp => List.mem_singleton.mp hp ▸ hw, t.kept_expiry hdeadline hw⟩
  | cons act rest ih =>
      rcases act with ⟨delay, actions⟩
      cases hwait : Wait.of k.deadline w.now delay with
      | expired time =>
          rw [attend_of_expired hwait]
          rcases Wait.of_eq_expired hwait with ⟨d, hdeadline, rfl⟩
          exact ⟨fun p hp => List.mem_singleton.mp hp ▸ hw, t.kept_expiry hdeadline hw⟩
      | ended time =>
          have hacted := t.still
            (World.atOnce_act hconduct actions (fun _ _ _ => trivial) { w with now := time })
            (t.kept_wait hwait hw)
          rcases hact : { w with now := time }.act k.caller k.reaction actions with
            ⟨v, _ | fault⟩ <;> rw [hact] at hacted
          · rw [attend_of_acted hwait hact]
            have hrest := ih hacted
            refine ⟨?_, hrest.right⟩
            intro p hp
            rcases List.mem_cons.mp hp with rfl | hp
            · exact hw
            · exact hrest.left p hp
          · rw [attend_of_brokeDown hwait hact]
            exact ⟨fun p hp => List.mem_singleton.mp hp ▸ hw, hacted⟩

theorem kept_exchangeIn (s : Spell Reply) (c : Connection) (hop : Nat) (request : Request)
    (hw : inv w) :
    Throughout inv (k.exchangeIn s c hop request w) := by
  have hattended := t.kept_attend hconduct (.exchanging c hop request) s.answer s.acts
    (t.still (World.atOnce_send request w) hw)
  exact ⟨hattended.left, t.still (atOnce_afterExchange hconduct ..) hattended.right⟩

theorem kept_acquireIn (s : Spell (Except TransportError Unit)) (hop : Nat)
    (request : Request) (hw : inv w) :
    Throughout inv (k.acquireIn s hop request w) := by
  have hasked : World.AtOnce w { w with asked := w.asked + 1 } := .of_same rfl rfl
  have hattended := t.kept_attend hconduct (.acquiring hop request) s.answer s.acts
    (t.still hasked hw)
  exact ⟨hattended.left, t.still (atOnce_afterAcquisition hconduct ..) hattended.right⟩

theorem kept_runIn (script : List Stretch) {c : Connection} {hop : Nat} {request : Request}
    (hw : inv w) :
    forall p, p ∈ k.runIn script c hop request w -> inv p.1 := by
  have hnone : forall p : World × Stage, p ∈ [] -> inv p.1 :=
    fun p hp => absurd hp List.not_mem_nil
  induction script generalizing c hop request w with
  | nil =>
      exact hnone
  | cons s rest ih =>
      rcases hexchange : k.exchangeIn s.exchange c hop request w with ⟨past, x, stage⟩
      have hexchanged := t.kept_exchangeIn hconduct s.exchange c hop request hw
      rw [hexchange] at hexchanged
      cases stage with
      | acquiring n r =>
          cases rest with
          | nil =>
              rw [runIn_of_exhausted hexchange]
              apply hexchanged.append
              intro p hp
              cases List.mem_singleton.mp hp
              exact t.still (atOnce_refuse hconduct r x) hexchanged.right
          | cons next rest =>
              rcases hacquire : k.acquireIn next.acquisition n r x with ⟨past', y, stage⟩
              have hacquired :=
                t.kept_acquireIn hconduct next.acquisition n r hexchanged.right
              rw [hacquire] at hacquired
              cases stage with
              | exchanging d m q =>
                  rw [runIn_of_acquired hexchange hacquire]
                  exact hexchanged.append (hacquired.append (ih hacquired.right))
              | _ =>
                  rw [runIn_of_unacquired hexchange hacquire (fun _ _ _ => Stage.noConfusion)]
                  exact hexchanged.append (hacquired.append hnone)
      | _ =>
          rw [runIn_of_end hexchange (fun _ _ => Stage.noConfusion)]
          exact hexchanged.append hnone

end

theorem since (deadline : Option Nat) (start : Nat) :
    Clocked deadline (fun w => start <= w.now) where
  still h hv := by
    rw [h.now]
    exact hv
  wait hforward _ hw := Nat.le_trans hw hforward

theorem by_deadline {deadline : Option Nat} {d : Nat} (hdeadline : deadline = some d) :
    Clocked deadline (World.By d) where
  still h hv := by
    rcases h.noted with ⟨newer, hjournal, hnewer⟩
    refine ⟨h.now ▸ hv.left, ?_⟩
    intro s hs
    rw [hjournal] at hs
    rcases List.mem_append.mp hs with hs | hs
    · rw [hnewer s hs]
      exact hv.left
    · exact hv.right s hs
  wait _ hlimit hw :=
    ⟨Nat.le_trans (hlimit d hdeadline) (Nat.max_le.mpr ⟨hw.left, Nat.le_refl d⟩), hw.right⟩

end Clocked
end HttpCall
