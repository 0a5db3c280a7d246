import HttpCall.Proofs.Handling.Drift

/-!
# Handlings take no time

Time passes in waits only.  Whatever is done between two waits is done on one reading of
the clock, and all that is noted meanwhile bears that time.
-/

namespace HttpCall
namespace World

/-- `AtOnce v w` says that `v` became `w` while the clock stood still. -/
structure AtOnce (v w : World) : Prop where
  now : w.now = v.now
  noted : exists newer, w.journal = newer ++ v.journal ∧ forall s, s ∈ newer -> s.time = v.now

namespace AtOnce

variable {u v w : World}

theorem of_same (hnow : w.now = v.now) (hjournal : w.journal = v.journal) : AtOnce v w :=
  ⟨hnow, [], hjournal, fun _ hs => absurd hs List.not_mem_nil⟩

theorem refl (w : World) : AtOnce w w := of_same rfl rfl

theorem trans (huv : AtOnce u v) (hvw : AtOnce v w) : AtOnce u w := by
  rcases huv.noted with ⟨first, hv, hfirst⟩
  rcases hvw.noted with ⟨second, hw, hsecond⟩
  refine ⟨hvw.now.trans huv.now, second ++ first, ?_, ?_⟩
  · rw [hw, hv, List.append_assoc]
  · intro s hs
    rcases List.mem_append.mp hs with hs | hs
    · exact (hsecond s hs).trans huv.now
    · exact hfirst s hs

theorem of_note (e : Entry) (w : World) : AtOnce w (w.note e) := by
  refine ⟨rfl, [⟨w.now, w.view, e⟩], rfl, ?_⟩
  intro s hs
  cases List.mem_singleton.mp hs
  rfl

end AtOnce

theorem atOnce_drift : Drift (fun e => e.isOfLoop = false) (fun _ => True) AtOnce where
  refl := AtOnce.refl
  trans := AtOnce.trans
  note w _ := AtOnce.of_note _ w
  access _ _ := .of_same rfl rfl
  count _ _ _ _ := .of_same rfl rfl

/-!
## Blocks of work
-/

section

variable {caller : Caller} {react : Reaction} {meddling : Prop}

theorem Conduct.atOnce (h : Conduct caller meddling react) (m : Moment) (v : World) :
    AtOnce v (react m v).1 :=
  atOnce_drift.of_conduct (fun _ => .outside) h m v

theorem atOnce_act (hconduct : Conduct caller meddling react) (actions : List Action)
    (hactions : forall a, a ∈ actions -> a.isMeddling = true -> meddling) (w : World) :
    AtOnce w (w.act caller react actions).1 :=
  atOnce_drift.of_actions (fun _ => .outside) hconduct actions hactions w

theorem atOnce_send (request : Request) (w : World) : AtOnce w (w.send request) := by
  have hasked : AtOnce w { w with request := request } := .of_same rfl rfl
  exact hasked.trans (AtOnce.of_note _ _)

theorem atOnce_onExchangeExpired (caller : Caller)
    (hreact : forall m v, AtOnce v (react m v).1) (listeners : Listeners) (c : Connection)
    (hop : Nat) (request : Request) (w : World) :
    AtOnce w (w.onExchangeExpired caller react listeners c hop request).1 := by
  unfold onExchangeExpired
  split
  · rw [releaseThen_eq]
    exact atOnce_drift.release hreact c w
  · exact atOnce_drift.onEvent .outside hreact caller listeners c hop request _ w

theorem atOnce_onGranted (hop : Nat) (request : Request) (w : World) :
    AtOnce w (w.onGranted hop request).1 := by
  have hconnected : AtOnce w (w.connect request.target).1 := .of_same rfl rfl
  exact hconnected.trans (AtOnce.of_note _ _)

theorem atOnce_onUnavailable (hreact : forall m v, AtOnce v (react m v).1)
    (listeners : Listeners) (e : TransportError) (w : World) :
    AtOnce w (w.onUnavailable caller react listeners e).1 :=
  atOnce_drift.onUnavailable hreact (fun _ => trivial) trivial listeners e w

end
end World
end HttpCall
