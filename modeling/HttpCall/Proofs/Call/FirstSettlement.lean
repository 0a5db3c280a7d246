import HttpCall.Proofs.Call.Nesting

/-!
# The first settlement wins

However handlings of events for a call are ordered, nested or interleaved, the call
ends as it was settled first.  Interleavings of single accesses are the general case;
handlings as they are carried out, and the whole course of a call, are among them.
-/

namespace HttpCall
namespace Session

/-- The call in a world is what an interleaving came to, and whatever was seen of it on
the way is what the accesses made until then had come to. -/
def Interleaved (w : World) : Prop :=
  exists accesses runs, Scene.Course .opening accesses ⟨w.call, runs⟩ ∧
    FirstWins accesses ⟨w.call, runs⟩ ∧
    forall s, s ∈ w.journal -> exists before after, accesses = before ++ after ∧
      s.Tells (Call.fresh.accessAll before)

theorem interleaved_of_joined {request : Request} {nextConnection : Nat} {w : World}
    (h : World.Joined (opening request nextConnection) [] w []) : Interleaved w := by
  rcases h with ⟨runs, accesses, hcourse, news, hnews, htold⟩
  refine ⟨accesses, runs, hcourse, hcourse.firstWins, ?_⟩
  intro s hs
  rw [hnews, show (opening request nextConnection).journal = [] from rfl,
    List.append_nil] at hs
  exact htold s hs

theorem interleaved_of_mem_worlds {caller : Caller} {react : Reaction}
    (hconduct : World.Conduct caller True react) {clockStart nextConnection : Nat}
    {plot : Plot} {request : Request} {hops : List Hop} {w : World}
    (hw : w ∈
      (launch caller react clockStart nextConnection plot request hops).worlds) :
    Interleaved w := by
  have hreact := hconduct.joinsIn
  have hact : forall actions v, World.Joins v (v.act caller react actions).1 :=
    fun actions v =>
      World.joins_of_deed (World.act_deed hconduct actions (fun _ _ _ => trivial) v)
  apply interleaved_of_joined
  revert w
  apply worlds_induction
  · exact World.Joins.refl _ []
  · intro time asked v hv
    exact hv.of_same rfl rfl
  · intro cause v hv
    exact hv.note trivial
  · rintro h w hanswer rfl
    have hconnected : World.Joined (opening request nextConnection) []
        ((firstAnswer request nextConnection h).connect request.target).1 [] :=
      hanswer.of_same rfl rfl
    have hacquired := hconnected.note
      (e := .acquired (firstConnected request nextConnection h).2) trivial
    have hbegun := withHooks_induction
      (fun hook v hv => World.Joined.trans hv (World.joins_register hreact caller hook v))
      (fun _ _ hv => hv.of_same rfl rfl) plot
      (hacquired.of_same (w := (firstConnected request nextConnection h).1) rfl rfl)
    refine ⟨hbegun, ?_⟩
    intro rest
    exact Upkeep.inv_course
      (fun deadline => World.joined_upkeep ⟨caller, react, plot.listeners, deadline⟩ hreact
        hact (opening request nextConnection))
      (fun _ _ => ⟨trivial, trivial⟩) hbegun (fun _ => hbegun)

/-- Of all interleavings of accesses, the first settlement wins.  A handling, with all
that happens inside it, is one of the handlings in such an interleaving and ends as it
returns; and every world of a call comes about by one. -/
theorem first_settlement_wins {caller : Caller} {react : Reaction}
    (hconduct : World.Conduct caller True react) :
    (forall accesses s, Scene.Course .opening accesses s -> FirstWins accesses s) ∧
      (forall listeners c request event w runs,
        (exists fault,
          w.handle caller react listeners c request event = (w, .error fault)) ∨
        World.Joined w runs (w.handle caller react listeners c request event).1
          (runs ++
            [World.progressOf (w.handle caller react listeners c request event).2])) ∧
      forall clockStart nextConnection plot request hops w,
        w ∈ (launch caller react clockStart nextConnection plot request hops).worlds ->
        Interleaved w := by
  refine ⟨?_, ?_, ?_⟩
  · intro accesses s h
    exact h.firstWins
  · intro listeners c request event w runs
    exact World.joined_handle hconduct.joinsIn caller listeners c request event w runs
  · intro clockStart nextConnection plot request hops w hw
    exact interleaved_of_mem_worlds hconduct hw

theorem first_settlement_wins_over_meddling :
    World.Conduct meddlingCaller True meddlingCaller.reaction ∧
      forall w, w ∈ (launch meddlingCaller meddlingCaller.reaction 0 1 plainPlot
        (plainRequest none) [plainHop 5]).worlds -> Interleaved w := by
  have hconduct := Caller.reaction_conduct (Caller.within_true meddlingCaller)
  constructor
  · exact hconduct
  · exact (first_settlement_wins hconduct).right.right 0 1 plainPlot (plainRequest none)
      [plainHop 5]

end Session
end HttpCall
