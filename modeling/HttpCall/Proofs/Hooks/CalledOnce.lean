import HttpCall.Proofs.Hooks.Service

/-!
# Hooks are called once

The hooks of a call are the one that computes the caller's own result, if it was asked
for, and the numbered ones.  Whoever registers them, and whenever, each of them is called
once, after the outcome became visible and with that outcome.
-/

namespace HttpCall

def Hook.number? : Hook -> Option Nat
  | numbered n => some n
  | transform => none

def Plot.hooksBelow (plot : Plot) (nextHook : Nat) : List Hook :=
  (if plot.transformed then [.transform] else []) ++
    (List.range' 1 (nextHook - 1)).map .numbered

theorem Plot.numbers_hooksBelow (plot : Plot) (nextHook : Nat) :
    (plot.hooksBelow nextHook).filterMap Hook.number? = List.range' 1 (nextHook - 1) := by
  have hnumbers : forall ns : List Nat, (ns.map Hook.numbered).filterMap Hook.number? = ns := by
    intro ns
    rw [List.filterMap_map]
    exact List.filterMap_some
  unfold hooksBelow
  rw [List.filterMap_append, hnumbers]
  cases plot.transformed <;> rfl

theorem Plot.transform_mem_hooksBelow {plot : Plot} {nextHook : Nat} :
    .transform ∈ plot.hooksBelow nextHook <-> plot.transformed = true := by
  unfold hooksBelow
  cases plot.transformed <;> simp

namespace World

theorem map_told (runs : List (Hook × Outcome)) :
    (runs.filterMap Hook.told).map Prod.fst = (runs.map Prod.fst).filterMap Hook.number? := by
  induction runs with
  | nil =>
      rfl
  | cons p rest ih =>
      rcases p with ⟨n | _, o⟩
      · exact congrArg (List.cons n) ih
      · exact ih

theorem foldl_resultAfter {own : Outcome -> Except Failure Json} {o : Outcome}
    {runs : List (Hook × Outcome)} (hgiven : forall p, p ∈ runs -> p.2 = o)
    (result : Option (Except Failure Json)) :
    runs.foldl (resultAfter own) result =
      if .transform ∈ runs.map Prod.fst then some (own o) else result := by
  induction runs generalizing result with
  | nil =>
      rfl
  | cons p rest ih =>
      have hrest := ih (fun q hq => hgiven q (List.mem_cons_of_mem p hq))
      have hp := hgiven p List.mem_cons_self
      rw [List.foldl_cons, hrest, List.map_cons]
      rcases p with ⟨n | _, first⟩
      · simp only [List.mem_cons, reduceCtorEq, false_or, resultAfter]
      · cases hp
        simp only [List.mem_cons, true_or, if_true, resultAfter, ite_self]

end World

namespace Session

/-- What became of the hooks of a call in a world. -/
structure HooksCalled (caller : Caller) (plot : Plot) (w : World) : Prop where
  /-- The journal and the caller's own result are those of turns that call each hook
  once, and no round is left unfinished. -/
  turns : exists turns rounds, Roster.Course .opening turns ⟨w.call, rounds⟩ ∧
    OnceEach turns ⟨w.call, rounds⟩ ∧ rounds.all Round.isOver = true ∧
    Turn.registered turns = plot.hooksBelow w.nextHook ∧
    w.completions = (Turn.runs turns).filterMap Hook.told ∧
    w.result = (Turn.runs turns).foldl (World.resultAfter (World.resultOf caller)) none
  hidden : w.call.visible = none -> w.completions = [] ∧ w.result = none ∧
    w.call.hooks = plot.hooksBelow w.nextHook
  shown : forall o, w.call.visible = some o -> w.call.hooks = [] ∧
    (w.completions.map Prod.fst).Perm (List.range' 1 (w.nextHook - 1)) ∧
    (forall p, p ∈ w.completions -> p.2 = o) ∧
    w.result = if plot.transformed then some (World.resultOf caller o) else none

theorem hooksCalled_of_course {caller : Caller} {plot : Plot} {w : World}
    {turns : List Turn} {rounds : List Round}
    (hcourse : Roster.Course .opening turns ⟨w.call, rounds⟩)
    (hover : rounds.all Round.isOver = true)
    (hregistered : Turn.registered turns = plot.hooksBelow w.nextHook)
    (hcompletions : w.completions = (Turn.runs turns).filterMap Hook.told)
    (hresult : w.result =
      (Turn.runs turns).foldl (World.resultAfter (World.resultOf caller)) none) :
    HooksCalled caller plot w where
  turns := ⟨turns, rounds, hcourse, hcourse.onceEach, hover, hregistered, hcompletions,
    hresult⟩
  hidden := by
    intro hvisible
    rcases hcourse.kept.hidden hvisible with ⟨_, hstarted, hqueue⟩
    have hruns : Turn.runs turns = [] := List.map_eq_nil_iff.mp hstarted
    rw [hcompletions, hresult, hruns]
    exact ⟨rfl, rfl, hqueue.trans hregistered⟩
  shown := by
    intro o hvisible
    have hgiven : forall p, p ∈ Turn.runs turns -> p.2 = o :=
      fun p hp => Option.some.inj ((hcourse.kept.given p hp).symm.trans hvisible)
    have hperm : (Turn.started turns).Perm (plot.hooksBelow w.nextHook) := by
      rw [← hregistered]
      exact hcourse.onceEach.ended (by rw [hvisible]; rfl) hover
    refine ⟨(hcourse.kept.shown o hvisible).left, ?_, ?_, ?_⟩
    · rw [hcompletions, World.map_told, ← plot.numbers_hooksBelow]
      exact hperm.filterMap _
    · rw [hcompletions]
      intro p hp
      rcases List.mem_filterMap.mp hp with ⟨⟨n | _, o'⟩, hq, htold⟩
      · cases htold
        exact hgiven _ hq
      · cases htold
    · have hasked : .transform ∈ (Turn.runs turns).map Prod.fst <-> plot.transformed = true :=
        hperm.mem_iff.trans Plot.transform_mem_hooksBelow
      rw [hresult, World.foldl_resultAfter hgiven]
      simp only [hasked]

section

variable {caller : Caller} {react : Reaction} {clockStart nextConnection : Nat} {plot : Plot}
  {request : Request} {h : Hop}

def beforeNumbered (caller : Caller) (react : Reaction) (plot : Plot) (w : World) : World :=
  if plot.transformed then w.register caller react .transform else w

theorem tends_withHooks (hreact : World.TendsIn (World.resultOf caller) react) (plot : Plot)
    (w : World) :
    World.Tends (World.resultOf caller) (beforeNumbered caller react plot w)
      (withHooks caller react plot w) := by
  have hnumbered : forall (ns : List Nat) (v : World),
      World.Tends (World.resultOf caller) v
        (ns.foldl (fun u _ => u.registerNumbered caller react) v) := by
    intro ns
    induction ns with
    | nil =>
        exact World.Tends.refl _
    | cons n rest ih =>
        exact fun v => (World.tends_registerNumbered hreact v).trans (ih _)
  exact hnumbered _ _

/-- From the moment at which the call has its first connection, whatever happens comes
about by turns. -/
theorem hooksCalled_of_tends {w : World}
    (htends : World.Tends (World.resultOf caller)
      (beforeNumbered caller react plot (firstConnected request nextConnection h).1) w) :
    HooksCalled caller plot w := by
  rcases htends [] with ⟨rounds, turns, hover, hfollows⟩
  rcases hfollows.numbers with ⟨ns, hrange, hregistered⟩
  have hns : ns = List.range' 1 (w.nextHook - 1) := by
    have hone : (beforeNumbered caller react plot
        (firstConnected request nextConnection h).1).nextHook = 1 := by
      unfold beforeNumbered
      cases plot.transformed <;> rfl
    rw [hone] at hrange
    cases hnext : w.nextHook with
    | zero =>
        rw [hnext] at hrange
        cases hrange
    | succ n =>
        rw [hnext, List.range_eq_range', List.range'_succ] at hrange
        exact (List.cons.inj hrange).right.symm
  have hcourse := hfollows.course
  have hcompletions := hfollows.completions
  have hresult := hfollows.result
  cases htransformed : plot.transformed with
  | false =>
      simp only [beforeNumbered, htransformed] at hcourse hcompletions hresult
      refine hooksCalled_of_course hcourse hover ?_ hcompletions hresult
      simp only [hregistered, hns, Plot.hooksBelow, htransformed]
      rfl
  | true =>
      simp only [beforeNumbered, htransformed] at hcourse hcompletions hresult
      have hfirst : Roster.Course .opening [.access (.register .transform)]
          ⟨Call.fresh.enqueue .transform, []⟩ :=
        .single (.access .fresh [] (.register .transform))
      refine hooksCalled_of_course (hfirst.append hcourse) hover ?_ hcompletions hresult
      rw [Turn.registered_append, hregistered, hns, Plot.hooksBelow, htransformed]
      rfl

theorem tends_launch (hconduct : World.Conduct caller True react) {hops : List Hop}
    {w : World} {course : List (World × Stage)}
    (hlaunch : launch caller react clockStart nextConnection plot request hops =
      .underway w course) :
    exists h, forall u, u ∈ w :: course.map Prod.fst ->
      World.Tends (World.resultOf caller)
        (beforeNumbered caller react plot (firstConnected request nextConnection h).1) u := by
  rcases launch_eq_underway hlaunch with ⟨h, rest, rfl, rfl, rfl⟩
  refine ⟨h, fun u hu => ?_⟩
  have hbegun := tends_withHooks hconduct.tendsIn plot
    (firstConnected request nextConnection h).1
  rcases List.mem_cons.mp hu with rfl | hu
  · exact hbegun
  · rcases List.mem_map.mp hu with ⟨p, hp, rfl⟩
    exact @Upkeep.inv_course _ (fun v _ => World.Tends _ _ v) caller react plot
      clockStart h rest _ request _
      (fun deadline => World.tends_upkeep
        ⟨caller, react, plot.listeners, deadline⟩ hconduct _)
      (fun _ _ => ⟨trivial, trivial⟩) hbegun (fun _ => hbegun) p hp

/-- In whatever order hooks are registered and the outcome is settled and published,
each hook is called once, after the publication and with the outcome that was settled
first.  The worlds of a call come about in such an order, and so do those that user code
makes of them afterwards. -/
theorem hooks_called_once (hconduct : World.Conduct caller True react) :
    (forall turns s, Roster.Course .opening turns s -> OnceEach turns s) ∧
      forall clockStart nextConnection plot request hops w course,
        launch caller react clockStart nextConnection plot request hops =
          .underway w course ->
        forall u v, u ∈ w :: course.map Prod.fst -> World.Deed caller True u v ->
          HooksCalled caller plot v := by
  refine ⟨fun turns s hcourse => hcourse.onceEach, ?_⟩
  intro clockStart nextConnection plot request hops w course hlaunch u v hu hdeed
  rcases tends_launch hconduct hlaunch with ⟨h, htends⟩
  exact hooksCalled_of_tends ((htends u hu).trans (World.tends_of_deed hdeed))

theorem hooks_called_once_over_breakdown :
    exists w course,
      launch meddlingCaller meddlingCaller.reaction 0 1 plainPlot (plainRequest none)
        [plainHop 5] = .underway w course ∧
      forall u, u ∈ w :: course.map Prod.fst ->
        HooksCalled meddlingCaller plainPlot
          (u.registerNumbered meddlingCaller meddlingCaller.reaction) := by
  have hconduct := Caller.reaction_conduct (Caller.within_true meddlingCaller)
  have hlaunch : launch meddlingCaller meddlingCaller.reaction 0 1 plainPlot
      (plainRequest none) [plainHop 5] = .underway _ _ :=
    launch_of_connection rfl
  refine ⟨_, _, hlaunch, ?_⟩
  intro u hu
  exact (hooks_called_once hconduct).right 0 1 plainPlot (plainRequest none) [plainHop 5] _
    _ hlaunch u _ hu (.hook _ u hconduct)

end

end Session
end HttpCall
