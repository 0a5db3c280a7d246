import HttpCall.Proofs.Call.Lasting
import HttpCall.Proofs.Hooks.CalledOnce

/-!
# Loops that break down

Listeners, hooks and the caller's own transform may break down without harm: the call
ends all the same.  Nothing shields the loop from the policy, the pool and the connections.
If one of them breaks down, the loop goes down with it, and the call ends only if its
outcome was recorded before.
-/

namespace HttpCall

def Session.OfHops (hops : List Hop) (actions : List Action) : Prop :=
  exists h, h ∈ hops ∧ (actions = h.acquireActions ∨ actions = h.actions)

namespace World

/-- The loop is broken off with a fault, and the world is left as it was: the policy breaks
down when it is asked about the response to the request that was sent last, the pool when it
takes back the connection of a redirect that was followed there, or user code in the pool or
in a connection at one of its lists of actions. -/
inductive BrokenOff (caller : Caller) (react : Reaction) (hops : List Hop) :
    World -> Fault -> Prop where
  | policy {w : World} {fault : Fault} {hop : Nat} {response : Response} :
      IsEventOf hops hop w.request (.response response) ->
      w.call.phase = .pending ->
      caller.policy response w.request w.call.redirects = .error fault ->
      BrokenOff caller react hops w fault
  | release {fault : Fault} {hop : Nat} {u v : World} (listeners : Listeners)
      (c : Connection) (event : Event) (location : Url) (status : Status) :
      IsEventOf hops hop u.request event ->
      u.handle caller react listeners c u.request event =
        (v, .ok (.redirect location status)) ->
      (v.release react c).2 = some fault ->
      BrokenOff caller react hops (v.release react c).1 fault
  | act {fault : Fault} (u : World) (actions : List Action) :
      Session.OfHops hops actions -> (u.act caller react actions).2 = some fault ->
      BrokenOff caller react hops (u.act caller react actions).1 fault

/-- Nothing is left to be published.  An exchange is that of the request that was sent last,
and if nothing is waited for, there is an outcome or the loop was broken off. -/
structure Accounted (caller : Caller) (react : Reaction) (hops : List Hop) (w : World)
    (stage : Stage) : Prop where
  settles : Settles w stage
  sent : forall c hop q, stage = .exchanging c hop q -> w.request = q
  lost : forall fault, stage = .lost fault ->
    w.call.outcome.isSome = true ∨ BrokenOff caller react hops w fault

theorem request_drift :
    Drift (fun e => e.isOfLoop = false) (fun _ => True)
      (fun v w => w.request = v.request) where
  refl _ := rfl
  trans huv hvw := hvw.trans huv
  note _ _ := rfl
  access _ _ := rfl
  count _ _ _ _ := rfl

section Handling

variable {caller : Caller} {react : Reaction} {hops : List Hop} {v w : World} {stage : Stage}

/-- A handling that breaks down for want of a plan did nothing; any other has recorded an
outcome before. -/
theorem settled_or_unplanned (hreact : forall m v, Lasting v (react m v).1)
    {listeners : Listeners} {c : Connection} {request : Request} {event : Event}
    {fault : Fault}
    (h : w.handle caller react listeners c request event = (v, .error fault)) :
    v.call.outcome.isSome = true ∨
      v = w ∧ plan caller.policy w.call.snapshot request event = .error fault := by
  unfold handle at h
  cases hplan : plan caller.policy w.call.snapshot request event with
  | error first =>
      rw [hplan] at h
      cases h
      exact Or.inr ⟨rfl, rfl⟩
  | ok effects =>
      have hcarries := carries_plan hreact caller.policy listeners c request event hplan
      rw [hplan] at h
      dsimp only at h
      rcases hperform : perform react listeners c effects false w with
        ⟨x, first | ⟨location, status⟩⟩ <;> rw [hperform] at h hcarries
      · have hends := Resolves.ends caller hreact hcarries
          (lasting_fire hreact .release (.released c) x)
        rcases hrelease : x.release react c with ⟨y, _ | broken⟩
        · simp only [hrelease] at h
          cases h
        · rw [show x.fire react .release (.released c) = (y, some broken) from hrelease]
            at hends
          simp only [hrelease] at h
          cases h
          exact Or.inl hends.right
      · cases h

theorem Accounted.of_settled (h : w.Announced) (houtcome : w.call.outcome.isSome = true)
    (hends : stage.waits = false) : Accounted caller react hops w stage where
  settles := ⟨h, fun _ => houtcome⟩
  sent _ _ _ hstage := by
    cases hstage
    cases hends
  lost _ _ := Or.inl houtcome

theorem Accounted.of_lost {fault : Fault} (h : w.Announced)
    (hlost : w.call.outcome.isSome = true ∨ BrokenOff caller react hops w fault) :
    Accounted caller react hops w (.lost fault) where
  settles := ⟨h, fun hstage => nomatch hstage⟩
  sent _ _ _ hstage := nomatch hstage
  lost _ hstage := by
    cases hstage
    exact hlost

theorem Accounted.of_waits (hwaits : stage.waits = true) (h : w.Announced)
    (hsent : forall c hop q, stage = .exchanging c hop q -> w.request = q) :
    Accounted caller react hops w stage where
  settles := by
    refine ⟨h, ?_⟩
    rintro rfl
    cases hwaits
  sent := hsent
  lost fault := by
    rintro rfl
    cases hwaits

theorem Accounted.of_acquiring {hop : Nat} {q : Request} (h : w.Announced) :
    Accounted caller react hops w (.acquiring hop q) :=
  .of_waits rfl h fun _ _ _ => Stage.noConfusion

theorem accounted_onEvent (hreact : forall m v, Lasting v (react m v).1)
    (listeners : Listeners) {c : Connection} {hop : Nat} {q : Request} {event : Event}
    (hevent : IsEventOf hops hop q event)
    (hw : Accounted caller react hops w (.exchanging c hop q)) :
    Accounted caller react hops (w.onEvent caller react listeners c hop q event).1
      (w.onEvent caller react listeners c hop q event).2 := by
  cases hw.sent c hop q rfl
  have hsettles := @settles_onEvent caller react w hreact listeners c hop w.request event
    hw.settles.left
  unfold onEvent at hsettles ⊢
  rcases hresult : w.handle caller react listeners c w.request event with
    ⟨v, broken | _ | ⟨location, status⟩⟩ <;> rw [hresult] at hsettles
  · refine .of_lost hsettles.left ?_
    rcases settled_or_unplanned hreact hresult with hsettled | ⟨rfl, hplan⟩
    · exact Or.inl hsettled
    · rcases policy_of_plan_error hplan with ⟨response, rfl, hpending, hpolicy⟩
      exact Or.inr (.policy hevent hpending hpolicy)
  · exact .of_settled hsettles.left (hsettles.right rfl) rfl
  · dsimp only at hsettles ⊢
    rw [releaseThen_eq] at hsettles ⊢
    cases hbroken : (v.release react c).2 with
    | none =>
        exact .of_acquiring hsettles.left
    | some broken =>
        exact .of_lost hsettles.left
          (Or.inr (.release listeners c event location status hevent hresult hbroken))

theorem accounted_onUnavailable (hreact : forall m v, Lasting v (react m v).1)
    (listeners : Listeners) (e : TransportError) (hw : w.Announced) :
    Accounted caller react hops (w.onUnavailable caller react listeners e).1 .over := by
  have hended := lasting_onUnavailable caller hreact listeners e w
  exact .of_settled (hended.left.announced hw) hended.right rfl

theorem accounted_route (k : Conditions) (hconduct : Conduct k.caller True k.reaction)
    (hops : List Hop) :
    Route k hops (Session.OfHops hops) (fun _ _ _ w => w.Announced)
      (fun hop q w => Accounted k.caller k.reaction hops w (.acquiring hop q))
      (Accounted k.caller k.reaction hops) where
  pass _ hwaits h := .of_waits hwaits h.settles.left h.sent
  act {w stage actions} hactions hwaits h := by
    have hlasting := lasting_of_deed (act_deed hconduct actions (fun _ _ _ => trivial) w)
    have hannounced := hlasting.announced h.settles.left
    have hrequest : (w.act k.caller k.reaction actions).1.request = w.request :=
      request_drift.of_actions (fun _ => .outside) hconduct actions (fun _ _ _ => trivial) w
    cases hbroken : (w.act k.caller k.reaction actions).2 with
    | some fault =>
        exact .of_lost hannounced (Or.inr (.act w actions hactions hbroken))
    | none =>
        refine .of_waits hwaits hannounced ?_
        intro c hop q hstage
        exact hrequest.trans (h.sent c hop q hstage)
  send {w c hop q} h := by
    refine .of_waits rfl h ?_
    intro d n r hstage
    cases hstage
    rfl
  answer hhop hreply h := Route.reached_of_inv (accounted_onEvent hconduct.lasting k.listeners
    (Or.inl ⟨_, _, hhop, hreply, rfl⟩) h)
  late h := Route.reached_of_inv (accounted_onEvent hconduct.lasting k.listeners
    (Or.inr rfl) h)
  expire {w c hop q} h hdone := by
    have hlasting := lasting_fire hconduct.lasting .release (.released c) w
    have hannounced := hlasting.announced h.settles.left
    have hsettled := hlasting.settled (settled_of_isDone hdone)
    cases (w.release k.reaction c).2 with
    | none => exact .of_settled hannounced hsettled rfl
    | some fault => exact .of_settled hannounced hsettled rfl
  ask h := .of_acquiring h.settles.left
  grant h := h.settles.left
  refuse cause h := accounted_onUnavailable hconduct.lasting k.listeners _ h.settles.left
  exhaust h := accounted_onUnavailable hconduct.lasting k.listeners _ h.settles.left
  outOfTime h := accounted_onUnavailable hconduct.lasting k.listeners _ h.settles.left

end Handling
end World

namespace Session

/-- Every hook that was registered was called once, and none is left waiting. -/
structure HooksServed (plot : Plot) (w : World) : Prop where
  queue : w.call.hooks = []
  numbered : (w.completions.map Prod.fst).Perm (List.range' 1 (w.nextHook - 1))
  own : w.result.isSome = plot.transformed

theorem HooksCalled.served {caller : Caller} {plot : Plot} {w : World}
    (h : HooksCalled caller plot w) (hdone : w.call.isDone = true) : HooksServed plot w := by
  rcases World.visible_of_isDone hdone with ⟨o, ho⟩
  rcases h.shown o ho with ⟨hqueue, hnumbered, _, hown⟩
  refine ⟨hqueue, hnumbered, ?_⟩
  rw [hown]
  cases plot.transformed <;> rfl

section

variable {caller : Caller} {react : Reaction} {clockStart nextConnection : Nat} {plot : Plot}
  {request : Request} {hops : List Hop} {w : World} {course : List (World × Stage)}

theorem hooksCalled_of_mem_course (hconduct : World.Conduct caller True react)
    (hlaunch : launch caller react clockStart nextConnection plot request hops =
      .underway w course) :
    forall p, p ∈ course -> HooksCalled caller plot p.1 := by
  rcases launch_eq_underway hlaunch with ⟨h, rest, rfl, rfl, rfl⟩
  have hbegun := tends_withHooks hconduct.tendsIn plot
    (firstConnected request nextConnection h).1
  intro p hp
  apply hooksCalled_of_tends
  exact @Upkeep.inv_course _ (fun v _ => World.Tends _ _ v) caller react plot clockStart h
    rest _ request _
    (fun deadline => World.tends_upkeep ⟨caller, react, plot.listeners, deadline⟩ hconduct _)
    (fun _ _ => ⟨trivial, trivial⟩) hbegun (fun _ => hbegun) p hp

theorem accounted_of_mem_course (hconduct : World.Conduct caller True react)
    (hlaunch : launch caller react clockStart nextConnection plot request hops =
      .underway w course)
    (hclock : deadline? clockStart request w ≠ none) :
    forall p, p ∈ course -> p.2.waits = false ->
      World.Accounted caller react hops p.1 p.2 := by
  rcases launch_eq_underway hlaunch with ⟨h, rest, rfl, rfl, rfl⟩
  have hconnected : (firstConnected request nextConnection h).1.Announced := by
    intro houtcome
    cases houtcome
  have hbegun :
      (withHooks caller react plot (firstConnected request nextConnection h).1).Announced :=
    (World.lasting_drift.withHooks hconduct.lasting plot _).announced hconnected
  have hallowed : forall x, x ∈ h :: rest ->
      OfHops (h :: rest) x.acquireActions ∧ OfHops (h :: rest) x.actions := by
    intro x hx
    exact ⟨⟨x, hx, Or.inl rfl⟩, ⟨x, hx, Or.inr rfl⟩⟩
  have hroute : forall deadline, Route ⟨caller, react, plot.listeners, deadline⟩ (h :: rest)
      (OfHops (h :: rest)) (fun _ _ _ v => v.Announced)
      (fun hop q v => World.Accounted caller react (h :: rest) v (.acquiring hop q))
      (World.Accounted caller react (h :: rest)) :=
    fun deadline => World.accounted_route ⟨caller, react, plot.listeners, deadline⟩ hconduct _
  intro p hp hends
  have hstanding := Route.standing_course hroute hallowed hbegun
    (fun hnone => absurd hnone hclock) p hp
  rcases hstanding with haccounted | ⟨c, hop, q, hstage, _⟩ | ⟨hop, q, hstage, _⟩
  · exact haccounted
  · rw [hstage] at hends
    cases hends
  · rw [hstage] at hends
    cases hends

/-- Whatever breaks down, and wherever: once the loop is at its end, the call has ended and
all its hooks were called, unless the loop was broken off before any outcome was recorded,
by the policy, by the release of a followed redirect, or from within the pool or a
connection. -/
theorem ends_unless_broken_off (hconduct : World.Conduct caller True react)
    (hlaunch : launch caller react clockStart nextConnection plot request hops =
      .underway w course)
    (hclock : deadline? clockStart request w ≠ none) :
    forall v stage, (v, stage) ∈ course -> stage.waits = false ->
      (v.call.isDone = true -> HooksServed plot v) ∧
        (v.call.isDone = false -> v.call.outcome = none ∧ exists fault, stage = .lost fault ∧
          World.BrokenOff caller react hops v fault) := by
  intro v stage hv hends
  have haccounted := accounted_of_mem_course hconduct hlaunch hclock _ hv hends
  constructor
  · exact (hooksCalled_of_mem_course hconduct hlaunch _ hv).served
  · intro hpending
    have hunsettled : ¬ v.call.outcome.isSome = true := by
      intro houtcome
      rw [World.isDone_of_announced haccounted.settles.left houtcome] at hpending
      cases hpending
    refine ⟨Option.not_isSome_iff_eq_none.mp hunsettled, ?_⟩
    cases stage with
    | exchanging c hop q => cases hends
    | acquiring hop q => cases hends
    | «over» => exact absurd (haccounted.settles.right rfl) hunsettled
    | lost fault =>
        exact ⟨fault, rfl, (haccounted.lost fault rfl).resolve_left hunsettled⟩

end

/-!
### Calls in which the pool breaks down

Both are redirected once.  The pool breaks down when it takes back the second connection
of the one, after a listener broke down and the failure was recorded, and the first
connection of the other.
-/

def fragileCaller : Caller where
  policy := .always (plainUrl "b.test") (some 1)
  triggers := [⟨.headers, 2, [.breakDown (.text "listener bug")]⟩,
    ⟨.exception, 1, [.hook, .breakDown .other]⟩,
    ⟨.release, 2, [.hook, .breakDown (.text "pool bug")]⟩,
    ⟨.complete, 1, [.hook, .breakDown .other]⟩]
  transform _ := .error .other

def transformedPlot : Plot := { plainPlot with transformed := true }

theorem ends_unless_broken_off_while_outcome_waits :
    exists w course v,
      launch fragileCaller fragileCaller.reaction 0 1 transformedPlot (plainRequest none)
          [plainHop 5, plainHop 7] = .underway w course ∧
        course.getLast? = some (v, .lost (.text "pool bug")) ∧ v.call.isDone = true ∧
        HooksServed transformedPlot v := by
  have hconduct := Caller.reaction_conduct (Caller.within_true fragileCaller)
  have hlaunch : launch fragileCaller fragileCaller.reaction 0 1 transformedPlot
      (plainRequest none) [plainHop 5, plainHop 7] = .underway _ _ :=
    launch_of_connection rfl
  have hlast : forall w course,
      launch fragileCaller fragileCaller.reaction 0 1 transformedPlot (plainRequest none)
        [plainHop 5, plainHop 7] = .underway w course ->
      course.getLast?.map (fun p => (p.2, p.1.call.isDone)) =
        some (.lost (.text "pool bug"), true) := by
    intro w course h
    cases hlaunch.symm.trans h
    decide +kernel
  rcases Option.map_eq_some_iff.mp (hlast _ _ hlaunch) with ⟨⟨v, stage⟩, hv, heq⟩
  cases congrArg Prod.fst heq
  have hdone : v.call.isDone = true := congrArg Prod.snd heq
  exact ⟨_, _, v, hlaunch, hv, hdone,
    (ends_unless_broken_off hconduct hlaunch (by decide) v _ (List.mem_of_getLast? hv)
      rfl).left hdone⟩

def leakyCaller : Caller where
  policy := .always (plainUrl "b.test") (some 1)
  triggers := [⟨.release, 1, [.breakDown (.text "pool bug")]⟩]
  transform _ := .ok .null

/-- The loop is over, the call is pending, and its hook still waits. -/
theorem call_left_pending_between_hops :
    exists w course v,
      launch leakyCaller leakyCaller.reaction 0 1 plainPlot (plainRequest none)
          [plainHop 5, plainHop 7] = .underway w course ∧
        course.getLast? = some (v, .lost (.text "pool bug")) ∧ v.call.isDone = false ∧
        v.call.hooks = [.numbered 1] := by
  have hlaunch : launch leakyCaller leakyCaller.reaction 0 1 plainPlot (plainRequest none)
      [plainHop 5, plainHop 7] = .underway _ _ :=
    launch_of_connection rfl
  have hlast : forall w course,
      launch leakyCaller leakyCaller.reaction 0 1 plainPlot (plainRequest none)
        [plainHop 5, plainHop 7] = .underway w course ->
      course.getLast?.map (fun p => (p.2, p.1.call.isDone, p.1.call.hooks)) =
        some (.lost (.text "pool bug"), false, [.numbered 1]) := by
    intro w course h
    cases hlaunch.symm.trans h
    decide +kernel
  rcases Option.map_eq_some_iff.mp (hlast _ _ hlaunch) with ⟨⟨v, stage⟩, hv, heq⟩
  cases congrArg Prod.fst heq
  have hrest : (v.call.isDone, v.call.hooks) = (false, [.numbered 1]) :=
    congrArg Prod.snd heq
  exact ⟨_, _, v, hlaunch, hv, congrArg Prod.fst hrest, congrArg Prod.snd hrest⟩

end Session
end HttpCall
