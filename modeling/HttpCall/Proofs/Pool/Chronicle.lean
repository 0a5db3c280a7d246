import HttpCall.Proofs.Pool.Story

/-!
# The chronicle of a call

The loop over hops goes from block to block, and each block turns one use of the pool into
another.  So the story of a call can be followed from its first question to the pool to its
end, however many hops there are.
-/

namespace HttpCall
namespace World

section Blocks

variable {caller : Caller} {react : Reaction} {u : Use} {v w : World}

/-!
## Blocks of the loop
-/

/-- What a call has when it goes on to the next wait. -/
def Suits (u : Use) : Stage -> Prop
  | .exchanging c _ _ => u = .holding c
  | .acquiring _ _ => u = .resting
  | .over | .lost _ => True

def Gains (u : Use) : Stage -> Prop
  | .exchanging c _ _ => u = .holding c
  | _ => True

def Lands (final : Use -> Stage -> Prop) (u : Use) (v : World) (p : World × Stage) : Prop :=
  exists u', Moves u v u' p.1 ∧ final u' p.2

theorem Suits.orLost {stage : Stage} (h : Suits u stage) (fault? : Option Fault) :
    Suits u (stage.orLost fault?) := by
  cases fault? with
  | none => exact h
  | some fault => trivial

theorem lands_onEvent (caller : Caller) (hreact : forall m v, Keeps v (react m v).1)
    (listeners : Listeners) {c : Connection} (hop : Nat) (request : Request) (event : Event)
    (hw : Stands (.holding c) w) :
    Lands Suits (.holding c) w (w.onEvent caller react listeners c hop request event) := by
  have hhandled := (outline_moves caller hreact c (.holding c) w).handled listeners request
    event (Moves.refl hw)
  unfold onEvent
  rcases hresult : w.handle caller react listeners c request event with
    ⟨v, fault | _ | ⟨location, status⟩⟩ <;> rw [hresult] at hhandled
  · rcases hhandled with rfl | ⟨u', hmoves⟩
    · exact ⟨.holding c, .refl hw, trivial⟩
    · exact ⟨u', hmoves, trivial⟩
  · rcases hhandled with ⟨u', hmoves⟩
    exact ⟨u', hmoves, trivial⟩
  · have hsuits : Suits .resting (.acquiring hop (request.redirected location status)) := rfl
    dsimp only
    rw [releaseThen_eq]
    exact ⟨.resting, hhandled.trans (moves_release hreact hhandled.stands), hsuits.orLost _⟩

theorem lands_onExchangeExpired (caller : Caller)
    (hreact : forall m v, Keeps v (react m v).1) (listeners : Listeners) {c : Connection}
    (hop : Nat) (request : Request) (hw : Stands (.holding c) w) :
    Lands Suits (.holding c) w
      (w.onExchangeExpired caller react listeners c hop request) := by
  unfold onExchangeExpired
  split
  · rename_i hdone
    cases hw (published_of_isTerminal hdone)
  · exact lands_onEvent caller hreact listeners hop request _ hw

theorem lands_onUnavailable (caller : Caller) (hreact : forall m v, Keeps v (react m v).1)
    (listeners : Listeners) (e : TransportError) (final : Use -> Stage -> Prop)
    (hfinal : forall u, final u .over) (hu : u = .asking ∨ u = .denied) (hw : Stands u w) :
    Lands final u w (w.onUnavailable caller react listeners e) := by
  have hshown : u ≠ .shown := by
    rcases hu with rfl | rfl <;> exact Use.noConfusion
  have hnotified : Keeps w (w.notifyException react listeners e) := by
    unfold notifyException fireIf
    split
    · exact keeps_fire hreact .exception rfl (fun _ => rfl) w
    · exact .refl w
  have hmoves := hnotified u hw
  have hsettled := moves_settle none (.error (.transport e.message)) hmoves
    (hmoves.stands.hidden hshown) (if_pos hu)
  unfold onUnavailable
  dsimp only
  rcases hsettled with ⟨hfirst, hresting⟩ | hsame
  · rw [hfirst]
    rcases moves_publish caller hreact hresting with ⟨u', hpublished⟩
    exact ⟨u', hpublished, hfinal u'⟩
  · rw [hsame]
    exact ⟨u, hmoves, hfinal u⟩

end Blocks
end World

/-!
## Chronicles
-/

/-- Going through worlds one after another turns one use into another. -/
inductive Chronicle : Use -> World -> List World -> Use -> World -> Prop where
  | nil (u : Use) (w : World) : Chronicle u w [] u w
  | cons {u u' u'' : Use} {v w x : World} {ws : List World} :
      u.run? (v.beats w) = some u' -> Chronicle u' w ws u'' x ->
      Chronicle u v (w :: ws) u'' x

namespace Chronicle

variable {u u' u'' : Use} {v w x : World} {first second : List World}

theorem append (hfirst : Chronicle u v first u' w) (hsecond : Chronicle u' w second u'' x) :
    Chronicle u v (first ++ second) u'' x := by
  induction hfirst with
  | nil _ _ => exact hsecond
  | cons hbeats _ ih => exact .cons hbeats (ih hsecond)

theorem single (h : u.run? (v.beats w) = some u') : Chronicle u v [w] u' w :=
  .cons h (.nil u' w)

/-- The use follows the story that the worlds tell. -/
theorem run?_story (h : Chronicle u v first u' w) : u.run? (v.story first) = some u' := by
  induction h with
  | nil _ _ => rfl
  | cons hbeats _ ih =>
      unfold World.story
      rw [Use.run?_append_of_eq hbeats]
      exact ih

end Chronicle

namespace Conditions

open World

variable {k : Conditions} {final : Use -> Stage -> Prop} {u u' : Use} {v w x : World}
  {c : Connection} {hop : Nat} {request : Request} {h : Hop}

/-- A piece of a course is a chronicle, and leads to a wait with what it takes. -/
def Tracks (final : Use -> Stage -> Prop) (u : Use) (w : World) (course : Course) : Prop :=
  exists u', Chronicle u w (course.1.map Prod.fst ++ [course.2.1]) u' course.2.1 ∧
    Stands u' course.2.1 ∧ final u' course.2.2

theorem tracks_of_lands {past : List (World × Stage)} {p : World × Stage}
    (hpast : Chronicle u v (past.map Prod.fst) u' w) (hlands : Lands final u' w p) :
    Tracks final u v (past, p) := by
  rcases hlands with ⟨u'', hmoves, hfinal⟩
  exact ⟨u'', hpast.append (.single hmoves.beats), hmoves.stands, hfinal⟩

theorem lands_of_moves {p : World × Stage} (hmoves : Moves u v u' w)
    (hlands : Lands final u' w p) : Lands final u v p := by
  rcases hlands with ⟨u'', hrest, hfinal⟩
  exact ⟨u'', hmoves.trans hrest, hfinal⟩

theorem tracks_untilExpired {past : List (World × Stage)} {stage : Stage}
    {onExpired : World -> World × Stage} (hpast : Chronicle u v (past.map Prod.fst) u' w)
    (hmoves : Moves u' w u' x) (hstays : final u' stage)
    (hexpired : forall y, Stands u' y -> Lands final u' y (onExpired y)) :
    Tracks final u v (k.untilExpired past stage x onExpired) := by
  unfold untilExpired
  split
  · exact tracks_of_lands hpast ⟨u', hmoves, hstays⟩
  · rename_i d _
    have hpassed : Moves u' x u' { x with now := max x.now d } :=
      .of_same hmoves.stands rfl rfl rfl
    have hmore : Chronicle u v ((past ++ [(x, stage)]).map Prod.fst) u' x := by
      rw [List.map_append]
      exact hpast.append (.single hmoves.beats)
    exact tracks_of_lands hmore (lands_of_moves hpassed (hexpired _ hpassed.stands))

theorem tracks_exchange (hop : Nat) (request : Request)
    (hconduct : Conduct k.caller False k.reaction)
    (hactions : KeepsOut h.actions) (hw : Stands (.holding c) w) :
    Tracks Suits (.holding c) w (k.exchange h c hop request w) := by
  have hsent : Moves (.holding c) w (.holding c) (w.send request) :=
    .note rfl rfl rfl rfl hw
  have hpast : Chronicle (.holding c) w [w.send request] (.holding c) (w.send request) :=
    .single hsent.beats
  have hpassed : forall time, Moves (.holding c) (w.send request) (.holding c)
      { w.send request with now := time } :=
    fun _ => .of_same hsent.stands rfl rfl rfl
  have hexpired : forall y, Stands (.holding c) y -> Lands Suits (.holding c) y
      (y.onExchangeExpired k.caller k.reaction k.listeners c hop request) :=
    fun y hy => lands_onExchangeExpired k.caller hconduct.keeps k.listeners hop request hy
  unfold exchange
  dsimp only
  split
  · rename_i time _
    exact tracks_of_lands hpast
      (lands_of_moves (hpassed time) (hexpired _ (hpassed time).stands))
  · rename_i time _
    have hacted := (hpassed time).keep (keeps_act hconduct hactions _)
    split
    · rename_i y fault hy
      rw [hy] at hacted
      exact tracks_of_lands hpast ⟨.holding c, hacted, trivial⟩
    · rename_i y hy
      rw [hy] at hacted
      split
      · exact tracks_of_lands hpast (lands_of_moves hacted
          (lands_onEvent k.caller hconduct.keeps k.listeners hop request _ hacted.stands))
      · exact tracks_untilExpired hpast hacted rfl hexpired

theorem tracks_acquire (hop : Nat) (request : Request)
    (hconduct : Conduct k.caller False k.reaction)
    (hactions : KeepsOut h.acquireActions) (hw : Stands .resting w) :
    Tracks Gains .resting w (k.acquire h hop request w) := by
  have hhidden := hw.hidden Use.noConfusion
  have hasked : Moves .asking { w with asked := w.asked + 1 } .asking
      { w with asked := w.asked + 1 } := .refl (stands_of_hidden hhidden)
  have hpast : Chronicle .resting w [{ w with asked := w.asked + 1 }] .asking
      { w with asked := w.asked + 1 } := .single (hasked.beats_of_asked rfl rfl)
  have hpassed : forall time, Moves .asking { w with asked := w.asked + 1 } .asking
      { w with asked := w.asked + 1, now := time } :=
    fun _ => .of_same hasked.stands rfl rfl rfl
  have hexpired : forall y, Stands .asking y -> Lands Gains .asking y
      (y.onUnavailable k.caller k.reaction k.listeners (timeoutError request)) :=
    fun y hy => lands_onUnavailable k.caller hconduct.keeps k.listeners _ Gains
      (fun _ => trivial) (Or.inl rfl) hy
  unfold acquire
  dsimp only
  split
  · rename_i time _
    exact tracks_of_lands hpast
      (lands_of_moves (hpassed time) (hexpired _ (hpassed time).stands))
  · rename_i time _
    have hacted := (hpassed time).keep (keeps_act hconduct hactions _)
    split
    · rename_i y fault hy
      rw [hy] at hacted
      exact tracks_of_lands hpast ⟨.asking, hacted, trivial⟩
    · rename_i y hy
      rw [hy] at hacted
      have hhidden' := hacted.stands.hidden Use.noConfusion
      split
      · have hgranted : Moves .asking y (.holding (y.connect request.target).2)
            (y.onGranted hop request).1 :=
          .note rfl rfl rfl rfl (stands_of_hidden hhidden')
        exact tracks_of_lands hpast ⟨_, hacted.trans hgranted, rfl⟩
      · rename_i e _
        have hrefused : Moves .asking y .denied (y.note (.refused request.target (some e))) :=
          .note rfl rfl rfl rfl (stands_of_hidden hhidden')
        exact tracks_of_lands hpast (lands_of_moves (hacted.trans hrefused)
          (lands_onUnavailable k.caller hconduct.keeps k.listeners e Gains
            (fun _ => trivial) (Or.inr rfl) hrefused.stands))
      · exact tracks_untilExpired hpast hacted trivial hexpired

theorem chronicle_refuse (hconduct : Conduct k.caller False k.reaction) (request : Request)
    (hw : Stands .resting w) :
    exists u, Chronicle .resting w [(k.refuse request w).1] u (k.refuse request w).1 := by
  have hrefused := Moves.refused request.target hw
  rcases lands_onUnavailable k.caller hconduct.keeps k.listeners exhaustedError Gains
    (fun _ => trivial) (Or.inr rfl) hrefused.stands with ⟨u, hmoves, _⟩
  exact ⟨u, .single (hrefused.trans hmoves).beats⟩

theorem worlds_append (past more : List (World × Stage)) (w : World) (stage : Stage) :
    (past ++ (w, stage) :: more).map Prod.fst =
      (past.map Prod.fst ++ [w]) ++ more.map Prod.fst := by
  simp

/-- All worlds of a call, from an exchange on. -/
theorem chronicle_run (hconduct : Conduct k.caller False k.reaction) {rest : List Hop}
    (hhops : forall y, y ∈ h :: rest -> KeepsOut y.acquireActions ∧ KeepsOut y.actions)
    (hw : Stands (.holding c) w) :
    exists u x, Chronicle (.holding c) w ((k.run rest h c hop request w).map Prod.fst) u x := by
  induction rest generalizing h c hop request w with
  | nil =>
      have hexchange := tracks_exchange hop request hconduct
        (hhops h List.mem_cons_self).right hw
      rcases heq : k.exchange h c hop request w with ⟨past, v, stage⟩
      rw [heq] at hexchange
      rcases hexchange with ⟨u, hpast, hv, hsuits⟩
      cases stage with
      | acquiring n r =>
          cases hsuits
          rcases chronicle_refuse hconduct r hv with ⟨u', hrefused⟩
          rw [run_of_exhausted heq, worlds_append]
          exact ⟨u', _, hpast.append hrefused⟩
      | _ =>
          rw [run_of_end heq (fun _ _ => Stage.noConfusion), worlds_append]
          exact ⟨u, v, hpast.append (.nil u v)⟩
  | cons next rest ih =>
      have hexchange := tracks_exchange hop request hconduct
        (hhops h List.mem_cons_self).right hw
      rcases heq : k.exchange h c hop request w with ⟨past, v, stage⟩
      rw [heq] at hexchange
      rcases hexchange with ⟨u, hpast, hv, hsuits⟩
      cases stage with
      | acquiring n r =>
          cases hsuits
          have hacquire := tracks_acquire n r hconduct
            (hhops next (List.mem_cons_of_mem h List.mem_cons_self)).left hv
          rcases heq' : k.acquire next n r v with ⟨past', x, stage⟩
          rw [heq'] at hacquire
          rcases hacquire with ⟨u', hpast', hx, hgains⟩
          cases stage with
          | exchanging d m q =>
              cases hgains
              rcases ih (fun y hy => hhops y (List.mem_cons_of_mem h hy)) hx with
                ⟨u'', y, hrest⟩
              rw [run_of_acquired heq heq', worlds_append, worlds_append]
              exact ⟨u'', y, hpast.append (hpast'.append hrest)⟩
          | _ =>
              rw [run_of_unacquired heq heq' (fun _ _ _ => Stage.noConfusion), worlds_append,
                worlds_append]
              exact ⟨u', x, hpast.append (hpast'.append (.nil u' x))⟩
      | _ =>
          rw [run_of_end heq (fun _ _ => Stage.noConfusion), worlds_append]
          exact ⟨u, v, hpast.append (.nil u v)⟩

end Conditions

namespace Session

variable {caller : Caller} {react : Reaction}

theorem chronicle_course (hconduct : World.Conduct caller False react) (plot : Plot)
    (clockStart : Nat) {h : Hop} {rest : List Hop} {c : Connection} {request : Request}
    {u : Use} {v w : World}
    (hhops : forall y, y ∈ h :: rest -> KeepsOut y.acquireActions ∧ KeepsOut y.actions)
    (hbegun : Chronicle u v [w] (.holding c) w) (hw : World.Stands (.holding c) w) :
    exists u' x, Chronicle u v
      (w :: (course caller react plot clockStart h rest c request w).map Prod.fst) u' x := by
  have hfirst : Chronicle u v (w :: [w]) (.holding c) w :=
    hbegun.append (.single (World.Moves.refl hw).beats)
  cases hdeadline : deadline? clockStart request w with
  | some deadline =>
      rw [course_of_deadline hdeadline]
      rcases @Conditions.chronicle_run ⟨caller, react, plot.listeners, deadline⟩ w c 0
        request h hconduct rest hhops hw with ⟨u', x, hrun⟩
      exact ⟨u', x, hfirst.append hrun⟩
  | none =>
      rw [course_of_no_deadline hdeadline]
      exact ⟨.holding c, w, hfirst⟩

/-- Whatever the pool and the connections answer, and whatever breaks down: a call asks for
a connection only while it has none, and has none any more when its end shows. -/
theorem run?_story (hconduct : World.Conduct caller False react) {hops : List Hop}
    (hhops : forall h, h ∈ hops -> KeepsOut h.acquireActions ∧ KeepsOut h.actions)
    (clockStart nextConnection : Nat) (plot : Plot) (request : Request) :
    exists u, Use.resting.run?
      (story caller react clockStart nextConnection plot request hops) = some u := by
  unfold story
  cases hops with
  | nil =>
      have hrefused : World.Moves .resting (opening request nextConnection) .denied _ :=
        World.Moves.refused request.target (World.stands_of_hidden rfl)
      exact ⟨.denied, (Chronicle.single hrefused.beats).run?_story⟩
  | cons h rest =>
      have hasked : forall {u : Use} {w : World},
          World.Moves .asking (firstAnswer request nextConnection h) u w ->
          Chronicle .resting (opening request nextConnection) [w] u w :=
        fun hmoves => .single (hmoves.beats_of_asked rfl rfl)
      cases hgrant : h.grant with
      | refusal e =>
          rw [launch_of_refusal hgrant]
          refine ⟨.denied, (hasked ?_).run?_story⟩
          exact .note rfl rfl rfl rfl (World.stands_of_hidden rfl)
      | silence =>
          rw [launch_of_silence hgrant]
          refine ⟨.asking, (hasked ?_).run?_story⟩
          exact .refl (World.stands_of_hidden rfl)
      | connection =>
          have hconnected : World.Moves .asking (firstAnswer request nextConnection h)
              (.holding (firstConnected request nextConnection h).2)
              (firstConnected request nextConnection h).1 := by
            have hgranted : World.Moves .asking (firstAnswer request nextConnection h)
                (.holding (firstConnected request nextConnection h).2)
                (((firstAnswer request nextConnection h).connect request.target).1.note
                  (.acquired (firstConnected request nextConnection h).2)) :=
              .note rfl rfl rfl rfl (World.stands_of_hidden rfl)
            exact hgranted.keep (.of_same rfl rfl rfl)
          have hready := hconnected.keep (World.keeps_withHooks caller hconduct.keeps plot _)
          rw [launch_of_connection hgrant]
          rcases chronicle_course hconduct plot clockStart hhops (hasked hready)
            hready.stands with ⟨u, x, hcourse⟩
          exact ⟨u, hcourse.run?_story⟩

end Session

theorem IsStory.run? {story : List Beat} (h : IsStory story) :
    exists u, Use.resting.run? story = some u := by
  rcases h with ⟨caller, react, clockStart, nextConnection, plot, request, hops, hconduct,
    hhops⟩
  exact Session.run?_story hconduct hhops clockStart nextConnection plot request

end HttpCall
