import HttpCall.Proofs.Call.Interleaving
import HttpCall.Proofs.Handling.Course

/-!
# Handlings that are nested

What is run as one piece, a handling, a publication or a block of the loop, with all
that user code does inside, is one of the interleavings.  Each handling that user code
begins is added behind those that have begun before it, and the journal shows at each
entry what the record was after the accesses made until then.
-/

namespace HttpCall

/-- What an entry says of the outcome agrees with the record. -/
def Entry.Honest (c : Call) : Entry -> Prop
  | polled r => r = c.result?
  | completed _ o => c.visible = some o
  | _ => True

structure Stamped.Tells (s : Stamped) (c : Call) : Prop where
  view : forall v, s.view = some v -> v = c.snapshot
  honest : s.entry.Honest c

namespace World

/-- From the world `v`, in which the handlings `runs` are under way, an interleaving
leads to the world `w` and the handlings `runs'`, and the journal keeps to it. -/
def Played (v : World) (runs : List Progress) (w : World) (runs' : List Progress) : Prop :=
  exists accesses, Scene.Course ⟨v.call, runs⟩ accesses ⟨w.call, runs'⟩ ∧
    exists news, w.journal = news ++ v.journal ∧
      forall s, s ∈ news -> exists before after, accesses = before ++ after ∧
        s.Tells (v.call.accessAll before)

def Joined (v : World) (runs : List Progress) (w : World) (now : List Progress) : Prop :=
  exists more, Played v runs w (now ++ more)

/-- Whatever handlings are under way, this only adds to them. -/
def Joins (v w : World) : Prop := forall runs, Joined v runs w runs

theorem Played.refl (w : World) (runs : List Progress) : Played w runs w runs :=
  ⟨[], .nil, [], rfl, fun _ hs => absurd hs List.not_mem_nil⟩

theorem Played.trans {u v w : World} {runs runs' runs'' : List Progress}
    (huv : Played u runs v runs') (hvw : Played v runs' w runs'') :
    Played u runs w runs'' := by
  rcases huv with ⟨first, hfirst, news, hnews, htold⟩
  rcases hvw with ⟨second, hsecond, more, hmore, htold'⟩
  refine ⟨first ++ second, hfirst.append hsecond, more ++ news, ?_, ?_⟩
  · rw [hmore, hnews, List.append_assoc]
  · intro s hs
    rcases List.mem_append.mp hs with hs | hs
    · rcases htold' s hs with ⟨before, after, rfl, htells⟩
      refine ⟨first ++ before, after, (List.append_assoc _ _ _).symm, ?_⟩
      rw [Call.accessAll_append, ← show v.call = _ from hfirst.call_eq]
      exact htells
    · rcases htold s hs with ⟨before, after, rfl, htells⟩
      exact ⟨before, after ++ second, List.append_assoc _ _ _, htells⟩

theorem Played.of_step {v w : World} {runs runs' : List Progress} {a : Access}
    (hstep : Scene.Step ⟨v.call, runs⟩ a ⟨w.call, runs'⟩) (hjournal : w.journal = v.journal) :
    Played v runs w runs' :=
  ⟨[a], Scene.Course.nil.snoc hstep, [], hjournal, fun _ hs => absurd hs List.not_mem_nil⟩

namespace Joined

variable {u v w : World} {runs now : List Progress}

theorem trans (h : Joined u runs v now) (hvw : Joins v w) : Joined u runs w now := by
  rcases h with ⟨more, hmore⟩
  rcases hvw (now ++ more) with ⟨most, hmost⟩
  rw [List.append_assoc] at hmost
  exact ⟨more ++ most, hmore.trans hmost⟩

theorem of_same (h : Joined u runs v now) (hcall : w.call = v.call)
    (hjournal : w.journal = v.journal) : Joined u runs w now := by
  rcases h with ⟨more, hmore⟩
  have hstep : Scene.Step ⟨v.call, now ++ more⟩ .observe ⟨w.call, now ++ more⟩ := by
    rw [hcall]
    exact .observe _
  exact ⟨more, hmore.trans (.of_step hstep hjournal)⟩

theorem note (h : Joined u runs w now) {e : Entry} (he : e.Honest w.call) :
    Joined u runs (w.note e) now := by
  rcases h with ⟨more, hmore⟩
  have hview : forall v, w.view = some v -> v = w.call.snapshot := by
    intro v hv
    unfold view at hv
    split at hv
    · exact (Option.some.inj hv).symm
    · cases hv
  have hnote : Played w (now ++ more) (w.note e) (now ++ more) := by
    refine ⟨[], .nil, [⟨w.now, w.view, e⟩], rfl, ?_⟩
    intro s hs
    cases List.mem_singleton.mp hs
    exact ⟨[], [], rfl, hview, he⟩
  exact ⟨more, hmore.trans hnote⟩

theorem advance {p : Progress} (h : Joined u runs v (runs ++ [p])) (fault? : Option Fault)
    (hcall : w.call = v.call.access (p.step fault? v.call).1)
    (hjournal : w.journal = v.journal) :
    Joined u runs w (runs ++ [(p.step fault? v.call).2]) := by
  rcases h with ⟨more, hmore⟩
  have hstep := Scene.Step.advance v.call runs more p fault?
  rw [← hcall] at hstep
  simp only [List.append_assoc, List.singleton_append] at hmore
  refine ⟨more, ?_⟩
  rw [List.append_assoc]
  exact hmore.trans (.of_step hstep hjournal)

end Joined

theorem Joins.refl (w : World) : Joins w w :=
  fun runs => ⟨[], by
    rw [List.append_nil]
    exact Played.refl w runs⟩

def JoinsIn (react : Reaction) : Prop := forall m w, Joins w (react m w).1

section Handling

variable {react : Reaction} {u w : World} {runs now : List Progress} {p : Progress}

theorem joined_fire (hreact : JoinsIn react) (m : Moment) {e : Entry} (he : e.Honest w.call)
    (h : Joined u runs w now) : Joined u runs (w.fire react m e).1 now :=
  (h.note he).trans (hreact m _)

theorem joined_fireIf (hreact : JoinsIn react) (attached : Bool) (m : Moment) {e : Entry}
    (he : e.Honest w.call) (h : Joined u runs w now) :
    Joined u runs (w.fireIf attached react m e).1 now := by
  cases attached with
  | false =>
      exact h
  | true =>
      exact joined_fire hreact m he h

theorem settle_eq (held : Option Connection) (o : Outcome) (w : World) :
    (w.settle held o).2 = (w.call.settle? o).isSome ∧
      (w.settle held o).1.call = w.call.access (.settle o) := by
  cases hsettle : w.call.settle? o <;> simp [settle, Call.access, hsettle]

theorem joined_settle (held : Option Connection) (o : Outcome) (next : Bool -> Progress)
    (hp : p.step none w.call = (.settle o, next (w.call.settle? o).isSome))
    (h : Joined u runs w (runs ++ [p])) :
    Joined u runs (w.settle held o).1 (runs ++ [next (w.settle held o).2]) := by
  have hcall := (settle_eq held o w).right
  rw [(settle_eq held o w).left]
  unfold settle at hcall ⊢
  cases hsettle : w.call.settle? o with
  | none =>
      rw [hsettle] at hp hcall
      have hnext := h.advance (w := w) none (by rw [hp]; exact hcall) rfl
      rw [hp] at hnext
      exact hnext
  | some call =>
      rw [hsettle] at hp hcall
      have hnext := h.advance (w := { w with call := call }) none (by rw [hp]; exact hcall) rfl
      rw [hp] at hnext
      exact hnext.note trivial

theorem joined_runHook (hreact : JoinsIn react) (caller : Caller) {o : Outcome} (hook : Hook)
    (hvisible : w.call.visible = some o) (h : Joined u runs w now) :
    Joined u runs (w.runHook caller react o hook) now := by
  cases hook with
  | numbered n =>
      exact joined_fire hreact .complete hvisible h
  | transform =>
      exact h.of_same rfl rfl

theorem Joins.visible {v w : World} {o : Outcome} (h : Joins v w)
    (hvisible : v.call.visible = some o) : w.call.visible = some o := by
  rcases h [] with ⟨more, accesses, hcourse, _⟩
  rw [show w.call = _ from hcourse.call_eq]
  exact Call.visible_accessAll hvisible accesses

theorem visible_runHook (hreact : JoinsIn react) (caller : Caller) {o first : Outcome}
    (hook : Hook) (hvisible : w.call.visible = some first) :
    (w.runHook caller react o hook).call.visible = some first := by
  cases hook with
  | numbered n =>
      exact (hreact .complete _).visible hvisible
  | transform =>
      exact hvisible

theorem joined_publish (hreact : JoinsIn react) (caller : Caller) {next : Progress}
    (hp : p.step none w.call = (.publish, next)) (h : Joined u runs w (runs ++ [p])) :
    Joined u runs (w.publish caller react) (runs ++ [next]) := by
  have hcall : forall call, call = w.call.access .publish ->
      Joined u runs { w with call := call } (runs ++ [next]) := by
    rintro call rfl
    have hnext := h.advance (w := { w with call := w.call.access .publish }) none
      (by rw [hp]) rfl
    rw [hp] at hnext
    exact hnext
  unfold publish
  split
  · rename_i o hooks call hpublish
    have hvisible : call.visible = some o := Call.visible_of_publish? hpublish
    have hbegun := hcall call (by simp [Call.access, hpublish])
    have hhook : forall hook v,
        Joined u runs v (runs ++ [next]) ∧ v.call.visible = some o ->
        Joined u runs (v.runHook caller react o hook) (runs ++ [next]) ∧
          (v.runHook caller react o hook).call.visible = some o :=
      fun hook v hv => ⟨joined_runHook hreact caller hook hv.right hv.left,
        visible_runHook hreact caller hook hv.right⟩
    have hpublished := hbegun.note (e := .published) trivial
    exact (foldl_runHook_induction hhook hooks ⟨hpublished, hvisible⟩).left
  · rename_i hnothing
    exact hcall w.call (by simp [Call.access, hnothing])

/-!
## Whole handlings
-/

def Ending.progress : Ending -> Progress
  | release first => .returning first
  | follow location status => .ended (.redirect location status)

theorem joined_notifyException (hreact : JoinsIn react) (listeners : Listeners)
    (e : TransportError) (h : Joined u runs w now) :
    Joined u runs (w.notifyException react listeners e) now :=
  joined_fireIf hreact listeners.exception .exception trivial h

theorem joined_afterListener (hreact : JoinsIn react) (listeners : Listeners)
    (c : Connection) {rest : List Effect} {first : Bool} {next : World -> World × Ending}
    (hnext : forall v, Joined u runs v (runs ++ [.doing rest first]) ->
      Joined u runs (next v).1 (runs ++ [(next v).2.progress]))
    {q : World × Option Fault} (h : Joined u runs q.1 (runs ++ [.calling rest first])) :
    Joined u runs (afterListener react listeners c next q).1
      (runs ++ [(afterListener react listeners c next q).2.progress]) := by
  rcases q with ⟨v, _ | fault⟩
  · exact hnext v (h.advance none rfl rfl)
  · have hfailing : Joined u runs v (runs ++ [.failing fault]) :=
      h.advance (some fault) rfl rfl
    exact joined_settle (some c) _ .returning rfl
      (joined_notifyException hreact listeners (listenerError fault) hfailing)

theorem joined_perform (hreact : JoinsIn react) (listeners : Listeners) (c : Connection)
    (effects : List Effect) {first : Bool}
    (h : Joined u runs w (runs ++ [.doing effects first])) :
    Joined u runs (perform react listeners c effects first w).1
      (runs ++ [(perform react listeners c effects first w).2.progress]) := by
  induction effects generalizing first w with
  | nil =>
      exact h.advance none rfl rfl
  | cons effect rest ih =>
      have hnext : forall v, Joined u runs v (runs ++ [.doing rest first]) ->
          Joined u runs (perform react listeners c rest first v).1
            (runs ++ [(perform react listeners c rest first v).2.progress]) :=
        fun v hv => ih hv
      cases effect with
      | notifyHeaders headers =>
          have hcalling : Joined u runs w (runs ++ [.calling rest first]) :=
            h.advance none rfl rfl
          exact joined_afterListener hreact listeners c hnext
            (joined_fireIf hreact listeners.headers .headers trivial hcalling)
      | recordCookie k =>
          have hcalling : Joined u runs { w with call := w.call.addCookie k }
              (runs ++ [.calling rest first]) :=
            h.advance none rfl rfl
          exact joined_afterListener hreact listeners c hnext
            (joined_fireIf hreact listeners.cookie .cookie trivial hcalling)
      | notifyResponse r =>
          have hcalling : Joined u runs w (runs ++ [.calling rest first]) :=
            h.advance none rfl rfl
          exact joined_afterListener hreact listeners c hnext
            (joined_fireIf hreact listeners.response .response trivial hcalling)
      | notifyException e =>
          have hheard : Joined u runs w (runs ++ [.doing rest first]) :=
            h.advance none rfl rfl
          exact ih (joined_notifyException hreact listeners e hheard)
      | follow location status =>
          unfold perform
          split
          · rename_i call hcount
            have hfollowed := h.advance (w := { w with call := call }) none
              (by simp [Progress.step, Call.access, hcount]) rfl
            simpa [Progress.step, Ending.progress, hcount] using hfollowed
          · rename_i hcount
            have hrefused := h.advance (w := w) none
              (by simp [Progress.step, Call.access, hcount]) rfl
            simpa [Progress.step, Ending.progress, hcount] using hrefused
      | succeed r =>
          exact ih (joined_settle (some c) (.ok r) (.doing rest) rfl h)
      | fail f =>
          exact ih (joined_settle (some c) (.error f) (.doing rest) rfl h)
      | release =>
          exact h.advance none rfl rfl

theorem joined_publishIf (hreact : JoinsIn react) (caller : Caller) (fault? : Option Fault)
    {first : Bool} (h : Joined u runs w (runs ++ [.leaving first fault?])) :
    Joined u runs (w.publishIf first caller react) (runs ++ [.left fault?]) := by
  cases first with
  | false =>
      exact h.advance none rfl rfl
  | true =>
      exact joined_publish hreact caller rfl h

def progressOf : Except Fault Step -> Progress
  | .ok step => .ended step
  | .error fault => .broken fault

/-- A handling is one of the handlings that are under way, from its beginning to its
end; but there is none if there is no plan. -/
theorem joined_handle (hreact : JoinsIn react) (caller : Caller) (listeners : Listeners)
    (c : Connection) (request : Request) (event : Event) (w : World)
    (runs : List Progress) :
    (exists fault, w.handle caller react listeners c request event = (w, .error fault)) ∨
      Joined w runs (w.handle caller react listeners c request event).1
        (runs ++ [progressOf (w.handle caller react listeners c request event).2]) := by
  unfold handle
  split
  · rename_i fault _
    exact Or.inl ⟨fault, rfl⟩
  · rename_i effects hplan
    right
    have hstep := Scene.Step.handle w.call runs caller.policy w.call.snapshot request event
      effects hplan
    have hbegun : Joined w runs w (runs ++ [.doing effects false]) := by
      refine ⟨[], ?_⟩
      rw [List.append_nil]
      exact .of_step hstep rfl
    have hperformed := joined_perform hreact listeners c effects hbegun
    split
    · rename_i v location status hv
      rw [hv] at hperformed
      exact hperformed
    · rename_i v first hv
      rw [hv] at hperformed
      have hreleased := joined_fire hreact .release (e := .released c) trivial hperformed
      split
      · rename_i x hx
        rw [show v.fire react .release (.released c) = (x, none) from hx] at hreleased
        exact joined_publishIf hreact caller none (hreleased.advance none rfl rfl)
      · rename_i x fault hx
        rw [show v.fire react .release (.released c) = (x, some fault) from hx] at hreleased
        exact joined_publishIf hreact caller (some fault)
          (hreleased.advance (some fault) rfl rfl)

theorem Joins.of_joined {v : World}
    (h : forall runs, exists p, Joined v runs w (runs ++ [p])) :
    Joins v w := by
  intro runs
  rcases h runs with ⟨p, more, hmore⟩
  rw [List.append_assoc] at hmore
  exact ⟨[p] ++ more, hmore⟩

theorem joins_handle (hreact : JoinsIn react) (caller : Caller) (listeners : Listeners)
    (c : Connection) (request : Request) (event : Event) (w : World) :
    Joins w (w.handle caller react listeners c request event).1 := by
  intro runs
  rcases joined_handle hreact caller listeners c request event w runs with ⟨fault, h⟩ | h
  · rw [h]
    exact Joins.refl w runs
  · rcases h with ⟨more, hmore⟩
    rw [List.append_assoc] at hmore
    exact ⟨_, hmore⟩

/-!
## User code and the blocks of the loop
-/

theorem joins_register (hreact : JoinsIn react) (caller : Caller) (hook : Hook) (w : World) :
    Joins w (w.register caller react hook) := by
  intro runs
  unfold register
  split
  · rename_i o hvisible
    exact joined_runHook hreact caller hook hvisible (Joins.refl w runs)
  · rename_i hvisible
    have hcall : w.call.access (.register hook) = w.call.enqueue hook := by
      simp [Call.access, hvisible]
    have hstep := Scene.Step.register w.call runs hook
    rw [hcall] at hstep
    refine ⟨[], ?_⟩
    rw [List.append_nil]
    exact .of_step hstep rfl

theorem joins_registerNumbered (hreact : JoinsIn react) (caller : Caller) (w : World) :
    Joins w (w.registerNumbered caller react) := by
  intro runs
  have hnumbered : Joined w runs { w with nextHook := w.nextHook + 1 } runs :=
    (Joins.refl w runs).of_same rfl rfl
  exact hnumbered.trans (joins_register hreact caller _ _)

theorem joins_of_deed {caller : Caller} {meddling : Prop} {v : World}
    (h : Deed caller meddling v w) : Joins v w := by
  induction h with
  | idle w =>
      exact Joins.refl w
  | andThen _ _ huv hvw =>
      exact fun runs => (huv runs).trans hvw
  | poll w =>
      exact fun runs => (Joins.refl w runs).note (e := .polled w.call.result?) rfl
  | hook react w _ ih =>
      exact joins_registerNumbered ih caller w
  | bring target w _ =>
      intro runs
      have hconnected : Joined w runs (w.connect target).1 runs :=
        (Joins.refl w runs).of_same rfl rfl
      exact hconnected.note trivial
  | handle policy react listeners c request event w _ _ _ ih =>
      exact joins_handle ih _ listeners c request event w
  | injected step w _ =>
      exact fun runs => (Joins.refl w runs).note trivial

theorem Conduct.joinsIn {caller : Caller} {meddling : Prop}
    (h : Conduct caller meddling react) : JoinsIn react :=
  fun m v => joins_of_deed (h m v)

theorem joins_release (hreact : JoinsIn react) (c : Connection) (w : World) :
    Joins w (w.release react c).1 :=
  fun runs => joined_fire hreact .release (e := .released c) trivial (Joins.refl w runs)

theorem joins_onEvent (hreact : JoinsIn react) (caller : Caller) (listeners : Listeners)
    (c : Connection) (hop : Nat) (request : Request) (event : Event) (w : World) :
    Joins w (w.onEvent caller react listeners c hop request event).1 := by
  have hhandle := joins_handle hreact caller listeners c request event w
  unfold onEvent
  split
  · rename_i v hv
    rw [hv] at hhandle
    exact hhandle
  · rename_i v location status hv
    rw [hv] at hhandle
    rw [releaseThen_eq]
    exact fun runs => (hhandle runs).trans (joins_release hreact c v)
  · rename_i v fault hv
    rw [hv] at hhandle
    exact hhandle

theorem joins_onUnavailable (hreact : JoinsIn react) (caller : Caller)
    (listeners : Listeners) (e : TransportError) (w : World) :
    Joins w (w.onUnavailable caller react listeners e).1 := by
  have hnotified : Joins w (w.notifyException react listeners e) :=
    fun runs => joined_notifyException hreact listeners e (Joins.refl w runs)
  have hended : Joins (w.notifyException react listeners e)
      (w.onUnavailable caller react listeners e).1 := by
    apply Joins.of_joined
    intro runs
    have hbegun : Joined (w.notifyException react listeners e) runs
        (w.notifyException react listeners e)
        (runs ++ [.doing [.fail (.transport e.message)] false]) := by
      refine ⟨[], ?_⟩
      rw [List.append_nil]
      exact .of_step (.giveUp _ runs (.transport e.message)) rfl
    have hsettled := joined_settle none (.error (.transport e.message)) (.doing []) rfl hbegun
    have hreturning := hsettled.advance none rfl rfl
    exact ⟨_, joined_publishIf hreact caller none (hreturning.advance none rfl rfl)⟩
  exact fun runs => (hnotified runs).trans hended

theorem joined_upkeep (k : Conditions) (hreact : JoinsIn k.reaction)
    (hact : forall actions w, Joins w (w.act k.caller k.reaction actions).1) (u : World) :
    Upkeep k (fun _ => True) (fun w _ => Joined u [] w []) where
  pass _ h := h.of_same rfl rfl
  act _ h := h.trans (hact _ _)
  send {w c hop request} h := by
    have hsame : Joined u [] { w with request := request } [] := h.of_same rfl rfl
    exact hsame.note trivial
  answer event h := h.trans (joins_onEvent hreact k.caller k.listeners _ _ _ event _)
  expire h _ := h.trans (joins_release hreact _ _)
  ask h := h.of_same rfl rfl
  grant {w hop request} h := by
    have hconnected : Joined u [] (w.connect request.target).1 [] := h.of_same rfl rfl
    exact hconnected.note trivial
  refuse _ h := h.note trivial
  unavailable e h := h.trans (joins_onUnavailable hreact k.caller k.listeners e _)

end Handling
end World
end HttpCall
