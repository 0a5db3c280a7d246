import HttpCall.Proofs.Connection.Sound
import HttpCall.Proofs.Connection.Traffic
import HttpCall.Proofs.Handling.Drift

/-!
# Release before publication

Nobody learns how a call ended before the connection of the handling that ended it is
released.  If only the loop of the call handles events for it, no connection at all is
out by then.  Both are read off the journal: whatever shows the end of the call comes
after the releases.
-/

namespace HttpCall
namespace World

section Calm

variable {caller : Caller} {meddling : Prop} {react : Reaction} {v w : World}

/-- What leaves the journal quiet has not touched the outcome. -/
def Calm (v w : World) : Prop :=
  Quiet w.entries -> Quiet v.entries ∧ w.call.outcome = v.call.outcome

theorem Calm.trans {u : World} (huv : Calm u v) (hvw : Calm v w) : Calm u w := by
  intro hquiet
  rcases hvw hquiet with ⟨hv, houtcome⟩
  rcases huv hv with ⟨hu, houtcome'⟩
  exact ⟨hu, houtcome.trans houtcome'⟩

theorem Calm.of_same (hentries : w.entries = v.entries)
    (houtcome : w.call.outcome = v.call.outcome) : Calm v w := by
  intro hquiet
  rw [hentries] at hquiet
  exact ⟨hquiet, houtcome⟩

theorem Calm.note (w : World) (e : Entry) : Calm w (w.note e) :=
  fun hquiet => ⟨hquiet.of_cons, rfl⟩

theorem calm_drift : Drift (fun e => e.isOfLoop = false) (fun _ => False) Calm where
  refl _ := .of_same rfl rfl
  trans := Calm.trans
  note w _ := .note w _
  access w ha := by
    rcases access_of_isCommon (ha.resolve_right id) w with ⟨hooks, heq⟩
    rw [heq]
    exact .of_same rfl rfl
  count _ _ _ _ := .of_same rfl rfl

theorem calm_of_deed (h : Deed caller meddling v w) : Calm v w := by
  apply calm_drift.of_deed_of_handle _ _ h
  · intro _ e he
    exact he
  · intro _ policy react listeners c request event w hreact _ hc hquiet
    have htraffic := traffic_handle_of_brought (Conduct.keepsApart hreact)
      { caller with policy := policy } listeners request event hc
    exact absurd (mem_brought.mp (htraffic.kept c hc)) (hquiet c)

end Calm

/-!
## The loop
-/

/-- While something is waited for and nobody else handled events, no outcome is recorded
and no connection is out but the one that is held. -/
def Attending (w : World) (stage : Stage) : Prop :=
  w.Sound ∧ (stage.waits = true -> Quiet w.entries ->
    w.call.outcome = none ∧ ReleasedBut stage.held .acquired w.entries)

section Course

variable {caller : Caller} {react : Reaction} {v w : World} {stage : Stage}

theorem Attending.trans (h : Attending v stage) (hafter : v.Sound -> After v w)
    (hcalm : Calm v w) : Attending w stage := by
  have hvw := hafter h.left
  refine ⟨hvw.sound, ?_⟩
  intro hwaits hquiet
  rcases hcalm hquiet with ⟨hquiet', houtcome⟩
  rcases h.right hwaits hquiet' with ⟨hnone, _⟩
  exact ⟨houtcome.trans hnone, hvw.acquired (fun hv => (h.right hwaits hv).right) hquiet⟩

theorem Attending.of_same (h : Attending v stage) (hcall : w.call = v.call)
    (hjournal : w.journal = v.journal) (hresult : w.result = v.result) :
    Attending w stage := by
  have hentries : w.entries = v.entries := congrArg (List.map Stamped.entry) hjournal
  have houtcome : w.call.outcome = v.call.outcome := congrArg Call.outcome hcall
  exact h.trans
    (fun hv => .of_same hv houtcome (congrArg Call.published hcall) hjournal hresult)
    (.of_same hentries houtcome)

theorem Attending.note (h : Attending w stage) {e : Entry} (he : e.isAside = true)
    (htells : e.tellsEnd = false) : Attending (w.note e) stage := by
  refine h.trans (fun hw => .note hw he ?_) (.note w e)
  intro htells'
  rw [htells] at htells'
  cases htells'

theorem Attending.of_not_waits (h : w.Sound) (hwaits : stage.waits = false) :
    Attending w stage := by
  refine ⟨h, ?_⟩
  intro hwaits'
  rw [hwaits] at hwaits'
  cases hwaits'

theorem Attending.orLost (h : Attending w stage) (fault? : Option Fault) :
    Attending w (stage.orLost fault?) := by
  cases fault? with
  | none =>
      exact h
  | some fault =>
      exact .of_not_waits h.left rfl

theorem attending_react (hconduct : Conduct caller True react) (m : Moment)
    (h : Attending w stage) : Attending (react m w).1 stage :=
  h.trans (hconduct.discreet m w) (calm_of_deed (hconduct m w))

theorem attending_onEvent (hconduct : Conduct caller True react) (listeners : Listeners)
    {c : Connection} {hop : Nat} {request : Request} (event : Event)
    (h : Attending w (.exchanging c hop request)) :
    Attending (w.onEvent caller react listeners c hop request event).1
      (w.onEvent caller react listeners c hop request event).2 := by
  have hheld : Quiet w.entries -> ReleasedBut (some c) .acquired w.entries :=
    fun hquiet => (h.right rfl hquiet).right
  have hhandle := after_handle caller hconduct.discreet listeners request event hheld h.left
  unfold onEvent
  split
  · rename_i v hv
    rw [hv] at hhandle
    exact .of_not_waits hhandle.left.sound rfl
  · rename_i v location status hv
    rw [hv] at hhandle
    rw [releaseThen_eq]
    apply Attending.orLost
    apply attending_react hconduct
    -- the release itself, before user code runs
    constructor
    · exact (After.note hhandle.left.sound rfl Bool.noConfusion).sound
    · intro _ hquiet
      have hquiet' : Quiet v.entries := hquiet.of_cons
      exact ⟨hhandle.right location status rfl,
        (hhandle.left.acquired hheld hquiet').release (fun _ => Entry.noConfusion)⟩
  · rename_i v fault hv
    rw [hv] at hhandle
    exact .of_not_waits hhandle.left.sound rfl

theorem attending_onGranted {hop : Nat} {request : Request}
    (h : Attending w (.acquiring hop request)) :
    Attending (w.onGranted hop request).1 (w.onGranted hop request).2 := by
  have hconnected : Sound (w.connect request.target).1 := h.left.of_same rfl rfl rfl rfl
  have hquiet : Quiet (w.onGranted hop request).1.entries ->
      w.call.outcome = none ∧ ReleasedBut none .acquired w.entries :=
    fun hquiet => h.right rfl hquiet.of_cons
  constructor
  · apply hconnected.note (fun _ => Entry.noConfusion)
    · intro hpublished
      have hback : Back w.entries := h.left.shown hpublished
      refine ⟨?_, ?_, ?_⟩
      · rcases hback.recorded with ⟨held, hheld⟩
        exact ⟨held, List.mem_cons_of_mem _ hheld⟩
      · exact hback.released.own.cons (fun _ => Entry.noConfusion)
      · -- there is no outcome to be shown, unless somebody else handled events
        intro hquiet'
        have hnone := (h.left.unsettled (hquiet hquiet').left).left
        rw [show w.call.published = true from hpublished] at hnone
        cases hnone
    · exact Bool.noConfusion
  · intro _ hquiet'
    rcases hquiet hquiet' with ⟨hnone, hreleased⟩
    refine ⟨hnone, (hreleased.weaken _).cons ?_⟩
    intro c hc
    injection hc with hc
    exact congrArg some hc

theorem sound_onUnavailable (hreact : Discreet react) (listeners : Listeners)
    {hop : Nat} {request : Request} (e : TransportError)
    (h : Attending w (.acquiring hop request)) :
    (w.onUnavailable caller react listeners e).1.Sound := by
  have hnotified : Handling w none false (w.notifyException react listeners e) := by
    unfold notifyException fireIf
    split
    · exact after_notice hreact (.exception e) h.left
    · exact After.refl h.left
  have hheld : Quiet w.entries -> ReleasedBut none .acquired w.entries :=
    fun hquiet => (h.right rfl hquiet).right
  have hsettled := handling_settle hheld (.error (.transport e.message)) hnotified
  unfold onUnavailable publishIf
  dsimp only
  cases hfirst : ((w.notifyException react listeners e).settle none
      (.error (.transport e.message))).2 with
  | true =>
      rw [hfirst] at hsettled
      exact (after_publish hreact caller hsettled).sound
  | false =>
      exact hsettled.after.sound

theorem publication_upkeep (k : Conditions) (hconduct : Conduct k.caller True k.reaction) :
    Upkeep k (fun _ => True) Attending where
  pass _ h := h.of_same rfl rfl rfl
  act {w stage actions} _ h := by
    have hdeed := act_deed hconduct actions (fun _ _ _ => trivial) w
    exact (h.trans (after_of_deed hdeed) (calm_of_deed hdeed)).orLost _
  send {w c hop request} h := by
    have hsame : Attending { w with request := request } (.exchanging c hop request) :=
      h.of_same rfl rfl rfl
    exact hsame.note rfl rfl
  answer event h := attending_onEvent hconduct k.listeners event h
  expire {w c hop request} h _ := by
    have hreleased := after_fire hconduct.discreet .release (e := .released c)
      rfl Bool.noConfusion h.left
    exact Attending.orLost (.of_not_waits hreleased.sound rfl) _
  ask h := h.of_same rfl rfl rfl
  grant h := attending_onGranted h
  refuse cause h :=
    h.note rfl rfl
  unavailable e h := .of_not_waits (sound_onUnavailable hconduct.discreet k.listeners e h) rfl

theorem attending_withHooks (hconduct : Conduct caller True react) (plot : Plot)
    (h : Attending w stage) : Attending (Session.withHooks caller react plot w) stage := by
  have hcalm : forall m v, Calm v (react m v).1 := fun m v => calm_of_deed (hconduct m v)
  have hregister : forall hook v, Attending v stage ->
      Attending (v.register caller react hook) stage :=
    fun hook v hv =>
      hv.trans (after_register hconduct.discreet hook) (calm_drift.register hcalm hook v)
  have hnumber : forall n v, Attending v stage ->
      Attending { v with nextHook := n } stage :=
    fun _ _ hv => hv.of_same rfl rfl rfl
  exact @Session.withHooks_induction caller react (fun v => Attending v stage) hregister
    hnumber plot w h

theorem sound_opening (request : Request) (nextConnection : Nat) :
    (Session.opening request nextConnection).Sound where
  unsettled _ := ⟨rfl, fun _ => List.not_mem_nil⟩
  shown := Bool.noConfusion
  resolved := Bool.noConfusion
  journal newer s older h := by
    cases newer <;> cases h

theorem attending_firstConnected (request : Request) (nextConnection : Nat) (h : Hop) :
    Attending (Session.firstConnected request nextConnection h).1
      (.exchanging (Session.firstConnected request nextConnection h).2 0 request) := by
  have hanswer : Attending (Session.firstAnswer request nextConnection h)
      (.acquiring 0 request) := by
    constructor
    · exact (sound_opening request nextConnection).of_same rfl rfl rfl rfl
    · intro _ _
      exact ⟨rfl, ReleasedBut.of_absent (fun _ => List.not_mem_nil)⟩
  exact (attending_onGranted hanswer).of_same rfl rfl rfl

end Course

end World

namespace Session

/-- Whatever user code does, and however handlings are nested: when anybody sees that a
call has ended, the connection of the handling that ended it is released, and so are all
connections of the call if nobody but its own loop handled events for it. -/
theorem released_before_shown {caller : Caller} {react : Reaction}
    (hconduct : World.Conduct caller True react) (clockStart nextConnection : Nat)
    (plot : Plot) (request : Request) (hops : List Hop) :
    forall w, w ∈ (launch caller react clockStart nextConnection plot request hops).worlds ->
      (w.ShowsEnd -> Back w.entries) ∧
        forall newer s older, w.journal = newer ++ s :: older -> s.showsEnd = true ->
          Back (older.map Stamped.entry) := by
  have hsound : forall w,
      w ∈ (launch caller react clockStart nextConnection plot request hops).worlds ->
      w.Sound := by
    apply worlds_induction
    · exact World.sound_opening request nextConnection
    · intro time asked v hv
      exact hv.of_same rfl rfl rfl rfl
    · intro cause v hv
      exact (World.After.note hv rfl Bool.noConfusion).sound
    · rintro h w _ rfl
      have hbegun := World.attending_withHooks hconduct plot
        (World.attending_firstConnected request nextConnection h)
      refine ⟨hbegun.left, ?_⟩
      intro rest p hp
      have hattending := Upkeep.inv_course
        (fun deadline => World.publication_upkeep
          ⟨caller, react, plot.listeners, deadline⟩ hconduct)
        (fun _ _ => ⟨trivial, trivial⟩) hbegun
        (fun _ => .of_not_waits hbegun.left rfl) p hp
      exact hattending.left
  intro w hw
  exact ⟨(hsound w hw).back_of_showsEnd, (hsound w hw).journal⟩

theorem released_before_shown_over_meddling :
    let worlds := (launch meddlingCaller meddlingCaller.reaction 0 1 plainPlot
      (plainRequest none) [plainHop 5]).worlds
    (exists w, w ∈ worlds ∧ w.ShowsEnd) ∧
      forall w, w ∈ worlds ->
        (w.ShowsEnd -> Back w.entries) ∧
          forall newer s older, w.journal = newer ++ s :: older -> s.showsEnd = true ->
            Back (older.map Stamped.entry) := by
  intro worlds
  have hdone : (worlds.any fun w => w.call.isDone) = true := by decide +kernel
  constructor
  · rcases List.any_eq_true.mp hdone with ⟨w, hw, hw'⟩
    exact ⟨w, hw, Or.inl hw'⟩
  · exact released_before_shown (Caller.reaction_conduct (Caller.within_true meddlingCaller))
      0 1 plainPlot (plainRequest none) [plainHop 5]

end Session
end HttpCall
