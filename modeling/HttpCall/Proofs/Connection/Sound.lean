import HttpCall.Proofs.Connection.Release
import HttpCall.Proofs.Handling.Outline

/-!
# Sound worlds

In a sound world, whatever shows the end of the call comes after the releases.  User
code and handlings, however they are nested, keep worlds sound.
-/

namespace HttpCall

def Entry.tellsEnd : Entry -> Bool
  | completed _ _ => true
  | polled r => r.isSome
  | _ => false

def Stamped.showsEnd (s : Stamped) : Bool :=
  (s.view.any fun v => v.phase.isTerminal) || s.entry.tellsEnd

theorem Entry.Notice.isAside {m : Moment} {e : Entry} (h : Notice m e) : e.isAside = true := by
  cases h <;> rfl

namespace World

/-- Whatever shows the end of the call, now or in the journal, came after the releases. -/
structure Sound (w : World) : Prop where
  unsettled : w.call.outcome = none ->
    w.call.published = false ∧ forall held, Entry.settled held ∉ w.entries
  shown : w.call.published = true -> Back w.entries
  resolved : w.result.isSome = true -> w.call.published = true
  journal : forall newer s older, w.journal = newer ++ s :: older -> s.showsEnd = true ->
    Back (older.map Stamped.entry)

/-- The outcome is recorded, and whoever recorded it has not published it yet. -/
def Unshown (w : World) : Prop :=
  w.call.outcome.isSome = true ∧ w.call.published = false

/-- What became of a sound world.  An outcome that somebody else is about to publish is
left to them, and none is recorded after it. -/
structure After (v w : World) : Prop where
  sound : w.Sound
  unshown : v.Unshown -> w.Unshown
  published : v.call.published = true -> w.call.published = true
  news : exists news, w.entries = news ++ v.entries ∧
    (forall c, Entry.acquired c ∉ news) ∧
      (v.call.outcome.isSome = true -> forall held, Entry.settled held ∉ news)

theorem published_of_isTerminal {w : World} (h : w.call.phase.isTerminal = true) :
    w.call.published = true := by
  cases hpublished : w.call.published with
  | true =>
      rfl
  | false =>
      have hphase : w.call.phase = .pending := by
        simp [Call.phase, Call.visible_eq_none_of_not_published hpublished]
      rw [hphase] at h
      cases h

namespace Sound

variable {v w : World}

theorem settled_of_published (h : w.Sound) (hpublished : w.call.published = true) :
    w.call.outcome.isSome = true := by
  cases houtcome : w.call.outcome with
  | some o =>
      rfl
  | none =>
      rw [(h.unsettled houtcome).left] at hpublished
      cases hpublished

theorem of_same (h : v.Sound) (houtcome : w.call.outcome = v.call.outcome)
    (hpublished : w.call.published = v.call.published) (hjournal : w.journal = v.journal)
    (hresult : w.result = v.result) : w.Sound := by
  have hentries : w.entries = v.entries := congrArg (List.map Stamped.entry) hjournal
  constructor
  · rw [houtcome, hpublished, hentries]
    exact h.unsettled
  · rw [hpublished, hentries]
    exact h.shown
  · rw [hresult, hpublished]
    exact h.resolved
  · rw [hjournal]
    exact h.journal

theorem journal_note (hshown : w.call.published = true -> Back w.entries)
    (hjournal : forall newer s older, w.journal = newer ++ s :: older ->
      s.showsEnd = true -> Back (older.map Stamped.entry))
    {e : Entry} (htells : e.tellsEnd = true -> w.call.published = true) :
    forall newer s older, (w.note e).journal = newer ++ s :: older ->
      s.showsEnd = true -> Back (older.map Stamped.entry) := by
  intro newer s older hsplit hshows
  cases newer with
  | nil =>
      injection hsplit with hs hrest
      rw [← hrest]
      apply hshown
      rw [← hs] at hshows
      rcases Bool.or_eq_true_iff.mp hshows with hview | hentry
      · unfold view at hview
        split at hview
        · exact published_of_isTerminal hview
        · cases hview
      · exact htells hentry
  | cons first newer =>
      injection hsplit with _ hrest
      exact hjournal newer s older hrest hshows

theorem note (h : w.Sound) {e : Entry} (hsettled : forall held, e ≠ .settled held)
    (hback : w.call.published = true -> Back (e :: w.entries))
    (htells : e.tellsEnd = true -> w.call.published = true) : (w.note e).Sound where
  unsettled := by
    intro houtcome
    rcases h.unsettled houtcome with ⟨hpublished, hnone⟩
    refine ⟨hpublished, ?_⟩
    intro held hmem
    rcases List.mem_cons.mp hmem with he | hmem
    · exact hsettled held he.symm
    · exact hnone held hmem
  shown := hback
  resolved := h.resolved
  journal := journal_note h.shown h.journal htells

end Sound

namespace After

variable {u v w : World}

theorem refl (h : w.Sound) : After w w :=
  ⟨h, id, id, [], rfl, fun _ => List.not_mem_nil, fun _ _ => List.not_mem_nil⟩

theorem settled (h : After v w) (houtcome : v.call.outcome.isSome = true) :
    w.call.outcome.isSome = true := by
  cases hpublished : v.call.published with
  | true =>
      exact h.sound.settled_of_published (h.published hpublished)
  | false =>
      exact (h.unshown ⟨houtcome, hpublished⟩).left

theorem trans (huv : After u v) (hvw : After v w) : After u w where
  sound := hvw.sound
  unshown := fun h => hvw.unshown (huv.unshown h)
  published := fun h => hvw.published (huv.published h)
  news := by
    rcases huv.news with ⟨first, hfirst, hacquired, hsettled⟩
    rcases hvw.news with ⟨second, hsecond, hacquired', hsettled'⟩
    refine ⟨second ++ first, ?_, ?_, ?_⟩
    · rw [hsecond, hfirst, List.append_assoc]
    · intro c hc
      rcases List.mem_append.mp hc with hc | hc
      · exact hacquired' c hc
      · exact hacquired c hc
    · intro houtcome held hc
      rcases List.mem_append.mp hc with hc | hc
      · exact hsettled' (huv.settled houtcome) held hc
      · exact hsettled houtcome held hc

theorem of_same (h : v.Sound) (houtcome : w.call.outcome = v.call.outcome)
    (hpublished : w.call.published = v.call.published) (hjournal : w.journal = v.journal)
    (hresult : w.result = v.result) : After v w where
  sound := h.of_same houtcome hpublished hjournal hresult
  unshown := by
    unfold Unshown
    rw [houtcome, hpublished]
    exact id
  published := by
    rw [hpublished]
    exact id
  news := ⟨[], congrArg (List.map Stamped.entry) hjournal, fun _ => List.not_mem_nil,
    fun _ _ => List.not_mem_nil⟩

theorem note (h : w.Sound) {e : Entry} (he : e.isAside = true)
    (htells : e.tellsEnd = true -> w.call.published = true) : After w (w.note e) := by
  have hsettled : forall held, Entry.settled held ∉ [e] :=
    fun held hmem => e.ne_settled_of_isAside he held (List.mem_singleton.mp hmem).symm
  have hacquired : forall c, Entry.acquired c ∉ [e] :=
    fun c hmem => e.ne_acquired_of_isAside he c (List.mem_singleton.mp hmem).symm
  have hback : w.call.published = true -> Back (e :: w.entries) :=
    fun hpublished => (h.shown hpublished).cons he
  exact ⟨h.note (e.ne_settled_of_isAside he) hback htells, id, id, [e], rfl, hacquired,
    fun _ => hsettled⟩

theorem extend (h : After v w) (hbefore : v.call.outcome = none) {x : World} {e : Entry}
    (hx : x.Sound) (hpublished : w.call.published = true -> x.call.published = true)
    (hentries : x.entries = e :: w.entries) (he : forall c, e ≠ .acquired c) :
    After v x := by
  have hunsettled : v.call.outcome.isSome ≠ true := by
    rw [hbefore]
    exact Bool.false_ne_true
  rcases h.news with ⟨news, hnews, hacquired, _⟩
  constructor
  · exact hx
  · exact fun hunshown => absurd hunshown.left hunsettled
  · exact fun hv => hpublished (h.published hv)
  · refine ⟨e :: news, ?_, ?_, fun hsettled => absurd hsettled hunsettled⟩
    · rw [hentries, hnews, List.cons_append]
    · intro c hc
      rcases List.mem_cons.mp hc with hc | hc
      · exact he c hc.symm
      · exact hacquired c hc

theorem backBut {held : Option Connection} (h : After v w)
    (houtcome : v.call.outcome.isSome = true) (hback : BackBut held v.entries) :
    BackBut held w.entries := by
  rcases h.news with ⟨news, hnews, hacquired, hsettled⟩
  rw [hnews]
  exact hback.append (hsettled houtcome) hacquired

theorem recorded (h : After v w) (hv : exists held, Entry.settled held ∈ v.entries) :
    exists held, Entry.settled held ∈ w.entries := by
  rcases h.news with ⟨news, hnews, _, _⟩
  rcases hv with ⟨held, hheld⟩
  rw [hnews]
  exact ⟨held, List.mem_append_right news hheld⟩

theorem acquired {held : Option Connection} (h : After v w)
    (hv : Quiet v.entries -> ReleasedBut held Entry.acquired v.entries) :
    Quiet w.entries -> ReleasedBut held Entry.acquired w.entries := by
  rcases h.news with ⟨news, hnews, hacquired, _⟩
  rw [hnews]
  intro hquiet
  exact (hv hquiet.of_append).append hacquired

end After

/-- Somebody who asks is told that the call has ended, or its caller's own result is
there. -/
def ShowsEnd (w : World) : Prop :=
  w.call.isDone = true ∨ w.call.result?.isSome = true ∨
    w.call.waitForNoTime.isSome = true ∨ w.result.isSome = true

theorem Sound.back_of_showsEnd {w : World} (h : w.Sound) (hshows : w.ShowsEnd) :
    Back w.entries := by
  apply h.shown
  have hresult : w.call.result?.isSome = true -> w.call.published = true := by
    intro hsome
    rcases Option.isSome_iff_exists.mp hsome with ⟨r, hr⟩
    rcases Option.map_eq_some_iff.mp hr with ⟨o, hvisible, _⟩
    exact (Call.visible_eq_some.mp hvisible).left
  rcases hshows with hdone | hpolled | hwaited | hresolved
  · exact published_of_isTerminal hdone
  · exact hresult hpolled
  · exact hresult hwaited
  · exact h.resolved hresolved

/-!
## Handlings
-/

structure Settling (held : Option Connection) (v w : World) : Prop where
  after : After v w
  before : v.call.outcome = none
  unshown : w.Unshown
  recorded : exists x, Entry.settled x ∈ w.entries
  back : BackBut held w.entries

/-- What holds in the course of a handling; the flag tells whether it recorded the
outcome. -/
def Handling (v : World) (held : Option Connection) : Bool -> World -> Prop
  | true, w => Settling held v w
  | false, w => After v w

def Discreet (react : Reaction) : Prop := forall m v, v.Sound -> After v (react m v).1

section Handling

variable {react : Reaction} {u v w : World} {held : Option Connection} {first : Bool}

theorem Handling.after (h : Handling v held first w) : After v w := by
  cases first with
  | true =>
      exact Settling.after h
  | false =>
      exact h

theorem Handling.trans (h : Handling u held first v) (hvw : After v w) :
    Handling u held first w := by
  cases first with
  | true =>
      have hsettling : Settling held u v := h
      exact {
        after := hsettling.after.trans hvw
        before := hsettling.before
        unshown := hvw.unshown hsettling.unshown
        recorded := hvw.recorded hsettling.recorded
        back := hvw.backBut hsettling.unshown.left hsettling.back }
  | false =>
      exact After.trans h hvw

theorem after_fire (hreact : Discreet react) (m : Moment) {e : Entry}
    (haside : e.isAside = true) (htells : e.tellsEnd = true -> w.call.published = true)
    (h : w.Sound) : After w (w.fire react m e).1 := by
  have hnote := After.note h haside htells
  exact hnote.trans (hreact m _ hnote.sound)

theorem after_notice (hreact : Discreet react) {m : Moment} {e : Entry}
    (he : Entry.Notice m e) (h : w.Sound) : After w (w.fire react m e).1 := by
  have htells : e.tellsEnd = true -> w.call.published = true := by
    intro htells
    cases he <;> cases htells
  exact after_fire hreact m he.isAside htells h

theorem Sound.settle {o : Outcome} {call : Call} (h : w.Sound)
    (hsettle : w.call.settle? o = some call) (held : Option Connection) :
    ({ w with call := call }.note (.settled held)).Sound := by
  rcases Call.outcome_of_settle? hsettle with ⟨hnone, hsome, hsame⟩
  have hunpublished : w.call.published = false := (h.unsettled hnone).left
  have hunshown : call.published ≠ true := by
    rw [hsame, hunpublished]
    exact Bool.false_ne_true
  constructor
  · intro hnone'
    rw [call_note, hsome] at hnone'
    cases hnone'
  · intro hpublished
    exact absurd hpublished hunshown
  · intro hresult
    rw [h.resolved hresult] at hunpublished
    cases hunpublished
  · exact Sound.journal_note (w := { w with call := call })
      (fun hpublished => absurd hpublished hunshown) h.journal Bool.noConfusion

theorem settling_settle {o : Outcome} {call : Call} (h : After v w)
    (hsettle : w.call.settle? o = some call)
    (hheld : Quiet v.entries -> ReleasedBut held .acquired v.entries) :
    Settling held v ({ w with call := call }.note (.settled held)) := by
  rcases Call.outcome_of_settle? hsettle with ⟨hnone, hsome, hsame⟩
  rcases h.sound.unsettled hnone with ⟨hunpublished, habsent⟩
  have hbefore : v.call.outcome = none := by
    cases houtcome : v.call.outcome with
    | none =>
        rfl
    | some first =>
        have hsettled := h.settled (Option.isSome_iff_exists.mpr ⟨first, houtcome⟩)
        rw [hnone] at hsettled
        cases hsettled
  have hunshown : Unshown ({ w with call := call }.note (.settled held)) := by
    constructor
    · exact Option.isSome_iff_exists.mpr ⟨o, hsome⟩
    · exact hsame.trans hunpublished
  have hafter : After v ({ w with call := call }.note (.settled held)) :=
    h.extend hbefore (h.sound.settle hsettle held) (fun hw => hsame.trans hw) rfl
      (fun _ => Entry.noConfusion)
  have hown : ReleasedBut held Entry.settledOn (.settled held :: w.entries) := by
    have habsent' : forall c, Entry.settledOn c ∉ w.entries := fun c => habsent (some c)
    apply (ReleasedBut.of_absent habsent').cons
    intro c hc
    injection hc
  have hall : Quiet (.settled held :: w.entries) ->
      ReleasedBut held .acquired (.settled held :: w.entries) := by
    intro hquiet
    have hquiet' : Quiet w.entries := hquiet.of_cons
    exact (h.acquired hheld hquiet').cons (fun _ => Entry.noConfusion)
  exact ⟨hafter, hbefore, hunshown, ⟨held, List.mem_cons_self⟩, ⟨hown, hall⟩⟩

theorem handling_settle (hheld : Quiet v.entries -> ReleasedBut held .acquired v.entries)
    (o : Outcome) (h : Handling v held first w) :
    Handling v held (w.settle held o).2 (w.settle held o).1 := by
  unfold settle
  split
  · rename_i call hsettle
    exact settling_settle h.after hsettle hheld
  · exact h.after

theorem handling_release (hreact : Discreet react) {c : Connection}
    (h : Handling v (some c) first w) :
    Handling v none first (w.release react c).1 := by
  have hnote : After w (w.note (.released c)) :=
    After.note h.after.sound rfl Bool.noConfusion
  have hreleased : Handling v none first (w.note (.released c)) := by
    cases first with
    | true =>
        have hsettling : Settling (some c) v w := h
        exact ⟨hsettling.after.trans hnote, hsettling.before, hsettling.unshown,
          hnote.recorded hsettling.recorded, hsettling.back.release⟩
    | false =>
        exact After.trans h hnote
  exact hreleased.trans (hreact .release _ hnote.sound)

theorem after_runHook (hreact : Discreet react) (caller : Caller) (o : Outcome) (hook : Hook)
    (hpublished : w.call.published = true) (h : w.Sound) :
    After w (w.runHook caller react o hook) := by
  cases hook with
  | numbered n =>
      exact after_fire hreact .complete rfl (fun _ => hpublished) h
  | transform =>
      have hsound : Sound { w with result := some (resultOf caller o) } :=
        ⟨h.unsettled, h.shown, fun _ => hpublished, h.journal⟩
      exact ⟨hsound, id, id, [], rfl, fun _ => List.not_mem_nil, fun _ _ => List.not_mem_nil⟩

theorem after_publish (hreact : Discreet react) (caller : Caller)
    (h : Settling none v w) : After v (w.publish caller react) := by
  have hhook : forall o hook x, After v x ∧ x.call.published = true ->
      After v (x.runHook caller react o hook) ∧
        (x.runHook caller react o hook).call.published = true := by
    rintro o hook x ⟨hx, hpublished⟩
    have hran := after_runHook hreact caller o hook hpublished hx.sound
    exact ⟨hx.trans hran, hran.published hpublished⟩
  unfold publish
  split
  · rename_i o hooks call hpublish
    rcases Call.visible_eq_some.mp (Call.visible_of_publish? hpublish) with
      ⟨hpublished, houtcome⟩
    have hback : Back w.entries := ⟨h.recorded, h.back⟩
    have hsound : ({ w with call := call }.note .published).Sound := by
      constructor
      · intro hnone
        rw [call_note, houtcome] at hnone
        cases hnone
      · exact fun _ => hback.cons rfl
      · exact fun _ => hpublished
      · exact Sound.journal_note (w := { w with call := call }) (fun _ => hback)
          h.after.sound.journal (fun _ => hpublished)
    have hshown : After v ({ w with call := call }.note .published) :=
      h.after.extend h.before hsound (fun _ => hpublished) rfl (fun _ => Entry.noConfusion)
    exact (foldl_runHook_induction (hhook o) hooks ⟨hshown, hpublished⟩).left
  · exact h.after

theorem publication_outline (caller : Caller) (hreact : Discreet react) {c : Connection}
    (hheld : Quiet v.entries -> ReleasedBut (some c) .acquired v.entries) :
    Outline caller react c (Handling v (some c))
      (fun w => After v w ∧ w.call.outcome = none) (Handling v none) (After v) where
  notice hnotice h := h.trans (after_notice hreact hnotice h.after.sound)
  cookie k h := h.trans (.of_same h.after.sound rfl rfl rfl rfl)
  settle o h := handling_settle hheld o h
  follow h hcount := by
    rcases Call.outcome_of_countRedirect? hcount with ⟨hnone, hnone', hsame⟩
    have houtcome := hnone'.trans hnone.symm
    exact ⟨h.after.trans (.of_same h.after.sound houtcome hsame rfl rfl), hnone'⟩
  release h := handling_release hreact h
  publish h := after_publish hreact caller h
  leave h := h

theorem after_handle (caller : Caller) (hreact : Discreet react) (listeners : Listeners)
    {c : Connection} (request : Request) (event : Event)
    (hheld : Quiet v.entries -> ReleasedBut (some c) .acquired v.entries) (hv : v.Sound) :
    After v (v.handle caller react listeners c request event).1 ∧
      forall location status,
        (v.handle caller react listeners c request event).2 =
          .ok (.redirect location status) ->
        (v.handle caller react listeners c request event).1.call.outcome = none := by
  have hhandled := (publication_outline caller hreact hheld).handled listeners request event
    (w := v) (After.refl hv)
  rcases hresult : v.handle caller react listeners c request event with
    ⟨w, fault | _ | ⟨location, status⟩⟩ <;> rw [hresult] at hhandled
  · refine ⟨?_, fun _ _ h => nomatch h⟩
    rcases hhandled with rfl | hended
    · exact After.refl hv
    · exact hended
  · exact ⟨hhandled, fun _ _ h => nomatch h⟩
  · exact ⟨hhandled.left, fun _ _ _ => hhandled.right⟩

end Handling

/-!
## User code
-/

section Conduct

variable {caller : Caller} {meddling : Prop} {react : Reaction} {v w : World}

theorem mem_brought {c : Connection} : c ∈ w.brought <-> Entry.injecting c ∈ w.entries := by
  unfold brought
  constructor
  · intro hc
    rcases List.mem_filterMap.mp hc with ⟨e, he, hbrought⟩
    cases e <;> cases hbrought
    exact he
  · intro hc
    exact List.mem_filterMap.mpr ⟨_, hc, rfl⟩

theorem after_register (hreact : Discreet react) (hook : Hook) (h : w.Sound) :
    After w (w.register caller react hook) := by
  unfold register
  split
  · rename_i o hvisible
    exact after_runHook hreact caller o hook (Call.visible_eq_some.mp hvisible).left h
  · exact .of_same h rfl rfl rfl rfl

theorem after_of_deed (h : Deed caller meddling v w) : v.Sound -> After v w := by
  induction h with
  | idle w =>
      exact After.refl
  | andThen _ _ huv hvw =>
      intro hu
      exact (huv hu).trans (hvw (huv hu).sound)
  | poll w =>
      intro hw
      refine .note hw rfl ?_
      intro htells
      rcases Option.isSome_iff_exists.mp htells with ⟨r, hr⟩
      rcases Option.map_eq_some_iff.mp hr with ⟨o, hvisible, _⟩
      exact (Call.visible_eq_some.mp hvisible).left
  | hook react w _ ih =>
      intro hw
      have hnumbered : After w { w with nextHook := w.nextHook + 1 } :=
        .of_same hw rfl rfl rfl rfl
      exact hnumbered.trans (after_register ih _ hnumbered.sound)
  | bring target w _ =>
      intro hw
      have hconnected : After w (w.connect target).1 := .of_same hw rfl rfl rfl rfl
      exact hconnected.trans (.note hconnected.sound rfl Bool.noConfusion)
  | handle policy react listeners c request event w _ _ hc ih =>
      intro hw
      have hloud : Quiet w.entries -> ReleasedBut (some c) .acquired w.entries :=
        fun hquiet => absurd (mem_brought.mp hc) (hquiet c)
      exact (after_handle _ ih listeners request event hloud hw).left
  | injected step w _ =>
      intro hw
      exact .note hw rfl Bool.noConfusion

theorem Conduct.discreet (h : Conduct caller meddling react) : Discreet react :=
  fun m v => after_of_deed (h m v)

end Conduct
end World
end HttpCall
