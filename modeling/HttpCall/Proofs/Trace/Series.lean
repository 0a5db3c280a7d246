import HttpCall.Proofs.Handling.Drift
import HttpCall.Proofs.Trace.Exception

/-!
# Events in any order

Events for one call are handled one after another, whatever they are and however many.
Before the end of the call shows, the exception listener is told of one error at most, and
of the one that the call fails for.  But nothing keeps it from being told of further errors
afterwards: each event that comes late is handled like any other, but for its outcome.
-/

namespace HttpCall

structure Alarm where
  phase : Option Phase
  error : TransportError
deriving DecidableEq, Repr

def Stamped.alarm? (s : Stamped) : Option Alarm :=
  s.entry.exception?.map (Alarm.mk (s.view.map Snapshot.phase))

def Listeners.hears (listeners : Listeners) (e : TransportError) : List TransportError :=
  if listeners.exception then [e] else []

/-- An event that arrives on a connection, while a request is under way. -/
structure Delivery where
  connection : Connection
  request : Request
  event : Event

/-- What the exception listener is told when an event comes late. -/
inductive Echo (listeners : Listeners) : Event -> List TransportError -> Prop where
  | closed : Echo listeners .closed []
  | error (e : TransportError) : Echo listeners (.error e) (listeners.hears e)
  | answered (r : Response) : Echo listeners (.response r) []
  | brokeDown (r : Response) (fault : Fault) :
      Echo listeners (.response r) (listeners.hears (World.listenerError fault))

inductive Echoes (listeners : Listeners) : List Delivery -> List TransportError -> Prop where
  | nil : Echoes listeners [] []
  | cons {d : Delivery} {ds : List Delivery} {first more : List TransportError} :
      Echo listeners d.event first -> Echoes listeners ds more ->
      Echoes listeners (d :: ds) (first ++ more)

theorem Echoes.eq_nil {listeners : Listeners} {ds : List Delivery}
    {late : List TransportError} (h : Echoes listeners ds late)
    (hclosed : forall d, d ∈ ds -> d.event = .closed) : late = [] := by
  induction h with
  | nil => rfl
  | @cons d ds first more hfirst _ ih =>
      rw [hclosed d List.mem_cons_self] at hfirst
      cases hfirst
      exact ih (fun x hx => hclosed x (List.mem_cons_of_mem d hx))

/-- The errors of which the exception listener is told before a call ends with an
outcome. -/
def Foretold (listeners : Listeners) (o : Outcome) (early : List TransportError) : Prop :=
  (exists e, o = .error (.transport e.message) ∧ early = listeners.hears e) ∨
    (forall reason, o ≠ .error (.transport reason)) ∧ early = []

theorem Foretold.length_le {listeners : Listeners} {o : Outcome} {early : List TransportError}
    (h : Foretold listeners o early) : early.length <= 1 := by
  rcases h with ⟨e, _, rfl⟩ | ⟨_, rfl⟩
  · unfold Listeners.hears
    cases listeners.exception with
    | false => exact Nat.zero_le 1
    | true => exact Nat.le_refl 1
  · exact Nat.zero_le 1

theorem LastWords.foretold {listeners : Listeners} {words : List Entry} {o : Outcome}
    (h : LastWords listeners words o) :
    Foretold listeners o (words.filterMap Entry.exception?) := by
  rcases h.stems with ⟨before, raised, rfl, hneutral, hstems⟩
  rw [List.filterMap_append, Entry.errors_of_isNeutral hneutral, List.nil_append]
  exact hstems.errors

namespace World

def alarms (w : World) : List Alarm := w.journal.reverse.filterMap Stamped.alarm?

def deliverAll (caller : Caller) (react : Reaction) (listeners : Listeners)
    (ds : List Delivery) (w : World) : World :=
  ds.foldl (fun v d =>
    (v.handle caller react listeners d.connection d.request d.event).1) w

theorem alarms_of_journal {v w : World} (h : w.journal = v.journal) :
    w.alarms = v.alarms := by
  unfold alarms
  rw [h]

theorem alarms_note (w : World) (e : Entry) :
    (w.note e).alarms = w.alarms ++
      (e.exception?.map (Alarm.mk (w.view.map Snapshot.phase))).toList := by
  unfold alarms note
  rw [List.reverse_cons, List.filterMap_append]
  cases hexception : e.exception? <;> simp [Stamped.alarm?, hexception]

theorem alarms_of_timely {news : List Stamped} (h : forall s, s ∈ news -> s.Timely) :
    news.reverse.filterMap Stamped.alarm? =
      ((((news.map Stamped.entry).filter fun e => !e.isPoll).reverse).filterMap
        Entry.exception?).map (Alarm.mk (some .pending)) := by
  induction news with
  | nil =>
      rfl
  | cons s rest ih =>
      have hrest := ih (fun x hx => h x (List.mem_cons_of_mem s hx))
      have htimely := h s List.mem_cons_self
      rcases s with ⟨time, view, entry⟩
      rw [List.reverse_cons, List.filterMap_append, hrest, List.map_cons]
      cases entry with
      | exception e =>
          have hview : view.map Snapshot.phase = some .pending :=
            htimely (Option.some_ne_none e)
          simp [Entry.isPoll, Entry.exception?, Stamped.alarm?, hview]
      | _ =>
          simp [Entry.isPoll, Entry.exception?, Stamped.alarm?, List.filterMap_cons]

theorem Adds.alarms {v w : World} {segment : List Entry} (h : Adds v w segment) :
    w.alarms = v.alarms ++
      (segment.filterMap Entry.exception?).map (Alarm.mk (some .pending)) := by
  rcases h with ⟨news, hnews, htimely, rfl⟩
  unfold World.alarms
  rw [hnews, List.reverse_append, List.filterMap_append, alarms_of_timely htimely]

structure Raises (v w : World) (errors : List TransportError) : Prop where
  started : w.started = v.started
  outcome : w.call.outcome = v.call.outcome
  published : w.call.published = v.call.published
  alarms : w.alarms = v.alarms ++ errors.map (Alarm.mk (v.view.map Snapshot.phase))

namespace Raises

variable {u v w : World} {errors more : List TransportError}

theorem visible (h : Raises v w errors) : w.call.visible = v.call.visible := by
  unfold Call.visible
  rw [h.outcome, h.published]

theorem view (h : Raises v w errors) :
    w.view.map Snapshot.phase = v.view.map Snapshot.phase := by
  have hphase : w.call.phase = v.call.phase := by
    unfold Call.phase
    rw [h.visible]
  unfold World.view
  rw [h.started]
  cases v.started with
  | false => rfl
  | true => exact congrArg some hphase

theorem of_same (hstarted : w.started = v.started) (houtcome : w.call.outcome = v.call.outcome)
    (hpublished : w.call.published = v.call.published) (hjournal : w.journal = v.journal) :
    Raises v w [] where
  started := hstarted
  outcome := houtcome
  published := hpublished
  alarms := by
    rw [alarms_of_journal hjournal]
    exact (List.append_nil _).symm

theorem refl (w : World) : Raises w w [] := .of_same rfl rfl rfl rfl

theorem trans (huv : Raises u v errors) (hvw : Raises v w more) :
    Raises u w (errors ++ more) where
  started := hvw.started.trans huv.started
  outcome := hvw.outcome.trans huv.outcome
  published := hvw.published.trans huv.published
  alarms := by
    rw [hvw.alarms, huv.alarms, huv.view, List.map_append, List.append_assoc]

theorem after (huv : Raises u v []) (hvw : Raises v w errors) : Raises u w errors :=
  huv.trans hvw

theorem before (huv : Raises u v errors) (hvw : Raises v w []) : Raises u w errors := by
  have hboth := huv.trans hvw
  rwa [List.append_nil] at hboth

theorem note (w : World) (e : Entry) : Raises w (w.note e) e.exception?.toList where
  started := rfl
  outcome := rfl
  published := rfl
  alarms := by
    rw [alarms_note]
    cases e.exception? <;> rfl

end Raises

theorem Aside.raises {v w : World} (h : Aside v w) : Raises v w [] where
  started := h.started
  outcome := congrArg Position.outcome h.position
  published := congrArg Position.published h.position
  alarms := by
    rcases h.hooks with ⟨calls, hcalls, hheard⟩
    have hnone : calls.filterMap Entry.exception? = [] := by
      apply List.filterMap_eq_nil_iff.mpr
      intro e he
      rcases hheard e he with ⟨o, _, n, rfl⟩
      rfl
    have halarms := hcalls.alarms
    rwa [hnone] at halarms

section Handling

variable {caller : Caller} {react : Reaction} {listeners : Listeners} {v w : World}

theorem raises_fire (hreact : forall m v, Aside v (react m v).1) (m : Moment) (e : Entry)
    (w : World) : Raises w (w.fire react m e).1 e.exception?.toList :=
  (Raises.note w e).before (hreact m (w.note e)).raises

theorem raises_fireIf (hreact : forall m v, Aside v (react m v).1) (attached : Bool)
    (m : Moment) {e : Entry} (he : e.exception? = none) (w : World) :
    Raises w (w.fireIf attached react m e).1 [] := by
  cases attached with
  | false =>
      exact Raises.refl w
  | true =>
      have hfire := raises_fire hreact m e w
      rwa [he] at hfire

theorem raises_notifyException (hreact : forall m v, Aside v (react m v).1)
    (listeners : Listeners) (e : TransportError) (w : World) :
    Raises w (w.notifyException react listeners e) (listeners.hears e) := by
  unfold notifyException Listeners.hears
  cases listeners.exception with
  | false => exact Raises.refl w
  | true => exact raises_fire hreact .exception (.exception e) w

theorem settle_of_settled {first : Outcome} (h : w.call.outcome = some first)
    (held : Option Connection) (o : Outcome) : w.settle held o = (w, false) := by
  unfold settle Call.settle?
  rw [h]

/-!
## Events that come late
-/

def Idles (w : World) (late : List TransportError) (result : World × Ending) : Prop :=
  Raises w result.1 late ∧ result.2 = .release false

def IdlesOrBreaks (listeners : Listeners) (w : World) (result : World × Ending) : Prop :=
  Idles w [] result ∨ exists fault, Idles w (listeners.hears (listenerError fault)) result

theorem IdlesOrBreaks.after {result : World × Ending}
    (h : IdlesOrBreaks listeners v result) (hv : Raises w v []) :
    IdlesOrBreaks listeners w result := by
  rcases h with hidles | ⟨fault, hidles⟩
  · exact Or.inl ⟨hv.after hidles.left, hidles.right⟩
  · exact Or.inr ⟨fault, hv.after hidles.left, hidles.right⟩

theorem idles_afterListener (hreact : forall m v, Aside v (react m v).1) {o : Outcome}
    {c : Connection} {next : World -> World × Ending} {result : World × Option Fault}
    (hw : w.call.outcome = some o) (hresult : Raises w result.1 [])
    (hnext : forall v, v.call.outcome = some o -> IdlesOrBreaks listeners v (next v)) :
    IdlesOrBreaks listeners w (afterListener react listeners c next result) := by
  have hsettled := hresult.outcome.trans hw
  rcases result with ⟨v, _ | fault⟩
  · exact (hnext v hsettled).after hresult
  · have hnotified := raises_notifyException hreact listeners (listenerError fault) v
    refine Or.inr ⟨fault, ?_⟩
    unfold afterListener
    dsimp only
    rw [settle_of_settled (hnotified.outcome.trans hsettled)]
    exact ⟨hresult.after hnotified, rfl⟩

theorem idles_notices (hreact : forall m v, Aside v (react m v).1) {o : Outcome}
    (c : Connection) (r : Response) {notices : List Effect}
    (hnotices : forall e, e ∈ notices -> e.isTelling = true) (hw : w.call.outcome = some o) :
    IdlesOrBreaks listeners w
      (perform react listeners c (notices ++ [.succeed r, .release]) false w) := by
  induction notices generalizing w with
  | nil =>
      left
      unfold Idles
      simp only [List.nil_append, perform, settle_of_settled hw]
      exact ⟨Raises.refl w, trivial⟩
  | cons effect notices ih =>
      have hrest := fun v hv => ih (w := v)
        (fun e he => hnotices e (List.mem_cons_of_mem effect he)) hv
      have hnotice := hnotices effect List.mem_cons_self
      cases effect with
      | notifyHeaders h =>
          exact idles_afterListener hreact hw (raises_fireIf hreact _ .headers rfl w) hrest
      | recordCookie k =>
          have hrecorded : Raises w { w with call := w.call.addCookie k } [] :=
            .of_same rfl rfl rfl rfl
          exact idles_afterListener hreact hw
            (hrecorded.after (raises_fireIf hreact _ .cookie rfl _)) hrest
      | notifyResponse r =>
          exact idles_afterListener hreact hw (raises_fireIf hreact _ .response rfl w) hrest
      | notifyException e =>
          cases hnotice
      | follow location status =>
          cases hnotice
      | succeed r =>
          cases hnotice
      | fail f =>
          cases hnotice
      | release =>
          cases hnotice

theorem idles_perform (hreact : forall m v, Aside v (react m v).1) {o : Outcome}
    (policy : Policy) (listeners : Listeners) (c : Connection) (request : Request) (event : Event)
    (hw : w.call.visible = some o) :
    exists effects, plan policy w.call.snapshot request event = .ok effects ∧
      exists late, Echo listeners event late ∧
        Idles w late (perform react listeners c effects false w) := by
  have houtcome : w.call.outcome = some o := (Call.visible_eq_some.mp hw).right
  have hphase : w.call.snapshot.phase ≠ .pending := by
    cases o <;> simp [Call.snapshot, Call.phase, hw]
  cases event with
  | closed =>
      refine ⟨[.release], ?_, [], .closed, Raises.refl w, rfl⟩
      simp only [plan, if_neg hphase]
  | error e =>
      have hnotified := raises_notifyException hreact listeners e w
      refine ⟨_, rfl, _, .error e, ?_⟩
      unfold Idles
      simp only [perform, settle_of_settled (hnotified.outcome.trans houtcome)]
      exact ⟨hnotified, trivial⟩
  | response r =>
      refine ⟨Plan.notices r ++ [.succeed r, .release], ?_, ?_⟩
      · simp only [plan, Plan.destination, if_neg hphase]
        rfl
      · rcases idles_notices hreact c r (fun _ => Plan.isTelling_of_mem_notices) houtcome
          with hidles | ⟨fault, hidles⟩
        · exact ⟨[], .answered r, hidles⟩
        · exact ⟨_, .brokeDown r fault, hidles⟩

/-- An event that comes late changes nothing about the call, but what it tells of is told
all the same. -/
theorem handle_late (hreact : forall m v, Aside v (react m v).1) {o : Outcome}
    (caller : Caller) (listeners : Listeners) (c : Connection) (request : Request)
    (event : Event) (hw : w.call.visible = some o) :
    exists late, Echo listeners event late ∧
      Raises w (w.handle caller react listeners c request event).1 late := by
  rcases idles_perform hreact caller.policy listeners c request event hw with
    ⟨effects, hplan, late, hecho, hraises, hending⟩
  refine ⟨late, hecho, ?_⟩
  unfold handle
  rw [hplan]
  dsimp only
  rcases hperform : perform react listeners c effects false w with ⟨v, ending⟩
  rw [hperform] at hraises hending
  cases hending
  dsimp only
  have hreleased : Raises v (v.release react c).1 [] :=
    raises_fire hreact .release (.released c) v
  rcases hrelease : v.release react c with ⟨x, _ | fault⟩ <;> rw [hrelease] at hreleased <;>
    exact hraises.before hreleased

/-!
## Series of events
-/

theorem started_drift :
    Drift (fun e => e.isOfLoop = false) (fun _ => True) (fun v w => w.started = v.started) where
  refl _ := rfl
  trans huv hvw := hvw.trans huv
  note _ _ := rfl
  access _ _ := rfl
  count _ _ _ _ := rfl

structure EndsWith (listeners : Listeners) (v w : World) (o : Outcome)
    (early : List TransportError) : Prop where
  started : w.started = true
  visible : w.call.visible = some o
  foretold : Foretold listeners o early
  alarms : w.alarms = v.alarms ++ early.map (Alarm.mk (some .pending))

theorem Ends.endsWith {c : Connection} (h : Ends listeners c v w) (hw : w.started = true) :
    exists o early, EndsWith listeners v w o early := by
  rcases h with ⟨words, o, calls, hlast, hcalls, hvisible, hadds⟩
  refine ⟨o, words.filterMap Entry.exception?, hw, hvisible, hlast.foretold, ?_⟩
  have hcalled : (.released c :: .published :: calls).filterMap Entry.exception? = [] := by
    apply Entry.errors_of_isNeutral
    simpa [Entry.isNeutral] using Entry.isNeutral_of_isCall hcalls
  rw [hadds.alarms, List.filterMap_append, List.filterMap_cons_none rfl, hcalled,
    List.append_nil]

/-- A live call stays live and nothing is told, or it ends. -/
theorem handle_early (hreact : forall m v, Aside v (react m v).1) (caller : Caller)
    (listeners : Listeners) (c : Connection) (request : Request) (event : Event)
    (hw : Live w) :
    Live (w.handle caller react listeners c request event).1 ∧
        (w.handle caller react listeners c request event).1.alarms = w.alarms ∨
      exists o early,
        EndsWith listeners w (w.handle caller react listeners c request event).1 o early := by
  have hhandle := handle_live (c := c) hreact caller listeners request event hw
  have hstarted : (w.handle caller react listeners c request event).1.started = true :=
    (started_drift.handle .outside (fun m v => (hreact m v).started) caller listeners c
      request event w).trans hw.started
  rcases hresult : w.handle caller react listeners c request event with
    ⟨v, fault | _ | ⟨location, status⟩⟩ <;> rw [hresult] at hhandle hstarted
  · rcases hhandle with rfl | hends
    · exact Or.inl ⟨hw, rfl⟩
    · exact Or.inr (hends.endsWith hstarted)
  · exact Or.inr (Ends.endsWith hhandle hstarted)
  · rcases hhandle with ⟨hlive, r, htold⟩
    refine Or.inl ⟨hlive, ?_⟩
    rw [htold.alarms, Entry.errors_of_isNeutral (Listeners.isNeutral_told listeners r)]
    exact List.append_nil _

theorem deliverAll_late (hreact : forall m v, Aside v (react m v).1) {o : Outcome}
    (caller : Caller) (ds : List Delivery) (hw : w.call.visible = some o) :
    exists late, Echoes listeners ds late ∧
      Raises w (w.deliverAll caller react listeners ds) late := by
  induction ds generalizing w with
  | nil =>
      exact ⟨[], .nil, Raises.refl w⟩
  | cons d ds ih =>
      rcases handle_late hreact caller listeners d.connection d.request d.event hw with
        ⟨first, hfirst, hraises⟩
      rcases ih (hraises.visible.trans hw) with ⟨more, hmore, hrest⟩
      exact ⟨first ++ more, .cons hfirst hmore, hraises.trans hrest⟩

/-- What the exception listener is told if a live call ends on one of a series of events,
after some and before others. -/
structure ToldInSeries (caller : Caller) (react : Reaction) (listeners : Listeners) (w : World)
    (before : List Delivery) (last : Delivery) (after : List Delivery) (o : Outcome)
    (early late : List TransportError) : Prop where
  live : Live (w.deliverAll caller react listeners before)
  visible :
    (w.deliverAll caller react listeners (before ++ last :: after)).call.visible = some o
  foretold : Foretold listeners o early
  once : early.length <= 1
  echoes : Echoes listeners after late
  silent : (forall d, d ∈ after -> d.event = .closed) -> late = []
  alarms : (w.deliverAll caller react listeners (before ++ last :: after)).alarms =
    w.alarms ++ early.map (Alarm.mk (some .pending)) ++
      late.map (Alarm.mk (some
        (w.deliverAll caller react listeners (before ++ last :: after)).call.phase))

theorem EndsWith.toldInSeries {d : Delivery} {ds : List Delivery} {o : Outcome}
    {early late : List TransportError}
    (h : EndsWith listeners w
      (w.handle caller react listeners d.connection d.request d.event).1 o early)
    (hw : Live w) (hechoes : Echoes listeners ds late)
    (hraises : Raises (w.handle caller react listeners d.connection d.request d.event).1
      (w.deliverAll caller react listeners (d :: ds)) late) :
    ToldInSeries caller react listeners w [] d ds o early late where
  live := hw
  visible := hraises.visible.trans h.visible
  foretold := h.foretold
  once := h.foretold.length_le
  echoes := hechoes
  silent := hechoes.eq_nil
  alarms := by
    have hstarted := hraises.started.trans h.started
    have hview := hraises.view
    rw [World.view, hstarted] at hview
    rw [List.nil_append, hraises.alarms, h.alarms, ← hview]
    rfl

/-- Whatever the events are and in whatever order they come: until the end of the call
shows, the exception listener is told of the error that the call fails for, if it fails for
one, and of no other.  After that it is told of each error that still arrives, and of each
listener that still breaks down. -/
theorem told_once_before_end (hconduct : Conduct caller False react) (listeners : Listeners)
    (hw : Live w) (ds : List Delivery) :
    Live (w.deliverAll caller react listeners ds) ∧
        (w.deliverAll caller react listeners ds).alarms = w.alarms ∨
      exists before last after o early late, ds = before ++ last :: after ∧
        ToldInSeries caller react listeners w before last after o early late := by
  induction ds generalizing w with
  | nil =>
      exact Or.inl ⟨hw, rfl⟩
  | cons d ds ih =>
      have hhandle := handle_early hconduct.aside caller listeners d.connection d.request
        d.event hw
      rcases hhandle with ⟨hlive, hsame⟩ | ⟨o, early, hends⟩
      · rcases ih hlive with
          ⟨hstill, hnothing⟩ | ⟨before, last, after, o, early, late, rfl, htold⟩
        · exact Or.inl ⟨hstill, hnothing.trans hsame⟩
        · have halarms := htold.alarms
          rw [hsame] at halarms
          exact Or.inr ⟨d :: before, last, after, o, early, late, rfl,
            { htold with alarms := halarms }⟩
      · rcases deliverAll_late hconduct.aside caller ds hends.visible with
          ⟨late, hechoes, hraises⟩
        exact Or.inr ⟨[], d, ds, o, early, late, rfl, hends.toldInSeries hw hechoes hraises⟩

end Handling

/-!
### Errors that come late

One call is redirected, ends when a listener breaks down, and an error and a hang-up follow.
The other has only errors and a hang-up.
-/

def series (events : List Event) : List Delivery :=
  events.map fun event =>
    ⟨⟨1, (Session.plainRequest none).target⟩, Session.plainRequest none, event⟩

def startedWorld : World :=
  (Session.firstConnected (Session.plainRequest none) 1 (Session.plainHop 5)).1

def answeredTwice : List Delivery :=
  series [Reply.plainOk.toEvent (Session.plainRequest none),
    Reply.plainOk.toEvent (Session.plainRequest none), .error (.io "reset"), .closed]

theorem told_once_before_end_of_four :
    exists before last after o early late, answeredTwice = before ++ last :: after ∧
      ToldInSeries Session.clumsyCaller Session.clumsyCaller.reaction .all startedWorld before
        last after o early late := by
  have hwithin : Session.clumsyCaller.Within False := by decide
  have hlive : Live startedWorld := ⟨rfl, rfl, rfl⟩
  have htold := told_once_before_end (Caller.reaction_conduct hwithin) .all hlive answeredTwice
  refine htold.resolve_left ?_
  rintro ⟨hlive, _⟩
  have hended : (startedWorld.deliverAll Session.clumsyCaller Session.clumsyCaller.reaction
      .all answeredTwice).call.visible.isSome = true := by
    decide +kernel
  rw [hlive.visible] at hended
  cases hended

/-- An error that comes after a hang-up is told of when the call has failed, and so is a
second error after a first. -/
theorem told_after_end :
    (startedWorld.deliverAll Session.clumsyCaller Session.clumsyCaller.reaction .all
        (series [.closed, .error (.io "reset")])).alarms =
        [⟨some .failed, .io "reset"⟩] ∧
      (startedWorld.deliverAll Session.clumsyCaller Session.clumsyCaller.reaction .all
        (series [.error (.io "reset"), .error (.io "reset")])).alarms =
        [⟨some .pending, .io "reset"⟩, ⟨some .failed, .io "reset"⟩] := by
  constructor
  · decide +kernel
  · decide +kernel

end World
end HttpCall
