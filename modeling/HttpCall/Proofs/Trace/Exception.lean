import HttpCall.Proofs.Trace.Order

/-!
# Errors are told of once

A call fails for the reason of a transport error on a few ways, and on each of them the
exception listener is told of the error first.  So it is told of one error if the call
fails for such a reason, of none if it ends otherwise, and never of an error after the
outcome was recorded.
-/

namespace HttpCall

def Entry.isNeutral : Entry -> Bool
  | exception _ | settled _ => false
  | _ => true

theorem Entry.errors_of_isNeutral {t : List Entry} (h : t.all isNeutral = true) :
    t.filterMap exception? = [] := by
  apply List.filterMap_eq_nil_iff.mpr
  intro e he
  have hneutral := List.all_eq_true.mp h e he
  cases e with
  | exception _ => cases hneutral
  | _ => rfl

section

variable {listeners : Listeners} {o : Outcome} {n : Nat} {t words refused calls : List Entry}
  {e : TransportError}

theorem Listeners.isNeutral_told (listeners : Listeners) (r : Response) :
    (listeners.told r).all Entry.isNeutral = true := by
  have hcookies : forall cookies : List Cookie,
      (cookies.map Entry.cookie).all Entry.isNeutral = true := by
    intro cookies
    rw [List.all_map]
    exact List.all_eq_true.mpr fun _ _ => rfl
  unfold told
  cases listeners.headers <;> cases listeners.cookie <;> cases listeners.response <;>
    simp only [List.all_append, List.all_cons, hcookies, if_true, if_false, List.all_nil,
      Entry.isNeutral, Bool.and_self, Bool.false_eq_true]

theorem Passed.isNeutral (h : Passed listeners n t) : t.all Entry.isNeutral = true := by
  induction h with
  | start =>
      rfl
  | hop c q r _ _ ih =>
      simp [ih, Listeners.isNeutral_told, Entry.isNeutral]

theorem Unfinished.isNeutral (h : Unfinished listeners t) :
    t.all Entry.isNeutral = true := by
  cases h with
  | unsent c hpassed =>
      simp [hpassed.isNeutral, Entry.isNeutral]
  | unanswered c q hpassed _ =>
      simp [hpassed.isNeutral, Entry.isNeutral]
  | betweenHops hpassed =>
      exact hpassed.isNeutral

theorem Unavailable.isNeutral (h : Unavailable refused e) :
    refused.all Entry.isNeutral = true := by
  cases h <;> rfl

theorem Entry.isNeutral_of_isCall (h : forall x, x ∈ calls -> x.IsCall o) :
    calls.all isNeutral = true := by
  apply List.all_eq_true.mpr
  intro x hx
  rcases h x hx with ⟨k, rfl⟩
  rfl

/-- What listeners are told of the error that an outcome stems from, if it stems from
one. -/
inductive Stems (listeners : Listeners) : Outcome -> List Entry -> Prop where
  | error (e : TransportError) :
      Stems listeners (.error (.transport e.message)) (listeners.raised e)
  | none {o : Outcome} : (forall reason, o ≠ .error (.transport reason)) ->
      Stems listeners o []

theorem Stems.errors (h : Stems listeners o words) :
    (exists e, o = .error (.transport e.message) ∧
        words.filterMap Entry.exception? = if listeners.exception then [e] else []) ∨
      (forall reason, o ≠ .error (.transport reason)) ∧
        words.filterMap Entry.exception? = [] := by
  cases h with
  | error e =>
      refine Or.inl ⟨e, rfl, ?_⟩
      unfold Listeners.raised
      cases listeners.exception <;> rfl
  | none hother =>
      exact Or.inr ⟨hother, rfl⟩

theorem Stems.settled_not_mem (h : Stems listeners o words) (held : Option Connection) :
    .settled held ∉ words := by
  cases h with
  | error e =>
      unfold Listeners.raised
      cases listeners.exception <;> simp
  | none _ =>
      exact List.not_mem_nil

theorem LastWords.stems (h : LastWords listeners words o) :
    exists before raised, words = before ++ raised ∧ before.all Entry.isNeutral = true ∧
      Stems listeners o raised := by
  cases h with
  | answered r =>
      exact ⟨_, [], (List.append_nil _).symm, Listeners.isNeutral_told listeners r,
        .none fun _ h => nomatch h⟩
  | closed =>
      exact ⟨[], [], rfl, rfl, .none fun _ h => nomatch h⟩
  | failed e =>
      exact ⟨[], _, rfl, rfl, .error e⟩
  | brokeDown r words fault hbegins _ =>
      have hneutral : words.all Entry.isNeutral = true := by
        apply List.all_eq_true.mpr
        intro x hx
        exact List.all_eq_true.mp (Listeners.isNeutral_told listeners r) x
          (hbegins.subset hx)
      exact ⟨words, _, rfl, hneutral, .error (World.listenerError fault)⟩

theorem Complete.recorded (h : Complete listeners o t) :
    exists before raised held after, t = before ++ raised ++ .settled held :: after ∧
      before.all Entry.isNeutral = true ∧ after.all Entry.isNeutral = true ∧
      Stems listeners o raised := by
  cases h with
  | @onHop n earlier words calls c q hpassed _ hwords hcalls =>
      rcases hwords.stems with ⟨before, raised, rfl, hbefore, hstems⟩
      refine ⟨earlier ++ .acquired c :: .sent q :: before, raised, some c,
        .released c :: .published :: calls, ?_, ?_, ?_, hstems⟩
      · simp
      · simp [hpassed.isNeutral, hbefore, Entry.isNeutral]
      · simpa [Entry.isNeutral] using Entry.isNeutral_of_isCall hcalls
  | @betweenHops n earlier refused calls e hpassed hrefused ho hcalls =>
      have hcalled := Entry.isNeutral_of_isCall hcalls
      cases ho
      refine ⟨earlier ++ refused, listeners.raised e, none, .published :: calls, ?_, ?_, ?_,
        .error e⟩
      · simp
      · simp [hpassed.isNeutral, hrefused.isNeutral]
      · simpa [Entry.isNeutral] using hcalled

end

/-!
## What the exception listener is told
-/

namespace World

def errors (w : World) : List TransportError := w.trace.filterMap Entry.exception?

/-- Whenever the exception listener was told of an error, the call was pending, and no
outcome was recorded before. -/
def ToldInTime (w : World) : Prop :=
  forall newer s older e, w.journal = newer ++ s :: older -> s.entry = .exception e ->
    s.view.map Snapshot.phase = some .pending ∧
      forall x, x ∈ older -> forall held, x.entry ≠ .settled held

/-- What the exception listener is told agrees with how the call ends. -/
structure ErrorsTold (listeners : Listeners) (w : World) : Prop where
  failed : forall reason, w.call.visible = some (.error (.transport reason)) ->
    listeners.exception = true -> exists e, w.errors = [e] ∧ e.message = reason
  otherwise : (forall reason, w.call.visible ≠ some (.error (.transport reason))) ->
    w.errors = []
  detached : listeners.exception = false -> w.errors = []
  inTime : w.ToldInTime

theorem trace_split {w : World} {newer older : List Stamped} {s : Stamped}
    (h : w.journal = newer ++ s :: older) (hpoll : s.entry.isPoll = false) :
    w.trace = ((older.map Stamped.entry).filter fun e => !e.isPoll).reverse ++
      s.entry :: ((newer.map Stamped.entry).filter fun e => !e.isPoll).reverse := by
  simp [trace, entries, h, hpoll]

/-- Nobody is told of an error once an outcome is recorded. -/
theorem settled_not_mem {listeners : Listeners} {o : Outcome} {t before after : List Entry}
    {e : TransportError} (h : Complete listeners o t)
    (ht : t = before ++ .exception e :: after) (held : Option Connection) :
    .settled held ∉ before := by
  rcases h.recorded with ⟨first, raised, own, rest, rfl, hfirst, hrest, hstems⟩
  intro hmem
  rcases List.append_eq_append_iff.mp ht with ⟨more, _, hmore⟩ | ⟨more, hmore, _⟩
  · -- the error would come after the record
    have herror : .exception e ∈ Entry.settled own :: rest := by
      rw [hmore]
      exact List.mem_append_right more List.mem_cons_self
    rcases List.mem_cons.mp herror with herror | herror
    · cases herror
    · cases List.all_eq_true.mp hrest _ herror
  · have hrecord : .settled held ∈ first ++ raised := by
      rw [hmore]
      exact List.mem_append_left more hmem
    rcases List.mem_append.mp hrecord with hrecord | hrecord
    · cases List.all_eq_true.mp hfirst _ hrecord
    · exact hstems.settled_not_mem held hrecord

theorem Ordered.cases {listeners : Listeners} {w : World} {stage : Stage}
    (h : Ordered listeners w stage) :
    w.call.visible = none ∧ w.trace.all Entry.isNeutral = true ∨
      exists o, w.call.visible = some o ∧ Complete listeners o w.trace := by
  cases stage with
  | exchanging c hop q =>
      rcases h with ⟨hvisible, _, earlier, hpassed, htrace | htrace⟩
      · rw [htrace]
        exact Or.inl ⟨hvisible, (Unfinished.unsent c hpassed).isNeutral⟩
      · rw [htrace]
        exact Or.inl ⟨hvisible, by simp [hpassed.isNeutral, Entry.isNeutral]⟩
  | acquiring hop q =>
      exact Or.inl ⟨h.left, h.right.isNeutral⟩
  | «over» =>
      exact Or.inr h
  | lost fault =>
      exact h.imp_left fun h => ⟨h.left, h.right.isNeutral⟩

theorem toldInTime_of_trace {w : World} (htimely : forall s, s ∈ w.journal -> s.Timely)
    (hbefore : forall before after e, w.trace = before ++ .exception e :: after ->
      forall held, .settled held ∉ before) : w.ToldInTime := by
  intro newer s older e hjournal hs
  constructor
  · apply htimely s
    · rw [hjournal]
      exact List.mem_append_right newer List.mem_cons_self
    · rw [hs]
      exact Option.some_ne_none e
  · intro x hx held hheld
    have htrace := trace_split hjournal (by rw [hs]; rfl)
    rw [hs] at htrace
    apply hbefore _ _ e htrace held
    rw [List.mem_reverse, List.mem_filter, List.mem_map]
    exact ⟨⟨x, hx, hheld⟩, rfl⟩

theorem errorsTold_of_isNeutral {listeners : Listeners} {w : World}
    (hvisible : w.call.visible = none) (hneutral : w.trace.all Entry.isNeutral = true)
    (htimely : forall s, s ∈ w.journal -> s.Timely) : ErrorsTold listeners w where
  failed reason hreason := by
    rw [hvisible] at hreason
    cases hreason
  otherwise _ := Entry.errors_of_isNeutral hneutral
  detached _ := Entry.errors_of_isNeutral hneutral
  inTime := by
    apply toldInTime_of_trace htimely
    intro before after e htrace
    rw [htrace, List.all_append, List.all_cons, Bool.and_eq_true, Bool.and_eq_true]
      at hneutral
    cases hneutral.right.left

theorem errorsTold_of_complete {listeners : Listeners} {w : World} {o : Outcome}
    (hvisible : w.call.visible = some o) (hcomplete : Complete listeners o w.trace)
    (htimely : forall s, s ∈ w.journal -> s.Timely) : ErrorsTold listeners w := by
  rcases hcomplete.recorded with ⟨first, raised, own, rest, htrace, hfirst, hrest, hstems⟩
  have herrors : w.errors = raised.filterMap Entry.exception? := by
    unfold errors
    rw [htrace, List.filterMap_append, List.filterMap_append, List.filterMap_cons_none rfl,
      Entry.errors_of_isNeutral hfirst, Entry.errors_of_isNeutral hrest, List.append_nil]
    rfl
  have hinTime : w.ToldInTime :=
    toldInTime_of_trace htimely (fun _ _ _ => settled_not_mem hcomplete)
  rcases hstems.errors with ⟨e, rfl, hraised⟩ | ⟨hother, hraised⟩
  · rw [← herrors] at hraised
    refine ⟨?_, ?_, ?_, hinTime⟩
    · intro reason hreason hattached
      cases hvisible.symm.trans hreason
      rw [if_pos hattached] at hraised
      exact ⟨e, hraised, rfl⟩
    · intro hother
      exact absurd hvisible (hother e.message)
    · intro hdetached
      rw [hdetached] at hraised
      exact hraised
  · rw [← herrors] at hraised
    refine ⟨?_, fun _ => hraised, fun _ => hraised, hinTime⟩
    intro reason hreason
    exact absurd (Option.some.inj (hvisible.symm.trans hreason)) (hother reason)

theorem Ordered.errorsTold {listeners : Listeners} {w : World} {stage : Stage}
    (h : Ordered listeners w stage) (htimely : forall s, s ∈ w.journal -> s.Timely) :
    ErrorsTold listeners w := by
  rcases h.cases with ⟨hvisible, hneutral⟩ | ⟨o, hvisible, hcomplete⟩
  · exact errorsTold_of_isNeutral hvisible hneutral htimely
  · exact errorsTold_of_complete hvisible hcomplete htimely

end World

namespace Session

variable {caller : Caller} {react : Reaction}

/-- Whatever the pool and the connections answer, whenever the time is up and whichever
listeners break down: the exception listener is told of one error if the call fails for
the reason of that error, and of none otherwise, and it is told before the failure is
recorded. -/
theorem exception_matches_failure (hconduct : World.Conduct caller False react)
    {hops : List Hop}
    (hhops : forall h, h ∈ hops -> KeepsOut h.acquireActions ∧ KeepsOut h.actions)
    {clockStart nextConnection : Nat} {plot : Plot} {request : Request} {w : World}
    {course : List (World × Stage)}
    (hlaunch : launch caller react clockStart nextConnection plot request hops =
      .underway w course) :
    forall p, p ∈ course -> World.ErrorsTold plot.listeners p.1 := by
  intro p hp
  rcases ordered_course hconduct hhops hlaunch p hp with ⟨hordered, htimely⟩
  exact hordered.errorsTold htimely

def clumsyCaller : Caller where
  policy := .always (plainUrl "b.test") (some 1)
  triggers := [⟨.headers, 2, [.breakDown (.text "listener bug")]⟩,
    ⟨.exception, 1, [.hook, .breakDown .other]⟩]
  transform _ := .ok .null

theorem exception_matches_failure_when_listeners_break_down :
    exists w course p e,
      launch clumsyCaller clumsyCaller.reaction 0 1 plainPlot (plainRequest none)
        [plainHop 5, plainHop 7] = .underway w course ∧ course.getLast? = some p ∧
      p.1.errors = [e] ∧ e.message = "listener panicked: listener bug" := by
  have hwithin : clumsyCaller.Within False := by decide
  have hkeeps : forall h, h ∈ [plainHop 5, plainHop 7] ->
      KeepsOut h.acquireActions ∧ KeepsOut h.actions := by decide
  have hlaunch : launch clumsyCaller clumsyCaller.reaction 0 1 plainPlot (plainRequest none)
      [plainHop 5, plainHop 7] = .underway _ _ :=
    launch_of_connection rfl
  have hfails : forall w course,
      launch clumsyCaller clumsyCaller.reaction 0 1 plainPlot (plainRequest none)
        [plainHop 5, plainHop 7] = .underway w course ->
      (course.getLast?.bind fun p => p.1.call.failure?) =
        some (.transport "listener panicked: listener bug") := by
    intro w course h
    cases hlaunch.symm.trans h
    decide +kernel
  rcases Option.bind_eq_some_iff.mp (hfails _ _ hlaunch) with ⟨p, hlast, hfailure⟩
  have htold := exception_matches_failure (Caller.reaction_conduct hwithin) hkeeps hlaunch p
    (List.mem_of_getLast? hlast)
  rcases htold.failed _ (Call.failure?_eq_some.mp hfailure) rfl with ⟨e, herrors, hmessage⟩
  exact ⟨_, _, p, e, hlaunch, hlast, herrors, hmessage⟩

end Session
end HttpCall
