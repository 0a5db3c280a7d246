import HttpCall.Proofs.Redirect.Position

/-!
# Segments of a trace

The trace of a call is its journal in order, without the questions for the result.  What
is done to a world adds a segment to it, and segments add up.  User code that handles no
events adds nothing to the trace but the calls of hooks, and these only once the outcome
can be seen.
-/

namespace HttpCall

namespace Entry

def isPoll : Entry -> Bool
  | polled _ => true
  | _ => false

def exception? : Entry -> Option TransportError
  | exception e => some e
  | _ => none

def IsCall (o : Outcome) (e : Entry) : Prop := exists n, e = .completed n o

end Entry

def Stamped.Timely (s : Stamped) : Prop :=
  s.entry.exception? ≠ none -> s.view.map Snapshot.phase = some .pending

namespace World

/-- All that happened to a call but the questions for the result, in order. -/
def trace (w : World) : List Entry := (w.entries.filter fun e => !e.isPoll).reverse

def Adds (v w : World) (segment : List Entry) : Prop :=
  exists news, w.journal = news ++ v.journal ∧ (forall s, s ∈ news -> s.Timely) ∧
    segment = ((news.map Stamped.entry).filter fun e => !e.isPoll).reverse

namespace Adds

variable {u v w : World} {first second : List Entry}

theorem of_same (h : w.journal = v.journal) : Adds v w [] :=
  ⟨[], h, fun _ hs => absurd hs List.not_mem_nil, rfl⟩

theorem refl (w : World) : Adds w w [] := .of_same rfl

theorem trans (huv : Adds u v first) (hvw : Adds v w second) : Adds u w (first ++ second) := by
  rcases huv with ⟨news, hnews, htimely, rfl⟩
  rcases hvw with ⟨more, hmore, htimely', rfl⟩
  refine ⟨more ++ news, ?_, ?_, ?_⟩
  · rw [hmore, hnews, List.append_assoc]
  · intro s hs
    exact (List.mem_append.mp hs).elim (htimely' s) (htimely s)
  · rw [List.map_append, List.filter_append, List.reverse_append]

theorem keep (huv : Adds u v first) (hvw : Adds v w []) : Adds u w first := by
  have hboth := huv.trans hvw
  rwa [List.append_nil] at hboth

theorem note {e : Entry} (hpoll : e.isPoll = false)
    (htimely : Stamped.Timely ⟨w.now, w.view, e⟩) : Adds w (w.note e) [e] := by
  refine ⟨[⟨w.now, w.view, e⟩], rfl, ?_, ?_⟩
  · intro s hs
    cases List.mem_singleton.mp hs
    exact htimely
  · simp [hpoll]

theorem mark {e : Entry} (hpoll : e.isPoll = false) (hexception : e.exception? = none) :
    Adds w (w.note e) [e] :=
  note hpoll fun h => absurd hexception h

theorem poll (r : Option (Except Error Response)) (w : World) :
    Adds w (w.note (.polled r)) [] := by
  refine ⟨[⟨w.now, w.view, .polled r⟩], rfl, ?_, rfl⟩
  intro s hs
  cases List.mem_singleton.mp hs
  exact fun h => absurd rfl h

theorem trace_eq (h : Adds u w first) (hu : u.journal = []) :
    w.trace = first ∧ forall s, s ∈ w.journal -> s.Timely := by
  rcases h with ⟨news, hnews, htimely, rfl⟩
  rw [hu, List.append_nil] at hnews
  rw [trace, entries, hnews]
  exact ⟨rfl, htimely⟩

end Adds

/-!
## User code that handles no events
-/

/-- Nothing happens to a call but that hooks are called with the outcome that shows. -/
structure Aside (v w : World) : Prop where
  started : w.started = v.started
  position : w.position = v.position
  hooks : exists calls, Adds v w calls ∧
    forall e, e ∈ calls -> exists o, v.call.visible = some o ∧ e.IsCall o

theorem visible_of_position {v w : World} (h : w.position = v.position) :
    w.call.visible = v.call.visible := by
  have houtcome : w.call.outcome = v.call.outcome := congrArg Position.outcome h
  have hpublished : w.call.published = v.call.published := congrArg Position.published h
  unfold Call.visible
  rw [houtcome, hpublished]

namespace Aside

variable {u v w : World}

theorem of_same (hstarted : w.started = v.started) (hposition : w.position = v.position)
    (hjournal : w.journal = v.journal) : Aside v w where
  started := hstarted
  position := hposition
  hooks := ⟨[], .of_same hjournal, fun _ he => absurd he List.not_mem_nil⟩

theorem trans (huv : Aside u v) (hvw : Aside v w) : Aside u w where
  started := hvw.started.trans huv.started
  position := hvw.position.trans huv.position
  hooks := by
    rcases huv.hooks with ⟨calls, hcalls, hheard⟩
    rcases hvw.hooks with ⟨more, hmore, hheard'⟩
    refine ⟨calls ++ more, hcalls.trans hmore, ?_⟩
    intro e he
    rcases List.mem_append.mp he with he | he
    · exact hheard e he
    · rw [← visible_of_position huv.position]
      exact hheard' e he

theorem hidden (h : Aside v w) (hvisible : v.call.visible = none) : Adds v w [] := by
  rcases h.hooks with ⟨calls, hcalls, hheard⟩
  cases calls with
  | nil =>
      exact hcalls
  | cons e rest =>
      rcases hheard e List.mem_cons_self with ⟨o, ho, _⟩
      rw [hvisible] at ho
      cases ho

theorem shown (h : Aside v w) {o : Outcome} (hvisible : v.call.visible = some o) :
    exists calls, Adds v w calls ∧ forall e, e ∈ calls -> e.IsCall o := by
  rcases h.hooks with ⟨calls, hcalls, hheard⟩
  refine ⟨calls, hcalls, ?_⟩
  intro e he
  rcases hheard e he with ⟨first, hfirst, hcall⟩
  cases hvisible.symm.trans hfirst
  exact hcall

end Aside

section Deeds

variable {caller : Caller} {react : Reaction} {v w : World}

theorem aside_runHook (hreact : forall m v, Aside v (react m v).1) {o : Outcome}
    (hvisible : w.call.visible = some o) (hook : Hook) :
    Aside w (w.runHook caller react o hook) := by
  cases hook with
  | numbered n =>
      have hcalled : Aside w (w.note (.completed n o)) := by
        refine ⟨rfl, position_note w rfl, [.completed n o], Adds.mark rfl rfl, ?_⟩
        intro e he
        cases List.mem_singleton.mp he
        exact ⟨o, hvisible, n, rfl⟩
      exact hcalled.trans (hreact .complete _)
  | transform =>
      exact .of_same rfl rfl rfl

theorem aside_register (hreact : forall m v, Aside v (react m v).1) (hook : Hook) (w : World) :
    Aside w (w.register caller react hook) := by
  unfold register
  split
  · rename_i o hvisible
    exact aside_runHook hreact hvisible hook
  · exact .of_same rfl rfl rfl

theorem aside_of_deed (h : Deed caller False v w) : Aside v w := by
  induction h with
  | idle w =>
      exact .of_same rfl rfl rfl
  | andThen _ _ huv hvw =>
      exact huv.trans hvw
  | poll w =>
      exact ⟨rfl, position_note w rfl, [], Adds.poll _ w,
        fun _ he => absurd he List.not_mem_nil⟩
  | hook react w _ ih =>
      have hnumbered : Aside w { w with nextHook := w.nextHook + 1 } := .of_same rfl rfl rfl
      exact hnumbered.trans (aside_register ih (.numbered w.nextHook) _)
  | bring target w hmeddling =>
      exact hmeddling.elim
  | handle policy react listeners c request event w hmeddling =>
      exact hmeddling.elim
  | injected step w hmeddling =>
      exact hmeddling.elim

theorem Conduct.aside (h : Conduct caller False react) (m : Moment) (v : World) :
    Aside v (react m v).1 :=
  aside_of_deed (h m v)

end Deeds

/-!
## Single steps of the call
-/

structure Live (w : World) : Prop where
  started : w.started = true
  isOpen : w.Open

section Steps

variable {caller : Caller} {react : Reaction} {v w : World}

theorem Live.visible (h : Live w) : w.call.visible = none := h.isOpen.visible

theorem Live.of_aside (h : Live v) (haside : Aside v w) : Live w :=
  ⟨haside.started.trans h.started, h.isOpen.of_position haside.position⟩

theorem Live.timely (h : Live w) (e : Entry) : Stamped.Timely ⟨w.now, w.view, e⟩ := by
  intro _
  have hphase : w.call.phase = .pending := by
    simp [Call.phase, h.visible]
  simp [view, h.started, Call.snapshot, hphase]

theorem Live.note (h : Live w) (e : Entry) : Live (w.note e) :=
  ⟨h.started, h.isOpen.outcome, h.isOpen.published⟩

theorem Live.fire (h : Live w) (hreact : forall m v, Aside v (react m v).1) (m : Moment)
    {e : Entry} (hpoll : e.isPoll = false) :
    Live (w.fire react m e).1 ∧ Adds w (w.fire react m e).1 [e] := by
  have hnoted := h.note e
  have haside := hreact m (w.note e)
  exact ⟨hnoted.of_aside haside,
    (Adds.note hpoll (h.timely e)).keep (haside.hidden hnoted.visible)⟩

theorem Live.fireIf (h : Live w) (hreact : forall m v, Aside v (react m v).1) (attached : Bool)
    (m : Moment) {e : Entry} (hpoll : e.isPoll = false) :
    Live (w.fireIf attached react m e).1 ∧
      Adds w (w.fireIf attached react m e).1 (if attached then [e] else []) := by
  cases attached with
  | false =>
      exact ⟨h, Adds.refl w⟩
  | true =>
      exact h.fire hreact m hpoll

theorem Live.settle (h : Live w) (held : Option Connection) (o : Outcome) :
    (w.settle held o).2 = true ∧ Adds w (w.settle held o).1 [.settled held] ∧
      (w.settle held o).1.call.outcome = some o ∧
      (w.settle held o).1.call.published = false := by
  rcases settle_of_open h.isOpen held o with ⟨hposition, hfirst⟩
  refine ⟨hfirst, ?_, congrArg Position.outcome hposition,
    (congrArg Position.published hposition).trans h.isOpen.published⟩
  unfold World.settle Call.settle?
  rw [h.isOpen.outcome]
  exact (Adds.of_same rfl).trans (Adds.mark rfl rfl)

theorem adds_release (hreact : forall m v, Aside v (react m v).1) (c : Connection)
    (hpublished : w.call.published = false) :
    Adds w (w.release react c).1 [.released c] ∧
      (w.release react c).1.position = w.position := by
  have haside := hreact .release (w.note (.released c))
  have hhidden : (w.note (.released c)).call.visible = none :=
    Call.visible_eq_none_of_not_published hpublished
  exact ⟨(Adds.mark rfl rfl).keep (haside.hidden hhidden),
    haside.position.trans (position_note w rfl)⟩

theorem adds_publish (caller : Caller) (hreact : forall m v, Aside v (react m v).1)
    {o : Outcome}
    (houtcome : w.call.outcome = some o) (hpublished : w.call.published = false) :
    (w.publish caller react).call.visible = some o ∧
      exists calls, Adds w (w.publish caller react) (.published :: calls) ∧
        forall e, e ∈ calls -> e.IsCall o := by
  have hposition : (w.publish caller react).position =
      { w.position with published := true } :=
    position_publish (fun m v => (hreact m v).position) houtcome hpublished
  have hvisible : (w.publish caller react).call.visible = some o :=
    Call.visible_eq_some.mpr ⟨congrArg Position.published hposition,
      (congrArg Position.outcome hposition).trans houtcome⟩
  refine ⟨hvisible, ?_⟩
  have haside : forall (hooks : List Hook) (v : World), v.call.visible = some o ->
      Aside v (hooks.foldl (runHook caller react o) v) := by
    intro hooks
    induction hooks with
    | nil =>
        exact fun v _ => .of_same rfl rfl rfl
    | cons hook rest ih =>
        intro v hv
        have hfirst : Aside v (v.runHook caller react o hook) := aside_runHook hreact hv hook
        exact hfirst.trans (ih _ ((visible_of_position hfirst.position).trans hv))
  unfold publish
  split
  · rename_i first hooks call hpublish
    cases (Call.of_publish? hpublish).left.symm.trans houtcome
    have hmarked : Adds w ({ w with call := call }.note .published) [.published] :=
      (Adds.of_same (w := { w with call := call }) rfl).trans (Adds.mark rfl rfl)
    have hshown : ({ w with call := call }.note .published).call.visible = some o :=
      Call.visible_of_publish? hpublish
    rcases (haside hooks _ hshown).shown hshown with ⟨calls, hcalls, hheard⟩
    exact ⟨calls, hmarked.trans hcalls, hheard⟩
  · rename_i hnothing
    simp only [Call.publish?, houtcome, hpublished] at hnothing
    cases hnothing

end Steps
end World
end HttpCall
