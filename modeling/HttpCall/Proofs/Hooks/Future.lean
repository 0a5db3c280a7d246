import HttpCall.Proofs.Hooks.CalledOnce

/-!
# Futures

A future gives the caller's own result.  It reads from a channel that a single hook feeds:
called with a response, the hook calls the transform, and sends what it returns or that it
broke down; called with a failure, it sends the failure.  The hook may have been registered
before the outcome was recorded, between record and publication, or after both, and while
it is called anything may happen to the call.
-/

namespace HttpCall

/-- User code that computes a result from the response.  What it returns, or how it breaks
down, may depend on all that happened until then. -/
abbrev Transform (α : Type) := List Turn -> Response -> Except Fault α

def ownResult {α : Type} (transform : Response -> Except Fault α) :
    Outcome -> Except Failure α
  | .ok r =>
      match transform r with
      | .ok value => .ok value
      | .error fault =>
          .error (.transport ("response transform panicked: " ++ fault.message))
  | .error f => .error f

def Turn.InTransform (round : Nat) (o : Outcome) (turns : List Turn) : Prop :=
  exists earlier since, turns = earlier ++ .start round .transform o :: since ∧
    forall fault?, .finish round fault? ∉ since

/-- What became of the hook of a future. -/
structure Feed (α : Type) where
  calls : List Response
  running : Option (Nat × Outcome)
  sent : List (Except Failure α)

namespace Feed

variable {α : Type}

def take (transform : Response -> Except Fault α) (f : Feed α) : Turn -> Feed α
  | .start n .transform o =>
      { f with calls := f.calls ++ o.toOption.toList, running := some (n, o) }
  | .finish n _ =>
      match f.running with
      | some (m, o) =>
          if m = n then { f with running := none, sent := f.sent ++ [ownResult transform o] }
          else f
      | none => f
  | _ => f

def along (transform : Transform α) (before : List Turn) (f : Feed α) : List Turn -> Feed α
  | [] => f
  | turn :: rest => along transform (before ++ [turn]) (f.take (transform before) turn) rest

def after (transform : Transform α) (turns : List Turn) : Feed α :=
  along transform [] ⟨[], none, []⟩ turns

theorem along_append (transform : Transform α) (before turns more : List Turn) (f : Feed α) :
    along transform before f (turns ++ more) =
      along transform (before ++ turns) (along transform before f turns) more := by
  induction turns generalizing before f with
  | nil =>
      rw [List.append_nil]
      rfl
  | cons turn rest ih =>
      rw [List.append_cons before turn rest]
      exact ih (before ++ [turn]) (f.take (transform before) turn)

theorem after_append (transform : Transform α) (turns more : List Turn) :
    after transform (turns ++ more) = along transform turns (after transform turns) more :=
  along_append transform [] turns more ⟨[], none, []⟩

theorem sent_take (transform : Response -> Except Fault α) (f : Feed α) (turn : Turn) :
    f.sent <+: (f.take transform turn).sent := by
  unfold take
  split
  · exact List.prefix_refl _
  · split
    · split
      · exact List.prefix_append _ _
      · exact List.prefix_refl _
    · exact List.prefix_refl _
  · exact List.prefix_refl _

theorem sent_along (transform : Transform α) (before : List Turn) (f : Feed α)
    (turns : List Turn) : f.sent <+: (along transform before f turns).sent := by
  induction turns generalizing before f with
  | nil =>
      exact List.prefix_refl _
  | cons turn rest ih =>
      exact (sent_take (transform before) f turn).trans (ih _ _)

end Feed

inductive Received (α : Type) where
  | nothing
  | value (v : Except Failure α)
  /-- Nothing was sent, and nobody is left who could send. -/
  | cut

/-- What a future shows that is polled. -/
def Received.poll {α : Type} : Received α -> Option (Except Failure α)
  | nothing => none
  | value v => some v
  | cut => some (.error (.transport "completion hook dropped before the call finished"))

/-- The hook that sends waits in a round, or in the record of the call, unless the record
was dropped. -/
def Feed.received {α : Type} (f : Feed α) (s : Roster) (dropped : Bool) : Received α :=
  match f.sent with
  | v :: _ => .value v
  | [] =>
      if f.running.isSome || (s.rounds.flatMap Round.rest).contains .transform ||
          !dropped && s.call.hooks.contains .transform then .nothing
      else .cut

/-!
## Which hooks were started
-/

namespace Turn

variable {turns : List Turn} {turn : Turn} {n : Nat} {o : Outcome} {hook : Hook}

theorem started_snoc (turns : List Turn) (turn : Turn) :
    started (turns ++ [turn]) = started turns ++ (turn.run?.map Prod.fst).toList := by
  rw [started, runs_append, List.map_append]
  cases turn <;> rfl

theorem mem_started_snoc (turns : List Turn) (h : turn.run?.map Prod.fst ≠ some hook) :
    hook ∈ started (turns ++ [turn]) <-> hook ∈ started turns := by
  rw [started_snoc, List.mem_append, Option.mem_toList]
  exact or_iff_left h

theorem notMem_started_of_start
    (h : (started (turns ++ [.start n hook o])).count hook <= 1) :
    hook ∉ started turns := by
  intro hmem
  have hpos : 0 < (started turns).count hook := List.count_pos_iff.mpr hmem
  have hhere : ([hook] : List Hook).count hook = 1 := List.count_singleton_self
  have hboth : (started turns).count hook + ([hook] : List Hook).count hook <= 1 := by
    rw [← List.count_append]
    exact (started_snoc turns (.start n hook o)) ▸ h
  omega

theorem InTransform.mem_started (h : InTransform n o turns) : .transform ∈ started turns := by
  rcases h with ⟨earlier, since, rfl, _⟩
  apply List.mem_map.mpr
  refine ⟨(.transform, o), ?_, rfl⟩
  rw [runs_append]
  exact List.mem_append_right _ List.mem_cons_self

theorem InTransform.snoc (h : InTransform n o turns)
    (hturn : forall fault?, turn ≠ .finish n fault?) : InTransform n o (turns ++ [turn]) := by
  rcases h with ⟨earlier, since, rfl, hsince⟩
  refine ⟨earlier, since ++ [turn], by simp, ?_⟩
  intro fault? hmem
  rcases List.mem_append.mp hmem with hmem | hmem
  · exact hsince fault? hmem
  · exact hturn fault? (List.mem_singleton.mp hmem).symm

end Turn

theorem Roster.Kept.count_started {turns : List Turn} {s : Roster} (h : Kept turns s)
    (hook : Hook) : (Turn.started turns).count hook <= (Turn.registered turns).count hook := by
  rw [← h.once.count_eq hook, List.count_append]
  exact Nat.le_add_right _ _

/-!
## What the hook does in the course of turns
-/

namespace Feed

variable {α : Type} {transform : Transform α} {turns more : List Turn} {turn : Turn}
  {s t : Roster} {o : Outcome}

inductive Progress (transform : Transform α) (turns : List Turn) (s : Roster) :
    Feed α -> Prop where
  | idle : .transform ∉ Turn.started turns -> Progress transform turns s ⟨[], none, []⟩
  | called (n : Nat) (o : Outcome) (r : Round) :
      Turn.InTransform n o turns -> s.call.visible = some o ->
      s.rounds[n]? = some r -> r.running = true ->
      Progress transform turns s ⟨o.toOption.toList, some (n, o), []⟩
  | settled (o : Outcome) (before : List Turn) (n : Nat) (fault? : Option Fault)
      (later : List Turn) :
      Turn.InTransform n o before -> s.call.visible = some o ->
      turns = before ++ .finish n fault? :: later ->
      Progress transform turns s ⟨o.toOption.toList, none, [ownResult (transform before) o]⟩

theorem getElem?_of_ne {before later : List Round} {r r' : Round} {n : Nat}
    (hn : n ≠ before.length) :
    (before ++ r' :: later)[n]? = (before ++ r :: later)[n]? := by
  have hset : (before ++ r :: later).set before.length r' = before ++ r' :: later := by
    simp
  rw [← hset, List.getElem?_set_ne hn.symm]

theorem take_finish_of_others {f : Feed α} {n : Nat} (h : forall o, f.running ≠ some (n, o))
    (transform : Response -> Except Fault α) (fault? : Option Fault) :
    f.take transform (.finish n fault?) = f := by
  unfold take
  cases hrunning : f.running with
  | none =>
      rfl
  | some p =>
      rcases p with ⟨m, o⟩
      have hm : m ≠ n := by
        rintro rfl
        exact h o hrunning
      simp only [hm, if_false]

namespace Progress

variable {f : Feed α} {n : Nat} {r : Round}

theorem others (h : Progress transform turns s f)
    (hstart : turn.run?.map Prod.fst ≠ some .transform)
    (hvisible : forall o, s.call.visible = some o -> t.call.visible = some o)
    (hrunning : forall n o, f.running = some (n, o) ->
      (forall fault?, turn ≠ .finish n fault?) ∧
        forall r : Round, s.rounds[n]? = some r -> r.running = true -> t.rounds[n]? = some r) :
    Progress transform (turns ++ [turn]) t f := by
  cases h with
  | idle hidle =>
      exact .idle fun hmem => hidle ((Turn.mem_started_snoc turns hstart).mp hmem)
  | called n o r hcalled ho hr hrun =>
      rcases hrunning n o rfl with ⟨hfinish, hround⟩
      exact .called n o r (hcalled.snoc hfinish) (hvisible o ho) (hround r hr hrun)
        hrun
  | settled o before n fault? later hcalled ho hsplit =>
      refine .settled o before n fault? (later ++ [turn]) hcalled (hvisible o ho) ?_
      rw [hsplit, List.append_assoc, List.cons_append]

theorem start (h : Progress transform turns s f) (hidle : .transform ∉ Turn.started turns)
    (ho : t.call.visible = some o) (hr : t.rounds[n]? = some r) (hrun : r.running = true) :
    Progress transform (turns ++ [.start n .transform o]) t
      (f.take (transform turns) (.start n .transform o)) := by
  cases h with
  | idle _ =>
      exact .called n o r ⟨turns, [], rfl, fun _ => List.not_mem_nil⟩ ho hr hrun
  | called _ _ _ hcalled =>
      exact absurd hcalled.mem_started hidle
  | settled _ before _ _ later hcalled _ hsplit =>
      have hstarted : .transform ∈ Turn.started turns := by
        rw [hsplit, Turn.started, Turn.runs_append, List.map_append]
        exact List.mem_append_left _ hcalled.mem_started
      exact absurd hstarted hidle

theorem finish (h : Progress transform turns s f) (hrunning : f.running = some (n, o))
    (hcall : t.call = s.call) (fault? : Option Fault) :
    Progress transform (turns ++ [.finish n fault?]) t
      (f.take (transform turns) (.finish n fault?)) := by
  cases h with
  | idle _ => cases hrunning
  | settled => cases hrunning
  | called m first r hcalled ho _ _ =>
      cases hrunning
      simp only [take, if_true, List.nil_append]
      exact .settled o turns n fault? [] hcalled (hcall ▸ ho) rfl

end Progress

theorem progress_step (h : Progress transform turns s (after transform turns))
    (hkept : Roster.Kept turns s) (hstep : Roster.Step s turn t)
    (hcount : (Turn.registered (turns ++ [turn])).count .transform <= 1) :
    Progress transform (turns ++ [turn]) t (after transform (turns ++ [turn])) := by
  rw [after_append]
  show Progress _ _ _ ((after transform turns).take (transform turns) turn)
  have honce := Nat.le_trans ((hkept.step hstep).count_started .transform) hcount
  cases hstep with
  | access c rounds a =>
      refine h.others (fun h => nomatch h) (fun o ho => Call.visible_access ho a) ?_
      refine fun n o _ => ⟨fun _ => Turn.noConfusion, fun r hr _ => ?_⟩
      rw [List.getElem?_append_left (List.getElem?_eq_some_iff.mp hr).choose]
      exact hr
  | start c before later o hook rest =>
      have hvisible : c.visible = some o :=
        hkept.visible_of_mem (List.mem_append_right before List.mem_cons_self)
      have hhere : forall r : Round, (before ++ r :: later)[before.length]? = some r := by
        simp
      cases hook with
      | numbered k =>
          refine h.others (by simp [Turn.run?]) (fun _ ho => ho) ?_
          refine fun n first _ => ⟨fun _ => Turn.noConfusion, fun r hr hrun => ?_⟩
          have hn : n ≠ before.length := by
            rintro rfl
            cases (hhere _).symm.trans hr
            cases hrun
          exact (getElem?_of_ne hn).trans hr
      | transform =>
          -- it was registered once at most, so this is its first start
          exact h.start (Turn.notMem_started_of_start honce) hvisible (hhere ⟨o, rest, true⟩) rfl
  | finish c before later o rest fault? =>
      by_cases hmine : exists o, (after transform turns).running = some (before.length, o)
      · rcases hmine with ⟨first, hrunning⟩
        refine h.finish hrunning ?_ fault?
        rfl
      · rw [take_finish_of_others (fun first hrunning => hmine ⟨first, hrunning⟩)]
        refine h.others (fun h => nomatch h) (fun _ ho => ho) ?_
        intro n first hrunning
        have hn : n ≠ before.length := by
          rintro rfl
          exact hmine ⟨first, hrunning⟩
        refine ⟨?_, fun r hr _ => (getElem?_of_ne hn).trans hr⟩
        rintro fault ⟨⟩
        exact hn rfl

theorem progress_course (h : Progress transform turns s (after transform turns))
    (hkept : Roster.Kept turns s) (hcourse : Roster.Course s more t)
    (hcount : (Turn.registered (turns ++ more)).count .transform <= 1) :
    Progress transform (turns ++ more) t (after transform (turns ++ more)) := by
  induction hcourse generalizing turns with
  | nil s =>
      rw [List.append_nil]
      exact h
  | @cons s t u turn more hstep hrest ih =>
      rw [List.append_cons turns turn more] at hcount ⊢
      have hhere : (Turn.registered (turns ++ [turn])).count .transform <= 1 := by
        rw [Turn.registered_append, List.count_append] at hcount
        exact Nat.le_trans (Nat.le_add_right _ _) hcount
      exact ih (progress_step h hkept hstep hhere) (hkept.step hstep) hcount

/-- What became of the hook is one of three things, if it was registered once at most. -/
theorem progress_of_course (transform : Transform α)
    (hcourse : Roster.Course .opening turns s)
    (hcount : (Turn.registered turns).count .transform <= 1) :
    Progress transform turns s (after transform turns) :=
  progress_course (.idle List.not_mem_nil) Roster.kept_opening hcourse hcount

theorem length_toList_le {β : Type} (o : Option β) : o.toList.length <= 1 := by
  cases o <;> simp

namespace Progress

variable {f : Feed α}

theorem once (h : Progress transform turns s f) : f.calls.length <= 1 ∧ f.sent.length <= 1 := by
  cases h with
  | idle _ => exact ⟨Nat.zero_le 1, Nat.zero_le 1⟩
  | called n o r _ _ _ _ => exact ⟨length_toList_le _, Nat.zero_le 1⟩
  | settled o before n fault? later _ _ _ => exact ⟨length_toList_le _, Nat.le_refl 1⟩

theorem idle_of_hidden (h : Progress transform turns s f) (hvisible : s.call.visible = none) :
    .transform ∉ Turn.started turns ∧ f = ⟨[], none, []⟩ := by
  cases h with
  | idle hidle =>
      exact ⟨hidle, rfl⟩
  | called n o r _ ho _ _ =>
      rw [hvisible] at ho
      cases ho
  | settled o before n fault? later _ ho _ =>
      rw [hvisible] at ho
      cases ho

theorem visible_of_called (h : Progress transform turns s f) {r : Response}
    (hr : r ∈ f.calls) : s.call.visible = some (.ok r) := by
  have hresponse : forall o : Outcome, r ∈ o.toOption.toList -> o = .ok r := by
    intro o ho
    cases o with
    | error failure => cases ho
    | ok first =>
        cases List.mem_singleton.mp ho
        rfl
  cases h with
  | idle _ =>
      cases hr
  | called n o _ _ ho _ _ =>
      rw [ho, hresponse o hr]
  | settled o before n fault? later _ ho _ =>
      rw [ho, hresponse o hr]

theorem of_sent (h : Progress transform turns s f) {value : Except Failure α}
    (hvalue : value ∈ f.sent) :
    exists before round fault? later o, turns = before ++ .finish round fault? :: later ∧
      Turn.InTransform round o before ∧ s.call.visible = some o ∧
      f.calls = o.toOption.toList ∧ value = ownResult (transform before) o := by
  cases h with
  | idle _ =>
      cases hvalue
  | called n o r _ _ _ _ =>
      cases hvalue
  | settled o before n fault? later hcalled ho hsplit =>
      exact ⟨before, n, fault?, later, o, hsplit, hcalled, ho, rfl,
        List.mem_singleton.mp hvalue⟩

theorem received_ne_cut (h : Progress transform turns s f) {dropped : Bool}
    (hwaits : .transform ∉ Turn.started turns ->
      .transform ∈ s.rounds.flatMap Round.rest ∨
        dropped = false ∧ .transform ∈ s.call.hooks) :
    f.received s dropped ≠ .cut := by
  cases h with
  | idle hidle =>
      rcases hwaits hidle with hround | ⟨rfl, hrecord⟩
      · simp [received, hround]
      · simp [received, hrecord]
  | called n o r _ _ _ _ =>
      simp [received]
  | settled o before n fault? later _ _ _ =>
      simp [received]

theorem settled_of_isOver (h : Progress transform turns s f) {o : Outcome}
    (ho : s.call.visible = some o) (hover : s.isOver = true)
    (hstarted : .transform ∈ Turn.started turns) :
    exists before round fault? later, turns = before ++ .finish round fault? :: later ∧
      Turn.InTransform round o before ∧
      f = ⟨o.toOption.toList, none, [ownResult (transform before) o]⟩ := by
  cases h with
  | idle hidle =>
      exact absurd hstarted hidle
  | called n _ r _ _ hr hrun =>
      have hround := List.all_eq_true.mp hover r (List.mem_of_getElem? hr)
      rw [Round.isOver, hrun] at hround
      simp at hround
  | settled first before n fault? later hcalled hfirst hsplit =>
      cases hfirst.symm.trans ho
      exact ⟨before, n, fault?, later, hsplit, hcalled, rfl⟩

end Progress
end Feed

/-- What becomes of a future in the course of turns. -/
structure SettlesOnce {α : Type} (transform : Transform α) (turns : List Turn) (s : Roster) :
    Prop where
  once : (Feed.after transform turns).calls.length <= 1 ∧
    (Feed.after transform turns).sent.length <= 1
  /-- As long as the outcome does not show, the future shows nothing; unless the record of
  the call is dropped. -/
  hidden : s.call.visible = none -> (Feed.after transform turns).calls = [] ∧
    ((Feed.after transform turns).received s false).poll = none ∧
    ((Feed.after transform turns).received s true).poll =
      some (.error (.transport "completion hook dropped before the call finished"))
  /-- The transform is called with the response that shows, and that remains so. -/
  called : forall r, r ∈ (Feed.after transform turns).calls ->
    forall more t, Roster.Course s more t ->
      t.call.visible = some (.ok r) ∧ t.call.phase = .succeeded
  /-- What is sent comes from the outcome that shows, and from what the transform did by the
  time when its hook ended. -/
  sent : forall value, value ∈ (Feed.after transform turns).sent ->
    exists before round fault? later o, turns = before ++ .finish round fault? :: later ∧
      Turn.InTransform round o before ∧ s.call.visible = some o ∧
      (Feed.after transform turns).calls = o.toOption.toList ∧
      value = ownResult (transform before) o
  lasting : forall more,
    (Feed.after transform turns).sent <+: (Feed.after transform (turns ++ more)).sent
  /-- Once the outcome shows, there is somebody who sends, if nobody did, even if the record
  of the call is gone. -/
  attached : s.call.visible.isSome = true -> forall dropped,
    (Feed.after transform turns).received s dropped ≠ .cut
  /-- When all hooks ended, the future has its value. -/
  ended : forall o, s.call.visible = some o -> s.isOver = true ->
    (Feed.after transform turns).calls = o.toOption.toList ∧
      exists before round fault? later, turns = before ++ .finish round fault? :: later ∧
        Turn.InTransform round o before ∧ forall dropped,
          (Feed.after transform turns).received s dropped =
            .value (ownResult (transform before) o)
  goesOn : s.call.visible.isSome = true -> exists more t, Turn.accesses more = [] ∧
    Roster.Course s more t ∧ t.call.visible = s.call.visible ∧ t.isOver = true

theorem Roster.Course.visible {s t : Roster} {turns : List Turn} (h : Course s turns t)
    {o : Outcome} (ho : s.call.visible = some o) : t.call.visible = some o := by
  rw [h.call_eq]
  exact Call.visible_accessAll ho _

theorem Roster.Course.transform_started {turns : List Turn} {s : Roster}
    (hcourse : Course .opening turns s)
    (hcount : (Turn.registered turns).count .transform = 1) {o : Outcome}
    (ho : s.call.visible = some o) (hover : s.isOver = true) :
    .transform ∈ Turn.started turns := by
  have hperm := hcourse.onceEach.ended (by rw [ho]; rfl) hover
  exact hperm.mem_iff.mpr (List.count_pos_iff.mp (hcount ▸ Nat.one_pos))

theorem Roster.Course.settlesOnce {α : Type} (transform : Transform α) {turns : List Turn}
    {s : Roster} (hcourse : Course .opening turns s)
    (hcount : (Turn.registered turns).count .transform = 1) :
    SettlesOnce transform turns s := by
  have hkept := hcourse.kept
  have hprogress := Feed.progress_of_course transform hcourse (Nat.le_of_eq hcount)
  have hwaits : .transform ∉ Turn.started turns ->
      .transform ∈ s.call.hooks ∨ .transform ∈ s.rounds.flatMap Round.rest := by
    intro hnot
    have hperm := hkept.once.count_eq .transform
    rw [List.count_append, List.count_eq_zero.mpr hnot, hcount, Nat.zero_add] at hperm
    exact List.mem_append.mp (List.count_pos_iff.mp (hperm ▸ Nat.one_pos))
  constructor
  · exact hprogress.once
  · intro hvisible
    rcases hprogress.idle_of_hidden hvisible with ⟨hidle, hfeed⟩
    have hrounds := hkept.rounds_eq_nil hvisible
    have hrecord : .transform ∈ s.call.hooks := by
      rcases hwaits hidle with hrecord | hround
      · exact hrecord
      · rw [hrounds] at hround
        cases hround
    rw [hfeed]
    refine ⟨rfl, ?_, ?_⟩
    · simp [Feed.received, hrecord, Received.poll]
    · simp [Feed.received, hrounds, Received.poll]
  · intro r hr more t hmore
    have hvisible := hmore.visible (hprogress.visible_of_called hr)
    refine ⟨hvisible, ?_⟩
    rw [Call.phase, hvisible]
  · exact fun value hvalue => hprogress.of_sent hvalue
  · intro more
    rw [Feed.after_append]
    exact Feed.sent_along transform turns _ more
  · intro hvisible dropped
    rcases Option.isSome_iff_exists.mp hvisible with ⟨o, ho⟩
    apply hprogress.received_ne_cut
    intro hnot
    have hhooks := (hkept.shown o ho).left
    rcases hwaits hnot with hrecord | hround
    · rw [hhooks] at hrecord
      cases hrecord
    · exact Or.inl hround
  · intro o ho hover
    rcases hprogress.settled_of_isOver ho hover (hcourse.transform_started hcount ho hover)
      with ⟨before, round, fault?, later, hsplit, hcalled, hfeed⟩
    rw [hfeed]
    exact ⟨rfl, before, round, fault?, later, hsplit, hcalled, fun _ => rfl⟩
  · intro hvisible
    rcases hcourse.onceEach.goesOn with ⟨more, t, haccesses, hover, hmore⟩
    refine ⟨more, t, haccesses, hmore, ?_, hover⟩
    rw [hmore.call_eq, haccesses]
    rfl

/-!
## The caller's own result
-/

namespace World

variable {caller : Caller} {react : Reaction} {u v w : World}

/-- The own result of the caller is what the hook of a future has sent, that makes the same
of the response; and it is there as soon as the outcome shows. -/
def OwnResult (caller : Caller) (w : World) : Prop :=
  (exists turns rounds, Roster.Course .opening turns ⟨w.call, rounds⟩ ∧
    rounds.all Round.isOver = true ∧ (Turn.registered turns).count .transform = 1 ∧
    w.result = (Feed.after (fun _ => caller.transform) turns).sent.head?) ∧
  w.result = w.call.visible.map (ownResult caller.transform)

theorem count_numbered (ns : List Nat) : (ns.map Hook.numbered).count .transform = 0 :=
  List.count_eq_zero.mpr (by simp)

theorem resultOf_eq (caller : Caller) : resultOf caller = ownResult caller.transform := by
  funext o
  cases o with
  | error f => rfl
  | ok r =>
      cases htransform : caller.transform r <;> simp only [resultOf, ownResult, htransform]

theorem ownResult_of_course {turns : List Turn} {rounds : List Round}
    (hcourse : Roster.Course .opening turns ⟨w.call, rounds⟩)
    (hover : rounds.all Round.isOver = true)
    (hcount : (Turn.registered turns).count .transform = 1)
    (hresult : w.result = (Turn.runs turns).foldl (resultAfter (resultOf caller)) none) :
    OwnResult caller w := by
  have hprogress := Feed.progress_of_course (fun _ => caller.transform) hcourse
    (Nat.le_of_eq hcount)
  suffices h : w.result = w.call.visible.map (ownResult caller.transform) ∧
      (Feed.after (fun _ => caller.transform) turns).sent.head? =
        w.call.visible.map (ownResult caller.transform) from
    ⟨⟨turns, rounds, hcourse, hover, hcount, h.left.trans h.right.symm⟩, h.left⟩
  cases hvisible : w.call.visible with
  | none =>
      have hstarted : Turn.started turns = [] := (hcourse.kept.hidden hvisible).right.left
      rw [hresult, List.map_eq_nil_iff.mp hstarted,
        (hprogress.idle_of_hidden hvisible).right]
      exact ⟨rfl, rfl⟩
  | some o =>
      have hgiven : forall p, p ∈ Turn.runs turns -> p.2 = o :=
        fun p hp => Option.some.inj ((hcourse.kept.given p hp).symm.trans hvisible)
      have hstarted : .transform ∈ (Turn.runs turns).map Prod.fst :=
        hcourse.transform_started hcount hvisible hover
      rcases hprogress.settled_of_isOver hvisible hover hstarted with
        ⟨_, _, _, _, _, _, hfeed⟩
      rw [hresult, foldl_resultAfter hgiven, if_pos hstarted, resultOf_eq, hfeed]
      exact ⟨rfl, rfl⟩

/-- The world came about by turns that ended, and nobody asked for the caller's own result. -/
def Unasked (w : World) : Prop :=
  (exists turns rounds, Roster.Course .opening turns ⟨w.call, rounds⟩ ∧
    rounds.all Round.isOver = true ∧ .transform ∉ Turn.registered turns) ∧ w.result = none

theorem course_register (caller : Caller) (react : Reaction) (v : World)
    (rounds : List Round) (hresult : v.result = none) :
    exists turns more, more.all Round.isOver = true ∧ Turn.registered turns = [.transform] ∧
      Roster.Course ⟨v.call, rounds⟩ turns
        ⟨(v.register caller react .transform).call, rounds ++ more⟩ ∧
      (v.register caller react .transform).result =
        (Turn.runs turns).foldl (resultAfter (resultOf caller)) none := by
  have haccess := Roster.Course.single
    (.access v.call rounds (.register .transform))
  unfold register
  cases hvisible : v.call.visible with
  | none =>
      have hcall : v.call.access (.register .transform) = v.call.enqueue .transform := by
        simp [Call.access, hvisible]
      have hhanded : v.call.handed (.register .transform) = none := by
        simp [Call.handed, hvisible]
      rw [hcall, hhanded] at haccess
      exact ⟨_, [], rfl, rfl, haccess, hresult⟩
  | some o =>
      have hcall : v.call.access (.register .transform) = v.call := by
        simp [Call.access, hvisible]
      have hhanded : v.call.handed (.register .transform) = some ⟨o, [.transform], false⟩ := by
        simp [Call.handed, hvisible]
      rw [hcall, hhanded] at haccess
      have hcalled := haccess.append (.cons (.start v.call rounds [] o .transform [])
        (.single (.finish v.call rounds [] o [] none)))
      exact ⟨_, [⟨o, [], false⟩], rfl, rfl, hcalled, rfl⟩

theorem foldl_resultAfter_of_notMem {own : Outcome -> Except Failure Json}
    {runs : List (Hook × Outcome)} (h : .transform ∉ runs.map Prod.fst)
    (result : Option (Except Failure Json)) :
    runs.foldl (resultAfter own) result = result := by
  induction runs with
  | nil =>
      rfl
  | cons p rest ih =>
      rw [List.map_cons, List.mem_cons, not_or] at h
      rcases p with ⟨n | _, o⟩
      · exact ih h.right
      · exact absurd rfl h.left

/-- The own result of the caller is there as soon as the outcome shows, whenever the hook was
registered. -/
theorem Unasked.ownResult (h : Unasked v)
    (htends : Tends (resultOf caller) (v.register caller react .transform) w) :
    OwnResult caller w := by
  rcases h with ⟨⟨turns, rounds, hcourse, hover, hunasked⟩, hresult⟩
  rcases course_register caller react v rounds hresult with
    ⟨asked, more, hover', hregistered, hasked, hresult'⟩
  rcases htends (rounds ++ more) with ⟨most, later, hover'', hfollows⟩
  rcases hfollows.numbers with ⟨ns, _, hnumbers⟩
  refine ownResult_of_course ((hcourse.append hasked).append hfollows.course) ?_ ?_ ?_
  · simp [hover, hover', hover'']
  · rw [Turn.registered_append, Turn.registered_append, hregistered, hnumbers,
      List.count_append, List.count_append, List.count_eq_zero.mpr hunasked, count_numbered]
    rfl
  · have hunstarted : .transform ∉ (Turn.runs turns).map Prod.fst := by
      have hcount := hcourse.kept.count_started .transform
      rw [List.count_eq_zero.mpr hunasked] at hcount
      exact List.count_eq_zero.mp (Nat.le_zero.mp hcount)
    rw [hfollows.result, hresult', Turn.runs_append, Turn.runs_append, List.foldl_append,
      List.foldl_append, foldl_resultAfter_of_notMem hunstarted]

end World

namespace Session

variable {caller : Caller} {react : Reaction}

theorem count_hooksBelow {plot : Plot} (htransformed : plot.transformed = true)
    (nextHook : Nat) : (plot.hooksBelow nextHook).count .transform = 1 := by
  rw [Plot.hooksBelow, if_pos htransformed, List.count_append, World.count_numbered]
  rfl

theorem HooksCalled.ownResult {plot : Plot} {w : World} (h : HooksCalled caller plot w)
    (htransformed : plot.transformed = true) : World.OwnResult caller w := by
  rcases h.turns with ⟨turns, rounds, hcourse, _, hover, hregistered, _, hresult⟩
  exact World.ownResult_of_course hcourse hover
    (hregistered ▸ count_hooksBelow htransformed w.nextHook) hresult

/-- A future settles once, and agrees with the call, in whatever order its hook is registered,
the outcome is recorded and published, and hooks are called.  The own result of the caller is
such a future, be it asked for with the call or in any world afterwards. -/
theorem future_settles_once {α : Type} (transform : Transform α) :
    (forall turns s, Roster.Course .opening turns s ->
      (Turn.registered turns).count .transform = 1 -> SettlesOnce transform turns s) ∧
    forall caller react, World.Conduct caller True react ->
      (forall clockStart nextConnection plot request hops w course,
        launch caller react clockStart nextConnection plot request hops =
          .underway w course ->
        plot.transformed = true ->
        forall u v, u ∈ w :: course.map Prod.fst -> World.Deed caller True u v ->
          World.OwnResult caller v) ∧
      forall v w, World.Unasked v ->
        World.Deed caller True (v.register caller react .transform) w ->
        World.OwnResult caller w ∧ World.OwnResult caller (w.publish caller react) ∧
          (forall listeners c request event,
            World.OwnResult caller (w.handle caller react listeners c request event).1) ∧
          forall plot clockStart h rest c request p,
            p ∈ course caller react plot clockStart h rest c request w ->
            World.OwnResult caller p.1 := by
  refine ⟨fun turns s hcourse hcount => hcourse.settlesOnce transform hcount, ?_⟩
  intro caller react hconduct
  constructor
  · intro clockStart nextConnection plot request hops w course hlaunch htransformed u v hu
      hdeed
    rcases tends_launch hconduct hlaunch with ⟨h, htends⟩
    have hcalled := hooksCalled_of_tends ((htends u hu).trans (World.tends_of_deed hdeed))
    exact hcalled.ownResult htransformed
  · intro v w hv hdeed
    have htends := World.tends_of_deed hdeed
    refine ⟨hv.ownResult htends, ?_, ?_, ?_⟩
    · exact hv.ownResult (htends.trans (World.tends_publish hconduct.tendsIn w))
    · intro listeners c request event
      exact hv.ownResult
        (htends.trans (World.tends_handle hconduct.tendsIn listeners c request event w))
    · intro plot clockStart h rest c request p hp
      have hcourse := @Upkeep.inv_course _ (fun u _ => World.Tends _ _ u) caller react plot
        clockStart h rest c request w
        (fun deadline => World.tends_upkeep
          ⟨caller, react, plot.listeners, deadline⟩ hconduct _)
        (fun _ _ => ⟨trivial, trivial⟩) htends (fun _ => htends) p hp
      exact hv.ownResult hcourse

def faultyCaller : Caller where
  policy := .never
  triggers := []
  transform _ := .error (.text "transform bug")

def answered : World :=
  (World.settle (firstConnected (plainRequest none) 1 (plainHop 5)).1 none
    (.ok plainResponse)).1

theorem future_settles_once_over_breakdown :
    (exists turns s, Roster.Course .opening turns s ∧
      SettlesOnce (fun _ => faultyCaller.transform) turns s ∧
      (Feed.after (fun _ => faultyCaller.transform) turns).received s true =
        .value (.error (.transport "response transform panicked: transform bug")) ∧
      s.call.phase = .succeeded) ∧
    World.OwnResult faultyCaller
      ((answered.register faultyCaller faultyCaller.reaction .transform).publish faultyCaller
        faultyCaller.reaction) ∧
    ((answered.register faultyCaller faultyCaller.reaction .transform).publish faultyCaller
        faultyCaller.reaction).result =
      some (.error (.transport "response transform panicked: transform bug")) := by
  have hsettles := future_settles_once (fun _ => faultyCaller.transform)
  have hconduct := Caller.reaction_conduct (Caller.within_true faultyCaller)
  have hrecorded : Roster.Course .opening [.access (.settle (.ok plainResponse))]
      ⟨answered.call, []⟩ := .single (.access _ [] _)
  have hpublished : Roster.Course ⟨answered.call, []⟩
      [.access (.register .transform), .access .publish] _ :=
    .cons (.access _ [] _) (.single (.access _ _ _))
  have hcalled : Roster.Course _
      [.start 0 .transform (.ok plainResponse), .finish 0 none] _ :=
    .cons (.start { answered.call with published := true } [] [] (.ok plainResponse) .transform
      []) (.single (.finish _ [] [] (.ok plainResponse) [] none))
  have hcourse := (hrecorded.append hpublished).append hcalled
  have hunasked : World.Unasked answered :=
    ⟨⟨_, [], hrecorded, rfl, List.not_mem_nil⟩, rfl⟩
  refine ⟨⟨_, _, hcourse, hsettles.left _ _ hcourse rfl, rfl, rfl⟩, ?_, rfl⟩
  have hown := (hsettles.right faultyCaller _ hconduct).right answered _ hunasked (.idle _)
  exact hown.right.left

end Session
end HttpCall
