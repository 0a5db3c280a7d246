import HttpCall.Fault
import HttpCall.Proofs.Call.Access

/-!
# Rounds of hooks

A hook can come to the outcome on two ways: it waits in the record of the call until the
outcome is published, or it finds the outcome visible already.  In both cases whoever made
the access has hooks in hand then, a round, and calls them one after the other, while
everybody else goes on.  Between the start and the end of a hook anything may happen to
the call, so hooks that register further hooks need no treatment of their own.
-/

namespace HttpCall

/-- Hooks that were handed over to be called, with the outcome that they are given. -/
structure Round where
  outcome : Outcome
  rest : List Hook
  running : Bool

def Round.isOver (r : Round) : Bool := r.rest.isEmpty && !r.running

def Call.handed (c : Call) : Access -> Option Round
  | .publish => c.publish?.map fun p => ⟨p.1, p.2.1, false⟩
  | .register hook => c.visible.map fun o => ⟨o, [hook], false⟩
  | _ => none

def Access.registered? : Access -> Option Hook
  | register hook => some hook
  | _ => none

inductive Turn where
  | access (a : Access)
  | start (round : Nat) (hook : Hook) (o : Outcome)
  | finish (round : Nat) (fault? : Option Fault)

namespace Turn

def access? : Turn -> Option Access
  | access a => some a
  | _ => none

def run? : Turn -> Option (Hook × Outcome)
  | start _ hook o => some (hook, o)
  | _ => none

def startedIn? (round : Nat) : Turn -> Option Hook
  | start n hook _ => if n = round then some hook else none
  | _ => none

def accesses (turns : List Turn) : List Access := turns.filterMap access?

def registered (turns : List Turn) : List Hook := (accesses turns).filterMap Access.registered?

def runs (turns : List Turn) : List (Hook × Outcome) := turns.filterMap run?

def started (turns : List Turn) : List Hook := (runs turns).map Prod.fst

def startedIn (round : Nat) (turns : List Turn) : List Hook :=
  turns.filterMap (startedIn? round)

section Append

variable (before after : List Turn)

theorem accesses_append : accesses (before ++ after) = accesses before ++ accesses after :=
  List.filterMap_append

theorem registered_append :
    registered (before ++ after) = registered before ++ registered after := by
  rw [registered, accesses_append, List.filterMap_append]
  rfl

theorem runs_append : runs (before ++ after) = runs before ++ runs after :=
  List.filterMap_append

theorem startedIn_append (round : Nat) :
    startedIn round (before ++ after) = startedIn round before ++ startedIn round after :=
  List.filterMap_append

end Append

theorem startedIn_sublist (round : Nat) (turns : List Turn) :
    (startedIn round turns).Sublist (started turns) := by
  induction turns with
  | nil =>
      exact .slnil
  | cons turn rest ih =>
      cases turn with
      | access a =>
          exact ih
      | start n hook o =>
          by_cases hn : n = round
          · have hhere : startedIn? round (start n hook o) = some hook := if_pos hn
            rw [startedIn, List.filterMap_cons_some hhere]
            exact ih.cons_cons hook
          · have helsewhere : startedIn? round (start n hook o) = none := if_neg hn
            rw [startedIn, List.filterMap_cons_none helsewhere]
            exact ih.cons hook
      | finish n fault? =>
          exact ih

theorem startedIn_of_started {turns : List Turn} (h : started turns = []) (round : Nat) :
    startedIn round turns = [] := by
  have hsublist := startedIn_sublist round turns
  rw [h] at hsublist
  exact List.sublist_nil.mp hsublist

end Turn

/-- A call and the rounds that were handed over. -/
structure Roster where
  call : Call
  rounds : List Round

namespace Roster

def opening : Roster := ⟨.fresh, []⟩

def isOver (s : Roster) : Bool := s.rounds.all Round.isOver

def waiting (s : Roster) : List Hook := s.call.hooks ++ s.rounds.flatMap Round.rest

inductive Step : Roster -> Turn -> Roster -> Prop where
  | access (c : Call) (rounds : List Round) (a : Access) :
      Step ⟨c, rounds⟩ (.access a) ⟨c.access a, rounds ++ (c.handed a).toList⟩
  | start (c : Call) (before after : List Round) (o : Outcome) (hook : Hook)
      (rest : List Hook) :
      Step ⟨c, before ++ ⟨o, hook :: rest, false⟩ :: after⟩ (.start before.length hook o)
        ⟨c, before ++ ⟨o, rest, true⟩ :: after⟩
  | finish (c : Call) (before after : List Round) (o : Outcome) (rest : List Hook)
      (fault? : Option Fault) :
      Step ⟨c, before ++ ⟨o, rest, true⟩ :: after⟩ (.finish before.length fault?)
        ⟨c, before ++ ⟨o, rest, false⟩ :: after⟩

inductive Course : Roster -> List Turn -> Roster -> Prop where
  | nil (s : Roster) : Course s [] s
  | cons {s t u : Roster} {turn : Turn} {turns : List Turn} :
      Step s turn t -> Course t turns u -> Course s (turn :: turns) u

namespace Course

variable {s t u : Roster} {turns before after : List Turn}

theorem append (hst : Course s before t) (htu : Course t after u) :
    Course s (before ++ after) u := by
  induction hst with
  | nil _ =>
      exact htu
  | cons hstep _ ih =>
      exact .cons hstep (ih htu)

theorem split (h : Course s (before ++ after) u) :
    exists t, Course s before t ∧ Course t after u := by
  induction before generalizing s with
  | nil =>
      exact ⟨s, .nil s, h⟩
  | cons turn rest ih =>
      cases h with
      | cons hstep hrest =>
          rcases ih hrest with ⟨t, hbefore, hafter⟩
          exact ⟨t, .cons hstep hbefore, hafter⟩

theorem single {turn : Turn} (h : Step s turn t) : Course s [turn] t := .cons h (.nil t)

theorem call_eq (h : Course s turns t) : t.call = s.call.accessAll (Turn.accesses turns) := by
  induction h with
  | nil _ =>
      rfl
  | cons hstep _ ih =>
      rw [ih]
      cases hstep <;> rfl

end Course
end Roster

/-!
## What an access hands over
-/

namespace Call

/-- A hook that is registered goes to the record or to a round, and a publication passes
on what waits in the record. -/
theorem hooks_access (c : Call) (a : Access) :
    (c.access a).hooks ++ (c.handed a).toList.flatMap Round.rest =
      c.hooks ++ a.registered?.toList := by
  cases a with
  | settle o =>
      cases houtcome : c.outcome <;>
        simp [access, settle?, houtcome, handed, Access.registered?]
  | publish =>
      cases houtcome : c.outcome <;> cases hpublished : c.published <;>
        simp [access, publish?, houtcome, hpublished, handed, Access.registered?]
  | countRedirect =>
      cases houtcome : c.outcome <;>
        simp [access, countRedirect?, houtcome, handed, Access.registered?]
  | addCookie k =>
      simp [access, addCookie, handed, Access.registered?]
  | register hook =>
      cases hvisible : c.visible <;>
        simp [access, hvisible, enqueue, handed, Access.registered?]
  | observe =>
      simp [access, handed, Access.registered?]

theorem visible_of_handed {c : Call} {a : Access} {r : Round} (h : c.handed a = some r) :
    (c.access a).visible = some r.outcome := by
  cases a with
  | publish =>
      rcases Option.map_eq_some_iff.mp h with ⟨⟨o, hooks, d⟩, hpublish, rfl⟩
      have haccess : c.access .publish = d := by
        simp [access, hpublish]
      rw [haccess]
      exact visible_of_publish? hpublish
  | register hook =>
      rcases Option.map_eq_some_iff.mp h with ⟨o, hvisible, rfl⟩
      simp [access, hvisible]
  | settle _ => cases h
  | countRedirect => cases h
  | addCookie _ => cases h
  | observe => cases h

theorem hidden_of_access {c : Call} {a : Access} (h : (c.access a).visible = none) :
    c.visible = none ∧ c.handed a = none := by
  constructor
  · cases hvisible : c.visible with
    | none =>
        rfl
    | some o =>
        rw [visible_access hvisible a] at h
        cases h
  · cases hhanded : c.handed a with
    | none =>
        rfl
    | some r =>
        rw [visible_of_handed hhanded] at h
        cases h

theorem waiting_of_publish? {c d : Call} {o : Outcome} {hooks : List Hook}
    (h : c.publish? = some (o, hooks, d)) : c.published = false ∧ hooks = c.hooks := by
  unfold publish? at h
  split at h
  · split at h
    · cases h
    · rename_i hpublished
      cases h
      exact ⟨Bool.eq_false_iff.mpr hpublished, rfl⟩
  · cases h

theorem hooks_of_handed {c : Call} {a : Access} {r : Round} (hvisible : c.visible = none)
    (h : c.handed a = some r) : (c.access a).hooks = [] := by
  cases a with
  | publish =>
      rcases Option.map_eq_some_iff.mp h with ⟨⟨o, hooks, d⟩, hpublish, _⟩
      have haccess : c.access .publish = d := by
        simp [access, hpublish]
      rw [haccess, (of_publish? hpublish).right]
  | register hook =>
      rw [handed, hvisible] at h
      cases h
  | settle _ => cases h
  | countRedirect => cases h
  | addCookie _ => cases h
  | observe => cases h

theorem visible_of_not_handed {c : Call} {a : Access} (hvisible : c.visible = none)
    (hsettled : c.published = true -> c.outcome.isSome = true) (h : c.handed a = none) :
    (c.access a).visible = none := by
  have hpublished : c.published = false := by
    cases hpublished : c.published with
    | false =>
        rfl
    | true =>
        rcases Option.isSome_iff_exists.mp (hsettled hpublished) with ⟨o, ho⟩
        rw [visible_eq_some.mpr ⟨hpublished, ho⟩] at hvisible
        cases hvisible
  apply visible_eq_none_of_not_published
  rw [published_access, hpublished]
  cases a with
  | publish =>
      cases houtcome : c.outcome with
      | none =>
          rfl
      | some o =>
          simp [handed, publish?, houtcome, hpublished] at h
  | settle _ => rfl
  | countRedirect => rfl
  | addCookie _ => rfl
  | register _ => rfl
  | observe => rfl

theorem hooks_access_of_visible {c : Call} {o : Outcome} (h : c.visible = some o)
    (a : Access) : (c.access a).hooks = c.hooks := by
  rcases visible_eq_some.mp h with ⟨hpublished, houtcome⟩
  cases a with
  | settle late => simp [access, settle?, houtcome]
  | publish => simp [access, publish?, houtcome, hpublished]
  | countRedirect => simp [access, countRedirect?, houtcome]
  | addCookie k => rfl
  | register hook => simp [access, h]
  | observe => rfl

theorem settled_access {c : Call} (h : c.published = true -> c.outcome.isSome = true)
    (a : Access) :
    (c.access a).published = true -> (c.access a).outcome.isSome = true := by
  rw [published_access, outcome_access, Option.isSome_or]
  intro hpublished
  rcases Bool.or_eq_true_iff.mp hpublished with hbefore | hnow
  · rw [h hbefore]
    rfl
  · rw [(Bool.and_eq_true_iff.mp hnow).right]
    rfl

end Call

/-!
## Each hook once
-/

namespace Roster

/-- What turns that were made since the call began have come to. -/
structure Kept (turns : List Turn) (s : Roster) : Prop where
  call : s.call = Call.fresh.accessAll (Turn.accesses turns)
  settled : s.call.published = true -> s.call.outcome.isSome = true
  hidden : s.call.visible = none ->
    s.rounds = [] ∧ Turn.started turns = [] ∧ s.call.hooks = Turn.registered turns
  shown : forall o, s.call.visible = some o ->
    s.call.hooks = [] ∧ forall r, r ∈ s.rounds -> r.outcome = o
  given : forall p, p ∈ Turn.runs turns -> s.call.visible = some p.2
  once : (Turn.started turns ++ s.waiting).Perm (Turn.registered turns)

theorem kept_opening : Kept [] opening where
  call := rfl
  settled := Bool.noConfusion
  hidden _ := ⟨rfl, rfl, rfl⟩
  shown _ h := nomatch h
  given _ hp := absurd hp List.not_mem_nil
  once := List.Perm.refl _

namespace Kept

variable {turns : List Turn} {c : Call} {rounds : List Round} {s t : Roster}

theorem rounds_eq_nil (h : Kept turns s) (hvisible : s.call.visible = none) :
    s.rounds = [] :=
  (h.hidden hvisible).left

theorem visible_of_mem {r : Round} (h : Kept turns s) (hr : r ∈ s.rounds) :
    s.call.visible = some r.outcome := by
  cases hvisible : s.call.visible with
  | none =>
      rw [h.rounds_eq_nil hvisible] at hr
      cases hr
  | some o =>
      rw [(h.shown o hvisible).right r hr]

theorem hooks_access_eq_nil (h : Kept turns ⟨c, rounds⟩) {a : Access} {o : Outcome}
    (hnext : (c.access a).visible = some o) : (c.access a).hooks = [] := by
  cases hvisible : c.visible with
  | some first =>
      exact (Call.hooks_access_of_visible hvisible a).trans (h.shown first hvisible).left
  | none =>
      cases hhanded : c.handed a with
      | some r =>
          exact Call.hooks_of_handed hvisible hhanded
      | none =>
          rw [Call.visible_of_not_handed hvisible h.settled hhanded] at hnext
          cases hnext

theorem waiting_access (c : Call) (rounds : List Round) (a : Access) :
    (waiting ⟨c.access a, rounds ++ (c.handed a).toList⟩).Perm
      (waiting ⟨c, rounds⟩ ++ a.registered?.toList) := by
  apply List.perm_iff_count.mpr
  intro hook
  have hhooks := congrArg (List.count hook) (c.hooks_access a)
  simp only [waiting, List.flatMap_append, List.count_append] at hhooks ⊢
  omega

theorem access (h : Kept turns ⟨c, rounds⟩) (a : Access) :
    Kept (turns ++ [.access a]) ⟨c.access a, rounds ++ (c.handed a).toList⟩ := by
  have hregistered : Turn.registered (turns ++ [.access a]) =
      Turn.registered turns ++ a.registered?.toList := by
    rw [Turn.registered_append]
    cases a <;> rfl
  have hruns : Turn.runs (turns ++ [.access a]) = Turn.runs turns := by
    rw [Turn.runs_append]
    exact List.append_nil _
  have hstarted : Turn.started (turns ++ [.access a]) = Turn.started turns :=
    congrArg (List.map Prod.fst) hruns
  constructor
  · rw [Turn.accesses_append, Call.accessAll_append, ← h.call]
    rfl
  · exact Call.settled_access h.settled a
  · intro hnext
    rcases Call.hidden_of_access hnext with ⟨hvisible, hhanded⟩
    rcases h.hidden hvisible with ⟨hrounds, hnone, hqueue⟩
    have hhooks := c.hooks_access a
    rw [hhanded] at hhooks ⊢
    refine ⟨congrArg (· ++ []) hrounds, hstarted.trans hnone, ?_⟩
    rw [hregistered, ← hqueue, ← hhooks]
    exact (List.append_nil _).symm
  · intro o hnext
    refine ⟨h.hooks_access_eq_nil hnext, ?_⟩
    intro r hr
    have hshown : (c.access a).visible = some r.outcome := by
      rcases List.mem_append.mp hr with hr | hr
      · exact Call.visible_access (h.visible_of_mem hr) a
      · exact Call.visible_of_handed (Option.mem_toList.mp hr)
    rw [hnext] at hshown
    exact (Option.some.inj hshown).symm
  · rw [hruns]
    intro p hp
    exact Call.visible_access (h.given p hp) a
  · rw [hstarted, hregistered]
    have hwaiting := (waiting_access c rounds a).append_left (Turn.started turns)
    rw [← List.append_assoc] at hwaiting
    exact hwaiting.trans (h.once.append_right _)

theorem round {before after : List Round} {r r' : Round} {turn : Turn}
    (h : Kept turns ⟨c, before ++ r :: after⟩) (haccess : turn.access? = none)
    (hsame : r'.outcome = r.outcome)
    (hrest : r.rest = (turn.run?.map Prod.fst).toList ++ r'.rest)
    (hgiven : forall p, turn.run? = some p -> p.2 = r.outcome) :
    Kept (turns ++ [turn]) ⟨c, before ++ r' :: after⟩ := by
  have hvisible : c.visible = some r.outcome :=
    h.visible_of_mem (List.mem_append_right before List.mem_cons_self)
  have haccesses : Turn.accesses (turns ++ [turn]) = Turn.accesses turns := by
    simp [Turn.accesses, haccess]
  have hregistered : Turn.registered (turns ++ [turn]) = Turn.registered turns :=
    congrArg (List.filterMap Access.registered?) haccesses
  have hruns : Turn.runs (turns ++ [turn]) = Turn.runs turns ++ turn.run?.toList := by
    cases hrun : turn.run? <;> simp [Turn.runs, hrun]
  constructor
  · rw [haccesses]
    exact h.call
  · exact h.settled
  · intro hnone
    rw [show c.visible = none from hnone] at hvisible
    cases hvisible
  · intro o ho
    refine ⟨(h.shown o ho).left, ?_⟩
    intro x hx
    rcases List.mem_append.mp hx with hx | hx
    · exact (h.shown o ho).right x (List.mem_append_left _ hx)
    · rcases List.mem_cons.mp hx with rfl | hx
      · exact hsame.trans (Option.some.inj (hvisible.symm.trans ho))
      · exact (h.shown o ho).right x
          (List.mem_append_right before (List.mem_cons_of_mem _ hx))
  · rw [hruns]
    intro p hp
    rcases List.mem_append.mp hp with hp | hp
    · exact h.given p hp
    · rw [hgiven p (Option.mem_toList.mp hp)]
      exact hvisible
  · rw [hregistered]
    apply List.perm_iff_count.mpr
    intro hook
    have honce := List.perm_iff_count.mp h.once hook
    have hstarted : turn.run?.toList.map Prod.fst = (turn.run?.map Prod.fst).toList := by
      cases turn.run? <;> rfl
    simp only [Turn.started, hruns, waiting, List.map_append, hstarted, List.flatMap_append,
      List.flatMap_cons, hrest, List.count_append] at honce ⊢
    omega

theorem step {turn : Turn} (h : Kept turns s) (hstep : Step s turn t) :
    Kept (turns ++ [turn]) t := by
  cases hstep with
  | access c rounds a =>
      exact h.access a
  | start c before after o hook rest =>
      exact h.round rfl rfl rfl (by rintro p ⟨⟩; rfl)
  | finish c before after o rest fault? =>
      exact h.round rfl rfl rfl (fun _ hp => nomatch hp)

theorem course {more : List Turn} (h : Kept turns s) (hcourse : Course s more t) :
    Kept (turns ++ more) t := by
  induction hcourse generalizing turns with
  | nil s =>
      rw [List.append_nil]
      exact h
  | cons hstep _ ih =>
      have hnext := ih (h.step hstep)
      rwa [List.append_assoc] at hnext

end Kept

theorem Course.kept {turns : List Turn} {s : Roster} (h : Course opening turns s) :
    Kept turns s :=
  kept_opening.course h

/-!
## The round of the publication
-/

theorem Course.startedIn_zero {s t : Roster} {turns : List Turn} (h : Course s turns t)
    {first : Round} {others : List Round} (hs : s.rounds = first :: others) :
    exists now later, t.rounds = now :: later ∧
      Turn.startedIn 0 turns ++ now.rest = first.rest := by
  induction h generalizing first others with
  | nil s =>
      exact ⟨first, others, hs, rfl⟩
  | cons hstep _ ih =>
      cases hstep with
      | access c rounds a =>
          rw [show rounds = first :: others from hs] at ih
          exact ih rfl
      | start c before after o hook rest =>
          cases before with
          | nil =>
              cases hs
              rcases ih rfl with ⟨now, later, ht, hstarted⟩
              exact ⟨now, later, ht, congrArg (List.cons hook) hstarted⟩
          | cons r before =>
              cases hs
              exact ih rfl
      | finish c before after o rest fault? =>
          cases before with
          | nil =>
              cases hs
              rcases ih rfl with ⟨now, later, ht, hstarted⟩
              exact ⟨now, later, ht, hstarted⟩
          | cons r before =>
              cases hs
              exact ih rfl

/-- However the hooks end that were started, all others can be started after them. -/
theorem goes_on_round (c : Call) (before after : List Round) (r : Round) :
    exists turns r', Turn.accesses turns = [] ∧ r'.isOver = true ∧
      Course ⟨c, before ++ r :: after⟩ turns ⟨c, before ++ r' :: after⟩ := by
  rcases r with ⟨o, rest, running⟩
  induction rest generalizing running with
  | nil =>
      cases running with
      | false =>
          exact ⟨[], _, rfl, rfl, .nil _⟩
      | true =>
          exact ⟨_, _, rfl, rfl, .single (.finish c before after o [] none)⟩
  | cons hook rest ih =>
      rcases ih true with ⟨turns, r', haccesses, hover, hcourse⟩
      have hstart := Course.cons (.start c before after o hook rest) hcourse
      cases running with
      | false =>
          exact ⟨.start before.length hook o :: turns, r', haccesses, hover, hstart⟩
      | true =>
          have hfinish := Course.cons (.finish c before after o (hook :: rest) none) hstart
          exact ⟨.finish before.length none :: .start before.length hook o :: turns, r',
            haccesses, hover, hfinish⟩

theorem goes_on (c : Call) (before rounds : List Round)
    (hbefore : before.all Round.isOver = true) :
    exists turns t, Turn.accesses turns = [] ∧ t.isOver = true ∧
      Course ⟨c, before ++ rounds⟩ turns t := by
  induction rounds generalizing before with
  | nil =>
      refine ⟨[], _, rfl, ?_, .nil _⟩
      rw [isOver, List.append_nil]
      exact hbefore
  | cons r rest ih =>
      rcases goes_on_round c before rest r with ⟨turns, r', haccesses, hover, hcourse⟩
      have hnext : (before ++ [r']).all Round.isOver = true := by
        simp [hbefore, hover]
      rcases ih (before ++ [r']) hnext with ⟨more, t, haccesses', hover', hcourse'⟩
      rw [List.append_assoc] at hcourse'
      refine ⟨turns ++ more, t, ?_, hover', hcourse.append hcourse'⟩
      rw [Turn.accesses_append, haccesses, haccesses']
      rfl

end Roster

/-!
## Each hook once, with the outcome
-/

/-- What turns, in the order in which they were made, have to do with the hooks in the
end. -/
structure OnceEach (turns : List Turn) (s : Roster) : Prop where
  /-- A hook is started only when the outcome is visible, and is given the one that was
  settled first. -/
  given : forall before round hook o after, turns = before ++ .start round hook o :: after ->
    (Call.fresh.accessAll (Turn.accesses before)).visible = some o ∧
      Access.firstSettled (Turn.accesses turns) = some o
  /-- Each hook that was registered was started once or waits. -/
  once : (Turn.started turns ++ s.waiting).Perm (Turn.registered turns)
  ended : s.call.visible.isSome = true -> s.isOver = true ->
    (Turn.started turns).Perm (Turn.registered turns)
  /-- The hooks that were registered before the publication are started in order; their
  round is the first. -/
  inOrder : forall before after, turns = before ++ .access .publish :: after ->
    (Call.fresh.accessAll (Turn.accesses before)).publish?.isSome = true ->
    (Turn.startedIn 0 turns).Sublist (Turn.started turns) ∧
      exists first others, s.rounds = first :: others ∧
        Turn.startedIn 0 turns ++ first.rest = Turn.registered before
  harmless : forall t turn, Roster.Step s turn t -> turn.access? = none -> t.call = s.call
  alike : forall t round fault? other, Roster.Step s (.finish round fault?) t ->
    Roster.Step s (.finish round other) t
  goesOn : exists more t, Turn.accesses more = [] ∧ t.isOver = true ∧ Roster.Course s more t

theorem Roster.waiting_eq_nil {s : Roster} (hhooks : s.call.hooks = [])
    (hover : s.isOver = true) : s.waiting = [] := by
  have hrest : s.rounds.flatMap Round.rest = [] := by
    apply List.flatMap_eq_nil_iff.mpr
    intro r hr
    have hboth := List.all_eq_true.mp hover r hr
    exact List.isEmpty_iff.mp (Bool.and_eq_true_iff.mp hboth).left
  rw [waiting, hhooks, hrest]
  rfl

theorem Roster.Course.onceEach {turns : List Turn} {s : Roster}
    (h : Course opening turns s) : OnceEach turns s where
  given := by
    rintro before round hook o after rfl
    rcases h.split with ⟨t, hbefore, hafter⟩
    have hvisible : t.call.visible = some o := by
      cases hafter with
      | cons hstep _ =>
          cases hstep with
          | start c before' after' _ _ rest =>
              exact hbefore.kept.visible_of_mem (List.mem_append_right _ List.mem_cons_self)
    rw [hbefore.kept.call] at hvisible
    refine ⟨hvisible, ?_⟩
    have hrun : (hook, o) ∈ Turn.runs (before ++ .start round hook o :: after) := by
      rw [Turn.runs_append]
      exact List.mem_append_right _ List.mem_cons_self
    have houtcome := (Call.visible_eq_some.mp (h.kept.given _ hrun)).right
    rw [h.kept.call, Call.outcome_accessAll] at houtcome
    exact houtcome
  once := h.kept.once
  ended := by
    intro hvisible hover
    rcases Option.isSome_iff_exists.mp hvisible with ⟨o, ho⟩
    have honce := h.kept.once
    rwa [Roster.waiting_eq_nil (h.kept.shown o ho).left hover, List.append_nil] at honce
  inOrder := by
    rintro before after rfl hpublish
    rcases h.split with ⟨t, hbefore, hafter⟩
    rw [← hbefore.kept.call] at hpublish
    rcases Option.isSome_iff_exists.mp hpublish with ⟨⟨o, hooks, d⟩, hd⟩
    rcases Call.waiting_of_publish? hd with ⟨hpublished, hhooks⟩
    rcases hbefore.kept.hidden (Call.visible_eq_none_of_not_published hpublished) with
      ⟨hrounds, hstarted, hqueue⟩
    cases hafter with
    | cons hstep hrest =>
        cases hstep with
        | access c rounds _ =>
            have hrounds' : rounds ++ (c.handed .publish).toList = [⟨o, hooks, false⟩] := by
              rw [show rounds = [] from hrounds, Call.handed, hd]
              rfl
            rcases hrest.startedIn_zero hrounds' with ⟨now, later, hs, hnow⟩
            refine ⟨Turn.startedIn_sublist 0 _, now, later, hs, ?_⟩
            rw [Turn.startedIn_append, Turn.startedIn_of_started hstarted]
            exact hnow.trans (hhooks.trans hqueue)
  harmless := by
    intro t turn hstep haccess
    cases hstep with
    | access c rounds a => cases haccess
    | start c before after o hook rest => rfl
    | finish c before after o rest fault? => rfl
  alike := by
    intro t round fault? other hstep
    cases hstep with
    | finish c before after o rest _ => exact .finish c before after o rest other
  goesOn := by
    rcases Roster.goes_on s.call [] s.rounds rfl with ⟨more, t, haccesses, hover, hcourse⟩
    exact ⟨more, t, haccesses, hover, hcourse⟩

end HttpCall
