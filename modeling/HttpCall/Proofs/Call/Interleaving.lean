import HttpCall.Proofs.Call.Access
import HttpCall.Call.Handling

/-!
# Handlings that interleave

Any number of handlings may be under way for one call, and each of them advances by
one access at a time.  Between any two of them the others may advance as well, whether
they run elsewhere, or inside a listener, a hook or a release that the handling has
called and waits for.  The loop over hops takes part with a handling of a single
effect, which ends the call when there is no connection.
-/

namespace HttpCall

inductive Progress where
  /-- Effects are to be carried out; the flag tells whether the outcome was settled on
  the way. -/
  | doing (rest : List Effect) (settledHere : Bool)
  | calling (rest : List Effect) (settledHere : Bool)
  | failing (fault : Fault)
  | returning (settledHere : Bool)
  | leaving (settledHere : Bool) (broken : Option Fault)
  | ended (step : Step)
  | broken (fault : Fault)

namespace Progress

def isFollowed : Progress -> Bool
  | ended (.redirect _ _) => true
  | _ => false

def left : Option Fault -> Progress
  | none => ended .done
  | some fault => broken fault

/-- The next access of a handling and how far it has come then.  If it waits for user
code, `fault?` tells whether that broke down. -/
def step (fault? : Option Fault) (c : Call) : Progress -> Access × Progress
  | doing [] first => (.observe, returning first)
  | doing (.notifyHeaders _ :: rest) first => (.observe, calling rest first)
  | doing (.recordCookie k :: rest) first => (.addCookie k, calling rest first)
  | doing (.notifyResponse _ :: rest) first => (.observe, calling rest first)
  | doing (.notifyException _ :: rest) first => (.observe, doing rest first)
  | doing (.follow location status :: _) first =>
      (.countRedirect,
        if c.countRedirect?.isSome then ended (.redirect location status)
        else returning first)
  | doing (.succeed r :: rest) _ =>
      (.settle (.ok r), doing rest (c.settle? (.ok r)).isSome)
  | doing (.fail f :: rest) _ =>
      (.settle (.error f), doing rest (c.settle? (.error f)).isSome)
  | doing (.release :: _) first => (.observe, returning first)
  | calling rest first =>
      (.observe, match fault? with | none => doing rest first | some fault => failing fault)
  | failing fault =>
      let o : Outcome := .error (.transport (World.listenerError fault).message)
      (.settle o, returning (c.settle? o).isSome)
  | returning first => (.observe, leaving first fault?)
  | leaving first fault? =>
      (if first then .publish else .observe, left fault?)
  | ended step => (.observe, ended step)
  | broken fault => (.observe, broken fault)

theorem toNat_isFollowed_step (fault? : Option Fault) (c : Call) (p : Progress) :
    (p.step fault? c).2.isFollowed.toNat =
      p.isFollowed.toNat +
        (if (p.step fault? c).1.isCount && c.countRedirect?.isSome then 1 else 0) := by
  cases p with
  | doing effects first =>
      cases effects with
      | nil => rfl
      | cons effect rest =>
          cases effect with
          | follow location status =>
              cases hcount : c.countRedirect? <;>
                simp [step, hcount, isFollowed, Access.isCount]
          | notifyHeaders _ => rfl
          | recordCookie _ => rfl
          | notifyResponse _ => rfl
          | notifyException _ => rfl
          | succeed _ => rfl
          | fail _ => rfl
          | release => rfl
  | calling rest first =>
      cases fault? <;> rfl
  | failing fault => rfl
  | returning first => rfl
  | leaving first broken =>
      cases first <;> cases broken <;> rfl
  | ended step =>
      cases step <;> rfl
  | broken fault => rfl

theorem countP_isFollowed (before after : List Progress) (p : Progress) :
    (before ++ p :: after).countP isFollowed =
      before.countP isFollowed + after.countP isFollowed + p.isFollowed.toNat := by
  rw [List.countP_append, List.countP_cons, Nat.add_assoc]
  cases p.isFollowed <;> rfl

end Progress

/-- A call and the handlings that have begun for it. -/
structure Scene where
  call : Call
  runs : List Progress

namespace Scene

def opening : Scene := ⟨.fresh, []⟩

/-- One step of whoever is at work on the call. -/
inductive Step : Scene -> Access -> Scene -> Prop where
  /-- The handling of an event begins; its plan may rest on a snapshot that is not up to
  date. -/
  | handle (c : Call) (runs : List Progress) (policy : Policy) (snapshot : Snapshot)
      (request : Request) (event : Event) (effects : List Effect) :
      plan policy snapshot request event = .ok effects ->
      Step ⟨c, runs⟩ .observe ⟨c, runs ++ [.doing effects false]⟩
  /-- The loop over hops has no connection and ends the call. -/
  | giveUp (c : Call) (runs : List Progress) (failure : Failure) :
      Step ⟨c, runs⟩ .observe ⟨c, runs ++ [.doing [.fail failure] false]⟩
  | advance (c : Call) (before after : List Progress) (p : Progress)
      (fault? : Option Fault) :
      Step ⟨c, before ++ p :: after⟩ (p.step fault? c).1
        ⟨c.access (p.step fault? c).1, before ++ (p.step fault? c).2 :: after⟩
  | register (c : Call) (runs : List Progress) (hook : Hook) :
      Step ⟨c, runs⟩ (.register hook) ⟨c.access (.register hook), runs⟩
  | observe (s : Scene) : Step s .observe s

inductive Course (s : Scene) : List Access -> Scene -> Prop where
  | nil : Course s [] s
  | snoc {accesses : List Access} {a : Access} {t u : Scene} :
      Course s accesses t -> Step t a u -> Course s (accesses ++ [a]) u

namespace Course

theorem append {s t u : Scene} {before after : List Access} (hst : Course s before t)
    (htu : Course t after u) : Course s (before ++ after) u := by
  induction htu with
  | nil =>
      rw [List.append_nil]
      exact hst
  | snoc _ hstep ih =>
      rw [← List.append_assoc]
      exact ih.snoc hstep

theorem call_eq {s t : Scene} {accesses : List Access} (h : Course s accesses t) :
    t.call = s.call.accessAll accesses := by
  induction h with
  | nil =>
      rfl
  | snoc _ hstep ih =>
      rw [Call.accessAll_append, ← ih]
      cases hstep <;> rfl

end Course

def followed (s : Scene) : Nat := s.runs.countP Progress.isFollowed

theorem Step.followed_eq {s t : Scene} {a : Access} (h : Step s a t) :
    t.followed = s.followed + s.call.countedIn [a] := by
  cases h with
  | handle c runs policy snapshot request event effects _ =>
      simp [followed, Call.countedIn, Access.isCount, Progress.isFollowed]
  | giveUp c runs failure =>
      simp [followed, Call.countedIn, Access.isCount, Progress.isFollowed]
  | advance c before after p fault? =>
      unfold followed
      rw [Progress.countP_isFollowed, Progress.countP_isFollowed,
        Progress.toNat_isFollowed_step, ← Nat.add_assoc]
      rfl
  | register c runs hook =>
      simp [followed, Call.countedIn, Access.isCount]
  | observe s =>
      simp [followed, Call.countedIn, Access.isCount]

theorem Course.followed_eq {s t : Scene} {accesses : List Access}
    (h : Course s accesses t) : t.followed = s.followed + s.call.countedIn accesses := by
  induction h with
  | nil =>
      simp [Call.countedIn]
  | snoc hcourse hstep ih =>
      rw [hstep.followed_eq, ih, Call.countedIn_append, ← hcourse.call_eq, Nat.add_assoc]

end Scene

/-!
## The first settlement
-/

def Call.Agrees (c : Call) : Option Outcome -> Prop
  | none =>
      c.phase = .pending ∧ c.isDone = false ∧ c.isSucceeded = false ∧ c.isFailed = false ∧
        c.response? = none ∧ c.failure? = none ∧ c.result? = none ∧ c.waitForNoTime = none
  | some (.ok r) =>
      c.phase = .succeeded ∧ c.isDone = true ∧ c.isSucceeded = true ∧ c.isFailed = false ∧
        c.response? = some r ∧ c.failure? = none ∧ c.result? = some (.ok r) ∧
        c.waitForNoTime = some (.ok r)
  | some (.error f) =>
      c.phase = .failed ∧ c.isDone = true ∧ c.isSucceeded = false ∧ c.isFailed = true ∧
        c.response? = none ∧ c.failure? = some f ∧ c.result? = some (.error (.failed f)) ∧
        c.waitForNoTime = some (.error (.failed f))

theorem Call.agrees_visible (c : Call) : c.Agrees c.visible := by
  rcases hvisible : c.visible with _ | (f | r) <;>
    simp [Agrees, isDone, isSucceeded, isFailed, waitForNoTime, phase, response?, failure?,
      result?, hvisible, Phase.isTerminal]

/-- What accesses, in the order in which they were made, have to do with the call and
the handlings in the end. -/
structure FirstWins (accesses : List Access) (s : Scene) : Prop where
  outcome : s.call.outcome = Access.firstSettled accesses
  /-- A settlement is refused if it is not the first, and changes nothing then. -/
  settle : forall before o after, accesses = before ++ .settle o :: after ->
    ((Call.fresh.accessAll before).settle? o).isSome = (Access.firstSettled before).isNone ∧
      ((Access.firstSettled before).isSome = true ->
        (Call.fresh.accessAll before).access (.settle o) = Call.fresh.accessAll before)
  /-- A redirect is counted as long as nothing is settled, published or not. -/
  count : forall before after, accesses = before ++ .countRedirect :: after ->
    (Call.fresh.accessAll before).countRedirect?.isSome = (Access.firstSettled before).isNone
  frozen : forall before after, accesses = before ++ after ->
    (Access.firstSettled before).isSome = true ->
      s.call.redirects = (Call.fresh.accessAll before).redirects
  counted : s.call.redirects = Call.fresh.countedIn accesses
  followed : s.call.redirects = s.followed
  visible : forall o, s.call.visible = some o <->
    exists before after, accesses = before ++ .publish :: after ∧
      Access.firstSettled before = some o
  /-- What was visible once is visible in the end. -/
  stays : forall before after, accesses = before ++ after ->
    forall o, (Call.fresh.accessAll before).visible = some o -> s.call.visible = some o
  observers : s.call.Agrees s.call.visible

theorem Call.outcome_fresh_accessAll (accesses : List Access) :
    (Call.fresh.accessAll accesses).outcome = Access.firstSettled accesses := by
  rw [outcome_accessAll]
  rfl

theorem Scene.Course.firstWins {accesses : List Access} {s : Scene}
    (h : Course opening accesses s) : FirstWins accesses s where
  outcome := by
    rw [h.call_eq]
    exact Call.outcome_fresh_accessAll accesses
  settle := by
    rintro before o after rfl
    constructor
    · rw [Call.settle?_isSome, Call.outcome_fresh_accessAll]
    · intro hbefore
      rw [← Call.outcome_fresh_accessAll] at hbefore
      exact (Call.settle?_of_outcome hbefore o).right
  count := by
    rintro before after rfl
    rw [Call.countRedirect?_isSome, Call.outcome_fresh_accessAll]
  frozen := by
    rintro before after rfl hbefore
    rw [← Call.outcome_fresh_accessAll] at hbefore
    rw [h.call_eq, show opening.call = Call.fresh from rfl, Call.accessAll_append,
      Call.redirects_accessAll, Call.countedIn_of_outcome hbefore, Nat.add_zero]
  counted := by
    rw [h.call_eq, Call.redirects_accessAll]
    exact Nat.zero_add _
  followed := by
    rw [h.call_eq, Call.redirects_accessAll, h.followed_eq]
    rfl
  visible := by
    intro o
    rw [h.call_eq, Call.visible_accessAll_iff rfl]
    simp only [← Call.outcome_fresh_accessAll]
    rfl
  stays := by
    rintro before after rfl o hbefore
    rw [h.call_eq, show opening.call = Call.fresh from rfl, Call.accessAll_append]
    exact Call.visible_accessAll hbefore after
  observers := s.call.agrees_visible

end HttpCall
