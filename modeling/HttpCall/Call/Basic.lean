import HttpCall.Cookie.Basic
import HttpCall.Error
import HttpCall.Message.Response

/-!
# The record of a call

One logical call, across all its hops.  Its end comes in two halves: the outcome
is settled first and published later, and only a published outcome can be seen.
The first outcome that is settled stays.
-/

namespace HttpCall

abbrev Outcome := Except Failure Response

/-- What an observer sees of a call. -/
inductive Phase where
  | pending
  | succeeded
  | failed
deriving DecidableEq, Repr

namespace Phase

def isTerminal : Phase -> Bool
  | pending => false
  | succeeded | failed => true

def name : Phase -> String
  | pending => "Pending"
  | succeeded => "Succeeded"
  | failed => "Failed"

end Phase

inductive Hook where
  | numbered (n : Nat)
  | transform
deriving DecidableEq, Repr

structure Call where
  redirects : Nat
  cookies : List Cookie
  outcome : Option Outcome
  published : Bool
  hooks : List Hook

namespace Call

def fresh : Call := ⟨0, [], none, false, []⟩

/-! ## What can be seen -/

def visible (c : Call) : Option Outcome := if c.published then c.outcome else none

def phase (c : Call) : Phase :=
  match c.visible with
  | none => .pending
  | some (.ok _) => .succeeded
  | some (.error _) => .failed

def isDone (c : Call) : Bool := c.phase.isTerminal
def isSucceeded (c : Call) : Bool := c.phase = .succeeded
def isFailed (c : Call) : Bool := c.phase = .failed

def response? (c : Call) : Option Response :=
  match c.visible with
  | some (.ok r) => some r
  | _ => none

def failure? (c : Call) : Option Failure :=
  match c.visible with
  | some (.error f) => some f
  | _ => none

def result? (c : Call) : Option (Except Error Response) :=
  c.visible.map fun
    | .ok r => .ok r
    | .error f => .error (.failed f)

/-- What a caller gets who waits for no time at all. -/
def waitForNoTime (c : Call) : Option (Except Error Response) := c.result?

def summary (c : Call) : String :=
  "RequestContext \x7b id: _, state: " ++ c.phase.name ++ ", redirect_count: " ++
    toString c.redirects ++ " \x7d"

/-! ## What can be done -/

/-- Record the outcome, unless there is one already. -/
def settle? (c : Call) (o : Outcome) : Option Call :=
  match c.outcome with
  | none => some { c with outcome := some o }
  | some _ => none

/-- Count a followed redirect, unless the outcome is recorded. -/
def countRedirect? (c : Call) : Option Call :=
  match c.outcome with
  | none => some { c with redirects := c.redirects + 1 }
  | some _ => none

def addCookie (c : Call) (k : Cookie) : Call := { c with cookies := c.cookies ++ [k] }

def enqueue (c : Call) (h : Hook) : Call := { c with hooks := c.hooks ++ [h] }

/-- Make a settled outcome visible and hand over the hooks that waited for it;
`none` if there is no outcome or it is visible already. -/
def publish? (c : Call) : Option (Outcome × List Hook × Call) :=
  match c.outcome with
  | some o =>
      if c.published then none
      else some (o, c.hooks, { c with published := true, hooks := [] })
  | none => none

theorem visible_eq_none_of_not_published {c : Call} (h : c.published = false) :
    c.visible = none := by
  simp [visible, h]

theorem visible_eq_some {c : Call} {o : Outcome} :
    c.visible = some o <-> c.published = true ∧ c.outcome = some o := by
  cases hpublished : c.published <;> simp [visible, hpublished]

theorem failure?_eq_some {c : Call} {f : Failure} :
    c.failure? = some f <-> c.visible = some (.error f) := by
  rcases hvisible : c.visible with _ | g | r <;> simp [failure?, hvisible]

theorem outcome_of_settle? {c d : Call} {o : Outcome} (h : c.settle? o = some d) :
    c.outcome = none ∧ d.outcome = some o ∧ d.published = c.published := by
  unfold settle? at h
  split at h
  · rename_i hc
    cases h
    exact ⟨hc, rfl, rfl⟩
  · cases h

theorem outcome_of_countRedirect? {c d : Call} (h : c.countRedirect? = some d) :
    c.outcome = none ∧ d.outcome = none ∧ d.published = c.published := by
  unfold countRedirect? at h
  split at h
  · rename_i hc
    cases h
    exact ⟨hc, hc, rfl⟩
  · cases h

theorem of_publish? {c d : Call} {o : Outcome} {hooks : List Hook}
    (h : c.publish? = some (o, hooks, d)) :
    c.outcome = some o ∧ d = { c with published := true, hooks := [] } := by
  unfold publish? at h
  split at h
  · rename_i first hc
    split at h
    · cases h
    · cases h
      exact ⟨hc, rfl⟩
  · cases h

theorem visible_of_publish? {c d : Call} {o : Outcome} {hooks : List Hook}
    (h : c.publish? = some (o, hooks, d)) : d.visible = some o := by
  rcases of_publish? h with ⟨hc, rfl⟩
  exact hc

end Call
end HttpCall
