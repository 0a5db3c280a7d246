import HttpCall.Call.Basic

/-!
# Accesses to the record of a call

Whoever works on a call reaches its record through a handful of accesses, each of
which is done in one piece.  What a sequence of them comes to, in whatever order and
by whomever they are made, can be read off the sequence: the outcome is the one that
was settled first, it is visible from the first publication after that, and the
redirects are those that were counted before.
-/

namespace HttpCall

inductive Access where
  | settle (o : Outcome)
  | publish
  | countRedirect
  | addCookie (k : Cookie)
  | register (hook : Hook)
  | observe

namespace Access

def outcome? : Access -> Option Outcome
  | settle o => some o
  | _ => none

def isCount : Access -> Bool
  | countRedirect => true
  | _ => false

def isPublish : Access -> Bool
  | publish => true
  | _ => false

def firstSettled (accesses : List Access) : Option Outcome := accesses.findSome? outcome?

@[simp] theorem firstSettled_nil : firstSettled [] = none := rfl

theorem firstSettled_cons (a : Access) (rest : List Access) :
    firstSettled (a :: rest) = a.outcome?.or (firstSettled rest) := by
  cases a <;> rfl

end Access

namespace Call

def access (c : Call) : Access -> Call
  | .settle o => (c.settle? o).getD c
  | .publish => (c.publish?.map fun p => p.2.2).getD c
  | .countRedirect => c.countRedirect?.getD c
  | .addCookie k => c.addCookie k
  | .register hook => if c.visible.isSome then c else c.enqueue hook
  | .observe => c

def accessAll (c : Call) (accesses : List Access) : Call := accesses.foldl access c

@[simp] theorem accessAll_nil (c : Call) : c.accessAll [] = c := rfl

@[simp] theorem accessAll_cons (c : Call) (a : Access) (rest : List Access) :
    c.accessAll (a :: rest) = (c.access a).accessAll rest := rfl

theorem accessAll_append (c : Call) (before after : List Access) :
    c.accessAll (before ++ after) = (c.accessAll before).accessAll after :=
  List.foldl_append

def countedIn : Call -> List Access -> Nat
  | _, [] => 0
  | c, a :: rest =>
      (if a.isCount && c.countRedirect?.isSome then 1 else 0) + countedIn (c.access a) rest

theorem countedIn_append (c : Call) (before after : List Access) :
    c.countedIn (before ++ after) =
      c.countedIn before + (c.accessAll before).countedIn after := by
  induction before generalizing c with
  | nil =>
      simp [countedIn]
  | cons a rest ih =>
      simp only [List.cons_append, countedIn, accessAll_cons]
      rw [ih, Nat.add_assoc]

/-!
## Single accesses

Two gates look alike.  A settlement and the count of a redirect ask whether there is an
outcome, while a publication and the registration of a hook ask whether it is visible.
-/

theorem settle?_isSome (c : Call) (o : Outcome) :
    (c.settle? o).isSome = c.outcome.isNone := by
  unfold settle?
  cases c.outcome <;> rfl

theorem countRedirect?_isSome (c : Call) :
    c.countRedirect?.isSome = c.outcome.isNone := by
  unfold countRedirect?
  cases c.outcome <;> rfl

theorem settle?_of_outcome {c : Call} (h : c.outcome.isSome = true) (late : Outcome) :
    c.settle? late = none ∧ c.access (.settle late) = c := by
  rcases Option.isSome_iff_exists.mp h with ⟨o, ho⟩
  have hnone : c.settle? late = none := by
    simp [settle?, ho]
  constructor
  · exact hnone
  · simp [access, hnone]

theorem outcome_access (c : Call) (a : Access) :
    (c.access a).outcome = c.outcome.or a.outcome? := by
  cases a with
  | settle o =>
      cases houtcome : c.outcome <;> simp [access, settle?, houtcome, Access.outcome?]
  | publish =>
      cases houtcome : c.outcome <;> cases hpublished : c.published <;>
        simp [access, publish?, houtcome, hpublished, Access.outcome?]
  | countRedirect =>
      cases houtcome : c.outcome <;>
        simp [access, countRedirect?, houtcome, Access.outcome?]
  | addCookie k =>
      simp [access, addCookie, Access.outcome?]
  | register hook =>
      cases hvisible : c.visible <;> simp [access, hvisible, enqueue, Access.outcome?]
  | observe =>
      simp [access, Access.outcome?]

theorem redirects_access (c : Call) (a : Access) :
    (c.access a).redirects =
      c.redirects + (if a.isCount && c.countRedirect?.isSome then 1 else 0) := by
  cases a with
  | settle o =>
      cases houtcome : c.outcome <;> simp [access, settle?, houtcome, Access.isCount]
  | publish =>
      cases houtcome : c.outcome <;> cases hpublished : c.published <;>
        simp [access, publish?, houtcome, hpublished, Access.isCount]
  | countRedirect =>
      cases houtcome : c.outcome <;>
        simp [access, countRedirect?, houtcome, Access.isCount]
  | addCookie k =>
      simp [access, addCookie, Access.isCount]
  | register hook =>
      cases hvisible : c.visible <;> simp [access, hvisible, enqueue, Access.isCount]
  | observe =>
      simp [access, Access.isCount]

theorem published_access (c : Call) (a : Access) :
    (c.access a).published = (c.published || (a.isPublish && c.outcome.isSome)) := by
  cases a with
  | settle o =>
      cases houtcome : c.outcome <;> simp [access, settle?, houtcome, Access.isPublish]
  | publish =>
      cases houtcome : c.outcome <;> cases hpublished : c.published <;>
        simp [access, publish?, houtcome, hpublished, Access.isPublish]
  | countRedirect =>
      cases houtcome : c.outcome <;>
        simp [access, countRedirect?, houtcome, Access.isPublish]
  | addCookie k =>
      simp [access, addCookie, Access.isPublish]
  | register hook =>
      cases hvisible : c.visible <;> simp [access, hvisible, enqueue, Access.isPublish]
  | observe =>
      simp [access, Access.isPublish]

theorem visible_access {c : Call} {o : Outcome} (h : c.visible = some o) (a : Access) :
    (c.access a).visible = some o := by
  rcases visible_eq_some.mp h with ⟨hpublished, houtcome⟩
  apply visible_eq_some.mpr
  constructor
  · rw [published_access, hpublished]
    rfl
  · rw [outcome_access, houtcome]
    rfl

/-!
## Sequences of accesses
-/

theorem outcome_accessAll (c : Call) (accesses : List Access) :
    (c.accessAll accesses).outcome = c.outcome.or (Access.firstSettled accesses) := by
  induction accesses generalizing c with
  | nil =>
      simp
  | cons a rest ih =>
      rw [accessAll_cons, ih, outcome_access, Access.firstSettled_cons, Option.or_assoc]

theorem redirects_accessAll (c : Call) (accesses : List Access) :
    (c.accessAll accesses).redirects = c.redirects + c.countedIn accesses := by
  induction accesses generalizing c with
  | nil =>
      simp [countedIn]
  | cons a rest ih =>
      rw [accessAll_cons, ih, redirects_access, countedIn, Nat.add_assoc]

theorem visible_accessAll {c : Call} {o : Outcome} (h : c.visible = some o)
    (accesses : List Access) : (c.accessAll accesses).visible = some o := by
  induction accesses generalizing c with
  | nil =>
      exact h
  | cons a rest ih =>
      exact ih (visible_access h a)

theorem countedIn_of_outcome {c : Call} (h : c.outcome.isSome = true)
    (accesses : List Access) : c.countedIn accesses = 0 := by
  induction accesses generalizing c with
  | nil =>
      rfl
  | cons a rest ih =>
      have hnone : c.countRedirect?.isSome = false := by
        rw [countRedirect?_isSome, Option.isNone_eq_false_iff]
        exact h
      have hnext : (c.access a).outcome.isSome = true := by
        rw [outcome_access, Option.isSome_or, h]
        rfl
      simp [countedIn, hnone, ih hnext]

/-- An outcome that is visible in the end was settled before some publication. -/
theorem visible_accessAll_iff {c : Call} (hpublished : c.published = false)
    (accesses : List Access) (o : Outcome) :
    (c.accessAll accesses).visible = some o <->
      exists before after, accesses = before ++ .publish :: after ∧
        (c.accessAll before).outcome = some o := by
  constructor
  · intro h
    induction accesses generalizing c with
    | nil =>
        rw [accessAll_nil, visible_eq_none_of_not_published hpublished] at h
        cases h
    | cons a rest ih =>
        cases hnext : (c.access a).published with
        | false =>
            rcases ih hnext h with ⟨before, after, rfl, hbefore⟩
            exact ⟨a :: before, after, rfl, hbefore⟩
        | true =>
            -- this access is the publication, so the outcome was there before it
            rw [published_access, hpublished, Bool.false_or, Bool.and_eq_true] at hnext
            rcases hnext with ⟨hpublish, hsettled⟩
            rcases Option.isSome_iff_exists.mp hsettled with ⟨first, hfirst⟩
            have houtcome := (visible_eq_some.mp h).right
            rw [accessAll_cons, outcome_accessAll, outcome_access, hfirst] at houtcome
            cases a with
            | publish =>
                exact ⟨[], rest, rfl, hfirst.trans houtcome⟩
            | settle _ => cases hpublish
            | countRedirect => cases hpublish
            | addCookie _ => cases hpublish
            | register _ => cases hpublish
            | observe => cases hpublish
  · rintro ⟨before, after, rfl, hbefore⟩
    rw [accessAll_append, accessAll_cons]
    apply visible_accessAll
    apply visible_eq_some.mpr
    constructor
    · rw [published_access, hbefore]
      simp [Access.isPublish]
    · rw [outcome_access, hbefore]
      rfl

end Call
end HttpCall
