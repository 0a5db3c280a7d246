import HttpCall.Proofs.Deadline.Budget
import HttpCall.Proofs.Request.Settings
import Mathlib.Data.List.Basic

/-!
# Time limits of requests

The time limit of a request comes from its draft, or from the client where the draft has
none of its own.  A draft refuses a limit of no time at all, but a client takes any limit; so
a request is given some time unless its client grants none.  Then nothing that takes time is
waited for in a call.
-/

namespace HttpCall

theorem Duration.isZero_iff {d : Duration} : d.isZero = true <-> d = .zero := by
  cases d
  simp [isZero, zero]

/-!
## Limits of drafts
-/

namespace Draft

def Setting.timeLimit? : Setting -> Option Duration
  | .timeout limit => if limit.isZero then none else some limit
  | _ => none

/-- The limits that settings give. -/
def timeLimits (settings : List Setting) : List Duration :=
  settings.filterMap Setting.timeLimit?

section

variable {d : Draft} {limit : Duration}

theorem apply_timeout_eq_error_iff {cause : Error} :
    d.apply (.timeout limit) = .error cause <->
      limit = .zero ∧ cause = .configuration .zeroTimeout := by
  rw [← Duration.isZero_iff]
  simp only [apply, setTimeout]
  split
  · rename_i hzero
    simp only [Except.error.injEq, hzero, true_and, eq_comm]
  · rename_i hpositive
    simp only [reduceCtorEq, hpositive, false_and]

theorem Setting.timeLimit?_of_isMade {s : Setting} (h : s.IsMade) :
    s.change.timeout = s.timeLimit? := by
  cases s with
  | timeout limit =>
      have hpositive : limit.isZero ≠ true := by
        intro hzero
        have hmade := h Client.standard.draft
        rw [apply_timeout_eq_error_iff.mpr ⟨Duration.isZero_iff.mp hzero, rfl⟩] at hmade
        cases hmade
      exact (if_neg hpositive).symm
  | acceptGzip wanted =>
      cases wanted <;> rfl
  | jsonValue value? =>
      cases value? <;> rfl
  | _ =>
      rfl

theorem Setting.timeLimit?_of_isRefused {s : Setting} (h : s.IsRefused) :
    s.timeLimit? = none := by
  cases s with
  | timeout limit =>
      obtain ⟨cause, hrefused⟩ := h
      obtain ⟨rfl, _⟩ := apply_timeout_eq_error_iff.mp (hrefused Client.standard.draft)
      rfl
  | _ =>
      rfl

theorem timeout_applyOrKeep (d : Draft) (s : Setting) :
    (d.applyOrKeep s).timeout = s.timeLimit?.or d.timeout := by
  rw [applyOrKeep_eq]
  rcases isRefused_or_isMade s with hrefused | hmade
  · obtain ⟨cause, h⟩ := hrefused
    rw [Settings.keep_of_error (h d), Setting.timeLimit?_of_isRefused ⟨cause, h⟩, Option.none_or]
  · rw [Settings.keep_of_ok (hmade d), ← Setting.timeLimit?_of_isMade hmade]
    rfl

theorem timeout_outcome (d : Draft) (settings : List Setting) :
    (settings.foldl applyOrKeep d).timeout = (timeLimits settings).getLast?.or d.timeout := by
  unfold timeLimits
  rw [← Settings.foldl_or]
  exact (List.foldl_hom Draft.timeout fun d s => (timeout_applyOrKeep d s).symm).symm

theorem ne_zero_of_mem_timeLimits {settings : List Setting} (h : limit ∈ timeLimits settings) :
    limit ≠ .zero := by
  obtain ⟨s, _, hs⟩ := List.mem_filterMap.mp h
  cases s with
  | timeout given =>
      rintro rfl
      simp only [Setting.timeLimit?] at hs
      split at hs
      · cases hs
      · rename_i hpositive
        cases hs
        exact hpositive rfl
  | _ =>
      cases hs

theorem timeout_of_build {r : Request} (h : d.build = .ok r) : r.timeout = d.timeout := by
  unfold build at h
  split at h
  · cases h
  · split at h
    · cases h
    · cases h
      rfl

end

end Draft

/-!
## Limits of clients
-/

namespace Client

def Setting.timeLimit? : Setting -> Option Duration
  | .timeout limit => some limit
  | _ => none

/-- The limits that settings give. -/
def timeLimits (settings : List Setting) : List Duration :=
  settings.filterMap Setting.timeLimit?

section

variable {c : Client} {b : Beginning} {d : Draft}

theorem timeout_applyOrKeep (c : Client) (s : Setting) :
    (c.applyOrKeep s).timeout = s.timeLimit?.or c.timeout := by
  cases s with
  | defaultHeader _ _ | userAgent _ =>
      exact view_applyOrKeep_of_edit Client.timeout (fun _ _ => rfl) rfl c
  | _ =>
      rfl

theorem timeout_outcome (c : Client) (settings : List Setting) :
    (settings.foldl applyOrKeep c).timeout = (timeLimits settings).getLast?.or c.timeout := by
  unfold timeLimits
  rw [← Settings.foldl_or]
  exact (List.foldl_hom Client.timeout fun c s => (timeout_applyOrKeep c s).symm).symm

theorem timeout_of_begin (h : c.begin b = .ok d) : d.timeout = c.timeout := by
  cases b with
  | blank =>
      cases h
      rfl
  | request method url =>
      have hsetting : { c.draft with method }.apply (.url url) = .ok d := h
      rw [Draft.eq_make_of_apply hsetting]
      rfl

end

end Client

/-!
## Calls that have no time
-/

namespace Session

section

variable {caller : Caller} {react : Reaction} {clockStart nextConnection : Nat} {plot : Plot}
  {request : Request} {hops : List Hop} {w : World} {course : List (World × Stage)}

theorem now_of_no_time (hconduct : World.Conduct caller True react)
    (htimeout : request.timeout = some .zero)
    (hlaunch : launch caller react clockStart nextConnection plot request hops =
      .underway w course) {p : World × Stage} (hp : p ∈ course) : p.1.now = w.now := by
  rcases launch_eq_underway hlaunch with ⟨h, rest, rfl, hw, hcourse⟩
  have hdeadline := @deadline?_of_timeout clockStart request .zero w htimeout
  cases hafter : Clock.after? (clockStart + w.now * 1000000) .zero with
  | none =>
      rw [hafter, Option.map_none] at hdeadline
      rw [course_of_no_deadline hdeadline] at hcourse
      rw [hcourse] at hp
      cases List.mem_singleton.mp hp
      rfl
  | some reading =>
      -- the deadline is the time at which the call begins
      have hnow : w.now + Duration.zero.ceilMillis = w.now := rfl
      rw [hafter, Option.map_some, hnow] at hdeadline
      have hby : w.By w.now := by
        rw [hw]
        exact by_deadline_withHooks hconduct plot request nextConnection h (Nat.le_refl _)
      rw [course_of_deadline hdeadline, ← Conditions.runIn_stretches] at hcourse
      rw [hcourse] at hp
      rcases List.mem_cons.mp hp with rfl | hp
      · rfl
      · apply Nat.le_antisymm
        · exact ((Clocked.by_deadline rfl).kept_runIn hconduct _ hby p hp).left
        · exact (Clocked.since _ w.now).kept_runIn hconduct _ (Nat.le_refl w.now) p hp

end

end Session

namespace Request

/-- No time passes in any call that is made of the request. -/
def PassesNoTime (r : Request) : Prop :=
  forall caller react, World.Conduct caller True react ->
    forall clockStart nextConnection plot hops w course,
      Session.launch caller react clockStart nextConnection plot r hops = .underway w course ->
        forall p, p ∈ course -> p.1.now = w.now

/-- The one limit that a draft refuses is no time at all.  A request has the last limit that
its draft was given and did not refuse, or else the last that its client was given; so it only
has no time if its client grants none and its draft was given none of its own.  Then no time
passes in its calls. -/
theorem given_time_unless_client_grants_none {clientSettings : List Client.Setting}
    {b : Client.Beginning} {d : Draft}
    (hbegin : (clientSettings.foldl Client.applyOrKeep .standard).begin b = .ok d)
    (settings : List Draft.Setting) :
    (forall (e : Draft) limit cause, e.apply (.timeout limit) = .error cause <->
      limit = .zero ∧ cause = .configuration .zeroTimeout) ∧
    forall r, (settings.foldl Draft.applyOrKeep d).build = .ok r ->
      r.timeout = (Draft.timeLimits settings).getLast?.or
        (Client.timeLimits clientSettings).getLast? ∧
      (r.timeout = some .zero <-> Draft.timeLimits settings = [] ∧
        (Client.timeLimits clientSettings).getLast? = some .zero) ∧
      (r.timeout = some .zero -> r.PassesNoTime) := by
  refine ⟨fun e limit cause => Draft.apply_timeout_eq_error_iff, fun r hbuild => ?_⟩
  have hlast : r.timeout = (Draft.timeLimits settings).getLast?.or
      (Client.timeLimits clientSettings).getLast? := by
    rw [Draft.timeout_of_build hbuild, Draft.timeout_outcome, Client.timeout_of_begin hbegin,
      Client.timeout_outcome]
    exact congrArg _ Option.or_none
  refine ⟨hlast, ?_, ?_⟩
  · rw [hlast, Option.or_eq_some_iff, List.getLast?_eq_none_iff]
    refine or_iff_right fun hzero => ?_
    exact Draft.ne_zero_of_mem_timeLimits (List.mem_of_getLast? hzero) rfl
  · intro hzero caller react hconduct clockStart nextConnection plot hops w course hlaunch p hp
    exact Session.now_of_no_time hconduct hzero hlaunch hp

/-!
### A client that grants no time
-/

def grudgingSettings : List Client.Setting := [.timeout (.ofSeconds 1 0), .timeout .zero]

def timelessSettings : List Draft.Setting := [.url "http://a.test", .timeout .zero]

def timelessRequest : Request :=
  { Session.plainRequest (some .zero) with headers := Client.standard.defaultHeaders }

theorem given_time_unless_client_grants_none_of_refused :
    exists d, (grudgingSettings.foldl Client.applyOrKeep .standard).begin .blank = .ok d ∧
      (timelessSettings.foldl Draft.applyOrKeep d).build = .ok timelessRequest ∧
      timelessRequest.PassesNoTime ∧
      exists r, ((.timeout (.ofSeconds 5 0) :: timelessSettings).foldl Draft.applyOrKeep d).build =
          .ok r ∧
        r.timeout = some (.ofSeconds 5 0) := by
  have hbegin : (grudgingSettings.foldl Client.applyOrKeep .standard).begin .blank =
      .ok { Client.standard.draft with timeout := some .zero } := rfl
  have hbuild : (timelessSettings.foldl Draft.applyOrKeep
      { Client.standard.draft with timeout := some .zero }).build = .ok timelessRequest := by
    decide +kernel
  have hlimited : ((.timeout (.ofSeconds 5 0) :: timelessSettings).foldl Draft.applyOrKeep
      { Client.standard.draft with timeout := some .zero }).build =
        .ok { timelessRequest with timeout := some (.ofSeconds 5 0) } := by
    decide +kernel
  have htimeless := (given_time_unless_client_grants_none hbegin timelessSettings).right _ hbuild
  have htimed := (given_time_unless_client_grants_none hbegin
    (.timeout (.ofSeconds 5 0) :: timelessSettings)).right _ hlimited
  exact ⟨_, hbegin, hbuild, htimeless.right.right rfl, _, hlimited, htimed.left⟩

/-- A client that was given no time at all as its limit, and a request that has it. -/
theorem no_time_from_client :
    exists c d, Client.standard.apply (.timeout .zero) = .ok c ∧
      c.begin (.request .get "http://a.test") = .ok d ∧ d.build = .ok timelessRequest ∧
      timelessRequest.timeout = some .zero := by
  refine ⟨_, { Client.standard.draft with
    url := some (Session.plainUrl "a.test"), timeout := some .zero }, rfl, ?_, rfl, rfl⟩
  decide +kernel

end Request
end HttpCall
