import HttpCall.Proofs.Call.Nesting
import HttpCall.Proofs.Trace.Telling
import HttpCall.Redirect.NextHop

/-!
# What a followed redirect tells

A handling that follows a redirect was given a response, and the policy was asked about it:
the request follows redirects, and fewer than its limit were counted when the handling
began.  The redirect is counted by then, besides those that others followed meanwhile.
-/

namespace HttpCall

/-- The number of redirects that a request may follow. -/
def Request.limit (r : Request) : Nat := if r.followRedirects then r.maxRedirects else 0

theorem Policy.of_consult {policy : Policy} {response : Response} {request : Request}
    {count : Nat} {location : Url}
    (h : policy.consult response request count = .ok (some location)) :
    count < request.limit ∧ policy response request count = .ok (some location) := by
  unfold consult at h
  split at h
  · cases h
  · rename_i hasked
    simp only [Bool.or_eq_true, Bool.not_eq_true', decide_eq_true_eq, not_or,
      Bool.not_eq_false, Nat.not_le] at hasked
    unfold Request.limit
    rw [if_pos hasked.left]
    exact ⟨hasked.right, h⟩

theorem Policy.consult_always {request : Request} {count : Nat} (location : Url)
    (response : Response) (hlimit : count < request.limit) :
    (Policy.always location none).consult response request count = .ok (some location) := by
  have hasked : request.followRedirects = true ∧ count < request.maxRedirects := by
    unfold Request.limit at hlimit
    split at hlimit
    · exact ⟨‹_›, hlimit⟩
    · exact absurd hlimit (Nat.not_lt_zero _)
  unfold consult
  rw [if_neg (by simp [hasked])]
  rfl

theorem plan_always {snapshot : Snapshot} {request : Request} {response : Response}
    (location : Url) (hcookies : response.setCookies = []) (hpending : snapshot.phase = .pending)
    (hlimit : snapshot.redirects < request.limit) :
    plan (.always location none) snapshot request (.response response) =
      .ok [.notifyHeaders response.headers, .notifyResponse response,
        .follow location response.status] := by
  have hdestination : Plan.destination (.always location none) snapshot request response =
      .ok (some location) := by
    unfold Plan.destination
    rw [if_pos hpending, Policy.consult_always location response hlimit]
  simp [plan, hdestination, Plan.notices, Plan.cookiesOf, hcookies, Plan.conclusion,
    Except.map]

/-- The event is a response that leads to the place, after a number of redirects. -/
def Event.Leads (policy : Policy) (request : Request) (count : Nat) (location : Url)
    (status : Status) (event : Event) : Prop :=
  exists response, event = .response response ∧ status = response.status ∧
    policy.consult response request count = .ok (some location)

theorem Event.Leads.lt_limit {policy : Policy} {request : Request} {count : Nat}
    {location : Url} {status : Status} {event : Event}
    (h : event.Leads policy request count location status) : count < request.limit := by
  rcases h with ⟨response, _, _, hconsult⟩
  exact (Policy.of_consult hconsult).left

theorem leads_of_plan {policy : Policy} {snapshot : Snapshot} {request : Request}
    {event : Event} {effects : List Effect} {location : Url} {status : Status}
    (hplan : plan policy snapshot request event = .ok effects)
    (hfollow : .follow location status ∈ effects) :
    event.Leads policy request snapshot.redirects location status := by
  cases event with
  | closed =>
      simp only [plan, Except.ok.injEq] at hplan
      rw [← hplan] at hfollow
      split at hfollow <;> simp at hfollow
  | error e =>
      simp only [plan, Except.ok.injEq] at hplan
      rw [← hplan] at hfollow
      simp at hfollow
  | response response =>
      simp only [plan] at hplan
      cases hdestination : Plan.destination policy snapshot request response with
      | error fault =>
          rw [hdestination] at hplan
          cases hplan
      | ok location? =>
          rw [hdestination] at hplan
          cases hplan
          rcases List.mem_append.mp hfollow with hnotice | hconclusion
          · cases Plan.isTelling_of_mem_notices hnotice
          · cases location? with
            | none =>
                simp [Plan.conclusion] at hconclusion
            | some destination =>
                cases List.mem_singleton.mp hconclusion
                refine ⟨response, rfl, rfl, ?_⟩
                unfold Plan.destination at hdestination
                split at hdestination
                · exact hdestination
                · cases hdestination

namespace World

section

variable {caller : Caller} {react : Reaction} {listeners : Listeners} {c : Connection}
  {location : Url} {status : Status} {w : World}

theorem follow_mem_of_perform {effects : List Effect} {first : Bool}
    (h : (perform react listeners c effects first w).2 = .follow location status) :
    .follow location status ∈ effects := by
  have hlater : forall {rest : List Effect} {first : Bool} (p : World × Option Fault),
      (forall v, (perform react listeners c rest first v).2 = .follow location status ->
        .follow location status ∈ rest) ->
      (afterListener react listeners c (perform react listeners c rest first) p).2 =
        .follow location status ->
      .follow location status ∈ rest := by
    rintro rest first ⟨v, _ | fault⟩ hrest hfollow
    · exact hrest v hfollow
    · cases hfollow
  induction effects generalizing first w with
  | nil =>
      cases h
  | cons effect rest ih =>
      have hrest : forall {first : Bool} (v : World),
          (perform react listeners c rest first v).2 = .follow location status ->
          .follow location status ∈ rest := fun v hv => ih hv
      cases effect with
      | follow destination found =>
          unfold perform at h
          split at h
          · cases h
            exact List.mem_cons_self
          · cases h
      | release =>
          cases h
      | notifyHeaders _ =>
          exact List.mem_cons_of_mem _ (hlater _ hrest h)
      | recordCookie _ =>
          exact List.mem_cons_of_mem _ (hlater _ hrest h)
      | notifyResponse _ =>
          exact List.mem_cons_of_mem _ (hlater _ hrest h)
      | notifyException _ =>
          exact List.mem_cons_of_mem _ (hrest _ h)
      | succeed _ =>
          exact List.mem_cons_of_mem _ (hrest _ h)
      | fail _ =>
          exact List.mem_cons_of_mem _ (hrest _ h)

/-- A handling follows a redirect only if the event led there when it began. -/
theorem leads_of_handle {request : Request} {event : Event}
    (h : (w.handle caller react listeners c request event).2 = .ok (.redirect location status)) :
    event.Leads caller.policy request w.call.redirects location status := by
  unfold handle at h
  split at h
  · cases h
  · rename_i effects hplan
    split at h
    · rename_i v destination found hperform
      cases h
      exact leads_of_plan hplan (follow_mem_of_perform (congrArg Prod.snd hperform))
    · split at h <;> cases h

theorem leads_of_onEvent {hop n : Nat} {request r : Request} {event : Event}
    (h : (w.onEvent caller react listeners c hop request event).2 = .acquiring n r) :
    exists location status, r = request.redirected location status ∧
      event.Leads caller.policy request w.call.redirects location status := by
  unfold onEvent at h
  split at h
  · cases h
  · rename_i v location status hhandle
    rw [releaseThen_eq] at h
    cases hfault : (v.release react c).2 with
    | some fault =>
        rw [hfault] at h
        cases h
    | none =>
        rw [hfault] at h
        cases h
        exact ⟨location, status, rfl, leads_of_handle (congrArg Prod.snd hhandle)⟩
  · cases h

end
end World
end HttpCall
