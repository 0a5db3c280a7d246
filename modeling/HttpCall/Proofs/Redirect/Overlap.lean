import HttpCall.Proofs.Redirect.HopBound

/-!
# Handlings that overlap

The count of redirects is compared with the limit when a handling begins, and raised when
its redirect is followed.  Between the two, other handlings may do the same, and each of
them has been promised the same place below the limit.  So the count may exceed the limit
by as many redirects as there were handlings beside one at the same time, and it does so
if all of them are followed.
-/

namespace HttpCall

def Effect.isFollow : Effect -> Bool
  | follow _ _ => true
  | _ => false

namespace Progress

def mayFollow : Progress -> Bool
  | doing rest _ | calling rest _ => rest.any Effect.isFollow
  | _ => false

theorem toNat_mayFollow_step (fault? : Option Fault) (c : Call) (p : Progress) :
    (if (p.step fault? c).1.isCount && c.countRedirect?.isSome then 1 else 0) +
      (p.step fault? c).2.mayFollow.toNat <= p.mayFollow.toNat := by
  cases p with
  | doing effects first =>
      cases effects with
      | nil =>
          exact Nat.le_refl 0
      | cons effect rest =>
          cases effect with
          | follow location status =>
              cases hcount : c.countRedirect? <;>
                simp [step, hcount, mayFollow, Access.isCount, Effect.isFollow]
          | notifyHeaders _ => exact Nat.le_of_eq (Nat.zero_add _)
          | recordCookie _ => exact Nat.le_of_eq (Nat.zero_add _)
          | notifyResponse _ => exact Nat.le_of_eq (Nat.zero_add _)
          | notifyException _ => exact Nat.le_of_eq (Nat.zero_add _)
          | succeed _ => exact Nat.le_of_eq (Nat.zero_add _)
          | fail _ => exact Nat.le_of_eq (Nat.zero_add _)
          | release => exact Nat.zero_le _
  | calling rest first =>
      cases fault? with
      | none => exact Nat.le_of_eq (Nat.zero_add _)
      | some fault => exact Nat.zero_le _
  | failing fault => exact Nat.le_refl 0
  | returning first => exact Nat.le_refl 0
  | leaving first broken =>
      cases first <;> cases broken <;> exact Nat.le_refl 0
  | ended step => exact Nat.le_refl 0
  | broken fault => exact Nat.le_refl 0

theorem countP_mayFollow (before after : List Progress) (p : Progress) :
    (before ++ p :: after).countP mayFollow =
      before.countP mayFollow + after.countP mayFollow + p.mayFollow.toNat := by
  rw [List.countP_append, List.countP_cons, Nat.add_assoc]
  cases p.mayFollow <;> rfl

end Progress

namespace Scene

/-- The number of handlings that may yet follow a redirect. -/
def following (s : Scene) : Nat := s.runs.countP Progress.mayFollow

/-- What began between two scenes was planned on the call as it was, for a request with the
limit; or it follows no redirect. -/
def Begun (limit : Nat) (s t : Scene) : Prop :=
  forall effects first, t.runs = s.runs ++ [.doing effects first] ->
    effects.any Effect.isFollow = true ->
    exists policy request event, Request.limit request = limit ∧
      plan policy s.call.snapshot request event = .ok effects

/-- Scenes that handlings for requests with the limit come to, if no more of them than a
width may follow a redirect at any time. -/
inductive Overlapping (limit width : Nat) : Scene -> Prop where
  | opening : Overlapping limit width .opening
  | step {s t : Scene} {a : Access} :
      Overlapping limit width s -> Step s a t -> Begun limit s t -> t.following <= width ->
      Overlapping limit width t

section

variable {limit width : Nat} {s t : Scene} {a : Access}

theorem Begun.lt_limit {effects : List Effect} {first : Bool} (h : Begun limit s t)
    (hruns : t.runs = s.runs ++ [.doing effects first])
    (hfollow : effects.any Effect.isFollow = true) : s.call.redirects < limit := by
  rcases h effects first hruns hfollow with ⟨policy, request, event, rfl, hplan⟩
  rcases List.any_eq_true.mp hfollow with ⟨effect, hmem, hisFollow⟩
  cases effect with
  | follow location status => exact (leads_of_plan hplan hmem).lt_limit
  | notifyHeaders _ => cases hisFollow
  | recordCookie _ => cases hisFollow
  | notifyResponse _ => cases hisFollow
  | notifyException _ => cases hisFollow
  | succeed _ => cases hisFollow
  | fail _ => cases hisFollow
  | release => cases hisFollow

/-- What is counted and what is promised exceeds the limit no more than handlings
overlap. -/
theorem Step.counted_add_following (hstep : Step s a t) (hbegun : Begun limit s t)
    (hwidth : t.following <= width)
    (h : s.call.redirects + s.following <= limit + (width - 1)) :
    t.call.redirects + t.following <= limit + (width - 1) := by
  cases hstep with
  | handle c runs policy snapshot request event effects hplan =>
      unfold following at h hwidth ⊢
      rw [List.countP_append] at hwidth ⊢
      cases hfollow : effects.any Effect.isFollow with
      | false =>
          have hnone : [Progress.doing effects false].countP Progress.mayFollow = 0 := by
            simp [Progress.mayFollow, hfollow]
          rw [hnone]
          exact h
      | true =>
          have hbelow : c.redirects < limit := hbegun.lt_limit rfl hfollow
          have hone : [Progress.doing effects false].countP Progress.mayFollow = 1 := by
            simp [Progress.mayFollow, hfollow]
          rw [hone] at hwidth ⊢
          dsimp only
          omega
  | giveUp c runs failure =>
      unfold following
      rw [List.countP_append]
      exact h
  | advance c before after p fault? =>
      have hp := p.toNat_mayFollow_step fault? c
      have hcount := Call.redirects_access c (p.step fault? c).1
      unfold following at h ⊢
      rw [Progress.countP_mayFollow] at h ⊢
      dsimp only at h ⊢
      omega
  | register c runs hook =>
      have hcount := Call.redirects_access c (.register hook)
      exact Nat.le_trans (Nat.le_of_eq (congrArg (· + _) hcount)) h
  | observe s =>
      exact h

theorem Overlapping.counted_add_following (h : Overlapping limit width s) :
    s.call.redirects + s.following <= limit + (width - 1) := by
  induction h with
  | opening =>
      exact Nat.zero_le _
  | step _ hstep hbegun hwidth ih =>
      exact hstep.counted_add_following hbegun hwidth ih

theorem Overlapping.following_le (h : Overlapping limit width s) :
    s.following <= width := by
  cases h with
  | opening => exact Nat.zero_le _
  | step _ _ _ hwidth => exact hwidth

theorem Overlapping.advance {c : Call} {before after : List Progress} {p : Progress}
    (h : Overlapping limit width ⟨c, before ++ p :: after⟩) :
    Overlapping limit width
      ⟨c.access (p.step none c).1, before ++ (p.step none c).2 :: after⟩ := by
  refine h.step (.advance c before after p none) ?_ ?_
  · intro effects first hruns
    have hlengths := congrArg List.length hruns
    simp at hlengths
  · have hp := p.toNat_mayFollow_step none c
    have hbefore := h.following_le
    unfold following at hbefore ⊢
    rw [Progress.countP_mayFollow] at hbefore ⊢
    omega

end

/-!
## All promises are kept
-/

def promise (location : Url) (r : Response) : List Effect :=
  [.notifyHeaders r.headers, .notifyResponse r, .follow location r.status]

def crowded (location : Url) (r : Response) (counted promised : Nat) : Scene where
  call := { Call.fresh with redirects := counted }
  runs := List.replicate counted (.ended (.redirect location r.status)) ++
    List.replicate promised (.doing (promise location r) false)

section

variable {limit width counted promised : Nat} {location : Url} {r : Response}

theorem plan_promise {request : Request} (location : Url) (promised : Nat)
    (hcookies : r.setCookies = []) (hlimit : counted < request.limit) :
    plan (.always location none) (crowded location r counted promised).call.snapshot request
      (.response r) = .ok (promise location r) :=
  plan_always location hcookies rfl hlimit

theorem following_crowded (location : Url) (r : Response) (counted promised : Nat) :
    (crowded location r counted promised).following = promised := by
  have hpast : Progress.mayFollow (.ended (.redirect location r.status)) = false := rfl
  have hpromise : Progress.mayFollow (.doing (promise location r) false) = true := rfl
  simp [following, crowded, List.countP_append, List.countP_replicate, hpast, hpromise]

theorem Overlapping.promise
    (h : Overlapping limit width (crowded location r counted promised))
    (hcookies : r.setCookies = []) (hlimit : counted < limit) (hwidth : promised < width) :
    Overlapping limit width (crowded location r counted (promised + 1)) := by
  have hrequest : (Session.cappedRequest limit).limit = limit := rfl
  have hplan := plan_promise location promised hcookies (hrequest ▸ hlimit)
  have hruns : crowded location r counted (promised + 1) =
      ⟨(crowded location r counted promised).call,
        (crowded location r counted promised).runs ++
          [.doing (Scene.promise location r) false]⟩ := by
    simp only [crowded, List.replicate_succ', List.append_assoc]
  rw [hruns]
  refine h.step (.handle _ _ _ _ (Session.cappedRequest limit) (.response r) _ hplan) ?_ ?_
  · intro effects first hbegun _
    cases List.append_cancel_left hbegun
    exact ⟨_, Session.cappedRequest limit, .response r, hrequest, hplan⟩
  · rw [← hruns, following_crowded]
    exact hwidth

theorem Overlapping.keep
    (h : Overlapping limit width (crowded location r counted (promised + 1))) :
    Overlapping limit width (crowded location r (counted + 1) promised) := by
  have hruns : crowded location r (counted + 1) promised =
      ⟨{ Call.fresh with redirects := counted + 1 },
        List.replicate counted (.ended (.redirect location r.status)) ++
          .ended (.redirect location r.status) ::
            List.replicate promised (.doing (Scene.promise location r) false)⟩ := by
    simp [crowded, List.replicate_succ']
  rw [hruns]
  exact h.advance.advance.advance.advance.advance

theorem Overlapping.promise_all
    (h : Overlapping limit width (crowded location r counted 0))
    (hcookies : r.setCookies = []) (hlimit : counted < limit) (hwidth : promised <= width) :
    Overlapping limit width (crowded location r counted promised) := by
  induction promised with
  | zero =>
      exact h
  | succ promised ih =>
      exact (ih (Nat.le_of_succ_le hwidth)).promise hcookies hlimit hwidth

theorem Overlapping.keep_all
    (h : Overlapping limit width (crowded location r counted promised)) :
    Overlapping limit width (crowded location r (counted + promised) 0) := by
  induction promised generalizing counted with
  | zero =>
      exact h
  | succ promised ih =>
      rw [Nat.add_comm promised, ← Nat.add_assoc]
      exact ih h.keep

theorem Overlapping.of_le (location : Url) (hcookies : r.setCookies = [])
    (hwidth : 0 < width) (hlimit : counted <= limit) :
    Overlapping limit width (crowded location r counted 0) := by
  induction counted with
  | zero =>
      exact .opening
  | succ counted ih =>
      exact ((ih (Nat.le_of_succ_le hlimit)).promise hcookies hlimit hwidth).keep

def plainResponse : Response := ⟨.ok, .http11, .empty, [], Session.plainUrl "a.test"⟩

/-- As many redirects may be counted beyond the limit as handlings run beside one. -/
theorem exists_overlapping (hlimit : 0 < limit) (hwidth : 0 < width) :
    exists s, Overlapping limit width s ∧ s.call.redirects = limit + (width - 1) := by
  have hcookies : plainResponse.setCookies = [] := rfl
  have hbelow : limit - 1 < limit := Nat.sub_one_lt_of_lt hlimit
  have hlast := Overlapping.of_le plainResponse.url hcookies hwidth (Nat.le_of_lt hbelow)
  refine ⟨_, (hlast.promise_all hcookies hbelow (Nat.le_refl width)).keep_all, ?_⟩
  show limit - 1 + width = limit + (width - 1)
  omega

end
end Scene

/-!
## Handlings in a row
-/

namespace World

variable {caller : Caller} {react : Reaction}

theorem redirects_handle_le (hconduct : Conduct caller False react) (listeners : Listeners)
    (c : Connection) (q : Request) (event : Event) (w : World) :
    (w.handle caller react listeners c q event).1.call.redirects <=
      max w.call.redirects q.limit := by
  have hhandled := (steady_outline caller hconduct.steady c w).handled listeners q event
    ((steady_drift False).refl w)
  rcases hresult : w.handle caller react listeners c q event with
    ⟨v, fault | _ | ⟨location, status⟩⟩ <;> rw [hresult] at hhandled
  · rcases hhandled with rfl | hended
    · exact Nat.le_max_left _ _
    · exact Nat.le_trans (Nat.le_of_eq (hended.alone id)) (Nat.le_max_left _ _)
  · exact Nat.le_trans (Nat.le_of_eq (hhandled.alone id)) (Nat.le_max_left _ _)
  · have hleads : event.Leads caller.policy q w.call.redirects location status :=
      leads_of_handle (congrArg Prod.snd hresult)
    have hcounted : v.call.redirects = w.call.redirects + 1 :=
      hhandled.alone id
    rw [hcounted]
    exact Nat.le_trans hleads.lt_limit (Nat.le_max_right _ _)

def handleAll (caller : Caller) (react : Reaction) (listeners : Listeners) (q : Request)
    (runs : List (Connection × Event)) (w : World) : World :=
  runs.foldl (fun v run => (v.handle caller react listeners run.1 q run.2).1) w

theorem redirects_handleAll_le (hconduct : Conduct caller False react)
    (listeners : Listeners) (q : Request) (runs : List (Connection × Event)) (w : World) :
    (w.handleAll caller react listeners q runs).call.redirects <=
      max w.call.redirects q.limit := by
  induction runs generalizing w with
  | nil =>
      exact Nat.le_max_left _ _
  | cons run rest ih =>
      have hfirst := redirects_handle_le hconduct listeners run.1 q run.2 w
      exact Nat.le_trans (ih _) (Nat.max_le.mpr ⟨hfirst, Nat.le_max_right _ _⟩)

end World

namespace Session

/-- The count of redirects exceeds the limit by no more than the handlings that run beside
one, and may exceed it by as many.  So the limit holds if each handling ends before the
next begins and user code handles no event on the way. -/
theorem limit_holds_but_for_overlap (limit width : Nat) :
    (forall s, Scene.Overlapping limit width s ->
      s.call.redirects <= limit + (width - 1)) ∧
    (0 < limit -> 0 < width ->
      exists s, Scene.Overlapping limit width s ∧
        s.call.redirects = limit + (width - 1)) ∧
    forall (caller : Caller) (react : Reaction), World.Conduct caller False react ->
      forall listeners (q : Request) runs (w : World), q.limit = limit ->
        (w.handleAll caller react listeners q runs).call.redirects <=
          max w.call.redirects limit := by
  refine ⟨?_, ?_, ?_⟩
  · intro s hoverlapping
    exact Nat.le_trans (Nat.le_add_right _ _) hoverlapping.counted_add_following
  · intro hlimit hwidth
    exact Scene.exists_overlapping hlimit hwidth
  · rintro caller react hconduct listeners q runs w rfl
    exact World.redirects_handleAll_le hconduct listeners q runs w

theorem limit_holds_but_for_overlap_of_two :
    (forall s, Scene.Overlapping 1 1 s -> s.call.redirects <= 1) ∧
      exists s, Scene.Overlapping 1 2 s ∧ s.call.redirects = 2 :=
  ⟨(limit_holds_but_for_overlap 1 1).left,
    (limit_holds_but_for_overlap 1 2).right.left Nat.one_pos Nat.two_pos⟩

/-- A headers listener handles a redirect for the same call, while the handling that called
it has been promised the only redirect of the request. -/
theorem limit_exceeded_in_listener :
    exists w, w ∈ (launch endlessCaller endlessCaller.reaction 0 1 plainPlot
      (cappedRequest 1) [plainHop 5, plainHop 7]).worlds ∧
        w.call.redirects = 2 := by
  have hlast : (launch endlessCaller endlessCaller.reaction 0 1 plainPlot
      (cappedRequest 1) [plainHop 5, plainHop 7]).worlds.getLast?.map (fun w => w.call.redirects) =
        some 2 := by
    decide +kernel
  rcases Option.map_eq_some_iff.mp hlast with ⟨w, hw, heq⟩
  exact ⟨w, List.mem_of_getLast? hw, heq⟩

end Session
end HttpCall
