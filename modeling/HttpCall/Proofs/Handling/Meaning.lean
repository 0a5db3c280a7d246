import HttpCall.Proofs.Cookies.Lull
import HttpCall.Proofs.Redirect.Limit
import HttpCall.Proofs.Handling.Notices

/-!
# What a plan means

A plan is a list of notices and a conclusion: a redirect, or the release of the connection
with at most one outcome before it.  Each effect means something on its own, whatever stands
around it, and a plan means what its effects mean one after the other.  A handling comes to
just that, as long as its listeners return and leave the call alone.
-/

namespace HttpCall

namespace Effect

def isDecision : Effect -> Bool
  | follow _ _ | succeed _ | fail _ => true
  | _ => false

def cookie? : Effect -> Option Cookie
  | recordCookie k => some k
  | _ => none

end Effect

def Event.cookies : Event -> List Cookie
  | response r => r.headers.cookies
  | closed | error _ => []

/-!
## The shape of a plan
-/

namespace Plan

inductive IsConclusion : List Effect -> Prop where
  | follow (location : Url) (status : Status) : IsConclusion [.follow location status]
  | succeed (r : Response) : IsConclusion [.succeed r, .release]
  | fail (f : Failure) : IsConclusion [.fail f, .release]
  | release : IsConclusion [.release]

/-- The connection is given back at the very end, unless a redirect stands there; one
decision is taken at most, and nobody is told anything after it; and a redirect is followed
only if the call is pending and the request allows another one. -/
structure WellFormed (snapshot : Snapshot) (request : Request) (event : Event)
    (effects : List Effect) : Prop where
  release_last : forall before after, effects = before ++ .release :: after -> after = []
  release_missing : .release ∉ effects <->
    exists location status, effects.getLast? = some (.follow location status)
  one_decision : effects.countP Effect.isDecision <= 1
  decision_late : forall before decision after, effects = before ++ decision :: after ->
    decision.isDecision = true -> forall e, e ∈ after -> e.isNotice = false
  follow_allowed : forall location status, .follow location status ∈ effects ->
    snapshot.phase = .pending ∧ request.followRedirects = true ∧
      snapshot.redirects < request.maxRedirects
  cookies : effects.filterMap Effect.cookie? = event.cookies

variable {policy : Policy} {snapshot : Snapshot} {request : Request} {event : Event}
  {effects notices ending before after : List Effect} {effect : Effect} {r : Response}

theorem isConclusion_conclusion (r : Response) (location? : Option Url) :
    IsConclusion (conclusion r location?) := by
  cases location? with
  | none => exact .succeed r
  | some location => exact .follow location r.status

theorem eq_notices_append (h : plan policy snapshot request event = .ok effects) :
    exists notices ending, effects = notices ++ ending ∧
      (forall e, e ∈ notices -> e.isNotice = true) ∧ IsConclusion ending := by
  cases event with
  | response r =>
      rcases plan_response_eq_ok h with ⟨location?, _, hsplit⟩
      exact ⟨_, _, hsplit, fun _ => World.isNotice_of_mem_notices,
        isConclusion_conclusion r location?⟩
  | closed =>
      refine ⟨[], effects, rfl, fun _ he => absurd he List.not_mem_nil, ?_⟩
      cases h
      split
      · exact .fail .connectionClosed
      · exact .release
  | error e =>
      cases h
      refine ⟨[.notifyException e], _, rfl, ?_, .fail (.transport e.message)⟩
      intro effect he
      cases List.mem_singleton.mp he
      rfl

theorem mem_ending (hnotices : forall e, e ∈ notices -> e.isNotice = true)
    (heffect : effect.isNotice = false) (h : notices ++ ending = before ++ effect :: after) :
    exists more, ending = more ++ effect :: after := by
  rcases List.append_eq_append_iff.mp h with ⟨more, _, hending⟩ | ⟨more, hsplit, hrest⟩
  · exact ⟨more, hending⟩
  · cases more with
    | nil => exact ⟨[], hrest.symm⟩
    | cons e more =>
        cases hrest
        have hnotice := hnotices effect (hsplit ▸ by simp)
        rw [heffect] at hnotice
        cases hnotice

theorem IsConclusion.isNotice_eq_false (h : IsConclusion ending) {e : Effect} (he : e ∈ ending) :
    e.isNotice = false := by
  cases h <;> simp only [List.mem_cons, List.not_mem_nil, or_false] at he
  · cases he
    rfl
  · rcases he with rfl | rfl <;> rfl
  · rcases he with rfl | rfl <;> rfl
  · cases he
    rfl

theorem IsConclusion.release_last (h : IsConclusion ending)
    (hsplit : ending = before ++ .release :: after) : after = [] := by
  cases h <;> rcases before with _ | ⟨_, _ | ⟨_, before⟩⟩ <;> simp_all

theorem IsConclusion.release_missing (h : IsConclusion ending) (hrelease : .release ∉ notices) :
    .release ∉ notices ++ ending <->
      exists location status, (notices ++ ending).getLast? = some (.follow location status) := by
  cases h <;> simp [hrelease, List.getLast?_append]

theorem IsConclusion.one_decision (h : IsConclusion ending) :
    ending.countP Effect.isDecision <= 1 := by
  cases h <;> simp [List.countP_cons, Effect.isDecision]

theorem isDecision_eq_false (h : effect.isNotice = true) : effect.isDecision = false := by
  cases effect <;> first | rfl | cases h

theorem follow_allowed (h : plan policy snapshot request event = .ok effects) {location : Url}
    {status : Status} (hfollow : .follow location status ∈ effects) :
    snapshot.phase = .pending ∧ request.followRedirects = true ∧
      snapshot.redirects < request.maxRedirects := by
  have hlimit := (leads_of_plan h hfollow).lt_limit
  rcases leads_of_plan h hfollow with ⟨r, rfl, _, _⟩
  rcases plan_response_eq_ok h with ⟨location?, hdestination, rfl⟩
  have hpending : snapshot.phase = .pending := by
    cases location? with
    | some place =>
        exact (destination_eq_some.mp hdestination).left
    | none =>
        rcases List.mem_append.mp hfollow with hnotice | hconclusion
        · cases isTelling_of_mem_notices hnotice
        · simp [conclusion] at hconclusion
  unfold Request.limit at hlimit
  split at hlimit
  · rename_i hfollows
    exact ⟨hpending, hfollows, hlimit⟩
  · cases hlimit

theorem cookies_eq (h : plan policy snapshot request event = .ok effects) :
    effects.filterMap Effect.cookie? = event.cookies := by
  cases event with
  | response r =>
      rcases plan_response_eq_ok h with ⟨location?, _, rfl⟩
      have hnotices : (notices r).filterMap Effect.cookie? = r.headers.cookies := by
        rw [← cookiesOf_eq, notices, List.filterMap_cons_none rfl, List.filterMap_append,
          List.filterMap_map]
        simp [Function.comp_def, Effect.cookie?]
      have hconclusion : (conclusion r location?).filterMap Effect.cookie? = [] := by
        cases location? <;> rfl
      rw [List.filterMap_append, hnotices, hconclusion, List.append_nil]
      rfl
  | closed =>
      cases h
      split <;> rfl
  | error e =>
      cases h
      rfl

theorem wellFormed (h : plan policy snapshot request event = .ok effects) :
    WellFormed snapshot request event effects := by
  rcases eq_notices_append h with ⟨notices, ending, hsplit, hnotices, hending⟩
  have hrelease : .release ∉ notices := fun hmem => nomatch hnotices _ hmem
  have hdecisions : notices.countP Effect.isDecision = 0 :=
    List.countP_eq_zero.mpr fun e he => by simp [isDecision_eq_false (hnotices e he)]
  refine ⟨?_, ?_, ?_, ?_, fun _ _ => follow_allowed h, cookies_eq h⟩
  · intro before after hbefore
    rcases mem_ending hnotices rfl (hsplit ▸ hbefore) with ⟨more, hmore⟩
    exact hending.release_last hmore
  · rw [hsplit]
    exact hending.release_missing hrelease
  · rw [hsplit, List.countP_append, hdecisions, Nat.zero_add]
    exact hending.one_decision
  · intro before decision after hbefore hdecision e he
    have hnotice : decision.isNotice = false := by
      cases decision <;> first | rfl | cases hdecision
    rcases mem_ending hnotices hnotice (hsplit ▸ hbefore) with ⟨more, hmore⟩
    apply hending.isNotice_eq_false
    rw [hmore]
    simp [he]

end Plan

/-!
## The meaning of effects
-/

/-- What there is to see of a call while a plan is carried out: its record, what happened
so far, and how the handling ends. -/
structure Meaning where
  call : Call
  trace : List Entry
  step : Step

namespace Meaning

def tell (attached : Bool) (e : Entry) (m : Meaning) : Meaning :=
  if attached then { m with trace := m.trace ++ [e] } else m

def release (c : Connection) (m : Meaning) : Meaning := m.tell true (.released c)

def settle (c : Connection) (o : Outcome) (m : Meaning) : Meaning :=
  match m.call.settle? o with
  | some call => { m with call := call }.tell true (.settled (some c))
  | none => m

@[simp] theorem step_tell (attached : Bool) (e : Entry) (m : Meaning) :
    (m.tell attached e).step = m.step := by
  cases attached <;> rfl

@[simp] theorem call_tell (attached : Bool) (e : Entry) (m : Meaning) :
    (m.tell attached e).call = m.call := by
  cases attached <;> rfl

/-- What an effect means on its own.  A redirect of a call whose outcome is recorded means
the release. -/
def apply (listeners : Listeners) (c : Connection) (m : Meaning) : Effect -> Meaning
  | .notifyHeaders h => m.tell listeners.headers (.headers h)
  | .recordCookie k => { m with call := m.call.addCookie k }.tell listeners.cookie (.cookie k)
  | .notifyResponse r => m.tell listeners.response (.response r)
  | .notifyException e => m.tell listeners.exception (.exception e)
  | .follow location status =>
      match m.call.countRedirect? with
      | some call => { m with call := call, step := .redirect location status }
      | none => m.release c
  | .succeed r => m.settle c (.ok r)
  | .fail f => m.settle c (.error f)
  | .release => m.release c

theorem apply_notice {effect : Effect} (hnotice : effect.isNotice = true)
    (listeners : Listeners) (c : Connection) (m : Meaning) :
    (m.apply listeners c effect).step = m.step ∧
      (m.apply listeners c effect).call.outcome = m.call.outcome := by
  cases effect <;> first | simp [apply, Call.addCookie]; done | cases hnotice

theorem foldl_notices {notices : List Effect}
    (hnotices : forall e, e ∈ notices -> e.isNotice = true) (listeners : Listeners)
    (c : Connection) (m : Meaning) :
    (notices.foldl (apply listeners c) m).step = m.step ∧
      (notices.foldl (apply listeners c) m).call.outcome = m.call.outcome := by
  induction notices generalizing m with
  | nil =>
      exact ⟨rfl, rfl⟩
  | cons effect notices ih =>
      rcases apply_notice (hnotices effect List.mem_cons_self) listeners c m with
        ⟨hstep, houtcome⟩
      rcases ih (fun e he => hnotices e (List.mem_cons_of_mem effect he))
        (m.apply listeners c effect) with ⟨hstep', houtcome'⟩
      exact ⟨hstep'.trans hstep, houtcome'.trans houtcome⟩

structure Shown (m : Meaning) (w : World) : Prop where
  call : w.call = m.call
  trace : w.trace = m.trace

end Meaning

def Moment.isOfListener : Moment -> Bool
  | headers | cookie | response | exception => true
  | release | complete => false

namespace World

def meaning (w : World) (listeners : Listeners) (c : Connection) (effects : List Effect) :
    Meaning :=
  effects.foldl (Meaning.apply listeners c) ⟨w.call, w.trace, .done⟩

/-- Listeners return, and leave the call as it is; but they may ask for its result. -/
def Quiet (react : Reaction) : Prop :=
  forall m, m.isOfListener = true -> forall w,
    (react m w).2 = none ∧ (react m w).1.call = w.call ∧ (react m w).1.trace = w.trace

section

variable {caller : Caller} {react : Reaction} {listeners : Listeners} {c : Connection}
  {request : Request} {event : Event} {effects notices ending : List Effect}
  {m : Meaning} {v w : World}

theorem trace_note (w : World) {e : Entry} (h : e.isPoll = false) :
    (w.note e).trace = w.trace ++ [e] := by
  rw [trace, entries_note, List.filter_cons_of_pos (by simp [h]), List.reverse_cons]
  rfl

theorem Quiet.fireIf (h : Quiet react) {occasion : Moment}
    (hlistener : occasion.isOfListener = true) (attached : Bool) {e : Entry}
    (hpoll : e.isPoll = false) (hw : m.Shown w) :
    exists v, w.fireIf attached react occasion e = (v, none) ∧
      (m.tell attached e).Shown v := by
  cases attached with
  | false =>
      exact ⟨w, rfl, hw⟩
  | true =>
      rcases h occasion hlistener (w.note e) with ⟨hreturns, hcall, htrace⟩
      refine ⟨(react occasion (w.note e)).1, Prod.ext rfl hreturns, hcall.trans hw.call, ?_⟩
      rw [htrace, trace_note w hpoll, hw.trace]
      rfl

theorem Quiet.notice (h : Quiet react) (listeners : Listeners) (c : Connection)
    {effect : Effect} (hnotice : effect.isNotice = true) (hw : m.Shown w) :
    exists v, (m.apply listeners c effect).Shown v ∧
      forall rest first, perform react listeners c (effect :: rest) first w =
        perform react listeners c rest first v := by
  have htelling : forall {occasion : Moment} {attached : Bool} {e : Entry} {u : World}
      {n : Meaning}, occasion.isOfListener = true -> e.isPoll = false -> n.Shown u ->
      exists v, (n.tell attached e).Shown v ∧ forall rest first,
        afterListener react listeners c (perform react listeners c rest first)
          (u.fireIf attached react occasion e) = perform react listeners c rest first v := by
    intro occasion attached e u n hlistener hpoll hu
    rcases h.fireIf hlistener attached hpoll hu with ⟨v, hfire, hv⟩
    exact ⟨v, hv, fun rest first => by rw [hfire]; rfl⟩
  cases effect with
  | notifyHeaders headers =>
      exact htelling rfl rfl hw
  | recordCookie k =>
      exact htelling rfl rfl ⟨congrArg (Call.addCookie · k) hw.call, hw.trace⟩
  | notifyResponse r =>
      exact htelling rfl rfl hw
  | notifyException e =>
      rcases h.fireIf (show Moment.exception.isOfListener = true from rfl) listeners.exception
          (show (Entry.exception e).isPoll = false from rfl) hw with ⟨v, hfire, hv⟩
      refine ⟨v, hv, fun rest first => ?_⟩
      rw [perform, notifyException, hfire]
  | follow location status => cases hnotice
  | succeed r => cases hnotice
  | fail f => cases hnotice
  | release => cases hnotice

/-- Notices are carried out by doing what they mean. -/
theorem Quiet.perform (h : Quiet react) (listeners : Listeners) (c : Connection)
    (hnotices : forall e, e ∈ notices -> e.isNotice = true) (hw : m.Shown w) :
    exists v, (notices.foldl (Meaning.apply listeners c) m).Shown v ∧
      forall rest first, perform react listeners c (notices ++ rest) first w =
        perform react listeners c rest first v := by
  induction notices generalizing m w with
  | nil =>
      exact ⟨w, hw, fun _ _ => rfl⟩
  | cons effect notices ih =>
      rcases h.notice listeners c (hnotices effect List.mem_cons_self) hw with
        ⟨u, hu, heffect⟩
      rcases ih (fun e he => hnotices e (List.mem_cons_of_mem effect he)) hu with
        ⟨v, hv, hrest⟩
      refine ⟨v, hv, fun rest first => ?_⟩
      rw [List.cons_append, heffect, hrest]

/-- What carrying out a plan comes to: a redirect, or the world before a release; and the
flag tells whether an outcome was recorded on the way. -/
def ComesTo (c : Connection) (before : Option Outcome) (m : Meaning) : World × Ending -> Prop
  | (v, .follow location status) => m.Shown v ∧ m.step = .redirect location status
  | (v, .release first) => m.Shown (v.note (.released c)) ∧ m.step = .done ∧
      first = (before.isNone && m.call.outcome.isSome)

theorem shown_note (hw : m.Shown w) {e : Entry} (hpoll : e.isPoll = false) :
    (m.tell true e).Shown (w.note e) :=
  ⟨hw.call, by rw [trace_note w hpoll, hw.trace]; rfl⟩

theorem comesTo_settle (hw : m.Shown w) (hstep : m.step = .done) (o : Outcome) :
    ComesTo c m.call.outcome ((m.settle c o).release c)
      ((w.settle c o).1, .release (w.settle c o).2) := by
  unfold settle Meaning.settle
  rw [hw.call]
  cases houtcome : m.call.outcome with
  | some first =>
      simp only [Call.settle?, houtcome]
      exact ⟨shown_note hw rfl, hstep, by simp [Meaning.release, houtcome]⟩
  | none =>
      simp only [Call.settle?, houtcome]
      have hsettled : Meaning.Shown { m with call := { m.call with outcome := some o } }
          { w with call := { m.call with outcome := some o } } := ⟨rfl, hw.trace⟩
      exact ⟨shown_note (shown_note hsettled rfl) rfl, hstep, rfl⟩

theorem comesTo_ending (hending : Plan.IsConclusion ending) (hw : m.Shown w)
    (hstep : m.step = .done) :
    ComesTo c m.call.outcome (ending.foldl (Meaning.apply listeners c) m)
      (perform react listeners c ending false w) := by
  cases hending with
  | follow location status =>
      show ComesTo c m.call.outcome (m.apply listeners c (.follow location status)) _
      unfold perform Meaning.apply
      rw [hw.call]
      cases houtcome : m.call.outcome with
      | none =>
          simp only [Call.countRedirect?, houtcome]
          exact ⟨⟨rfl, hw.trace⟩, rfl⟩
      | some o =>
          simp only [Call.countRedirect?, houtcome]
          exact ⟨shown_note hw rfl, hstep, rfl⟩
  | succeed r =>
      exact comesTo_settle hw hstep (.ok r)
  | fail f =>
      exact comesTo_settle hw hstep (.error f)
  | release =>
      refine ⟨shown_note hw rfl, hstep, ?_⟩
      cases houtcome : m.call.outcome <;> simp [Meaning.apply, Meaning.release, houtcome]

theorem comesTo_plan (hreact : Quiet react) (listeners : Listeners) (c : Connection)
    (hplan : plan caller.policy w.call.snapshot request event = .ok effects) :
    ComesTo c w.call.outcome (w.meaning listeners c effects)
      (perform react listeners c effects false w) := by
  rcases Plan.eq_notices_append hplan with ⟨notices, ending, rfl, hnotices, hending⟩
  have hw : Meaning.Shown ⟨w.call, w.trace, .done⟩ w := ⟨rfl, rfl⟩
  rcases hreact.perform listeners c hnotices hw with ⟨v, hv, hperform⟩
  rcases Meaning.foldl_notices hnotices listeners c ⟨w.call, w.trace, .done⟩ with
    ⟨hstep, houtcome⟩
  rw [meaning, List.foldl_append, hperform, ← houtcome]
  exact comesTo_ending hending hv hstep

/-- A plan is well formed, unless the policy broke down while it was made; and a handling
comes to what its plan means, whatever the listeners do besides.  The connection is given
back at the end, and an outcome that was recorded on the way is published after that. -/
theorem plan_and_handle_agree (caller : Caller) (request : Request) (event : Event) :
    (forall snapshot,
      (exists fault r, event = .response r ∧ snapshot.phase = .pending ∧
        caller.policy r request snapshot.redirects = .error fault ∧
        plan caller.policy snapshot request event = .error fault) ∨
      exists effects, plan caller.policy snapshot request event = .ok effects ∧
        Plan.WellFormed snapshot request event effects) ∧
    forall (react : Reaction) (listeners : Listeners) (c : Connection) (w : World),
      Quiet react ->
      match plan caller.policy w.call.snapshot request event with
      | .error fault => w.handle caller react listeners c request event = (w, .error fault)
      | .ok effects =>
          exists v, (w.meaning listeners c effects).Shown v ∧
            w.handle caller react listeners c request event =
              match (w.meaning listeners c effects).step with
              | .redirect location status => (v, .ok (.redirect location status))
              | .done =>
                  ((react .release v).1.publishIf
                      (w.call.outcome.isNone &&
                        (w.meaning listeners c effects).call.outcome.isSome) caller react,
                    match (react .release v).2 with
                    | none => .ok .done
                    | some fault => .error fault) := by
  refine ⟨fun snapshot => ?_, fun react listeners c w hreact => ?_⟩
  · cases hplan : plan caller.policy snapshot request event with
    | ok effects => exact Or.inr ⟨effects, rfl, Plan.wellFormed hplan⟩
    | error fault =>
        rcases policy_of_plan_error hplan with ⟨r, hr, hpending, hpolicy⟩
        exact Or.inl ⟨fault, r, hr, hpending, hpolicy, rfl⟩
  · rcases handle_cases caller react listeners c request event w with
      ⟨fault, hplan, hhandle⟩ | ⟨effects, hplan, hends⟩
    · rw [hplan]
      exact hhandle
    · have hcomes := comesTo_plan hreact listeners c hplan
      rw [hplan]
      rcases hends with
        ⟨v, location, status, hperform, hhandle⟩ | ⟨v, first, hperform, hhandle⟩
      · rw [hperform] at hcomes
        rcases hcomes with ⟨hshown, hstep⟩
        refine ⟨v, hshown, ?_⟩
        rw [hhandle, hstep]
      · rw [hperform] at hcomes
        rcases hcomes with ⟨hshown, hstep, hfirst⟩
        refine ⟨v.note (.released c), hshown, ?_⟩
        rw [hhandle, hstep, hfirst]
        rfl

end
end World

theorem Caller.quiet_reaction {caller : Caller}
    (h : forall t, t ∈ caller.triggers -> t.moment.isOfListener = true ->
      forall a, a ∈ t.actions -> a = .poll) : World.Quiet caller.reaction := by
  have hact : forall (react : Reaction) (actions : List Action) (w : World),
      (forall a, a ∈ actions -> a = .poll) ->
      (w.act caller react actions).2 = none ∧
        (w.act caller react actions).1.call = w.call ∧
        (w.act caller react actions).1.trace = w.trace := by
    intro react actions
    induction actions with
    | nil =>
        intro w _
        exact ⟨rfl, rfl, rfl⟩
    | cons a rest ih =>
        intro w hpolls
        cases hpolls a List.mem_cons_self
        exact ih (w.note (.polled w.call.result?))
          fun b hb => hpolls b (List.mem_cons_of_mem _ hb)
  intro m hm w
  unfold reaction
  cases caller.triggers.length with
  | zero => exact ⟨rfl, rfl, rfl⟩
  | succ depth =>
      apply hact
      intro a ha
      rcases List.mem_flatMap.mp ha with ⟨t, ht, hat⟩
      rcases List.mem_filter.mp ht with ⟨hmem, hmoment⟩
      simp only [Bool.and_eq_true, decide_eq_true_eq] at hmoment
      exact h t hmem (hmoment.left ▸ hm) a hat

namespace Session

def curiousCaller : Caller where
  policy := .always (plainUrl "b.test") none
  triggers := [⟨.headers, 1, [.poll]⟩, ⟨.release, 1, [.poll]⟩]
  transform _ := .ok .null

def unannounced : World :=
  (World.settle (firstConnected (plainRequest none) 1 (plainHop 5)).1 none
    (.error .connectionClosed)).1

theorem plan_and_handle_agree_on_stale_redirect :
    World.Quiet curiousCaller.reaction ∧
      plan curiousCaller.policy unannounced.call.snapshot (plainRequest none)
          (.response plainResponse) =
        .ok [.notifyHeaders .empty, .notifyResponse plainResponse,
          .follow (plainUrl "b.test") .ok] ∧
      exists v, v.call = unannounced.call ∧
        v.trace = unannounced.trace ++
          [.headers .empty, .response plainResponse,
            .released ⟨1, (plainRequest none).target⟩] ∧
        World.handle curiousCaller curiousCaller.reaction .all
            ⟨1, (plainRequest none).target⟩ (plainRequest none) (.response plainResponse)
            unannounced =
          ((curiousCaller.reaction .release v).1, .ok .done) := by
  have hquiet : World.Quiet curiousCaller.reaction := by
    apply Caller.quiet_reaction
    decide
  have hagree := (World.plan_and_handle_agree curiousCaller (plainRequest none)
    (.response plainResponse)).right curiousCaller.reaction .all
    ⟨1, (plainRequest none).target⟩ unannounced hquiet
  refine ⟨hquiet, rfl, ?_⟩
  rcases hagree with ⟨v, hshown, hhandle⟩
  have hreturns : (curiousCaller.reaction .release v).2 = none :=
    Caller.release_returns (fun _ _ _ => ⟨_, rfl⟩) (by decide) v
  refine ⟨v, hshown.call, hshown.trace, hhandle.trans ?_⟩
  exact Prod.ext rfl (by rw [hreturns]; rfl)

end Session
end HttpCall
