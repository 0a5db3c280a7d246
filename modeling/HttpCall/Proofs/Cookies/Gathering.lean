import HttpCall.Proofs.Cookies.Lull

/-!
# What an event contributes

The handling of a response records its cookies one by one and tells of each of them.  It
goes through them all unless a listener breaks down, and records nothing after that.
Other events contribute no cookies.
-/

namespace HttpCall

namespace World

/-- The call is pending, the redirects and the cookies so far are counted and recorded, and
the cookies were told. -/
structure Collected (listeners : Listeners) (count : Nat) (cookies : List Cookie)
    (w : World) : Prop where
  told : w.CookiesTold listeners
  pending : w.call.outcome = none
  redirects : w.call.redirects = count
  cookies : w.call.cookies = cookies

end World

inductive Hearing (listeners : Listeners) (r : Response) :
    Moment -> Entry -> List Cookie -> Prop where
  | headers : listeners.headers = true -> Hearing listeners r .headers (.headers r.headers) []
  | cookie (before : List Cookie) (k : Cookie) (after : List Cookie) :
      listeners.cookie = true -> r.headers.cookies = before ++ k :: after ->
      Hearing listeners r .cookie (.cookie k) (before ++ [k])
  | response : listeners.response = true ->
      Hearing listeners r .response (.response r) r.headers.cookies

/-- `LastEvent caller react listeners q count w event o last` says how an event ends a call
with the outcome, after a number of redirects, and which cookies are recorded of it.  A
response ends it if the policy leads nowhere, or if a listener breaks down; nobody was told
of a response after that. -/
inductive LastEvent (caller : Caller) (react : Reaction) (listeners : Listeners)
    (q : Request) (count : Nat) (w : World) : Event -> Outcome -> List Cookie -> Prop where
  | answered (r : Response) :
      caller.policy.consult r q count = .ok none ->
      LastEvent caller react listeners q count w (.response r) (.ok r) r.headers.cookies
  | closed :
      LastEvent caller react listeners q count w .closed (.error .connectionClosed) []
  | failed (e : TransportError) :
      LastEvent caller react listeners q count w (.error e) (.error (.transport e.message)) []
  | brokeDown {r : Response} {m : Moment} {e : Entry} {recorded : List Cookie}
      {fault : Fault} (u : World) :
      Hearing listeners r m e recorded -> (react m (u.note e)).2 = some fault ->
      World.Lull True (u.note e) w ->
      LastEvent caller react listeners q count w (.response r)
        (.error (.transport (World.listenerError fault).message)) recorded

theorem LastEvent.lull {caller : Caller} {react : Reaction} {listeners : Listeners}
    {q : Request} {count : Nat} {event : Event} {o : Outcome} {last : List Cookie}
    {v w : World} (h : LastEvent caller react listeners q count v event o last)
    (hlull : World.Lull True v w) :
    LastEvent caller react listeners q count w event o last := by
  cases h with
  | answered r hconsult => exact .answered r hconsult
  | closed => exact .closed
  | failed e => exact .failed e
  | brokeDown u hhearing hfault hsince =>
      exact .brokeDown u hhearing hfault (hsince.trans hlull)

namespace World

/-- The event ended the call, and its cookies come after those before. -/
def Concluded (shows : Call -> Option Outcome) (caller : Caller) (react : Reaction)
    (listeners : Listeners) (q : Request) (count : Nat) (before : List Cookie)
    (event : Event) (w : World) : Prop :=
  w.CookiesTold listeners ∧ exists o last, shows w.call = some o ∧
    LastEvent caller react listeners q count w event o last ∧ w.call.cookies = before ++ last

def Followed (listeners : Listeners) (count : Nat) (before : List Cookie) (event : Event)
    (w : World) : Prop :=
  exists r, event = .response r ∧
    Collected listeners (count + 1) (before ++ r.headers.cookies) w

/-- What the effects of an event come to. -/
def Contributed (caller : Caller) (react : Reaction) (listeners : Listeners) (q : Request)
    (count : Nat) (before : List Cookie) (event : Event) : World × Ending -> Prop
  | (v, .follow _ _) => Followed listeners count before event v
  | (v, .release first) =>
      first = true ∧
        Concluded Call.outcome caller react listeners q count before event v

section Contributions

variable {caller : Caller} {react : Reaction} {listeners : Listeners} {q : Request}
  {count : Nat} {before cookies : List Cookie} {event : Event} {r : Response}
  {c : Connection} {v w : World}

theorem Collected.lull (h : Collected listeners count cookies v) (hlull : Lull False v w) :
    Collected listeners count cookies w where
  told := hlull.cookiesTold h.told
  pending := (hlull.pending.resolve_left id).trans h.pending
  redirects := hlull.redirects.trans h.redirects
  cookies := hlull.cookies.trans h.cookies

theorem Collected.note (h : Collected listeners count cookies w) {e : Entry}
    (he : e.cookie? = none) : Collected listeners count cookies (w.note e) where
  told := by
    have htold := h.told
    unfold CookiesTold World.tellings at htold ⊢
    rw [entries_note, List.filter_cons]
    split
    · rw [List.reverse_cons, List.filterMap_append, List.filterMap_cons_none he,
        List.filterMap_nil, List.append_nil]
      exact htold
    · exact htold
  pending := h.pending
  redirects := h.redirects
  cookies := h.cookies

theorem Collected.record (h : Collected listeners count cookies w) (k : Cookie) :
    Collected listeners count (cookies ++ [k])
      (if listeners.cookie then
        { w with call := w.call.addCookie k }.note (.cookie k)
      else { w with call := w.call.addCookie k }) := by
  have hrecorded : (w.call.addCookie k).cookies = cookies ++ [k] := by
    rw [← h.cookies]
    rfl
  have htold := h.told
  unfold CookiesTold at htold
  cases hcookie : listeners.cookie with
  | false =>
      rw [hcookie] at htold
      refine ⟨?_, h.pending, h.redirects, hrecorded⟩
      unfold CookiesTold
      rw [hcookie]
      exact htold
  | true =>
      rw [hcookie, h.cookies] at htold
      refine ⟨?_, h.pending, h.redirects, hrecorded⟩
      unfold CookiesTold
      rw [hcookie]
      have htellings : ({ w with call := w.call.addCookie k }.note (.cookie k)).tellings =
          w.tellings ++ [.cookie k] := by
        unfold World.tellings
        rw [entries_note, List.filter_cons_of_pos rfl, List.reverse_cons]
        rfl
      simp only [if_true] at htold ⊢
      rw [htellings, List.filterMap_append, htold, call_note, hrecorded]
      rfl

theorem Concluded.lull {shows : Call -> Option Outcome}
    (h : Concluded shows caller react listeners q count before event v)
    (hlull : Lull True v w)
    (hshows : forall o, shows v.call = some o -> shows w.call = some o) :
    Concluded shows caller react listeners q count before event w := by
  rcases h with ⟨htold, o, last, ho, hlast, hcookies⟩
  exact ⟨hlull.cookiesTold htold, o, last, hshows o ho, hlast.lull hlull,
    hlull.cookies.trans hcookies⟩

theorem Collected.outcome_settle (h : Collected listeners count cookies w)
    (held : Option Connection) (o : Outcome) :
    (w.settle held o).2 = true ∧ (w.settle held o).1.call.outcome = some o := by
  unfold World.settle Call.settle?
  rw [h.pending]
  exact ⟨rfl, rfl⟩

theorem Collected.settle {o : Outcome} {last : List Cookie}
    (h : Collected listeners count (before ++ last) w) (held : Option Connection)
    (hlast : LastEvent caller react listeners q count w event o last) :
    Contributed caller react listeners q count before event
      ((w.settle held o).1, .release (w.settle held o).2) := by
  have hlull : Lull True w (w.settle held o).1 :=
    (lull_drift True listeners).settle held ⟨trivial, Or.inl rfl⟩ w h.told
  rcases h.outcome_settle held o with ⟨hfirst, houtcome⟩
  exact ⟨hfirst, hlull.cookiesTold h.told, o, last, houtcome,
    hlast.lull hlull, hlull.cookies.trans h.cookies⟩

theorem Collected.notifyException (hreact : Relying caller listeners react)
    (h : Collected listeners count cookies w) (e : TransportError) :
    Lull False w (w.notifyException react listeners e) :=
  (lull_drift False listeners).notifyException (hreact.lull False) listeners e w h.told

theorem contributed_afterListener (hreact : Relying caller listeners react) {m : Moment}
    {e : Entry} {attached : Bool} {recorded : List Cookie} {next : World -> World × Ending}
    (hhearing : attached = true -> Hearing listeners r m e recorded)
    (hw : Collected listeners count (before ++ recorded) (if attached then w.note e else w))
    (hnext : forall v, Collected listeners count (before ++ recorded) v ->
      Contributed caller react listeners q count before (.response r) (next v)) :
    Contributed caller react listeners q count before (.response r)
      (afterListener react listeners c next (w.fireIf attached react m e)) := by
  cases attached with
  | false =>
      exact hnext w hw
  | true =>
      have hnoted : Collected listeners count (before ++ recorded) (w.note e) := hw
      have hlull : Lull False (w.note e) (react m (w.note e)).1 :=
        hreact.lull False m _ hnoted.told
      have hcollected := hnoted.lull hlull
      unfold fireIf fire
      rcases hresult : react m (w.note e) with ⟨v, _ | fault⟩
      · rw [hresult] at hcollected
        exact hnext v hcollected
      · rw [hresult] at hlull hcollected
        have hnotified := hcollected.notifyException hreact (listenerError fault)
        have hsince : Lull True (w.note e)
            (v.notifyException react listeners (listenerError fault)) :=
          (hlull.trans hnotified).allowing
        exact (hcollected.lull hnotified).settle c
          (.brokeDown w (hhearing rfl) (congrArg Prod.snd hresult) hsince)

theorem contributed_cookies (hreact : Relying caller listeners react) (rest : List Effect)
    (cookies : List Cookie) {earlier : List Cookie}
    (hall : r.headers.cookies = earlier ++ cookies)
    (hw : Collected listeners count (before ++ earlier) w)
    (hrest : forall v, Collected listeners count (before ++ r.headers.cookies) v ->
      Contributed caller react listeners q count before (.response r)
        (perform react listeners c rest false v)) :
    Contributed caller react listeners q count before (.response r)
      (perform react listeners c (cookies.map Effect.recordCookie ++ rest) false w) := by
  induction cookies generalizing earlier w with
  | nil =>
      rw [List.append_nil] at hall
      exact hrest w (hall ▸ hw)
  | cons k cookies ih =>
      have hrecorded := hw.record k
      rw [List.append_assoc] at hrecorded
      have hnext : r.headers.cookies = (earlier ++ [k]) ++ cookies := by
        rw [hall, List.append_assoc]
        rfl
      exact contributed_afterListener hreact
        (fun hcookie => .cookie earlier k cookies hcookie hall) hrecorded
        (fun v hv => ih hnext hv)

/-- A response contributes all its cookies and leads on or ends the call, unless a listener
breaks down. -/
theorem contributed_response (hreact : Relying caller listeners react)
    (hw : Collected listeners count before w) {location? : Option Url}
    (hconsult : caller.policy.consult r q count = .ok location?) :
    Contributed caller react listeners q count before (.response r)
      (perform react listeners c (Plan.notices r ++ Plan.conclusion r location?) false w) := by
  have hfinish : forall v, Collected listeners count (before ++ r.headers.cookies) v ->
      Contributed caller react listeners q count before (.response r)
        (perform react listeners c (Plan.conclusion r location?) false v) := by
    intro v hv
    cases location? with
    | none =>
        exact hv.settle c (.answered r hconsult)
    | some location =>
        have hcount : v.call.countRedirect? =
            some { v.call with redirects := v.call.redirects + 1 } := by
          simp only [Call.countRedirect?, hv.pending]
        unfold Plan.conclusion perform
        rw [hcount]
        exact ⟨r, rfl, hv.told, hv.pending, congrArg (· + 1) hv.redirects, hv.cookies⟩
  have hresponse : forall v, Collected listeners count (before ++ r.headers.cookies) v ->
      Contributed caller react listeners q count before (.response r)
        (perform react listeners c (.notifyResponse r :: Plan.conclusion r location?)
          false v) := by
    intro v hv
    refine contributed_afterListener hreact (fun hattached => .response hattached) ?_ hfinish
    split
    · exact hv.note rfl
    · exact hv
  have hcookies : forall v, Collected listeners count (before ++ []) v ->
      Contributed caller react listeners q count before (.response r)
        (perform react listeners c (r.headers.cookies.map Effect.recordCookie ++
          .notifyResponse r :: Plan.conclusion r location?) false v) :=
    fun v hv => contributed_cookies hreact _ _ rfl hv hresponse
  have heffects : Plan.notices r ++ Plan.conclusion r location? =
      .notifyHeaders r.headers :: (r.headers.cookies.map Effect.recordCookie ++
        .notifyResponse r :: Plan.conclusion r location?) := by
    rw [← Plan.cookiesOf_eq]
    simp [Plan.notices]
  rw [heffects]
  refine contributed_afterListener hreact (fun hattached => .headers hattached) ?_ hcookies
  rw [List.append_nil]
  split
  · exact hw.note rfl
  · exact hw

theorem contributed_perform (hreact : Relying caller listeners react)
    (hw : Collected listeners count before w) {effects : List Effect}
    (hplan : plan caller.policy w.call.snapshot q event = .ok effects) :
    Contributed caller react listeners q count before event
      (perform react listeners c effects false w) := by
  have hpending : w.call.snapshot.phase = .pending := by
    simp [Call.snapshot, Call.phase, Call.visible, hw.pending]
  have hnothing : Collected listeners count (before ++ []) w := by
    rw [List.append_nil]
    exact hw
  cases event with
  | closed =>
      simp only [plan, hpending, if_true] at hplan
      cases hplan
      exact hnothing.settle c .closed
  | error e =>
      cases hplan
      exact (hnothing.lull (hnothing.notifyException hreact e)).settle c (.failed e)
  | response r =>
      simp only [plan, Plan.destination, hpending, if_true] at hplan
      cases hconsult : caller.policy.consult r q w.call.snapshot.redirects with
      | error fault =>
          rw [hconsult] at hplan
          cases hplan
      | ok location? =>
          rw [hconsult] at hplan
          cases hplan
          have hcount : w.call.snapshot.redirects = count := hw.redirects
          rw [hcount] at hconsult
          exact contributed_response hreact hw hconsult

/-!
## Blocks of the loop
-/

theorem Concluded.ends (hreact : Relying caller listeners react)
    (h : Concluded Call.outcome caller react listeners q count before event v) :
    Concluded Call.visible caller react listeners q count before event
      ((v.release react c).1.publish caller react) := by
  have hback : Lull True v (v.release react c).1 :=
    (lull_drift True listeners).release (hreact.lull True) c v h.left
  have hreleased := h.lull hback hback.recorded
  have hlull : Lull True (v.release react c).1 ((v.release react c).1.publish caller react) :=
    (lull_drift True listeners).publish (hreact.lull True) ⟨trivial, Or.inr rfl⟩ _
      hreleased.left
  have hpublished := hreleased.lull hlull hlull.recorded
  rcases hreleased with ⟨htold, o, _, ho, _⟩
  rcases hpublished with ⟨htold', o', last, ho', hlast, hcookies⟩
  have hvisible := hreact.visible_publish htold ho
  cases (Call.visible_eq_some.mp hvisible).right.symm.trans ho'
  exact ⟨htold', o, last, hvisible, hlast, hcookies⟩

/-- What the handling of an event comes to. -/
theorem handle_collected (hreact : Relying caller listeners react) (c : Connection)
    (q : Request) (event : Event) (hw : Collected listeners count before w) :
    match w.handle caller react listeners c q event with
    | (v, .ok .done) => Concluded Call.visible caller react listeners q count before event v
    | (v, .ok (.redirect _ _)) => Followed listeners count before event v
    | (v, .error _) =>
        v = w ∨ Concluded Call.visible caller react listeners q count before event v := by
  unfold handle
  cases hplan : plan caller.policy w.call.snapshot q event with
  | error fault =>
      exact Or.inl rfl
  | ok effects =>
      have hperformed := contributed_perform (c := c) hreact hw hplan
      dsimp only
      rcases hresult : perform react listeners c effects false w with
        ⟨v, first | ⟨location, status⟩⟩
      · rw [hresult] at hperformed
        rcases hperformed with ⟨rfl, hconcluded⟩
        have hends := hconcluded.ends (c := c) hreact
        dsimp only
        rcases hreleased : v.release react c with ⟨x, _ | fault⟩
        · rw [hreleased] at hends
          exact hends
        · rw [hreleased] at hends
          exact Or.inr hends
      · rw [hresult] at hperformed
        exact hperformed

theorem onEvent_collected (hreact : Relying caller listeners react) (c : Connection)
    (hop : Nat) (q : Request) (event : Event) (hw : Collected listeners count before w) :
    match w.onEvent caller react listeners c hop q event with
    | (v, .over) => Concluded Call.visible caller react listeners q count before event v
    | (v, .acquiring _ _) => Followed listeners count before event v
    | (v, .lost _) =>
        v = w ∨ Concluded Call.visible caller react listeners q count before event v ∨
          Followed listeners count before event v
    | (_, .exchanging _ _ _) => False := by
  have hhandle := handle_collected hreact c q event hw
  unfold onEvent
  rcases hresult : w.handle caller react listeners c q event with
    ⟨v, fault | _ | ⟨location, status⟩⟩ <;> rw [hresult] at hhandle
  · dsimp only at hhandle ⊢
    exact hhandle.imp_right Or.inl
  · exact hhandle
  · rcases hhandle with ⟨r, hresponse, hcollected⟩
    have hreleased := hcollected.lull
      ((lull_drift False listeners).release (hreact.lull False) c v hcollected.told)
    dsimp only
    unfold releaseThen
    rcases hrelease : v.release react c with ⟨x, _ | fault⟩ <;> rw [hrelease] at hreleased
    · exact ⟨r, hresponse, hreleased⟩
    · exact Or.inr (Or.inr ⟨r, hresponse, hreleased⟩)

theorem onUnavailable_collected (hreact : Relying caller listeners react)
    (e : TransportError) (hw : Collected listeners count cookies w) :
    (w.onUnavailable caller react listeners e).1.CookiesTold listeners ∧
      (w.onUnavailable caller react listeners e).1.call.visible =
        some (.error (.transport e.message)) ∧
      (w.onUnavailable caller react listeners e).1.call.cookies = cookies := by
  have hlull : Lull True w (w.onUnavailable caller react listeners e).1 :=
    (lull_drift True listeners).onUnavailable (hreact.lull True)
      (fun _ => ⟨trivial, Or.inl rfl⟩) ⟨trivial, Or.inr rfl⟩ listeners e w hw.told
  refine ⟨hlull.cookiesTold hw.told, ?_, hlull.cookies.trans hw.cookies⟩
  have hnotified := hw.lull (hw.notifyException hreact e)
  have hsettled := (lull_drift True listeners).settle none
    (o := .error (.transport e.message)) ⟨trivial, Or.inl rfl⟩ _ hnotified.told
  rcases hnotified.outcome_settle none (.error (.transport e.message)) with
    ⟨hfirst, houtcome⟩
  unfold onUnavailable
  dsimp only
  rw [hfirst]
  exact hreact.visible_publish (hsettled.cookiesTold hnotified.told) houtcome

end Contributions
end World
end HttpCall
