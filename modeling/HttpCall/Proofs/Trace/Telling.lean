import HttpCall.Proofs.Handling.Course
import HttpCall.Proofs.Trace.Segment

/-!
# What listeners are told

Of a response they are told its headers, its cookies and all of it, in this order; of an
error, the error.  Whatever the event of a hop is, the handling of a live call adds one of
a few segments to the trace: listeners are told, one of them may break down, and unless a
redirect is followed, the outcome is recorded, the connection is given back, and the
outcome is published.
-/

namespace HttpCall

namespace Listeners

def told (listeners : Listeners) (r : Response) : List Entry :=
  (if listeners.headers then [.headers r.headers] else []) ++
    ((if listeners.cookie then
        ((r.headers.values .setCookie).filterMap fun v => v.text?.bind Cookie.parse?).map
          Entry.cookie
      else []) ++
    if listeners.response then [.response r] else [])

def raised (listeners : Listeners) (e : TransportError) : List Entry :=
  if listeners.exception then [.exception e] else []

end Listeners

/-- The last that listeners are told on a hop, and the outcome that is recorded then. -/
inductive LastWords (listeners : Listeners) : List Entry -> Outcome -> Prop where
  | answered (r : Response) : LastWords listeners (listeners.told r) (.ok r)
  | closed : LastWords listeners [] (.error .connectionClosed)
  | failed (e : TransportError) :
      LastWords listeners (listeners.raised e) (.error (.transport e.message))
  | brokeDown (r : Response) (words : List Entry) (fault : Fault) :
      words <+: listeners.told r -> words ≠ [] ->
      LastWords listeners (words ++ listeners.raised (World.listenerError fault))
        (.error (.transport (World.listenerError fault).message))

/-!
## Effects on listeners
-/

def Effect.isTelling : Effect -> Bool
  | .notifyHeaders _ | .recordCookie _ | .notifyResponse _ => true
  | _ => false

theorem Plan.isTelling_of_mem_notices {r : Response} {e : Effect} (he : e ∈ notices r) :
    e.isTelling = true := by
  unfold notices at he
  rcases List.mem_cons.mp he with rfl | he
  · rfl
  · rcases List.mem_append.mp he with he | he
    · rcases List.mem_map.mp he with ⟨k, _, rfl⟩
      rfl
    · cases List.mem_singleton.mp he
      rfl

def Effect.heard (listeners : Listeners) : Effect -> List Entry
  | .notifyHeaders h => if listeners.headers then [.headers h] else []
  | .recordCookie k => if listeners.cookie then [.cookie k] else []
  | .notifyResponse r => if listeners.response then [.response r] else []
  | _ => []

theorem Effect.heard_cookies (listeners : Listeners) (cookies : List Cookie) :
    (cookies.map Effect.recordCookie).flatMap (heard listeners) =
      if listeners.cookie then cookies.map Entry.cookie else [] := by
  induction cookies with
  | nil =>
      cases listeners.cookie <;> rfl
  | cons k rest ih =>
      rw [List.map_cons, List.flatMap_cons, ih]
      cases hcookie : listeners.cookie <;> simp [heard, hcookie]

theorem Plan.heard_notices (listeners : Listeners) (r : Response) :
    (notices r).flatMap (Effect.heard listeners) = listeners.told r := by
  unfold notices Listeners.told cookiesOf Response.setCookies
  rw [List.flatMap_cons, List.flatMap_append, Effect.heard_cookies, List.flatMap_cons,
    List.filterMap_filterMap]
  simp only [Effect.heard, List.flatMap_nil, List.append_nil]

namespace World

section Performing

variable {react : Reaction} {listeners : Listeners} {c : Connection} {v w : World}
  {all : List Entry} {finish next : World -> World × Ending}

/-- Listeners are told all of it, and the rest follows; or one of them breaks down. -/
def Tells (react : Reaction) (listeners : Listeners) (c : Connection) (w : World)
    (all : List Entry) (finish : World -> World × Ending) (result : World × Ending) : Prop :=
  (exists v, Live v ∧ Adds w v all ∧ result = finish v) ∨
    exists v words fault, Live v ∧ words <+: all ∧ words ≠ [] ∧ Adds w v words ∧
      result = afterListener react listeners c finish (v, some fault)

theorem Tells.of_same {result : World × Ending}
    (h : Tells react listeners c v all finish result) (hjournal : v.journal = w.journal) :
    Tells react listeners c w all finish result := by
  have hadds := Adds.of_same hjournal
  rcases h with
    ⟨x, hlive, hall, hresult⟩ | ⟨x, words, fault, hlive, hbegins, hne, hwords, hresult⟩
  · exact Or.inl ⟨x, hlive, hadds.trans hall, hresult⟩
  · exact Or.inr ⟨x, words, fault, hlive, hbegins, hne, hadds.trans hwords, hresult⟩

theorem tells_afterListener (hreact : forall m v, Aside v (react m v).1) (hw : Live w)
    (attached : Bool) (m : Moment) {e : Entry} (hpoll : e.isPoll = false)
    (hnext : forall v, Live v -> Tells react listeners c v all finish (next v)) :
    Tells react listeners c w ((if attached then [e] else []) ++ all) finish
      (afterListener react listeners c next (w.fireIf attached react m e)) := by
  cases attached with
  | false =>
      exact hnext w hw
  | true =>
      rcases hw.fire hreact m hpoll with ⟨hlive, hadds⟩
      unfold fireIf
      rcases hfire : w.fire react m e with ⟨v, _ | fault⟩
      · rw [hfire] at hlive hadds
        rcases hnext v hlive with
          ⟨x, hx, hall, hresult⟩ | ⟨x, words, fault, hx, hbegins, hne, hwords, hresult⟩
        · exact Or.inl ⟨x, hx, hadds.trans hall, hresult⟩
        · exact Or.inr ⟨x, [e] ++ words, fault, hx,
            (List.prefix_append_right_inj [e]).mpr hbegins, List.cons_ne_nil e words,
            hadds.trans hwords, hresult⟩
      · rw [hfire] at hlive hadds
        exact Or.inr ⟨v, [e], fault, hlive, List.prefix_append [e] all,
          List.cons_ne_nil e [], hadds, rfl⟩

theorem tells_perform (hreact : forall m v, Aside v (react m v).1) (notices rest : List Effect)
    (hnotices : forall e, e ∈ notices -> e.isTelling = true) (hw : Live w) :
    Tells react listeners c w (notices.flatMap (Effect.heard listeners))
      (perform react listeners c rest false)
      (perform react listeners c (notices ++ rest) false w) := by
  induction notices generalizing w with
  | nil =>
      exact Or.inl ⟨w, hw, Adds.refl w, rfl⟩
  | cons effect notices ih =>
      have hrest : forall v, Live v -> Tells react listeners c v
          (notices.flatMap (Effect.heard listeners)) (perform react listeners c rest false)
          (perform react listeners c (notices ++ rest) false v) :=
        fun v hv => ih (fun e he => hnotices e (List.mem_cons_of_mem effect he)) hv
      have hnotice := hnotices effect List.mem_cons_self
      cases effect with
      | notifyHeaders h =>
          exact tells_afterListener hreact hw listeners.headers .headers rfl hrest
      | recordCookie k =>
          have hrecorded : Live { w with call := w.call.addCookie k } :=
            ⟨hw.started, hw.isOpen.outcome, hw.isOpen.published⟩
          exact (tells_afterListener hreact hrecorded listeners.cookie .cookie rfl
            hrest).of_same rfl
      | notifyResponse r =>
          exact tells_afterListener hreact hw listeners.response .response rfl hrest
      | notifyException e =>
          cases hnotice
      | follow location status =>
          cases hnotice
      | succeed r =>
          cases hnotice
      | fail f =>
          cases hnotice
      | release =>
          cases hnotice

theorem Live.notifyException (hw : Live w) (hreact : forall m v, Aside v (react m v).1)
    (listeners : Listeners) (e : TransportError) :
    Live (w.notifyException react listeners e) ∧
      Adds w (w.notifyException react listeners e) (listeners.raised e) :=
  hw.fireIf hreact listeners.exception .exception rfl

/-- What the effects of an event come to: a redirect is followed, or listeners heard their
last and the outcome is recorded. -/
inductive Concludes (listeners : Listeners) (c : Connection) (w : World) :
    World × Ending -> Prop where
  | follow (r : Response) (v : World) (location : Url) (status : Status) :
      Live v -> Adds w v (listeners.told r) ->
      Concludes listeners c w (v, .follow location status)
  | settle (v : World) (words : List Entry) (o : Outcome) :
      Live v -> Adds w v words -> LastWords listeners words o ->
      Concludes listeners c w ((v.settle c o).1, .release (v.settle c o).2)

theorem Live.follow (hw : Live w) (listeners : Listeners) (c : Connection) (location : Url)
    (status : Status) (rest : List Effect) :
    exists v, Live v ∧ Adds w v [] ∧
      perform react listeners c (.follow location status :: rest) false w =
        (v, .follow location status) := by
  have hcount : w.call.countRedirect? =
      some { w.call with redirects := w.call.redirects + 1 } := by
    simp only [Call.countRedirect?, hw.isOpen.outcome]
  refine ⟨{ w with call := { w.call with redirects := w.call.redirects + 1 } },
    ⟨hw.started, hw.isOpen.outcome, hw.isOpen.published⟩, Adds.of_same rfl, ?_⟩
  unfold perform
  rw [hcount]

theorem Tells.brokeDown (hreact : forall m v, Aside v (react m v).1) {r : Response}
    {words : List Entry} {fault : Fault} (hv : Live v) (hbegins : words <+: listeners.told r)
    (hne : words ≠ []) (hwords : Adds w v words) :
    Concludes listeners c w (afterListener react listeners c finish (v, some fault)) := by
  rcases hv.notifyException hreact listeners (listenerError fault) with
    ⟨hlive, hadds⟩
  exact .settle _ _ _ hlive (hwords.trans hadds) (.brokeDown r words fault hbegins hne)

theorem concludes_response (hreact : forall m v, Aside v (react m v).1) (hw : Live w)
    (r : Response) (location? : Option Url) :
    Concludes listeners c w
      (perform react listeners c (Plan.notices r ++ Plan.conclusion r location?) false w) := by
  have htells : Tells react listeners c w (listeners.told r)
      (perform react listeners c (Plan.conclusion r location?) false)
      (perform react listeners c (Plan.notices r ++ Plan.conclusion r location?) false w) := by
    rw [← Plan.heard_notices]
    exact tells_perform hreact _ _ (fun _ => Plan.isTelling_of_mem_notices) hw
  rcases htells with
    ⟨v, hv, htold, hresult⟩ | ⟨v, words, fault, hv, hbegins, hne, hwords, hresult⟩
  · rw [hresult]
    cases location? with
    | none =>
        exact .settle v _ _ hv htold (.answered r)
    | some location =>
        rcases hv.follow listeners c location r.status [] with ⟨x, hx, hsame, hfollow⟩
        have hconclusion : perform react listeners c
            (Plan.conclusion r (some location)) false v = (x, .follow location r.status) :=
          hfollow
        rw [hconclusion]
        exact .follow r x location r.status hx (htold.keep hsame)
  · rw [hresult]
    exact Tells.brokeDown hreact hv hbegins hne hwords

theorem concludes_perform (hreact : forall m v, Aside v (react m v).1) (hw : Live w)
    (policy : Policy) (request : Request) (event : Event) {effects : List Effect}
    (hplan : plan policy w.call.snapshot request event = .ok effects) :
    Concludes listeners c w (perform react listeners c effects false w) := by
  have hpending : w.call.snapshot.phase = .pending := by
    simp [Call.snapshot, Call.phase, hw.visible]
  cases event with
  | closed =>
      simp only [plan, hpending, if_true] at hplan
      cases hplan
      exact .settle w [] _ hw (Adds.refl w) .closed
  | error e =>
      cases hplan
      rcases hw.notifyException hreact listeners e with ⟨hlive, hadds⟩
      exact .settle _ _ _ hlive hadds (.failed e)
  | response r =>
      simp only [plan] at hplan
      cases hdestination : Plan.destination policy w.call.snapshot request r with
      | error fault =>
          rw [hdestination] at hplan
          cases hplan
      | ok location? =>
          rw [hdestination] at hplan
          cases hplan
          exact concludes_response hreact hw r location?

/-!
## Handlings and blocks of the loop
-/

def Ends (listeners : Listeners) (c : Connection) (v w : World) : Prop :=
  exists words o calls, LastWords listeners words o ∧ (forall e, e ∈ calls -> e.IsCall o) ∧
    w.call.visible = some o ∧
    Adds v w (words ++ .settled (some c) :: .released c :: .published :: calls)

theorem ends_settle (hreact : forall m v, Aside v (react m v).1) (caller : Caller)
    {words : List Entry} {o : Outcome} (hv : Live v) (hwords : Adds w v words)
    (hlast : LastWords listeners words o) :
    Ends listeners c w
      ((((v.settle c o).1.release react c).1).publishIf (v.settle c o).2 caller react) := by
  rcases hv.settle c o with ⟨hfirst, hsettled, houtcome, hpublished⟩
  rcases adds_release hreact c hpublished with ⟨hreleased, hposition⟩
  rcases adds_publish caller hreact ((congrArg Position.outcome hposition).trans houtcome)
    ((congrArg Position.published hposition).trans hpublished) with
    ⟨hvisible, calls, hcalls, hheard⟩
  rw [hfirst]
  exact ⟨words, o, calls, hlast, hheard, hvisible,
    hwords.trans (hsettled.trans (hreleased.trans hcalls))⟩

/-- What the handling of an event adds to the trace of a live call. -/
theorem handle_live (hreact : forall m v, Aside v (react m v).1) (caller : Caller)
    (listeners : Listeners) (request : Request) (event : Event) (hw : Live w) :
    match w.handle caller react listeners c request event with
    | (v, .ok .done) => Ends listeners c w v
    | (v, .ok (.redirect _ _)) => Live v ∧ exists r, Adds w v (listeners.told r)
    | (v, .error _) => v = w ∨ Ends listeners c w v := by
  unfold handle
  cases hplan : plan caller.policy w.call.snapshot request event with
  | error fault =>
      exact Or.inl rfl
  | ok effects =>
      have hconcludes : Concludes listeners c w (perform react listeners c effects false w) :=
        concludes_perform hreact hw caller.policy request event hplan
      dsimp only
      generalize perform react listeners c effects false w = result at hconcludes
      cases hconcludes with
      | follow r v location status hv htold =>
          exact ⟨hv, r, htold⟩
      | settle v words o hv hwords hlast =>
          have hends := ends_settle (c := c) hreact caller hv hwords hlast
          dsimp only
          rcases hreleased : (v.settle c o).1.release react c with ⟨x, _ | fault⟩
          · rw [hreleased] at hends
            exact hends
          · rw [hreleased] at hends
            exact Or.inr hends

theorem onEvent_live (hreact : forall m v, Aside v (react m v).1) (caller : Caller)
    (listeners : Listeners) (hop : Nat) (request : Request) (event : Event) (hw : Live w) :
    match w.onEvent caller react listeners c hop request event with
    | (v, .over) => Ends listeners c w v
    | (v, .acquiring n _) =>
        n = hop ∧ Live v ∧ exists r, Adds w v (listeners.told r ++ [.released c])
    | (v, .lost _) =>
        v = w ∨ Ends listeners c w v ∨
          Live v ∧ exists r, Adds w v (listeners.told r ++ [.released c])
    | (_, .exchanging _ _ _) => False := by
  have hhandle := handle_live (c := c) hreact caller listeners request event hw
  unfold onEvent
  rcases hresult : w.handle caller react listeners c request event with
    ⟨v, fault | _ | ⟨location, status⟩⟩ <;> rw [hresult] at hhandle
  · dsimp only at hhandle ⊢
    exact hhandle.imp_right Or.inl
  · exact hhandle
  · rcases hhandle with ⟨hv, r, htold⟩
    have hreleased : Live (v.release react c).1 ∧ Adds v (v.release react c).1 [.released c] :=
      hv.fire hreact .release rfl
    dsimp only
    unfold releaseThen
    rcases hrelease : v.release react c with ⟨x, _ | fault⟩ <;> rw [hrelease] at hreleased
    · exact ⟨rfl, hreleased.left, r, htold.trans hreleased.right⟩
    · exact Or.inr (Or.inr ⟨hreleased.left, r, htold.trans hreleased.right⟩)

theorem onUnavailable_live (hreact : forall m v, Aside v (react m v).1) (caller : Caller)
    (listeners : Listeners) (e : TransportError) (hw : Live w) :
    (w.onUnavailable caller react listeners e).1.call.visible =
        some (.error (.transport e.message)) ∧
      exists calls, (forall x, x ∈ calls -> x.IsCall (.error (.transport e.message))) ∧
        Adds w (w.onUnavailable caller react listeners e).1
          (listeners.raised e ++ .settled none :: .published :: calls) := by
  rcases hw.notifyException hreact listeners e with ⟨hlive, hraised⟩
  rcases hlive.settle none (.error (.transport e.message)) with
    ⟨hfirst, hsettled, houtcome, hpublished⟩
  rcases adds_publish caller hreact houtcome hpublished with
    ⟨hvisible, calls, hcalls, hheard⟩
  unfold onUnavailable
  dsimp only
  rw [hfirst]
  exact ⟨hvisible, calls, hheard, hraised.trans (hsettled.trans hcalls)⟩

end Performing
end World
end HttpCall
