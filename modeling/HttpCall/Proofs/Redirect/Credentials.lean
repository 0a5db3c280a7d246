import HttpCall.Proofs.Handling.Drift
import HttpCall.Proofs.Redirect.Chain
import HttpCall.Proofs.Redirect.Position

/-!
# Credentials stay with their host

Whatever the policy says and whatever user code does, the requests that a call sends are
those of a chain, each on a connection that was acquired for its target.  So no
credentials reach a host that they were not given for.
-/

namespace HttpCall

def Request.legs (requests : List Request) : List Move :=
  requests.flatMap fun q => [.acquired q.target, .sent q]

theorem Request.legs_concat (requests : List Request) (q : Request) :
    legs (requests ++ [q]) = legs requests ++ [.acquired q.target, .sent q] := by
  simp [legs]

theorem Request.legs_at {requests : List Request} {before after rest : List Move}
    {q : Request} (h : before ++ .sent q :: after ++ rest = legs requests) :
    exists earlier later, requests = earlier ++ q :: later ∧
      before = legs earlier ++ [.acquired q.target] := by
  induction requests generalizing before with
  | nil =>
      simp [legs] at h
  | cons x xs ih =>
      rw [legs, List.flatMap_cons] at h
      cases before with
      | nil =>
          cases h
      | cons first before =>
          cases before with
          | nil =>
              injection h with hfirst h
              injection h with hsecond _
              cases hfirst
              cases hsecond
              exact ⟨[], xs, rfl, rfl⟩
          | cons second before =>
              injection h with hfirst h
              injection h with hsecond h
              cases hfirst
              cases hsecond
              rcases ih h with ⟨earlier, later, rfl, rfl⟩
              exact ⟨x :: earlier, later, rfl, rfl⟩

theorem Request.legs_split {requests : List Request} {before after rest : List Move}
    {q : Request} (h : before ++ .sent q :: after ++ rest = legs requests) :
    q ∈ requests ∧ exists earlier, before = earlier ++ [.acquired q.target] := by
  rcases legs_at h with ⟨earlier, later, rfl, hbefore⟩
  exact ⟨List.mem_append_right _ List.mem_cons_self, legs earlier, hbefore⟩

namespace World

theorem moves_drift :
    Drift (fun e => e.isOfLoop = false) (fun _ => True) (fun v w => w.moves = v.moves) where
  refl _ := rfl
  trans huv hvw := hvw.trans huv
  note w he := moves_note_of_none w
    (Entry.move?_of_isOfLoop_eq_false (he.elim Entry.isOfLoop_of_isCommon id))
  access _ _ := rfl
  count _ _ _ _ := rfl

theorem Conduct.still {caller : Caller} {meddling : Prop} {react : Reaction}
    (h : Conduct caller meddling react) (m : Moment) (v : World) :
    (react m v).1.moves = v.moves :=
  moves_drift.of_conduct (fun _ => .outside) h m v

theorem moves_unavailable {caller : Caller} {meddling : Prop} {react : Reaction}
    (h : Conduct caller meddling react) (listeners : Listeners) (e : TransportError)
    (w : World) : (w.onUnavailable caller react listeners e).1.moves = w.moves :=
  moves_drift.onUnavailable h.still (fun _ => trivial) trivial listeners e w

/-!
## The chain of a call
-/

/-- What the pool and the connections have seen of a call is a beginning of what a chain
of requests takes. -/
def OnTrail (r : Request) (w : World) : Prop :=
  exists trail, w.moves <+: Request.legs (r.chain trail)

/-- How far a call has come on its trail. -/
def Chained (r : Request) (w : World) : Stage -> Prop
  | .exchanging _ _ q =>
      exists trail, q = r.followed trail ∧ w.moves = Request.legs (r.chain trail)
  | .acquiring _ q =>
      exists trail redirect, q = r.followed (trail ++ [redirect]) ∧
        w.moves = Request.legs (r.chain trail)
  | .over | .lost _ => OnTrail r w

/-- There is a connection for the last request of a trail, which is sent next. -/
def Bound (r : Request) (q : Request) (w : World) : Prop :=
  exists trail, q = r.followed trail ∧ w.moves ++ [.sent q] = Request.legs (r.chain trail)

section Chained

variable {r q : Request} {v w : World} {stage : Stage}

theorem OnTrail.of_moves (h : OnTrail r v) (hmoves : w.moves = v.moves) : OnTrail r w := by
  unfold OnTrail
  rw [hmoves]
  exact h

theorem OnTrail.chained (h : OnTrail r w) (hstage : stage.waits = false) :
    Chained r w stage := by
  cases stage with
  | exchanging c hop q => cases hstage
  | acquiring hop q => cases hstage
  | «over» => exact h
  | lost fault => exact h

theorem Chained.of_moves (h : Chained r v stage) (hmoves : w.moves = v.moves) :
    Chained r w stage := by
  cases stage <;> simpa only [Chained, OnTrail, hmoves] using h

theorem Chained.onTrail (h : Chained r w stage) : OnTrail r w := by
  cases stage with
  | exchanging c hop q =>
      rcases h with ⟨trail, _, hmoves⟩
      exact ⟨trail, hmoves ▸ List.prefix_rfl⟩
  | acquiring hop q =>
      rcases h with ⟨trail, _, _, hmoves⟩
      exact ⟨trail, hmoves ▸ List.prefix_rfl⟩
  | «over» => exact h
  | lost fault => exact h

theorem Chained.orLost (h : Chained r w stage) (fault? : Option Fault) :
    Chained r w (stage.orLost fault?) := by
  cases fault? with
  | none => exact h
  | some fault => exact h.onTrail

theorem Bound.onTrail (h : Bound r q w) : OnTrail r w := by
  rcases h with ⟨trail, _, hmoves⟩
  exact ⟨trail, [.sent q], hmoves⟩

theorem chained_passage (k : Conditions) (hconduct : Conduct k.caller True k.reaction)
    (r : Request) :
    Passage k (fun _ => True) (fun _ _ q w => Bound r q w) (Chained r) where
  pass _ h := h.of_moves rfl
  act {w stage actions} _ _ h :=
    have hmoves := moves_drift.of_actions (fun _ => .outside) hconduct actions
      (fun _ _ _ => trivial) w
    (h.of_moves hmoves).orLost _
  send {w c hop request} h := by
    rcases h with ⟨trail, hlast, hmoves⟩
    exact ⟨trail, hlast, (moves_note _ _).trans hmoves⟩
  answer {w c hop request} event h := by
    have hmoves := moves_drift.onEvent .outside hconduct.still k.caller k.listeners c hop
      request event w
    rcases stage_onEvent k.caller k.reaction k.listeners c hop request event w with
      hends | ⟨location, status, hstage⟩
    · exact (h.onTrail.of_moves hmoves).chained hends
    · rw [hstage]
      rcases h with ⟨trail, rfl, hlegs⟩
      exact ⟨trail, (location, status), (r.followed_concat trail (location, status)).symm,
        hmoves.trans hlegs⟩
  expire {w c hop request} h _ := by
    have hreleased := h.onTrail.of_moves (moves_drift.release hconduct.still c w)
    cases (w.release k.reaction c).2 with
    | none => exact hreleased
    | some fault => exact hreleased
  ask h := h.of_moves rfl
  grant {w hop request} h := by
    rcases h with ⟨trail, redirect, rfl, hmoves⟩
    refine ⟨trail ++ [redirect], rfl, ?_⟩
    have hgranted : (w.onGranted hop (r.followed (trail ++ [redirect]))).1.moves =
        w.moves ++ [.acquired (r.followed (trail ++ [redirect])).target] :=
      moves_note _ _
    rw [hgranted, hmoves, Request.chain_concat, Request.legs_concat, List.append_assoc]
    rfl
  refuse {w hop request} cause h := by
    have hrefused := h.onTrail.of_moves
      (moves_note_of_none w (e := .refused request.target cause) rfl)
    exact hrefused.of_moves (moves_unavailable hconduct k.listeners _ _)
  outOfTime h := h.onTrail.of_moves (moves_unavailable hconduct k.listeners _ _)

end Chained
end World

namespace Session

variable {caller : Caller} {react : Reaction}

/-- In all worlds of a call the requests that were sent are those of a chain. -/
theorem onTrail_of_mem_worlds (hconduct : World.Conduct caller True react)
    {clockStart nextConnection : Nat} {plot : Plot} {request : Request} {hops : List Hop}
    {w : World}
    (hw : w ∈ (launch caller react clockStart nextConnection plot request hops).worlds) :
    World.OnTrail request w := by
  revert w
  apply worlds_induction
  · exact ⟨[], List.nil_prefix⟩
  · intro time asked v hv
    exact hv.of_moves rfl
  · intro cause v hv
    exact hv.of_moves (World.moves_note_of_none v rfl)
  · rintro h w - rfl
    have hmoves :
        (withHooks caller react plot (firstConnected request nextConnection h).1).moves =
          [.acquired request.target] :=
      World.moves_drift.withHooks hconduct.still plot _
    have hbound : World.Bound request request
        (withHooks caller react plot (firstConnected request nextConnection h).1) := by
      refine ⟨[], rfl, ?_⟩
      rw [hmoves]
      rfl
    refine ⟨hbound.onTrail, ?_⟩
    intro rest p hp
    have hstanding := Passage.standing_course
      (fun deadline => World.chained_passage ⟨caller, react, plot.listeners, deadline⟩ hconduct
        request)
      (fun _ _ => ⟨trivial, trivial⟩) hbound (fun _ => hbound.onTrail) p hp
    rcases hstanding with hchained | ⟨_, _, _, _, hbound⟩
    · exact hchained.onTrail
    · exact hbound.onTrail

/-- Along every chain of redirects from a request that was built, the credentials are
carried on unchanged as long as all URLs name the host of the first one and have a known
port, and are gone from then on.  A call sends the requests of such a chain, each on a
connection for its own target; so what carries credentials is sent to the first host. -/
theorem credentials_stay_with_host (hconduct : World.Conduct caller True react) {d : Draft}
    {r : Request} (hbuild : d.build = .ok r) :
    (forall trail k q name, (r.chain trail)[k]? = some q -> name ∈ Request.credentials ->
      ((forall x, x ∈ ((r.chain trail).drop 1).take k ->
          x.url.hostText? = r.url.hostText? ∧ x.url.effectivePort?.isSome = true) ->
        q.headers.values name = r.headers.values name) ∧
      ((exists x, x ∈ ((r.chain trail).drop 1).take k ∧
          ¬ (x.url.hostText? = r.url.hostText? ∧ x.url.effectivePort?.isSome = true)) ->
        q.headers.values name = [])) ∧
      forall clockStart nextConnection plot hops w,
        w ∈ (launch caller react clockStart nextConnection plot r hops).worlds ->
        (exists trail, w.moves <+: Request.legs (r.chain trail)) ∧
          forall before q after name, w.moves = before ++ .sent q :: after ->
            name ∈ Request.credentials -> q.headers.values name ≠ [] ->
            before.getLast? = some (.acquired q.target) ∧ q.target.host = r.target.host := by
  have hhost : r.url.hostText? = some r.target.host := by
    have htarget := congrArg (Option.map Target.host) (Draft.target_of_build hbuild)
    exact (Target.ofUrl?_host.mp htarget).left
  refine ⟨?_, ?_⟩
  · intro trail k q name hq hname
    rw [hhost]
    rcases Request.values_of_chain hname rfl trail hq with
      ⟨hall, hvalues, _⟩ | ⟨⟨x, hx, hoff⟩, hgone⟩
    · refine ⟨fun _ => hvalues, ?_⟩
      rintro ⟨x, hx, hoff⟩
      exact absurd (hall x hx) hoff
    · exact ⟨fun hall => absurd (hall x hx) hoff, fun _ => hgone⟩
  · intro clockStart nextConnection plot hops w hw
    rcases onTrail_of_mem_worlds hconduct hw with ⟨trail, hbegins⟩
    refine ⟨⟨trail, hbegins⟩, ?_⟩
    rintro before q after name hmoves hname hcarries
    rcases hbegins with ⟨rest, hlegs⟩
    rw [hmoves] at hlegs
    rcases Request.legs_split hlegs with ⟨hq, earlier, rfl⟩
    refine ⟨List.getLast?_concat, ?_⟩
    rcases List.getElem?_of_mem hq with ⟨k, hk⟩
    rcases Request.values_of_chain hname rfl trail hk with ⟨_, _, hsame⟩ | ⟨_, hgone⟩
    · exact hsame
    · exact absurd hgone hcarries

/-!
### A call that comes back to its first host
-/

def secretDraft : Draft where
  method := .get
  url := some (plainUrl "a.test")
  version := .http11
  headers := Headers.empty.append .authorization (.ofPlain "secret")
  body := .empty
  followRedirects := true
  maxRedirects := 10
  timeout := none

def secretRequest : Request :=
  { plainRequest none with headers := secretDraft.headers }

def returningTrail : List (Url × Status) :=
  [(plainUrl "a.test", .found), (plainUrl "b.test", .found), (plainUrl "a.test", .found)]

theorem credentials_stay_with_host_on_return :
    secretDraft.build = .ok secretRequest ∧
      exists q, (secretRequest.chain returningTrail)[3]? = some q ∧
        q.url.hostText? = secretRequest.url.hostText? ∧
        q.headers.values .authorization = [] := by
  have hconduct := Caller.reaction_conduct (Caller.within_true meddlingCaller)
  have hbuild : secretDraft.build = .ok secretRequest := by cbv
  have hback : (secretRequest.chain returningTrail)[3]? =
      some (secretRequest.followed returningTrail) := rfl
  have hgone := ((credentials_stay_with_host hconduct hbuild).left returningTrail 3 _
    .authorization hback (by decide)).right
  refine ⟨hbuild, _, hback, rfl, ?_⟩
  refine hgone ⟨secretRequest.followed (returningTrail.take 2), ?_, ?_⟩
  · exact List.mem_cons_of_mem _ List.mem_cons_self
  · decide +kernel

end Session
end HttpCall
