import HttpCall.Proofs.Deadline.Expiry
import HttpCall.Proofs.Deadline.Representable
import HttpCall.Proofs.Deadline.Timing
import HttpCall.Proofs.Handling.Finish
import HttpCall.Proofs.Handling.Retelling
import HttpCall.Proofs.Redirect.Refinement

/-!
# Limits that are not reached

A deadline makes itself felt only in a wait that it ends.  So a call that ends in time
without a limit does the same with one: each wait is over before the deadline, whatever the
hop, and only the requests tell of the limit.
-/

namespace HttpCall

namespace Request

theorem relocate_timeout (q : Request) (limit : Option Duration) (location : Url) :
    { q with timeout := limit }.relocate location =
      { q.relocate location with timeout := limit } := by
  unfold relocate
  dsimp only
  by_cases hhost : (Target.ofUrl? location).map Target.host = some q.target.host
  · rw [if_pos hhost, if_pos hhost]
  · rw [if_neg hhost, if_neg hhost]
    rfl

theorem redirected_timeout (q : Request) (limit : Option Duration) (location : Url)
    (status : Status) :
    { q with timeout := limit }.redirected location status =
      { q.redirected location status with timeout := limit } := by
  unfold redirected
  dsimp only
  cases turnsIntoGet q.method status with
  | true =>
      exact q.asGet.relocate_timeout limit location
  | false =>
      exact q.relocate_timeout limit location

end Request

def Retelling.limited (limit : Option Duration) : Retelling where
  request q := { q with timeout := limit }
  refusals := true
  url _ := rfl
  target _ := rfl
  followRedirects _ := rfl
  maxRedirects _ := rfl
  redirected q location status := q.redirected_timeout limit location status

/-- A run whose last world waits for nothing goes on after a wait. -/
theorem Stage.getLast?_of_waits {past more : List (World × Stage)} {w x : World}
    {stage last : Stage} (h : (past ++ (w, stage) :: more).getLast? = some (x, last))
    (hwaits : stage.waits = true) (hends : last.waits = false) :
    more.getLast? = some (x, last) := by
  rw [List.getLast?_append, List.getLast?_cons, Option.some_or] at h
  cases hmore : more.getLast? with
  | some p =>
      rw [hmore] at h
      exact h
  | none =>
      rw [hmore] at h
      cases h
      cases hwaits.symm.trans hends

/-!
## Runs that end in time
-/

namespace Conditions

def limitedTo (k : Conditions) (d : Nat) : Conditions := { k with deadline := some d }

section

variable {k : Conditions} {r : Retelling} {d : Nat} {w x : World}
  {past : List (World × Stage)}

theorem attend_ne_expired {α : Type} (hopen : k.deadline = none) (stage : Stage)
    (answer : Option α) (acts : List (Nat × List Action)) (w : World) :
    (k.attend stage answer acts w).2.2 ≠ .expired := by
  induction acts generalizing w with
  | nil =>
      cases answer with
      | some a =>
          rintro ⟨⟩
      | none =>
          rw [attend_nil_of_no_deadline hopen]
          rintro ⟨⟩
  | cons act rest ih =>
      rcases act with ⟨delay, actions⟩
      cases hwait : Wait.of k.deadline w.now delay with
      | expired time =>
          rcases Wait.of_eq_expired hwait with ⟨d, hdeadline, _⟩
          cases hopen.symm.trans hdeadline
      | ended time =>
          rcases hact : { w with now := time }.act k.caller k.reaction actions with
            ⟨v, _ | fault⟩
          · rw [attend_of_acted hwait hact]
            exact ih v
          · rw [attend_of_brokeDown hwait hact]
            rintro ⟨⟩

theorem afterExchange_retold (hpolicy : r.Indifferent k.caller.policy)
    (hreact : r.Unnoticed k.reaction) (d : Nat) (c : Connection) (hop : Nat) (q : Request)
    (v : World) {e : Spell.End Reply} (he : e ≠ .expired) :
    (k.limitedTo d).afterExchange c hop (r.request q) (v.retold r) e =
      r.block (k.afterExchange c hop q v e) := by
  cases e with
  | answered reply =>
      unfold afterExchange
      dsimp only
      rw [Retelling.toEvent_request]
      exact World.onEvent_retold hpolicy hreact k.listeners c hop q _ v
  | expired =>
      exact absurd rfl he
  | brokeDown fault =>
      rfl
  | endless =>
      rfl

theorem afterAcquisition_retold (hreact : r.Unnoticed k.reaction)
    (hrefusals : r.refusals = true) (d : Nat) (hop : Nat) (q : Request) (v : World)
    {e : Spell.End (Except TransportError Unit)} (he : e ≠ .expired) :
    (k.limitedTo d).afterAcquisition hop (r.request q) (v.retold r) e =
      r.block (k.afterAcquisition hop q v e) := by
  rcases e with (cause | _) | _ | fault | _
  · unfold afterAcquisition
    dsimp only
    rw [World.refused_retold r hrefusals]
    exact World.onUnavailable_retold hreact k.listeners cause _
  · exact World.onGranted_retold r hop q v
  · exact absurd rfl he
  · rfl
  · rfl

theorem refuse_retold (hreact : r.Unnoticed k.reaction) (hrefusals : r.refusals = true)
    (d : Nat) (q : Request) (v : World) :
    (k.limitedTo d).refuse (r.request q) (v.retold r) = r.block (k.refuse q v) := by
  unfold refuse
  rw [World.refused_retold r hrefusals]
  exact World.onUnavailable_retold hreact k.listeners exhaustedError _

section

variable (hconduct : World.Conduct k.caller True k.reaction)
  (hpolicy : r.Indifferent k.caller.policy) (hreact : r.Unnoticed k.reaction)
  (hopen : k.deadline = none)

include hconduct hpolicy hreact hopen

theorem attend_retold {α : Type} {stage : Stage} {answer : Option α}
    {acts : List (Nat × List Action)} {e : Spell.End α}
    (hattend : k.attend stage answer acts w = (past, x, e)) (he : e ≠ .endless)
    (hx : x.now <= d) :
    (k.limitedTo d).attend (r.stage stage) answer acts (w.retold r) =
      (past.map r.block, x.retold r, e) := by
  induction acts generalizing w past with
  | nil =>
      cases answer with
      | some a =>
          cases hattend
          rfl
      | none =>
          rw [attend_nil_of_no_deadline hopen] at hattend
          cases hattend
          exact absurd rfl he
  | cons act rest ih =>
      rcases act with ⟨delay, actions⟩
      cases hwait : Wait.of k.deadline w.now delay with
      | expired time =>
          rcases Wait.of_eq_expired hwait with ⟨d, hdeadline, _⟩
          cases hopen.symm.trans hdeadline
      | ended time =>
          have hacted : World.AtOnce { w with now := time }
              ({ w with now := time }.act k.caller k.reaction actions).1 :=
            World.atOnce_act hconduct actions (fun _ _ _ => trivial) _
          have hretold : { w.retold r with now := time }.act k.caller k.reaction actions =
              r.on ({ w with now := time }.act k.caller k.reaction actions) :=
            World.act_retold hpolicy hreact actions { w with now := time }
          have hended : time <= d ->
              Wait.of (k.limitedTo d).deadline (w.retold r).now delay = .ended time := by
            intro htime
            rcases Wait.of_eq_ended hwait with ⟨rfl, _⟩
            apply Wait.of_inTime
            intro d' hd'
            cases hd'
            exact htime
          rcases hact : { w with now := time }.act k.caller k.reaction actions with
            ⟨v, _ | fault⟩ <;> rw [hact] at hacted hretold
          · rw [attend_of_acted hwait hact] at hattend
            have hsince := (Clocked.since k.deadline v.now).kept_attend hconduct stage answer
              rest (Nat.le_refl v.now)
            rcases hrest : k.attend stage answer rest v with ⟨more, y, last⟩
            rw [hrest] at hattend hsince
            cases hattend
            have hnow : v.now = time := hacted.now
            have htime : time <= d := hnow ▸ Nat.le_trans hsince.right hx
            rw [attend_of_acted (hended htime) hretold, ih hrest]
            rfl
          · rw [attend_of_brokeDown hwait hact] at hattend
            cases hattend
            have hnow : x.now = time := hacted.now
            rw [attend_of_brokeDown (hended (hnow ▸ hx)) hretold]
            rfl

theorem exchangeIn_retold {s : Spell Reply} {c : Connection} {hop : Nat} {q : Request}
    {stage : Stage} (hexchange : k.exchangeIn s c hop q w = (past, x, stage))
    (hstage : forall d n q, stage ≠ .exchanging d n q) (hx : x.now <= d) :
    (k.limitedTo d).exchangeIn s c hop (r.request q) (w.retold r) =
      (past.map r.block, r.block (x, stage)) := by
  rcases hattend : k.attend (.exchanging c hop q) s.answer s.acts (w.send q) with ⟨before, v, e⟩
  unfold exchangeIn at hexchange ⊢
  rw [hattend] at hexchange
  rcases Prod.mk.inj hexchange with ⟨rfl, hblock⟩
  have hafter := atOnce_afterExchange hconduct c hop q v e
  rw [hblock] at hafter
  have hends : e ≠ .endless := by
    rintro rfl
    cases hblock
    exact hstage c hop q rfl
  have hunexpired : e ≠ .expired := by
    have hne := attend_ne_expired hopen (.exchanging c hop q) s.answer s.acts (w.send q)
    rwa [hattend] at hne
  have hretold := attend_retold hconduct hpolicy hreact hopen hattend hends (hafter.now ▸ hx)
  rw [World.send_retold, ← hblock, ← afterExchange_retold hpolicy hreact d c hop q v hunexpired]
  exact congrArg (fun p => (p.1, (k.limitedTo d).afterExchange c hop (r.request q) p.2.1 p.2.2))
    hretold

theorem acquireIn_retold {s : Spell (Except TransportError Unit)} {hop : Nat} {q : Request}
    {stage : Stage} (hrefusals : r.refusals = true)
    (hacquire : k.acquireIn s hop q w = (past, x, stage))
    (hstage : forall n q, stage ≠ .acquiring n q) (hx : x.now <= d) :
    (k.limitedTo d).acquireIn s hop (r.request q) (w.retold r) =
      (past.map r.block, r.block (x, stage)) := by
  rcases hattend : k.attend (.acquiring hop q) s.answer s.acts { w with asked := w.asked + 1 }
    with ⟨before, v, e⟩
  unfold acquireIn at hacquire ⊢
  rw [hattend] at hacquire
  rcases Prod.mk.inj hacquire with ⟨rfl, hblock⟩
  have hafter := atOnce_afterAcquisition hconduct hop q v e
  rw [hblock] at hafter
  have hends : e ≠ .endless := by
    rintro rfl
    cases hblock
    exact hstage hop q rfl
  have hunexpired : e ≠ .expired := by
    have hne := attend_ne_expired hopen (.acquiring hop q) s.answer s.acts
      { w with asked := w.asked + 1 }
    rwa [hattend] at hne
  have hretold := attend_retold hconduct hpolicy hreact hopen hattend hends (hafter.now ▸ hx)
  rw [← hblock, ← afterAcquisition_retold hreact hrefusals d hop q v hunexpired]
  exact congrArg (fun p => (p.1, (k.limitedTo d).afterAcquisition hop (r.request q) p.2.1 p.2.2))
    hretold

theorem runIn_retold (hrefusals : r.refusals = true) (script : List Stretch) {c : Connection}
    {hop : Nat} {q : Request} {stage : Stage}
    (hlast : (k.runIn script c hop q w).getLast? = some (x, stage))
    (hends : stage.waits = false) (hx : x.now <= d) :
    (k.limitedTo d).runIn script c hop (r.request q) (w.retold r) =
      (k.runIn script c hop q w).map r.block := by
  -- The run goes forward in time, so its last world bounds all waits before it.
  induction script generalizing w c hop q with
  | nil =>
      cases hlast
  | cons s rest ih =>
      rcases hexchange : k.exchangeIn s.exchange c hop q w with ⟨past, y, reached⟩
      cases reached with
      | acquiring n p =>
          cases rest with
          | nil =>
              rw [runIn_of_exhausted hexchange] at hlast ⊢
              have hrefused : some (k.refuse p y) = some (x, stage) :=
                Stage.getLast?_of_waits hlast rfl hends
              have hy : y.now <= d := by
                have hnow := (atOnce_refuse hconduct p y).now
                rw [Option.some.inj hrefused] at hnow
                exact hnow ▸ hx
              have hretold := exchangeIn_retold hconduct hpolicy hreact hopen hexchange
                (fun _ _ _ => Stage.noConfusion) hy
              rw [runIn_of_exhausted hretold, refuse_retold hreact hrefusals, List.map_append]
              rfl
          | cons next rest =>
              have hsince := (Clocked.since k.deadline y.now).kept_acquireIn hconduct
                next.acquisition n p (Nat.le_refl y.now)
              rcases hacquire : k.acquireIn next.acquisition n p y with ⟨past', z, gained⟩
              rw [hacquire] at hsince
              have hyz : y.now <= z.now := hsince.right
              cases gained with
              | exchanging d' m p' =>
                  rw [runIn_of_acquired hexchange hacquire] at hlast ⊢
                  have hrest := Stage.getLast?_of_waits
                    (Stage.getLast?_of_waits hlast rfl hends) rfl hends
                  have hzx := (Clocked.since k.deadline z.now).kept_runIn hconduct _
                    (Nat.le_refl z.now) _ (List.mem_of_getLast? hrest)
                  have hz := Nat.le_trans hzx hx
                  have hexchanged := exchangeIn_retold hconduct hpolicy hreact hopen hexchange
                    (fun _ _ _ => Stage.noConfusion) (Nat.le_trans hyz hz)
                  have hacquired := acquireIn_retold hconduct hpolicy hreact hopen hrefusals
                    hacquire (fun _ _ => Stage.noConfusion) hz
                  rw [runIn_of_acquired hexchanged hacquired, ih hrest, List.map_append,
                    List.map_cons, List.map_append]
                  rfl
              | acquiring m p' =>
                  rw [runIn_of_unacquired hexchange hacquire (fun _ _ _ => Stage.noConfusion)]
                    at hlast
                  cases Stage.getLast?_of_waits (Stage.getLast?_of_waits hlast rfl hends) rfl
                    hends
              | _ =>
                  rw [runIn_of_unacquired hexchange hacquire (fun _ _ _ => Stage.noConfusion)]
                    at hlast ⊢
                  have hrest := Stage.getLast?_of_waits hlast rfl hends
                  rw [List.getLast?_concat] at hrest
                  cases hrest
                  have hexchanged := exchangeIn_retold hconduct hpolicy hreact hopen hexchange
                    (fun _ _ _ => Stage.noConfusion) (Nat.le_trans hyz hx)
                  have hacquired := acquireIn_retold hconduct hpolicy hreact hopen hrefusals
                    hacquire (fun _ _ => Stage.noConfusion) hx
                  rw [runIn_of_unacquired hexchanged hacquired
                    (fun _ _ _ => Stage.noConfusion), List.map_append, List.map_cons,
                    List.map_append]
                  rfl
      | exchanging d n p =>
          rw [runIn_of_end hexchange (fun _ _ => Stage.noConfusion)] at hlast
          cases Stage.getLast?_of_waits hlast rfl hends
      | _ =>
          rw [runIn_of_end hexchange (fun _ _ => Stage.noConfusion)] at hlast ⊢
          rw [List.getLast?_concat] at hlast
          cases hlast
          have hretold := exchangeIn_retold hconduct hpolicy hreact hopen hexchange
            (fun _ _ _ => Stage.noConfusion) hx
          rw [runIn_of_end hretold (fun _ _ => Stage.noConfusion), List.map_append]
          rfl

end
end
end Conditions

namespace Session

def Launch.retold (r : Retelling) : Launch -> Launch
  | .unstarted e w => .unstarted e (w.retold r)
  | .unanswered w => .unanswered (w.retold r)
  | .underway w course => .underway (w.retold r) (course.map r.block)

/-- A call that is under way waits for nothing any more before so much time has passed, and
the clock could hold the deadline. -/
def Launch.EndsWithin (clockStart : Nat) (limit : Duration) : Launch -> Prop
  | .underway w course =>
      Clock.after? (clockStart + w.now * 1000000) limit ≠ none ∧
        exists y stage, course.getLast? = some (y, stage) ∧ stage.waits = false ∧
          (y.now - w.now) * 1000000 < limit.nanos
  | _ => True

section

variable {caller : Caller} {react : Reaction} {r : Retelling} {limit : Duration}

theorem firstConnected_retold (r : Retelling) (q : Request) (nextConnection : Nat) (h : Hop) :
    firstConnected (r.request q) nextConnection h =
      r.on (firstConnected q nextConnection h) := by
  have hanswer : firstAnswer (r.request q) nextConnection h =
      (firstAnswer q nextConnection h).retold r := rfl
  unfold firstConnected
  rw [hanswer, r.target, World.connect_retold]
  simp only [Retelling.on]
  rw [← World.retold_note (.acquired _) rfl]
  rfl

theorem course_retold (hconduct : World.Conduct caller True react)
    (hreact : (Retelling.limited (some limit)).Unnoticed react)
    (hpolicy : (Retelling.limited (some limit)).Indifferent caller.policy)
    {request : Request} (htimeout : request.timeout = none) {clockStart : Nat} {plot : Plot}
    {h : Hop} {rest : List Hop} {c : Connection} {w : World}
    (hends : (Launch.underway w
      (course caller react plot clockStart h rest c request w)).EndsWithin clockStart limit) :
    course caller react plot clockStart h rest c
        ((Retelling.limited (some limit)).request request)
        (w.retold (.limited (some limit))) =
      (course caller react plot clockStart h rest c request w).map
        (Retelling.limited (some limit)).block := by
  rcases hends with ⟨hclock, y, stage, hlast, hwaits, htime⟩
  have hopen : deadline? clockStart request w = some none := by
    unfold deadline?
    rw [htimeout]
  have hdeadline : deadline? clockStart ((Retelling.limited (some limit)).request request)
      (w.retold (.limited (some limit))) = some (some (w.now + limit.ceilMillis)) :=
    deadline?_of_clock rfl hclock
  have hy : y.now <= w.now + limit.ceilMillis := by
    unfold Duration.ceilMillis
    omega
  rw [course_of_deadline hopen] at hlast ⊢
  rw [course_of_deadline hdeadline, List.map_cons]
  have hrun := @Stage.getLast?_of_waits [] _ _ _ _ _ hlast rfl hwaits
  rw [← Conditions.runIn_stretches] at hrun ⊢
  have hretold := Conditions.runIn_retold hconduct hpolicy hreact rfl rfl _ hrun hwaits hy
  rw [← Conditions.runIn_stretches, ← hretold]
  rfl

/-- A limit that a call does not reach changes nothing but the limit that its requests
name: everything happens in the same order at the same times, and the call shows the same
all along. -/
theorem unreached_limit_changes_nothing (hconduct : World.Conduct caller True react)
    (hreact : (Retelling.limited (some limit)).Unnoticed react)
    (hpolicy : (Retelling.limited (some limit)).Indifferent caller.policy)
    {request : Request} (htimeout : request.timeout = none) {clockStart nextConnection : Nat}
    {plot : Plot} {hops : List Hop}
    (hends : (launch caller react clockStart nextConnection plot request hops).EndsWithin
      clockStart limit) :
    launch caller react clockStart nextConnection plot { request with timeout := some limit }
        hops =
      (launch caller react clockStart nextConnection plot request hops).retold
        (.limited (some limit)) := by
  have hlimited : { request with timeout := some limit } =
    (Retelling.limited (some limit)).request request := rfl
  have hrefused := World.refused_retold (.limited (some limit)) rfl request
  rw [hlimited]
  cases hops with
  | nil =>
      exact congrArg (Launch.unstarted _) (hrefused none (opening request nextConnection))
  | cons h rest =>
      cases hgrant : h.grant with
      | refusal e =>
          rw [launch_of_refusal hgrant, launch_of_refusal hgrant]
          exact congrArg (Launch.unstarted _)
            (hrefused (some e) (firstAnswer request nextConnection h))
      | silence =>
          rw [launch_of_silence hgrant, launch_of_silence hgrant]
          rfl
      | connection =>
          rw [launch_of_connection hgrant] at hends ⊢
          rw [launch_of_connection hgrant, firstConnected_retold]
          simp only [Retelling.on]
          rw [withHooks_retold hreact]
          generalize withHooks caller react plot (firstConnected request nextConnection h).1 = w
            at hends ⊢
          generalize (firstConnected request nextConnection h).2 = c at hends ⊢
          rw [course_retold hconduct hreact hpolicy htimeout hends]
          rfl

end

theorem Launch.endsWithin_of_over {clockStart : Nat} {limit : Duration} {w : World}
    {course : List (World × Stage)} (time : Nat)
    (hclock : Clock.after? (clockStart + w.now * 1000000) limit ≠ none)
    (hlast : course.getLast?.map (fun p => (p.1.now, p.2)) = some (time, .over))
    (htime : (time - w.now) * 1000000 < limit.nanos) :
    (Launch.underway w course).EndsWithin clockStart limit := by
  rcases Option.map_eq_some_iff.mp hlast with ⟨⟨y, stage⟩, hy, hends⟩
  rcases Prod.mk.inj hends with ⟨rfl, rfl⟩
  exact ⟨hclock, y, .over, hy, rfl, htime⟩

theorem unreached_limit_changes_nothing_over_redirect :
    let launched := launch strollingCaller strollingCaller.reaction 0 1 plainPlot
      (plainRequest none) [plainHop 5, plainHop 7]
    launched.EndsWithin 0 (.ofSeconds 1 0) ∧
      launch strollingCaller strollingCaller.reaction 0 1 plainPlot
          (plainRequest (some (.ofSeconds 1 0))) [plainHop 5, plainHop 7] =
        launched.retold (.limited (some (.ofSeconds 1 0))) := by
  intro launched
  have hwithin : strollingCaller.Within True := Caller.within_true strollingCaller
  have hpolicy : (Retelling.limited (some (.ofSeconds 1 0))).Indifferent
      strollingCaller.policy := fun _ _ _ => rfl
  have hends : launched.EndsWithin 0 (.ofSeconds 1 0) := by
    have hlaunched : launched = .underway _ _ := launch_of_connection rfl
    rw [hlaunched]
    apply Launch.endsWithin_of_over 12
    · decide +kernel
    · decide +kernel
    · decide +kernel
  exact ⟨hends, unreached_limit_changes_nothing (Caller.reaction_conduct hwithin)
    (Caller.reaction_unnoticed hpolicy) hpolicy rfl hends⟩

/-- User code whose policy looks at the limit: it is redirected once if there is none. -/
def patientCaller : Caller where
  policy _ request count :=
    .ok (if request.timeout = none ∧ count = 0 then some (plainUrl "b.test") else none)
  triggers := []
  transform _ := .ok .null

/-- Without a limit it is redirected, and over after twelve milliseconds.  With a limit of an
hour it is over at the first response, after five. -/
theorem limit_noticed_by_policy :
    let hour := Duration.ofSeconds 3600 0
    let launched := launch patientCaller patientCaller.reaction 0 1 plainPlot
      (plainRequest none) [plainHop 5, plainHop 7]
    let limited := launch patientCaller patientCaller.reaction 0 1 plainPlot
      (plainRequest (some hour)) [plainHop 5, plainHop 7]
    World.Conduct patientCaller True patientCaller.reaction ∧
      (Retelling.limited (some hour)).Unnoticed patientCaller.reaction ∧
      launched.EndsWithin 0 hour ∧
      launched.worlds.getLast?.map (fun w => (w.now, w.call.redirects)) = some (12, 1) ∧
      limited.worlds.getLast?.map (fun w => (w.now, w.call.redirects)) = some (5, 0) ∧
      limited ≠ launched.retold (.limited (some hour)) := by
  intro hour launched limited
  have hconduct := Caller.reaction_conduct (Caller.within_true patientCaller)
  have hends : launched.EndsWithin 0 hour := by
    have hlaunched : launched = .underway _ _ := launch_of_connection rfl
    rw [hlaunched]
    apply Launch.endsWithin_of_over 12
    · decide +kernel
    · decide +kernel
    · decide +kernel
  have hunlike : limited.worlds.getLast?.map World.now ≠
      (launched.retold (.limited (some hour))).worlds.getLast?.map World.now := by
    decide +kernel
  refine ⟨hconduct, fun _ _ => rfl, hends, ?_, ?_, ?_⟩
  · decide +kernel
  · decide +kernel
  · intro hsame
    exact hunlike (congrArg (fun l => l.worlds.getLast?.map World.now) hsame)

end Session
end HttpCall
