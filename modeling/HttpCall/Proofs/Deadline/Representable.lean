import HttpCall.Client
import HttpCall.Proofs.Call.Lasting
import HttpCall.Proofs.Trace.Order

/-!
# Deadlines that the clock can hold

Any timeout may be set, the longest of all included, and the deadline is computed only
when a call is under way.  If the clock can hold it, the call comes to its end and gives
all its connections back, whatever it is answered.  If it cannot, the loop breaks down
before it sends anything: the call stays pending and keeps its connection.
-/

namespace HttpCall

/-- The longest time that can be named. -/
def Duration.longest : Duration := .ofSeconds 0xFFFFFFFFFFFFFFFF 999999999

namespace Session

section

variable {caller : Caller} {react : Reaction} {meddling : Prop} {clockStart : Nat}
  {plot : Plot} {request : Request} {limit : Duration} {w : World}

theorem deadline?_of_timeout (htimeout : request.timeout = some limit) :
    deadline? clockStart request w =
      (Clock.after? (clockStart + w.now * 1000000) limit).map fun _ =>
        some (w.now + limit.ceilMillis) := by
  unfold deadline?
  rw [htimeout]

theorem deadline?_of_clock (htimeout : request.timeout = some limit)
    (hclock : Clock.after? (clockStart + w.now * 1000000) limit ≠ none) :
    deadline? clockStart request w = some (some (w.now + limit.ceilMillis)) := by
  rcases Option.ne_none_iff_exists'.mp hclock with ⟨reading, hafter⟩
  rw [deadline?_of_timeout htimeout, hafter, Option.map_some]

theorem deadline?_of_longest (htimeout : request.timeout = some .longest) :
    deadline? clockStart request w = none := by
  have hafter : Clock.after? (clockStart + w.now * 1000000) .longest = none := by
    apply if_neg
    apply Nat.not_lt_of_le
    exact Nat.le_trans (by decide) (Nat.le_add_left Duration.longest.nanos _)
  rw [deadline?_of_timeout htimeout, hafter, Option.map_none]

theorem outcome_withHooks (plot : Plot) (h : w.call.outcome = none) :
    (withHooks caller react plot w).call.outcome = none := by
  refine @withHooks_induction caller react (fun v => v.call.outcome = none) ?_
    (fun _ _ hv => hv) plot w h
  intro hook v hv
  have hvisible : v.call.visible = none := by
    cases hpublished : v.call.published <;> simp [Call.visible, hpublished, hv]
  unfold World.register
  rw [hvisible]
  exact hv

theorem transfers_withHooks (hconduct : World.Conduct caller meddling react) (plot : Plot)
    (request : Request) (nextConnection : Nat) (h : Hop) :
    (withHooks caller react plot (firstConnected request nextConnection h).1).transfers =
      [.taken (firstConnected request nextConnection h).2] := by
  have hcustody := (World.custody_firstConnected meddling request nextConnection h)
    |>.of_traffic (World.traffic_withHooks hconduct.keepsApart caller plot _)
  unfold World.transfers
  rw [hcustody.transfers, Transfer.reverse_inTurnBack]
  rfl

/-- A call whose time is limited ends with all its connections given back, if the clock
can hold its deadline.  Otherwise it never does: it is lost with its first connection. -/
theorem ends_if_clock_holds_deadline (hconduct : World.Conduct caller meddling react)
    (hpolicy : caller.policy.Returns) (hrelease : forall v, (react .release v).2 = none)
    {hops : List Hop}
    (hhops : forall h, h ∈ hops ->
      Orderly meddling h.acquireActions ∧ Orderly meddling h.actions)
    (htimeout : request.timeout = some limit) {nextConnection : Nat}
    {course : List (World × Stage)}
    (hlaunch : launch caller react clockStart nextConnection plot request hops =
      .underway w course) :
    match Clock.after? (clockStart + w.now * 1000000) limit with
    | some _ => exists v, course.getLast? = some (v, .over) ∧ v.call.isDone = true ∧
        v.Conserves meddling none
    | none => course = [(w, .lost deadlineFault)] ∧ w.call.outcome = none ∧
        exists c, w.transfers = [.taken c] := by
  have hdeadline := @deadline?_of_timeout clockStart request limit w htimeout
  cases hafter : Clock.after? (clockStart + w.now * 1000000) limit with
  | some reading =>
      rw [hafter, Option.map_some] at hdeadline
      have hclock : deadline? clockStart request w ≠ none := by
        rw [hdeadline]
        exact Option.some_ne_none _
      rcases course_ends hconduct hpolicy hrelease hhops hlaunch hdeadline
        (Or.inl (Option.some_ne_none _)) with ⟨v, hlast⟩
      have hv := List.mem_of_getLast? hlast
      rcases custody_course hconduct hpolicy hrelease hhops hlaunch hclock _ hv with
        ⟨_, closed, hcustody⟩
      exact ⟨v, hlast, isDone_of_over hconduct hhops hlaunch hv, hcustody.conserves⟩
  | none =>
      rw [hafter, Option.map_none] at hdeadline
      rcases launch_eq_underway hlaunch with ⟨h, rest, rfl, rfl, rfl⟩
      exact ⟨course_of_no_deadline hdeadline, outcome_withHooks plot rfl,
        (firstConnected request nextConnection h).2,
        transfers_withHooks hconduct plot request nextConnection h⟩

end

theorem ends_if_clock_holds_deadline_when_listener_breaks_down :
    exists w course v,
      launch brittleCaller brittleCaller.reaction 0 1 plainPlot
          (plainRequest (some (.ofSeconds 1 0))) [plainHop 5, plainHop 7] =
        .underway w course ∧
      course.getLast? = some (v, .over) ∧ v.call.isDone = true ∧ v.Conserves False none := by
  have hwithin : brittleCaller.Within False := by decide
  have hspares : brittleCaller.Spares .release := by decide
  have hhops : forall h, h ∈ [plainHop 5, plainHop 7] ->
      Orderly False h.acquireActions ∧ Orderly False h.actions := by decide
  have hlaunch : launch brittleCaller brittleCaller.reaction 0 1 plainPlot
      (plainRequest (some (.ofSeconds 1 0))) [plainHop 5, plainHop 7] = .underway _ _ :=
    launch_of_connection rfl
  rcases ends_if_clock_holds_deadline (Caller.reaction_conduct hwithin)
    brittleCaller_policy_returns
    (Caller.release_returns brittleCaller_policy_returns hspares) hhops rfl hlaunch with
    ⟨v, hends⟩
  exact ⟨_, _, v, hlaunch, hends⟩

/-- The longest timeout is accepted, and the call is lost. -/
theorem longest_timeout_loses_call :
    exists client draft request w course c,
      Client.standard.apply (.timeout .longest) = .ok client ∧
      { client.draft with url := some (plainUrl "a.test") }.apply (.timeout .longest) =
        .ok draft ∧
      draft.build = .ok request ∧
      launch brittleCaller brittleCaller.reaction 0 1 plainPlot request [plainHop 5] =
        .underway w course ∧
      course = [(w, .lost deadlineFault)] ∧ w.call.isDone = false ∧
      w.transfers = [.taken c] := by
  refine ⟨_, _, _, _, _, ⟨1, ⟨"http", "a.test", 80⟩⟩, rfl, rfl, rfl, launch_of_connection rfl,
    ?_, ?_, ?_⟩
  · exact course_of_no_deadline (deadline?_of_longest rfl)
  · decide +kernel
  · decide +kernel

end Session
end HttpCall
