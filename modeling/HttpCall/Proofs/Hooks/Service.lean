import HttpCall.Proofs.Handling.Course
import HttpCall.Proofs.Hooks.Rounds

/-!
# Hooks at work

What is run as one piece, a publication, a handling or a block of the loop, makes turns
with all that user code does inside, and ends every round that is handed over meanwhile.
The journal tells of the hooks that were called, the caller's own result comes from the
hook that computes it, and numbers are given to hooks in the order of registration.
-/

namespace HttpCall

def Entry.completed? : Entry -> Option (Nat × Outcome)
  | completed n o => some (n, o)
  | _ => none

def Hook.told (p : Hook × Outcome) : Option (Nat × Outcome) :=
  match p.1 with
  | numbered n => some (n, p.2)
  | transform => none

theorem Entry.Notice.completed?_eq_none {m : Moment} {e : Entry} (h : Notice m e) :
    e.completed? = none := by
  cases h <;> rfl

namespace World

def completions (w : World) : List (Nat × Outcome) :=
  (w.entries.filterMap Entry.completed?).reverse

def resultAfter (own : Outcome -> Except Failure Json)
    (result : Option (Except Failure Json)) (p : Hook × Outcome) :
    Option (Except Failure Json) :=
  match p.1 with
  | .numbered _ => result
  | .transform => some (own p.2)

theorem completions_note (w : World) (e : Entry) :
    (w.note e).completions = w.completions ++ e.completed?.toList := by
  unfold completions
  cases hcompleted : e.completed? <;> simp [hcompleted]

/-- The turns lead from the world `v` and its rounds to the world `w` and its own, and all
that can be seen of hooks keeps to them. -/
structure Follows (own : Outcome -> Except Failure Json) (turns : List Turn) (v : World)
    (rounds : List Round) (w : World) (rounds' : List Round) : Prop where
  course : Roster.Course ⟨v.call, rounds⟩ turns ⟨w.call, rounds'⟩
  completions : w.completions = v.completions ++ (Turn.runs turns).filterMap Hook.told
  result : w.result = (Turn.runs turns).foldl (resultAfter own) v.result
  numbers : exists ns, List.range w.nextHook = List.range v.nextHook ++ ns ∧
    Turn.registered turns = ns.map Hook.numbered

/-- Turns lead to the world `w` and the rounds `now`, besides rounds that began and ended
meanwhile. -/
def Tended (own : Outcome -> Except Failure Json) (v : World) (rounds : List Round) (w : World)
    (now : List Round) : Prop :=
  exists more turns, more.all Round.isOver = true ∧
    Follows own turns v rounds w (now ++ more)

/-- Whatever rounds there are, they are left as they are, and others are brought to their
ends. -/
def Tends (own : Outcome -> Except Failure Json) (v w : World) : Prop :=
  forall rounds, Tended own v rounds w rounds

section

variable {own : Outcome -> Except Failure Json} {u v w : World} {rounds now : List Round}

theorem Follows.refl (own : Outcome -> Except Failure Json) (w : World) (rounds : List Round) :
    Follows own [] w rounds w rounds where
  course := .nil _
  completions := (List.append_nil _).symm
  result := rfl
  numbers := ⟨[], (List.append_nil _).symm, rfl⟩

theorem Follows.trans {turns more : List Turn} {rounds' rounds'' : List Round}
    (huv : Follows own turns u rounds v rounds')
    (hvw : Follows own more v rounds' w rounds'') :
    Follows own (turns ++ more) u rounds w rounds'' where
  course := huv.course.append hvw.course
  completions := by
    rw [hvw.completions, huv.completions, Turn.runs_append, List.filterMap_append,
      List.append_assoc]
  result := by
    rw [hvw.result, huv.result, Turn.runs_append, List.foldl_append]
  numbers := by
    rcases huv.numbers with ⟨ns, hrange, hregistered⟩
    rcases hvw.numbers with ⟨ms, hrange', hregistered'⟩
    refine ⟨ns ++ ms, ?_, ?_⟩
    · rw [hrange', hrange, List.append_assoc]
    · rw [Turn.registered_append, hregistered, hregistered', List.map_append]

theorem Follows.of_access {a : Access} {ns : List Nat} (hcall : w.call = v.call.access a)
    (hjournal : w.journal = v.journal) (hresult : w.result = v.result)
    (hrange : List.range w.nextHook = List.range v.nextHook ++ ns)
    (hregistered : a.registered?.toList = ns.map Hook.numbered) :
    Follows own [.access a] v rounds w (rounds ++ (v.call.handed a).toList) where
  course := by
    rw [hcall]
    exact .single (.access v.call rounds a)
  completions := by
    unfold World.completions entries
    rw [hjournal]
    exact (List.append_nil _).symm
  result := hresult
  numbers := by
    refine ⟨ns, hrange, ?_⟩
    rw [← hregistered]
    cases a <;> rfl

theorem Tends.refl (own : Outcome -> Except Failure Json) (w : World) : Tends own w w := by
  intro rounds
  refine ⟨[], [], rfl, ?_⟩
  rw [List.append_nil]
  exact Follows.refl own w rounds

namespace Tended

theorem trans (h : Tended own u rounds v now) (hvw : Tends own v w) :
    Tended own u rounds w now := by
  rcases h with ⟨more, turns, hover, hfollows⟩
  rcases hvw (now ++ more) with ⟨most, turns', hover', hfollows'⟩
  rw [List.append_assoc] at hfollows'
  refine ⟨more ++ most, turns ++ turns', ?_, hfollows.trans hfollows'⟩
  rw [List.all_append, hover, hover']
  rfl

theorem of_same (h : Tended own u rounds v now) (hcall : w.call = v.call)
    (hcompletions : w.completions = v.completions) (hresult : w.result = v.result)
    (hnumber : w.nextHook = v.nextHook) : Tended own u rounds w now := by
  rcases h with ⟨more, turns, hover, hfollows⟩
  refine ⟨more, turns, hover, ?_⟩
  constructor
  · rw [hcall]
    exact hfollows.course
  · rw [hcompletions]
    exact hfollows.completions
  · rw [hresult]
    exact hfollows.result
  · rw [hnumber]
    exact hfollows.numbers

theorem note (h : Tended own u rounds w now) {e : Entry} (he : e.completed? = none) :
    Tended own u rounds (w.note e) now := by
  refine h.of_same (w := w.note e) rfl ?_ rfl rfl
  rw [completions_note, he]
  exact List.append_nil _

theorem turn {r r' : Round} {turn : Turn} (h : Tended own u rounds v (rounds ++ [r]))
    (hstep : forall after, Roster.Step ⟨v.call, rounds ++ r :: after⟩ turn
      ⟨v.call, rounds ++ r' :: after⟩)
    (haccess : turn.access? = none) (hcall : w.call = v.call)
    (hcompletions : w.completions =
      v.completions ++ (turn.run?.bind Hook.told).toList)
    (hresult : w.result = turn.run?.toList.foldl (resultAfter own) v.result)
    (hnumber : w.nextHook = v.nextHook) :
    Tended own u rounds w (rounds ++ [r']) := by
  rcases h with ⟨more, turns, hover, hfollows⟩
  have hruns : Turn.runs [turn] = turn.run?.toList := by
    cases hrun : turn.run? <;> simp [Turn.runs, hrun]
  have hnext : Follows own [turn] v (rounds ++ [r] ++ more) w (rounds ++ [r'] ++ more) := by
    constructor
    · rw [hcall]
      simp only [List.append_assoc, List.singleton_append]
      exact .single (hstep more)
    · rw [hcompletions, hruns]
      cases turn.run? with
      | none => rfl
      | some p => cases htold : Hook.told p <;> simp [htold]
    · rw [hresult, hruns]
    · refine ⟨[], ?_, ?_⟩
      · rw [hnumber]
        exact (List.append_nil _).symm
      · simp [Turn.registered, Turn.accesses, haccess]
  exact ⟨more, turns ++ [turn], hover, hfollows.trans hnext⟩

theorem ended {r : Round} (h : Tended own u rounds w (rounds ++ [r]))
    (hr : r.isOver = true) : Tended own u rounds w rounds := by
  rcases h with ⟨more, turns, hover, hfollows⟩
  rw [List.append_assoc] at hfollows
  refine ⟨[r] ++ more, turns, ?_, hfollows⟩
  rw [List.all_append, hover, List.all_cons, hr]
  rfl

theorem of_handed {a : Access} {r : Round} {ns : List Nat} (hhanded : v.call.handed a = some r)
    (hcall : w.call = v.call.access a) (hjournal : w.journal = v.journal)
    (hresult : w.result = v.result)
    (hrange : List.range w.nextHook = List.range v.nextHook ++ ns)
    (hregistered : a.registered?.toList = ns.map Hook.numbered) (rounds : List Round) :
    Tended own v rounds w (rounds ++ [r]) := by
  have hfollows : Follows own [.access a] v rounds w
      (rounds ++ (v.call.handed a).toList) :=
    .of_access hcall hjournal hresult hrange hregistered
  refine ⟨[], [.access a], rfl, ?_⟩
  rw [List.append_nil]
  rw [hhanded] at hfollows
  exact hfollows

end Tended

theorem Tends.of_access {a : Access} (hregistered : a.registered? = none)
    (hhanded : v.call.handed a = none) (hcall : w.call = v.call.access a)
    (hjournal : w.journal = v.journal) (hresult : w.result = v.result)
    (hnumber : w.nextHook = v.nextHook) : Tends own v w := by
  intro rounds
  have hrange : List.range w.nextHook = List.range v.nextHook ++ [] := by
    rw [hnumber, List.append_nil]
  have hfollows : Follows own [.access a] v rounds w
      (rounds ++ (v.call.handed a).toList) :=
    .of_access hcall hjournal hresult hrange (by rw [hregistered]; rfl)
  rw [hhanded] at hfollows
  exact ⟨[], [.access a], rfl, hfollows⟩

end

def TendsIn (own : Outcome -> Except Failure Json) (react : Reaction) : Prop :=
  forall m v, Tends own v (react m v).1

section Handling

variable {caller : Caller} {react : Reaction} {u v w : World} {rounds now : List Round}

theorem tended_fire (hreact : TendsIn (resultOf caller) react) (m : Moment) {e : Entry}
    (he : e.completed? = none) (h : Tended (resultOf caller) u rounds w now) :
    Tended (resultOf caller) u rounds (w.fire react m e).1 now :=
  (h.note he).trans (hreact m _)

theorem tended_runHook (hreact : TendsIn (resultOf caller) react) {o : Outcome} {hook : Hook}
    {rest : List Hook}
    (h : Tended (resultOf caller) u rounds w (rounds ++ [⟨o, hook :: rest, false⟩])) :
    Tended (resultOf caller) u rounds (w.runHook caller react o hook)
      (rounds ++ [⟨o, rest, false⟩]) := by
  have hstart : forall x : World, x.call = w.call ->
      x.completions = w.completions ++ (Hook.told (hook, o)).toList ->
      x.result = resultAfter (resultOf caller) w.result (hook, o) -> x.nextHook = w.nextHook ->
      Tended (resultOf caller) u rounds x (rounds ++ [⟨o, rest, true⟩]) :=
    fun x hcall hcompletions hresult hnumber =>
      h.turn (fun after => .start w.call rounds after o hook rest) rfl hcall hcompletions
        hresult hnumber
  have hfinish : forall (x : World) (fault? : Option Fault),
      Tended (resultOf caller) u rounds x (rounds ++ [⟨o, rest, true⟩]) ->
      Tended (resultOf caller) u rounds x (rounds ++ [⟨o, rest, false⟩]) :=
    fun x fault? hx =>
      hx.turn (fun after => .finish x.call rounds after o rest fault?) rfl rfl
        (List.append_nil _).symm rfl rfl
  cases hook with
  | numbered n =>
      have hstarted := hstart (w.note (.completed n o)) rfl (completions_note _ _) rfl rfl
      exact hfinish _ (w.fire react .complete (.completed n o)).2
        (hstarted.trans (hreact .complete _))
  | transform =>
      exact hfinish _ none
        (hstart { w with result := some (resultOf caller o) } rfl (List.append_nil _).symm
          rfl rfl)

theorem tended_foldl_runHook (hreact : TendsIn (resultOf caller) react) {o : Outcome}
    (hooks : List Hook)
    (h : Tended (resultOf caller) u rounds w (rounds ++ [⟨o, hooks, false⟩])) :
    Tended (resultOf caller) u rounds (hooks.foldl (runHook caller react o) w) rounds := by
  induction hooks generalizing w with
  | nil =>
      exact h.ended rfl
  | cons hook rest ih =>
      exact ih (tended_runHook hreact h)

theorem tends_publish (hreact : TendsIn (resultOf caller) react) (w : World) :
    Tends (resultOf caller) w (w.publish caller react) := by
  intro rounds
  unfold publish
  split
  · rename_i o hooks call hpublish
    have hcall : call = w.call.access .publish := by
      simp [Call.access, hpublish]
    have hhanded : w.call.handed .publish = some ⟨o, hooks, false⟩ := by
      simp [Call.handed, hpublish]
    have hbegun : Tended (resultOf caller) w rounds { w with call := call }
        (rounds ++ [⟨o, hooks, false⟩]) :=
      .of_handed (w := { w with call := call }) hhanded hcall rfl rfl
        (List.append_nil _).symm rfl rounds
    exact tended_foldl_runHook hreact hooks (hbegun.note rfl)
  · exact Tends.refl _ w rounds

theorem tends_registerNumbered (hreact : TendsIn (resultOf caller) react) (w : World) :
    Tends (resultOf caller) w (w.registerNumbered caller react) := by
  intro rounds
  have hrange : List.range (w.nextHook + 1) = List.range w.nextHook ++ [w.nextHook] :=
    List.range_succ
  unfold registerNumbered register
  split
  · rename_i o hvisible
    have hhanded : w.call.handed (.register (.numbered w.nextHook)) =
        some ⟨o, [.numbered w.nextHook], false⟩ := by
      simp only [Call.handed, show w.call.visible = some o from hvisible]
      rfl
    have hcall : w.call = w.call.access (.register (.numbered w.nextHook)) := by
      simp [Call.access, show w.call.visible = some o from hvisible]
    have hbegun : Tended (resultOf caller) w rounds { w with nextHook := w.nextHook + 1 }
        (rounds ++ [⟨o, [.numbered w.nextHook], false⟩]) :=
      .of_handed (w := { w with nextHook := w.nextHook + 1 }) hhanded hcall rfl rfl hrange
        rfl rounds
    exact (tended_runHook hreact hbegun).ended rfl
  · rename_i hvisible
    have hnone : w.call.handed (.register (.numbered w.nextHook)) = none := by
      simp only [Call.handed, show w.call.visible = none from hvisible]
      rfl
    have hcall : w.call.enqueue (.numbered w.nextHook) =
        w.call.access (.register (.numbered w.nextHook)) := by
      simp [Call.access, show w.call.visible = none from hvisible]
    have hfollows : Follows (resultOf caller)
        [.access (.register (.numbered w.nextHook))] w rounds
        { w with
          nextHook := w.nextHook + 1
          call := w.call.enqueue (.numbered w.nextHook) }
        (rounds ++ (w.call.handed (.register (.numbered w.nextHook))).toList) :=
      .of_access hcall rfl rfl hrange rfl
    rw [hnone] at hfollows
    exact ⟨[], _, rfl, hfollows⟩

theorem tends_settle (caller : Caller) (held : Option Connection) (o : Outcome) (w : World) :
    Tends (resultOf caller) w (w.settle held o).1 := by
  unfold settle
  split
  · rename_i call hsettle
    have hcall : call = w.call.access (.settle o) := by
      simp [Call.access, hsettle]
    have hsettled : Tends (resultOf caller) w { w with call := call } :=
      .of_access (a := .settle o) rfl rfl hcall rfl rfl rfl
    exact fun rounds => (hsettled rounds).note rfl
  · exact Tends.refl _ w

theorem tends_notifyException (hreact : TendsIn (resultOf caller) react) (listeners : Listeners)
    (e : TransportError) (w : World) :
    Tends (resultOf caller) w (w.notifyException react listeners e) := by
  unfold notifyException fireIf
  split
  · exact fun rounds => tended_fire hreact .exception rfl (Tends.refl _ w rounds)
  · exact Tends.refl _ w

theorem Tends.trans (huv : Tends (resultOf caller) u v) (hvw : Tends (resultOf caller) v w) :
    Tends (resultOf caller) u w :=
  fun rounds => (huv rounds).trans hvw

/-- In all its phases a handling leaves the rounds of others as they are. -/
theorem tends_outline (hreact : TendsIn (resultOf caller) react) (c : Connection) (u : World) :
    Outline caller react c (fun _ => Tends (resultOf caller) u) (Tends (resultOf caller) u)
      (fun _ => Tends (resultOf caller) u) (Tends (resultOf caller) u) where
  notice hnotice h rounds := tended_fire hreact _ hnotice.completed?_eq_none (h rounds)
  cookie k h := h.trans (.of_access (a := .addCookie k) rfl rfl rfl rfl rfl rfl)
  settle o h := h.trans (tends_settle caller (some c) o _)
  follow {first w call} h hcount := by
    have hcall : call = w.call.access .countRedirect := by
      simp [Call.access, hcount]
    exact h.trans (.of_access (a := .countRedirect) rfl rfl hcall rfl rfl rfl)
  release h rounds := tended_fire hreact .release rfl (h rounds)
  publish h := h.trans (tends_publish hreact _)
  leave h := h

theorem tends_handle (hreact : TendsIn (resultOf caller) react) (listeners : Listeners)
    (c : Connection) (request : Request) (event : Event) (w : World) :
    Tends (resultOf caller) w (w.handle caller react listeners c request event).1 :=
  (tends_outline hreact c w).kept listeners request event (Tends.refl _ w)

theorem tends_of_deed {meddling : Prop} (h : Deed caller meddling v w) :
    Tends (resultOf caller) v w := by
  induction h with
  | idle w =>
      exact Tends.refl _ w
  | andThen _ _ huv hvw =>
      exact huv.trans hvw
  | poll w =>
      exact fun rounds => (Tends.refl _ w rounds).note rfl
  | hook react w _ ih =>
      exact tends_registerNumbered ih w
  | bring target w _ =>
      intro rounds
      have hconnected : Tended (resultOf caller) w rounds (w.connect target).1 rounds :=
        (Tends.refl _ w rounds).of_same rfl rfl rfl rfl
      exact hconnected.note rfl
  | handle policy react listeners c request event w _ _ _ ih =>
      -- the policy of the caller has no part in what becomes of hooks
      have hreact : TendsIn (resultOf { caller with policy := policy }) react := ih
      exact tends_handle hreact listeners c request event w
  | injected step w _ =>
      exact fun rounds => (Tends.refl _ w rounds).note rfl

theorem Conduct.tendsIn {meddling : Prop} (h : Conduct caller meddling react) :
    TendsIn (resultOf caller) react :=
  fun m v => tends_of_deed (h m v)

/-!
## Blocks of the loop
-/

theorem tends_release (hreact : TendsIn (resultOf caller) react) (c : Connection) (w : World) :
    Tends (resultOf caller) w (w.release react c).1 :=
  fun rounds => tended_fire hreact .release rfl (Tends.refl _ w rounds)

theorem tends_onEvent (hreact : TendsIn (resultOf caller) react) (listeners : Listeners)
    (c : Connection) (hop : Nat) (request : Request) (event : Event) (w : World) :
    Tends (resultOf caller) w (w.onEvent caller react listeners c hop request event).1 := by
  have hhandle := tends_handle hreact listeners c request event w
  unfold onEvent
  split
  · rename_i v hv
    rw [hv] at hhandle
    exact hhandle
  · rename_i v location status hv
    rw [hv] at hhandle
    rw [releaseThen_eq]
    exact hhandle.trans (tends_release hreact c v)
  · rename_i v fault hv
    rw [hv] at hhandle
    exact hhandle

theorem tends_onUnavailable (hreact : TendsIn (resultOf caller) react) (listeners : Listeners)
    (e : TransportError) (w : World) :
    Tends (resultOf caller) w (w.onUnavailable caller react listeners e).1 := by
  have hsettled := (tends_notifyException hreact listeners e w).trans
    (tends_settle caller none (.error (.transport e.message)) _)
  unfold onUnavailable publishIf
  dsimp only
  split
  · exact hsettled.trans (tends_publish hreact _)
  · exact hsettled

theorem tends_upkeep (k : Conditions) (hconduct : Conduct k.caller True k.reaction)
    (u : World) : Upkeep k (fun _ => True) (fun w _ => Tends (resultOf k.caller) u w) where
  pass _ h rounds := (h rounds).of_same rfl rfl rfl rfl
  act {w stage actions} _ h :=
    h.trans (tends_of_deed (act_deed hconduct actions (fun _ _ _ => trivial) w))
  send {w c hop request} h rounds := by
    have hsame : Tended (resultOf k.caller) u rounds { w with request := request } rounds :=
      (h rounds).of_same rfl rfl rfl rfl
    exact hsame.note rfl
  answer event h := h.trans (tends_onEvent hconduct.tendsIn k.listeners _ _ _ event _)
  expire h _ := h.trans (tends_release hconduct.tendsIn _ _)
  ask h rounds := (h rounds).of_same rfl rfl rfl rfl
  grant {w hop request} h rounds := by
    have hconnected : Tended (resultOf k.caller) u rounds (w.connect request.target).1 rounds :=
      (h rounds).of_same rfl rfl rfl rfl
    exact hconnected.note rfl
  refuse _ h rounds := (h rounds).note rfl
  unavailable e h := h.trans (tends_onUnavailable hconduct.tendsIn k.listeners e _)

end Handling
end World
end HttpCall
