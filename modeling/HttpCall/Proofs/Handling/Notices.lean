import HttpCall.Proofs.Trace.Telling

/-!
# Notices

A plan begins with what listeners are told, in order.  Carrying out a plan is telling them,
up to the first that breaks down, and then either the rest of the plan or what an error
comes to.  A handling makes a plan, carries it out, and gives its connection back unless
the plan ended with a redirect.
-/

namespace HttpCall

theorem Plan.destination_eq_some {policy : Policy} {snapshot : Snapshot} {request : Request}
    {r : Response} {location : Url} :
    destination policy snapshot request r = .ok (some location) <->
      snapshot.phase = .pending ∧
        policy.consult r request snapshot.redirects = .ok (some location) := by
  unfold destination
  by_cases hpending : snapshot.phase = .pending <;> simp [hpending]

theorem Plan.not_isTelling_of_mem_conclusion {r : Response} {location? : Option Url}
    {e : Effect} (he : e ∈ conclusion r location?) : e.isTelling = false := by
  cases location? with
  | some location =>
      cases List.mem_singleton.mp he
      rfl
  | none =>
      rcases List.mem_cons.mp he with rfl | he
      · rfl
      · cases List.mem_singleton.mp he
        rfl

theorem plan_response_eq_ok {policy : Policy} {snapshot : Snapshot} {request : Request}
    {r : Response} {effects : List Effect}
    (h : plan policy snapshot request (.response r) = .ok effects) :
    exists location?, Plan.destination policy snapshot request r = .ok location? ∧
      effects = Plan.notices r ++ Plan.conclusion r location? := by
  simp only [plan] at h
  cases hdestination : Plan.destination policy snapshot request r with
  | error fault =>
      rw [hdestination] at h
      cases h
  | ok location? =>
      rw [hdestination] at h
      cases h
      exact ⟨location?, rfl, rfl⟩

theorem isTelling_before_notice {policy : Policy} {snapshot : Snapshot} {request : Request}
    {r : Response} {before after : List Effect} {effect : Effect}
    (hplan : plan policy snapshot request (.response r) = .ok (before ++ effect :: after))
    (heffect : effect.isTelling = true) :
    forall e, e ∈ before -> e.isTelling = true := by
  rcases plan_response_eq_ok hplan with ⟨location?, _, hsplit⟩
  rcases List.append_eq_append_iff.mp hsplit with ⟨more, hnotices, _⟩ | ⟨more, _, hrest⟩
  · intro e he
    exact Plan.isTelling_of_mem_notices (hnotices ▸ List.mem_append_left more he)
  · have hmem : effect ∈ Plan.conclusion r location? := by
      rw [hrest]
      exact List.mem_append_right more List.mem_cons_self
    rw [Plan.not_isTelling_of_mem_conclusion hmem] at heffect
    cases heffect

namespace World

def tell (react : Reaction) (listeners : Listeners) : Effect -> World -> World × Option Fault
  | .notifyHeaders h, w => w.fireIf listeners.headers react .headers (.headers h)
  | .recordCookie k, w =>
      { w with call := w.call.addCookie k }.fireIf listeners.cookie react .cookie (.cookie k)
  | .notifyResponse r, w => w.fireIf listeners.response react .response (.response r)
  | _, w => (w, none)

def tellAll (react : Reaction) (listeners : Listeners) :
    List Effect -> World -> World × Option Fault
  | [], w => (w, none)
  | effect :: rest, w =>
      match w.tell react listeners effect with
      | (v, none) => v.tellAll react listeners rest
      | (v, some fault) => (v, some fault)

section

variable {caller : Caller} {react : Reaction} {listeners : Listeners} {c : Connection}
  {u v w : World} {fault : Fault}

theorem isTelling_of_fault {effect : Effect}
    (h : w.tell react listeners effect = (v, some fault)) : effect.isTelling = true := by
  cases effect <;> first | rfl | cases h

/-!
## Carrying out a plan
-/

theorem perform_cons_of_isTelling {effect : Effect} (h : effect.isTelling = true)
    (rest : List Effect) (first : Bool) (w : World) :
    perform react listeners c (effect :: rest) first w =
      afterListener react listeners c (perform react listeners c rest first)
        (w.tell react listeners effect) := by
  cases effect <;> first | rfl | cases h

theorem perform_telling {notices : List Effect}
    (hnotices : forall e, e ∈ notices -> e.isTelling = true) (rest : List Effect)
    (first : Bool) (w : World) :
    perform react listeners c (notices ++ rest) first w =
      afterListener react listeners c (perform react listeners c rest first)
        (w.tellAll react listeners notices) := by
  induction notices generalizing w with
  | nil =>
      rfl
  | cons effect notices ih =>
      have hrest := ih (fun e he => hnotices e (List.mem_cons_of_mem effect he))
      rw [List.cons_append, perform_cons_of_isTelling (hnotices effect List.mem_cons_self),
        tellAll]
      rcases w.tell react listeners effect with ⟨v, _ | broken⟩
      · exact hrest v
      · rfl

/-- After a listener broke down, what is done is what the plan of an error says. -/
theorem afterListener_of_fault (next : World -> World × Ending) (v : World) (fault : Fault) :
    afterListener react listeners c next (v, some fault) =
      perform react listeners c
        [.notifyException (listenerError fault),
          .fail (.transport (listenerError fault).message), .release] false v := rfl

/-!
## Handlings
-/

/-- What becomes of the connection, and what the handling says of it. -/
theorem handle_cases (caller : Caller) (react : Reaction) (listeners : Listeners)
    (c : Connection) (request : Request) (event : Event) (w : World) :
    (exists fault, plan caller.policy w.call.snapshot request event = .error fault ∧
        w.handle caller react listeners c request event = (w, .error fault)) ∨
      exists effects, plan caller.policy w.call.snapshot request event = .ok effects ∧
        ((exists v location status,
            perform react listeners c effects false w = (v, .follow location status) ∧
            w.handle caller react listeners c request event =
              (v, .ok (.redirect location status))) ∨
          exists v first,
            perform react listeners c effects false w = (v, .release first) ∧
            w.handle caller react listeners c request event =
              ((v.release react c).1.publishIf first caller react,
                match (v.release react c).2 with
                | none => .ok .done
                | some fault => .error fault)) := by
  cases hplan : plan caller.policy w.call.snapshot request event with
  | error fault =>
      refine Or.inl ⟨fault, rfl, ?_⟩
      simp only [handle, hplan]
  | ok effects =>
      refine Or.inr ⟨effects, rfl, ?_⟩
      unfold handle
      rw [hplan]
      dsimp only
      rcases perform react listeners c effects false w with ⟨v, first | ⟨location, status⟩⟩
      · refine Or.inr ⟨v, first, rfl, ?_⟩
        dsimp only
        rcases v.release react c with ⟨x, _ | fault⟩ <;> rfl
      · exact Or.inl ⟨v, location, status, rfl, rfl⟩

theorem handle_eq_of_perform_eq {request : Request} {event other : Event}
    {effects effects' : List Effect}
    (hplan : plan caller.policy w.call.snapshot request event = .ok effects)
    (hplan' : plan caller.policy v.call.snapshot request other = .ok effects')
    (hperform : perform react listeners c effects false w =
      perform react listeners c effects' false v) :
    w.handle caller react listeners c request event =
      v.handle caller react listeners c request other := by
  unfold handle
  rw [hplan, hplan']
  dsimp only
  rw [hperform]

end
end World
end HttpCall
