import HttpCall.Proofs.Handling.Notices

/-!
# Listeners that break down

A listener that breaks down does not end the handling of a response, but turns it into the
handling of an error.  Wherever in the plan it stands, from there on everything is as if
the connection had reported that error: what is told, what is recorded, and in what order
the connection is given back and the outcome published.
-/

namespace HttpCall
namespace World

variable {caller : Caller} {react : Reaction} {listeners : Listeners} {c : Connection}
  {request : Request} {r : Response} {before after : List Effect} {effect : Effect}
  {u v w : World} {fault : Fault}

/-- Carrying out a plan with a listener that breaks down is carrying out the plan of an
error from there on. -/
theorem perform_of_fault (hnotices : forall e, e ∈ before -> e.isTelling = true)
    (hbefore : w.tellAll react listeners before = (u, none))
    (hfault : u.tell react listeners effect = (v, some fault)) :
    perform react listeners c (before ++ effect :: after) false w =
      perform react listeners c
        [.notifyException (listenerError fault),
          .fail (.transport (listenerError fault).message), .release] false v := by
  rw [perform_telling hnotices, hbefore]
  show perform react listeners c (effect :: after) false u = _
  rw [perform_cons_of_isTelling (isTelling_of_fault hfault), hfault, afterListener_of_fault]

theorem handle_error_result (e : TransportError) (v : World) :
    (v.handle caller react listeners c request (.error e)).2 = .ok .done ∨
      exists x broken, (release react c x).2 = some broken ∧
        (v.handle caller react listeners c request (.error e)).2 = .error broken := by
  rcases handle_cases caller react listeners c request (.error e) v with
    ⟨broken, hplan, _⟩ | ⟨effects, hplan, hfollow | ⟨x, first, _, hhandle⟩⟩
  · cases hplan
  · rcases hfollow with ⟨x, location, status, hperform, _⟩
    cases hplan
    cases hperform
  · rw [hhandle]
    cases hreleased : (x.release react c).2 with
    | none => exact Or.inl rfl
    | some broken => exact Or.inr ⟨x, broken, hreleased, rfl⟩

/-- If the effects of a plan are carried out up to one whose listener breaks down, the
handling of the response goes on as the handling of an error that tells of it, to the last
detail of the world that it leaves; and it is done, unless the release breaks down. -/
theorem breakdown_handled_as_error
    (hplan : plan caller.policy w.call.snapshot request (.response r) =
      .ok (before ++ effect :: after))
    (hbefore : w.tellAll react listeners before = (u, none))
    (hfault : u.tell react listeners effect = (v, some fault)) :
    w.handle caller react listeners c request (.response r) =
        v.handle caller react listeners c request
          (.error ⟨.listener, "listener panicked: " ++ fault.message⟩) ∧
      ((w.handle caller react listeners c request (.response r)).2 = .ok .done ∨
        exists x broken, (release react c x).2 = some broken ∧
          (w.handle caller react listeners c request (.response r)).2 = .error broken) := by
  have hnotices := isTelling_before_notice hplan (isTelling_of_fault hfault)
  have hsame : w.handle caller react listeners c request (.response r) =
      v.handle caller react listeners c request (.error (listenerError fault)) :=
    handle_eq_of_perform_eq hplan rfl (perform_of_fault hnotices hbefore hfault)
  refine ⟨hsame, ?_⟩
  rw [hsame]
  exact handle_error_result (listenerError fault) v

end World

namespace Session

def startledCaller : Caller where
  policy := .never
  triggers := [⟨.cookie, 2, [.breakDown (.text "listener bug")]⟩,
    ⟨.exception, 1, [.breakDown .other]⟩]
  transform _ := .ok .null

def twoCookies : Response where
  status := .ok
  version := .http11
  headers := (Headers.empty.append .setCookie (.ofPlain "a=1")).append .setCookie
    (.ofPlain "b=2")
  body := []
  url := plainUrl "a.test"

theorem second_cookie_handled_as_error :
    exists u v,
      World.tellAll startledCaller.reaction .all
          [.notifyHeaders twoCookies.headers, .recordCookie (.bare "a" "1")]
          (firstConnected (plainRequest none) 1 (plainHop 5)).1 = (u, none) ∧
        u.tell startledCaller.reaction .all (.recordCookie (.bare "b" "2")) =
          (v, some (.text "listener bug")) ∧
        v.call.cookies.map Cookie.name = ["a", "b"] ∧
        World.handle startledCaller startledCaller.reaction .all
            (firstConnected (plainRequest none) 1 (plainHop 5)).2 (plainRequest none)
            (.response twoCookies) (firstConnected (plainRequest none) 1 (plainHop 5)).1 =
          v.handle startledCaller startledCaller.reaction .all
            (firstConnected (plainRequest none) 1 (plainHop 5)).2 (plainRequest none)
            (.error ⟨.listener, "listener panicked: listener bug"⟩) ∧
        (World.handle startledCaller startledCaller.reaction .all
            (firstConnected (plainRequest none) 1 (plainHop 5)).2 (plainRequest none)
            (.response twoCookies)
            (firstConnected (plainRequest none) 1 (plainHop 5)).1).2 = .ok .done := by
  have hcookies : Plan.cookiesOf twoCookies = [.bare "a" "1", .bare "b" "2"] := by
    decide +kernel
  have hplan : plan startledCaller.policy
      (firstConnected (plainRequest none) 1 (plainHop 5)).1.call.snapshot (plainRequest none)
      (.response twoCookies) =
        .ok ([.notifyHeaders twoCookies.headers, .recordCookie (.bare "a" "1")] ++
          .recordCookie (.bare "b" "2") ::
            [.notifyResponse twoCookies, .succeed twoCookies, .release]) := by
    show Except.ok (Plan.notices twoCookies ++ Plan.conclusion twoCookies none) = _
    rw [Plan.notices, hcookies]
    rfl
  have htold : World.tellAll startledCaller.reaction .all
      [.notifyHeaders twoCookies.headers, .recordCookie (.bare "a" "1")]
      (firstConnected (plainRequest none) 1 (plainHop 5)).1 = (_, none) :=
    Prod.ext rfl (by decide +kernel)
  have hfault : World.tell startledCaller.reaction .all (.recordCookie (.bare "b" "2"))
      (World.tellAll startledCaller.reaction .all
        [.notifyHeaders twoCookies.headers, .recordCookie (.bare "a" "1")]
        (firstConnected (plainRequest none) 1 (plainHop 5)).1).1 =
          (_, some (.text "listener bug")) :=
    Prod.ext rfl (by decide +kernel)
  have hsame := World.breakdown_handled_as_error
    (c := (firstConnected (plainRequest none) 1 (plainHop 5)).2) hplan htold hfault
  refine ⟨_, _, htold, hfault, by decide +kernel, hsame.left, ?_⟩
  rcases hsame.right with hdone | ⟨x, broken, hbroken, _⟩
  · exact hdone
  · have hreturns : (x.release startledCaller.reaction
        (firstConnected (plainRequest none) 1 (plainHop 5)).2).2 = none := rfl
    cases hreturns.symm.trans hbroken

end Session
end HttpCall
