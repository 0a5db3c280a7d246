import HttpCall.Proofs.Handling.Drift

/-!
# Cookies that are told

A cookie is recorded first and told right after.  So whenever user code runs, the cookie
listener was called with the cookies that are recorded by then, the one that it is called
with included.  User code need not be trusted more than that: as long as it finds the
recorded cookies told, it handles no events for the call.
-/

namespace HttpCall

/-- The well-formed cookies among headers, in their order.  A value that is not plain ASCII
is no cookie. -/
def Headers.cookies (h : Headers) : List Cookie :=
  (h.values .setCookie).filterMap fun v => v.text?.bind Cookie.parse?

theorem Plan.cookiesOf_eq (r : Response) : cookiesOf r = r.headers.cookies := by
  unfold cookiesOf Response.setCookies Headers.cookies
  rw [List.filterMap_filterMap]

namespace Entry

def isTelling : Entry -> Bool
  | headers _ | cookie _ | response _ => true
  | _ => false

def cookie? : Entry -> Option Cookie
  | cookie k => some k
  | _ => none

end Entry

namespace World

/-- What listeners were told of responses, in order. -/
def tellings (w : World) : List Entry := (w.entries.filter Entry.isTelling).reverse

/-- The cookie listener was called with the recorded cookies, in their order and once
each; if there is one. -/
def CookiesTold (listeners : Listeners) (w : World) : Prop :=
  w.tellings.filterMap Entry.cookie? = if listeners.cookie then w.call.cookies else []

instance (listeners : Listeners) (w : World) : Decidable (w.CookiesTold listeners) :=
  inferInstanceAs (Decidable (_ = _))

/-- User code handles no events for the call, as long as it finds that the recorded cookies
were told. -/
def Relying (caller : Caller) (listeners : Listeners) (react : Reaction) : Prop :=
  forall m w, w.CookiesTold listeners -> Deed caller False w (react m w).1

theorem Conduct.relying {caller : Caller} {react : Reaction}
    (h : Conduct caller False react) (listeners : Listeners) :
    Relying caller listeners react :=
  fun m w _ => h m w

/-!
## While nobody is told
-/

/-- Since the world `v` no cookie was recorded, and nobody was told of a response.  An
outcome that was recorded stays, and was recorded only if that is allowed. -/
structure Lull (settling : Prop) (v w : World) : Prop where
  cookies : w.call.cookies = v.call.cookies
  redirects : w.call.redirects = v.call.redirects
  tellings : w.tellings = v.tellings
  history : v.journal <:+ w.journal
  pending : settling ∨ w.call.outcome = v.call.outcome
  recorded (o : Outcome) : v.call.outcome = some o -> w.call.outcome = some o
  shown (o : Outcome) : v.call.visible = some o -> w.call.visible = some o

section Lull

variable {settling : Prop} {listeners : Listeners} {u v w : World}

theorem Lull.of_same (hcall : w.call = v.call) (hjournal : w.journal = v.journal) :
    Lull settling v w where
  cookies := congrArg Call.cookies hcall
  redirects := congrArg Call.redirects hcall
  tellings := by
    unfold World.tellings entries
    rw [hjournal]
  history := hjournal ▸ List.suffix_refl _
  pending := Or.inr (congrArg Call.outcome hcall)
  recorded o ho := by
    rw [hcall]
    exact ho
  shown o ho := by
    rw [hcall]
    exact ho

theorem Lull.trans (huv : Lull settling u v) (hvw : Lull settling v w) :
    Lull settling u w where
  cookies := hvw.cookies.trans huv.cookies
  redirects := hvw.redirects.trans huv.redirects
  tellings := hvw.tellings.trans huv.tellings
  history := huv.history.trans hvw.history
  pending := by
    rcases huv.pending with hsettling | hfirst
    · exact Or.inl hsettling
    · exact hvw.pending.imp_right fun hsecond => hsecond.trans hfirst
  recorded o ho := hvw.recorded o (huv.recorded o ho)
  shown o ho := hvw.shown o (huv.shown o ho)

theorem Lull.allowing (h : Lull False v w) : Lull settling v w :=
  { h with pending := Or.inr (h.pending.resolve_left id) }

theorem Lull.cookiesTold (h : Lull settling v w) (hv : v.CookiesTold listeners) :
    w.CookiesTold listeners := by
  unfold CookiesTold
  rw [h.tellings, h.cookies]
  exact hv

theorem lull_note (w : World) {e : Entry} (he : e.isTelling = false) :
    Lull settling w (w.note e) where
  cookies := rfl
  redirects := rfl
  tellings := by
    unfold World.tellings
    rw [entries_note, List.filter_cons_of_neg (Bool.eq_false_iff.mp he)]
  history := List.suffix_cons _ _
  pending := Or.inr rfl
  recorded _ ho := ho
  shown _ ho := ho

theorem lull_access (w : World) {a : Access}
    (ha : a.isCommon = true ∨ settling ∧ (a.outcome?.isSome ∨ a.isPublish)) :
    Lull settling w (w.access a) where
  cookies := by
    cases a with
    | settle o =>
        cases houtcome : w.call.outcome <;> simp [access, Call.access, Call.settle?, houtcome]
    | publish =>
        cases houtcome : w.call.outcome <;> cases hpublished : w.call.published <;>
          simp [access, Call.access, Call.publish?, houtcome, hpublished]
    | register hook =>
        cases hvisible : w.call.visible <;>
          simp [access, Call.access, hvisible, Call.enqueue]
    | observe => rfl
    | countRedirect => simp [Access.isCommon, Access.outcome?, Access.isPublish] at ha
    | addCookie k => simp [Access.isCommon, Access.outcome?, Access.isPublish] at ha
  redirects := by
    have hcount : (w.access a).call.redirects = _ := Call.redirects_access w.call a
    cases a with
    | countRedirect => simp [Access.isCommon, Access.outcome?, Access.isPublish] at ha
    | _ => exact hcount
  tellings := rfl
  history := List.suffix_refl _
  pending := by
    rcases ha with hcommon | ⟨hsettling, _⟩
    · right
      have houtcome : (w.access a).call.outcome = _ := Call.outcome_access w.call a
      cases a with
      | register hook => simpa [Access.outcome?] using houtcome
      | observe => rfl
      | _ => cases hcommon
    · exact Or.inl hsettling
  recorded o ho := by
    have houtcome : (w.access a).call.outcome = _ := Call.outcome_access w.call a
    rw [houtcome, ho]
    rfl
  shown o ho := Call.visible_access ho a

/-- User code sees to a lull if it finds the recorded cookies told. -/
theorem lull_drift (settling : Prop) (listeners : Listeners) :
    Drift (fun e => e.isTelling = false)
      (fun a => settling ∧ (a.outcome?.isSome ∨ a.isPublish))
      (fun v w => v.CookiesTold listeners -> Lull settling v w) where
  refl _ _ := .of_same rfl rfl
  trans huv hvw hu := (huv hu).trans (hvw ((huv hu).cookiesTold hu))
  note {e} w he _ := by
    apply lull_note
    rcases he with hcommon | hnoted
    · cases e <;> first | rfl | cases hcommon
    · exact hnoted
  access w ha _ := lull_access w ha
  count _ _ _ _ _ := .of_same rfl rfl

end Lull

section Relying

variable {settling : Prop} {caller : Caller} {listeners : Listeners} {react : Reaction}
  {v w : World}

theorem Relying.lull (h : Relying caller listeners react) (settling : Prop) (m : Moment)
    (v : World) : v.CookiesTold listeners -> Lull settling v (react m v).1 := by
  intro hv
  have hlull := (lull_drift False listeners).of_deed False.elim (h m v hv) hv
  exact hlull.allowing

theorem Relying.visible_publish (h : Relying caller listeners react)
    (hw : w.CookiesTold listeners) {o : Outcome} (houtcome : w.call.outcome = some o) :
    (w.publish caller react).call.visible = some o := by
  have hpublished := @publish_induction caller react
    (fun v => v.CookiesTold listeners ∧ v.call.visible = some o) w
  refine (hpublished ?_ ?_ ?_).right
  · intro hnothing
    refine ⟨hw, Call.visible_eq_some.mpr ⟨?_, houtcome⟩⟩
    simpa [Call.publish?, houtcome] using hnothing
  · intro first hooks call hpublish
    have hcall : w.access .publish = { w with call := call } := by
      simp [access, Call.access, hpublish]
    have hlull : Lull True w ({ w with call := call }.note .published) :=
      hcall ▸ (lull_access w (Or.inr ⟨trivial, Or.inr rfl⟩)).trans (lull_note _ rfl)
    refine ⟨hlull.cookiesTold hw, ?_⟩
    cases (Call.of_publish? hpublish).left.symm.trans houtcome
    exact Call.visible_of_publish? hpublish
  · rintro first hooks call _ hook v ⟨hv, hvisible⟩
    have hlull : Lull False v (v.runHook caller react first hook) :=
      (lull_drift False listeners).runHook (h.lull False) first hook v hv
    exact ⟨hlull.cookiesTold hv, hlull.shown o hvisible⟩

end Relying

end World
end HttpCall
