import HttpCall.Proofs.Handling.Drift
import HttpCall.Proofs.Handling.Finish
import HttpCall.Proofs.Redirect.Limit

/-!
# The limit bounds the hops

The loop over hops has no counter of its own.  Each redirect that it follows raises the
count of the call, which nothing lowers, and is followed only while the count is below the
limit; so what is left up to the limit shrinks from hop to hop, whatever the policy says
and however many redirects others count meanwhile.
-/

namespace HttpCall

namespace Entry

def isSent : Entry -> Bool
  | sent _ => true
  | _ => false

def isExhaustion : Entry -> Bool
  | refused _ none => true
  | _ => false

end Entry

namespace World

def exchanges (w : World) : Nat := w.entries.countP Entry.isSent

def acquires (w : World) : Nat := w.asked + w.entries.countP Entry.isExhaustion

theorem exchanges_note (w : World) (e : Entry) :
    (w.note e).exchanges = w.exchanges + e.isSent.toNat := by
  unfold exchanges
  rw [entries_note, List.countP_cons]
  cases e.isSent <;> rfl

theorem acquires_note (w : World) (e : Entry) :
    (w.note e).acquires = w.acquires + e.isExhaustion.toNat := by
  unfold acquires
  rw [entries_note, List.countP_cons, ← Nat.add_assoc]
  cases e.isExhaustion <;> rfl

/-!
## What others do
-/

/-- Since the world `v` nothing was sent and the pool was not asked.  The loop counted a
number of redirects; more were counted only if others meddle. -/
structure Steady (meddling : Prop) (own : Nat) (v w : World) : Prop where
  exchanges : w.exchanges = v.exchanges
  acquires : w.acquires = v.acquires
  redirects : v.call.redirects + own <= w.call.redirects
  alone : ¬ meddling -> w.call.redirects = v.call.redirects + own

section

variable {meddling : Prop} {caller : Caller} {react : Reaction} {u v w : World}

theorem Steady.trans {own more : Nat} (huv : Steady meddling own u v)
    (hvw : Steady meddling more v w) : Steady meddling (own + more) u w where
  exchanges := hvw.exchanges.trans huv.exchanges
  acquires := hvw.acquires.trans huv.acquires
  redirects := by
    have hfirst := huv.redirects
    have hsecond := hvw.redirects
    omega
  alone := by
    intro halone
    rw [hvw.alone halone, huv.alone halone, Nat.add_assoc]

theorem steady_note (w : World) {e : Entry} (he : e.isOfLoop = false) :
    Steady meddling 0 w (w.note e) where
  exchanges := by
    rw [exchanges_note]
    cases e <;> first | rfl | cases he
  acquires := by
    rw [acquires_note]
    cases e <;> first | rfl | cases he
  redirects := Nat.le_refl _
  alone _ := rfl

theorem steady_access (w : World) {a : Access} (ha : a.isCount = false ∨ meddling) :
    Steady meddling 0 w (w.access a) where
  exchanges := rfl
  acquires := rfl
  redirects := by
    have hcount : (w.access a).call.redirects = _ := Call.redirects_access w.call a
    omega
  alone := by
    intro halone
    have hcount : a.isCount = false := ha.resolve_right halone
    have hsame : (w.access a).call.redirects = _ := Call.redirects_access w.call a
    simpa [hcount] using hsame

theorem steady_drift (meddling : Prop) :
    Drift (fun e => e.isOfLoop = false) (fun a => a.isCount = false ∨ meddling)
      (Steady meddling 0) where
  refl _ := ⟨rfl, rfl, Nat.le_refl _, fun _ => rfl⟩
  trans huv hvw := huv.trans hvw
  note {e} w he := by
    apply steady_note
    exact he.elim Entry.isOfLoop_of_isCommon id
  access {a} w ha := by
    apply steady_access
    rcases ha with hcommon | haccessed
    · left
      cases a <;> first | rfl | cases hcommon
    · exact haccessed
  count _ _ _ _ := ⟨rfl, rfl, Nat.le_refl _, fun _ => rfl⟩

theorem steady_whole (hmeddling : meddling) :
    Drift.Whole (fun e => e.isOfLoop = false) (fun a => a.isCount = false ∨ meddling) where
  noted _ he := he
  accessed _ := Or.inr hmeddling

theorem Conduct.steady (h : Conduct caller meddling react) (m : Moment) (v : World) :
    Steady meddling 0 v (react m v).1 :=
  (steady_drift meddling).of_conduct steady_whole h m v

theorem steady_outline (caller : Caller) (hreact : forall m v, Steady meddling 0 v (react m v).1)
    (c : Connection) (u : World) :
    Outline caller react c (fun _ => Steady meddling 0 u) (Steady meddling 1 u)
      (fun _ => Steady meddling 0 u) (Steady meddling 0 u) where
  notice hnotice hw :=
    hw.trans ((steady_drift meddling).fire hreact _ (Or.inr hnotice.isOfLoop_eq_false) _)
  cookie k hw := hw.trans (steady_access (a := .addCookie k) _ (Or.inl rfl))
  settle o hw := hw.trans ((steady_drift meddling).settle (some c) (Or.inl rfl) _)
  follow {_ w call} hw hcount := by
    have hraised : call.redirects = w.call.redirects + 1 := by
      have haccess := Call.redirects_access w.call .countRedirect
      simpa [Call.access, hcount, Access.isCount] using haccess
    have hfollowed : Steady meddling 1 w { w with call := call } :=
      ⟨rfl, rfl, Nat.le_of_eq hraised.symm, fun _ => hraised⟩
    have hboth := hw.trans hfollowed
    rwa [Nat.zero_add] at hboth
  release hw := hw.trans ((steady_drift meddling).release hreact c _)
  publish hw := hw.trans ((steady_drift meddling).publish hreact (Or.inl rfl) _)
  leave hw := hw

end

/-!
## What the loop does
-/

/-- How often requests were sent and the pool was asked, and how many redirects the loop
followed.  More were counted only if others meddle. -/
structure Tally (meddling : Prop) (sent asked count : Nat) (w : World) : Prop where
  exchanges : w.exchanges = sent
  acquires : w.acquires = asked
  redirects : count <= w.call.redirects
  alone : ¬ meddling -> w.call.redirects = count

structure Bounded (meddling : Prop) (limit : Nat) (w : World) : Prop where
  exchanges : w.exchanges <= limit + 1
  acquires : w.acquires <= limit + 1
  redirects : ¬ meddling -> w.call.redirects <= limit

/-- Where the loop has come by the hop, up to the limit. -/
def Counted (meddling : Prop) (limit : Nat) (w : World) : Stage -> Prop
  | .exchanging _ hop q =>
      q.limit = limit ∧ hop <= limit ∧ Tally meddling (hop + 1) (hop + 1) hop w
  | .acquiring hop q =>
      q.limit = limit ∧ hop < limit ∧ Tally meddling (hop + 1) (hop + 2) (hop + 1) w
  | .over | .lost _ => Bounded meddling limit w

def CountedReady (meddling : Prop) (limit : Nat) (_ : Connection) (hop : Nat) (q : Request)
    (w : World) : Prop :=
  q.limit = limit ∧ hop <= limit ∧ Tally meddling hop (hop + 1) hop w

def CountedParted (meddling : Prop) (limit hop : Nat) (q : Request) (w : World) : Prop :=
  q.limit = limit ∧ hop < limit ∧ Tally meddling (hop + 1) (hop + 1) (hop + 1) w

section

variable {meddling : Prop} {limit sent asked count own hop : Nat} {caller : Caller}
  {react : Reaction} {v w : World} {stage : Stage} {q : Request}

theorem Tally.steady (h : Tally meddling sent asked count v) (hvw : Steady meddling own v w) :
    Tally meddling sent asked (count + own) w where
  exchanges := hvw.exchanges.trans h.exchanges
  acquires := hvw.acquires.trans h.acquires
  redirects := Nat.le_trans (Nat.add_le_add_right h.redirects own) hvw.redirects
  alone := by
    intro halone
    rw [hvw.alone halone, h.alone halone]

theorem Tally.bounded (h : Tally meddling sent asked count w) (hcount : count <= limit)
    (hsent : sent <= count + 1) (hasked : asked <= count + 1) : Bounded meddling limit w where
  exchanges := by
    rw [h.exchanges]
    exact Nat.le_trans hsent (Nat.succ_le_succ hcount)
  acquires := by
    rw [h.acquires]
    exact Nat.le_trans hasked (Nat.succ_le_succ hcount)
  redirects := by
    intro halone
    rw [h.alone halone]
    exact hcount

theorem Bounded.steady (h : Bounded meddling limit v) (hvw : Steady meddling 0 v w) :
    Bounded meddling limit w where
  exchanges := Nat.le_trans (Nat.le_of_eq hvw.exchanges) h.exchanges
  acquires := Nat.le_trans (Nat.le_of_eq hvw.acquires) h.acquires
  redirects halone := Nat.le_trans (Nat.le_of_eq (hvw.alone halone)) (h.redirects halone)

theorem Counted.steady (h : Counted meddling limit v stage) (hvw : Steady meddling 0 v w) :
    Counted meddling limit w stage := by
  cases stage with
  | exchanging c hop q => exact ⟨h.left, h.right.left, h.right.right.steady hvw⟩
  | acquiring hop q => exact ⟨h.left, h.right.left, h.right.right.steady hvw⟩
  | «over» => exact Bounded.steady h hvw
  | lost fault => exact Bounded.steady h hvw

theorem Counted.bounded (h : Counted meddling limit w stage) : Bounded meddling limit w := by
  cases stage with
  | exchanging c hop q =>
      rcases h with ⟨_, hhop, htally⟩
      exact htally.bounded hhop (Nat.le_refl _) (Nat.le_refl _)
  | acquiring hop q =>
      rcases h with ⟨_, hhop, htally⟩
      exact htally.bounded hhop (Nat.le_succ _) (Nat.le_refl _)
  | «over» => exact h
  | lost fault => exact h

theorem Bounded.reached (h : Bounded meddling limit w) (hends : stage.waits = false) :
    Stage.Reached (CountedParted meddling limit) (Counted meddling limit) (w, stage) := by
  cases stage with
  | exchanging c hop q => cases hends
  | acquiring hop q => cases hends
  | «over» => exact h
  | lost fault => exact h

theorem CountedReady.bounded {c : Connection} (h : CountedReady meddling limit c hop q w) :
    Bounded meddling limit w := by
  rcases h with ⟨_, hhop, htally⟩
  exact htally.bounded hhop (Nat.le_succ _) (Nat.le_refl _)

theorem CountedParted.bounded (h : CountedParted meddling limit hop q w) :
    Bounded meddling limit w := by
  rcases h with ⟨_, hhop, htally⟩
  exact htally.bounded hhop (Nat.le_succ _) (Nat.le_succ _)

end

end World

/-!
## Courses
-/

namespace Conditions

section

variable {k : Conditions} {limit : Nat} {h : Hop} {c : Connection} {hop : Nat} {q : Request}
  {w : World}

end
end Conditions

namespace Session

section

variable {caller : Caller} {react : Reaction} {meddling : Prop} {request : Request}

end

def endlessCaller : Caller where
  policy := .always (plainUrl "b.test") none
  triggers := [⟨.headers, 1, [.inject .plainOk]⟩]
  transform _ := .ok .null

def cappedRequest (limit : Nat) : Request := { plainRequest none with maxRedirects := limit }

end Session

/-!
## Redirects counted by others

Between the look at the count and the count of its own redirect, a handling lets user code
follow redirects, as many as it likes.
-/

namespace World

section

variable {caller : Caller} {react : Reaction} {listeners : Listeners} {c : Connection}
  {location : Url} {q : Request} {response : Response} {u v w : World}

end
end World

namespace Session

section

variable {n : Nat} {w : World}

end

end Session
end HttpCall
