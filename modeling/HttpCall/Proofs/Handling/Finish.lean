import HttpCall.Proofs.Handling.Course

/-!
# Calls that come to an end

A wait is over when somebody answers or when the time is up.  So a call whose time is
limited, or of which everybody answers, is left with nothing to wait for, however often it
is redirected on the way.
-/

namespace HttpCall
namespace Conditions

section

variable {k : Conditions} {h : Hop} {c : Connection} {hop : Nat} {q : Request} {v w : World}
  {past : List (World × Stage)} {stage : Stage}

theorem ne_acquiring (hstage : stage.waits = false) (n : Nat) (r : Request) :
    stage ≠ .acquiring n r := by
  rintro rfl
  cases hstage

theorem ne_exchanging (hstage : stage.waits = false) (d : Connection) (n : Nat) (r : Request) :
    stage ≠ .exchanging d n r := by
  rintro rfl
  cases hstage

theorem expired_ends (k : Conditions) (c : Connection) (hop : Nat) (q : Request) (w : World) :
    (w.onExchangeExpired k.caller k.reaction k.listeners c hop q).2.waits = false ∨
      exists n r, (w.onExchangeExpired k.caller k.reaction k.listeners c hop q).2 =
        .acquiring n r := by
  unfold World.onExchangeExpired
  split
  · rw [World.releaseThen_eq]
    cases (w.release k.reaction c).2 <;> exact Or.inl rfl
  · exact (World.stage_onEvent ..).imp_right fun ⟨location, status, hstage⟩ =>
      ⟨hop, q.redirected location status, hstage⟩

theorem exchange_ends (hanswers : k.deadline ≠ none ∨ h.reply ≠ none)
    (hexchange : k.exchange h c hop q w = (past, v, stage)) :
    stage.waits = false ∨ exists n r, stage = .acquiring n r := by
  have hstage : stage = (k.exchange h c hop q w).2.2 := by
    rw [hexchange]
  rw [hstage]
  unfold exchange
  dsimp only
  split
  · exact expired_ends k c hop q _
  · split
    · exact Or.inl rfl
    · split
      · exact (World.stage_onEvent ..).imp_right fun ⟨location, status, hstage⟩ =>
          ⟨hop, q.redirected location status, hstage⟩
      · rename_i hreply
        unfold untilExpired
        split
        · rename_i hdeadline
          exact hanswers.elim (absurd hdeadline) (absurd hreply)
        · exact expired_ends k c hop q _

theorem acquire_ends (hanswers : k.deadline ≠ none ∨ h.grant ≠ .silence)
    (hacquire : k.acquire h hop q w = (past, v, stage)) :
    stage.waits = false ∨ exists d n r, stage = .exchanging d n r := by
  have hstage : stage = (k.acquire h hop q w).2.2 := by
    rw [hacquire]
  rw [hstage]
  unfold acquire
  dsimp only
  split
  · exact Or.inl rfl
  · split
    · exact Or.inl rfl
    · split
      · exact Or.inr ⟨_, _, _, rfl⟩
      · exact Or.inl rfl
      · rename_i hgrant
        unfold untilExpired
        split
        · rename_i hdeadline
          exact hanswers.elim (absurd hdeadline) (absurd hgrant)
        · exact Or.inl rfl

/-- If there is a deadline, or everybody answers, nothing is waited for in the end. -/
theorem run_ends (rest : List Hop)
    (hanswers : k.deadline ≠ none ∨
      forall x, x ∈ h :: rest -> x.reply ≠ none ∧ x.grant ≠ .silence) :
    exists v stage, (k.run rest h c hop q w).getLast? = some (v, stage) ∧
      stage.waits = false := by
  induction rest generalizing h c hop q w with
  | nil =>
      have hreply := hanswers.imp_right fun hall => (hall h List.mem_cons_self).left
      rcases hexchange : k.exchange h c hop q w with ⟨past, v, stage⟩
      rcases exchange_ends hreply hexchange with hends | ⟨n, r, rfl⟩
      · rw [run_of_end hexchange (ne_acquiring hends)]
        exact ⟨v, stage, List.getLast?_concat, hends⟩
      · rw [run_of_exhausted hexchange]
        exact ⟨_, .over, List.getLast?_append, rfl⟩
  | cons next rest ih =>
      have hreply := hanswers.imp_right fun hall => (hall h List.mem_cons_self).left
      have hrest := hanswers.imp_right fun hall x hx => hall x (List.mem_cons_of_mem h hx)
      have hgrant := hrest.imp_right fun hall => (hall next List.mem_cons_self).right
      rcases hexchange : k.exchange h c hop q w with ⟨past, v, stage⟩
      rcases exchange_ends hreply hexchange with hends | ⟨n, r, rfl⟩
      · rw [run_of_end hexchange (ne_acquiring hends)]
        exact ⟨v, stage, List.getLast?_concat, hends⟩
      · rcases hacquire : k.acquire next n r v with ⟨past', x, stage⟩
        rcases acquire_ends hgrant hacquire with hends | ⟨d, m, s, rfl⟩
        · rw [run_of_unacquired hexchange hacquire (ne_exchanging hends)]
          exact ⟨x, stage, by simp [List.getLast?_cons], hends⟩
        · rcases @ih next d m s x hrest with ⟨y, stage, hlast, hends⟩
          rw [run_of_acquired hexchange hacquire]
          exact ⟨y, stage, by simp [List.getLast?_cons, hlast], hends⟩

end

end Conditions
end HttpCall
