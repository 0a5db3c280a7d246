import Mathlib.Tactic.IntervalCases
import HttpCall.Text.Numeral

/-!
# Decimal numerals

A number is read back from its numeral, with a sign or without one, and also from a numeral
that zeros before it bring to a given width.
-/

namespace HttpCall
namespace Text

def fixedDigits : Nat -> Nat -> List Char
  | 0, _ => []
  | width + 1, n => fixedDigits width (n / 10) ++ [(n % 10).digitChar]

theorem digitValue?_digitChar {n : Nat} (hn : n < 10) :
    digitValue? n.digitChar = some n := by
  interval_cases n <;> rfl

theorem readDigits_append (value? : Char -> Option Nat) (base acc : Nat) (s t : List Char) :
    readDigits value? base acc (s ++ t) =
      (readDigits value? base acc s).bind fun n => readDigits value? base n t := by
  induction s generalizing acc with
  | nil =>
      rfl
  | cons c rest ih =>
      rw [List.cons_append, readDigits, readDigits]
      cases value? c with
      | none =>
          rfl
      | some d =>
          exact ih _

theorem readDigits_snoc {acc n d : Nat} {s : List Char}
    (hs : readDigits digitValue? 10 acc s = some n) (hd : d < 10) :
    readDigits digitValue? 10 acc (s ++ [d.digitChar]) = some (n * 10 + d) := by
  rw [readDigits_append, hs, Option.bind_some, readDigits, digitValue?_digitChar hd]
  rfl

theorem length_fixedDigits (width n : Nat) : (fixedDigits width n).length = width := by
  induction width generalizing n with
  | zero =>
      rfl
  | succ width ih =>
      simp [fixedDigits, ih]

theorem isDigit_of_mem_fixedDigits {width n : Nat} {c : Char} (hc : c ∈ fixedDigits width n) :
    c.isDigit = true := by
  induction width generalizing n with
  | zero =>
      cases hc
  | succ width ih =>
      rw [fixedDigits, List.mem_append, List.mem_singleton] at hc
      rcases hc with hc | rfl
      · exact ih hc
      · rw [Nat.isDigit_digitChar]
        exact decide_eq_true (Nat.mod_lt n (by decide))

theorem readDigits_fixedDigits {width n : Nat} (hn : n < 10 ^ width) :
    readDigits digitValue? 10 0 (fixedDigits width n) = some n := by
  induction width generalizing n with
  | zero =>
      have hzero : n = 0 := by omega
      rw [hzero]
      rfl
  | succ width ih =>
      have hfront : n / 10 < 10 ^ width := by
        rw [Nat.pow_succ] at hn
        omega
      rw [fixedDigits, readDigits_snoc (ih hfront) (Nat.mod_lt n (by decide)),
        Nat.div_add_mod']

theorem readDigits_toDigits (n : Nat) :
    readDigits digitValue? 10 0 (Nat.toDigits 10 n) = some n := by
  induction n using Nat.strongRecOn with
  | ind n ih =>
      by_cases hn : n < 10
      · rw [Nat.toDigits_of_lt_base hn, readDigits, digitValue?_digitChar hn]
        simp [readDigits]
      · have hfront : n / 10 < n := by omega
        rw [Nat.toDigits_of_base_le (by decide) (by omega),
          readDigits_snoc (ih _ hfront) (Nat.mod_lt n (by decide)), Nat.div_add_mod']

theorem readNat_of_readDigits {s : List Char} {n : Nat} (hs : s ≠ [])
    (hread : readDigits digitValue? 10 0 s = some n) : readNat s = some n := by
  cases s with
  | nil =>
      exact absurd rfl hs
  | cons c rest =>
      exact hread

theorem readNat_fixedDigits {width n : Nat} (hn : n < 10 ^ (width + 1)) :
    readNat (fixedDigits (width + 1) n) = some n :=
  readNat_of_readDigits (by simp [fixedDigits]) (readDigits_fixedDigits hn)

theorem readNat_toDigits (n : Nat) : readNat (Nat.toDigits 10 n) = some n :=
  readNat_of_readDigits Nat.toDigits_ne_nil (readDigits_toDigits n)

/-! ## Numbers of sixty-four bits -/

theorem readInt64_of_isDigit {c : Char} {rest : List Char} (hc : c.isDigit = true) :
    readInt64 (c :: rest) = readInt64.bounded (c :: rest) := by
  unfold readInt64
  split
  · rename_i heq
    cases heq
    cases hc
  · rename_i heq
    cases heq
    cases hc
  · rfl

theorem toList_repr_natCast (n : Nat) : (toString (n : Int)).toList = Nat.toDigits 10 n :=
  String.toList_ofList

theorem toList_repr_negSucc (n : Nat) :
    (toString (Int.negSucc n)).toList = '-' :: Nat.toDigits 10 (n + 1) := by
  change ("-" ++ String.ofList (Nat.toDigits 10 (n + 1))).toList = _
  rw [String.toList_append, String.toList_ofList, String.toList_ofList, List.singleton_append]

theorem readInt64_toString (n : Int64) : readInt64 (toString n.toInt).toList = some n := by
  have hlow : -0x8000000000000000 <= n.toInt := n.le_toInt
  have hhigh : n.toInt < 0x8000000000000000 := n.toInt_lt
  have hback : Int64.ofInt n.toInt = n := n.ofInt_toInt
  rcases htoInt : n.toInt with k | k
  · rw [htoInt] at hhigh hback
    have hk : k < 0x8000000000000000 := Int.ofNat_lt.mp hhigh
    have hread : readInt64.bounded (Nat.toDigits 10 k) = some n := by
      rw [readInt64.bounded, readNat_toDigits]
      simp [hk, ← hback]
    rw [Int.ofNat_eq_natCast, toList_repr_natCast]
    cases hdigits : Nat.toDigits 10 k with
    | nil =>
        exact absurd hdigits Nat.toDigits_ne_nil
    | cons c rest =>
        have hc : c ∈ Nat.toDigits 10 k := by simp [hdigits]
        rw [readInt64_of_isDigit (Nat.isDigit_of_mem_toDigits (by decide) (by decide) hc),
          ← hdigits, hread]
  · rw [htoInt] at hlow hback
    have hk : k + 1 <= 0x8000000000000000 := by omega
    rw [toList_repr_negSucc, readInt64, readNat_toDigits]
    simp only [hk, if_true, ← hback]
    rfl

theorem eq_dash_or_isDigit_of_mem_toString {n : Int64} {c : Char}
    (hc : c ∈ (toString n.toInt).toList) : c = '-' ∨ c.isDigit = true := by
  rcases htoInt : n.toInt with k | k <;> rw [htoInt] at hc
  · rw [Int.ofNat_eq_natCast, toList_repr_natCast] at hc
    exact .inr (Nat.isDigit_of_mem_toDigits (by decide) (by decide) hc)
  · rw [toList_repr_negSucc, List.mem_cons] at hc
    exact hc.imp_right (Nat.isDigit_of_mem_toDigits (by decide) (by decide))

end Text
end HttpCall
