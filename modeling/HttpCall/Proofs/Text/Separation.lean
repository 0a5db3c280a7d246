import HttpCall.Text.Blank
import HttpCall.Text.Split

/-!
# Separators and blanks

A text that was put together from parts comes apart into the same parts: at separators, if
no part contains one, and at blanks, if the part between them begins and ends with another
character.
-/

namespace HttpCall
namespace Text

variable {sep : Char} {s t core text : List Char}

/-! ## Separators -/

theorem splitOn_of_notMem (hs : sep ∉ s) : splitOn sep s = [s] := by
  induction s with
  | nil =>
      rfl
  | cons c rest ih =>
      rw [List.mem_cons, not_or] at hs
      simp [splitOn, Ne.symm hs.1, ih hs.2]

theorem splitOn_append_cons (sep : Char) (s t : List Char) :
    splitOn sep (s ++ sep :: t) = splitOn sep s ++ splitOn sep t := by
  induction s with
  | nil =>
      simp [splitOn]
  | cons c rest ih =>
      by_cases hc : c = sep
      · simp [splitOn, hc, ih]
      · cases hparts : splitOn sep rest with
        | nil => exact absurd hparts (splitOn_ne_nil sep rest)
        | cons part parts => simp [splitOn, hc, ih, hparts]

theorem splitOn_append (hs : sep ∉ s) :
    splitOn sep (s ++ sep :: t) = s :: splitOn sep t := by
  rw [splitOn_append_cons, splitOn_of_notMem hs, List.singleton_append]

theorem splitOn_append_of_head (s : List Char) (ht : t = [] ∨ t.head? = some sep) :
    splitOn sep (s ++ t) = splitOn sep s ++ (splitOn sep t).tail := by
  rcases ht with rfl | hhead
  · rw [List.append_nil]
    exact (List.append_nil _).symm
  · obtain ⟨rest, rfl⟩ := List.head?_eq_some_iff.mp hhead
    have hrest : (splitOn sep (sep :: rest)).tail = splitOn sep rest := by
      simp [splitOn]
    rw [splitOn_append_cons, hrest]

theorem splitOn_eq_cons (sep : Char) (s : List Char) :
    splitOn sep s = s.takeWhile (· != sep) :: (splitOn sep s).tail := by
  induction s with
  | nil =>
      rfl
  | cons c rest ih =>
      by_cases hc : c = sep
      · simp [splitOn, hc]
      · rw [List.takeWhile_cons_of_pos (by simp [hc])]
        unfold splitOn
        rw [if_neg hc, ih]
        rfl

theorem splitOn_append_of_notMem (hs : sep ∉ s) (t : List Char) :
    splitOn sep (s ++ t) = (s ++ t.takeWhile (· != sep)) :: (splitOn sep t).tail := by
  induction s with
  | nil =>
      exact splitOn_eq_cons sep t
  | cons c rest ih =>
      rw [List.mem_cons, not_or] at hs
      rw [List.cons_append, splitOn, if_neg (Ne.symm hs.1), ih hs.2]
      rfl

theorem exists_splitOn_append (s : List Char) (ht : sep ∉ t) :
    exists init last, splitOn sep s = init ++ [last] ∧
      splitOn sep (s ++ t) = init ++ [last ++ t] := by
  induction s with
  | nil =>
      exact ⟨[], [], rfl, splitOn_of_notMem ht⟩
  | cons c rest ih =>
      obtain ⟨init, last, hparts, happend⟩ := ih
      rw [List.cons_append, splitOn, splitOn, hparts, happend]
      by_cases hc : c = sep
      · rw [if_pos hc, if_pos hc]
        exact ⟨[] :: init, last, rfl, rfl⟩
      · rw [if_neg hc, if_neg hc]
        cases init with
        | nil =>
            exact ⟨[], c :: last, rfl, rfl⟩
        | cons part parts =>
            exact ⟨(c :: part) :: parts, last, rfl, rfl⟩

theorem splitOn_intercalate (first : List Char) (others : List (List Char))
    (hparts : forall part, part ∈ first :: others -> sep ∉ part) :
    splitOn sep ([sep].intercalate (first :: others)) = first :: others := by
  induction others generalizing first with
  | nil =>
      rw [List.intercalate_singleton]
      exact splitOn_of_notMem (hparts first List.mem_cons_self)
  | cons next rest ih =>
      rw [List.intercalate_cons_cons, List.append_assoc, List.singleton_append,
        splitOn_append (hparts first List.mem_cons_self),
        ih next fun part hpart => hparts part (List.mem_cons_of_mem _ hpart)]

theorem notMem_of_mem_splitOn {part : List Char} (h : part ∈ splitOn sep s) : sep ∉ part := by
  induction s generalizing part with
  | nil =>
      rw [splitOn, List.mem_singleton] at h
      rw [h]
      exact List.not_mem_nil
  | cons c rest ih =>
      unfold splitOn at h
      rw [splitOn_eq_cons sep rest] at h ih
      split at h
      · rcases List.mem_cons.mp h with rfl | hpart
        · exact List.not_mem_nil
        · exact ih hpart
      · rename_i hc
        rcases List.mem_cons.mp h with rfl | hpart
        · rw [List.mem_cons, not_or]
          exact ⟨Ne.symm hc, ih List.mem_cons_self⟩
        · exact ih (List.mem_cons_of_mem _ hpart)

theorem splitOnce_of_notMem (hs : sep ∉ s) : splitOnce sep s = none := by
  induction s with
  | nil =>
      rfl
  | cons c rest ih =>
      rw [List.mem_cons, not_or] at hs
      simp [splitOnce, Ne.symm hs.1, ih hs.2]

theorem splitOnce_append (hs : sep ∉ s) :
    splitOnce sep (s ++ sep :: t) = some (s, t) := by
  induction s with
  | nil =>
      simp [splitOnce]
  | cons c rest ih =>
      rw [List.mem_cons, not_or] at hs
      simp [splitOnce, Ne.symm hs.1, ih hs.2]

theorem notMem_of_splitOnce {before after : List Char}
    (h : splitOnce sep s = some (before, after)) : sep ∉ before := by
  induction s generalizing before with
  | nil =>
      cases h
  | cons c rest ih =>
      unfold splitOnce at h
      split at h
      · cases h
        exact List.not_mem_nil
      · rename_i hc
        obtain ⟨⟨first, second⟩, hcut, heq⟩ := Option.map_eq_some_iff.mp h
        cases heq
        rw [List.mem_cons, not_or]
        exact ⟨Ne.symm hc, ih hcut⟩

/-! ## Blanks -/

structure IsTrimmed (s : List Char) : Prop where
  front : s.head?.any isBlank = false
  back : s.getLast?.any isBlank = false

def IsPadded (core text : List Char) : Prop :=
  exists before after, before.all isBlank = true ∧ after.all isBlank = true ∧
    text = before ++ core ++ after

theorem IsTrimmed.of_forall (h : forall c, c ∈ s -> isBlank c = false) : IsTrimmed s where
  front := (Option.any_eq_false _ _).mpr fun c hc => h c (List.mem_of_mem_head? hc)
  back := (Option.any_eq_false _ _).mpr fun c hc => h c (List.mem_of_getLast? hc)

theorem IsPadded.refl (core : List Char) : IsPadded core core := ⟨[], [], rfl, rfl, by simp⟩

theorem dropEndWhile_append_of_all {p : Char -> Bool} (ht : t.all p = true) :
    dropEndWhile p (s ++ t) = dropEndWhile p s := by
  unfold dropEndWhile
  rw [List.reverse_append,
    List.dropWhile_append_of_pos fun c hc => List.all_eq_true.mp ht c (List.mem_reverse.mp hc)]

theorem dropEndWhile_of_getLast? {p : Char -> Bool} (hs : s.getLast?.any p = false) :
    dropEndWhile p s = s := by
  rcases List.eq_nil_or_concat s with rfl | ⟨front, last, rfl⟩
  · rfl
  · have hlast : p last = false := by simpa using hs
    simp [dropEndWhile, hlast]

theorem IsPadded.trim_eq (h : IsPadded core text) (hcore : IsTrimmed core) :
    trim text = core := by
  rcases h with ⟨before, after, hbefore, hafter, rfl⟩
  unfold trim
  rw [List.append_assoc, List.dropWhile_append_of_pos (List.all_eq_true.mp hbefore)]
  cases core with
  | nil =>
      rw [List.nil_append, ← List.append_nil after,
        List.dropWhile_append_of_pos (List.all_eq_true.mp hafter)]
      rfl
  | cons c rest =>
      have hc : isBlank c = false := hcore.front
      rw [List.cons_append, List.dropWhile_cons_of_neg (by simp [hc]), ← List.cons_append,
        dropEndWhile_append_of_all hafter, dropEndWhile_of_getLast? hcore.back]

theorem eq_dropEndWhile_append {p : Char -> Bool} (s : List Char) :
    exists after, after.all p = true ∧ s = dropEndWhile p s ++ after := by
  refine ⟨(s.reverse.takeWhile p).reverse, ?_, ?_⟩
  · rw [List.all_reverse]
    exact List.all_takeWhile
  · unfold dropEndWhile
    rw [← List.reverse_append, List.takeWhile_append_dropWhile, List.reverse_reverse]

/-- Trimming takes off blanks and nothing else. -/
theorem isPadded_trim (s : List Char) : IsPadded (trim s) s := by
  obtain ⟨after, hafter, heq⟩ := eq_dropEndWhile_append (p := isBlank) (s.dropWhile isBlank)
  refine ⟨s.takeWhile isBlank, after, List.all_takeWhile, hafter, ?_⟩
  unfold trim
  rw [List.append_assoc, ← heq, List.takeWhile_append_dropWhile]

theorem trim_append_of_all (s : List Char) (ht : t.all isBlank = true) :
    trim (s ++ t) = trim s := by
  unfold trim
  rw [List.dropWhile_append]
  split
  · rename_i hblank
    rw [List.isEmpty_iff] at hblank
    rw [hblank, ← List.append_nil t, List.dropWhile_append_of_pos (List.all_eq_true.mp ht)]
    rfl
  · exact dropEndWhile_append_of_all ht

theorem trim_append_of_all_left (hs : s.all isBlank = true) (t : List Char) :
    trim (s ++ t) = trim t := by
  unfold trim
  rw [List.dropWhile_append_of_pos (List.all_eq_true.mp hs)]

theorem mem_of_mem_trim {c : Char} (h : c ∈ trim s) : c ∈ s := by
  rcases isPadded_trim s with ⟨before, after, _, _, heq⟩
  rw [heq]
  exact List.mem_append_left after (List.mem_append_right before h)

theorem IsPadded.notMem {c : Char} (h : IsPadded core text) (hblank : isBlank c = false)
    (hcore : c ∉ core) : c ∉ text := by
  rcases h with ⟨before, after, hbefore, hafter, rfl⟩
  simp only [List.mem_append, not_or]
  refine ⟨⟨fun hc => ?_, hcore⟩, fun hc => ?_⟩
  · simp [List.all_eq_true.mp hbefore c hc] at hblank
  · simp [List.all_eq_true.mp hafter c hc] at hblank

end Text
end HttpCall
