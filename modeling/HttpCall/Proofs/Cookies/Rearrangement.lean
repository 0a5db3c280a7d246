import HttpCall.Proofs.Cookies.Malformed

/-!
# The order of attributes

Segments of different names may change places.  Each of them changes a field of its own, or
none, so that two of them which stand side by side can be recorded either way round; and a
permutation that keeps the order within each name is made of such exchanges.
-/

namespace HttpCall
namespace Cookie

/-! ## Steps that commute -/

section

variable {state item name : Type} {nameOf : item -> name} {step : state -> item -> state}
  (hcomm : forall a b, nameOf a ≠ nameOf b -> forall c, step (step c a) b = step (step c b) a)

include hcomm

theorem foldl_step_of_forall_ne {a : item} {others : List item}
    (h : forall b, b ∈ others -> nameOf a ≠ nameOf b) (c : state) :
    others.foldl step (step c a) = step (others.foldl step c) a := by
  induction others generalizing c with
  | nil =>
      rfl
  | cons b rest ih =>
      rw [List.foldl_cons, List.foldl_cons, hcomm a b (h b List.mem_cons_self),
        ih fun b' hb' => h b' (List.mem_cons_of_mem b hb')]

/-- Two lists lead to the same state if they have the same items of each name, in the same
order. -/
theorem foldl_eq_of_filter_eq [DecidableEq name] {items others : List item}
    (h : forall n, items.filter (nameOf · = n) = others.filter (nameOf · = n)) (c : state) :
    items.foldl step c = others.foldl step c := by
  induction items generalizing others c with
  | nil =>
      cases others with
      | nil =>
          rfl
      | cons b rest =>
          have hb := h (nameOf b)
          simp at hb
  | cons a rest ih =>
      -- The first item of the name stands somewhere among the others, behind items of
      -- different names only, and is taken out of them.
      have ha := h (nameOf a)
      rw [List.filter_cons_of_pos (by simp)] at ha
      obtain ⟨before, after, rfl, hbefore, _, hafter⟩ := List.filter_eq_cons_iff.mp ha.symm
      have hne : forall b, b ∈ before -> nameOf a ≠ nameOf b := by
        intro b hb heq
        exact hbefore b hb (by simp [heq])
      have hrest : forall n,
          rest.filter (nameOf · = n) = (before ++ after).filter (nameOf · = n) := by
        intro n
        have hn := h n
        rw [List.filter_append] at hn ⊢
        by_cases heq : nameOf a = n
        · subst heq
          have hnone : before.filter (nameOf · = nameOf a) = [] :=
            List.filter_eq_nil_iff.mpr hbefore
          rw [hnone, List.nil_append, hafter]
        · rwa [List.filter_cons_of_neg (by simp [heq]),
            List.filter_cons_of_neg (by simp [heq])] at hn
      calc (a :: rest).foldl step c
        _ = (before ++ after).foldl step (step c a) := ih hrest (step c a)
        _ = after.foldl step (step (before.foldl step c) a) := by
          rw [List.foldl_append, foldl_step_of_forall_ne hcomm hne]
        _ = (before ++ a :: after).foldl step c := by
          rw [List.foldl_append, List.foldl_cons]

end

/-! ## Segments -/

namespace Attribute

/-- The name of a segment: without the blanks around it and in lower case. -/
def nameOf (segment : List Char) : List Char := lower (split segment).1

theorem nameOf_of_parse? {segment : List Char} {a : Attribute} (h : parse? segment = some a) :
    nameOf segment = a.key.toList :=
  spells_of_parse? h

end Attribute

def segments (header : String) : List (List Char) := (Text.splitOn ';' header.toList).tail

/-- The lists are permutations of each other, and the segments of each name stand in the same
order in both. -/
structure IsRearrangement (original other : List (List Char)) : Prop where
  perm : original.Perm other
  order : forall name, original.filter (Attribute.nameOf · = name) =
    other.filter (Attribute.nameOf · = name)

section

variable {original other : List (List Char)}

/-- The order only needs to be kept for the names that occur. -/
theorem isRearrangement_iff : IsRearrangement original other <->
    original.Perm other ∧ forall segment, segment ∈ original ->
      original.filter (Attribute.nameOf · = Attribute.nameOf segment) =
        other.filter (Attribute.nameOf · = Attribute.nameOf segment) := by
  constructor
  · intro h
    exact ⟨h.perm, fun segment _ => h.order (Attribute.nameOf segment)⟩
  · rintro ⟨hperm, horder⟩
    refine ⟨hperm, fun name => ?_⟩
    by_cases hname : exists segment, segment ∈ original ∧ Attribute.nameOf segment = name
    · obtain ⟨segment, hsegment, rfl⟩ := hname
      exact horder segment hsegment
    · have hnone : forall segment, segment ∈ original -> Attribute.nameOf segment ≠ name :=
        fun segment hsegment heq => hname ⟨segment, hsegment, heq⟩
      rw [List.filter_eq_nil_iff.mpr fun segment hsegment => by simp [hnone segment hsegment],
        List.filter_eq_nil_iff.mpr fun segment hsegment => by
          simp [hnone segment (hperm.mem_iff.mpr hsegment)]]

instance (original other : List (List Char)) : Decidable (IsRearrangement original other) :=
  decidable_of_iff' _ isRearrangement_iff

end

theorem applySegment_comm {first second : List Char}
    (h : Attribute.nameOf first ≠ Attribute.nameOf second) (c : Cookie) :
    (c.applySegment first).applySegment second =
      (c.applySegment second).applySegment first := by
  unfold applySegment
  cases hfirst : Attribute.parse? first with
  | none =>
      rfl
  | some a =>
      cases hsecond : Attribute.parse? second with
      | none =>
          rfl
      | some b =>
          rw [Attribute.nameOf_of_parse? hfirst, Attribute.nameOf_of_parse? hsecond] at h
          exact Attribute.apply_comm (fun hkey => h (by rw [hkey])) c

/-- The order of the segments of a text only matters among those of one name. -/
theorem order_matters_within_name {header other : String} (hfront : front header = front other)
    (hsegments : IsRearrangement (segments header) (segments other)) :
    parse? header = parse? other := by
  rw [parse?_eq, parse?_eq, hfront]
  congr 1
  funext nv
  exact foldl_eq_of_filter_eq (fun _ _ => applySegment_comm) hsegments.order _

theorem order_matters_within_name_of_two_paths :
    IsRearrangement (segments "a=b; Path=/x; Max-Age=soon; path =/y; Secure")
        (segments "a=b; Secure; Path=/x; path =/y; Max-Age=soon") ∧
      parse? "a=b; Path=/x; Max-Age=soon; path =/y; Secure" =
        parse? "a=b; Secure; Path=/x; path =/y; Max-Age=soon" ∧
      parse? "a=b; Secure; Path=/x; path =/y; Max-Age=soon" =
        some { bare "a" "b" with path := some "/y", secure := true } := by
  have hsegments : IsRearrangement (segments "a=b; Path=/x; Max-Age=soon; path =/y; Secure")
      (segments "a=b; Secure; Path=/x; path =/y; Max-Age=soon") := by
    decide +kernel
  refine ⟨hsegments, ?_, ?_⟩
  · exact order_matters_within_name (by decide +kernel) hsegments
  · decide +kernel

/-- Two paths do not change places. -/
example :
    ¬ IsRearrangement [" Path=/x".toList, " path =/y".toList]
      [" path =/y".toList, " Path=/x".toList] := by
  decide +kernel

end Cookie
end HttpCall
