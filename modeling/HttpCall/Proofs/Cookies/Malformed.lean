import Mathlib.Data.List.Induction
import HttpCall.Proofs.Cookies.Encoding
import HttpCall.Proofs.Cookies.Grammar

/-!
# Malformed attributes

A segment that is no attribute, or whose value its attribute cannot have, may stand anywhere
among the segments of a text, and the cookie is the same without it.  The one exception is a
`SameSite` attribute with an unknown keyword, which stands for no mode and so takes away the
mode of one before it.  Each field of a cookie comes from the last attribute of its name.
-/

namespace HttpCall
namespace Cookie

namespace Attribute

/-- The segment has the name of no attribute, or a value that the attribute cannot have. -/
inductive IsMalformed (segment : List Char) : Prop
  | unknown (hkey : forall a : Attribute, ¬ Spells a.key (split segment).1)
  | domain (hkey : Spells "domain" (split segment).1) (hvalue : (split segment).2 = [])
  | path (hkey : Spells "path" (split segment).1)
      (hvalue : (split segment).2.head? ≠ some '/')
  | maxAge (hkey : Spells "max-age" (split segment).1)
      (hvalue : Text.readInt64 (split segment).2 = none)
  | expires (hkey : Spells "expires" (split segment).1)
      (hvalue : HttpDate.parse? (split segment).2 = none)
  | sameSite (hkey : Spells "samesite" (split segment).1)
      (hvalue : forall mode : SameSite, ¬ Spells mode.keyword (split segment).2)

def SetsMode (segment : List Char) : Prop := Spells "samesite" (split segment).1

instance (segment : List Char) : Decidable (SetsMode segment) :=
  inferInstanceAs (Decidable (Spells _ _))

variable {segment name value : List Char} {a b : Attribute}

theorem parse?_of_spells {keyword : String} (h : Spells keyword (split segment).1) :
    parse? segment = ofNamed? keyword.toList (split segment).2 := by
  unfold parse?
  rw [h]

theorem ofNamed?_of_unknown (h : forall a : Attribute, name ≠ a.key.toList) :
    ofNamed? name value = none := by
  have hdomain : name ≠ "domain".toList := h (.domain "")
  have hpath : name ≠ "path".toList := h (.path "")
  have hmaxAge : name ≠ "max-age".toList := h (.maxAge 0)
  have hexpires : name ≠ "expires".toList := h (.expires 0)
  have hsecure : name ≠ "secure".toList := h .secure
  have hhttpOnly : name ≠ "httponly".toList := h .httpOnly
  have hsameSite : name ≠ "samesite".toList := h (.sameSite none)
  simp only [ofNamed?, hdomain, hpath, hmaxAge, hexpires, hsecure, hhttpOnly, hsameSite,
    if_false]

theorem ofKeyword?_eq_none_iff :
    SameSite.ofKeyword? value = none <-> forall mode : SameSite, ¬ Spells mode.keyword value := by
  constructor
  · intro h mode hmode
    rw [ofKeyword?_of_spells hmode] at h
    cases h
  · intro h
    have hstrict : lower value ≠ "strict".toList := h .strict
    have hlax : lower value ≠ "lax".toList := h .lax
    have hnone : lower value ≠ "none".toList := h .none
    simp only [SameSite.ofKeyword?, hstrict, hlax, hnone, if_false]

theorem key_of_ofNamed? (h : ofNamed? b.key.toList value = some a) : a.key = b.key := by
  cases b with
  | domain _ =>
      rw [key, ofNamed?_domain] at h
      split at h <;> cases h
      rfl
  | path _ =>
      rw [key, ofNamed?_path] at h
      split at h <;> cases h
      rfl
  | maxAge _ =>
      rw [key, ofNamed?_maxAge] at h
      obtain ⟨_, _, rfl⟩ := Option.map_eq_some_iff.mp h
      rfl
  | expires _ =>
      rw [key, ofNamed?_expires] at h
      obtain ⟨_, _, rfl⟩ := Option.map_eq_some_iff.mp h
      rfl
  | secure =>
      rw [key, ofNamed?_secure] at h
      cases h
      rfl
  | httpOnly =>
      rw [key, ofNamed?_httpOnly] at h
      cases h
      rfl
  | sameSite _ =>
      rw [key, ofNamed?_sameSite] at h
      cases h
      rfl

theorem spells_of_parse? (h : parse? segment = some a) : Spells a.key (split segment).1 := by
  by_cases hknown : exists b : Attribute, Spells b.key (split segment).1
  · obtain ⟨b, hb⟩ := hknown
    rw [parse?_of_spells hb] at h
    rw [key_of_ofNamed? h]
    exact hb
  · have hnone : parse? segment = none := ofNamed?_of_unknown fun b hb => hknown ⟨b, hb⟩
    rw [hnone] at h
    cases h

theorem isMalformed_iff :
    IsMalformed segment <->
      parse? segment = none ∨ parse? segment = some (.sameSite none) := by
  constructor
  · rintro (hkey | ⟨hkey, hvalue⟩ | ⟨hkey, hvalue⟩ | ⟨hkey, hvalue⟩ | ⟨hkey, hvalue⟩ |
      ⟨hkey, hvalue⟩)
    · exact .inl (ofNamed?_of_unknown hkey)
    · left
      rw [parse?_of_spells hkey, ofNamed?_domain, hvalue]
      rfl
    · left
      rw [parse?_of_spells hkey, ofNamed?_path, if_neg hvalue]
    · left
      rw [parse?_of_spells hkey, ofNamed?_maxAge, hvalue]
      rfl
    · left
      rw [parse?_of_spells hkey, ofNamed?_expires, hvalue]
      rfl
    · right
      rw [parse?_of_spells hkey, ofNamed?_sameSite, ofKeyword?_eq_none_iff.mpr hvalue]
  · intro h
    by_cases hknown : exists b : Attribute, Spells b.key (split segment).1
    · obtain ⟨b, hb⟩ := hknown
      rw [parse?_of_spells hb] at h
      cases b with
      | domain _ =>
          rw [key, ofNamed?_domain] at h
          exact .domain hb (by simpa using h)
      | path _ =>
          rw [key, ofNamed?_path] at h
          exact .path hb (by simpa using h)
      | maxAge _ =>
          rw [key, ofNamed?_maxAge] at h
          exact .maxAge hb (by simpa using h)
      | expires _ =>
          rw [key, ofNamed?_expires] at h
          exact .expires hb (by simpa using h)
      | secure =>
          rw [key, ofNamed?_secure] at h
          simp at h
      | httpOnly =>
          rw [key, ofNamed?_httpOnly] at h
          simp at h
      | sameSite _ =>
          rw [key, ofNamed?_sameSite] at h
          exact .sameSite hb (ofKeyword?_eq_none_iff.mp (by simpa using h))
    · exact .unknown fun b hb => hknown ⟨b, hb⟩

theorem setsMode_iff : SetsMode segment <-> exists a, parse? segment = some a ∧
    a.key = "samesite" := by
  constructor
  · intro h
    exact ⟨_, (parse?_of_spells h).trans (ofNamed?_sameSite _), rfl⟩
  · rintro ⟨a, hparse, hkey⟩
    have hspells := spells_of_parse? hparse
    rwa [hkey] at hspells

theorem exists_key_iff_setsMode {segments : List (List Char)} {mode : Option SameSite} :
    (exists b, b ∈ segments.filterMap parse? ∧ b.key = (sameSite mode).key) <->
      exists later, later ∈ segments ∧ SetsMode later := by
  simp only [List.mem_filterMap, setsMode_iff]
  constructor
  · rintro ⟨b, ⟨later, hmem, hparse⟩, hkey⟩
    exact ⟨later, hmem, b, hparse, hkey⟩
  · rintro ⟨later, hmem, b, hparse, hkey⟩
    exact ⟨b, ⟨later, hmem, hparse⟩, hkey⟩

/-! ## Recording attributes -/

theorem apply_apply (h : a.key = b.key) (c : Cookie) : apply (apply c a) b = apply c b := by
  cases a <;> cases b <;> first | rfl | simp [key] at h

theorem foldl_apply_apply (a : Attribute) (others : List Attribute) (c : Cookie) :
    others.foldl apply (apply c a) =
      if exists b, b ∈ others ∧ b.key = a.key then others.foldl apply c
      else apply (others.foldl apply c) a := by
  induction others generalizing c with
  | nil =>
      simp
  | cons b rest ih =>
      by_cases hb : b.key = a.key
      · simp [hb, apply_apply hb.symm]
      · simp [hb, apply_comm (Ne.symm hb), ih]

theorem mem_attributes_apply (c : Cookie) :
    a ∈ (apply c b).attributes <->
      if b.key = a.key then a ≠ .sameSite none ∧ b = a else a ∈ c.attributes := by
  rw [mem_attributes, mem_attributes]
  cases a <;> cases b <;> simp [apply, Has, key]

/-- After recording attributes, those that a cookie has are the last of their names. -/
theorem mem_attributes_foldl (attributes : List Attribute) (name value : String) :
    a ∈ (attributes.foldl apply (bare name value)).attributes <->
      a ≠ .sameSite none ∧
        (attributes.filter fun b => b.key = a.key).getLast? = some a := by
  induction attributes using List.reverseRecOn with
  | nil =>
      rw [mem_attributes]
      cases a <;> simp [bare, Has]
      exact Ne.symm
  | append_singleton front last ih =>
      rw [List.foldl_append, List.foldl_cons, List.foldl_nil, mem_attributes_apply,
        List.filter_append]
      by_cases hlast : last.key = a.key
      · simp [hlast]
      · simp [hlast, ih]

end Attribute

/-! ## Segments of a text -/

def attributesIn (header : String) : List Attribute :=
  (Text.splitOn ';' header.toList).tail.filterMap Attribute.parse?

theorem foldl_applySegment_eq (segments : List (List Char)) (c : Cookie) :
    segments.foldl applySegment c =
      (segments.filterMap Attribute.parse?).foldl Attribute.apply c := by
  induction segments generalizing c with
  | nil =>
      rfl
  | cons segment rest ih =>
      rw [List.foldl_cons, ih]
      unfold applySegment
      split
      · rename_i a hparse
        rw [List.filterMap_cons_some hparse, List.foldl_cons]
      · rename_i hparse
        rw [List.filterMap_cons_none hparse]

theorem parse?_eq_some {header : String} {c : Cookie} (h : parse? header = some c) :
    c = (attributesIn header).foldl Attribute.apply (bare c.name c.value) := by
  have hpair := pair?_front h
  rw [parse?_eq, hpair, Option.map_some, foldl_applySegment_eq, String.ofList_toList,
    String.ofList_toList] at h
  exact (Option.some.inj h).symm

/-- A segment among others records its attribute, unless one of its name follows. -/
theorem parse?_insert {before segment after : List Char} (hsegment : ';' ∉ segment)
    (hafter : after = [] ∨ after.head? = some ';') :
    parse? (String.ofList (before ++ ';' :: segment ++ after)) =
      (parse? (String.ofList (before ++ after))).map fun c =>
        match Attribute.parse? segment with
        | some a =>
            if exists b, b ∈ (Text.splitOn ';' after).tail.filterMap Attribute.parse? ∧
              b.key = a.key then c
            else Attribute.apply c a
        | none => c := by
  unfold parse?
  rw [String.toList_ofList, String.toList_ofList, List.append_assoc, List.cons_append,
    Text.splitOn_append_cons, Text.splitOn_append_of_head segment hafter,
    Text.splitOn_append_of_head before hafter, Text.splitOn_of_notMem hsegment,
    Text.splitOn_eq_cons ';' before]
  simp only [ofSegments?, List.cons_append, Option.map_map, List.foldl_append, List.foldl_cons,
    List.nil_append]
  congr 1
  funext nv
  rw [Function.comp_apply]
  generalize List.foldl applySegment _ (Text.splitOn ';' before).tail = c
  have hrecord : applySegment c segment =
      match Attribute.parse? segment with
      | some a => Attribute.apply c a
      | none => c := rfl
  rw [hrecord]
  cases Attribute.parse? segment with
  | none =>
      rfl
  | some a =>
      dsimp only
      rw [foldl_applySegment_eq, foldl_applySegment_eq, Attribute.foldl_apply_apply]

/-- A malformed segment among others makes no difference, except that an unknown keyword takes
the mode away, unless another keyword follows.  The attributes of a cookie are the last of
their names among those of the text that are well-formed, where an unknown keyword counts
among them and stands for no mode. -/
theorem malformed_ignored_but_for_mode (segment : List Char) :
    (Attribute.IsMalformed segment <->
      Attribute.parse? segment = none ∨ Attribute.parse? segment = some (.sameSite none)) ∧
    (Attribute.IsMalformed segment -> ';' ∉ segment -> forall before after : List Char,
      (after = [] ∨ after.head? = some ';') ->
      parse? (String.ofList (before ++ ';' :: segment ++ after)) =
        (parse? (String.ofList (before ++ after))).map fun c =>
          if Attribute.SetsMode segment ∧
            forall later, later ∈ (Text.splitOn ';' after).tail -> ¬ Attribute.SetsMode later
          then { c with sameSite := none } else c) ∧
    forall header c, parse? header = some c -> forall a,
      a ∈ c.attributes <->
        a ≠ .sameSite none ∧
          ((attributesIn header).filter fun b => b.key = a.key).getLast? = some a := by
  refine ⟨Attribute.isMalformed_iff, ?_, ?_⟩
  · intro hmalformed hsegment before after hafter
    rw [parse?_insert hsegment hafter]
    congr 1
    funext c
    rcases Attribute.isMalformed_iff.mp hmalformed with hnone | hmode
    · have hsets : ¬ Attribute.SetsMode segment := by
        rw [Attribute.setsMode_iff, hnone]
        simp
      rw [hnone, if_neg fun h => hsets h.left]
    · have hsets : Attribute.SetsMode segment :=
        Attribute.setsMode_iff.mpr ⟨.sameSite none, hmode, rfl⟩
      rw [hmode]
      simp only [hsets, true_and, Attribute.exists_key_iff_setsMode]
      by_cases hlater : exists later, later ∈ (Text.splitOn ';' after).tail ∧
          Attribute.SetsMode later
      · obtain ⟨later, hmem, hmodeLater⟩ := hlater
        rw [if_pos ⟨later, hmem, hmodeLater⟩, if_neg fun h => h later hmem hmodeLater]
      · rw [if_neg hlater, if_pos fun later hmem h => hlater ⟨later, hmem, h⟩]
        rfl
  · intro header c hc a
    have hread := parse?_eq_some hc
    rw [hread]
    exact Attribute.mem_attributes_foldl _ _ _

theorem malformed_ignored_but_for_mode_after_keyword :
    Attribute.IsMalformed " Max-Age=soon".toList ∧
      Attribute.IsMalformed " SameSite=odd".toList ∧
      parse? "a=b; SameSite=Lax; Max-Age=soon; Path=/" =
        some { bare "a" "b" with path := some "/", sameSite := some .lax } ∧
      parse? "a=b; SameSite=Lax; SameSite=odd; Path=/" =
        some { bare "a" "b" with path := some "/" } := by
  have hplain : parse? (String.ofList ("a=b; SameSite=Lax".toList ++ "; Path=/".toList)) =
      some { bare "a" "b" with path := some "/", sameSite := some .lax } := by
    decide +kernel
  have hsoon : Attribute.IsMalformed " Max-Age=soon".toList :=
    .maxAge (by decide +kernel) (by decide +kernel)
  have hodd : Attribute.IsMalformed " SameSite=odd".toList :=
    .sameSite (by decide +kernel) fun mode => by cases mode <;> decide +kernel
  refine ⟨hsoon, hodd, ?_, ?_⟩
  · have hinserted := (malformed_ignored_but_for_mode " Max-Age=soon".toList).right.left hsoon
      (by decide) "a=b; SameSite=Lax".toList "; Path=/".toList (.inr rfl)
    rw [hplain, Option.map_some, if_neg (by decide +kernel)] at hinserted
    exact hinserted
  · have hinserted := (malformed_ignored_but_for_mode " SameSite=odd".toList).right.left hodd
      (by decide) "a=b; SameSite=Lax".toList "; Path=/".toList (.inr rfl)
    rw [hplain, Option.map_some, if_pos (by decide +kernel)] at hinserted
    exact hinserted

/-- A malformed attribute is not ignored: it takes the mode away. -/
theorem mode_taken_by_unknown_keyword :
    Attribute.IsMalformed " SameSite=odd".toList ∧
      parse? "a=b; SameSite=Lax" = some { bare "a" "b" with sameSite := some .lax } ∧
      parse? "a=b; SameSite=Lax; SameSite=odd" = some (bare "a" "b") :=
  ⟨.sameSite (by decide +kernel) fun mode => by cases mode <;> decide +kernel,
    by decide +kernel, by decide +kernel⟩

end Cookie
end HttpCall
