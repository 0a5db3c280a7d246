import Mathlib.Data.List.Basic
import Mathlib.Data.List.TakeWhile
import HttpCall.Proofs.Cookies.Rearrangement

/-!
# The form of an accepted cookie

The name of a cookie is a token and its value octets.  A domain has no dot at its front, no
capital letter and no semicolon; a path begins with a slash and has no semicolon.  A domain
that was given as dots only is kept as the empty text.
-/

namespace HttpCall
namespace Cookie

/-- What a domain looks like that was read; it may be empty. -/
structure IsReadDomain (s : List Char) : Prop where
  dot : s.head? ≠ some '.'
  lower : s.any Char.isUpper = false
  semicolon : ';' ∉ s

structure IsReadPath (s : List Char) : Prop where
  slash : s.head? = some '/'
  semicolon : ';' ∉ s

def bareDomain (value : List Char) : List Char := lower (value.dropWhile (· == '.'))

section

variable {s : List Char} {c : Char}

theorem mem_of_mem_lower (hc : c.isAlpha = false) (h : c ∈ lower s) : c ∈ s := by
  obtain ⟨original, hmem, heq⟩ := List.mem_map.mp h
  have hupper : ¬ original.isUpper = true := by
    intro hupper
    have hlower := isLower_toLower hupper
    have hneither : (c.isUpper || c.isLower) = false := hc
    rw [← heq, hlower, Bool.or_true] at hneither
    cases hneither
  rw [toLower_of_not_isUpper hupper] at heq
  rwa [← heq]

theorem not_isUpper_toLower (c : Char) : ¬ c.toLower.isUpper = true := by
  by_cases hupper : c.isUpper = true
  · exact @of_isUpper c (fun c => ¬ c.toLower.isUpper = true) (by decide) hupper
  · rwa [toLower_of_not_isUpper hupper]

theorem any_isUpper_lower (s : List Char) : (lower s).any Char.isUpper = false := by
  rw [List.any_eq_false]
  intro c hc
  obtain ⟨original, _, rfl⟩ := List.mem_map.mp hc
  exact not_isUpper_toLower original

theorem head?_bareDomain (value : List Char) : (bareDomain value).head? ≠ some '.' := by
  intro h
  have hnot := List.head?_dropWhile_not (· == '.') value
  unfold bareDomain lower at h
  cases hrest : value.dropWhile (· == '.') with
  | nil =>
      rw [hrest] at h
      cases h
  | cons first rest =>
      rw [hrest] at h hnot
      have hfirst : '.' ∈ lower [first] := by
        simpa [lower, eq_comm] using h
      have heq := mem_of_mem_lower (by decide) hfirst
      rw [List.mem_singleton] at heq
      simp [← heq] at hnot

theorem isReadDomain_bareDomain {value : List Char} (h : ';' ∉ value) :
    IsReadDomain (bareDomain value) where
  dot := head?_bareDomain value
  lower := any_isUpper_lower _
  semicolon := fun hc =>
    h ((List.dropWhile_suffix _).mem (mem_of_mem_lower (by decide) hc))

theorem bareDomain_eq_nil_iff {value : List Char} :
    bareDomain value = [] <-> value.all (· == '.') = true := by
  unfold bareDomain lower
  rw [List.map_eq_nil_iff, List.dropWhile_eq_nil_iff, List.all_eq_true]

end

/-! ## What is read from a segment -/

namespace Attribute

variable {segment : List Char} {a : Attribute}

theorem mem_of_mem_value {c : Char} (h : c ∈ (split segment).2) : c ∈ segment := by
  unfold split at h
  split at h
  · rename_i key value hsplit
    rw [Text.eq_append_of_splitOnce hsplit]
    exact List.mem_append_right key (List.mem_cons_of_mem _ (Text.mem_of_mem_trim h))
  · cases h

def IsRead : Attribute -> Prop
  | domain name => IsReadDomain name.toList
  | path p => IsReadPath p.toList
  | _ => True

theorem isRead_of_parse? (h : parse? segment = some a) (hsegment : ';' ∉ segment) :
    a.IsRead := by
  have hvalue : ';' ∉ (split segment).2 := fun hc => hsegment (mem_of_mem_value hc)
  have hread := h
  rw [parse?_of_spells (spells_of_parse? h)] at hread
  cases a with
  | domain name =>
      rw [key, ofNamed?_domain] at hread
      split at hread <;> cases hread
      rw [IsRead, String.toList_ofList]
      exact isReadDomain_bareDomain hvalue
  | path p =>
      rw [key, ofNamed?_path] at hread
      split at hread
      · rename_i hslash
        cases hread
        rw [IsRead, String.toList_ofList]
        exact ⟨hslash, hvalue⟩
      · cases hread
  | _ =>
      exact trivial

end Attribute

/-! ## What is read from a text -/

section

variable {header : String} {c : Cookie} {a : Attribute}

theorem isRead_of_mem_attributesIn (h : a ∈ attributesIn header) : a.IsRead := by
  obtain ⟨segment, hmem, hparse⟩ := List.mem_filterMap.mp h
  exact Attribute.isRead_of_parse? hparse
    (Text.notMem_of_mem_splitOn (List.mem_of_mem_tail hmem))

theorem mem_attributes_iff (hc : parse? header = some c) :
    a ∈ c.attributes <-> a ≠ .sameSite none ∧
      ((attributesIn header).filter fun b => b.key = a.key).getLast? = some a := by
  have hread := parse?_eq_some hc
  rw [hread]
  exact Attribute.mem_attributes_foldl _ _ _

theorem mem_attributesIn_of_mem_attributes (hc : parse? header = some c)
    (ha : a ∈ c.attributes) : a ∈ attributesIn header :=
  (List.mem_filter.mp (List.mem_of_getLast? ((mem_attributes_iff hc).mp ha).right)).left

def domainValue? (segment : List Char) : Option (List Char) :=
  if Attribute.nameOf segment = "domain".toList ∧ (Attribute.split segment).2 ≠ [] then
    some (Attribute.split segment).2
  else none

/-- What a text gives as the domain, as often as it does. -/
def domainValues (header : String) : List (List Char) :=
  (segments header).filterMap domainValue?

theorem filter_parse?_domain (segment : List Char) :
    ((Attribute.parse? segment).filter fun a => a.key = "domain") =
      (domainValue? segment).map fun value => .domain (String.ofList (bareDomain value)) := by
  unfold domainValue?
  by_cases hname : Attribute.nameOf segment = "domain".toList
  · rw [Attribute.parse?_of_spells hname, Attribute.ofNamed?_domain]
    cases hvalue : (Attribute.split segment).2 with
    | nil =>
        simp
    | cons first rest =>
        simp [hname, Attribute.key, bareDomain]
  · rw [if_neg fun h => hname h.left, Option.map_none]
    cases hparse : Attribute.parse? segment with
    | none =>
        rfl
    | some a =>
        rw [Attribute.nameOf_of_parse? hparse] at hname
        exact Option.filter_some_neg (by simpa using fun h => hname (by rw [h]))

/-- The domain is the last text that is given for it, less what is taken off. -/
theorem domain_eq (hc : parse? header = some c) :
    c.domain = (domainValues header).getLast?.map fun value =>
      String.ofList (bareDomain value) := by
  have hfilter : ((attributesIn header).filter fun a => a.key = "domain") =
      (domainValues header).map fun value =>
        Attribute.domain (String.ofList (bareDomain value)) := by
    unfold attributesIn domainValues
    rw [List.filter_filterMap, List.map_filterMap]
    exact List.filterMap_congr fun segment _ => filter_parse?_domain segment
  apply Option.ext
  intro d
  have hlast : Attribute.domain d ∈ c.attributes <-> _ := mem_attributes_iff hc
  have hdomain : Attribute.domain d ∈ c.attributes <-> c.domain = some d := mem_attributes
  rw [← hdomain, hlast, Attribute.key, hfilter, List.getLast?_map]
  simp

theorem domain_eq_empty_iff (hc : parse? header = some c) :
    c.domain = some "" <->
      exists value, (domainValues header).getLast? = some value ∧
        value.all (· == '.') = true := by
  rw [domain_eq hc, Option.map_eq_some_iff]
  simp only [String.ofList_eq_empty_iff, bareDomain_eq_nil_iff]

/-- The name of an accepted cookie is a token and its value octets; its domain is in lower
case without a dot before it, and its path begins with a slash.  The domain is only empty if
the last one that is given is made of dots. -/
theorem accepted_in_form_but_for_dots (hc : parse? header = some c) :
    Token.isToken c.name.toList = true ∧ c.value.toList.all isOctet = true ∧
      (forall d, c.domain = some d -> IsReadDomain d.toList) ∧
      (c.domain = some "" <->
        exists value, (domainValues header).getLast? = some value ∧
          value.all (· == '.') = true) ∧
      forall p, c.path = some p -> IsReadPath p.toList := by
  have hpair := pair?_eq_some_iff.mp (pair?_front hc)
  refine ⟨hpair.isToken, hpair.all_isOctet, ?_, domain_eq_empty_iff hc, ?_⟩
  · intro d hd
    have hmem : Attribute.domain d ∈ c.attributes := mem_attributes.mpr hd
    exact isRead_of_mem_attributesIn (mem_attributesIn_of_mem_attributes hc hmem)
  · intro p hp
    have hmem : Attribute.path p ∈ c.attributes := mem_attributes.mpr hp
    exact isRead_of_mem_attributesIn (mem_attributesIn_of_mem_attributes hc hmem)

end

theorem accepted_in_form_but_for_dots_of_last :
    parse? "a=\"b\"; Path=/x; Domain=.Example.com; Domain=; Domain=.." =
        some { bare "a" "b" with domain := some "", path := some "/x" } ∧
      IsReadPath "/x".toList ∧
      exists value, (domainValues
          "a=\"b\"; Path=/x; Domain=.Example.com; Domain=; Domain=..").getLast? = some value ∧
        value.all (· == '.') = true := by
  have hread : parse? "a=\"b\"; Path=/x; Domain=.Example.com; Domain=; Domain=.." =
      some { bare "a" "b" with domain := some "", path := some "/x" } := by
    decide +kernel
  rcases accepted_in_form_but_for_dots hread with ⟨_, _, _, hempty, hpath⟩
  exact ⟨hread, hpath "/x" rfl, hempty.mp rfl⟩

/-- A domain of an accepted cookie that is present and empty. -/
theorem empty_domain_of_dot :
    parse? "a=b; Domain=." = some { bare "a" "b" with domain := some "" } := by
  decide +kernel

end Cookie
end HttpCall
