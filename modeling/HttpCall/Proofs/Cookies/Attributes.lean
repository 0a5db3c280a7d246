import Mathlib.Data.List.Pairwise
import HttpCall.Cookie.Attribute

/-!
# The attributes of a cookie

A cookie has one attribute for each field that is present.  Attributes of different names
change different fields, so a cookie is the result of recording its attributes in any order.
-/

namespace HttpCall
namespace Cookie

namespace Attribute

def key : Attribute -> String
  | domain _ => "domain"
  | path _ => "path"
  | maxAge _ => "max-age"
  | expires _ => "expires"
  | secure => "secure"
  | httpOnly => "httponly"
  | sameSite _ => "samesite"

instance : Std.Symm fun a b : Attribute => a.key ≠ b.key := ⟨fun _ _ h => h.symm⟩

theorem apply_comm {a b : Attribute} (h : a.key ≠ b.key) (c : Cookie) :
    apply (apply c a) b = apply (apply c b) a := by
  cases a <;> cases b <;> first | rfl | exact absurd rfl h

end Attribute

def attributeFields (c : Cookie) : List (Option Attribute) :=
  [c.domain.map .domain, c.path.map .path, c.maxAge.map .maxAge, c.expires.map .expires,
    if c.secure then some .secure else none, if c.httpOnly then some .httpOnly else none,
    c.sameSite.map fun mode => .sameSite (some mode)]

def attributes (c : Cookie) : List Attribute := c.attributeFields.filterMap id

def Has (c : Cookie) : Attribute -> Prop
  | .domain name => c.domain = some name
  | .path p => c.path = some p
  | .maxAge seconds => c.maxAge = some seconds
  | .expires seconds => c.expires = some seconds
  | .secure => c.secure = true
  | .httpOnly => c.httpOnly = true
  | .sameSite mode => mode ≠ none ∧ c.sameSite = mode

theorem mem_attributes {c : Cookie} {a : Attribute} : a ∈ c.attributes <-> c.Has a := by
  have hfields : a ∈ c.attributes <-> c.attributeFields.any (· = some a) = true := by
    simp [attributes]
  rw [hfields]
  unfold attributeFields
  cases hsecure : c.secure <;> cases hhttpOnly : c.httpOnly <;> cases a with
  | sameSite mode => cases mode <;> simp [Has]
  | _ => simp [Has, hsecure, hhttpOnly]

theorem attributes_pairwise (c : Cookie) :
    c.attributes.Pairwise fun a b => a.key ≠ b.key := by
  unfold attributes attributeFields
  rw [List.pairwise_filterMap]
  simp [Attribute.key]

theorem foldl_apply_attributes (c : Cookie) :
    c.attributes.foldl Attribute.apply (bare c.name c.value) = c := by
  obtain ⟨name, value, domain, path, maxAge, expires, secure, httpOnly, sameSite⟩ := c
  cases domain <;> cases path <;> cases maxAge <;> cases expires <;> cases secure <;>
    cases httpOnly <;> cases sameSite <;> rfl

/-- The order in which the attributes are recorded makes no difference. -/
theorem foldl_apply_of_perm {c : Cookie} {attributes : List Attribute}
    (h : attributes.Perm c.attributes) :
    attributes.foldl Attribute.apply (bare c.name c.value) = c := by
  have hpairwise := h.symm.pairwise c.attributes_pairwise fun hab => hab.symm
  have hcomm : forall a, a ∈ attributes -> forall b, b ∈ attributes -> forall d,
      Attribute.apply (Attribute.apply d a) b = Attribute.apply (Attribute.apply d b) a := by
    intro a ha b hb d
    by_cases hab : a = b
    · rw [hab]
    · exact Attribute.apply_comm (hpairwise.forall ha hb hab) d
  rw [h.foldl_eq' hcomm, foldl_apply_attributes]

end Cookie
end HttpCall
