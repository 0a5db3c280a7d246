import HttpCall.Cookie.Parser
import HttpCall.Proofs.Text.Separation

/-!
# Segments of a cookie text

What stands between two semicolons of a cookie text: a name alone, or a name and a value
with `=` between them, and blanks around each.  The name of an attribute may be written
with letters of either case.
-/

namespace HttpCall

/-! ## Visible characters -/

def IsVisible (c : Char) : Prop := 0x21 <= c.toNat ∧ c.toNat <= 0x7E

theorem IsVisible.isBlank {c : Char} (h : IsVisible c) : Text.isBlank c = false := by
  unfold IsVisible at h
  simp only [Text.isBlank, Bool.or_eq_false_iff, Bool.and_eq_false_iff, beq_eq_false_iff_ne,
    decide_eq_false_iff_not]
  omega

theorem Text.isTrimmed_of_isVisible {s : List Char} (h : forall c, c ∈ s -> IsVisible c) :
    Text.IsTrimmed s :=
  .of_forall fun c hc => (h c hc).isBlank

theorem isVisible_of_isUpper {c : Char} (h : c.isUpper = true) : IsVisible c := by
  obtain ⟨hlow, hhigh⟩ : 65 <= c.toNat ∧ c.toNat <= 90 := of_decide_eq_true h
  exact ⟨by omega, by omega⟩

theorem isVisible_of_isDigit {c : Char} (h : c.isDigit = true) : IsVisible c := by
  have hbounds := Bool.and_eq_true_iff.mp h
  have hlow : 48 <= c.toNat := of_decide_eq_true hbounds.1
  have hhigh : c.toNat <= 57 := of_decide_eq_true hbounds.2
  exact ⟨by omega, by omega⟩

theorem isVisible_of_isLower {c : Char} (h : c.isLower = true) : IsVisible c := by
  have hbounds := Bool.and_eq_true_iff.mp h
  have hlow : 97 <= c.toNat := of_decide_eq_true hbounds.1
  have hhigh : c.toNat <= 122 := of_decide_eq_true hbounds.2
  exact ⟨by omega, by omega⟩

theorem Token.isVisible {c : Char} (h : Token.isTokenChar c = true) : IsVisible c := by
  have hmarks : "!#$%&'*+-.^_\x60|~".toList.all
      (fun c => 0x21 <= c.toNat && c.toNat <= 0x7E) = true := by
    decide
  change (((c.isUpper || c.isLower) || c.isDigit) || List.contains _ c) = true at h
  simp only [Bool.or_eq_true, List.contains_iff_mem] at h
  rcases h with ((hupper | hlower) | hdigit) | hmark
  · exact isVisible_of_isUpper hupper
  · exact isVisible_of_isLower hlower
  · exact isVisible_of_isDigit hdigit
  · simpa [IsVisible] using List.all_eq_true.mp hmarks c hmark

namespace Cookie

theorem isVisible_of_isOctet {c : Char} (h : isOctet c = true) : IsVisible c := by
  simp only [isOctet, Bool.or_eq_true, Bool.and_eq_true, beq_iff_eq, decide_eq_true_eq] at h
  unfold IsVisible
  omega

/-! ## Letters of either case -/

/-- The text is a keyword, whose letters are in lower case, written in letters of either case. -/
def Spells (keyword : String) (s : List Char) : Prop := lower s = keyword.toList

instance (keyword : String) (s : List Char) : Decidable (Spells keyword s) :=
  inferInstanceAs (Decidable (lower s = keyword.toList))

def isKeyChar (c : Char) : Bool := c.isLower || c == '-'

variable {keyword : String} {s : List Char} {c : Char}

theorem isVisible_of_isKeyChar (h : isKeyChar c = true) : IsVisible c := by
  simp only [isKeyChar, Bool.or_eq_true, beq_iff_eq] at h
  rcases h with hlower | rfl
  · exact isVisible_of_isLower hlower
  · exact ⟨by decide, by decide⟩

theorem toLower_of_not_isUpper (h : ¬ c.isUpper = true) : c.toLower = c := by
  unfold Char.toLower
  exact dif_neg fun hc => h (decide_eq_true hc)

theorem of_isUpper {p : Char -> Prop} (hletters : forall n : Fin 26, p (Char.ofNat (65 + n)))
    (h : c.isUpper = true) : p c := by
  obtain ⟨hlow, hhigh⟩ : 65 <= c.toNat ∧ c.toNat <= 90 := of_decide_eq_true h
  have hc : Char.ofNat (65 + (c.toNat - 65)) = c := by
    rw [Nat.add_sub_cancel' hlow, Char.ofNat_toNat]
  have hletter := hletters ⟨c.toNat - 65, by omega⟩
  rwa [hc] at hletter

theorem isLower_toLower (h : c.isUpper = true) : c.toLower.isLower = true :=
  @of_isUpper c (fun c => c.toLower.isLower = true) (by decide) h

theorem lower_of_any_eq_false (h : s.any Char.isUpper = false) : lower s = s := by
  unfold lower
  rw [List.map_congr_left fun c hc => toLower_of_not_isUpper (List.any_eq_false.mp h c hc),
    List.map_id']

theorem Spells.mem (h : Spells keyword s) (hc : c ∈ s) :
    c ∈ keyword.toList ∨ c.isUpper = true := by
  by_cases hupper : c.isUpper = true
  · exact .inr hupper
  · have hlower : c.toLower ∈ lower s := List.mem_map_of_mem hc
    rw [toLower_of_not_isUpper hupper, h] at hlower
    exact .inl hlower

theorem Spells.notMem (h : Spells keyword s) (hkeyword : c ∉ keyword.toList)
    (hupper : c.isUpper = false) : c ∉ s := by
  intro hc
  rcases h.mem hc with hmem | hmem
  · exact hkeyword hmem
  · simp [hupper] at hmem

theorem Spells.isTrimmed (h : Spells keyword s)
    (hkeyword : keyword.toList.all isKeyChar = true) : Text.IsTrimmed s := by
  refine Text.isTrimmed_of_isVisible fun c hc => ?_
  rcases h.mem hc with hmem | hupper
  · exact isVisible_of_isKeyChar (List.all_eq_true.mp hkeyword c hmem)
  · exact isVisible_of_isUpper hupper

/-! ## Taking a segment apart -/

/-- A name and a value with `=` between them, and blanks around each of them. -/
def Assigns (name value segment : List Char) : Prop :=
  exists left right, Text.IsPadded name left ∧ Text.IsPadded value right ∧
    segment = left ++ '=' :: right

section

variable {name value segment : List Char}

theorem Assigns.splitOnce (h : Assigns name value segment) (hmark : '=' ∉ name)
    (hname : Text.IsTrimmed name) (hvalue : Text.IsTrimmed value) :
    exists left right, Text.splitOnce '=' segment = some (left, right) ∧
      Text.trim left = name ∧ Text.trim right = value := by
  obtain ⟨left, right, hleft, hright, rfl⟩ := h
  exact ⟨left, right, Text.splitOnce_append (hleft.notMem (by decide) hmark),
    hleft.trim_eq hname, hright.trim_eq hvalue⟩

theorem Assigns.semicolon_notMem (h : Assigns name value segment) (hname : ';' ∉ name)
    (hvalue : ';' ∉ value) : ';' ∉ segment := by
  obtain ⟨left, right, hleft, hright, rfl⟩ := h
  have hleft' : ';' ∉ left := hleft.notMem (by decide) hname
  have hright' : ';' ∉ right := hright.notMem (by decide) hvalue
  simp [hleft', hright']

theorem Attribute.split_of_assigns (h : Assigns name value segment) (hmark : '=' ∉ name)
    (hname : Text.IsTrimmed name) (hvalue : Text.IsTrimmed value) :
    Attribute.split segment = (name, value) := by
  obtain ⟨left, right, hsplit, hleft, hright⟩ := h.splitOnce hmark hname hvalue
  unfold Attribute.split
  rw [hsplit]
  exact Prod.ext hleft hright

theorem Attribute.split_of_isPadded (h : Text.IsPadded name segment) (hmark : '=' ∉ name)
    (hname : Text.IsTrimmed name) : Attribute.split segment = (name, []) := by
  unfold Attribute.split
  rw [Text.splitOnce_of_notMem (h.notMem (by decide) hmark), h.trim_eq hname]

def Quotes (value quoted : List Char) : Prop := quoted = value ∨ quoted = '"' :: value ++ ['"']

theorem unquote?_of_quotes {quoted : List Char} (h : Quotes value quoted)
    (hvalue : '"' ∉ value) : unquote? quoted = some value := by
  rcases h with rfl | rfl
  · unfold unquote?
    split
    · simp at hvalue
    · rfl
  · simp [unquote?]

theorem Quotes.isTrimmed {quoted : List Char} (h : Quotes value quoted)
    (hvalue : Text.IsTrimmed value) : Text.IsTrimmed quoted := by
  rcases h with rfl | rfl
  · exact hvalue
  · constructor
    · rfl
    · rw [List.getLast?_append]
      rfl

/-! ## The name and the value of a cookie -/

section

variable {quoted : List Char} (hname : Token.isToken name = true)
  (hvalue : value.all isOctet = true) (hquoted : Quotes value quoted)
  (h : Assigns name quoted segment)

include hname in
theorem isTokenChar_of_mem {c : Char} (hc : c ∈ name) : Token.isTokenChar c = true := by
  simp only [Token.isToken, Bool.and_eq_true, List.all_eq_true] at hname
  exact hname.2 c hc

include hname hvalue hquoted h

theorem pair?_of_assigns : pair? segment = some (name, value) := by
  have hmark : '=' ∉ name := fun hc => by cases isTokenChar_of_mem hname hc
  have hquote : '"' ∉ value := fun hc => by cases List.all_eq_true.mp hvalue '"' hc
  have htrimName : Text.IsTrimmed name :=
    Text.isTrimmed_of_isVisible fun c hc => Token.isVisible (isTokenChar_of_mem hname hc)
  have htrimValue : Text.IsTrimmed value :=
    Text.isTrimmed_of_isVisible fun c hc =>
      isVisible_of_isOctet (List.all_eq_true.mp hvalue c hc)
  obtain ⟨left, right, hsplit, hleft, hright⟩ :=
    h.splitOnce hmark htrimName (hquoted.isTrimmed htrimValue)
  unfold pair?
  rw [hsplit]
  simp only [hleft, hright, hname, hvalue, if_true, unquote?_of_quotes hquoted hquote]

theorem semicolon_notMem_of_pair : ';' ∉ segment := by
  refine h.semicolon_notMem (fun hc => by cases isTokenChar_of_mem hname hc) ?_
  have hsemicolon : ';' ∉ value := fun hc => by cases List.all_eq_true.mp hvalue ';' hc
  rcases hquoted with rfl | rfl
  · exact hsemicolon
  · simp [hsemicolon]

end

end

end Cookie
end HttpCall
