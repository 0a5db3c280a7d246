import HttpCall.Proofs.Cookies.Segment

/-!
# Media types

The grammar of a content type: a type and a subtype, and after each semicolon at most one
parameter.  The value of a parameter is a token, or any text between double quotes, in which
a backslash may stand before a character and is no part of the value.
-/

namespace HttpCall

/-- The blanks of a content type. -/
def isSpace (c : Char) : Bool := c == ' ' || c == '\t'

/-- A character that may stand between double quotes: no control character but the tab, and
neither a quote nor a backslash. -/
def isQuotable (c : Char) : Bool :=
  isSpace c || c.toNat == 0x21 || (0x23 <= c.toNat && c.toNat <= 0x5B) ||
    (0x5D <= c.toNat && c.toNat <= 0x7E) || 0x80 <= c.toNat

def isEscapable (c : Char) : Bool :=
  isSpace c || (0x21 <= c.toNat && c.toNat <= 0x7E) || 0x80 <= c.toNat

/-- A character between double quotes, on its own or after a backslash. -/
inductive QuotedChar where
  | plain (c : Char) (allowed : isQuotable c = true)
  | escaped (c : Char) (allowed : isEscapable c = true)

namespace QuotedChar

def char : QuotedChar -> Char
  | plain c _ => c
  | escaped c _ => c

def text : QuotedChar -> List Char
  | plain c _ => [c]
  | escaped c _ => ['\\', c]

end QuotedChar

inductive ParameterValue where
  | token (s : List Char) (isToken : Token.isToken s = true)
  | quoted (inside : List QuotedChar)

namespace ParameterValue

def meaning : ParameterValue -> List Char
  | token s _ => s
  | quoted inside => inside.map QuotedChar.char

def text : ParameterValue -> List Char
  | token s _ => s
  | quoted inside => '"' :: inside.flatMap QuotedChar.text ++ ['"']

end ParameterValue

structure Parameter where
  name : List Char
  value : ParameterValue
  isToken : Token.isToken name = true

namespace Parameter

def text (p : Parameter) : List Char := p.name ++ '=' :: p.value.text

def isCharset (p : Parameter) : Bool := p.name.map Char.toLower = "charset".toList

end Parameter

/-- A semicolon with blanks on either side, and the parameter after it, if there is one. -/
structure ParameterSlot where
  before : List Char
  after : List Char
  parameter? : Option Parameter
  before_blank : before.all isSpace = true
  after_blank : after.all isSpace = true

namespace ParameterSlot

def content (slot : ParameterSlot) : List Char :=
  slot.after ++ (slot.parameter?.map Parameter.text).getD []

def text (slot : ParameterSlot) : List Char := slot.before ++ ';' :: slot.content

end ParameterSlot

structure MediaType where
  type : List Char
  subtype : List Char
  slots : List ParameterSlot
  type_isToken : Token.isToken type = true
  subtype_isToken : Token.isToken subtype = true

namespace MediaType

def essence (m : MediaType) : List Char := m.type ++ '/' :: m.subtype

def text (m : MediaType) : String :=
  String.ofList (m.essence ++ m.slots.flatMap ParameterSlot.text)

def parameters (m : MediaType) : List Parameter := m.slots.filterMap ParameterSlot.parameter?

def charset? (m : MediaType) : Option Parameter := m.parameters.find? Parameter.isCharset

/-- The label of the character set that the content type declares. -/
def charsetLabel (m : MediaType) : String :=
  (m.charset?.map fun p => String.ofList p.value.meaning).getD "utf-8"

end MediaType

/-! ## The characters of a content type -/

def IsPrinted (c : Char) : Prop := c = '\t' ∨ 0x20 <= c.toNat ∧ c.toNat ≠ 0x7F

variable {c : Char}

theorem isSpace_iff : isSpace c = true <-> c = ' ' ∨ c = '\t' := by
  simp [isSpace]

theorem isBlank_of_isSpace (h : isSpace c = true) : Text.isBlank c = true := by
  rcases isSpace_iff.mp h with rfl | rfl <;> rfl

theorem isPrinted_of_isSpace (h : isSpace c = true) : IsPrinted c := by
  rcases isSpace_iff.mp h with rfl | rfl
  · exact .inr ⟨by decide, by decide⟩
  · exact .inl rfl

theorem isPrinted_of_isVisible (h : IsVisible c) : IsPrinted c := by
  unfold IsVisible at h
  exact .inr ⟨by omega, by omega⟩

theorem isEscapable_of_isQuotable (h : isQuotable c = true) : isEscapable c = true := by
  simp only [isQuotable, isEscapable, Bool.or_eq_true, Bool.and_eq_true, beq_iff_eq,
    decide_eq_true_eq] at h ⊢
  rcases h with (((hspace | hmark) | hlow) | hmiddle) | hhigh
  · exact .inl (.inl hspace)
  · exact .inl (.inr ⟨by omega, by omega⟩)
  · exact .inl (.inr ⟨by omega, by omega⟩)
  · exact .inl (.inr ⟨by omega, by omega⟩)
  · exact .inr hhigh

theorem isPrinted_of_isEscapable (h : isEscapable c = true) : IsPrinted c := by
  simp only [isEscapable, Bool.or_eq_true, Bool.and_eq_true, decide_eq_true_eq] at h
  rcases h with (hspace | hvisible) | hhigh
  · exact isPrinted_of_isSpace hspace
  · exact isPrinted_of_isVisible hvisible
  · exact .inr ⟨by omega, by omega⟩

theorem isPrinted_of_mem_token {s : List Char} (hs : Token.isToken s = true) (hc : c ∈ s) :
    IsPrinted c :=
  isPrinted_of_isVisible (Token.isVisible (Cookie.isTokenChar_of_mem hs hc))

theorem notMem_token {s : List Char} (hs : Token.isToken s = true)
    (hc : Token.isTokenChar c = false) : c ∉ s := by
  intro hmem
  rw [Cookie.isTokenChar_of_mem hs hmem] at hc
  cases hc

theorem QuotedChar.isPrinted_of_mem_text {q : QuotedChar} (hc : c ∈ q.text) : IsPrinted c := by
  cases q with
  | plain d allowed =>
      rw [List.mem_singleton.mp hc]
      exact isPrinted_of_isEscapable (isEscapable_of_isQuotable allowed)
  | escaped d allowed =>
      rcases List.mem_cons.mp hc with rfl | hd
      · exact .inr ⟨by decide, by decide⟩
      · rw [List.mem_singleton.mp hd]
        exact isPrinted_of_isEscapable allowed

theorem ParameterValue.isPrinted_of_mem_text {v : ParameterValue} (hc : c ∈ v.text) :
    IsPrinted c := by
  cases v with
  | token s isToken =>
      exact isPrinted_of_mem_token isToken hc
  | quoted inside =>
      have hquote : IsPrinted '"' := .inr ⟨by decide, by decide⟩
      rcases List.mem_append.mp hc with hc | hc
      · rcases List.mem_cons.mp hc with rfl | hc
        · exact hquote
        · obtain ⟨q, _, hq⟩ := List.mem_flatMap.mp hc
          exact QuotedChar.isPrinted_of_mem_text hq
      · rw [List.mem_singleton.mp hc]
        exact hquote

theorem Parameter.isPrinted_of_mem_text {p : Parameter} (hc : c ∈ p.text) : IsPrinted c := by
  rcases List.mem_append.mp hc with hname | hc
  · exact isPrinted_of_mem_token p.isToken hname
  · rcases List.mem_cons.mp hc with rfl | hvalue
    · exact .inr ⟨by decide, by decide⟩
    · exact ParameterValue.isPrinted_of_mem_text hvalue

theorem ParameterSlot.isPrinted_of_mem_text {slot : ParameterSlot} (hc : c ∈ slot.text) :
    IsPrinted c := by
  rcases List.mem_append.mp hc with hbefore | hc
  · exact isPrinted_of_isSpace (List.all_eq_true.mp slot.before_blank c hbefore)
  · rcases List.mem_cons.mp hc with rfl | hc
    · exact .inr ⟨by decide, by decide⟩
    · rcases List.mem_append.mp hc with hafter | hc
      · exact isPrinted_of_isSpace (List.all_eq_true.mp slot.after_blank c hafter)
      · cases hparameter : slot.parameter? with
        | none =>
            rw [hparameter] at hc
            cases hc
        | some p =>
            rw [hparameter] at hc
            exact Parameter.isPrinted_of_mem_text hc

theorem MediaType.isPrinted_of_mem_text {m : MediaType} (hc : c ∈ m.text.toList) :
    IsPrinted c := by
  rw [MediaType.text, String.toList_ofList] at hc
  rcases List.mem_append.mp hc with hc | hc
  · rcases List.mem_append.mp hc with htype | hc
    · exact isPrinted_of_mem_token m.type_isToken htype
    · rcases List.mem_cons.mp hc with rfl | hsubtype
      · exact .inr ⟨by decide, by decide⟩
      · exact isPrinted_of_mem_token m.subtype_isToken hsubtype
  · obtain ⟨slot, _, hslot⟩ := List.mem_flatMap.mp hc
    exact ParameterSlot.isPrinted_of_mem_text hslot

end HttpCall
