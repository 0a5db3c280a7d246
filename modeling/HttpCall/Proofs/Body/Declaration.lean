import HttpCall.Client
import HttpCall.Proofs.Body.Charset
import HttpCall.Proofs.Body.MediaType

/-!
# The character set that a content type declares

A content type is cut at its semicolons, and the first part that assigns to `charset` gives
the label.  Quotes around a label are taken off, but otherwise quoting is not seen.  So each
parameter is read on its own, and rightly unless a quoted value has a semicolon before what
looks like a character set, or the label is itself quoted with a semicolon or a backslash.
-/

namespace HttpCall

/-! ## Reading a text that is cut at semicolons -/

namespace ContentType

def withoutQuotes (s : List Char) : List Char :=
  Text.dropEndWhile (· == '"') (s.dropWhile (· == '"'))

def labelIn? (s : List Char) : Option (List Char) := (Text.splitOn ';' s).findSome? charsetValue?

variable {s t name value : List Char}

theorem charsetValue?_of_notMem (h : '=' ∉ s) : charsetValue? s = none := by
  unfold charsetValue?
  rw [Text.splitOnce_of_notMem h]

theorem charsetValue?_append_cons (h : '=' ∉ name) (value : List Char) :
    charsetValue? (name ++ '=' :: value) =
      if (Text.trim name).map Char.toLower = "charset".toList then
        some (withoutQuotes (Text.trim value))
      else none := by
  unfold charsetValue?
  rw [Text.splitOnce_append h]
  rfl

theorem notMem_of_blank (h : s.all Text.isBlank = true) {c : Char}
    (hc : Text.isBlank c = false) : c ∉ s := by
  intro hmem
  rw [List.all_eq_true.mp h c hmem] at hc
  cases hc

theorem charsetValue?_append_blank (s : List Char) (ht : t.all Text.isBlank = true) :
    charsetValue? (s ++ t) = charsetValue? s := by
  have hmark : '=' ∉ t := notMem_of_blank ht (by decide)
  by_cases hs : '=' ∈ s
  · obtain ⟨name, value, rfl, hname⟩ := List.eq_append_cons_of_mem hs
    rw [List.append_assoc, List.cons_append, charsetValue?_append_cons hname,
      charsetValue?_append_cons hname, Text.trim_append_of_all value ht]
  · rw [charsetValue?_of_notMem hs, charsetValue?_of_notMem (by simp [hs, hmark])]

theorem charsetValue?_blank_append (hs : s.all Text.isBlank = true) (t : List Char) :
    charsetValue? (s ++ t) = charsetValue? t := by
  have hmark : '=' ∉ s := notMem_of_blank hs (by decide)
  by_cases ht : '=' ∈ t
  · obtain ⟨name, value, rfl, hname⟩ := List.eq_append_cons_of_mem ht
    rw [← List.append_assoc, charsetValue?_append_cons (by simp [hmark, hname]),
      charsetValue?_append_cons hname, Text.trim_append_of_all_left hs]
  · rw [charsetValue?_of_notMem ht, charsetValue?_of_notMem (by simp [ht, hmark])]

theorem labelIn?_append_cons (s t : List Char) :
    labelIn? (s ++ ';' :: t) = (labelIn? s).or (labelIn? t) := by
  unfold labelIn?
  rw [Text.splitOn_append_cons, List.findSome?_append]

theorem labelIn?_append_blank (s : List Char) (ht : t.all Text.isBlank = true) :
    labelIn? (s ++ t) = labelIn? s := by
  obtain ⟨init, last, hparts, happend⟩ :=
    Text.exists_splitOn_append s (notMem_of_blank ht (c := ';') (by decide))
  unfold labelIn?
  rw [hparts, happend, List.findSome?_append, List.findSome?_append, List.findSome?_singleton,
    List.findSome?_singleton, charsetValue?_append_blank last ht]

theorem labelIn?_blank_append (hs : s.all Text.isBlank = true) (t : List Char) :
    labelIn? (s ++ t) = labelIn? t := by
  unfold labelIn?
  rw [Text.splitOn_append_of_notMem (notMem_of_blank hs (by decide)),
    Text.splitOn_eq_cons ';' t, List.findSome?_cons, List.findSome?_cons,
    charsetValue?_blank_append hs, List.tail_cons]

end ContentType

/-! ## Parameters are read one by one -/

theorem all_isBlank_of_isSpace {s : List Char} (h : s.all isSpace = true) :
    s.all Text.isBlank = true :=
  List.all_eq_true.mpr fun c hc => isBlank_of_isSpace (List.all_eq_true.mp h c hc)

def Parameter.label? (p : Parameter) : Option (List Char) := ContentType.labelIn? p.text

def ParameterSlot.label? (slot : ParameterSlot) : Option (List Char) :=
  slot.parameter?.bind Parameter.label?

theorem ParameterSlot.labelIn?_content (slot : ParameterSlot) :
    ContentType.labelIn? slot.content = slot.label? := by
  unfold content label?
  rw [ContentType.labelIn?_blank_append (all_isBlank_of_isSpace slot.after_blank)]
  cases slot.parameter? <;> rfl

theorem ParameterSlot.flatMap_text_cons (s : List Char) (slot : ParameterSlot)
    (rest : List ParameterSlot) :
    s ++ (slot :: rest).flatMap text =
      (s ++ slot.before) ++ ';' :: (slot.content ++ rest.flatMap text) := by
  simp [text]

theorem ContentType.labelIn?_append_slots (s : List Char) (slots : List ParameterSlot) :
    labelIn? (s ++ slots.flatMap ParameterSlot.text) =
      (labelIn? s).or (slots.findSome? ParameterSlot.label?) := by
  induction slots generalizing s with
  | nil =>
      simp
  | cons slot rest ih =>
      -- The blanks before a semicolon belong to what precedes it, and change nothing there.
      rw [ParameterSlot.flatMap_text_cons, labelIn?_append_cons,
        labelIn?_append_blank s (all_isBlank_of_isSpace slot.before_blank), ih,
        slot.labelIn?_content, List.findSome?_cons]
      cases slot.label? <;> rfl

namespace MediaType

variable {m : MediaType}

theorem semicolon_notMem_essence (m : MediaType) : ';' ∉ m.essence := by
  unfold essence
  have htype := notMem_token m.type_isToken (c := ';') (by decide)
  have hsubtype := notMem_token m.subtype_isToken (c := ';') (by decide)
  simp [htype, hsubtype]

theorem findSome?_slots (m : MediaType) :
    m.slots.findSome? ParameterSlot.label? = m.parameters.findSome? Parameter.label? := by
  unfold parameters
  rw [← List.head?_filterMap, ← List.head?_filterMap, List.filterMap_filterMap]
  rfl

/-- The label of a content type is the first that is read from one of its parameters. -/
theorem charsetLabel?_text (m : MediaType) :
    ContentType.charsetLabel? m.text =
      (m.parameters.findSome? Parameter.label?).map String.ofList := by
  unfold ContentType.charsetLabel? text
  rw [String.toList_ofList, List.drop_one, ← findSome?_slots]
  congr 1
  cases m.slots with
  | nil =>
      rw [List.flatMap_nil, List.append_nil, Text.splitOn_of_notMem m.semicolon_notMem_essence]
      rfl
  | cons slot rest =>
      have hbefore : ';' ∉ slot.before :=
        ContentType.notMem_of_blank (all_isBlank_of_isSpace slot.before_blank) (by decide)
      have hfront : ';' ∉ m.essence ++ slot.before := by
        simp [m.semicolon_notMem_essence, hbefore]
      have hread := ContentType.labelIn?_append_slots slot.content rest
      rw [slot.labelIn?_content] at hread
      rw [ParameterSlot.flatMap_text_cons, Text.splitOn_append hfront, List.tail_cons,
        List.findSome?_cons]
      refine hread.trans ?_
      cases slot.label? <;> rfl

end MediaType

/-! ## Quoted values -/

namespace ContentType

def AssignsCharset (part : List Char) : Prop :=
  exists name value, part = name ++ '=' :: value ∧ '=' ∉ name ∧
    (Text.trim name).map Char.toLower = "charset".toList

theorem isSome_charsetValue?_iff {part : List Char} :
    (charsetValue? part).isSome = true <-> AssignsCharset part := by
  constructor
  · intro h
    by_cases hmark : '=' ∈ part
    · obtain ⟨name, value, rfl, hname⟩ := List.eq_append_cons_of_mem hmark
      rw [charsetValue?_append_cons hname] at h
      split at h
      · rename_i hcharset
        exact ⟨name, value, rfl, hname, hcharset⟩
      · cases h
    · rw [charsetValue?_of_notMem hmark] at h
      cases h
  · rintro ⟨name, value, rfl, hname, hcharset⟩
    rw [charsetValue?_append_cons hname, if_pos hcharset]
    rfl

instance (part : List Char) : Decidable (AssignsCharset part) :=
  decidable_of_iff _ isSome_charsetValue?_iff

theorem withoutQuotes_of_notMem {s : List Char} (h : '"' ∉ s) : withoutQuotes s = s := by
  have hfront : s.dropWhile (· == '"') = s := by
    cases s with
    | nil =>
        rfl
    | cons c rest =>
        rw [List.mem_cons, not_or] at h
        exact List.dropWhile_cons_of_neg (by simp [Ne.symm h.1])
  unfold withoutQuotes
  rw [hfront]
  refine Text.dropEndWhile_of_getLast? ((Option.any_eq_false _ _).mpr fun c hc => ?_)
  simp only [beq_eq_false_iff_ne, ne_eq]
  rintro rfl
  exact h (List.mem_of_getLast? hc)

theorem withoutQuotes_quoted {s : List Char} (h : '"' ∉ s) :
    withoutQuotes ('"' :: s ++ ['"']) = s := by
  have hback : withoutQuotes ('"' :: s ++ ['"']) = withoutQuotes s := by
    unfold withoutQuotes
    rw [List.cons_append, List.dropWhile_cons_of_pos (by simp), List.dropWhile_append]
    split
    · rename_i hempty
      rw [List.isEmpty_iff.mp hempty]
      rfl
    · exact Text.dropEndWhile_append_of_all rfl
  rw [hback, withoutQuotes_of_notMem h]

theorem mem_withoutQuotes {s : List Char} {c : Char} (h : c ∈ s) (hc : c ≠ '"') :
    c ∈ withoutQuotes s := by
  obtain ⟨after, hafter, heq⟩ :=
    Text.eq_dropEndWhile_append (p := (· == '"')) (s.dropWhile (· == '"'))
  rw [← List.takeWhile_append_dropWhile (p := (· == '"')) (l := s), heq] at h
  have hquotes : forall t : List Char, t.all (· == '"') = true -> c ∉ t := by
    intro t ht hmem
    exact hc (by simpa using List.all_eq_true.mp ht c hmem)
  rcases List.mem_append.mp h with hfront | h
  · exact absurd hfront (hquotes _ List.all_takeWhile)
  · rcases List.mem_append.mp h with hmem | hback
    · exact hmem
    · exact absurd hback (hquotes _ hafter)

theorem not_isNamed_of_backslash {label : String} (h : '\\' ∈ label.toList)
    (charset : Charset) : ¬ charset.IsNamed label := by
  intro hnamed
  have hspelled : '\\' ∈ (String.ofList (label.toList.map Char.toLower)).toList := by
    rw [String.toList_ofList]
    exact List.mem_map.mpr ⟨'\\', h, rfl⟩
  have hlabels : forall l, l ∈ charset.labels -> '\\' ∉ l.toList := by
    cases charset <;> decide
  exact hlabels _ hnamed hspelled

end ContentType

namespace QuotedChar

theorem flatMap_text {inside : List QuotedChar} (h : '\\' ∉ inside.flatMap text) :
    inside.flatMap text = inside.map char ∧ '"' ∉ inside.map char := by
  induction inside with
  | nil =>
      exact ⟨rfl, List.not_mem_nil⟩
  | cons q rest ih =>
      rw [List.flatMap_cons, List.mem_append, not_or] at h
      rcases ih h.2 with ⟨htext, hquote⟩
      cases q with
      | plain c allowed =>
          have hc : '"' ≠ c := by
            rintro rfl
            cases allowed
          rw [List.flatMap_cons, htext, List.map_cons, List.mem_cons, not_or]
          exact ⟨rfl, hc, hquote⟩
      | escaped c allowed =>
          exact absurd List.mem_cons_self h.1

end QuotedChar

namespace ParameterValue

theorem isTrimmed_text (v : ParameterValue) : Text.IsTrimmed v.text := by
  cases v with
  | token s isToken =>
      exact Text.isTrimmed_of_isVisible fun c hc =>
        Token.isVisible (Cookie.isTokenChar_of_mem isToken hc)
  | quoted inside =>
      constructor
      · rfl
      · rw [text, List.getLast?_append]
        rfl

theorem trim_text (v : ParameterValue) : Text.trim v.text = v.text :=
  (Text.IsPadded.refl v.text).trim_eq v.isTrimmed_text

theorem withoutQuotes_text {v : ParameterValue} (h : '\\' ∉ v.text) :
    ContentType.withoutQuotes v.text = v.meaning := by
  cases v with
  | token s isToken =>
      exact ContentType.withoutQuotes_of_notMem (notMem_token isToken (by decide))
  | quoted inside =>
      have hinside : '\\' ∉ inside.flatMap QuotedChar.text := by
        intro hmem
        exact h (List.mem_append_left _ (List.mem_cons_of_mem _ hmem))
      rcases QuotedChar.flatMap_text hinside with ⟨htext, hquote⟩
      rw [text, meaning, htext, ContentType.withoutQuotes_quoted hquote]

end ParameterValue

namespace Parameter

variable {p : Parameter}

/-- After a semicolon in the value there is what looks like a character set. -/
def HidesCharset (p : Parameter) : Prop :=
  exists part, part ∈ (Text.splitOn ';' p.value.text).tail ∧ ContentType.AssignsCharset part

instance (p : Parameter) : Decidable p.HidesCharset :=
  inferInstanceAs (Decidable (exists part, part ∈ _ ∧ _))

theorem label?_eq (p : Parameter) :
    p.label? =
      if p.isCharset then
        some (ContentType.withoutQuotes (Text.trim (p.value.text.takeWhile (· != ';'))))
      else (Text.splitOn ';' p.value.text).tail.findSome? ContentType.charsetValue? := by
  have hmark : '=' ∉ p.name := notMem_token p.isToken (by decide)
  have hsemicolon : ';' ∉ p.name ++ ['='] := by
    have hname := notMem_token p.isToken (c := ';') (by decide)
    simp [hname]
  have htrim : Text.trim p.name = p.name := by
    refine (Text.IsPadded.refl p.name).trim_eq (Text.isTrimmed_of_isVisible fun c hc => ?_)
    exact Token.isVisible (Cookie.isTokenChar_of_mem p.isToken hc)
  have htext : p.text = (p.name ++ ['=']) ++ p.value.text := by
    simp [text]
  unfold label? ContentType.labelIn?
  rw [htext, Text.splitOn_append_of_notMem hsemicolon, List.findSome?_cons, List.append_assoc,
    List.singleton_append, ContentType.charsetValue?_append_cons hmark, htrim]
  unfold isCharset
  by_cases hcharset : p.name.map Char.toLower = "charset".toList
  · rw [if_pos hcharset, if_pos (decide_eq_true hcharset)]
  · rw [if_neg hcharset, if_neg fun h => hcharset (of_decide_eq_true h)]

theorem label?_of_isCharset (h : p.isCharset = true) (hsemicolon : ';' ∉ p.value.text) :
    p.label? = some (ContentType.withoutQuotes p.value.text) := by
  have hwhole : p.value.text.takeWhile (· != ';') = p.value.text := by
    have hparts := Text.splitOn_eq_cons ';' p.value.text
    rw [Text.splitOn_of_notMem hsemicolon] at hparts
    exact (List.cons.inj hparts).1.symm
  rw [label?_eq, if_pos h, hwhole, p.value.trim_text]

theorem label?_of_not_isCharset (h : p.isCharset = false) (hhidden : ¬ p.HidesCharset) :
    p.label? = none := by
  rw [label?_eq, h, if_neg Bool.false_ne_true, List.findSome?_eq_none_iff]
  intro part hpart
  rw [← Option.not_isSome_iff_eq_none, ContentType.isSome_charsetValue?_iff]
  intro hassigns
  exact hhidden ⟨part, hpart, hassigns⟩

end Parameter

/-! ## Content types that are read as they are meant -/

namespace MediaType

variable {m : MediaType} {p : Parameter}

/-- No parameter before that of the character set hides another in its value. -/
def HidesNone (parameters : List Parameter) : Prop :=
  forall p, p ∈ parameters.takeWhile (fun p => !p.isCharset) -> ¬ p.HidesCharset

instance (parameters : List Parameter) : Decidable (HidesNone parameters) :=
  inferInstanceAs (Decidable (forall p, p ∈ _ -> _))

/-- Quoting makes no difference to what is read: nothing is hidden, and the label of the
character set is written without semicolons and backslashes. -/
structure IsPlain (m : MediaType) : Prop where
  hidden : HidesNone m.parameters
  semicolon : forall p, m.charset? = some p -> ';' ∉ p.value.text
  backslash : forall p, m.charset? = some p -> '\\' ∉ p.value.text

instance (m : MediaType) : Decidable m.IsPlain :=
  decidable_of_iff
    (HidesNone m.parameters ∧ (forall p, p ∈ m.charset? -> ';' ∉ p.value.text) ∧
      forall p, p ∈ m.charset? -> '\\' ∉ p.value.text)
    ⟨fun h => ⟨h.1, h.2.1, h.2.2⟩, fun h => ⟨h.hidden, h.semicolon, h.backslash⟩⟩

theorem findSome?_label? {parameters : List Parameter} (h : HidesNone parameters) :
    parameters.findSome? Parameter.label? =
      (parameters.find? Parameter.isCharset).bind Parameter.label? := by
  induction parameters with
  | nil =>
      rfl
  | cons p rest ih =>
      by_cases hp : p.isCharset = true
      · rw [List.findSome?_cons, List.find?_cons_of_pos hp, Option.bind_some, p.label?_eq,
          if_pos hp]
      · have htake : (p :: rest).takeWhile (fun p => !p.isCharset) =
            p :: rest.takeWhile (fun p => !p.isCharset) :=
          List.takeWhile_cons_of_pos (by simpa using hp)
        have hnone : p.label? = none := by
          refine Parameter.label?_of_not_isCharset (by simpa using hp) (h p ?_)
          rw [htake]
          exact List.mem_cons_self
        have hrest : HidesNone rest := by
          intro p' hp'
          refine h p' ?_
          rw [htake]
          exact List.mem_cons_of_mem p hp'
        rw [List.findSome?_cons, hnone, List.find?_cons_of_neg hp]
        exact ih hrest

theorem isCharset_of_charset? (h : m.charset? = some p) : p.isCharset = true :=
  List.find?_some h

theorem charsetLabel?_of_semicolon (hhidden : HidesNone m.parameters)
    (hp : m.charset? = some p) (hsemicolon : ';' ∉ p.value.text) :
    ContentType.charsetLabel? m.text =
      some (String.ofList (ContentType.withoutQuotes p.value.text)) := by
  have hfind : m.parameters.find? Parameter.isCharset = some p := hp
  rw [charsetLabel?_text, findSome?_label? hhidden, hfind, Option.bind_some,
    Parameter.label?_of_isCharset (isCharset_of_charset? hp) hsemicolon, Option.map_some]

/-- A plain content type is read as it is meant. -/
theorem bodyCharset_text (h : m.IsPlain) : ContentType.bodyCharset m.text = m.charsetLabel := by
  unfold ContentType.bodyCharset charsetLabel
  cases hcharset : m.charset? with
  | none =>
      have hfind : m.parameters.find? Parameter.isCharset = none := hcharset
      rw [charsetLabel?_text, findSome?_label? h.hidden, hfind]
      rfl
  | some p =>
      rw [charsetLabel?_of_semicolon h.hidden hcharset (h.semicolon p hcharset),
        ParameterValue.withoutQuotes_text (h.backslash p hcharset)]
      rfl

/-! ## The content type as the value of a header -/

theorem isAllowed_iff {b : UInt8} :
    HeaderValue.isAllowed b = true <-> b.toNat = 9 ∨ 32 <= b.toNat ∧ b.toNat ≠ 127 := by
  unfold HeaderValue.isAllowed
  simp only [Bool.or_eq_true, Bool.and_eq_true, beq_iff_eq, bne_iff_ne, decide_eq_true_eq,
    UInt8.le_iff_toNat_le, ← UInt8.toNat_inj, ne_eq]
  rfl

theorem isAllowed_of_mem_encode {s : List Char} (h : forall c, c ∈ s -> IsPrinted c) {b : UInt8}
    (hb : b ∈ Text.Utf8.encode s) : HeaderValue.isAllowed b = true := by
  obtain ⟨c, hc, hbytes⟩ := List.mem_flatMap.mp hb
  rw [isAllowed_iff]
  rcases Text.Utf8.toNat_of_mem_encodeChar hbytes with hself | hhigh
  · rcases h c hc with rfl | hprinted
    · exact .inl hself
    · rw [hself]
      exact .inr hprinted
  · exact .inr ⟨by omega, by omega⟩

theorem setContentType_text (m : MediaType) (d : Draft) :
    d.setContentType m.text =
      .ok { d with headers := d.headers.insert .contentType (.ofPlain m.text) } := by
  have hname : HeaderName.parse? HeaderName.contentType.text = some .contentType := by rfl
  have hvalue : HeaderValue.parse? m.text = some (.ofPlain m.text) := by
    unfold HeaderValue.parse? HeaderValue.ofBytes?
    rw [if_pos (List.all_eq_true.mpr fun b hb =>
      isAllowed_of_mem_encode (fun c hc => isPrinted_of_mem_text hc) hb)]
    rfl
  unfold Draft.setContentType Draft.setHeader Draft.headerField
  rw [hname, hvalue]

/-! ## Text bodies -/

theorem setBodyText_of_backslash (hhidden : HidesNone m.parameters) (hp : m.charset? = some p)
    (hsemicolon : ';' ∉ p.value.text) (hbackslash : '\\' ∈ p.value.text) (content : String)
    (d : Draft) :
    exists label, d.setBodyText content m.text = .error (.encoding label .unknownLabel) := by
  have hlabel : '\\' ∈ (String.ofList (ContentType.withoutQuotes p.value.text)).toList := by
    rw [String.toList_ofList]
    exact ContentType.mem_withoutQuotes hbackslash (by decide)
  refine ⟨String.ofList (ContentType.withoutQuotes p.value.text), ?_⟩
  rw [Draft.setBodyText_eq, ContentType.bodyCharset,
    charsetLabel?_of_semicolon hhidden hp hsemicolon, Option.getD_some,
    Body.encodeText_of_unknown (ContentType.not_isNamed_of_backslash hlabel)]
  rfl

/-- A text body with a content type that is written plainly is encoded as that type declares,
in UTF-8 if it declares nothing, and refused if the label is unknown or the character set
does not have all characters.  In general the label is the first that is read from one of the
parameters, each on its own; and a label that is quoted with a backslash is refused. -/
theorem encoded_as_declared_if_plain (m : MediaType) (content : String) (d : Draft) :
    (m.IsPlain ->
      (forall bytes, Charset.encodeAs m.charsetLabel content = .ok bytes ->
        d.setBodyText content m.text =
          .ok { d with
            headers := d.headers.insert .contentType (.ofPlain m.text)
            body := .text content m.text bytes }) ∧
      forall cause, Charset.encodeAs m.charsetLabel content = .error cause ->
        d.setBodyText content m.text = .error (.encoding m.charsetLabel cause)) ∧
      ContentType.bodyCharset m.text =
        ((m.parameters.findSome? Parameter.label?).map String.ofList).getD "utf-8" ∧
      forall p, HidesNone m.parameters -> m.charset? = some p -> ';' ∉ p.value.text ->
        '\\' ∈ p.value.text ->
        exists label, d.setBodyText content m.text = .error (.encoding label .unknownLabel) := by
  refine ⟨?_, ?_, ?_⟩
  · intro h
    constructor
    · intro bytes hbytes
      rw [Draft.setBodyText_eq, bodyCharset_text h, Body.encodeText, hbytes,
        setContentType_text]
      rfl
    · intro cause hcause
      rw [Draft.setBodyText_eq, bodyCharset_text h, Body.encodeText, hcause]
      rfl
  · rw [ContentType.bodyCharset, charsetLabel?_text]
  · intro p hhidden hp hsemicolon hbackslash
    exact setBodyText_of_backslash hhidden hp hsemicolon hbackslash content d

def plainText (parameters : List Parameter) : MediaType where
  type := "text".toList
  subtype := "plain".toList
  slots := parameters.map fun p => ⟨[], [' '], some p, rfl, rfl⟩
  type_isToken := rfl
  subtype_isToken := rfl

def quotedPlainly (s : List Char) (allowed : s.all isQuotable = true) : List QuotedChar :=
  s.pmap .plain (List.all_eq_true.mp allowed)

def titledType : MediaType :=
  plainText
    [⟨"title".toList, .quoted (quotedPlainly "a;b=c".toList rfl), rfl⟩,
      ⟨"CharSet".toList, .quoted (quotedPlainly "ISO-8859-1".toList rfl), rfl⟩]

def hidingType : MediaType :=
  plainText [⟨"title".toList, .quoted (quotedPlainly "a;charset=utf-16be".toList rfl), rfl⟩]

def escapingType : MediaType :=
  plainText
    [⟨"charset".toList,
      .quoted (quotedPlainly "utf".toList rfl ++ [.escaped '-' rfl, .plain '8' rfl]), rfl⟩]

theorem encoded_as_declared_if_plain_of_title :
    titledType.IsPlain ∧
      titledType.text = "text/plain; title=\"a;b=c\"; CharSet=\"ISO-8859-1\"" ∧
      Client.standard.draft.setBodyText "caf\u00e9" titledType.text =
        .ok { Client.standard.draft with
          headers := Client.standard.draft.headers.insert .contentType (.ofPlain titledType.text)
          body := .text "caf\u00e9" titledType.text [0x63, 0x61, 0x66, 0xE9] } ∧
      exists label, Client.standard.draft.setBodyText "hi" escapingType.text =
        .error (.encoding label .unknownLabel) := by
  have hplain : titledType.IsPlain := by
    decide +kernel
  refine ⟨hplain, ?_, ?_, ?_⟩
  · decide +kernel
  · exact ((encoded_as_declared_if_plain titledType "caf\u00e9" _).left hplain).left _ rfl
  · exact (encoded_as_declared_if_plain escapingType "hi" _).right.right _ (by decide +kernel) rfl
      (by decide +kernel) (by decide +kernel)

/-- A label is taken from within a title, and one that is escaped is not understood. -/
theorem declared_charset_missed :
    hidingType.text = "text/plain; title=\"a;charset=utf-16be\"" ∧
      hidingType.charsetLabel = "utf-8" ∧
      (Client.standard.draft.setBodyText "hi" hidingType.text).map (·.body) =
        .ok (.text "hi" hidingType.text [0, 0x68, 0, 0x69]) ∧
      escapingType.text = "text/plain; charset=\"utf\\-8\"" ∧
      escapingType.charsetLabel = "utf-8" ∧
      Client.standard.draft.setBodyText "hi" escapingType.text =
        .error (.encoding "utf\\-8" .unknownLabel) := by
  refine ⟨?_, ?_, ?_, ?_, ?_, ?_⟩
  · decide +kernel
  · decide +kernel
  · rfl
  · decide +kernel
  · decide +kernel
  · rfl

end MediaType

end HttpCall
