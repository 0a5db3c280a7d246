import HttpCall.Proofs.Cookies.Attributes
import HttpCall.Proofs.Cookies.Segment
import HttpCall.Proofs.Date.Formatted

/-!
# Writing cookies

A cookie is written as its name and value, followed by one segment for each attribute, in
any order and with some freedom in each.  However it is written, it is read back.
-/

namespace HttpCall

def SameSite.keyword : SameSite -> String
  | .strict => "strict"
  | .lax => "lax"
  | .none => "none"

namespace Cookie

structure IsDomain (s : List Char) : Prop where
  ne_nil : s ≠ []
  lower : s.any Char.isUpper = false
  dot : s.head? ≠ some '.'
  semicolon : ';' ∉ s
  trimmed : Text.IsTrimmed s

structure IsPath (s : List Char) : Prop where
  slash : s.head? = some '/'
  semicolon : ';' ∉ s
  trimmed : s.getLast?.any Text.isBlank = false

/-- Each field of the cookie can be written and read back. -/
structure IsWellFormed (c : Cookie) : Prop where
  name : Token.isToken c.name.toList = true
  value : c.value.toList.all isOctet = true
  domain : forall d, c.domain = some d -> IsDomain d.toList
  path : forall p, c.path = some p -> IsPath p.toList
  expires : forall n, c.expires = some n -> HttpDate.ReadsBack n

/-! ## Attributes -/

namespace Attribute

/-- What the value of an attribute is written as.  Dots may stand before a domain, and the
keyword of a mode may be in letters of either case. -/
inductive HasText : Attribute -> List Char -> Prop
  | domain (name : String) (dots : Nat) :
      HasText (.domain name) (List.replicate dots '.' ++ name.toList)
  | path (p : String) : HasText (.path p) p.toList
  | maxAge (seconds : Int64) : HasText (.maxAge seconds) (toString seconds.toInt).toList
  | expires (seconds : Nat) : HasText (.expires seconds) (HttpDate.ofSeconds seconds).text
  | sameSite (mode : SameSite) {s : List Char} (hs : Spells mode.keyword s) :
      HasText (.sameSite (some mode)) s

def IsFlag (a : Attribute) : Prop := a = .secure ∨ a = .httpOnly

/-- What an attribute is written as: its name in letters of either case and its value, if it
has one, with blanks around each. -/
inductive IsWrittenAs (a : Attribute) (segment : List Char) : Prop
  | assigned {key value : List Char} (hkey : Spells a.key key) (hvalue : a.HasText value)
      (hsegment : Assigns key value segment)
  | flag {key : List Char} (hflag : a.IsFlag) (hkey : Spells a.key key)
      (hsegment : Text.IsPadded key segment)

def IsSound : Attribute -> Prop
  | domain name => IsDomain name.toList
  | path p => IsPath p.toList
  | expires seconds => HttpDate.ReadsBack seconds
  | _ => True

variable {a : Attribute} {key value segment : List Char}

theorem key_chars (a : Attribute) : a.key.toList.all isKeyChar = true := by
  cases a <;> simp only [key] <;> decide

theorem notMem_of_spells_key {c : Char} (hkey : Spells a.key key) (hc : isKeyChar c = false)
    (hupper : c.isUpper = false) : c ∉ key := by
  refine hkey.notMem (fun hmem => ?_) hupper
  have hkeyChar := List.all_eq_true.mp a.key_chars c hmem
  simp [hc] at hkeyChar

theorem dropWhile_dots {s : List Char} (hs : s.head? ≠ some '.') (dots : Nat) :
    (List.replicate dots '.' ++ s).dropWhile (· == '.') = s := by
  rw [List.dropWhile_append_of_pos fun c hc => by simp [List.eq_of_mem_replicate hc]]
  cases s with
  | nil =>
      rfl
  | cons c rest =>
      exact List.dropWhile_cons_of_neg (by simpa using hs)

theorem isTrimmed_dots {s : List Char} (hs : IsDomain s) (dots : Nat) :
    Text.IsTrimmed (List.replicate dots '.' ++ s) where
  front := by
    cases dots with
    | zero =>
        exact hs.trimmed.front
    | succ dots =>
        rfl
  back := by
    rw [List.getLast?_append, List.getLast?_eq_some_getLast hs.ne_nil, Option.some_or,
      ← List.getLast?_eq_some_getLast]
    exact hs.trimmed.back

theorem HasText.isTrimmed (h : a.HasText value) (ha : a.IsSound) : Text.IsTrimmed value := by
  cases h with
  | domain name dots =>
      exact isTrimmed_dots ha dots
  | path p =>
      refine ⟨?_, ha.trimmed⟩
      rw [ha.slash]
      rfl
  | maxAge seconds =>
      refine Text.isTrimmed_of_isVisible fun c hc => ?_
      rcases Text.eq_dash_or_isDigit_of_mem_toString hc with rfl | hdigit
      · exact ⟨by decide, by decide⟩
      · exact isVisible_of_isDigit hdigit
  | expires seconds =>
      exact HttpDate.isTrimmed_text _
  | sameSite mode hs =>
      refine hs.isTrimmed ?_
      cases mode <;> decide

theorem ofKeyword?_of_spells {mode : SameSite} {s : List Char}
    (hs : Spells mode.keyword s) : SameSite.ofKeyword? s = some mode := by
  unfold SameSite.ofKeyword?
  rw [hs]
  cases mode <;> rfl

theorem HasText.semicolon_notMem (h : a.HasText value) (ha : a.IsSound) : ';' ∉ value := by
  cases h with
  | domain name dots =>
      have hname := ha.semicolon
      simp [List.mem_replicate, hname]
  | path p =>
      exact ha.semicolon
  | maxAge seconds =>
      intro hc
      rcases Text.eq_dash_or_isDigit_of_mem_toString hc with hdash | hdigit
      · cases hdash
      · cases hdigit
  | expires seconds =>
      exact HttpDate.semicolon_notMem_text _
  | sameSite mode hs =>
      refine hs.notMem ?_ (by decide)
      cases mode <;> decide

section

variable (value)

theorem ofNamed?_domain : ofNamed? "domain".toList value =
    if value.isEmpty then none
    else some (domain (String.ofList (lower (value.dropWhile (· == '.'))))) := by
  simp [ofNamed?]

theorem ofNamed?_path : ofNamed? "path".toList value =
    if value.head? = some '/' then some (path (String.ofList value)) else none := by
  simp [ofNamed?]

theorem ofNamed?_maxAge :
    ofNamed? "max-age".toList value = (Text.readInt64 value).map maxAge := by
  simp [ofNamed?]

theorem ofNamed?_expires : ofNamed? "expires".toList value =
    (HttpDate.parse? value).map fun date => expires date.toSeconds := by
  simp [ofNamed?]

theorem ofNamed?_secure : ofNamed? "secure".toList value = some secure := by
  simp [ofNamed?]

theorem ofNamed?_httpOnly : ofNamed? "httponly".toList value = some httpOnly := by
  simp [ofNamed?]

theorem ofNamed?_sameSite : ofNamed? "samesite".toList value =
    some (sameSite (SameSite.ofKeyword? value)) := by
  simp [ofNamed?]

end

theorem ofNamed?_of_hasText (h : a.HasText value) (ha : a.IsSound) :
    ofNamed? a.key.toList value = some a := by
  cases h with
  | domain name dots =>
      rw [key, ofNamed?_domain, if_neg (by simp [ha.ne_nil]), dropWhile_dots ha.dot,
        lower_of_any_eq_false ha.lower, String.ofList_toList]
  | path p =>
      rw [key, ofNamed?_path, if_pos ha.slash, String.ofList_toList]
  | maxAge seconds =>
      rw [key, ofNamed?_maxAge, Text.readInt64_toString, Option.map_some]
  | expires seconds =>
      have hback := congrArg (Option.map expires) ha
      rw [Option.map_map] at hback
      rw [key, ofNamed?_expires]
      exact hback
  | sameSite mode hs =>
      rw [key, ofNamed?_sameSite, ofKeyword?_of_spells hs]

theorem parse?_of_isWrittenAs (h : a.IsWrittenAs segment) (ha : a.IsSound) :
    parse? segment = some a := by
  cases h with
  | assigned hkey hvalue hsegment =>
      have hsplit := split_of_assigns hsegment (notMem_of_spells_key hkey rfl rfl)
        (hkey.isTrimmed a.key_chars) (hvalue.isTrimmed ha)
      unfold parse?
      rw [hsplit, hkey, ofNamed?_of_hasText hvalue ha]
  | flag hflag hkey hsegment =>
      have hsplit := split_of_isPadded hsegment (notMem_of_spells_key hkey rfl rfl)
        (hkey.isTrimmed a.key_chars)
      unfold parse?
      rw [hsplit, hkey]
      rcases hflag with rfl | rfl
      · exact ofNamed?_secure []
      · exact ofNamed?_httpOnly []

theorem IsWrittenAs.semicolon_notMem (h : a.IsWrittenAs segment) (ha : a.IsSound) :
    ';' ∉ segment := by
  cases h with
  | assigned hkey hvalue hsegment =>
      exact hsegment.semicolon_notMem (notMem_of_spells_key hkey rfl rfl)
        (hvalue.semicolon_notMem ha)
  | flag hflag hkey hsegment =>
      exact hsegment.notMem (by decide) (notMem_of_spells_key hkey rfl rfl)

theorem spells_key (a : Attribute) : Spells a.key a.key.toList := by
  cases a <;> simp only [key, Spells] <;> decide

theorem exists_isWrittenAs (ha : a ≠ .sameSite none) : exists segment, a.IsWrittenAs segment := by
  have hvalue : a.IsFlag ∨ exists value, a.HasText value := by
    cases a with
    | domain name => exact .inr ⟨_, .domain name 0⟩
    | path p => exact .inr ⟨_, .path p⟩
    | maxAge seconds => exact .inr ⟨_, .maxAge seconds⟩
    | expires seconds => exact .inr ⟨_, .expires seconds⟩
    | secure => exact .inl (.inl rfl)
    | httpOnly => exact .inl (.inr rfl)
    | sameSite mode =>
        cases mode with
        | none => exact absurd rfl ha
        | some mode => exact .inr ⟨mode.keyword.toList, .sameSite mode (by cases mode <;> rfl)⟩
  rcases hvalue with hflag | ⟨value, hvalue⟩
  · exact ⟨_, .flag hflag a.spells_key (.refl _)⟩
  · exact ⟨_, .assigned a.spells_key hvalue ⟨_, _, .refl _, .refl _, rfl⟩⟩

end Attribute

/-! ## Cookies -/

/-- What a cookie is written as: its name and its value, in quotes or without, and then a
segment for each attribute, in any order. -/
inductive IsWrittenAs (c : Cookie) : String -> Prop
  | segments {quoted first : List Char} {attributes : List Attribute}
      {others : List (List Char)} (hquoted : Quotes c.value.toList quoted)
      (hfirst : Assigns c.name.toList quoted first) (hattributes : attributes.Perm c.attributes)
      (hothers : List.Forall₂ Attribute.IsWrittenAs attributes others) :
      IsWrittenAs c (String.ofList ([';'].intercalate (first :: others)))

variable {c : Cookie} {attributes : List Attribute} {segments : List (List Char)}

theorem ne_sameSite_none_of_mem {a : Attribute} (ha : a ∈ c.attributes) :
    a ≠ .sameSite none := by
  rintro rfl
  simp [Cookie.attributes, attributeFields] at ha

/-- Every cookie can be written. -/
theorem exists_isWrittenAs (c : Cookie) : exists header, c.IsWrittenAs header := by
  have hsegments : forall l : List Attribute, (forall a, a ∈ l -> a ∈ c.attributes) ->
      exists others, List.Forall₂ Attribute.IsWrittenAs l others := by
    intro l hl
    induction l with
    | nil =>
        exact ⟨[], .nil⟩
    | cons a rest ih =>
        obtain ⟨others, hothers⟩ := ih fun b hb => hl b (List.mem_cons_of_mem _ hb)
        obtain ⟨segment, hsegment⟩ := Attribute.exists_isWrittenAs
          (ne_sameSite_none_of_mem (hl a List.mem_cons_self))
        exact ⟨segment :: others, .cons hsegment hothers⟩
  obtain ⟨others, hothers⟩ := hsegments c.attributes fun _ ha => ha
  exact ⟨_, .segments (.inl rfl) ⟨_, _, .refl _, .refl _, rfl⟩ (.refl _) hothers⟩

theorem IsWellFormed.isSound (hc : c.IsWellFormed) {a : Attribute} (ha : a ∈ c.attributes) :
    a.IsSound := by
  cases a with
  | domain name =>
      exact hc.domain name (by simpa [Cookie.attributes, attributeFields] using ha)
  | path p =>
      exact hc.path p (by simpa [Cookie.attributes, attributeFields] using ha)
  | expires seconds =>
      exact hc.expires seconds (by simpa [Cookie.attributes, attributeFields] using ha)
  | maxAge | secure | httpOnly | sameSite =>
      trivial

theorem foldl_applySegment (h : List.Forall₂ Attribute.IsWrittenAs attributes segments)
    (hsound : forall a, a ∈ attributes -> a.IsSound) (c : Cookie) :
    segments.foldl applySegment c = attributes.foldl Attribute.apply c := by
  induction h generalizing c with
  | nil =>
      rfl
  | cons hsegment hrest ih =>
      rename_i a segment rest others
      have hparse := Attribute.parse?_of_isWrittenAs hsegment (hsound a List.mem_cons_self)
      rw [List.foldl_cons, List.foldl_cons, applySegment, hparse]
      exact ih (fun b hb => hsound b (List.mem_cons_of_mem _ hb)) _

theorem semicolon_notMem_of_forall₂
    (h : List.Forall₂ Attribute.IsWrittenAs attributes segments)
    (hsound : forall a, a ∈ attributes -> a.IsSound) {segment : List Char}
    (hsegment : segment ∈ segments) : ';' ∉ segment := by
  induction h with
  | nil =>
      cases hsegment
  | cons hwritten hrest ih =>
      rename_i a first rest others
      rcases List.mem_cons.mp hsegment with rfl | hmem
      · exact hwritten.semicolon_notMem (hsound a List.mem_cons_self)
      · exact ih (fun b hb => hsound b (List.mem_cons_of_mem _ hb)) hmem

/-- A cookie is read back, however it is written. -/
theorem parse?_eq_some_of_isWrittenAs {header : String} (hc : c.IsWellFormed)
    (hheader : c.IsWrittenAs header) : parse? header = some c := by
  cases hheader with
  | segments hquoted hfirst hattributes hothers =>
      rename_i quoted first attributes others
      have hsound : forall a, a ∈ attributes -> a.IsSound :=
        fun a ha => hc.isSound (hattributes.subset ha)
      -- The text comes apart into the parts that were joined, as none contains a semicolon.
      have hparts : forall part, part ∈ first :: others -> ';' ∉ part := by
        intro part hpart
        rcases List.mem_cons.mp hpart with rfl | hmem
        · exact semicolon_notMem_of_pair hc.name hc.value hquoted hfirst
        · exact semicolon_notMem_of_forall₂ hothers hsound hmem
      unfold parse?
      rw [String.toList_ofList, Text.splitOn_intercalate _ _ hparts, ofSegments?,
        pair?_of_assigns hc.name hc.value hquoted hfirst, Option.map_some,
        foldl_applySegment hothers hsound, String.ofList_toList, String.ofList_toList,
        foldl_apply_of_perm hattributes]

def fullCookie : Cookie where
  name := "id"
  value := "a=3fWa"
  domain := some "example.com"
  path := some "/docs=\"x y\""
  maxAge := some Int64.minValue
  expires := some 1445412480
  secure := true
  httpOnly := true
  sameSite := some .lax

def fullText : String :=
  "\tid = \"a=3fWa\" ;samesite=LAX; HTTPONLY;expires= Wed, 21 Oct 2015 07:28:00 GMT;" ++
    "PATH =/docs=\"x y\";Domain = .example.com ;Max-Age=-9223372036854775808;Secure "

theorem fullCookie_isWellFormed : fullCookie.IsWellFormed where
  name := by decide
  value := by decide
  domain d hd := by
    cases hd
    exact ⟨by decide, by decide, by decide, by decide, ⟨by decide, by decide⟩⟩
  path p hp := by
    cases hp
    exact ⟨by decide, by decide, by decide⟩
  expires n hn := by
    cases hn
    exact HttpDate.readsBack_of_lt (by decide)

theorem fullText_isWritten : fullCookie.IsWrittenAs fullText := by
  have htext : fullText = String.ofList ([';'].intercalate
      ["\tid = \"a=3fWa\" ".toList, "samesite=LAX".toList, " HTTPONLY".toList,
        "expires= Wed, 21 Oct 2015 07:28:00 GMT".toList, "PATH =/docs=\"x y\"".toList,
        "Domain = .example.com ".toList, "Max-Age=-9223372036854775808".toList,
        "Secure ".toList]) := by
    decide +kernel
  have hpair : Assigns "id".toList "\"a=3fWa\"".toList "\tid = \"a=3fWa\" ".toList :=
    ⟨_, _, ⟨['\t'], [' '], by decide, by decide, rfl⟩, ⟨[' '], [' '], by decide, by decide, rfl⟩,
      by decide⟩
  have hmode : (Attribute.sameSite (some .lax)).IsWrittenAs "samesite=LAX".toList :=
    .assigned (by decide) (.sameSite .lax (by decide))
      ⟨_, _, .refl "samesite".toList, .refl "LAX".toList, by decide⟩
  have hhttpOnly : Attribute.httpOnly.IsWrittenAs " HTTPONLY".toList :=
    .flag (.inr rfl) (show Spells _ "HTTPONLY".toList by decide)
      ⟨[' '], [], by decide, by decide, by decide⟩
  have hexpires : (Attribute.expires 1445412480).IsWrittenAs
      "expires= Wed, 21 Oct 2015 07:28:00 GMT".toList :=
    .assigned (by decide) (.expires 1445412480)
      ⟨_, _, .refl "expires".toList, ⟨[' '], [], by decide, by decide, rfl⟩, by decide +kernel⟩
  have hpath : (Attribute.path "/docs=\"x y\"").IsWrittenAs "PATH =/docs=\"x y\"".toList :=
    .assigned (show Spells _ "PATH".toList by decide) (.path _)
      ⟨_, _, ⟨[], [' '], by decide, by decide, rfl⟩, .refl _, by decide⟩
  have hdomain : (Attribute.domain "example.com").IsWrittenAs "Domain = .example.com ".toList :=
    .assigned (show Spells _ "Domain".toList by decide) (.domain _ 1)
      ⟨_, _, ⟨[], [' '], by decide, by decide, rfl⟩, ⟨[' '], [' '], by decide, by decide, rfl⟩,
        by decide⟩
  have hmaxAge : (Attribute.maxAge Int64.minValue).IsWrittenAs
      "Max-Age=-9223372036854775808".toList :=
    .assigned (by decide) (.maxAge _) ⟨_, _, .refl "Max-Age".toList, .refl _, by decide⟩
  have hsecure : Attribute.secure.IsWrittenAs "Secure ".toList :=
    .flag (.inl rfl) (show Spells _ "Secure".toList by decide)
      ⟨[], [' '], by decide, by decide, by decide⟩
  rw [htext]
  exact .segments (.inr rfl) hpair (by decide) (.cons hmode (.cons hhttpOnly (.cons hexpires
    (.cons hpath (.cons hdomain (.cons hmaxAge (.cons hsecure .nil)))))))

theorem parse?_fullText :
    fullCookie.IsWellFormed ∧ fullCookie.IsWrittenAs fullText ∧
      parse? fullText = some fullCookie :=
  ⟨fullCookie_isWellFormed, fullText_isWritten,
    parse?_eq_some_of_isWrittenAs fullCookie_isWellFormed fullText_isWritten⟩

end Cookie
end HttpCall
