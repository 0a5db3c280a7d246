import HttpCall.Proofs.Cookies.Segment
import HttpCall.Proofs.Request.Settings

/-!
# The headers of a request, name by name

The default headers of a client and the headers of its drafts are changed by settings under
names that are given or implied.  The values of a header in the request depend on the accepted
settings that are about this header, in their order, and on nothing else.
-/

namespace HttpCall

theorem Token.isTokenChar_toLower (c : Char) : isTokenChar c.toLower = isTokenChar c := by
  by_cases hupper : c.isUpper = true
  · exact @Cookie.of_isUpper c (fun c => isTokenChar c.toLower = isTokenChar c) (by decide) hupper
  · rw [Cookie.toLower_of_not_isUpper hupper]

namespace HeaderName

def Same (s t : String) : Prop := s.toList.map Char.toLower = t.toList.map Char.toLower

instance (s t : String) : Decidable (Same s t) :=
  inferInstanceAs (Decidable (_ = _))

theorem isToken_lower (s : List Char) :
    Token.isToken (s.map Char.toLower) = Token.isToken s := by
  unfold Token.isToken
  rw [List.isEmpty_map, List.all_map]
  congr 1
  exact congrArg s.all (funext Token.isTokenChar_toLower)

theorem Same.parse?_eq {s t : String} (h : Same s t) : parse? s = parse? t := by
  have htoken : Token.isToken s.toList = Token.isToken t.toList := by
    rw [← isToken_lower s.toList, h, isToken_lower]
  have hlength : s.length = t.length := by
    rw [← String.length_toList, ← String.length_toList, ← List.length_map Char.toLower, h,
      List.length_map]
  unfold parse?
  rw [htoken, hlength, h]

theorem text_of_parse? {s : String} {n : HeaderName} (h : parse? s = some n) :
    n.text.toList = s.toList.map Char.toLower := by
  unfold parse? at h
  split at h
  · cases h
    exact String.toList_ofList
  · cases h

theorem parse?_iff_same {s t : String} {n : HeaderName} (h : parse? t = some n) :
    parse? s = some n <-> Same s t := by
  constructor
  · intro hs
    exact (text_of_parse? hs).symm.trans (text_of_parse? h)
  · intro hsame
    rw [hsame.parse?_eq, h]

end HeaderName

namespace Headers

/-- The edits that are about the header that a text names. -/
def editsOf (name : String) (edits : List (String × Edit)) : List Edit :=
  (edits.filter fun e => HeaderName.Same e.1 name).map Prod.snd

/-- What becomes of the values of a header, of which only the user agent has one at first. -/
def valuesAfter (name : String) (edits : List (String × Edit)) : List HeaderValue :=
  (editsOf name edits).foldl (fun values e => e.apply values)
    (if HeaderName.Same name "user-agent" then [.ofPlain "hopcall/0.1.0"] else [])

def Apart (e? f? : Option (String × Edit)) : Prop :=
  exists e f, e? = some e ∧ f? = some f ∧ ¬ HeaderName.Same e.1 f.1

/-- The headers have the same values of each name. -/
def Alike (h k : Headers) : Prop := forall n, h.values n = k.values n

section

variable {name : String} {n : HeaderName} {h k : Headers} {e f : String × Edit}

theorem foldl_editValues (hname : HeaderName.parse? name = some n)
    (edits : List (String × Edit)) (values : List HeaderValue) :
    edits.foldl (editValues n) values =
      (editsOf name edits).foldl (fun values e => e.apply values) values := by
  unfold editsOf
  rw [List.foldl_map, List.foldl_filter]
  congr 1
  funext values e
  unfold editValues
  simp only [HeaderName.parse?_iff_same hname, decide_eq_true_eq]

theorem Alike.edit (hk : Alike h k) (name : String) (e : Edit) :
    Alike (h.edit name e) (k.edit name e) := by
  intro n
  rw [values_edit, values_edit, hk n]

theorem Alike.editIf (hk : Alike h k) (e? : Option (String × Edit)) :
    Alike (h.editIf e?) (k.editIf e?) := by
  cases e? with
  | none =>
      exact hk
  | some e =>
      exact hk.edit e.1 e.2

theorem alike_edit_edit (h : Headers) (hapart : ¬ HeaderName.Same e.1 f.1) :
    Alike ((h.edit e.1 e.2).edit f.1 f.2) ((h.edit f.1 f.2).edit e.1 e.2) := by
  intro n
  simp only [values_edit, editValues]
  by_cases he : HeaderName.parse? e.1 = some n
  · have hf : HeaderName.parse? f.1 ≠ some n := by
      intro hf
      exact hapart ((HeaderName.parse?_iff_same hf).mp he)
    rw [if_pos he, if_neg hf, if_neg hf, if_pos he]
  · rw [if_neg he, if_neg he]

end

theorem values_standard (n : HeaderName) :
    Client.standard.defaultHeaders.values n =
      if n = .userAgent then [.ofPlain "hopcall/0.1.0"] else [] := by
  by_cases hn : n = .userAgent
  · subst hn
    rw [if_pos rfl]
    exact values_insert_self _ _ _
  · rw [if_neg hn]
    exact values_insert_of_ne _ _ hn

end Headers

/-!
## Settings about different headers
-/

namespace Draft

def rest (d : Draft) : Draft := { d with headers := .empty }

/-- The drafts are the same but for the order of headers with different names. -/
structure Alike (d e : Draft) : Prop where
  headers : d.headers.Alike e.headers
  rest : d.rest = e.rest

theorem Change.rest_make (c : Change) (d : Draft) :
    (c.make d).rest = { c with edit := none }.make d.rest := rfl

theorem Change.alike_make {d e : Draft} (c : Change) (h : d.Alike e) :
    (c.make d).Alike (c.make e) where
  headers := h.headers.editIf c.edit
  rest := by
    rw [rest_make, rest_make, h.rest]

theorem Alike.applyOrKeep {d e : Draft} (s : Setting) (h : d.Alike e) :
    (d.applyOrKeep s).Alike (e.applyOrKeep s) := by
  rw [applyOrKeep_eq]
  rcases isRefused_or_isMade s with ⟨cause, hrefused⟩ | hmade
  · rw [Settings.keep_of_error (hrefused d), Settings.keep_of_error (hrefused e)]
    exact h
  · rw [Settings.keep_of_ok (hmade d), Settings.keep_of_ok (hmade e)]
    exact s.change.alike_make h

theorem Setting.change_of_edit {s : Setting} {e : String × Headers.Edit}
    (h : s.change.edit = some e) :
    { s.change with edit := none } = ({ body := s.change.body } : Change) ∧
      (s.change.body = none ∨ e.1 = "content-type") := by
  cases s with
  | method _ | timeout _ | version _ | url _ | followRedirects _ | maxRedirects _ =>
      cases h
  | header _ _ | addHeader _ _ | removeHeader _ | contentType _ | userAgent _ =>
      exact ⟨rfl, Or.inl rfl⟩
  | acceptGzip wanted =>
      cases wanted <;> exact ⟨rfl, Or.inl rfl⟩
  | bodyText _ _ | text _ | json _ | xml _ | bodyBytes _ _ =>
      cases h
      exact ⟨rfl, Or.inr rfl⟩
  | jsonValue value? =>
      cases value? with
      | error message =>
          cases h
      | ok value =>
          cases h
          exact ⟨rfl, Or.inr rfl⟩

/-- Settings about different headers may change places. -/
theorem alike_of_apart {s t : Setting} (h : Headers.Apart s.change.edit t.change.edit)
    (d : Draft) : ((d.applyOrKeep s).applyOrKeep t).Alike ((d.applyOrKeep t).applyOrKeep s) := by
  obtain ⟨e, f, hs, ht, hapart⟩ := h
  rw [applyOrKeep_eq]
  rcases isRefused_or_isMade s with ⟨cause, hrefused⟩ | hmade
  · rw [Settings.keep_of_error (hrefused d), Settings.keep_of_error (hrefused _)]
    exact ⟨fun _ => rfl, rfl⟩
  · rw [Settings.keep_of_ok (hmade d), Settings.keep_of_ok (hmade _)]
    rcases isRefused_or_isMade t with ⟨cause, hrefused⟩ | hmade
    · rw [Settings.keep_of_error (hrefused d), Settings.keep_of_error (hrefused _)]
      exact ⟨fun _ => rfl, rfl⟩
    · rw [Settings.keep_of_ok (hmade d), Settings.keep_of_ok (hmade _)]
      obtain ⟨hsrest, hsbody⟩ := Setting.change_of_edit hs
      obtain ⟨htrest, htbody⟩ := Setting.change_of_edit ht
      constructor
      · change ((d.headers.editIf s.change.edit).editIf t.change.edit).Alike
          ((d.headers.editIf t.change.edit).editIf s.change.edit)
        rw [hs, ht]
        exact Headers.alike_edit_edit d.headers hapart
      · simp only [Change.rest_make, hsrest, htrest]
        have hnone : s.change.body = none ∨ t.change.body = none := by
          rcases hsbody with hnone | hstype
          · exact Or.inl hnone
          · refine Or.inr (htbody.resolve_right fun httype => hapart ?_)
            rw [hstype, httype]
            exact rfl
        rcases hnone with hnone | hnone <;> rw [hnone] <;> rfl

theorem alike_foldl_swap {s t : Setting} (h : Headers.Apart s.change.edit t.change.edit)
    (d : Draft) (earlier later : List Setting) :
    ((earlier ++ s :: t :: later).foldl applyOrKeep d).Alike
      ((earlier ++ t :: s :: later).foldl applyOrKeep d) := by
  have hstep := @Alike.applyOrKeep
  have hswap := alike_of_apart h
  rw [applyOrKeep_eq] at hstep hswap ⊢
  exact Settings.foldl_keep_swap hstep hswap d earlier later

end Draft

/-!
## Settings of the client about different headers
-/

namespace Client

/-- The clients are the same but for the order of headers with different names. -/
structure Alike (c d : Client) : Prop where
  headers : c.defaultHeaders.Alike d.defaultHeaders
  rest : c.withHeaders .empty = d.withHeaders .empty

theorem Alike.applyOrKeep {c d : Client} (s : Setting) (h : c.Alike d) :
    (c.applyOrKeep s).Alike (d.applyOrKeep s) := by
  unfold Client.applyOrKeep
  have hother : c.withHeaders d.defaultHeaders = d := by
    change (c.withHeaders .empty).withHeaders d.defaultHeaders = d
    rw [h.rest]
    rfl
  cases hedit : s.edit? with
  | none =>
      obtain ⟨c', _, hsame⟩ := apply_of_no_edit hedit c
      have hc : c.apply s = .ok (c'.withHeaders c.defaultHeaders) := hsame c.defaultHeaders
      have hd := hsame d.defaultHeaders
      rw [hother] at hd
      rw [Settings.keep_of_ok hd, Settings.keep_of_ok hc]
      exact ⟨h.headers, rfl⟩
  | some e =>
      rcases apply_of_edit hedit with ⟨cause, hrefused⟩ | hmade
      · rw [Settings.keep_of_error (hrefused c), Settings.keep_of_error (hrefused d)]
        exact h
      · rw [Settings.keep_of_ok (hmade c), Settings.keep_of_ok (hmade d)]
        exact ⟨h.headers.edit e.1 e.2, h.rest⟩

theorem alike_of_apart {s t : Setting} (h : Headers.Apart s.edit? t.edit?) (c : Client) :
    ((c.applyOrKeep s).applyOrKeep t).Alike ((c.applyOrKeep t).applyOrKeep s) := by
  obtain ⟨e, f, hs, ht, hapart⟩ := h
  unfold Client.applyOrKeep
  rcases apply_of_edit hs with ⟨cause, hrefused⟩ | hsmade
  · rw [Settings.keep_of_error (hrefused c), Settings.keep_of_error (hrefused _)]
    exact ⟨fun _ => rfl, rfl⟩
  · rcases apply_of_edit ht with ⟨cause, hrefused⟩ | htmade
    · rw [Settings.keep_of_error (hrefused c), Settings.keep_of_error (hrefused _)]
      exact ⟨fun _ => rfl, rfl⟩
    · rw [Settings.keep_of_ok (hsmade c), Settings.keep_of_ok (htmade _),
        Settings.keep_of_ok (htmade c), Settings.keep_of_ok (hsmade _)]
      exact ⟨Headers.alike_edit_edit c.defaultHeaders hapart, rfl⟩

theorem alike_foldl_swap {s t : Setting} (h : Headers.Apart s.edit? t.edit?) (c : Client)
    (earlier later : List Setting) :
    Alike ((earlier ++ s :: t :: later).foldl applyOrKeep c)
      ((earlier ++ t :: s :: later).foldl applyOrKeep c) := by
  have hstep := @Alike.applyOrKeep
  have hswap := alike_of_apart h
  unfold Client.applyOrKeep at hstep hswap ⊢
  exact Settings.foldl_keep_swap hstep hswap c earlier later

end Client

namespace Request

/-- The values of a header in a request, and in the draft that it is built from, are what the
accepted settings that are about the header make of those at first: of none, or of the one
user agent.  Settings that are refused or about other headers have no part in them, and two
settings about different headers may change places, for a draft and for a client. -/
theorem header_values_by_name {clientSettings : List Client.Setting} {b : Client.Beginning}
    {d : Draft} (hbegin : (clientSettings.foldl Client.applyOrKeep .standard).begin b = .ok d)
    (settings : List Draft.Setting) {name : String} {n : HeaderName}
    (hname : HeaderName.parse? name = some n) :
    (settings.foldl Draft.applyOrKeep d).headers.values n =
        Headers.valuesAfter name
          ((Client.standard.accepted clientSettings).filterMap Client.Setting.edit? ++
            (d.accepted settings).filterMap (·.change.edit)) ∧
      (forall r, (settings.foldl Draft.applyOrKeep d).build = .ok r ->
        r.headers = (settings.foldl Draft.applyOrKeep d).headers) ∧
      (forall (e : Draft) earlier s t later, Headers.Apart s.change.edit t.change.edit ->
        Draft.Alike ((earlier ++ s :: t :: later).foldl Draft.applyOrKeep e)
          ((earlier ++ t :: s :: later).foldl Draft.applyOrKeep e)) ∧
      forall (c : Client) earlier s t later, Headers.Apart s.edit? t.edit? ->
        Client.Alike ((earlier ++ s :: t :: later).foldl Client.applyOrKeep c)
          ((earlier ++ t :: s :: later).foldl Client.applyOrKeep c) := by
  refine ⟨?_, fun r hbuild => (Draft.builds_of_build hbuild).headers, ?_, ?_⟩
  · have hfirst : Client.standard.defaultHeaders.values n =
        if HeaderName.Same name "user-agent" then [.ofPlain "hopcall/0.1.0"] else [] := by
      have huser : HeaderName.parse? "user-agent" = some .userAgent := rfl
      simp only [Headers.values_standard, ← HeaderName.parse?_iff_same huser, hname,
        Option.some_inj]
    rw [Draft.values_outcome, (Client.begins_of_begin hbegin).headers, Client.values_outcome,
      ← List.foldl_append, hfirst, Headers.foldl_editValues hname]
    rfl
  · intro e earlier s t later hapart
    exact Draft.alike_foldl_swap hapart e earlier later
  · intro c earlier s t later hapart
    exact Client.alike_foldl_swap hapart c earlier later

def tracingSettings : List Client.Setting :=
  [.defaultHeader "X-Trace" "1", .defaultHeader "X Trace" "2", .userAgent "probe/1"]

def tracedSettings : List Draft.Setting :=
  [.addHeader "x-trace" "3", .addHeader "X-TRACE" "4\n", .removeHeader "user-Agent",
    .text "hi", .addHeader "X-trace" "5", .contentType "text/html"]

theorem header_values_by_name_of_traced :
    exists d, (tracingSettings.foldl Client.applyOrKeep .standard).begin .blank = .ok d ∧
      (tracedSettings.foldl Draft.applyOrKeep d).headers.values ⟨"x-trace"⟩ =
        [.ofPlain "1", .ofPlain "3", .ofPlain "5"] ∧
      (tracedSettings.foldl Draft.applyOrKeep d).headers.values .userAgent = [] ∧
      (tracedSettings.foldl Draft.applyOrKeep d).headers.values .contentType =
        [.ofPlain "text/html"] ∧
      Draft.Alike ((.text "ho" :: .userAgent "probe/2" :: tracedSettings).foldl
          Draft.applyOrKeep d)
        ((.userAgent "probe/2" :: .text "ho" :: tracedSettings).foldl Draft.applyOrKeep d) := by
  have hbegin : (tracingSettings.foldl Client.applyOrKeep .standard).begin .blank =
      .ok (tracingSettings.foldl Client.applyOrKeep .standard).draft := rfl
  have htrace : HeaderName.parse? "X-Trace" = some ⟨"x-trace"⟩ := rfl
  have huser : HeaderName.parse? "User-Agent" = some .userAgent := rfl
  have htype : HeaderName.parse? "Content-Type" = some .contentType := rfl
  refine ⟨_, hbegin, ?_, ?_, ?_, ?_⟩
  · rw [(header_values_by_name hbegin tracedSettings htrace).left]
    decide +kernel
  · rw [(header_values_by_name hbegin tracedSettings huser).left]
    decide +kernel
  · rw [(header_values_by_name hbegin tracedSettings htype).left]
    decide +kernel
  · have hswap := (header_values_by_name hbegin tracedSettings htype).right.right.left
    exact hswap _ [] _ _ tracedSettings ⟨_, _, rfl, rfl, by decide⟩

end Request
end HttpCall
