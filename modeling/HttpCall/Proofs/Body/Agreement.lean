import HttpCall.Proofs.Redirect.Rewriting
import HttpCall.Proofs.Request.Settings

/-!
# Stored bodies

A text body is stored with its content type and its bytes, and nothing but the setting that
stored it sees to it that the three belong together.  They do, whichever settings were made,
also where a text in UTF-8 is stored directly; and redirects keep the body or drop it whole.
-/

namespace HttpCall

/-! ## Texts in UTF-8 -/

theorem Charset.encode_utf8 (s : List Char) : utf8.encode s = .ok (Text.Utf8.encode s) := by
  induction s with
  | nil =>
      rfl
  | cons c rest ih =>
      unfold encode
      rw [ih]
      rfl

theorem Body.encodeText_utf8 (text : String) :
    encodeText "utf-8" text = .ok (Text.Utf8.encode text.toList) := by
  have hnamed : Charset.utf8.IsNamed "utf-8" := by
    decide +kernel
  rw [encodeText_of_isNamed hnamed, Charset.encode_utf8]
  rfl

structure ContentType.IsUtf8 (contentType : String) : Prop where
  charset : bodyCharset contentType = "utf-8"
  value : HeaderValue.parse? contentType = some (.ofPlain contentType)

namespace ContentType

theorem isUtf8_plainText : IsUtf8 "text/plain; charset=utf-8" := ⟨rfl, rfl⟩

theorem isUtf8_json : IsUtf8 "application/json; charset=utf-8" := ⟨rfl, rfl⟩

theorem isUtf8_xml : IsUtf8 "application/xml; charset=utf-8" := ⟨rfl, rfl⟩

end ContentType

theorem Draft.setBodyText_of_isUtf8 {contentType : String}
    (h : ContentType.IsUtf8 contentType) (content : String) (d : Draft) :
    d.setBodyText content contentType = .ok (d.setUtf8Body content contentType) := by
  have htype : d.setContentType contentType =
      .ok { d with headers := d.headers.insert .contentType (.ofPlain contentType) } := by
    have hname : HeaderName.parse? HeaderName.contentType.text = some .contentType := rfl
    unfold setContentType setHeader headerField
    rw [hname, h.value]
  rw [setBodyText_eq, h.charset, Body.encodeText_utf8, htype]
  rfl

/-! ## Texts, content types and bytes that belong together -/

/-- The bytes of a text are those that its content type asks for. -/
def Body.IsFaithful : Body -> Prop
  | .text content contentType encoded =>
      encodeText (ContentType.bodyCharset contentType) content = .ok encoded
  | .empty | .binary _ _ => True

theorem Body.isFaithful_utf8 {contentType : String} (h : ContentType.IsUtf8 contentType)
    (content : String) :
    IsFaithful (.text content contentType (Text.Utf8.encode content.toList)) := by
  change encodeText (ContentType.bodyCharset contentType) content = _
  rw [h.charset, encodeText_utf8]

namespace Draft

theorem Setting.isFaithful_of_change {s : Setting} {body : Body} (h : s.change.body = some body) :
    body.IsFaithful := by
  have hutf8 : forall {content contentType : String}, ContentType.IsUtf8 contentType ->
      (Change.ofUtf8 content contentType).body = some body -> body.IsFaithful := by
    intro content contentType htype hbody
    cases Option.some.inj hbody
    exact Body.isFaithful_utf8 htype content
  cases s with
  | method _ | timeout _ | version _ | url _ | followRedirects _ | maxRedirects _ =>
      cases h
  | header _ _ | addHeader _ _ | removeHeader _ | contentType _ | userAgent _ =>
      cases h
  | acceptGzip wanted =>
      cases wanted <;> cases h
  | bodyText content type =>
      simp only [Setting.change, Change.ofContentType] at h
      cases hencode : Body.encodeText (ContentType.bodyCharset type) content with
      | error e =>
          rw [hencode] at h
          cases h
      | ok encoded =>
          rw [hencode] at h
          cases h
          exact hencode
  | text content =>
      exact hutf8 ContentType.isUtf8_plainText h
  | json content =>
      exact hutf8 ContentType.isUtf8_json h
  | jsonValue value? =>
      cases value? with
      | error message =>
          cases h
      | ok value =>
          exact hutf8 ContentType.isUtf8_json h
  | xml content =>
      exact hutf8 ContentType.isUtf8_xml h
  | bodyBytes bytes type =>
      cases h
      trivial

/-- Whichever settings are made, a text is stored as its content type asks. -/
theorem isFaithful_outcome {d : Draft} (hd : d.body.IsFaithful) (settings : List Setting) :
    (settings.foldl applyOrKeep d).body.IsFaithful := by
  rw [body_outcome]
  cases hlast : ((d.accepted settings).filterMap (·.change.body)).getLast? with
  | none =>
      exact hd
  | some body =>
      obtain ⟨s, _, hs⟩ := List.mem_filterMap.mp (List.mem_of_getLast? hlast)
      exact Setting.isFaithful_of_change hs

end Draft

namespace Request

/-- In a request that is built, and in all that come of it along a chain of redirects, the
body is that of the last setting of a body that was accepted, or empty if there was none, until
a redirect asks for a GET, and empty from then on; and a text is stored with the bytes that its
content type asks for.  The settings of a plain text, of JSON and of XML are never refused, and
do the same as the setting of a text with their content types. -/
theorem stored_body_agrees {c : Client} {b : Client.Beginning} {d : Draft}
    (hbegin : c.begin b = .ok d) (settings : List Draft.Setting) :
    (forall r, (settings.foldl Draft.applyOrKeep d).build = .ok r -> forall trail,
      (forall content contentType encoded,
        (r.followed trail).body = .text content contentType encoded ->
        Body.encodeText (ContentType.bodyCharset contentType) content = .ok encoded) ∧
      (r.RewrittenOn trail ∧ (r.followed trail).body = .empty ∨
        ¬ r.RewrittenOn trail ∧ (r.followed trail).body =
          (((d.accepted settings).filterMap (·.change.body)).getLast?).getD .empty)) ∧
      forall (e : Draft) content,
        (exists f, e.apply (.text content) = .ok f ∧
          e.apply (.bodyText content "text/plain; charset=utf-8") = .ok f) ∧
        (exists f, e.apply (.json content) = .ok f ∧
          e.apply (.bodyText content "application/json; charset=utf-8") = .ok f) ∧
        exists f, e.apply (.xml content) = .ok f ∧
          e.apply (.bodyText content "application/xml; charset=utf-8") = .ok f := by
  refine ⟨?_, ?_⟩
  · intro r hbuild trail
    have hempty := (Client.begins_of_begin hbegin).body
    have hbody := (Draft.builds_of_build hbuild).body
    have hfaithful : r.body.IsFaithful := by
      rw [hbody]
      exact Draft.isFaithful_outcome (hempty ▸ trivial) settings
    have hlast : r.body =
        (((d.accepted settings).filterMap (·.change.body)).getLast?).getD .empty := by
      rw [hbody, Draft.body_outcome, hempty]
    rcases content_followed r trail with ⟨hbare, hkept⟩
    -- a redirect keeps a text, its type and its bytes together, or takes all of them away
    by_cases hrewritten : r.RewrittenOn trail
    · have hgone := (hbare hrewritten).body
      refine ⟨?_, Or.inl ⟨hrewritten, hgone⟩⟩
      intro content contentType encoded htext
      cases hgone.symm.trans htext
    · have hsame := (hkept hrewritten).body
      refine ⟨?_, Or.inr ⟨hrewritten, hsame.trans hlast⟩⟩
      intro content contentType encoded htext
      rw [← hsame, htext] at hfaithful
      exact hfaithful
  · intro e content
    exact ⟨⟨_, rfl, Draft.setBodyText_of_isUtf8 ContentType.isUtf8_plainText content e⟩,
      ⟨_, rfl, Draft.setBodyText_of_isUtf8 ContentType.isUtf8_json content e⟩,
      ⟨_, rfl, Draft.setBodyText_of_isUtf8 ContentType.isUtf8_xml content e⟩⟩

def storingSettings : List Draft.Setting :=
  [.json "1", .bodyText "h\u00e9" "text/plain; charset=utf-16be",
    .bodyText "\u20ac" "text/plain; charset=latin1", .bodyText "a" "text/plain; charset=none"]

def begunDraft : Draft :=
  { Client.standard.draft with method := .post, url := some (Session.plainUrl "a.test") }

def storingRequest : Request :=
  { Session.plainRequest none with
    method := .post
    headers := Client.standard.defaultHeaders.insert .contentType
      (.ofPlain "text/plain; charset=utf-16be")
    body := .text "h\u00e9" "text/plain; charset=utf-16be" [0x00, 0x68, 0x00, 0xe9] }

def storingTrail : List (Url × Status) :=
  [(Session.plainUrl "b.test", .temporaryRedirect), (Session.plainUrl "a.test", .seeOther),
    (Session.plainUrl "a.test", .temporaryRedirect)]

theorem stored_body_agrees_of_refused :
    Client.standard.begin (.request .post "http://a.test/") = .ok begunDraft ∧
      (storingSettings.foldl Draft.applyOrKeep begunDraft).build = .ok storingRequest ∧
      Body.encodeText "utf-16be" "h\u00e9" = .ok [0x00, 0x68, 0x00, 0xe9] ∧
      (storingRequest.followed (storingTrail.take 1)).body = storingRequest.body ∧
      (storingRequest.followed storingTrail).body = .empty := by
  have hbegin : Client.standard.begin (.request .post "http://a.test/") = .ok begunDraft := by
    decide +kernel
  have hbuild : (storingSettings.foldl Draft.applyOrKeep begunDraft).build =
      .ok storingRequest := by
    decide +kernel
  have hagrees := (stored_body_agrees hbegin storingSettings).left storingRequest hbuild
  have hasked : storingRequest.RewrittenOn storingTrail :=
    ⟨storingTrail.take 1, (Session.plainUrl "a.test", .seeOther),
      [(Session.plainUrl "a.test", .temporaryRedirect)], rfl, Or.inl ⟨rfl, by decide +kernel⟩⟩
  have hlabel : ContentType.bodyCharset "text/plain; charset=utf-16be" = "utf-16be" := by
    decide +kernel
  refine ⟨hbegin, hbuild, ?_, ?_, ?_⟩
  · rw [← hlabel]
    exact (hagrees []).left _ _ _ rfl
  · rcases (hagrees (storingTrail.take 1)).right with ⟨_, hempty⟩ | ⟨_, hlast⟩
    · exact absurd hempty (by decide +kernel)
    · rw [hlast]
      decide +kernel
  · rcases (hagrees storingTrail).right with ⟨_, hempty⟩ | ⟨hnot, _⟩
    · exact hempty
    · exact absurd hasked hnot

end Request
end HttpCall
