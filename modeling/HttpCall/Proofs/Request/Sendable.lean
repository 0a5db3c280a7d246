import HttpCall.Proofs.Redirect.Inheritance
import HttpCall.Proofs.Redirect.Rewriting
import HttpCall.Proofs.Request.Settings
import HttpCall.Proofs.Url.Hosted
import Mathlib.Data.List.Basic

/-!
# Requests that can be sent

The URL, the target and the version of a request are checked by different settings, stored
apart and rewritten by redirects.  Still a draft can be built as soon as it has a URL, and
what is built can be sent: a connection for it is known, and it speaks a version that its
request is written in.  Redirects of the standard policy keep it so.
-/

namespace HttpCall

structure Url.IsSite (url : Url) : Prop where
  http : url.isHttp = true
  host : exists name, url.hostText? = some name ∧ name ≠ ""

def ProtocolVersion.IsSpoken (version : ProtocolVersion) : Prop :=
  version = .http10 ∨ version = .http11

/-- The request has all that it takes to be sent. -/
structure Request.IsSendable (r : Request) : Prop where
  site : r.url.IsSite
  target : Target.ofUrl? r.url = some r.target
  version : r.version.IsSpoken

section

variable {url : Url}

theorem Url.IsSite.isHosted (h : url.IsSite) : url.IsHosted := fun _ => h.host

theorem Url.IsHosted.isSite (h : url.IsHosted) (hhttp : url.isHttp = true) : url.IsSite :=
  ⟨hhttp, h hhttp⟩

theorem Url.IsSite.exists_target (h : url.IsSite) :
    exists target, Target.ofUrl? url = some target := by
  rcases h.host with ⟨name, hname, _⟩
  have hmap := Target.ofUrl?_host.mpr ⟨hname, effectivePort?_of_isHttp h.http⟩
  rcases Option.map_eq_some_iff.mp hmap with ⟨target, htarget, _⟩
  exact ⟨target, htarget⟩

theorem ProtocolVersion.isSpoken_of_isSendable {version : ProtocolVersion}
    (h : version.isSendable = true) : version.IsSpoken := by
  cases version with
  | http10 => exact Or.inl rfl
  | http11 => exact Or.inr rfl
  | http09 | http2 | http3 => cases h

end

/-!
## Texts that are set as URLs
-/

namespace Draft

def Setting.urlText? : Setting -> Option String
  | .url written => some written
  | _ => none

def urlTexts (settings : List Setting) : List String := settings.filterMap Setting.urlText?

section

variable {d e : Draft} {s : Setting} {written : String} {url : Url}

theorem Setting.eq_url (h : s.urlText? = some written) : s = .url written := by
  cases s with
  | url text =>
      cases h
      rfl
  | _ =>
      cases h

theorem Setting.change_url (s : Setting) :
    s.change.url = s.urlText?.bind fun written => (Url.parse written).toOption := by
  cases s with
  | acceptGzip wanted =>
      cases wanted <;> rfl
  | jsonValue value? =>
      cases value? <;> rfl
  | _ =>
      rfl

theorem exists_of_setUrl (h : d.setUrl written = .ok e) :
    exists url, Url.parse written = .ok url ∧ url.IsSite := by
  unfold setUrl at h
  split at h
  · cases h
  · rename_i url hparse
    split at h
    · cases h
    · rename_i hhttp
      rw [Bool.not_eq_true', Bool.not_eq_false] at hhttp
      exact ⟨url, hparse, (Url.isHosted_of_parse hparse).isSite hhttp⟩

theorem Setting.isSite_of_change (h : d.apply s = .ok e) (hurl : s.change.url = some url) :
    url.IsSite := by
  rw [s.change_url] at hurl
  obtain ⟨written, htext, hread⟩ := Option.bind_eq_some_iff.mp hurl
  obtain rfl := Setting.eq_url htext
  obtain ⟨parsed, hparse, hsite⟩ := exists_of_setUrl h
  rw [hparse] at hread
  cases hread
  exact hsite

theorem Setting.parse_of_isMade (h : s.IsMade) (htext : s.urlText? = some written) :
    exists url, Url.parse written = .ok url := by
  obtain rfl := Setting.eq_url htext
  obtain ⟨url, hparse, _⟩ := exists_of_setUrl (h Client.standard.draft)
  exact ⟨url, hparse⟩

end

theorem map_parse_urlTexts {settings : List Setting}
    (h : forall s, s ∈ settings -> s.IsMade) :
    (urlTexts settings).map Url.parse = (settings.filterMap (·.change.url)).map .ok := by
  unfold urlTexts
  rw [List.map_filterMap, List.map_filterMap]
  refine List.filterMap_congr fun s hs => ?_
  rw [s.change_url]
  cases htext : s.urlText? with
  | none =>
      rfl
  | some written =>
      obtain ⟨url, hparse⟩ := Setting.parse_of_isMade (h s hs) htext
      simp only [Option.map_some, Option.bind_some, hparse, Except.toOption]

/-!
## Drafts
-/

/-- If the draft has a URL, then one of HTTP with a host, and it has a version that is
spoken. -/
structure IsReady (d : Draft) : Prop where
  url : forall url, d.url = some url -> url.IsSite
  version : d.version.IsSpoken

section

variable {d e : Draft} {s : Setting}

theorem Setting.isSpoken_of_change {version : ProtocolVersion} (h : d.apply s = .ok e)
    (hversion : s.change.version = some version) : version.IsSpoken := by
  cases s with
  | version spelling =>
      simp only [Setting.change] at hversion
      simp only [apply, setVersion, hversion] at h
      split at h
      · rename_i hsendable
        exact ProtocolVersion.isSpoken_of_isSendable hsendable
      · cases h
  | acceptGzip wanted =>
      cases wanted <;> cases hversion
  | jsonValue value? =>
      cases value? <;> cases hversion
  | _ =>
      cases hversion

theorem IsReady.apply (hd : d.IsReady) (h : d.apply s = .ok e) : e.IsReady where
  url := by
    intro url hurl
    rw [eq_make_of_apply h] at hurl
    rcases Option.or_eq_some_iff.mp hurl with hnew | ⟨_, hold⟩
    · exact Setting.isSite_of_change h hnew
    · exact hd.url url hold
  version := by
    rw [eq_make_of_apply h]
    change (s.change.version.getD d.version).IsSpoken
    cases hversion : s.change.version with
    | none =>
        exact hd.version
    | some version =>
        exact Setting.isSpoken_of_change h hversion

theorem IsReady.outcome (hd : d.IsReady) (settings : List Setting) :
    (settings.foldl applyOrKeep d).IsReady := by
  rw [applyOrKeep_eq]
  exact Settings.foldl_keep_induction (fun h hx => IsReady.apply hx h) hd settings

end

theorem IsReady.build {d : Draft} (hd : d.IsReady) :
    d.url = none ∧ d.build = .error (.configuration .missingUrl) ∨
      exists r, d.build = .ok r ∧ d.url = some r.url ∧ r.IsSendable := by
  cases hurl : d.url with
  | none =>
      refine Or.inl ⟨rfl, ?_⟩
      unfold Draft.build
      rw [hurl]
  | some url =>
      obtain ⟨target, htarget⟩ := (hd.url url hurl).exists_target
      right
      unfold Draft.build
      rw [hurl]
      dsimp only
      rw [htarget]
      exact ⟨_, rfl, rfl, hd.url url hurl, htarget, hd.version⟩

end Draft

namespace Client

section

variable {c : Client} {b : Beginning} {d : Draft}

theorem isReady_of_begin (h : c.begin b = .ok d) : d.IsReady := by
  have hblank : forall method, Draft.IsReady { c.draft with method } :=
    fun _ => ⟨fun _ hurl => (nomatch hurl), Or.inr rfl⟩
  cases b with
  | blank =>
      cases h
      exact hblank .get
  | request method url =>
      have hsetting : { c.draft with method }.apply (.url url) = .ok d := h
      exact (hblank method).apply hsetting

theorem isMade_of_begin (h : c.begin b = .ok d) (settings : List Draft.Setting) :
    forall s, s ∈ b.settings ++ d.accepted settings -> s.IsMade := by
  intro s hs
  rcases List.mem_append.mp hs with hbegun | haccepted
  · cases b with
    | blank =>
        cases hbegun
    | request method url =>
        cases List.mem_singleton.mp hbegun
        have hsetting : { c.draft with method }.apply (.url url) = .ok d := h
        exact Draft.isMade_of_apply hsetting
  · exact Draft.isMade_of_mem_accepted haccepted

/-- The URL of a draft is what the last text is read as that was accepted as one. -/
theorem url_outcome (h : c.begin b = .ok d) (settings : List Draft.Setting) :
    (settings.foldl Draft.applyOrKeep d).url.map Except.ok =
      (Draft.urlTexts (b.settings ++ d.accepted settings)).getLast?.map Url.parse := by
  rw [← List.getLast?_map, Draft.map_parse_urlTexts (isMade_of_begin h settings),
    List.getLast?_map, List.filterMap_append, List.getLast?_append, Draft.url_outcome,
    (begins_of_begin h).url]

end

end Client

/-!
## Redirects
-/

theorem Policy.isSite_of_standard {response : Response} {r : Request} {count : Nat}
    {location : Url} (hr : r.url.IsSite)
    (h : Policy.standard response r count = .ok (some location)) : location.IsSite := by
  have hlocation : locationOf response r = some location := Except.ok.inj h
  unfold locationOf at hlocation
  split at hlocation
  · split at hlocation
    · cases hlocation
    · split at hlocation
      · rename_i url hjoin
        split at hlocation
        · rename_i hhttp
          cases hlocation
          exact (Url.isHosted_of_join hr.isHosted hjoin).isSite hhttp
        · cases hlocation
      · cases hlocation
  · cases hlocation

namespace Request

theorem IsSendable.redirected {r : Request} (hr : r.IsSendable) {location : Url}
    (hlocation : location.IsSite) (status : Status) :
    (r.redirected location status).IsSendable where
  site := hlocation
  target := by
    obtain ⟨target, htarget⟩ := hlocation.exists_target
    rw [target_redirected, url_redirected, htarget]
    rfl
  version := (keeps_redirected r location status).version ▸ hr.version

theorem IsSendable.of_reaches {r q : Request} (hr : r.IsSendable)
    (h : Policy.standard.Reaches r q) : q.IsSendable := by
  induction h with
  | start =>
      exact hr
  | redirect _ hfollowed ih =>
      exact ih.redirected (Policy.isSite_of_standard ih.site hfollowed) _

end Request

namespace Session

/-- A draft can be built if and only if some text was accepted as its URL, and is never
refused for want of a target.  The request has the URL that the last such text is read as; it
can be sent, and so can all that come of it by redirects of the standard policy, which are the
only ones that a call with that policy sends. -/
theorem built_and_redirected_sendable {c : Client} {b : Client.Beginning} {d : Draft}
    (hbegin : c.begin b = .ok d) (settings : List Draft.Setting) :
    ((exists r, (settings.foldl Draft.applyOrKeep d).build = .ok r) <->
        Draft.urlTexts (b.settings ++ d.accepted settings) ≠ []) ∧
      (forall url, (settings.foldl Draft.applyOrKeep d).build ≠
        .error (.configuration (.missingTarget url))) ∧
      forall r, (settings.foldl Draft.applyOrKeep d).build = .ok r ->
        (Draft.urlTexts (b.settings ++ d.accepted settings)).getLast?.map Url.parse =
            some (.ok r.url) ∧
          (forall q, Policy.standard.Reaches r q -> q.IsSendable) ∧
          forall caller react, World.Conduct caller True react -> caller.policy = .standard ->
            forall clockStart nextConnection plot hops w,
              w ∈ (launch caller react clockStart nextConnection plot r hops).worlds ->
              forall q, .sent q ∈ w.moves -> Policy.standard.Reaches r q := by
  have hready := (Client.isReady_of_begin hbegin).outcome settings
  have hurl := Client.url_outcome hbegin settings
  -- the draft has no URL, and no text was accepted as one, or it can be built
  rcases hready.build with ⟨hnone, hrefused⟩ | ⟨r, hbuilt, hsome, hsendable⟩
  · rw [hnone] at hurl
    have htexts := List.getLast?_eq_none_iff.mp (Option.map_eq_none_iff.mp hurl.symm)
    rw [hrefused, htexts]
    refine ⟨⟨?_, fun hne => absurd rfl hne⟩, fun _ h => ?_, fun _ h => ?_⟩
    · rintro ⟨_, h⟩
      cases h
    · cases h
    · cases h
  · rw [hsome, Option.map_some] at hurl
    refine ⟨⟨fun _ hnil => ?_, fun _ => ⟨r, hbuilt⟩⟩, fun _ h => ?_, fun q h => ?_⟩
    · rw [hnil] at hurl
      cases hurl
    · cases hbuilt.symm.trans h
    · cases hbuilt.symm.trans h
      refine ⟨hurl.symm, fun _ => hsendable.of_reaches, ?_⟩
      intro caller react hconduct hpolicy clockStart nextConnection plot hops w hw q hq
      have hpasses : caller.policy.PassesOn (Policy.standard.Reaches r) := by
        rw [hpolicy]
        exact fun _ _ _ _ => .redirect
      exact allSent_of_passesOn hconduct hpasses .start hw q hq

/-!
### A call that is redirected to another host
-/

def sendableSettings : List Draft.Setting :=
  [.url "http://a.test", .version "http/1.0", .url "mailto:x@a.test", .version "HTTP/2"]

def sendableRequest : Request :=
  { plainRequest none with version := .http10, headers := Client.standard.defaultHeaders }

def standardCaller : Caller where
  policy := .standard
  triggers := []
  transform _ := .ok .null

def movedHop : Hop :=
  { plainHop 5 with
    reply := some (.response .found .http11
      (Headers.empty.insert .location (.ofPlain "https://b.test/z")) [] none) }

def movedRequest : Request :=
  { sendableRequest with
    url := ⟨"https", "", "", some (.named "b.test"), none, .segments ["z"], none, none⟩
    target := ⟨"https", "b.test", 443⟩ }

theorem built_and_redirected_sendable_of_moved :
    (sendableSettings.foldl Draft.applyOrKeep Client.standard.draft).build =
        .ok sendableRequest ∧
      Url.parse "http://a.test" = .ok sendableRequest.url ∧
      exists w, w ∈ (launch standardCaller standardCaller.reaction 0 1 plainPlot sendableRequest
          [movedHop, plainHop 7]).worlds ∧
        .sent movedRequest ∈ w.moves ∧ movedRequest.IsSendable := by
  have hbegin : Client.standard.begin .blank = .ok Client.standard.draft := rfl
  have htexts : Draft.urlTexts (Client.Beginning.blank.settings ++
      Client.standard.draft.accepted sendableSettings) = ["http://a.test"] := by
    decide +kernel
  have hsendable := built_and_redirected_sendable hbegin sendableSettings
  rw [htexts] at hsendable
  have hbuild : (sendableSettings.foldl Draft.applyOrKeep Client.standard.draft).build =
      .ok sendableRequest := by
    decide +kernel
  rcases hsendable.right.right sendableRequest hbuild with ⟨hlast, hreached, hsent⟩
  have hmoves : (launch standardCaller standardCaller.reaction 0 1 plainPlot sendableRequest
      [movedHop, plainHop 7]).worlds.getLast?.map (fun w => w.moves.getLast?) =
        some (some (.sent movedRequest)) := by
    decide +kernel
  rcases Option.map_eq_some_iff.mp hmoves with ⟨w, hw, hmove⟩
  have hmem := List.mem_of_getLast? hw
  have hmoved := List.mem_of_getLast? hmove
  have hconduct := Caller.reaction_conduct (Caller.within_true standardCaller)
  refine ⟨hbuild, Option.some.inj hlast, w, hmem, hmoved, hreached _ ?_⟩
  exact hsent standardCaller _ hconduct rfl 0 1 plainPlot _ w hmem movedRequest hmoved

end Session
end HttpCall
