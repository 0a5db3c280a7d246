import HttpCall.Proofs.Redirect.Rewriting
import HttpCall.Proofs.Request.Settings

/-!
# Headers that describe a body that is gone

A redirect that asks for a GET takes away the body and two of the headers that describe one,
its type and its length.  The others are left alone, by this redirect and by all that follow;
so a GET describes a body that it does not have just if the first request had one of those.
-/

namespace HttpCall

namespace HeaderName

def contentEncoding : HeaderName := ⟨"content-encoding"⟩
def contentLanguage : HeaderName := ⟨"content-language"⟩
def contentLocation : HeaderName := ⟨"content-location"⟩
def contentRange : HeaderName := ⟨"content-range"⟩
def transferEncoding : HeaderName := ⟨"transfer-encoding"⟩

end HeaderName

namespace Request

/-- The headers that describe a body and are not taken away with it. -/
def sparedHeaders : List HeaderName :=
  [.contentEncoding, .contentLanguage, .contentLocation, .contentRange, .transferEncoding]

def entityHeaders : List HeaderName := contentHeaders ++ sparedHeaders

def Describes (r : Request) : Prop :=
  exists name, name ∈ entityHeaders ∧ r.headers.values name ≠ []

/-- A GET without content, but with what the request before it had of the other headers that
describe a body. -/
structure IsBareBut (r q : Request) : Prop where
  bare : q.IsBare
  spared : forall name, name ∈ sparedHeaders -> q.headers.values name = r.headers.values name
  describes : q.Describes <-> exists name, name ∈ sparedHeaders ∧ r.headers.values name ≠ []

section

variable {r q : Request}

/-- No redirect takes the other headers away, whatever it asks for. -/
theorem Keeps.spared (h : Keeps r q) {name : HeaderName} (hname : name ∈ sparedHeaders) :
    q.headers.values name = r.headers.values name := by
  have hother : forall name, name ∈ sparedHeaders ->
      name ∉ contentHeaders ∧ name ∉ credentials := by
    decide
  exact h.headers name (hother name hname).left (hother name hname).right

theorem IsBare.describes_iff (h : q.IsBare) :
    q.Describes <-> exists name, name ∈ sparedHeaders ∧ q.headers.values name ≠ [] := by
  constructor
  · rintro ⟨name, hname, hvalues⟩
    rcases List.mem_append.mp hname with hcontent | hspared
    · exact absurd (h.headers name hcontent) hvalues
    · exact ⟨name, hspared, hvalues⟩
  · rintro ⟨name, hname, hvalues⟩
    exact ⟨name, List.mem_append_right _ hname, hvalues⟩

theorem isBareBut_followed {trail : List (Url × Status)} (h : r.RewrittenOn trail) :
    IsBareBut r (r.followed trail) := by
  have hbare := (content_followed r trail).left h
  have hspared : forall name, name ∈ sparedHeaders ->
      (r.followed trail).headers.values name = r.headers.values name :=
    fun _ hname => (keeps_followed r trail).spared hname
  refine ⟨hbare, hspared, ?_⟩
  rw [hbare.describes_iff]
  constructor
  · rintro ⟨name, hname, hvalues⟩
    exact ⟨name, hname, hspared name hname ▸ hvalues⟩
  · rintro ⟨name, hname, hvalues⟩
    exact ⟨name, hname, (hspared name hname).symm ▸ hvalues⟩

end

end Request

namespace Session

variable {caller : Caller} {react : Reaction}

/-- At every point of a chain after a redirect that asked for a GET, the request is a GET
without a body, without its type and length, and with the other headers that describe one as
the first request had them; and what a call has sent so far is always such a chain. -/
theorem bare_but_for_spared_headers (hconduct : World.Conduct caller True react)
    (r : Request) :
    (forall trail, r.RewrittenOn trail -> Request.IsBareBut r (r.followed trail)) ∧
      forall clockStart nextConnection plot hops w,
        w ∈ (launch caller react clockStart nextConnection plot r hops).worlds ->
        forall before q after, w.moves = before ++ .sent q :: after ->
          exists trail, before.filterMap Move.request? ++ [q] = r.chain trail ∧
            q = r.followed trail ∧ (r.RewrittenOn trail -> Request.IsBareBut r q) := by
  refine ⟨fun trail => Request.isBareBut_followed, ?_⟩
  intro clockStart nextConnection plot hops w hw before q after hmoves
  rcases onTrail_of_mem_worlds hconduct hw with ⟨trail, rest, hlegs⟩
  rw [hmoves] at hlegs
  rcases Request.legs_at hlegs with ⟨earlier, later, hchain, rfl⟩
  rcases Request.chain_split hchain with ⟨shorter, hshorter, rfl⟩
  refine ⟨shorter, ?_, rfl, Request.isBareBut_followed⟩
  rw [List.filterMap_append, Request.filterMap_legs, hshorter]
  exact congrArg (· ++ _) (List.append_nil earlier)

/-!
### A form that has moved
-/

def describingDefaults : List Client.Setting := [.defaultHeader "Content-Language" "en"]

def describingSettings : List Draft.Setting :=
  [.text "hi", .header "Content-Encoding" "gzip", .addHeader "Content-Location" "/draft",
    .header "Content-Range" "bytes 0-1/2", .addHeader "Transfer-Encoding" "chunked"]

def describingDraft : Draft where
  method := .post
  url := some (plainUrl "a.test")
  version := .http11
  headers := Client.standard.defaultHeaders.insert .contentLanguage (.ofPlain "en")
  body := .empty
  followRedirects := true
  maxRedirects := 10
  timeout := none

def describingRequest : Request :=
  { plainRequest none with
    method := .post
    headers := ((((describingDraft.headers.insert .contentType
      (.ofPlain "text/plain; charset=utf-8")).insert .contentEncoding (.ofPlain "gzip")).append
      .contentLocation (.ofPlain "/draft")).insert .contentRange
      (.ofPlain "bytes 0-1/2")).append .transferEncoding (.ofPlain "chunked")
    body := .text "hi" "text/plain; charset=utf-8" [0x68, 0x69] }

def movingCaller : Caller where
  policy := .always (plainUrl "b.test") (some 1)
  triggers := []
  transform _ := .ok .null

def seeOtherHop : Hop :=
  { plainHop 5 with reply := some (.response .seeOther .http11 .empty [] none) }

def describingGet : Request :=
  { describingRequest.asGet with url := plainUrl "b.test", target := ⟨"http", "b.test", 80⟩ }

theorem bare_but_for_spared_headers_of_form :
    exists w, w ∈ (launch movingCaller movingCaller.reaction 0 1 plainPlot describingRequest
        [seeOtherHop, plainHop 7]).worlds ∧
      w.moves = [.acquired describingRequest.target, .sent describingRequest,
        .acquired describingGet.target, .sent describingGet] ∧
      describingGet.IsBare ∧ describingGet.Describes := by
  have hconduct := Caller.reaction_conduct (Caller.within_true movingCaller)
  have hlast : (launch movingCaller movingCaller.reaction 0 1 plainPlot describingRequest
      [seeOtherHop, plainHop 7]).worlds.getLast?.map World.moves =
        some [.acquired describingRequest.target, .sent describingRequest,
          .acquired describingGet.target, .sent describingGet] := by
    decide +kernel
  rcases Option.map_eq_some_iff.mp hlast with ⟨w, hw, hmoves⟩
  have hmem := List.mem_of_getLast? hw
  rcases (bare_but_for_spared_headers hconduct describingRequest).right 0 1 plainPlot _ w hmem
    [.acquired describingRequest.target, .sent describingRequest,
      .acquired describingGet.target] describingGet [] hmoves with ⟨trail, _, hget, hbut⟩
  have hrewritten : describingRequest.RewrittenOn trail := by
    by_contra hnot
    have hkept := ((Request.content_followed describingRequest trail).right hnot).method
    rw [← hget] at hkept
    exact absurd hkept (by decide)
  refine ⟨w, hmem, hmoves, (hbut hrewritten).bare, ?_⟩
  exact (hbut hrewritten).describes.mpr ⟨.contentEncoding, by decide, by decide +kernel⟩

/-- The header of an encoding and the like are sent with a GET that has no body, and with the
request of the next hop. -/
theorem spared_headers_of_form :
    (describingDefaults.foldl Client.applyOrKeep .standard).begin
        (.request .post "http://a.test/") = .ok describingDraft ∧
      (describingSettings.foldl Draft.applyOrKeep describingDraft).build =
        .ok describingRequest ∧
      describingRequest.Rewrites .seeOther ∧
      forall trail, trail ∈ [[(plainUrl "a.test", Status.seeOther)],
          [(plainUrl "a.test", .seeOther), (plainUrl "b.test", .permanentRedirect)]] ->
        (describingRequest.followed trail).method = .get ∧
          (describingRequest.followed trail).body = .empty ∧
          forall name, name ∈ Request.sparedHeaders ->
            (describingRequest.followed trail).headers.values name ≠ [] := by
  refine ⟨by decide +kernel, by decide +kernel, Or.inl ⟨rfl, by decide⟩, ?_⟩
  decide +kernel

end Session
end HttpCall
