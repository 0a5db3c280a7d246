import HttpCall.Url.Parser

/-!
# URLs of HTTP have a host

Whatever text is read as a URL, by itself or relative to another one: if its scheme is that
of HTTP, then it has a host, and the host is not the empty text.
-/

namespace HttpCall

theorem exists_of_bind_eq_ok {error first second : Type} {x : Except error first}
    {f : first -> Except error second} {b : second} (h : x >>= f = .ok b) :
    exists a, x = .ok a ∧ f a = .ok b := by
  cases x with
  | error e =>
      cases h
  | ok a =>
      exact ⟨a, rfl, h⟩

namespace Url

/-!
## Hosts
-/

namespace Host

theorem text_ipv4_ne_empty (address : Nat) : (ipv4 address).text ≠ "" := by
  have hdot : '.' ∈ (Ipv4.text address).toList := by
    unfold Ipv4.text
    simp
  intro hempty
  rw [show Ipv4.text address = "" from hempty] at hdot
  cases hdot

theorem text_ipv6_ne_empty (groups : List Nat) : (ipv6 groups).text ≠ "" := by
  simp [text]

theorem text_ne_empty_of_parseBracketed {s : List Char} {host : Host}
    (h : parseBracketed s = .ok host) : host.text ≠ "" := by
  unfold parseBracketed at h
  split at h
  · split at h
    · cases h
      exact text_ipv6_ne_empty _
    · cases h
  · cases h

theorem text_ne_empty_of_ofAscii {name : List Char} {host : Host}
    (h : ofAscii name = .ok host) : host.text ≠ "" := by
  unfold ofAscii at h
  split at h
  · cases h
  · rename_i hname
    split at h
    · split at h
      · cases h
        exact text_ipv4_ne_empty _
      · cases h
    · cases h
      simpa [text] using hname

theorem text_ne_empty_of_parseDomain {s : List Char} {host : Host}
    (h : parseDomain s = .ok host) : host.text ≠ "" := by
  unfold parseDomain at h
  split at h
  · exact text_ne_empty_of_parseBracketed h
  · split at h
    · exact text_ne_empty_of_ofAscii h
    · cases h

end Host

theorem hostText?_of_text_ne_empty {url : Url} {host : Host} (hhost : url.host = some host)
    (htext : host.text ≠ "") : url.hostText? = some host.text := by
  unfold hostText?
  rw [hhost]
  cases host with
  | empty =>
      exact absurd rfl htext
  | named _ | ipv4 _ | ipv6 _ =>
      rfl

/-!
## URLs with a host if they are of HTTP
-/

/-- If the URL is of HTTP, it has a host that is not the empty text. -/
def IsHosted (url : Url) : Prop :=
  url.isHttp = true -> exists name, url.hostText? = some name ∧ name ≠ ""

structure SameSite (base url : Url) : Prop where
  scheme : url.scheme = base.scheme
  host : url.host = base.host

section

variable {base url : Url} {scheme : String} {s : List Char}

theorem IsHosted.of_sameSite (h : SameSite base url) (hbase : base.IsHosted) :
    url.IsHosted := by
  unfold IsHosted isHttp hostText? at *
  rw [h.scheme, h.host]
  exact hbase

theorem scheme_of_isHttp (h : url.isHttp = true) :
    url.scheme = "http" ∨ url.scheme = "https" := by
  unfold isHttp at h
  rw [Bool.or_eq_true, decide_eq_true_eq, decide_eq_true_eq] at h
  exact h

theorem isSpecialScheme_of_isHttp (h : url.isHttp = true) :
    isSpecialScheme url.scheme = true := by
  rcases scheme_of_isHttp h with hscheme | hscheme <;> rw [hscheme] <;> decide

theorem effectivePort?_of_isHttp (h : url.isHttp = true) :
    url.effectivePort?.isSome = true := by
  unfold effectivePort?
  cases url.port with
  | some port =>
      rfl
  | none =>
      rcases scheme_of_isHttp h with hscheme | hscheme <;> rw [hscheme] <;> rfl

theorem isHosted_of_not_special (h : isSpecialScheme url.scheme = false) : url.IsHosted := by
  intro hhttp
  cases h.symm.trans (isSpecialScheme_of_isHttp hhttp)

theorem isHosted_of_file (h : url.scheme = "file") : url.IsHosted := by
  intro hhttp
  rcases scheme_of_isHttp hhttp with hscheme | hscheme
  · exact absurd (h.symm.trans hscheme) (by decide)
  · exact absurd (h.symm.trans hscheme) (by decide)

/-! ### Paths, queries and fragments -/

theorem sameSite_withSegments (url : Url) (above : List String) (s : List Char) :
    SameSite url (url.withSegments above s) := ⟨rfl, rfl⟩

theorem sameSite_withPath (url : Url) (s : List Char) : SameSite url (url.withPath s) := by
  unfold withPath
  split
  · split
    · exact ⟨rfl, rfl⟩
    · split <;> exact ⟨rfl, rfl⟩
  · split <;> exact ⟨rfl, rfl⟩

/-! ### Authorities -/

def readAfterHost (scheme username password : String) (credentials : Bool) (host : Host)
    (s : List Char) : Except ParseError Url :=
  if host = .empty ∧ s.head? = some ':' then .error .emptyHost
  else
    match s with
    | ':' :: rest => readPort scheme rest >>= finish
    | s => finish (none, s)
where
  finish (after : Option Nat × List Char) : Except ParseError Url :=
    if host = .empty ∧ credentials then .error .emptyHost
    else .ok ({ ofScheme scheme with username, password, host := some host, port := after.1 }.withPath
      after.2)

def readHost (special : Bool) (s : List Char) : Except ParseError Host :=
  if special then if s.isEmpty then .error .emptyHost else Host.parseDomain s
  else Host.parseOpaque s

/-- An authority is read in three steps, of which only the second one is about the host. -/
theorem readAuthority_eq (scheme : String) (s : List Char) :
    readAuthority scheme s =
      readUserinfo (isSpecialScheme scheme) s >>= fun info =>
        readHost (isSpecialScheme scheme) (spanHost (isSpecialScheme scheme) false info.2.2).1 >>=
          fun host =>
            readAfterHost scheme info.1.1 info.1.2 info.2.1 host
              (spanHost (isSpecialScheme scheme) false info.2.2).2 := by
  unfold readAuthority readHost
  refine congrArg (Bind.bind (readUserinfo _ s)) (funext fun info => ?_)
  -- what follows the host stands once in each branch that reads one
  cases isSpecialScheme scheme with
  | false =>
      rfl
  | true =>
      simp only [if_true]
      split <;> rfl

theorem of_readAfterHost {username password : String} {credentials : Bool} {host : Host}
    (h : readAfterHost scheme username password credentials host s = .ok url) :
    url.scheme = scheme ∧ url.host = some host := by
  have hfinish : forall {after : Option Nat × List Char},
      readAfterHost.finish scheme username password credentials host after = .ok url ->
      url.scheme = scheme ∧ url.host = some host := by
    intro after hafter
    unfold readAfterHost.finish at hafter
    split at hafter
    · cases hafter
    · cases hafter
      exact ⟨(sameSite_withPath _ _).scheme, (sameSite_withPath _ _).host⟩
  unfold readAfterHost at h
  split at h
  · cases h
  · split at h
    · obtain ⟨_, _, h⟩ := exists_of_bind_eq_ok h
      exact hfinish h
    · exact hfinish h

theorem of_readAuthority (h : readAuthority scheme s = .ok url) :
    url.scheme = scheme ∧
      (isSpecialScheme scheme = true ->
        exists host, url.host = some host ∧ host.text ≠ "") := by
  rw [readAuthority_eq] at h
  obtain ⟨info, _, h⟩ := exists_of_bind_eq_ok h
  obtain ⟨host, hhost, h⟩ := exists_of_bind_eq_ok h
  rcases of_readAfterHost h with ⟨hscheme, hsome⟩
  refine ⟨hscheme, fun hspecial => ⟨host, hsome, ?_⟩⟩
  unfold readHost at hhost
  rw [if_pos hspecial] at hhost
  split at hhost
  · cases hhost
  · exact Host.text_ne_empty_of_parseDomain hhost

theorem isHosted_of_readAuthority (h : readAuthority scheme s = .ok url) : url.IsHosted := by
  rcases of_readAuthority h with ⟨rfl, hhost⟩
  intro hhttp
  rcases hhost (isSpecialScheme_of_isHttp hhttp) with ⟨host, hsome, htext⟩
  exact ⟨host.text, hostText?_of_text_ne_empty hsome htext, htext⟩

/-! ### Files -/

theorem scheme_of_readFileHost (h : readFileHost s = .ok url) : url.scheme = "file" := by
  have hpath : forall (host : Host) (rest : List Char),
      ({ ofScheme "file" with host := some host }.withPath rest).scheme = "file" :=
    fun host rest => (sameSite_withPath _ rest).scheme
  unfold readFileHost at h
  dsimp only at h
  split at h
  · cases h
    exact hpath _ _
  · split at h
    · cases h
      exact hpath _ _
    · split at h
      · cases h
      · cases h
        exact hpath _ _
      · split at h
        · split at h
          · cases h
            exact hpath _ _
          · cases h
            exact hpath _ _
        · cases h
          exact hpath _ _

theorem scheme_of_readFile (h : readFile s = .ok url) : url.scheme = "file" := by
  unfold readFile at h
  split at h
  · split at h
    · exact scheme_of_readFileHost h
    · cases h
      exact (sameSite_withPath _ _).scheme
  · cases h
    exact (sameSite_withPath _ _).scheme

/-! ### References -/

theorem isHosted_of_readRelative (hbase : base.IsHosted) (h : readRelative base s = .ok url) :
    url.IsHosted := by
  unfold readRelative at h
  split at h
  · cases h
    exact hbase.of_sameSite ⟨rfl, rfl⟩
  · cases h
    exact hbase.of_sameSite ⟨rfl, rfl⟩
  · cases h
    exact hbase.of_sameSite ⟨rfl, rfl⟩
  · split at h
    · split at h
      · split at h
        · split at h <;> exact isHosted_of_readAuthority h
        · cases h
          exact hbase.of_sameSite (sameSite_withSegments base _ _)
      · cases h
        exact hbase.of_sameSite (sameSite_withSegments base _ _)
    · cases h
      exact hbase.of_sameSite (sameSite_withSegments base _ _)

theorem isHosted_of_readAbsolute {base : Option Url}
    (hbase : forall b, base = some b -> b.IsHosted)
    (h : readAbsolute base scheme s = .ok url) : url.IsHosted := by
  unfold readAbsolute at h
  split at h
  · exact isHosted_of_file (scheme_of_readFile h)
  · split at h
    · split at h
      · rename_i b
        split at h
        · exact isHosted_of_readRelative (hbase b rfl) h
        · exact isHosted_of_readAuthority h
      · exact isHosted_of_readAuthority h
    · rename_i hspecial
      rw [Bool.not_eq_true] at hspecial
      split at h
      · exact isHosted_of_readAuthority h
      · cases h
        exact isHosted_of_not_special hspecial
      · cases h
        exact isHosted_of_not_special hspecial

end

/-- A URL of HTTP that is read by itself has a host. -/
theorem isHosted_of_parse {text : String} {url : Url} (h : parse text = .ok url) :
    url.IsHosted := by
  unfold parse at h
  split at h
  · refine isHosted_of_readAbsolute ?_ h
    intro b hb
    cases hb
  · cases h

theorem isHosted_of_join {base url : Url} {text : String} (hbase : base.IsHosted)
    (h : base.join text = .ok url) : url.IsHosted := by
  unfold join at h
  split at h
  · refine isHosted_of_readAbsolute ?_ h
    rintro b ⟨⟩
    exact hbase
  · split at h
    · cases h
      exact hbase.of_sameSite ⟨rfl, rfl⟩
    · cases h
    · exact isHosted_of_readRelative hbase h

end Url
end HttpCall
