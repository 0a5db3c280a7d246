import HttpCall.Redirect.NextHop
import HttpCall.Request.Draft

/-!
# Chains of requests

Each redirect that is followed makes the next request from the one before.  Credentials
are compared with the host of the hop before alone, and a request whose URL has no target
keeps the target of the one before; still, what becomes of credentials can be told from
the first host: they are carried on as long as all URLs name it, and no longer.
-/

namespace HttpCall

theorem Target.ofUrl?_host {url : Url} {host : String} :
    (ofUrl? url).map Target.host = some host <->
      url.hostText? = some host ∧ url.effectivePort?.isSome = true := by
  unfold ofUrl?
  cases url.hostText? <;> cases url.effectivePort? <;> simp

theorem Draft.target_of_build {d : Draft} {r : Request} (h : d.build = .ok r) :
    Target.ofUrl? r.url = some r.target := by
  unfold build at h
  split at h
  · cases h
  · split at h
    · cases h
    · rename_i target htarget
      cases h
      exact htarget

namespace Request

def credentials : List HeaderName := [.authorization, .proxyAuthorization, .cookie]

/-- The request at the end of a trail, given where each redirect led and the status that
said so. -/
def followed (r : Request) (trail : List (Url × Status)) : Request :=
  trail.foldl (fun q hop => q.redirected hop.1 hop.2) r

/-- All requests on a trail, the first one included. -/
def chain (r : Request) : List (Url × Status) -> List Request
  | [] => [r]
  | hop :: rest => r :: chain (r.redirected hop.1 hop.2) rest

theorem chain_concat (r : Request) (trail : List (Url × Status)) (hop : Url × Status) :
    r.chain (trail ++ [hop]) = r.chain trail ++ [r.followed (trail ++ [hop])] := by
  induction trail generalizing r with
  | nil =>
      rfl
  | cons first rest ih =>
      exact congrArg (List.cons r) (ih (r.redirected first.1 first.2))

theorem followed_concat (r : Request) (trail : List (Url × Status)) (hop : Url × Status) :
    r.followed (trail ++ [hop]) = (r.followed trail).redirected hop.1 hop.2 := by
  simp [followed]

theorem chain_eq_cons (r : Request) (trail : List (Url × Status)) :
    r.chain trail = r :: (r.chain trail).drop 1 := by
  cases trail <;> rfl

/-!
## One redirect
-/

section

variable {name : HeaderName}

theorem values_asGet (r : Request) (hname : name ∈ credentials) :
    r.asGet.headers.values name = r.headers.values name := by
  have hne : name ≠ .contentType ∧ name ≠ .contentLength := by
    simp only [credentials, List.mem_cons, List.not_mem_nil, or_false] at hname
    rcases hname with rfl | rfl | rfl <;> decide
  unfold asGet
  rw [Headers.values_erase_of_ne _ hne.right, Headers.values_erase_of_ne _ hne.left]

theorem values_withoutCredentials (r : Request) (hname : name ∈ credentials) :
    r.withoutCredentials.headers.values name = [] := by
  simp only [credentials, List.mem_cons, List.not_mem_nil, or_false] at hname
  unfold withoutCredentials
  rcases hname with rfl | rfl | rfl
  · rw [Headers.values_erase_of_ne _ (by decide), Headers.values_erase_of_ne _ (by decide),
      Headers.values_erase_self]
  · rw [Headers.values_erase_of_ne _ (by decide), Headers.values_erase_self]
  · rw [Headers.values_erase_self]

theorem values_redirected (r : Request) (location : Url) (status : Status)
    (hname : name ∈ credentials) :
    (r.redirected location status).headers.values name =
      if (Target.ofUrl? location).map Target.host = some r.target.host then
        r.headers.values name
      else [] := by
  have hrelocate : forall q : Request, (q.relocate location).headers.values name =
      if (Target.ofUrl? location).map Target.host = some q.target.host then
        q.headers.values name
      else [] := by
    intro q
    unfold relocate
    dsimp only
    split
    · rfl
    · exact values_withoutCredentials q hname
  unfold redirected
  rw [hrelocate]
  split
  · rw [values_asGet r hname]
    rfl
  · rfl

theorem target_redirected (r : Request) (location : Url) (status : Status) :
    (r.redirected location status).target = (Target.ofUrl? location).getD r.target := by
  unfold redirected relocate
  dsimp only
  split <;> rfl

end

/-!
## Whole chains
-/

/-- The request goes to a URL that names the host, on a port that is known. -/
def IsOn (host : String) (q : Request) : Prop :=
  q.url.hostText? = some host ∧ q.url.effectivePort?.isSome = true

section

variable {r q : Request} {name : HeaderName}

theorem values_of_mem_chain (hname : name ∈ credentials) (hr : r.headers.values name = [])
    (trail : List (Url × Status)) (hq : q ∈ r.chain trail) : q.headers.values name = [] := by
  induction trail generalizing r with
  | nil =>
      cases List.mem_singleton.mp hq
      exact hr
  | cons hop rest ih =>
      rcases List.mem_cons.mp hq with rfl | hq
      · exact hr
      · refine ih ?_ hq
        rw [values_redirected r hop.1 hop.2 hname, hr, ite_self]

/-- A request of a chain has the credentials of the first one, if all requests until then
went to the first host, and none otherwise. -/
theorem values_of_chain (hname : name ∈ credentials) {host : String}
    (hhost : r.target.host = host) (trail : List (Url × Status)) {k : Nat}
    (hk : (r.chain trail)[k]? = some q) :
    ((forall x, x ∈ ((r.chain trail).drop 1).take k -> x.IsOn host) ∧
        q.headers.values name = r.headers.values name ∧ q.target.host = host) ∨
      ((exists x, x ∈ ((r.chain trail).drop 1).take k ∧ ¬ x.IsOn host) ∧
        q.headers.values name = []) := by
  induction trail generalizing r k with
  | nil =>
      cases k with
      | zero =>
          cases hk
          exact Or.inl ⟨fun _ hx => (nomatch hx), rfl, hhost⟩
      | succ k =>
          cases hk
  | cons hop rest ih =>
      cases k with
      | zero =>
          cases hk
          exact Or.inl ⟨fun _ hx => (nomatch hx), rfl, hhost⟩
      | succ k =>
          have htake : ((r.chain (hop :: rest)).drop 1).take (k + 1) =
              r.redirected hop.1 hop.2 ::
                (((r.redirected hop.1 hop.2).chain rest).drop 1).take k :=
            congrArg (List.take (k + 1)) (chain_eq_cons (r.redirected hop.1 hop.2) rest)
          have hvalues := values_redirected r hop.1 hop.2 hname
          rw [htake]
          by_cases hstays : (Target.ofUrl? hop.1).map Target.host = some r.target.host
          · rw [if_pos hstays] at hvalues
            rcases Option.map_eq_some_iff.mp hstays with ⟨target, htarget, hsame⟩
            have hnext : (r.redirected hop.1 hop.2).target.host = host := by
              rw [target_redirected, htarget]
              exact hsame.trans hhost
            have hon : (r.redirected hop.1 hop.2).IsOn host :=
              Target.ofUrl?_host.mp (hstays.trans (congrArg some hhost))
            rw [← hvalues]
            rcases ih hnext hk with ⟨hall, hkept⟩ | ⟨⟨x, hx, hoff⟩, hgone⟩
            · exact Or.inl ⟨List.forall_mem_cons.mpr ⟨hon, hall⟩, hkept⟩
            · exact Or.inr ⟨⟨x, List.mem_cons_of_mem _ hx, hoff⟩, hgone⟩
          · rw [if_neg hstays] at hvalues
            have hoff : ¬ (r.redirected hop.1 hop.2).IsOn host := by
              intro hon
              rw [← hhost] at hon
              exact hstays (Target.ofUrl?_host.mpr hon)
            exact Or.inr ⟨⟨_, List.mem_cons_self, hoff⟩,
              values_of_mem_chain hname hvalues rest (List.mem_of_getElem? hk)⟩

end

end Request
end HttpCall
