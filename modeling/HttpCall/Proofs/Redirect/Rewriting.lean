import HttpCall.Proofs.Redirect.Destination

/-!
# What redirects make of a request

Whether a redirect asks for a GET depends on the method of the request that was answered,
and a redirect before may have changed that.  Along a whole chain it comes to this: up to
the first redirect that asks for a GET the method and the content stay those of the first
request, and after it there is a GET without content.  All else is passed on, but for
credentials.
-/

namespace HttpCall

theorem Status.eq_iff_code {s t : Status} : s = t <-> s.code = t.code := by
  cases s
  cases t
  simp

namespace Request

def contentHeaders : List HeaderName := [.contentType, .contentLength]

def Rewrites (r : Request) (status : Status) : Prop :=
  status.code = 303 ∧ r.method ≠ .head ∨
    (status.code = 301 ∨ status.code = 302) ∧ r.method ≠ .get ∧ r.method ≠ .head

structure IsBare (q : Request) : Prop where
  method : q.method = .get
  body : q.body = .empty
  headers : forall name, name ∈ contentHeaders -> q.headers.values name = []

/-- The second request has the method and the content of the first one. -/
structure KeepsContent (r q : Request) : Prop where
  method : q.method = r.method
  body : q.body = r.body
  headers : forall name, name ∈ contentHeaders ->
    q.headers.values name = r.headers.values name

/-- The second request has all of the first one that no redirect changes. -/
structure Keeps (r q : Request) : Prop where
  version : q.version = r.version
  followRedirects : q.followRedirects = r.followRedirects
  maxRedirects : q.maxRedirects = r.maxRedirects
  timeout : q.timeout = r.timeout
  headers : forall name, name ∉ contentHeaders -> name ∉ credentials ->
    q.headers.values name = r.headers.values name

theorem KeepsContent.refl (r : Request) : KeepsContent r r := ⟨rfl, rfl, fun _ _ => rfl⟩

theorem KeepsContent.trans {p q r : Request} (hpq : KeepsContent p q)
    (hqr : KeepsContent q r) : KeepsContent p r where
  method := hqr.method.trans hpq.method
  body := hqr.body.trans hpq.body
  headers name hname := (hqr.headers name hname).trans (hpq.headers name hname)

theorem Keeps.refl (r : Request) : Keeps r r := ⟨rfl, rfl, rfl, rfl, fun _ _ _ => rfl⟩

theorem Keeps.trans {p q r : Request} (hpq : Keeps p q) (hqr : Keeps q r) : Keeps p r where
  version := hqr.version.trans hpq.version
  followRedirects := hqr.followRedirects.trans hpq.followRedirects
  maxRedirects := hqr.maxRedirects.trans hpq.maxRedirects
  timeout := hqr.timeout.trans hpq.timeout
  headers name hcontent hcredential :=
    (hqr.headers name hcontent hcredential).trans (hpq.headers name hcontent hcredential)

/-!
## One redirect
-/

section

variable {r q : Request}

theorem turnsIntoGet_iff (r : Request) (status : Status) :
    turnsIntoGet r.method status = true <-> r.Rewrites status := by
  unfold turnsIntoGet Rewrites
  simp only [Status.eq_iff_code]
  by_cases hseeOther : status.code = 303
  · simp [Status.seeOther, hseeOther]
  · simp [Status.seeOther, Status.movedPermanently, Status.found, hseeOther]

theorem isBare_asGet (r : Request) : r.asGet.IsBare where
  method := rfl
  body := rfl
  headers := by
    intro name hname
    simp only [contentHeaders, List.mem_cons, List.not_mem_nil, or_false] at hname
    unfold asGet
    rcases hname with rfl | rfl
    · rw [Headers.values_erase_of_ne _ (by decide), Headers.values_erase_self]
    · rw [Headers.values_erase_self]

theorem keeps_asGet (r : Request) : Keeps r r.asGet where
  version := rfl
  followRedirects := rfl
  maxRedirects := rfl
  timeout := rfl
  headers := by
    intro name hcontent _
    simp only [contentHeaders, List.mem_cons, List.not_mem_nil, or_false, not_or] at hcontent
    unfold asGet
    rw [Headers.values_erase_of_ne _ hcontent.right, Headers.values_erase_of_ne _ hcontent.left]

theorem values_withoutCredentials_of_not_mem (r : Request) {name : HeaderName}
    (hname : name ∉ credentials) :
    r.withoutCredentials.headers.values name = r.headers.values name := by
  simp only [credentials, List.mem_cons, List.not_mem_nil, or_false, not_or] at hname
  unfold withoutCredentials
  rw [Headers.values_erase_of_ne _ hname.right.right,
    Headers.values_erase_of_ne _ hname.right.left, Headers.values_erase_of_ne _ hname.left]

theorem keepsContent_relocate (r : Request) (location : Url) :
    KeepsContent r (r.relocate location) := by
  have hcontent : forall name, name ∈ contentHeaders -> name ∉ credentials := by
    decide
  unfold relocate
  dsimp only
  split
  · exact ⟨rfl, rfl, fun _ _ => rfl⟩
  · exact ⟨rfl, rfl, fun name hname =>
      r.values_withoutCredentials_of_not_mem (hcontent name hname)⟩

theorem keeps_relocate (r : Request) (location : Url) : Keeps r (r.relocate location) := by
  unfold relocate
  dsimp only
  split
  · exact ⟨rfl, rfl, rfl, rfl, fun _ _ _ => rfl⟩
  · exact ⟨rfl, rfl, rfl, rfl, fun _ _ hcredential =>
      r.values_withoutCredentials_of_not_mem hcredential⟩

theorem IsBare.of_keepsContent (hr : r.IsBare) (h : KeepsContent r q) : q.IsBare where
  method := h.method.trans hr.method
  body := h.body.trans hr.body
  headers name hname := (h.headers name hname).trans (hr.headers name hname)

theorem isBare_redirected (location : Url) {status : Status} (h : r.Rewrites status) :
    (r.redirected location status).IsBare := by
  unfold redirected
  rw [if_pos ((turnsIntoGet_iff r status).mpr h)]
  exact r.isBare_asGet.of_keepsContent (keepsContent_relocate r.asGet location)

theorem keepsContent_redirected (location : Url) {status : Status} (h : ¬ r.Rewrites status) :
    KeepsContent r (r.redirected location status) := by
  unfold redirected
  rw [if_neg (fun hturns => h ((turnsIntoGet_iff r status).mp hturns))]
  exact keepsContent_relocate r location

theorem keeps_redirected (r : Request) (location : Url) (status : Status) :
    Keeps r (r.redirected location status) := by
  unfold redirected
  split
  · exact (keeps_asGet r).trans (keeps_relocate r.asGet location)
  · exact keeps_relocate r location

theorem IsBare.redirected (hr : r.IsBare) (location : Url) (status : Status) :
    (r.redirected location status).IsBare := by
  by_cases hrewrites : r.Rewrites status
  · exact isBare_redirected location hrewrites
  · exact hr.of_keepsContent (keepsContent_redirected location hrewrites)

theorem not_rewrites_of_head (h : r.method = .head) (status : Status) :
    ¬ r.Rewrites status := by
  rintro (⟨_, hnot⟩ | ⟨_, _, hnot⟩) <;> exact hnot h

theorem body_redirected_of_empty (h : r.body = .empty) (location : Url) (status : Status) :
    (r.redirected location status).body = .empty := by
  by_cases hrewrites : r.Rewrites status
  · exact (isBare_redirected location hrewrites).body
  · exact (keepsContent_redirected location hrewrites).body.trans h

end

/-!
## Whole chains
-/

/-- Some redirect of the trail asks for a GET, given what the ones before it made of the
request. -/
def RewrittenOn (r : Request) (trail : List (Url × Status)) : Prop :=
  exists earlier redirect later, trail = earlier ++ redirect :: later ∧
    (r.followed earlier).Rewrites redirect.2

theorem rewrittenOn_concat (r : Request) (trail : List (Url × Status))
    (redirect : Url × Status) :
    r.RewrittenOn (trail ++ [redirect]) <->
      r.RewrittenOn trail ∨ (r.followed trail).Rewrites redirect.2 := by
  constructor
  · rintro ⟨earlier, asking, later, htrail, hrewrites⟩
    rcases List.eq_nil_or_concat later with rfl | ⟨between, last, rfl⟩
    · rcases List.append_inj' htrail rfl with ⟨rfl, hsame⟩
      cases hsame
      exact Or.inr hrewrites
    · rw [List.concat_eq_append, ← List.cons_append, ← List.append_assoc] at htrail
      rcases List.append_inj' htrail rfl with ⟨rfl, _⟩
      exact Or.inl ⟨earlier, asking, between, rfl, hrewrites⟩
  · rintro (⟨earlier, asking, later, rfl, hrewrites⟩ | hrewrites)
    · exact ⟨earlier, asking, later ++ [redirect], by simp, hrewrites⟩
    · exact ⟨trail, redirect, [], rfl, hrewrites⟩

/-- Until a redirect asks for a GET the content is kept, and from then on there is none. -/
theorem content_followed (r : Request) (trail : List (Url × Status)) :
    (r.RewrittenOn trail -> (r.followed trail).IsBare) ∧
      (¬ r.RewrittenOn trail -> KeepsContent r (r.followed trail)) := by
  induction trail using List.reverseRecOn with
  | nil =>
      refine ⟨?_, fun _ => KeepsContent.refl r⟩
      rintro ⟨earlier, redirect, later, htrail, _⟩
      simp at htrail
  | append_singleton trail redirect ih =>
      rw [rewrittenOn_concat, followed_concat]
      constructor
      · rintro (hbefore | hnow)
        · exact (ih.left hbefore).redirected redirect.1 redirect.2
        · exact isBare_redirected redirect.1 hnow
      · intro hnot
        rw [not_or] at hnot
        exact (ih.right hnot.left).trans (keepsContent_redirected redirect.1 hnot.right)

theorem keeps_followed (r : Request) (trail : List (Url × Status)) :
    Keeps r (r.followed trail) := by
  induction trail using List.reverseRecOn with
  | nil =>
      exact Keeps.refl r
  | append_singleton trail redirect ih =>
      rw [followed_concat]
      exact ih.trans (keeps_redirected _ redirect.1 redirect.2)

theorem head_followed {r : Request} (h : r.method = .head) (trail : List (Url × Status)) :
    (r.followed trail).method = .head := by
  induction trail using List.reverseRecOn with
  | nil =>
      exact h
  | append_singleton trail redirect ih =>
      rw [followed_concat]
      exact (keepsContent_redirected redirect.1
        (not_rewrites_of_head ih redirect.2)).method.trans ih

theorem body_followed_of_empty {r : Request} (h : r.body = .empty)
    (trail : List (Url × Status)) : (r.followed trail).body = .empty := by
  induction trail using List.reverseRecOn with
  | nil =>
      exact h
  | append_singleton trail redirect ih =>
      rw [followed_concat]
      exact body_redirected_of_empty ih redirect.1 redirect.2

theorem url_followed (r : Request) (trail : List (Url × Status)) :
    (r.followed trail).url = (trail.getLast?.map Prod.fst).getD r.url := by
  induction trail using List.reverseRecOn with
  | nil =>
      rfl
  | append_singleton trail redirect _ =>
      rw [followed_concat, url_redirected, List.getLast?_concat]
      rfl

theorem followed_append (r : Request) (earlier later : List (Url × Status)) :
    r.followed (earlier ++ later) = (r.followed earlier).followed later :=
  List.foldl_append

/-- At the end of every chain of redirects, whatever their locations and statuses are: if
one of them asked for a GET, the request is a GET without content, and otherwise it has the
method and the content of the first one.  A HEAD is a HEAD to the end, a body that is gone
on some hop is gone on all hops after it, and all but the content and the credentials is
passed on unchanged, to the last location. -/
theorem rewritten_along_chain (r : Request) (trail : List (Url × Status)) :
    (r.RewrittenOn trail -> (r.followed trail).IsBare) ∧
      (¬ r.RewrittenOn trail -> KeepsContent r (r.followed trail)) ∧
      (r.method = .head -> (r.followed trail).method = .head) ∧
      (forall earlier later, trail = earlier ++ later ->
        (r.followed earlier).body = .empty -> (r.followed trail).body = .empty) ∧
      Keeps r (r.followed trail) ∧
      (r.followed trail).url = (trail.getLast?.map Prod.fst).getD r.url := by
  rcases content_followed r trail with ⟨hbare, hkept⟩
  refine ⟨hbare, hkept, fun hhead => head_followed hhead trail, ?_, keeps_followed r trail,
    url_followed r trail⟩
  rintro earlier later rfl hempty
  rw [followed_append]
  exact body_followed_of_empty hempty later

end Request
end HttpCall
