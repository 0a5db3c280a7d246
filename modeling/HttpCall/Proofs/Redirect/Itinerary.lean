import HttpCall.Call.Timeline

/-!
# Itineraries

The rules for redirects, read as plain recursion on the hops that are to come: which
requests are sent, how many redirects are followed, how long it takes and how it ends.
There is no world here, no listener and no connection; time is a sum of delays.
-/

namespace HttpCall

/-- What an event that answers a request comes to. -/
inductive Verdict where
  | settle (o : Outcome)
  | follow (location : Url) (status : Status)
  | lost (fault : Fault)

def verdict (policy : Policy) (request : Request) (count : Nat) : Event -> Verdict
  | .closed => .settle (.error .connectionClosed)
  | .error e => .settle (.error (.transport e.message))
  | .response response =>
      match policy.consult response request count with
      | .error fault => .lost fault
      | .ok none => .settle (.ok response)
      | .ok (some location) => .follow location response.status

theorem follows_or_stops (policy : Policy) (h : Hop) (count : Nat) (request : Request) :
    (exists reply location status, h.reply = some reply ∧
      verdict policy request count (reply.toEvent request) = .follow location status) ∨
    forall reply location status, h.reply = some reply ->
      verdict policy request count (reply.toEvent request) ≠ .follow location status := by
  cases hreply : h.reply with
  | none =>
      exact Or.inr (fun _ _ _ hnone => nomatch hnone)
  | some reply =>
      cases hverdict : verdict policy request count (reply.toEvent request) with
      | follow location status =>
          exact Or.inl ⟨reply, location, status, rfl, hverdict⟩
      | settle o =>
          right
          rintro _ location status ⟨⟩ hfollow
          rw [hverdict] at hfollow
          cases hfollow
      | lost fault =>
          right
          rintro _ location status ⟨⟩ hfollow
          rw [hverdict] at hfollow
          cases hfollow

inductive Arrival where
  | settled (o : Outcome)
  | waiting
  | lost (fault : Fault)

structure Itinerary where
  requests : List Request
  followed : Nat
  millis : Nat
  arrival : Arrival

namespace Itinerary

def precede (request : Request) (millis : Nat) (i : Itinerary) : Itinerary :=
  ⟨request :: i.requests, i.followed + 1, millis + i.millis, i.arrival⟩

/-- The itinerary of a request that is sent on its connection, after a number of
redirects; the hops after the present one are given first. -/
def ofHops (policy : Policy) : List Hop -> Hop -> Nat -> Request -> Itinerary
  | rest, h, count, request =>
      match h.reply with
      | none => ⟨[request], 0, h.delay, .waiting⟩
      | some reply =>
          match verdict policy request count (reply.toEvent request) with
          | .lost fault => ⟨[request], 0, h.delay, .lost fault⟩
          | .settle o => ⟨[request], 0, h.delay, .settled o⟩
          | .follow location status =>
              match rest with
              | [] =>
                  ⟨[request], 1, h.delay,
                    .settled (.error (.transport exhaustedError.message))⟩
              | next :: rest =>
                  let millis := h.delay + next.acquireDelay
                  match next.grant with
                  | .refusal e =>
                      ⟨[request], 1, millis, .settled (.error (.transport e.message))⟩
                  | .silence => ⟨[request], 1, millis, .waiting⟩
                  | .connection =>
                      precede request millis
                        (ofHops policy rest next (count + 1)
                          (request.redirected location status))

/-- The time is not up on the way: there is no deadline, or the end comes no later.  A
deadline that cannot be represented is none that can be kept. -/
def InTime (i : Itinerary) (start : Nat) (deadline : Option (Option Nat)) : Prop :=
  exists limit, deadline = some limit ∧
    forall d, limit = some d -> i.arrival ≠ .waiting ∧ start + i.millis <= d

section

variable {policy : Policy}

section

variable {rest : List Hop} {h next : Hop} {count : Nat} {request : Request} {reply : Reply}
  {location : Url} {status : Status}

theorem ofHops_of_silence (hreply : h.reply = none) :
    ofHops policy rest h count request = ⟨[request], 0, h.delay, .waiting⟩ := by
  cases rest <;> simp only [ofHops, hreply]

theorem ofHops_of_settle {o : Outcome} (hreply : h.reply = some reply)
    (hverdict : verdict policy request count (reply.toEvent request) = .settle o) :
    ofHops policy rest h count request = ⟨[request], 0, h.delay, .settled o⟩ := by
  cases rest <;> simp only [ofHops, hreply, hverdict]

theorem ofHops_of_lost {fault : Fault} (hreply : h.reply = some reply)
    (hverdict : verdict policy request count (reply.toEvent request) = .lost fault) :
    ofHops policy rest h count request = ⟨[request], 0, h.delay, .lost fault⟩ := by
  cases rest <;> simp only [ofHops, hreply, hverdict]

theorem ofHops_of_exhausted (hreply : h.reply = some reply)
    (hverdict : verdict policy request count (reply.toEvent request) =
      .follow location status) :
    ofHops policy [] h count request =
      ⟨[request], 1, h.delay, .settled (.error (.transport exhaustedError.message))⟩ := by
  simp only [ofHops, hreply, hverdict]

theorem ofHops_of_follow (hreply : h.reply = some reply)
    (hverdict : verdict policy request count (reply.toEvent request) =
      .follow location status) :
    ofHops policy (next :: rest) h count request =
      match next.grant with
      | .refusal e =>
          ⟨[request], 1, h.delay + next.acquireDelay,
            .settled (.error (.transport e.message))⟩
      | .silence => ⟨[request], 1, h.delay + next.acquireDelay, .waiting⟩
      | .connection =>
          precede request (h.delay + next.acquireDelay)
            (ofHops policy rest next (count + 1) (request.redirected location status)) := by
  rw [ofHops]
  simp only [hreply, hverdict]

end

theorem begins_ofHops (policy : Policy) (rest : List Hop) (h : Hop) (count : Nat)
    (request : Request) :
    (exists others, (ofHops policy rest h count request).requests = request :: others) ∧
      h.delay <= (ofHops policy rest h count request).millis := by
  cases hreply : h.reply with
  | none =>
      rw [ofHops_of_silence hreply]
      exact ⟨⟨[], rfl⟩, Nat.le_refl _⟩
  | some reply =>
      cases hverdict : verdict policy request count (reply.toEvent request) with
      | settle o =>
          rw [ofHops_of_settle hreply hverdict]
          exact ⟨⟨[], rfl⟩, Nat.le_refl _⟩
      | lost fault =>
          rw [ofHops_of_lost hreply hverdict]
          exact ⟨⟨[], rfl⟩, Nat.le_refl _⟩
      | follow location status =>
          cases rest with
          | nil =>
              rw [ofHops_of_exhausted hreply hverdict]
              exact ⟨⟨[], rfl⟩, Nat.le_refl _⟩
          | cons next rest =>
              rw [ofHops_of_follow hreply hverdict]
              cases next.grant with
              | connection =>
                  refine ⟨⟨_, rfl⟩, ?_⟩
                  exact Nat.le_trans (Nat.le_add_right _ _) (Nat.le_add_right _ _)
              | refusal e =>
                  exact ⟨⟨[], rfl⟩, Nat.le_add_right _ _⟩
              | silence =>
                  exact ⟨⟨[], rfl⟩, Nat.le_add_right _ _⟩

theorem ofHops_of_further {rest : List Hop} {h : Hop} {count n : Nat} {request sent : Request}
    (hsent : (ofHops policy rest h count request).requests[n + 1]? = some sent) :
    exists next others location status,
      rest = next :: others ∧
        ofHops policy rest h count request =
          precede request (h.delay + next.acquireDelay)
            (ofHops policy others next (count + 1)
              (request.redirected location status)) := by
  cases hreply : h.reply with
  | none =>
      rw [ofHops_of_silence hreply] at hsent
      cases hsent
  | some reply =>
      cases hverdict : verdict policy request count (reply.toEvent request) with
      | settle o =>
          rw [ofHops_of_settle hreply hverdict] at hsent
          cases hsent
      | lost fault =>
          rw [ofHops_of_lost hreply hverdict] at hsent
          cases hsent
      | follow location status =>
          cases rest with
          | nil =>
              rw [ofHops_of_exhausted hreply hverdict] at hsent
              cases hsent
          | cons next others =>
              rw [ofHops_of_follow hreply hverdict] at hsent ⊢
              cases hgrant : next.grant with
              | connection =>
                  exact ⟨next, others, location, status, rfl, rfl⟩
              | refusal e =>
                  rw [hgrant] at hsent
                  cases hsent
              | silence =>
                  rw [hgrant] at hsent
                  cases hsent

theorem verdict_of_limit (policy : Policy) {request : Request} {count : Nat}
    (response : Response)
    (hlimit : request.followRedirects = false ∨ request.maxRedirects <= count) :
    verdict policy request count (.response response) = .settle (.ok response) := by
  have hconsult : policy.consult response request count = .ok none := by
    rcases hlimit with hfollow | hmax
    · simp [Policy.consult, hfollow]
    · simp [Policy.consult, hmax]
  simp only [verdict, hconsult]

/-- However the policy decides, a response on the hop of the limit is final. -/
theorem settled_at_limit (n : Nat) (rest : List Hop) (h : Hop) (count : Nat)
    (request : Request) {hop : Hop} {sent : Request} {reply : Reply} {response : Response}
    (hhop : (h :: rest)[n]? = some hop)
    (hsent : (ofHops policy rest h count request).requests[n]? = some sent)
    (hreply : hop.reply = some reply) (hevent : reply.toEvent sent = .response response)
    (hlimit : request.followRedirects = false ∨ request.maxRedirects <= count + n) :
    (ofHops policy rest h count request).arrival = .settled (.ok response) ∧
      (ofHops policy rest h count request).followed = n ∧
      (ofHops policy rest h count request).requests.length = n + 1 := by
  induction n generalizing rest h count request with
  | zero =>
      rcases (begins_ofHops policy rest h count request).left with ⟨others, hothers⟩
      rw [hothers] at hsent
      cases hhop
      cases hsent
      rw [Nat.add_zero] at hlimit
      have hverdict := verdict_of_limit policy response hlimit
      rw [← hevent] at hverdict
      rw [ofHops_of_settle hreply hverdict]
      exact ⟨rfl, rfl, rfl⟩
  | succ n ih =>
      rcases ofHops_of_further hsent with ⟨next, others, location, status, rfl, hofHops⟩
      rw [hofHops] at hsent ⊢
      have hlimit' : (request.redirected location status).followRedirects = false ∨
          (request.redirected location status).maxRedirects <= count + 1 + n := by
        rw [Request.followRedirects_redirected, Request.maxRedirects_redirected,
          Nat.add_assoc, Nat.add_comm 1 n]
        exact hlimit
      rcases ih others next (count + 1) (request.redirected location status) hhop hsent
        hlimit' with ⟨harrival, hfollowed, hlength⟩
      refine ⟨harrival, congrArg (· + 1) hfollowed, ?_⟩
      exact congrArg (· + 1) hlength

end

end Itinerary
end HttpCall
