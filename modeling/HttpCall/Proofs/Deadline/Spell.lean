import HttpCall.Proofs.Handling.Course

/-!
# Spells of waiting

A spell is a wait in which user code may act any number of times before there is an
answer, if there is one.  The waits of a hop are spells in which it acts once.  A script
gives the spells of a call, hop by hop; a course of hops is a script of that kind, and the
loop does on it what it does on the script.
-/

namespace HttpCall

structure Spell (α : Type) where
  acts : List (Nat × List Action)
  /-- No answer stands for a spell that only the deadline can end. -/
  answer : Option α

inductive Spell.End (α : Type) where
  | answered (a : α)
  | expired
  | brokeDown (fault : Fault)
  | endless

/-- The spells of a hop: for the connection, unless it is the first, and for the answer
to the request. -/
structure Stretch where
  acquisition : Spell (Except TransportError Unit)
  exchange : Spell Reply

def Grant.answer? : Grant -> Option (Except TransportError Unit)
  | connection => some (.ok ())
  | refusal e => some (.error e)
  | silence => none

def Hop.stretch (h : Hop) : Stretch where
  acquisition := ⟨[(h.acquireDelay, h.acquireActions)], h.grant.answer?⟩
  exchange := ⟨[(h.delay, h.actions)], h.reply⟩

namespace Conditions

/-- Wait as long as a spell lasts: the worlds at which a wait began, and the world in
which it ends. -/
def attend {α : Type} (k : Conditions) (stage : Stage) (answer : Option α) :
    List (Nat × List Action) -> World -> List (World × Stage) × World × Spell.End α
  | [], w =>
      match answer, k.deadline with
      | some a, _ => ([], w, .answered a)
      | none, some d => ([(w, stage)], { w with now := max w.now d }, .expired)
      | none, none => ([], w, .endless)
  | (delay, actions) :: rest, w =>
      match Wait.of k.deadline w.now delay with
      | .expired time => ([(w, stage)], { w with now := time }, .expired)
      | .ended time =>
          match { w with now := time }.act k.caller k.reaction actions with
          | (v, some fault) => ([(w, stage)], v, .brokeDown fault)
          | (v, none) =>
              let (past, x, e) := attend k stage answer rest v
              ((w, stage) :: past, x, e)

section Attend

variable {α : Type} {k : Conditions} {stage : Stage} {answer : Option α} {delay time : Nat}
  {actions : List Action} {rest : List (Nat × List Action)} {w v : World}

theorem attend_of_expired (hwait : Wait.of k.deadline w.now delay = .expired time) :
    k.attend stage answer ((delay, actions) :: rest) w =
      ([(w, stage)], { w with now := time }, .expired) := by
  simp only [attend, hwait]

theorem attend_of_brokeDown {fault : Fault}
    (hwait : Wait.of k.deadline w.now delay = .ended time)
    (hact : { w with now := time }.act k.caller k.reaction actions = (v, some fault)) :
    k.attend stage answer ((delay, actions) :: rest) w =
      ([(w, stage)], v, .brokeDown fault) := by
  simp only [attend, hwait, hact]

theorem attend_of_acted (hwait : Wait.of k.deadline w.now delay = .ended time)
    (hact : { w with now := time }.act k.caller k.reaction actions = (v, none)) :
    k.attend stage answer ((delay, actions) :: rest) w =
      ((w, stage) :: (k.attend stage answer rest v).1, (k.attend stage answer rest v).2) := by
  simp only [attend, hwait, hact]

theorem attend_nil_of_deadline {d : Nat} (hdeadline : k.deadline = some d) :
    k.attend stage (none : Option α) [] w =
      ([(w, stage)], { w with now := max w.now d }, .expired) := by
  simp only [attend, hdeadline]

theorem attend_nil_of_no_deadline (hdeadline : k.deadline = none) :
    k.attend stage (none : Option α) [] w = ([], w, .endless) := by
  simp only [attend, hdeadline]

end Attend

def afterExchange (k : Conditions) (c : Connection) (hop : Nat) (request : Request)
    (w : World) : Spell.End Reply -> World × Stage
  | .answered reply =>
      w.onEvent k.caller k.reaction k.listeners c hop request (reply.toEvent request)
  | .expired => w.onExchangeExpired k.caller k.reaction k.listeners c hop request
  | .brokeDown fault => (w, .lost fault)
  | .endless => (w, .exchanging c hop request)

def afterAcquisition (k : Conditions) (hop : Nat) (request : Request) (w : World) :
    Spell.End (Except TransportError Unit) -> World × Stage
  | .answered (.ok ()) => w.onGranted hop request
  | .answered (.error e) =>
      (w.note (.refused request.target (some e))).onUnavailable k.caller k.reaction
        k.listeners e
  | .expired =>
      w.onUnavailable k.caller k.reaction k.listeners (World.timeoutError request)
  | .brokeDown fault => (w, .lost fault)
  | .endless => (w, .acquiring hop request)

def exchangeIn (k : Conditions) (s : Spell Reply) (c : Connection) (hop : Nat)
    (request : Request) (w : World) : Course :=
  let (past, v, e) := k.attend (.exchanging c hop request) s.answer s.acts (w.send request)
  (past, k.afterExchange c hop request v e)

def acquireIn (k : Conditions) (s : Spell (Except TransportError Unit)) (hop : Nat)
    (request : Request) (w : World) : Course :=
  let (past, v, e) :=
    k.attend (.acquiring hop request) s.answer s.acts { w with asked := w.asked + 1 }
  (past, k.afterAcquisition hop request v e)

/-- All worlds of a call on a script, from its first exchange on. -/
def runIn (k : Conditions) : List Stretch -> Connection -> Nat -> Request -> World ->
    List (World × Stage)
  | [], _, _, _, _ => []
  | s :: rest, c, hop, request, w =>
      match k.exchangeIn s.exchange c hop request w with
      | (past, w, .acquiring hop request) =>
          past ++ (w, .acquiring hop request) ::
            match rest.head? with
            | none => [k.refuse request w]
            | some next =>
                match k.acquireIn next.acquisition hop request w with
                | (past, w, .exchanging c hop request) =>
                    past ++ (w, .exchanging c hop request) :: runIn k rest c hop request w
                | (past, w, stage) => past ++ [(w, stage)]
      | (past, w, stage) => past ++ [(w, stage)]

section Run

variable {k : Conditions} {s next : Stretch} {rest : List Stretch} {c d : Connection}
  {hop hop' hop'' : Nat} {request request' request'' : Request} {w x y : World}
  {past past' : List (World × Stage)} {stage : Stage}

theorem runIn_of_end (hexchange : k.exchangeIn s.exchange c hop request w = (past, x, stage))
    (hstage : forall n r, stage ≠ .acquiring n r) :
    k.runIn (s :: rest) c hop request w = past ++ [(x, stage)] := by
  cases stage with
  | acquiring n r =>
      exact absurd rfl (hstage n r)
  | _ =>
      simp only [runIn, hexchange]

theorem runIn_of_exhausted
    (hexchange : k.exchangeIn s.exchange c hop request w =
      (past, x, .acquiring hop' request')) :
    k.runIn [s] c hop request w =
      past ++ [(x, .acquiring hop' request'), k.refuse request' x] := by
  simp only [runIn, hexchange]
  rfl

theorem runIn_of_acquired
    (hexchange : k.exchangeIn s.exchange c hop request w =
      (past, x, .acquiring hop' request'))
    (hacquire : k.acquireIn next.acquisition hop' request' x =
      (past', y, .exchanging d hop'' request'')) :
    k.runIn (s :: next :: rest) c hop request w =
      past ++ (x, .acquiring hop' request') ::
        (past' ++ (y, .exchanging d hop'' request'') ::
          k.runIn (next :: rest) d hop'' request'' y) := by
  rw [runIn, hexchange]
  simp only [List.head?_cons, hacquire]

theorem runIn_of_unacquired
    (hexchange : k.exchangeIn s.exchange c hop request w =
      (past, x, .acquiring hop' request'))
    (hacquire : k.acquireIn next.acquisition hop' request' x = (past', y, stage))
    (hstage : forall d n r, stage ≠ .exchanging d n r) :
    k.runIn (s :: next :: rest) c hop request w =
      past ++ (x, .acquiring hop' request') :: (past' ++ [(y, stage)]) := by
  rw [runIn, hexchange]
  cases stage with
  | exchanging d n r =>
      exact absurd rfl (hstage d n r)
  | _ =>
      simp only [List.head?_cons, hacquire]

end Run

/-!
## Hops as scripts
-/

section Hops

variable (k : Conditions) (h : Hop) (c : Connection) (hop : Nat) (request : Request)
  (w : World)

theorem exchangeIn_stretch :
    k.exchangeIn h.stretch.exchange c hop request w = k.exchange h c hop request w := by
  unfold exchangeIn exchange Hop.stretch
  dsimp only
  generalize w.send request = sent
  cases hwait : Wait.of k.deadline sent.now h.delay with
  | expired time =>
      rw [attend_of_expired hwait]
      rfl
  | ended time =>
      dsimp only
      rcases hact : { sent with now := time }.act k.caller k.reaction h.actions with
        ⟨v, _ | fault⟩
      · rw [attend_of_acted hwait hact, hact]
        cases h.reply with
        | some reply =>
            rfl
        | none =>
            unfold untilExpired
            cases hdeadline : k.deadline with
            | none =>
                rw [attend_nil_of_no_deadline hdeadline]
                rfl
            | some d =>
                rw [attend_nil_of_deadline hdeadline]
                rfl
      · rw [attend_of_brokeDown hwait hact, hact]
        rfl

theorem acquireIn_stretch :
    k.acquireIn h.stretch.acquisition hop request w = k.acquire h hop request w := by
  unfold acquireIn acquire Hop.stretch
  dsimp only
  cases hwait : Wait.of k.deadline w.now h.acquireDelay with
  | expired time =>
      rw [attend_of_expired (by exact hwait)]
      rfl
  | ended time =>
      dsimp only
      rcases hact : { w with asked := w.asked + 1, now := time }.act k.caller k.reaction
        h.acquireActions with ⟨v, _ | fault⟩
      · rw [attend_of_acted (by exact hwait) (by exact hact), hact]
        cases h.grant with
        | connection =>
            rfl
        | refusal e =>
            rfl
        | silence =>
            unfold untilExpired Grant.answer?
            cases hdeadline : k.deadline with
            | none =>
                rw [attend_nil_of_no_deadline hdeadline]
                rfl
            | some d =>
                rw [attend_nil_of_deadline hdeadline]
                rfl
      · rw [attend_of_brokeDown (by exact hwait) (by exact hact), hact]
        rfl

/-- A course of hops is a script in which user code acts once in each wait. -/
theorem runIn_stretches (rest : List Hop) :
    k.runIn ((h :: rest).map Hop.stretch) c hop request w = k.run rest h c hop request w := by
  induction rest generalizing h c hop request w with
  | nil =>
      rw [List.map_cons, List.map_nil]
      unfold runIn run
      rw [exchangeIn_stretch]
      rfl
  | cons next rest ih =>
      rw [List.map_cons, List.map_cons]
      unfold runIn run
      rw [exchangeIn_stretch]
      simp only [List.head?_cons, acquireIn_stretch]
      rcases k.exchange h c hop request w with ⟨past, x, _ | ⟨n, r⟩ | _ | _⟩
      · rfl
      · dsimp only
        rcases k.acquire next n r x with ⟨past', y, ⟨d, m, r'⟩ | _ | _ | _⟩
        · dsimp only
          rw [← ih next d m r' y, List.map_cons]
        · rfl
        · rfl
        · rfl
      · rfl
      · rfl

end Hops
end Conditions
end HttpCall
