import HttpCall.Call.HopLoop
import HttpCall.Clock

/-!
# Calls in time

A course says, hop by hop, what the pool and the connection answer and after how
long.  Running a call on a course gives the worlds after each block of work; time
passes only in the waits between them.
-/

namespace HttpCall

inductive Grant where
  | connection
  | refusal (e : TransportError)
  | silence
deriving DecidableEq, Repr

/-- The pool's part and the connection's part of a hop. -/
structure Hop where
  acquireDelay : Nat
  acquireActions : List Action
  grant : Grant
  delay : Nat
  actions : List Action
  /-- No reply stands for a connection that never answers. -/
  reply : Option Reply
deriving DecidableEq, Repr

def exhaustedError : TransportError := ⟨.exhausted, "script exhausted"⟩

inductive Wait where
  | ended (time : Nat)
  | expired (time : Nat)
deriving DecidableEq, Repr

/-- Wait for some milliseconds.  No time at all is no wait, and a deadline on the
last millisecond of a wait comes too late. -/
def Wait.of (deadline : Option Nat) (now delay : Nat) : Wait :=
  if delay = 0 then ended now
  else
    match deadline with
    | none => ended (now + delay)
    | some d => if now + delay <= d then ended (now + delay) else expired (max now d)

structure Conditions where
  caller : Caller
  reaction : Reaction
  listeners : Listeners
  /-- The millisecond at which the time is up. -/
  deadline : Option Nat

namespace Conditions

/-- The worlds after some blocks of work, the last one apart, each with what is
waited for then. -/
abbrev Course := List (World × Stage) × World × Stage

/-- A wait that only the deadline can end. -/
def untilExpired (k : Conditions) (past : List (World × Stage)) (stage : Stage) (w : World)
    (onExpired : World -> World × Stage) : Course :=
  match k.deadline with
  | none => (past, w, stage)
  | some d => (past ++ [(w, stage)], onExpired { w with now := max w.now d })

def exchange (k : Conditions) (h : Hop) (c : Connection) (hop : Nat) (request : Request)
    (w : World) : Course :=
  let stage := .exchanging c hop request
  let sent := w.send request
  let expire := World.onExchangeExpired k.caller k.reaction k.listeners c hop request
  match Wait.of k.deadline sent.now h.delay with
  | .expired time => ([(sent, stage)], expire { sent with now := time })
  | .ended time =>
      match { sent with now := time }.act k.caller k.reaction h.actions with
      | (w, some fault) => ([(sent, stage)], w, .lost fault)
      | (w, none) =>
          match h.reply with
          | some reply =>
              ([(sent, stage)], w.onEvent k.caller k.reaction k.listeners c hop request
                (reply.toEvent request))
          | none => k.untilExpired [(sent, stage)] stage w expire

def acquire (k : Conditions) (h : Hop) (hop : Nat) (request : Request) (w : World) : Course :=
  let stage := .acquiring hop request
  let asked := { w with asked := w.asked + 1 }
  let unavailable := World.onUnavailable k.caller k.reaction k.listeners
  let expire := unavailable (World.timeoutError request)
  match Wait.of k.deadline asked.now h.acquireDelay with
  | .expired time => ([(asked, stage)], expire { asked with now := time })
  | .ended time =>
      match { asked with now := time }.act k.caller k.reaction h.acquireActions with
      | (w, some fault) => ([(asked, stage)], w, .lost fault)
      | (w, none) =>
          match h.grant with
          | .connection => ([(asked, stage)], w.onGranted hop request)
          | .refusal e =>
              ([(asked, stage)], unavailable e (w.note (.refused request.target (some e))))
          | .silence => k.untilExpired [(asked, stage)] stage w expire

def refuse (k : Conditions) (request : Request) (w : World) : World × Stage :=
  World.onUnavailable k.caller k.reaction k.listeners exhaustedError
    (w.note (.refused request.target none))

/-- All worlds of a call from an exchange on, given the hops after it, each with
what is waited for then. -/
def run (k : Conditions) : List Hop -> Hop -> Connection -> Nat -> Request -> World ->
    List (World × Stage)
  | rest, h, c, hop, request, w =>
      match k.exchange h c hop request w with
      | (past, w, .acquiring hop request) =>
          past ++ (w, .acquiring hop request) ::
            match rest with
            | [] => [k.refuse request w]
            | next :: rest =>
                match k.acquire next hop request w with
                | (past, w, .exchanging c hop request) =>
                    past ++ (w, .exchanging c hop request) :: run k rest next c hop request w
                | (past, w, stage) => past ++ [(w, stage)]
      | (past, w, stage) => past ++ [(w, stage)]

section Run

variable {k : Conditions} {rest : List Hop} {h next : Hop} {c d : Connection}
  {hop hop' hop'' : Nat} {request request' request'' : Request} {w x y : World}
  {past past' : List (World × Stage)} {stage : Stage}

theorem run_of_end (hexchange : k.exchange h c hop request w = (past, x, stage))
    (hstage : forall n r, stage ≠ .acquiring n r) :
    k.run rest h c hop request w = past ++ [(x, stage)] := by
  cases stage with
  | acquiring n r =>
      exact absurd rfl (hstage n r)
  | _ =>
      cases rest <;> simp only [run, hexchange]

theorem run_of_exhausted
    (hexchange : k.exchange h c hop request w = (past, x, .acquiring hop' request')) :
    k.run [] h c hop request w = past ++ [(x, .acquiring hop' request'), k.refuse request' x] := by
  simp only [run, hexchange]

theorem run_of_acquired
    (hexchange : k.exchange h c hop request w = (past, x, .acquiring hop' request'))
    (hacquire : k.acquire next hop' request' x = (past', y, .exchanging d hop'' request'')) :
    k.run (next :: rest) h c hop request w =
      past ++ (x, .acquiring hop' request') ::
        (past' ++ (y, .exchanging d hop'' request'') ::
          k.run rest next d hop'' request'' y) := by
  rw [run, hexchange]
  dsimp only
  rw [hacquire]

theorem run_of_unacquired
    (hexchange : k.exchange h c hop request w = (past, x, .acquiring hop' request'))
    (hacquire : k.acquire next hop' request' x = (past', y, stage))
    (hstage : forall d n r, stage ≠ .exchanging d n r) :
    k.run (next :: rest) h c hop request w =
      past ++ (x, .acquiring hop' request') :: (past' ++ [(y, stage)]) := by
  rw [run, hexchange]
  dsimp only
  rw [hacquire]
  cases stage with
  | exchanging d n r =>
      exact absurd rfl (hstage d n r)
  | _ =>
      rfl

end Run
end Conditions
end HttpCall
