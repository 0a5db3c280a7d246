import HttpCall.Pool.Basic

/-!
# Using a pool

One user takes connections from a pool under names, waits, and gives them back;
others give connections back for him at appointed times.
-/

namespace HttpCall
namespace Pool

inductive Act where
  /-- Acquire a connection under a name; a held one may be given back by somebody
  else some milliseconds after the wait begins. -/
  | acquire (target : Target) (name : String) (givingBack : Option String) (afterMillis : Nat)
  | release (name : String)
  | drop (name : String)
  | sleep (millis : Nat)

inductive Answer where
  | acquired (target : Target) (waited : Nat)
  | refused (e : TransportError) (waited : Nat)
  | released (wasHeld : Bool)
  | dropped (wasHeld : Bool)
  | slept (now : Nat)

structure Appointment where
  time : Nat
  ticket : Nat
deriving DecidableEq, Repr

structure Usage where
  pool : Pool
  held : List (String × Nat)
  appointments : List Appointment
  nextTicket : Nat
  /-- What the clock showed when the pool was made, in nanoseconds. -/
  clockStart : Nat

namespace Usage

def ofPool (pool : Pool) (clockStart : Nat) : Usage := ⟨pool, [], [], 1, clockStart⟩

def ticket? (u : Usage) (name : String) : Option Nat :=
  (u.held.find? fun entry => entry.1 = name).map Prod.snd

def forget (u : Usage) (name : String) : Usage :=
  { u with held := u.held.filter fun entry => entry.1 ≠ name }

def happen (u : Usage) (h : Happening) : Usage :=
  { u with pool := u.pool.step u.clockStart h }

def giveBack (u : Usage) (name : String) : Usage :=
  match u.ticket? name with
  | some ticket => (u.forget name).happen (.giveBack ticket)
  | none => u

def keep (u : Usage) (name : String) (ticket : Nat) : Usage :=
  let u := u.giveBack name
  { u with held := (name, ticket) :: u.held }

/-- Put an appointment after those that are not later. -/
def insertByTime (a : Appointment) : List Appointment -> List Appointment
  | [] => [a]
  | b :: rest => if b.time <= a.time then b :: insertByTime a rest else a :: b :: rest

def appoint (u : Usage) (name : String) (afterMillis : Nat) : Usage :=
  match u.ticket? name with
  | none => u
  | some ticket =>
      let u := u.forget name
      { u with
        appointments := insertByTime ⟨u.pool.now + afterMillis, ticket⟩ u.appointments }

/-- Keep the appointments before a time, up to one after which a test holds; one
that is overdue is kept at once. -/
def pass (stop : Pool -> Bool) (time : Nat) : List Appointment -> Usage -> Usage
  | [], u => { u with appointments := [] }
  | a :: rest, u =>
      if stop u.pool || time <= max a.time u.pool.now then { u with appointments := a :: rest }
      else
        pass stop time rest
          ((u.happen (.advance (max a.time u.pool.now))).happen (.giveBack a.ticket))

def act (u : Usage) : Act -> Usage × Answer
  | .acquire target name givingBack afterMillis =>
      let start := u.pool.now
      let u := match givingBack with
        | some other => u.appoint other afterMillis
        | none => u
      let ticket := u.nextTicket
      let expiry := u.pool.expiry u.clockStart
      let u := { u.happen (.ask ticket) with nextTicket := ticket + 1 }
      let u := pass (fun p => p.holds ticket) expiry u.appointments u
      if u.pool.holds ticket then (u.keep name ticket, .acquired target (u.pool.now - start))
      else
        let u := u.happen (.advance expiry)
        (u, .refused (u.pool.exhaustedError target) (u.pool.now - start))
  | .release name => (u.giveBack name, .released (u.ticket? name).isSome)
  | .drop name => (u.giveBack name, .dropped (u.ticket? name).isSome)
  | .sleep millis =>
      let time := u.pool.now + millis
      let u := (pass (fun _ => false) time u.appointments u).happen (.advance time)
      (u, .slept u.pool.now)

def actAll : Usage -> List Act -> List (Usage × Answer)
  | _, [] => []
  | u, a :: rest =>
      let after := u.act a
      after :: actAll after.1 rest

end Usage
end Pool
end HttpCall
