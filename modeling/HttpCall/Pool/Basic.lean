import HttpCall.Clock
import HttpCall.Error
import HttpCall.Request.Basic

/-!
# The pool

A pool has a fixed number of places.  Whoever acquires a connection takes a place,
or waits in line for one until the patience of the pool is at an end; a place that
is given back goes to the first in line.
-/

namespace HttpCall

structure Pool.Waiter where
  ticket : Nat
  /-- The millisecond at which the wait is given up. -/
  expiry : Nat
deriving DecidableEq, Repr

structure Pool where
  size : Nat
  patience : Duration
  free : Nat
  holders : List Nat
  waiting : List Pool.Waiter
  now : Nat
deriving DecidableEq, Repr

inductive Construction (α : Type) where
  | made (a : α)
  | refused (e : Error)
  | brokeDown

namespace Pool

/-- The largest number of places that can be counted. -/
def maxPlaces : Nat := 0x1FFFFFFFFFFFFFFF

/-- Make a pool.  No places at all are refused, and more than can be counted make
the construction break down. -/
def create (size : Nat) (patience : Duration) : Construction Pool :=
  if size = 0 then .refused (.configuration .noConnections)
  else if maxPlaces < size then .brokeDown
  else .made ⟨size, patience, size, [], [], 0⟩

/-- The wait that stands for one without an end: thirty years. -/
def longestWait : Nat := 30 * 365 * 86400000

/-- When a wait expires that begins at a reading of the clock. -/
def expiryAt (p : Pool) (reading : Nat) : Nat :=
  match Clock.after? reading p.patience with
  | some _ => p.now + p.patience.ceilMillis
  | none => p.now + longestWait

def expiry (p : Pool) (clockStart : Nat) : Nat := p.expiryAt (clockStart + p.now * 1000000)

inductive Happening where
  | ask (ticket : Nat)
  /-- A ticket gives its place back, by releasing its connection or dropping it. -/
  | giveBack (ticket : Nat)
  /-- An acquisition is given up: its wait ends, and a place that it was assigned in the
  meantime is given back. -/
  | abandon (ticket : Nat)
  /-- Time goes on to a millisecond; waits that expire by then are given up. -/
  | advance (time : Nat)
deriving DecidableEq, Repr

def holds (p : Pool) (ticket : Nat) : Bool := p.holders.contains ticket

def passOn (p : Pool) : Pool :=
  match p.waiting with
  | first :: rest => { p with holders := first.ticket :: p.holders, waiting := rest }
  | [] => { p with free := p.free + 1 }

def vacate (p : Pool) (ticket : Nat) : Pool :=
  if p.holds ticket then { p with holders := p.holders.erase ticket }.passOn else p

def step (clockStart : Nat) (p : Pool) : Happening -> Pool
  | .ask ticket =>
      match p.free with
      | free + 1 => { p with free := free, holders := ticket :: p.holders }
      | 0 => { p with waiting := p.waiting ++ [⟨ticket, p.expiry clockStart⟩] }
  | .giveBack ticket => p.vacate ticket
  | .abandon ticket =>
      { p with waiting := p.waiting.filter fun w => w.ticket ≠ ticket }.vacate ticket
  | .advance time =>
      { p with
        now := max p.now time
        waiting := p.waiting.filter fun w => max p.now time < w.expiry }

def exhaustedError (p : Pool) (target : Target) : TransportError :=
  ⟨.exhausted, "no connection to " ++ target.text ++ " available within " ++ p.patience.text⟩

def summary (p : Pool) : String :=
  "ReqwestPool \x7b max_connections: " ++ toString p.size ++ ", available: " ++
    toString p.free ++ ", acquire_timeout: " ++ p.patience.text ++ " \x7d"

end Pool
end HttpCall
