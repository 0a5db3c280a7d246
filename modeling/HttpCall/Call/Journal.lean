import HttpCall.Call.Plan
import HttpCall.Text.Quoted

/-!
# The journal of a call

Everything that happens to a call, in order: what the pool and the connections
do, what user code is told, and the two halves of the call's end.
-/

namespace HttpCall

/-- A connection, numbered in the order of creation. -/
structure Connection where
  id : Nat
  target : Target
deriving DecidableEq, Repr

def Connection.summary (c : Connection) : String :=
  "Connection \x7b id: _, target: Target \x7b scheme: " ++ Text.quoteText c.target.scheme ++
    ", host: " ++ Text.quoteText c.target.host ++ ", port: " ++ toString c.target.port ++
    " \x7d \x7d"

structure Listeners where
  exception : Bool
  headers : Bool
  cookie : Bool
  response : Bool
deriving DecidableEq, Repr

namespace Listeners

def none : Listeners := ⟨false, false, false, false⟩
def all : Listeners := ⟨true, true, true, true⟩

def summary (l : Listeners) : String :=
  "Listeners \x7b exception: " ++ toString l.exception ++ ", headers: " ++
    toString l.headers ++ ", cookie: " ++ toString l.cookie ++ ", response: " ++
    toString l.response ++ " \x7d"

end Listeners

inductive Step where
  | done
  | redirect (location : Url) (status : Status)
deriving DecidableEq, Repr

inductive Entry where
  | acquired (c : Connection)
  /-- The pool refused one; without an error if it had nothing left to answer. -/
  | refused (target : Target) (cause : Option TransportError)
  | sent (request : Request)
  | headers (h : Headers)
  | cookie (k : Cookie)
  | response (r : Response)
  | exception (e : TransportError)
  | released (c : Connection)
  | completed (hook : Nat) (o : Outcome)
  | polled (r : Option (Except Error Response))
  /-- User code handled an event of its own on a connection of its own. -/
  | injecting (c : Connection)
  | injected (s : Step)
  | settled (held : Option Connection)
  | published

namespace Entry

/-- The entry is seen by user code, the pool or a connection. -/
def isOutward : Entry -> Bool
  | settled _ | published => false
  | _ => true

def brought? : Entry -> Option Connection
  | injecting c => some c
  | _ => none

end Entry

/-- An entry with the time in milliseconds and what the call showed then; nothing
before there is a call. -/
structure Stamped where
  time : Nat
  view : Option Snapshot
  entry : Entry

end HttpCall
