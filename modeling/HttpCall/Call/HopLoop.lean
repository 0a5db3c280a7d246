import HttpCall.Call.Handling
import HttpCall.Redirect.NextHop

/-!
# The loop over hops

Between two waits a call does one block of work: it takes what its connection or
the pool answers, or that its time is up, and goes on to the next wait.
-/

namespace HttpCall

inductive Stage where
  /-- The answer to a request, which is out on a connection. -/
  | exchanging (c : Connection) (hop : Nat) (request : Request)
  | acquiring (hop : Nat) (request : Request)
  | over
  /-- Nothing: the loop broke down, itself or with user code that nothing shields it
  from. -/
  | lost (fault : Fault)
deriving DecidableEq, Repr

namespace World

def send (request : Request) (w : World) : World :=
  { w with request := request }.note (.sent request)

def timeoutError (request : Request) : TransportError :=
  .timeout (request.timeout.getD .zero)

def releaseThen (react : Reaction) (c : Connection) (next : Stage) (w : World) :
    World × Stage :=
  match w.release react c with
  | (w, none) => (w, next)
  | (w, some fault) => (w, .lost fault)

/-- Take an event that answers the request.  The connection of a redirect is given
back before the next one is acquired. -/
def onEvent (caller : Caller) (react : Reaction) (listeners : Listeners) (c : Connection)
    (hop : Nat) (request : Request) (event : Event) (w : World) : World × Stage :=
  match w.handle caller react listeners c request event with
  | (w, .ok .done) => (w, .over)
  | (w, .ok (.redirect location status)) =>
      w.releaseThen react c (.acquiring hop (request.redirected location status))
  | (w, .error fault) => (w, .lost fault)

/-- The time is up during an exchange.  If somebody else has ended the call, its
connection is only given back. -/
def onExchangeExpired (caller : Caller) (react : Reaction) (listeners : Listeners)
    (c : Connection) (hop : Nat) (request : Request) (w : World) : World × Stage :=
  if w.call.isDone then w.releaseThen react c .over
  else w.onEvent caller react listeners c hop request (.error (timeoutError request))

def onGranted (hop : Nat) (request : Request) (w : World) : World × Stage :=
  let (w, c) := w.connect request.target
  (w.note (.acquired c), .exchanging c (hop + 1) request)

def onUnavailable (caller : Caller) (react : Reaction) (listeners : Listeners)
    (e : TransportError) (w : World) : World × Stage :=
  let (w, first) := (w.notifyException react listeners e).settle none
    (.error (.transport e.message))
  (w.publishIf first caller react, .over)

end World
end HttpCall
