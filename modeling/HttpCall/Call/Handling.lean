import HttpCall.Call.World

/-!
# Handling an event

A plan is carried out for the connection on which its event arrived: listeners
first, then the redirect or the end of the call, then the release.  The outcome
is published only after the release.

User code runs in the midst of this, and may itself handle events for the same
call.  What it does is a parameter here, a reaction; the reaction that a list of
triggers describes is built at the end of the module from handling itself, one
level of nesting upon another.
-/

namespace HttpCall

/-- What user code does on an occasion: it changes the world, and it may break
down. -/
abbrev Reaction := Moment -> World -> World × Option Fault

namespace World

def fire (react : Reaction) (m : Moment) (e : Entry) (w : World) : World × Option Fault :=
  react m (w.note e)

def fireIf (attached : Bool) (react : Reaction) (m : Moment) (e : Entry) (w : World) :
    World × Option Fault :=
  if attached then w.fire react m e else (w, none)

/-! ## Hooks -/

def resultOf (caller : Caller) : Outcome -> Except Failure Json
  | .ok response =>
      match caller.transform response with
      | .ok value => .ok value
      | .error fault =>
          .error (.transport ("response transform panicked: " ++ fault.message))
  | .error failure => .error failure

/-- Run a hook with the outcome; whether it breaks down makes no difference. -/
def runHook (caller : Caller) (react : Reaction) (o : Outcome) (w : World) : Hook -> World
  | .numbered n => (w.fire react .complete (.completed n o)).1
  | .transform => { w with result := some (resultOf caller o) }

def publish (caller : Caller) (react : Reaction) (w : World) : World :=
  match w.call.publish? with
  | some (o, hooks, call) =>
      hooks.foldl (runHook caller react o) ({ w with call := call }.note .published)
  | none => w

/-- Let a hook wait for the outcome, or run it at once if that is visible. -/
def register (caller : Caller) (react : Reaction) (w : World) (h : Hook) : World :=
  match w.call.visible with
  | some o => w.runHook caller react o h
  | none => { w with call := w.call.enqueue h }

def registerNumbered (caller : Caller) (react : Reaction) (w : World) : World :=
  register caller react { w with nextHook := w.nextHook + 1 } (.numbered w.nextHook)

/-! ## Effects -/

inductive Ending where
  /-- The connection is to be released; the flag tells whether the outcome was
  settled on the way. -/
  | release (settledHere : Bool)
  | follow (location : Url) (status : Status)
deriving DecidableEq, Repr

def listenerError (fault : Fault) : TransportError :=
  ⟨.listener, "listener panicked: " ++ fault.message⟩

def notifyException (react : Reaction) (listeners : Listeners) (e : TransportError)
    (w : World) : World :=
  (w.fireIf listeners.exception react .exception (.exception e)).1

/-- Go on after a listener, or end the call if the listener broke down. -/
def afterListener (react : Reaction) (listeners : Listeners) (c : Connection)
    (next : World -> World × Ending) : World × Option Fault -> World × Ending
  | (w, none) => next w
  | (w, some fault) =>
      let (w, first) := (w.notifyException react listeners (listenerError fault)).settle c
        (.error (.transport (listenerError fault).message))
      (w, .release first)

def perform (react : Reaction) (listeners : Listeners) (c : Connection) :
    List Effect -> Bool -> World -> World × Ending
  | [], settledHere, w => (w, .release settledHere)
  | .notifyHeaders h :: rest, settledHere, w =>
      afterListener react listeners c (perform react listeners c rest settledHere)
        (w.fireIf listeners.headers react .headers (.headers h))
  | .recordCookie k :: rest, settledHere, w =>
      afterListener react listeners c (perform react listeners c rest settledHere)
        ({ w with call := w.call.addCookie k }.fireIf listeners.cookie react .cookie
          (.cookie k))
  | .notifyResponse r :: rest, settledHere, w =>
      afterListener react listeners c (perform react listeners c rest settledHere)
        (w.fireIf listeners.response react .response (.response r))
  | .notifyException e :: rest, settledHere, w =>
      perform react listeners c rest settledHere (w.notifyException react listeners e)
  | .follow location status :: _, settledHere, w =>
      match w.call.countRedirect? with
      | some call => ({ w with call := call }, .follow location status)
      | none => (w, .release settledHere)
  | .succeed response :: rest, _, w =>
      let (w, first) := w.settle c (.ok response)
      perform react listeners c rest first w
  | .fail failure :: rest, _, w =>
      let (w, first) := w.settle c (.error failure)
      perform react listeners c rest first w
  | .release :: _, settledHere, w => (w, .release settledHere)

/-! ## Release and publication -/

def release (react : Reaction) (c : Connection) (w : World) : World × Option Fault :=
  w.fire react .release (.released c)

def publishIf (settledHere : Bool) (caller : Caller) (react : Reaction) (w : World) : World :=
  if settledHere then w.publish caller react else w

/-- Handle an event that arrived on a connection.  If the policy or the release
breaks down, so does the handling; an outcome settled before is published even
then. -/
def handle (caller : Caller) (react : Reaction) (listeners : Listeners) (c : Connection)
    (request : Request) (event : Event) (w : World) : World × Except Fault Step :=
  match plan caller.policy w.call.snapshot request event with
  | .error fault => (w, .error fault)
  | .ok effects =>
      match perform react listeners c effects false w with
      | (w, .follow location status) => (w, .ok (.redirect location status))
      | (w, .release settledHere) =>
          match w.release react c with
          | (w, none) => (w.publishIf settledHere caller react, .ok .done)
          | (w, some fault) => (w.publishIf settledHere caller react, .error fault)

/-! ## The reaction of a caller -/

/-- Handle an event on a new connection, without listeners.  The connection of a
redirect is lost. -/
def inject (caller : Caller) (react : Reaction) (reply : Reply) (w : World) :
    World × Option Fault :=
  let (w, c) := w.connect w.request.target
  match (w.note (.injecting c)).handle caller react .none c w.request
      (reply.toEvent w.request) with
  | (w, .ok step) => (w.note (.injected step), none)
  | (w, .error fault) => (w, some fault)

/-- Take actions in order, up to one that breaks down. -/
def act (caller : Caller) (react : Reaction) : List Action -> World -> World × Option Fault
  | [], w => (w, none)
  | .inject reply :: rest, w =>
      match w.inject caller react reply with
      | (w, none) => act caller react rest w
      | (w, some fault) => (w, some fault)
  | .hook :: rest, w => act caller react rest (w.registerNumbered caller react)
  | .poll :: rest, w => act caller react rest (w.note (.polled w.call.result?))
  | .breakDown fault :: _, w => (w, some fault)

end World

namespace Caller

/-- The actions for an occasion, given how many of its kind there were. -/
def actionsFor (caller : Caller) (m : Moment) (count : Nat) : List Action :=
  (caller.triggers.filter fun t => t.moment = m && t.nth = count).flatMap Trigger.actions

/-- What the caller's code does, with a given depth of events handled within
events.  Each level takes up a trigger of its own, so there are never more levels
than triggers. -/
def reactionAt (caller : Caller) : Nat -> Reaction
  | 0 => fun _ w => (w, none)
  | depth + 1 => fun m w =>
      w.act caller (reactionAt caller depth) (caller.actionsFor m (w.count m))

def reaction (caller : Caller) : Reaction := caller.reactionAt caller.triggers.length

end Caller
end HttpCall
