import HttpCall.Call.Journal
import HttpCall.Json.Basic

/-!
# The world around a call

The call together with the clock, the journal and the numbers that are given
out, and the code that the caller supplies: what it does each time it is called
is a list of actions.
-/

namespace HttpCall

/-- An occasion on which user code runs. -/
inductive Moment where
  | headers
  | cookie
  | response
  | exception
  | release
  | complete
deriving DecidableEq, Repr

def Moment.ofEntry? : Entry -> Option Moment
  | .headers _ => some headers
  | .cookie _ => some cookie
  | .response _ => some response
  | .exception _ => some exception
  | .released _ => some release
  | .completed _ _ => some complete
  | _ => none

inductive Action where
  | inject (reply : Reply)
  | hook
  | poll
  | breakDown (fault : Fault)
deriving DecidableEq, Repr

/-- Actions to take on the occasion of a kind that is the `nth`, counted from 1. -/
structure Trigger where
  moment : Moment
  nth : Nat
  actions : List Action
deriving DecidableEq, Repr

structure Caller where
  policy : Policy
  triggers : List Trigger
  transform : Response -> Except Fault Json

structure World where
  now : Nat
  /-- Whether there is a call yet: there is none before the first connection. -/
  started : Bool
  call : Call
  /-- The newest entry comes first. -/
  journal : List Stamped
  nextConnection : Nat
  nextHook : Nat
  asked : Nat
  request : Request
  result : Option (Except Failure Json)

namespace World

def view (w : World) : Option Snapshot :=
  if w.started then some w.call.snapshot else none

def note (w : World) (e : Entry) : World :=
  { w with journal := ⟨w.now, w.view, e⟩ :: w.journal }

def entries (w : World) : List Entry := w.journal.map Stamped.entry

def brought (w : World) : List Connection := w.entries.filterMap Entry.brought?

@[simp] theorem entries_note (w : World) (e : Entry) :
    (w.note e).entries = e :: w.entries := rfl

@[simp] theorem call_note (w : World) (e : Entry) : (w.note e).call = w.call := rfl

def count (w : World) (m : Moment) : Nat :=
  w.journal.countP fun s => Moment.ofEntry? s.entry = some m

def log (w : World) : List Stamped := (w.journal.filter fun s => s.entry.isOutward).reverse

def releases (w : World) : Nat := w.count .release

def acquisitions (w : World) : Nat :=
  w.journal.countP fun s => match s.entry with
    | .acquired _ => true
    | _ => false

def connect (w : World) (target : Target) : World × Connection :=
  ({ w with nextConnection := w.nextConnection + 1 }, ⟨w.nextConnection, target⟩)

/-- Record an outcome; the second component tells whether it is the first. -/
def settle (w : World) (held : Option Connection) (o : Outcome) : World × Bool :=
  match w.call.settle? o with
  | some call => ({ w with call := call }.note (.settled held), true)
  | none => (w, false)

end World
end HttpCall
