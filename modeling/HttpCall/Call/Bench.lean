import HttpCall.Call.Handling

/-!
# The bench

A single call, without listeners and without a loop, to which events are given by
hand on connections that are bound under names.
-/

namespace HttpCall

/-- A connection that carries a hop of the call. -/
structure Binding where
  connection : Connection
  hop : Nat
deriving DecidableEq, Repr

inductive Command where
  | bind (name : String)
  | deliver (name : String) (reply : Reply) (request : Option Request)
  | drop (name : String)
  | act (action : Action)

inductive Finding where
  | bound (b : Binding) (wasHeld : Bool)
  | unbound (name : String)
  | handled
  | redirected (location : Url) (status : Status) (b : Binding)
  | dropped (wasHeld : Bool)
  | acted
  | lost (fault : Fault)

structure Bench where
  world : World
  bindings : List (String × Binding)
  request : Request

namespace Bench

def opening (request : Request) : Bench where
  world := {
    now := 0
    started := true
    call := .fresh
    journal := []
    nextConnection := 1
    nextHook := 1
    asked := 0
    request := request
    result := none }
  bindings := []
  request := request

def binding? (b : Bench) (name : String) : Option Binding :=
  (b.bindings.find? fun entry => entry.1 = name).map Prod.snd

def forget (b : Bench) (name : String) : Bench :=
  { b with bindings := b.bindings.filter fun entry => entry.1 ≠ name }

def run (caller : Caller) (b : Bench) : Command -> Bench × Finding
  | .bind name =>
      let (w, c) := b.world.connect b.request.target
      let held := (b.binding? name).isSome
      let fresh : Binding := ⟨c, 0⟩
      let rest := b.forget name
      ({ rest with world := w, bindings := (name, fresh) :: rest.bindings },
        .bound fresh held)
  | .deliver name reply request =>
      match b.binding? name with
      | none => (b, .unbound name)
      | some held =>
          let asked := request.getD b.request
          match b.world.handle caller caller.reaction .none held.connection asked
              (reply.toEvent asked) with
          | (w, .ok .done) => ({ b.forget name with world := w }, .handled)
          | (w, .ok (.redirect location status)) =>
              ({ b with world := w }, .redirected location status held)
          | (w, .error fault) => ({ b.forget name with world := w }, .lost fault)
  | .drop name => (b.forget name, .dropped (b.binding? name).isSome)
  | .act action =>
      match b.world.act caller caller.reaction [action] with
      | (w, none) => ({ b with world := w }, .acted)
      | (w, some fault) => ({ b with world := w }, .lost fault)

def runAll (caller : Caller) : Bench -> List Command -> List (Bench × Finding)
  | _, [] => []
  | b, command :: rest =>
      let after := b.run caller command
      after :: runAll caller after.1 rest

end Bench
end HttpCall
