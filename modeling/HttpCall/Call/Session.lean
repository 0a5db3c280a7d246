import HttpCall.Call.Timeline
import HttpCall.Request.Draft

/-!
# Making a call

A call is started, its hooks are registered, and its result is waited for; after
a further hour one last hook is registered and the call is looked at.
-/

namespace HttpCall

structure Plot where
  draft : Draft
  hops : List Hop
  listeners : Listeners
  hooks : Nat
  transformed : Bool

inductive Account where
  | unbuilt (e : Error)
  | unstarted (e : Error) (w : World)
  | unanswered (w : World)
  /-- The call ran: what it showed at first, what the wait for it brought and how
  many milliseconds it took, and the world in the end. -/
  | ran (before : Phase) (waited : Option (Except Error Response)) (millis : Nat) (w : World)

def Account.world? : Account -> Option World
  | unbuilt _ => none
  | unstarted _ w => some w
  | unanswered w => some w
  | ran _ _ _ w => some w

namespace Session

def hour : Nat := 3600000

def opening (request : Request) (nextConnection : Nat) : World where
  now := 0
  started := false
  call := .fresh
  journal := []
  nextConnection := nextConnection
  nextHook := 1
  asked := 0
  request := request
  result := none

/-- The world in which the pool answers for the first time, which no deadline limits.
User code in the pool finds no call yet. -/
def firstAnswer (request : Request) (nextConnection : Nat) (h : Hop) : World :=
  { opening request nextConnection with now := h.acquireDelay, asked := 1 }

def firstConnected (request : Request) (nextConnection : Nat) (h : Hop) :
    World × Connection :=
  let (w, c) := (firstAnswer request nextConnection h).connect request.target
  ({ w.note (.acquired c) with started := true }, c)

def withHooks (caller : Caller) (react : Reaction) (plot : Plot) (w : World) : World :=
  let w := if plot.transformed then w.register caller react .transform else w
  (List.range plot.hooks).foldl (fun w _ => w.registerNumbered caller react) w

/-- What the loop says when it breaks down before it sends anything. -/
def deadlineFault : Fault := .text "overflow when adding duration to instant"

/-- The millisecond at which the time of a call is up, if it is limited; nothing if
the clock cannot hold it. -/
def deadline? (clockStart : Nat) (request : Request) (w : World) : Option (Option Nat) :=
  match request.timeout with
  | none => some none
  | some t =>
      (Clock.after? (clockStart + w.now * 1000000) t).map fun _ => some (w.now + t.ceilMillis)

/-- The course of a call that has its first connection.  A deadline that the clock
cannot hold ends the call before it sends anything. -/
def course (caller : Caller) (react : Reaction) (plot : Plot) (clockStart : Nat) (h : Hop)
    (rest : List Hop) (c : Connection) (request : Request) (w : World) :
    List (World × Stage) :=
  match deadline? clockStart request w with
  | some deadline =>
      (w, .exchanging c 0 request) ::
        Conditions.run ⟨caller, react, plot.listeners, deadline⟩ rest h c 0 request w
  | none => [(w, .lost deadlineFault)]

inductive Launch where
  | unstarted (e : Error) (w : World)
  | unanswered (w : World)
  /-- The call is under way: the world in which its handle is given out, with the
  first hooks registered, and its course from there. -/
  | underway (w : World) (course : List (World × Stage))

/-- Execute a request, given what the pool and the connections will answer. -/
def launch (caller : Caller) (react : Reaction) (clockStart nextConnection : Nat)
    (plot : Plot) (request : Request) : List Hop -> Launch
  | [] =>
      let w := opening request nextConnection
      .unstarted (.acquire exhaustedError) (w.note (.refused request.target none))
  | h :: rest =>
      let w := firstAnswer request nextConnection h
      match h.grant with
      | .refusal e => .unstarted (.acquire e) (w.note (.refused request.target (some e)))
      | .silence => .unanswered w
      | .connection =>
          let (w, c) := firstConnected request nextConnection h
          let w := withHooks caller react plot w
          .underway w (course caller react plot clockStart h rest c request w)

section

variable {caller : Caller} {react : Reaction} {clockStart nextConnection : Nat} {plot : Plot}
  {request : Request} {h : Hop} {rest : List Hop}

theorem course_of_deadline {c : Connection} {w : World} {deadline : Option Nat}
    (h' : deadline? clockStart request w = some deadline) :
    course caller react plot clockStart h rest c request w =
      (w, .exchanging c 0 request) ::
        Conditions.run ⟨caller, react, plot.listeners, deadline⟩ rest h c 0 request w := by
  simp only [course, h']

theorem course_of_no_deadline {c : Connection} {w : World}
    (h' : deadline? clockStart request w = none) :
    course caller react plot clockStart h rest c request w =
      [(w, .lost deadlineFault)] := by
  simp only [course, h']

theorem launch_of_refusal {e : TransportError} (hgrant : h.grant = .refusal e) :
    launch caller react clockStart nextConnection plot request (h :: rest) =
      .unstarted (.acquire e)
        ((firstAnswer request nextConnection h).note (.refused request.target (some e))) := by
  simp only [launch, hgrant]

theorem launch_of_silence (hgrant : h.grant = .silence) :
    launch caller react clockStart nextConnection plot request (h :: rest) =
      .unanswered (firstAnswer request nextConnection h) := by
  simp only [launch, hgrant]

theorem launch_of_connection (hgrant : h.grant = .connection) :
    launch caller react clockStart nextConnection plot request (h :: rest) =
      .underway (withHooks caller react plot (firstConnected request nextConnection h).1)
        (course caller react plot clockStart h rest
          (firstConnected request nextConnection h).2 request
          (withHooks caller react plot (firstConnected request nextConnection h).1)) := by
  simp only [launch, hgrant]

end

def firstDone (before : Nat) (ws : List World) : Option World :=
  ws.find? fun w => w.call.isDone && w.now < before

def lastBefore (time : Nat) (first : World) (ws : List World) : World :=
  ((ws.takeWhile fun w => w.now < time).getLast?).getD first

/-- Wait for the result for an hour at most, and for the caller's own result for
one more. -/
def observe (caller : Caller) (plot : Plot) (w : World) (ws : List World) : Account :=
  let start := w.now
  let waited := firstDone (start + hour) ws
  let waitEnd := (waited.map World.now).getD (start + hour)
  let ownEnd :=
    if plot.transformed && waited.isNone then
      ((firstDone (waitEnd + hour) ws).map World.now).getD (waitEnd + hour)
    else waitEnd
  let final := ownEnd + hour
  let seen := { lastBefore final w ws with now := final }
  .ran w.call.phase (waited.bind fun v => v.call.result?) (waitEnd - start)
    (seen.registerNumbered caller caller.reaction)

def start (caller : Caller) (clockStart nextConnection : Nat) (plot : Plot)
    (request : Request) (hops : List Hop) : Account :=
  match launch caller caller.reaction clockStart nextConnection plot request hops with
  | .unstarted e w => .unstarted e w
  | .unanswered w => .unanswered w
  | .underway w course => observe caller plot w (course.map Prod.fst)

def make (caller : Caller) (clockStart nextConnection : Nat) (plot : Plot) : Account :=
  match plot.draft.build with
  | .error e => .unbuilt e
  | .ok request => start caller clockStart nextConnection plot request plot.hops

/-- Make calls one after the other; the numbers of connections go on.  What stands
in the place of a call is passed over. -/
def makeAll {ε : Type} (clockStart : Nat) :
    Nat -> List (Except ε (Caller × Plot)) -> List (Except ε Account)
  | _, [] => []
  | nextConnection, .error e :: rest => .error e :: makeAll clockStart nextConnection rest
  | nextConnection, .ok (caller, plot) :: rest =>
      let account := make caller clockStart nextConnection plot
      let next := (account.world?.map World.nextConnection).getD nextConnection
      .ok account :: makeAll clockStart next rest

end Session
end HttpCall
