import HttpCall.Proofs.Connection.Sound
import HttpCall.Proofs.Trace.Order

/-!
# The story of a call

What a pool has to do with a call is told by its story: when it asked for a connection, and
what was noted in the meantime.  Whatever is answered, a call asks only while it has no
connection, gives back what it got before it asks again, and has nothing of the pool any
more when its end shows.
-/

namespace HttpCall

/-- A call asks for a connection, or something is noted about it. -/
inductive Beat where
  | ask
  | told (s : Stamped)

def Entry.asksAtOnce : Entry -> Bool
  | refused _ none => true
  | _ => false

namespace Stamped

def isTerminal (s : Stamped) : Bool := s.view.any fun v => v.phase.isTerminal

def beats (s : Stamped) : List Beat :=
  if s.entry.asksAtOnce then [.ask, .told s] else [.told s]

end Stamped

def Beat.isTerminal : Beat -> Bool
  | ask => false
  | told s => s.isTerminal

namespace World

/-- What happened from one world to the next, the oldest first.  If the pool was asked, that
came before anything was noted. -/
def beats (v w : World) : List Beat :=
  List.replicate (w.asked - v.asked) .ask ++
    (w.journal.take (w.journal.length - v.journal.length)).reverse.flatMap Stamped.beats

def story : World -> List World -> List Beat
  | _, [] => []
  | v, w :: ws => v.beats w ++ story w ws

end World

def Session.story (caller : Caller) (react : Reaction) (clockStart nextConnection : Nat)
    (plot : Plot) (request : Request) (hops : List Hop) : List Beat :=
  (opening request nextConnection).story
    (launch caller react clockStart nextConnection plot request hops).worlds

/-- It is the story of some call for which nobody but its own loop handles events. -/
inductive IsStory : List Beat -> Prop where
  | intro (caller : Caller) (react : Reaction) (clockStart nextConnection : Nat)
      (plot : Plot) (request : Request) (hops : List Hop) :
      World.Conduct caller False react ->
      (forall h, h ∈ hops -> KeepsOut h.acquireActions ∧ KeepsOut h.actions) ->
      IsStory (Session.story caller react clockStart nextConnection plot request hops)

/-!
## What a call has of the pool
-/

inductive Use where
  | resting
  | asking
  | denied
  | holding (c : Connection)
  | shown
deriving DecidableEq, Repr

namespace Use

/-- What an entry makes of the use, if it may be noted then. -/
def after? (u : Use) : Entry -> Option Use
  | .acquired c => if u = asking then some (holding c) else none
  | .refused _ _ => if u = asking then some denied else none
  | .released c => if u = holding c then some resting else none
  | .settled none => if u = asking ∨ u = denied then some resting else none
  | .published => if u = resting then some shown else none
  | _ => some u

def next? (u : Use) : Beat -> Option Use
  | .ask => if u = resting then some asking else none
  | .told s => (u.after? s.entry).filter fun u' => !s.isTerminal || u' = shown

def run? (u : Use) (beats : List Beat) : Option Use := beats.foldlM next? u

theorem run?_cons (u : Use) (b : Beat) (beats : List Beat) :
    u.run? (b :: beats) = (u.next? b).bind fun u' => u'.run? beats := rfl

theorem run?_append (u : Use) (first second : List Beat) :
    u.run? (first ++ second) = (u.run? first).bind fun u' => u'.run? second :=
  List.foldlM_append

theorem run?_append_of_eq {u u' : Use} {first : List Beat} (h : u.run? first = some u')
    (second : List Beat) : u.run? (first ++ second) = u'.run? second := by
  rw [run?_append, h]
  rfl

theorem next?_told {u u' : Use} {s : Stamped} :
    u.next? (.told s) = some u' <->
      u.after? s.entry = some u' ∧ (s.isTerminal = true -> u' = shown) := by
  unfold next?
  rw [Option.filter_eq_some_iff]
  cases hterminal : s.isTerminal <;> simp

theorem run?_told {u u' : Use} {s : Stamped} (hafter : u.after? s.entry = some u')
    (hterminal : s.isTerminal = true -> u' = shown) : u.run? [.told s] = some u' := by
  rw [run?_cons, next?_told.mpr ⟨hafter, hterminal⟩]
  rfl

theorem next?_shown {u : Use} {b : Beat} (h : shown.next? b = some u) : u = shown := by
  cases b with
  | ask => cases h
  | told s =>
      rcases next?_told.mp h with ⟨hafter, _⟩
      unfold after? at hafter
      split at hafter <;> cases hafter
      rfl

theorem run?_shown {u : Use} {beats : List Beat} (h : shown.run? beats = some u) :
    u = shown := by
  induction beats with
  | nil =>
      cases h
      rfl
  | cons b rest ih =>
      rw [run?_cons] at h
      rcases Option.bind_eq_some_iff.mp h with ⟨x, hx, hrest⟩
      cases next?_shown hx
      exact ih hrest

theorem run?_of_isTerminal {u u' : Use} {beats : List Beat} (h : u.run? beats = some u')
    (hterminal : beats.any Beat.isTerminal = true) : u' = shown := by
  induction beats generalizing u with
  | nil =>
      cases hterminal
  | cons b rest ih =>
      rw [run?_cons] at h
      rcases Option.bind_eq_some_iff.mp h with ⟨x, hx, hrest⟩
      rw [List.any_cons, Bool.or_eq_true] at hterminal
      rcases hterminal with hb | hlater
      · cases b with
        | ask => cases hb
        | told s =>
            cases (next?_told.mp hx).right hb
            exact run?_shown hrest
      · exact ih hrest hlater

end Use

namespace World

/-!
## Moves
-/

def Stands (u : Use) (w : World) : Prop := w.call.published = true -> u = .shown

structure Moves (u : Use) (v : World) (u' : Use) (w : World) : Prop where
  asked : w.asked = v.asked
  news : exists news, w.journal = news ++ v.journal ∧
    u.run? (news.reverse.flatMap Stamped.beats) = some u'
  stands : Stands u' w

section Moving

variable {u u' u'' : Use} {v w x : World}

theorem Stands.hidden (h : Stands u w) (hu : u ≠ .shown) : w.call.published = false := by
  cases hpublished : w.call.published with
  | false => rfl
  | true => exact absurd (h hpublished) hu

theorem stands_of_hidden (h : w.call.published = false) : Stands u w := by
  intro hpublished
  rw [h] at hpublished
  cases hpublished

theorem Stands.of_isTerminal (h : Stands u w) (e : Entry) :
    (⟨w.now, w.view, e⟩ : Stamped).isTerminal = true -> u = .shown := by
  intro hterminal
  unfold Stamped.isTerminal view at hterminal
  split at hterminal
  · exact h (published_of_isTerminal hterminal)
  · cases hterminal

namespace Moves

theorem of_same (h : Stands u w) (hasked : x.asked = w.asked)
    (hpublished : x.call.published = w.call.published) (hjournal : x.journal = w.journal) :
    Moves u w u x where
  asked := hasked
  news := ⟨[], hjournal, rfl⟩
  stands := by
    unfold Stands
    rw [hpublished]
    exact h

theorem refl (h : Stands u w) : Moves u w u w := .of_same h rfl rfl rfl

theorem trans (hvw : Moves u v u' w) (hwx : Moves u' w u'' x) : Moves u v u'' x where
  asked := hwx.asked.trans hvw.asked
  news := by
    rcases hvw.news with ⟨first, hfirst, hrun⟩
    rcases hwx.news with ⟨second, hsecond, hrun'⟩
    refine ⟨second ++ first, ?_, ?_⟩
    · rw [hsecond, hfirst, List.append_assoc]
    · rw [List.reverse_append, List.flatMap_append, Use.run?_append_of_eq hrun]
      exact hrun'
  stands := hwx.stands

theorem of_run {e : Entry} (hasked : x.asked = w.asked) (hjournal : x.journal = w.journal)
    (hrun : u.run? (⟨x.now, x.view, e⟩ : Stamped).beats = some u') (h : Stands u' x) :
    Moves u w u' (x.note e) where
  asked := hasked
  news := by
    refine ⟨[⟨x.now, x.view, e⟩], congrArg _ hjournal, ?_⟩
    show u.run? ((⟨x.now, x.view, e⟩ : Stamped).beats ++ []) = some u'
    rw [List.append_nil]
    exact hrun
  stands := h

theorem note {e : Entry} (hasked : x.asked = w.asked) (hjournal : x.journal = w.journal)
    (hasks : e.asksAtOnce = false) (hafter : u.after? e = some u') (h : Stands u' x) :
    Moves u w u' (x.note e) := by
  apply of_run hasked hjournal _ h
  have hbeats : (⟨x.now, x.view, e⟩ : Stamped).beats = [.told ⟨x.now, x.view, e⟩] := by
    simp only [Stamped.beats, hasks, Bool.false_eq_true, if_false]
  rw [hbeats]
  exact Use.run?_told hafter (h.of_isTerminal e)

theorem refused (target : Target) (h : Stands .resting w) :
    Moves .resting w .denied (w.note (.refused target none)) := by
  have hdenied : Stands .denied w := stands_of_hidden (h.hidden Use.noConfusion)
  apply of_run rfl rfl _ hdenied
  show Use.asking.run? [.told ⟨w.now, w.view, .refused target none⟩] = some .denied
  exact Use.run?_told rfl (hdenied.of_isTerminal _)

theorem beats (h : Moves u v u' w) : u.run? (v.beats w) = some u' := by
  rcases h.news with ⟨news, hnews, hrun⟩
  unfold World.beats
  rw [h.asked, hnews, Nat.sub_self, List.length_append, Nat.add_sub_cancel, List.take_left]
  exact hrun

theorem beats_of_asked (h : Moves .asking w u x) (hasked : w.asked = v.asked + 1)
    (hjournal : w.journal = v.journal) : Use.resting.run? (v.beats x) = some u := by
  have hbeats := h.beats
  unfold World.beats at hbeats ⊢
  rw [h.asked, hasked, Nat.add_sub_cancel_left, ← hjournal]
  rw [h.asked, Nat.sub_self] at hbeats
  exact hbeats

end Moves

def Keeps (v w : World) : Prop := forall u, Stands u v -> Moves u v u w

theorem Moves.keep (h : Moves u v u' w) (hkeeps : Keeps w x) : Moves u v u' x :=
  h.trans (hkeeps u' h.stands)

namespace Keeps

theorem of_same (hasked : w.asked = v.asked)
    (hpublished : w.call.published = v.call.published) (hjournal : w.journal = v.journal) :
    Keeps v w :=
  fun _ h => .of_same h hasked hpublished hjournal

theorem refl (w : World) : Keeps w w := .of_same rfl rfl rfl

theorem trans (hvw : Keeps v w) (hwx : Keeps w x) : Keeps v x :=
  fun u h => (hvw u h).keep hwx

theorem note {e : Entry} (hasks : e.asksAtOnce = false)
    (hafter : forall u : Use, u.after? e = some u) : Keeps w (w.note e) :=
  fun u h => .note rfl rfl hasks (hafter u) h

end Keeps

end Moving

/-!
## User code that handles no events
-/

section Deeds

variable {caller : Caller} {react : Reaction} {u u' u'' : Use} {v w : World}

theorem keeps_fire (hreact : forall m v, Keeps v (react m v).1) (m : Moment) {e : Entry}
    (hasks : e.asksAtOnce = false) (hafter : forall u : Use, u.after? e = some u)
    (w : World) : Keeps w (w.fire react m e).1 :=
  (Keeps.note hasks hafter).trans (hreact m (w.note e))

theorem keeps_runHook (hreact : forall m v, Keeps v (react m v).1) (o : Outcome)
    (hook : Hook) (w : World) : Keeps w (w.runHook caller react o hook) := by
  cases hook with
  | numbered n =>
      exact keeps_fire hreact .complete rfl (fun _ => rfl) w
  | transform =>
      exact .of_same rfl rfl rfl

theorem keeps_register (hreact : forall m v, Keeps v (react m v).1) (hook : Hook)
    (w : World) : Keeps w (w.register caller react hook) := by
  unfold register
  split
  · exact keeps_runHook hreact _ hook w
  · exact .of_same rfl rfl rfl

theorem keeps_of_deed (h : Deed caller False v w) : Keeps v w := by
  induction h with
  | idle w =>
      exact .refl w
  | andThen _ _ huv hvw =>
      exact huv.trans hvw
  | poll w =>
      exact .note rfl (fun _ => rfl)
  | hook react w _ ih =>
      have hnumbered : Keeps w { w with nextHook := w.nextHook + 1 } := .of_same rfl rfl rfl
      exact hnumbered.trans (keeps_register ih (.numbered w.nextHook) _)
  | bring target w hmeddling =>
      exact hmeddling.elim
  | handle policy react listeners c request event w hmeddling =>
      exact hmeddling.elim
  | injected step w hmeddling =>
      exact hmeddling.elim

theorem Conduct.keeps (h : Conduct caller False react) (m : Moment) (v : World) :
    Keeps v (react m v).1 :=
  keeps_of_deed (h m v)

theorem keeps_act (hconduct : Conduct caller False react) {actions : List Action}
    (hactions : KeepsOut actions) (w : World) :
    Keeps w (w.act caller react actions).1 := by
  apply keeps_of_deed
  apply act_deed hconduct
  intro a ha hmeddling
  rw [hactions a ha] at hmeddling
  cases hmeddling

theorem keeps_withHooks (caller : Caller) (hreact : forall m v, Keeps v (react m v).1)
    (plot : Plot) (w : World) : Keeps w (Session.withHooks caller react plot w) := by
  apply @Session.withHooks_induction caller react (fun v => Keeps w v)
  · intro hook v hv
    exact hv.trans (keeps_register hreact hook v)
  · intro n v hv
    exact hv.trans (.of_same rfl rfl rfl)
  · exact .refl w

/-!
## Handlings
-/

theorem moves_release (hreact : forall m v, Keeps v (react m v).1) {c : Connection}
    (h : Stands (.holding c) w) :
    Moves (.holding c) w .resting (w.release react c).1 := by
  have hhidden := h.hidden Use.noConfusion
  have hnoted : Moves (.holding c) w .resting (w.note (.released c)) :=
    .note rfl rfl rfl (if_pos rfl) (stands_of_hidden hhidden)
  exact hnoted.keep (hreact .release _)

theorem moves_publish (caller : Caller) (hreact : forall m v, Keeps v (react m v).1)
    (h : Moves u v .resting w) : exists u', Moves u v u' (w.publish caller react) := by
  apply @publish_induction caller react (fun x => exists u', Moves u v u' x)
  · intro _
    exact ⟨.resting, h⟩
  · intro o hooks call _
    exact ⟨.shown, h.trans (.note rfl rfl rfl rfl (fun _ => rfl))⟩
  · rintro o _ _ _ hook x ⟨u', hx⟩
    exact ⟨u', hx.keep (keeps_runHook hreact o hook x)⟩

theorem moves_settle (held : Option Connection) (o : Outcome) (h : Moves u v u' w)
    (hhidden : w.call.published = false) (hafter : u'.after? (.settled held) = some u'') :
    (w.settle held o).2 = true ∧ Moves u v u'' (w.settle held o).1 ∨
      w.settle held o = (w, false) := by
  unfold settle
  split
  · rename_i call hcall
    have hpublished : call.published = false :=
      (Call.outcome_of_settle? hcall).right.right.trans hhidden
    exact Or.inl ⟨rfl, h.trans (.note rfl rfl rfl hafter (stands_of_hidden hpublished))⟩
  · exact Or.inr rfl

theorem outline_moves (caller : Caller) (hreact : forall m v, Keeps v (react m v).1)
    (c : Connection) (u : Use) (v : World) :
    Outline caller react c (fun _ => Moves u v (.holding c)) (Moves u v (.holding c))
      (fun _ => Moves u v .resting) (fun w => exists u', Moves u v u' w) where
  notice {_ m e w} hnotice hw := by
    have hkeeps : Keeps w (w.fire react m e).1 := by
      cases hnotice <;> exact keeps_fire hreact _ rfl (fun _ => rfl) w
    exact hw.keep hkeeps
  cookie k hw := hw.keep (.of_same rfl rfl rfl)
  settle {_ w} o hw := by
    rcases moves_settle (some c) o hw (hw.stands.hidden Use.noConfusion) rfl with
      ⟨_, hsettled⟩ | hsame
    · exact hsettled
    · rw [hsame]
      exact hw
  follow hw hcount :=
    hw.keep (.of_same rfl (Call.outcome_of_countRedirect? hcount).right.right rfl)
  release hw := hw.trans (moves_release hreact hw.stands)
  publish hw := moves_publish caller hreact hw
  leave hw := ⟨.resting, hw⟩

end Deeds
end World
end HttpCall
