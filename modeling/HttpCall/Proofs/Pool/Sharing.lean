import HttpCall.Proofs.Pool.Answers
import HttpCall.Proofs.Pool.Chronicle

/-!
# Calls that share a pool

Calls take their beats in any order, and all of them ask the same pool.  A call never has
more than one place, and none any more when its end shows.  So if a call is executed only
while fewer calls are unfinished than the pool has places, nobody ever waits for one.
-/

namespace HttpCall

def Entry.isRefusal : Entry -> Bool
  | refused _ _ => true
  | _ => false

def Use.places (ticket : Nat) : Use -> List Nat
  | asking | holding _ => [ticket]
  | resting | denied | shown => []

namespace Pool

/-- What becomes of the pool when an entry is noted by the call with this ticket; nothing if
the pool gives no such answer.  A connection is acquired by whoever has a place, and refused
to whoever has none and does not wait.  An acquisition that the call did not wait for to the
end is given up by the time the end of the call is recorded. -/
def note? (clockStart : Nat) (p : Pool) (ticket : Nat) : Entry -> Option Pool
  | .acquired _ => if p.holds ticket then some p else none
  | .refused _ _ => if ticket ∈ p.tickets then none else some p
  | .released _ => some (p.step clockStart (.giveBack ticket))
  | .settled none => some (p.step clockStart (.abandon ticket))
  | _ => some p

structure Serves (p : Pool) (ticket : Nat) (u : Use) (others : List Nat) : Prop where
  sound : p.Sound
  quiet : p.waiting = []
  holders : p.holders.Perm (u.places ticket ++ others)

section Serving

variable {clockStart ticket next : Nat} {p q : Pool} {u u' : Use} {others : List Nat}

theorem Serves.of_places (h : Serves p ticket u others)
    (hplaces : u'.places ticket = u.places ticket) : Serves p ticket u' others := by
  refine ⟨h.sound, h.quiet, ?_⟩
  rw [hplaces]
  exact h.holders

theorem Serves.mem_holders (h : Serves p ticket u others)
    (hplaces : u.places ticket = [ticket]) : ticket ∈ p.holders := by
  rw [h.holders.mem_iff, hplaces]
  exact List.mem_cons_self

theorem Serves.ask (h : Serves p ticket .resting others) (hfree : 0 < p.free)
    (hnext : next ∉ p.tickets) :
    Serves (p.step clockStart (.ask next)) next .asking others := by
  rcases Nat.exists_eq_add_one_of_ne_zero (Nat.ne_of_gt hfree) with ⟨free, heq⟩
  have hsound : (p.step clockStart (.ask next)).Sound := by
    apply sound_step h.sound
    intro t ht
    cases ht
    exact hnext
  rw [step_ask_of_free heq] at hsound ⊢
  exact ⟨hsound, h.quiet, h.holders.cons next⟩

theorem Serves.giveBack (h : Serves p ticket u others)
    (hplaces : u.places ticket = [ticket]) :
    Serves (p.step clockStart (.giveBack ticket)) ticket .resting others := by
  have hticket := h.mem_holders hplaces
  have hsound : (p.step clockStart (.giveBack ticket)).Sound := sound_vacate h.sound ticket
  have hholders := h.holders
  rw [hplaces] at hholders
  rw [step_giveBack_of_quiet clockStart h.quiet hticket] at hsound ⊢
  refine ⟨hsound, h.quiet, ?_⟩
  have herased := hholders.erase ticket
  rwa [List.singleton_append, List.erase_cons_head] at herased

theorem Serves.note (h : Serves p ticket u others) (hu : u ≠ .denied) {e : Entry}
    (hafter : u.after? e = some u') (hnote : p.note? clockStart ticket e = some q) :
    Serves q ticket u' others ∧ u' ≠ .denied ∧ e.isRefusal = false := by
  cases e with
  | acquired c =>
      rcases Option.ite_none_right_eq_some.mp hafter with ⟨rfl, hu'⟩
      cases hu'
      have hheld : p.holds ticket = true := holds_iff.mpr (h.mem_holders rfl)
      have hsame : p.note? clockStart ticket (.acquired c) = some p := if_pos hheld
      cases hsame.symm.trans hnote
      exact ⟨h.of_places rfl, Use.noConfusion, rfl⟩
  | refused target cause =>
      rcases Option.ite_none_right_eq_some.mp hafter with ⟨rfl, _⟩
      have hticket : ticket ∈ p.tickets := mem_tickets.mpr (Or.inl (h.mem_holders rfl))
      have hnone : p.note? clockStart ticket (.refused target cause) = none := if_pos hticket
      cases hnone.symm.trans hnote
  | released c =>
      rcases Option.ite_none_right_eq_some.mp hafter with ⟨rfl, hu'⟩
      cases hu'
      cases hnote
      exact ⟨h.giveBack rfl, Use.noConfusion, rfl⟩
  | settled held =>
      cases held with
      | none =>
          rcases Option.ite_none_right_eq_some.mp hafter with ⟨hwished, hu'⟩
          cases hwished.resolve_right hu
          cases hu'
          cases hnote
          rw [h.sound.declined (h.mem_holders rfl)]
          exact ⟨h.giveBack rfl, Use.noConfusion, rfl⟩
      | some c =>
          cases hafter
          cases hnote
          exact ⟨h, hu, rfl⟩
  | published =>
      rcases Option.ite_none_right_eq_some.mp hafter with ⟨rfl, hu'⟩
      cases hu'
      cases hnote
      exact ⟨h.of_places rfl, Use.noConfusion, rfl⟩
  | _ =>
      cases hafter
      cases hnote
      exact ⟨h, hu, rfl⟩

theorem size_note {e : Entry} (hnote : p.note? clockStart ticket e = some q) :
    q.size = p.size ∧ forall t, t ∈ q.tickets -> t ∈ p.tickets := by
  have hstep : forall h : Happening, h.asked? = none -> (p.step clockStart h).size = p.size ∧
      forall t, t ∈ (p.step clockStart h).tickets -> t ∈ p.tickets := by
    intro h hasked
    refine ⟨(size_step clockStart p h).left, ?_⟩
    intro t ht
    rcases tickets_step ht with hold | hnew
    · exact hold
    · rw [hasked] at hnew
      cases hnew
  unfold note? at hnote
  split at hnote
  · cases (Option.ite_none_right_eq_some.mp hnote).right
    exact ⟨rfl, fun _ ht => ht⟩
  · cases (Option.ite_none_left_eq_some.mp hnote).right
    exact ⟨rfl, fun _ ht => ht⟩
  · cases hnote
    exact hstep (.giveBack ticket) rfl
  · cases hnote
    exact hstep (.abandon ticket) rfl
  · cases hnote
    exact ⟨rfl, fun _ ht => ht⟩

end Serving
end Pool

/-!
## Calls in any order
-/

/-- A call that asks a pool: its last ticket, and its story up to now and from now on. -/
structure Share where
  ticket : Nat
  done : List Beat
  rest : List Beat

namespace Share

def take (s : Share) (ticket : Nat) (b : Beat) (rest : List Beat) : Share :=
  ⟨ticket, s.done ++ [b], rest⟩

def isFinished (s : Share) : Bool := s.done.any Beat.isTerminal

def use (s : Share) : Option Use := Use.resting.run? s.done

def places (s : Share) : List Nat :=
  match s.use with
  | some u => u.places s.ticket
  | none => []

end Share

/-- Calls that share a pool, in the order in which they were executed.  One that broke down
takes no more beats and keeps what it has. -/
structure Crowd where
  pool : Pool
  shares : List Share
  nextTicket : Nat

namespace Crowd

inductive Choice where
  /-- Execute a call with this story: its first beat is taken at once. -/
  | execute (story : List Beat)
  /-- The call at an index takes its next beat. -/
  | proceed (index : Nat)
  | advance (time : Nat)

def opening (p : Pool) : Crowd := ⟨p, [], 0⟩

def unfinished (c : Crowd) : Nat := c.shares.countP fun s => !s.isFinished

def enter (c : Crowd) (story : List Beat) : Crowd :=
  { c with shares := c.shares ++ [⟨c.nextTicket, [], story⟩] }

def proceed? (clockStart : Nat) (c : Crowd) (index : Nat) : Option Crowd :=
  match c.shares[index]? with
  | none => none
  | some s =>
      match s.rest with
      | [] => none
      | .ask :: rest => some {
          pool := c.pool.step clockStart (.ask c.nextTicket)
          shares := c.shares.set index (s.take c.nextTicket .ask rest)
          nextTicket := c.nextTicket + 1 }
      | .told t :: rest =>
          (c.pool.note? clockStart s.ticket t.entry).map fun pool => { c with
            pool := pool
            shares := c.shares.set index (s.take s.ticket (.told t) rest) }

/-- A call is executed only while fewer calls are unfinished than the pool has places. -/
def step? (clockStart : Nat) (c : Crowd) : Choice -> Option Crowd
  | .execute story =>
      if c.unfinished < c.pool.size then
        (c.enter story).proceed? clockStart c.shares.length
      else none
  | .proceed index => c.proceed? clockStart index
  | .advance time => some { c with pool := c.pool.step clockStart (.advance time) }

def run? (clockStart : Nat) (c : Crowd) (choices : List Choice) : Option Crowd :=
  choices.foldlM (step? clockStart) c

end Crowd

/-!
## Places and unfinished calls
-/

structure Share.Follows (s : Share) : Prop where
  story : exists u, Use.resting.run? (s.done ++ s.rest) = some u
  granted : s.use ≠ some .denied
  unrefused : forall t, Beat.told t ∈ s.done -> t.entry.isRefusal = false

namespace Share

variable {s : Share} {u : Use}

theorem Follows.use (h : s.Follows) :
    exists u, s.use = some u ∧ exists u', u.run? s.rest = some u' := by
  rcases h.story with ⟨u', hstory⟩
  rw [Use.run?_append] at hstory
  rcases Option.bind_eq_some_iff.mp hstory with ⟨u, hu, hrest⟩
  exact ⟨u, hu, u', hrest⟩

theorem places_of_use (h : s.use = some u) : s.places = u.places s.ticket := by
  unfold places
  rw [h]

theorem use_of_isFinished (h : s.use = some u) (hfinished : s.isFinished = true) :
    u = .shown :=
  Use.run?_of_isTerminal h hfinished

theorem isFinished_take {ticket : Nat} {b : Beat} {rest : List Beat}
    (h : s.isFinished = true) : (s.take ticket b rest).isFinished = true := by
  show (s.done ++ [b]).any Beat.isTerminal = true
  rw [List.any_append, show s.done.any Beat.isTerminal = true from h]
  rfl

theorem Follows.length_places_le (h : s.Follows) :
    s.places.length <= if (!s.isFinished) = true then 1 else 0 := by
  rcases h.use with ⟨u, hu, _⟩
  rw [places_of_use hu]
  cases hfinished : s.isFinished with
  | true =>
      cases use_of_isFinished hu hfinished
      exact Nat.le_refl 0
  | false =>
      cases u <;> simp [Use.places]

theorem length_places_le {shares : List Share} (h : forall s, s ∈ shares -> s.Follows) :
    (shares.flatMap places).length <= shares.countP fun s => !s.isFinished := by
  induction shares with
  | nil =>
      exact Nat.le_refl 0
  | cons s rest ih =>
      have hfirst := (h s List.mem_cons_self).length_places_le
      have hrest := ih fun x hx => h x (List.mem_cons_of_mem s hx)
      rw [List.flatMap_cons, List.length_append, List.countP_cons, Nat.add_comm]
      exact Nat.add_le_add hrest hfirst

theorem places_middle (s : Share) (before after : List Share) :
    ((before ++ s :: after).flatMap places).Perm
      (s.places ++ (before ++ after).flatMap places) := by
  have hmiddle : (before ++ s :: after).Perm (s :: (before ++ after)) := List.perm_middle
  exact hmiddle.flatMap_right places

theorem Follows.take {b : Beat} {rest : List Beat} {u' : Use} (h : s.Follows)
    (hrest : s.rest = b :: rest) (hu : s.use = some u) (hnext : u.next? b = some u')
    (hgranted : u' ≠ .denied) (hrefused : forall t, b = .told t -> t.entry.isRefusal = false)
    (ticket : Nat) :
    (s.take ticket b rest).Follows ∧ (s.take ticket b rest).use = some u' := by
  have huse : (s.take ticket b rest).use = some u' := by
    show Use.resting.run? (s.done ++ [b]) = some u'
    rw [Use.run?_append_of_eq hu, Use.run?_cons, hnext]
    rfl
  constructor
  · constructor
    · rcases h.story with ⟨x, hstory⟩
      refine ⟨x, ?_⟩
      rw [hrest] at hstory
      show Use.resting.run? (s.done ++ [b] ++ rest) = some x
      rwa [List.append_assoc]
    · rw [huse]
      intro heq
      exact hgranted (Option.some.inj heq)
    · intro t ht
      rcases List.mem_append.mp ht with hdone | hb
      · exact h.unrefused t hdone
      · exact hrefused t (List.mem_singleton.mp hb).symm
  · exact huse

end Share

namespace Crowd

open Pool

/-- Nobody waits, the places are those of the calls, and there are as many places as
unfinished calls. -/
structure Fits (c : Crowd) : Prop where
  sound : c.pool.Sound
  quiet : c.pool.waiting = []
  holders : c.pool.holders.Perm (c.shares.flatMap Share.places)
  fresh : forall t, t ∈ c.pool.tickets -> t < c.nextTicket
  follows : forall s, s ∈ c.shares -> s.Follows
  few : c.unfinished <= c.pool.size

namespace Fits

variable {clockStart : Nat} {c d : Crowd} {s s' : Share} {u u' : Use}
  {before after : List Share} {rest : List Beat}

theorem length_holders_le (h : Fits c) : c.pool.holders.length <= c.unfinished := by
  rw [h.holders.length_eq]
  exact Share.length_places_le h.follows

theorem free_of_unfinished (h : Fits c) (hroom : c.unfinished < c.pool.size) :
    0 < c.pool.free := by
  have htotal := h.sound.total
  have hholders := h.length_holders_le
  omega

theorem others (h : Fits c) (hshares : c.shares = before ++ s :: after) :
    forall x, x ∈ before ++ after -> x.Follows := by
  intro x hx
  apply h.follows
  rw [hshares]
  exact List.perm_middle.mem_iff.mpr (List.mem_cons_of_mem s hx)

theorem serves (h : Fits c) (hshares : c.shares = before ++ s :: after)
    (hu : s.use = some u) :
    Serves c.pool s.ticket u ((before ++ after).flatMap Share.places) := by
  refine ⟨h.sound, h.quiet, ?_⟩
  have hplaces := h.holders
  rw [hshares] at hplaces
  rw [← Share.places_of_use hu]
  exact hplaces.trans (s.places_middle before after)

theorem of_serves (h : Fits c) (hshares : c.shares = before ++ s :: after) {q : Pool}
    {next : Nat} (hs' : s'.Follows) (hu' : s'.use = some u')
    (hserves : Serves q s'.ticket u' ((before ++ after).flatMap Share.places))
    (hsize : q.size = c.pool.size) (hfresh : forall t, t ∈ q.tickets -> t < next)
    (hfinished : s.isFinished = true -> s'.isFinished = true) :
    Fits ⟨q, before ++ s' :: after, next⟩ where
  sound := hserves.sound
  quiet := hserves.quiet
  holders := by
    have hplaces := hserves.holders
    rw [← Share.places_of_use hu'] at hplaces
    exact hplaces.trans (s'.places_middle before after).symm
  fresh := hfresh
  follows := by
    intro x hx
    rcases List.mem_cons.mp (List.perm_middle.mem_iff.mp hx) with rfl | hother
    · exact hs'
    · exact h.others hshares x hother
  few := by
    have hfew := h.few
    unfold unfinished at hfew ⊢
    rw [hshares, List.countP_append, List.countP_cons] at hfew
    show (before ++ s' :: after).countP _ <= q.size
    rw [List.countP_append, List.countP_cons, hsize]
    have hone : (if (!s'.isFinished) = true then 1 else 0) <=
        if (!s.isFinished) = true then 1 else 0 := by
      cases hs : s.isFinished with
      | false => split <;> simp
      | true => simp [hfinished hs]
    omega

/-- Whoever is about to ask is unfinished and has no place, so there is one left. -/
theorem free_of_ask (h : Fits c) (hs : s ∈ c.shares) (hrest : s.rest = .ask :: rest) :
    s.use = some .resting ∧ 0 < c.pool.free := by
  rcases (h.follows s hs).use with ⟨u, hu, u', hrun⟩
  rw [hrest, Use.run?_cons] at hrun
  rcases Option.bind_eq_some_iff.mp hrun with ⟨x, hnext, _⟩
  rcases Option.ite_none_right_eq_some.mp hnext with ⟨rfl, _⟩
  refine ⟨hu, ?_⟩
  have hunfinished : s.isFinished = false := by
    rw [← Bool.not_eq_true]
    intro hfinished
    cases Share.use_of_isFinished hu hfinished
  rcases List.append_of_mem hs with ⟨before, after, hshares⟩
  have hothers := Share.length_places_le (h.others hshares)
  have hholders := (h.serves hshares hu).holders.length_eq
  have hfew := h.few
  have htotal := h.sound.total
  unfold unfinished at hfew
  rw [hshares, List.countP_append, List.countP_cons, hunfinished] at hfew
  rw [List.countP_append] at hothers
  rw [Use.places, List.nil_append] at hholders
  rw [Bool.not_false, if_pos rfl] at hfew
  omega

theorem ask (h : Fits c) (hshares : c.shares = before ++ s :: after)
    (hrest : s.rest = .ask :: rest) :
    Fits ⟨c.pool.step clockStart (.ask c.nextTicket),
      before ++ s.take c.nextTicket .ask rest :: after, c.nextTicket + 1⟩ := by
  have hs : s ∈ c.shares := by
    rw [hshares]
    exact List.mem_append_right before List.mem_cons_self
  rcases h.free_of_ask hs hrest with ⟨hu, hfree⟩
  rcases (h.follows s hs).take hrest hu rfl Use.noConfusion (fun _ => Beat.noConfusion)
    c.nextTicket with ⟨hs', hu'⟩
  have hnext : c.nextTicket ∉ c.pool.tickets :=
    fun hmem => Nat.lt_irrefl _ (h.fresh c.nextTicket hmem)
  refine h.of_serves hshares hs' hu' ((h.serves hshares hu).ask hfree hnext)
    (size_step clockStart c.pool (.ask c.nextTicket)).left ?_ Share.isFinished_take
  intro t ht
  rcases tickets_step ht with hold | hnew
  · exact Nat.lt_succ_of_lt (h.fresh t hold)
  · cases hnew
    exact Nat.lt_succ_self _

theorem told (h : Fits c) (hshares : c.shares = before ++ s :: after) {t : Stamped}
    (hrest : s.rest = .told t :: rest) {q : Pool}
    (hnote : c.pool.note? clockStart s.ticket t.entry = some q) :
    Fits ⟨q, before ++ s.take s.ticket (.told t) rest :: after, c.nextTicket⟩ := by
  have hs : s ∈ c.shares := by
    rw [hshares]
    exact List.mem_append_right before List.mem_cons_self
  have hfollows := h.follows s hs
  rcases hfollows.use with ⟨u, hu, x, hrun⟩
  have hdenied : u ≠ .denied := by
    rintro rfl
    exact hfollows.granted hu
  rw [hrest, Use.run?_cons] at hrun
  rcases Option.bind_eq_some_iff.mp hrun with ⟨u', hnext, _⟩
  rcases (h.serves hshares hu).note hdenied (Use.next?_told.mp hnext).left hnote with
    ⟨hserves, hdenied', hrefusal⟩
  rcases size_note hnote with ⟨hsize, htickets⟩
  have hunrefused : forall y, Beat.told t = .told y -> y.entry.isRefusal = false := by
    rintro y ⟨⟩
    exact hrefusal
  rcases hfollows.take hrest hu hnext hdenied' hunrefused s.ticket with ⟨hs', hu'⟩
  exact h.of_serves hshares hs' hu' hserves hsize (fun y hy => h.fresh y (htickets y hy))
    Share.isFinished_take

theorem proceed (h : Fits c) {index : Nat} (hd : c.proceed? clockStart index = some d) :
    Fits d := by
  unfold proceed? at hd
  cases hindex : c.shares[index]? with
  | none =>
      rw [hindex] at hd
      cases hd
  | some s =>
      rcases List.getElem?_eq_some_iff.mp hindex with ⟨hlength, hs⟩
      have hsplit : forall s', exists before after, c.shares = before ++ s :: after ∧
          c.shares.set index s' = before ++ s' :: after := by
        intro s'
        rcases @List.exists_of_set _ index s' c.shares hlength with
          ⟨before, after, hshares, _, hset⟩
        rw [hs] at hshares
        exact ⟨before, after, hshares, hset⟩
      rw [hindex] at hd
      dsimp only at hd
      cases hrest : s.rest with
      | nil =>
          rw [hrest] at hd
          cases hd
      | cons b rest =>
          rw [hrest] at hd
          cases b with
          | ask =>
              cases hd
              rcases hsplit (s.take c.nextTicket .ask rest) with ⟨before, after, hshares, hset⟩
              rw [hset]
              exact h.ask hshares hrest
          | told t =>
              rcases Option.map_eq_some_iff.mp hd with ⟨q, hnote, rfl⟩
              rcases hsplit (s.take s.ticket (.told t) rest) with
                ⟨before, after, hshares, hset⟩
              rw [hset]
              exact h.told hshares hrest hnote

theorem enter (h : Fits c) {story : List Beat}
    (hstory : exists u, Use.resting.run? story = some u)
    (hroom : c.unfinished < c.pool.size) : Fits (c.enter story) where
  sound := h.sound
  quiet := h.quiet
  holders := by
    show c.pool.holders.Perm ((c.shares ++ [_]).flatMap Share.places)
    rw [List.flatMap_append]
    show c.pool.holders.Perm (c.shares.flatMap Share.places ++ [])
    rw [List.append_nil]
    exact h.holders
  fresh := h.fresh
  follows := by
    intro s hs
    rcases List.mem_append.mp hs with hold | hnew
    · exact h.follows s hold
    · cases List.mem_singleton.mp hnew
      constructor
      · exact hstory
      · intro hdenied
        cases hdenied
      · intro t ht
        exact absurd ht List.not_mem_nil
  few := by
    show (c.shares ++ [_]).countP _ <= c.pool.size
    rw [List.countP_append]
    exact hroom

theorem step (h : Fits c) {choice : Choice}
    (hstory : forall story, choice = .execute story -> IsStory story)
    (hd : c.step? clockStart choice = some d) : Fits d := by
  cases choice with
  | execute story =>
      rcases Option.ite_none_right_eq_some.mp hd with ⟨hroom, hproceed⟩
      exact (h.enter (hstory story rfl).run? hroom).proceed hproceed
  | proceed index =>
      exact h.proceed hd
  | advance time =>
      cases hd
      rw [step_advance_of_quiet clockStart h.quiet]
      constructor
      · exact ⟨h.sound.total, h.sound.idle, h.sound.distinct⟩
      · exact h.quiet
      · exact h.holders
      · exact h.fresh
      · exact h.follows
      · exact h.few

theorem run {choices : List Choice} (h : Fits c)
    (hstories : forall story, .execute story ∈ choices -> IsStory story)
    (hd : c.run? clockStart choices = some d) : Fits d := by
  induction choices generalizing c with
  | nil =>
      cases hd
      exact h
  | cons choice rest ih =>
      rcases Option.bind_eq_some_iff.mp hd with ⟨x, hx, hrest⟩
      have hfirst : Fits x := by
        apply h.step _ hx
        rintro story rfl
        exact hstories story List.mem_cons_self
      exact ih hfirst (fun story hs => hstories story (List.mem_cons_of_mem choice hs)) hrest

end Fits

/-- Nobody waits for a place and nobody was refused one: there is a place for each call that
may ask. -/
structure NeverDry (c : Crowd) : Prop where
  quiet : c.pool.waiting = []
  unrefused : forall s, s ∈ c.shares ->
    forall t, Beat.told t ∈ s.done -> t.entry.isRefusal = false
  used : forall s, s ∈ c.shares -> s.use ≠ none
  granted : forall s, s ∈ c.shares -> s.use = some .asking ->
    c.pool.holds s.ticket = true
  room : c.unfinished < c.pool.size -> 0 < c.pool.free
  /-- There is a place for the next question of a call that is under way. -/
  ready : forall s rest, s ∈ c.shares -> s.rest = .ask :: rest -> 0 < c.pool.free

theorem Fits.neverDry {c : Crowd} (h : Fits c) : NeverDry c where
  quiet := h.quiet
  unrefused s hs := (h.follows s hs).unrefused
  used s hs := by
    rcases (h.follows s hs).use with ⟨u, hu, _⟩
    rw [hu]
    exact Option.some_ne_none u
  granted s hs hasking := by
    apply holds_iff.mpr
    rw [h.holders.mem_iff]
    apply List.mem_flatMap.mpr
    refine ⟨s, hs, ?_⟩
    rw [Share.places_of_use hasking]
    exact List.mem_cons_self
  room := h.free_of_unfinished
  ready s rest hs hrest := (h.free_of_ask hs hrest).right

theorem fits_opening {size : Nat} {patience : Duration} {p : Pool}
    (hp : Pool.create size patience = .made p) : Fits (opening p) := by
  rcases sound_of_create hp with ⟨rfl, hsound⟩
  constructor
  · exact hsound
  · rfl
  · exact List.Perm.refl []
  · intro t ht
    exact absurd ht List.not_mem_nil
  · intro s hs
    exact absurd hs List.not_mem_nil
  · exact Nat.zero_le size

/-- Whatever calls share a pool and in whatever order they proceed, if each of them is
executed while fewer calls are unfinished than the pool has places, none of them ever waits
for a connection or is refused one. -/
theorem never_dry {size : Nat} {patience : Duration} {p : Pool}
    (hp : Pool.create size patience = .made p) (clockStart : Nat) {choices : List Choice}
    (hstories : forall story, .execute story ∈ choices -> IsStory story) {c : Crowd}
    (hc : (opening p).run? clockStart choices = some c) : NeverDry c := by
  have hopening : Fits (opening p) := fits_opening hp
  have hfits : Fits c := hopening.run hstories hc
  exact hfits.neverDry

theorem never_dry_in_turn :
    let story := Session.story Session.brittleCaller Session.brittleCaller.reaction 0 1
      Session.plainPlot (Session.plainRequest (some (.ofSeconds 1 0)))
      [Session.plainHop 5, Session.plainHop 7]
    let choices := .execute story :: (List.replicate 15 (.proceed 0) ++
      .execute story :: List.replicate 15 (.proceed 1))
    exists p c, Pool.create 1 (.ofSeconds 1 0) = .made p ∧ IsStory story ∧
      (opening p).run? 0 choices = some c ∧ c.shares.length = 2 ∧ c.unfinished = 0 ∧
      NeverDry c := by
  intro story choices
  have hwithin : Session.brittleCaller.Within False := by decide
  have hkeeps : forall h, h ∈ [Session.plainHop 5, Session.plainHop 7] ->
      KeepsOut h.acquireActions ∧ KeepsOut h.actions := by decide
  have hstory : IsStory story :=
    .intro _ _ 0 1 _ _ _ (Caller.reaction_conduct hwithin) hkeeps
  have hstories : forall other, .execute other ∈ choices -> IsStory other := by
    intro other hother
    have hsame : other = story := by
      simpa [choices, List.mem_replicate] using hother
    rw [hsame]
    exact hstory
  have hpool : Pool.create 1 (.ofSeconds 1 0) =
      .made ⟨1, .ofSeconds 1 0, 1, [], [], 0⟩ := rfl
  have hends : ((opening ⟨1, .ofSeconds 1 0, 1, [], [], 0⟩).run? 0 choices).any
      (fun c => c.shares.length = 2 ∧ c.unfinished = 0) = true := by decide +kernel
  rcases (Option.any_eq_true _ _).mp hends with ⟨c, hc, hcounts⟩
  rcases of_decide_eq_true hcounts with ⟨hshares, hunfinished⟩
  exact ⟨_, c, hpool, hstory, hc, hshares, hunfinished, never_dry hpool 0 hstories hc⟩

end Crowd
end HttpCall
