import HttpCall.Pool.Usage
import HttpCall.Proofs.Pool.Accounting

/-!
# What a pool answers

A user of a pool has his places under names, or has appointed times at which they are given
back.  So an acquisition is answered at once if a place is free, in time if one is given back
before the patience of the pool is at an end, and with an error otherwise.
-/

namespace HttpCall
namespace Pool

section

variable {ticket : Nat} {p : Pool}

theorem step_giveBack_of_quiet (clockStart : Nat) (hwaiting : p.waiting = [])
    (hticket : ticket ∈ p.holders) :
    p.step clockStart (.giveBack ticket) =
      { p with free := p.free + 1, holders := p.holders.erase ticket } := by
  show p.vacate ticket = _
  have hvacates := vacates_of_mem hticket
  generalize p.vacate ticket = q at hvacates
  cases hvacates with
  | free hnone => rfl
  | passedOn first rest hsome =>
      rw [hwaiting] at hsome
      cases hsome

theorem step_advance_of_quiet (clockStart : Nat) (hwaiting : p.waiting = []) (time : Nat) :
    p.step clockStart (.advance time) = { p with now := max p.now time } := by
  simp only [step, hwaiting, List.filter_nil]

theorem step_giveBack_of_single (clockStart : Nat) {w : Waiter} (hwaiting : p.waiting = [w])
    (hticket : ticket ∈ p.holders) :
    p.step clockStart (.giveBack ticket) =
      { p with holders := w.ticket :: p.holders.erase ticket, waiting := [] } := by
  show p.vacate ticket = _
  have hvacates := vacates_of_mem hticket
  generalize p.vacate ticket = q at hvacates
  cases hvacates with
  | free hnone =>
      rw [hwaiting] at hnone
      cases hnone
  | passedOn first rest hsome =>
      rw [hwaiting] at hsome
      cases hsome
      rfl

theorem step_advance_of_single (clockStart : Nat) {w : Waiter} (hwaiting : p.waiting = [w])
    {time : Nat} (htime : max p.now time < w.expiry) :
    p.step clockStart (.advance time) = { p with now := max p.now time } := by
  simp only [step, hwaiting, List.filter_cons, List.filter_nil, decide_eq_true htime, if_true]

theorem step_advance_of_expired (clockStart : Nat) {w : Waiter} (hwaiting : p.waiting = [w])
    {time : Nat} (htime : w.expiry <= max p.now time) :
    p.step clockStart (.advance time) = { p with waiting := [], now := max p.now time } := by
  have hgone : decide (max p.now time < w.expiry) = false :=
    decide_eq_false (Nat.not_lt.mpr htime)
  simp only [step, hwaiting, List.filter_cons, List.filter_nil, hgone, Bool.false_eq_true,
    if_false]

theorem steps_of_due (clockStart next : Nat) (hfree : p.free = 0) (hwaiting : p.waiting = [])
    (hticket : ticket ∈ p.holders) {time : Nat} (hnow : p.now <= time)
    (htime : time < p.expiry clockStart) :
    ((p.step clockStart (.ask next)).step clockStart (.advance time)).step clockStart
        (.giveBack ticket) =
      { p with holders := next :: p.holders.erase ticket, waiting := [], now := time } := by
  have hmax : max p.now time = time := Nat.max_eq_right hnow
  have hasked : p.step clockStart (.ask next) =
      { p with waiting := [⟨next, p.expiry clockStart⟩] } := by
    rw [step_ask_of_full hfree, hwaiting]
    rfl
  have hwaited : (p.step clockStart (.ask next)).step clockStart (.advance time) =
      { p with waiting := [⟨next, p.expiry clockStart⟩], now := time } := by
    rw [hasked, step_advance_of_single clockStart rfl]
    · show { p with waiting := _, now := max p.now time } = _
      rw [hmax]
    · show max p.now time < p.expiry clockStart
      rw [hmax]
      exact htime
  rw [hwaited]
  let q : Pool := { p with waiting := [⟨next, p.expiry clockStart⟩], now := time }
  exact step_giveBack_of_single (p := q) clockStart rfl hticket

theorem steps_of_late (clockStart next : Nat) (hfree : p.free = 0) (hwaiting : p.waiting = [])
    (hexpiry : p.now <= p.expiry clockStart) :
    (p.step clockStart (.ask next)).step clockStart (.advance (p.expiry clockStart)) =
      { p with waiting := [], now := p.expiry clockStart } := by
  have hmax : max p.now (p.expiry clockStart) = p.expiry clockStart :=
    Nat.max_eq_right hexpiry
  rw [step_ask_of_full hfree, hwaiting]
  rw [step_advance_of_expired clockStart rfl]
  · dsimp only
    rw [hmax]
  · exact Nat.le_max_right _ _

end

namespace Usage

def tickets (u : Usage) : List Nat :=
  u.held.map Prod.snd ++ u.appointments.map Appointment.ticket

/-- Nobody waits, and everybody who has a place has a name or an appointment for it, or is
one of those who are about to get one. -/
structure Kept (loose : List Nat) (u : Usage) : Prop where
  sound : u.pool.Sound
  quiet : u.pool.waiting = []
  owned : u.pool.holders.Perm (loose ++ u.tickets)
  named : (u.held.map Prod.fst).Nodup
  ordered : u.appointments.Pairwise fun a b => a.time <= b.time
  numbered : forall ticket, ticket ∈ u.pool.holders -> ticket < u.nextTicket

theorem kept_ofPool {p : Pool} {size : Nat} {patience : Duration}
    (hp : create size patience = .made p) (clockStart : Nat) :
    Kept [] (ofPool p clockStart) := by
  rcases sound_of_create hp with ⟨rfl, hsound⟩
  exact ⟨hsound, rfl, List.Perm.refl _, List.nodup_nil, List.Pairwise.nil,
    fun _ hticket => absurd hticket List.not_mem_nil⟩

section

variable {loose : List Nat} {u : Usage} {name : String} {ticket : Nat}

theorem Kept.giveBack (hu : Kept (ticket :: loose) u) :
    Kept loose (u.happen (.giveBack ticket)) := by
  have hticket : ticket ∈ u.pool.holders := hu.owned.mem_iff.mpr List.mem_cons_self
  have hsound : (u.happen (.giveBack ticket)).pool.Sound := sound_vacate hu.sound ticket
  have hpool : (u.happen (.giveBack ticket)).pool = _ :=
    step_giveBack_of_quiet u.clockStart hu.quiet hticket
  constructor
  · exact hsound
  · rw [hpool]
    exact hu.quiet
  · rw [hpool]
    have hrest := hu.owned.erase ticket
    rwa [List.cons_append, List.erase_cons_head] at hrest
  · exact hu.named
  · exact hu.ordered
  · rw [hpool]
    intro t ht
    exact hu.numbered t (List.mem_of_mem_erase ht)

theorem Kept.advance (hu : Kept loose u) (time : Nat) :
    Kept loose (u.happen (.advance time)) := by
  have hsound : (u.happen (.advance time)).pool.Sound :=
    hu.sound.thin List.filter_sublist
  have hpool : (u.happen (.advance time)).pool = _ :=
    step_advance_of_quiet u.clockStart hu.quiet time
  constructor
  · exact hsound
  · rw [hpool]
    exact hu.quiet
  · rw [hpool]
    exact hu.owned
  · exact hu.named
  · exact hu.ordered
  · rw [hpool]
    exact hu.numbered

/-!
## Names
-/

theorem perm_of_find {held : List (String × Nat)} (hnamed : (held.map Prod.fst).Nodup)
    (hfind : (held.find? fun entry => entry.1 = name).map Prod.snd = some ticket) :
    (held.map Prod.snd).Perm
      (ticket :: (held.filter fun entry => entry.1 ≠ name).map Prod.snd) := by
  induction held with
  | nil =>
      cases hfind
  | cons entry rest ih =>
      rw [List.map_cons, List.nodup_cons] at hnamed
      by_cases hname : entry.1 = name
      · rw [List.find?_cons_of_pos (by simpa using hname)] at hfind
        cases hfind
        have hothers : (rest.filter fun entry => entry.1 ≠ name) = rest := by
          apply List.filter_eq_self.mpr
          intro other hother
          rw [decide_eq_true_eq]
          intro heq
          apply hnamed.left
          rw [hname, ← heq]
          exact List.mem_map_of_mem hother
        rw [List.filter_cons_of_neg (by simpa using hname), hothers]
        exact List.Perm.refl _
      · rw [List.find?_cons_of_neg (by simpa using hname)] at hfind
        rw [List.filter_cons_of_pos (by simpa using hname)]
        exact ((ih hnamed.right hfind).cons entry.2).trans (List.Perm.swap _ _ _)

theorem name_not_mem_forget (u : Usage) (name : String) :
    name ∉ (u.forget name).held.map Prod.fst := by
  intro hmem
  rcases List.mem_map.mp hmem with ⟨entry, hentry, hname⟩
  have hother := (List.mem_filter.mp hentry).right
  rw [decide_eq_true_eq] at hother
  exact hother hname

theorem name_not_mem_of_none (hnone : u.ticket? name = none) :
    name ∉ u.held.map Prod.fst := by
  intro hmem
  rcases List.mem_map.mp hmem with ⟨entry, hentry, hname⟩
  have hmissed := List.find?_eq_none.mp (Option.map_eq_none_iff.mp hnone) entry hentry
  exact hmissed (decide_eq_true hname)

theorem Kept.forget (hu : Kept loose u) (hticket : u.ticket? name = some ticket) :
    Kept (ticket :: loose) (u.forget name) := by
  have hheld := perm_of_find hu.named hticket
  constructor
  · exact hu.sound
  · exact hu.quiet
  · apply hu.owned.trans
    have hall : (u.tickets).Perm (ticket :: (u.forget name).tickets) :=
      hheld.append_right (u.appointments.map Appointment.ticket)
    exact (hall.append_left loose).trans List.perm_middle
  · exact hu.named.sublist (List.filter_sublist.map Prod.fst)
  · exact hu.ordered
  · exact hu.numbered

theorem Kept.giveBackName (hu : Kept loose u) (name : String) :
    Kept loose (u.giveBack name) ∧ name ∉ (u.giveBack name).held.map Prod.fst := by
  unfold Usage.giveBack
  cases hticket : u.ticket? name with
  | none =>
      exact ⟨hu, name_not_mem_of_none hticket⟩
  | some ticket =>
      exact ⟨(hu.forget hticket).giveBack, name_not_mem_forget u name⟩

theorem Kept.keep (hu : Kept (ticket :: loose) u) (name : String) :
    Kept loose (u.keep name ticket) := by
  rcases hu.giveBackName name with ⟨hgiven, hfree⟩
  constructor
  · exact hgiven.sound
  · exact hgiven.quiet
  · exact hgiven.owned.trans List.perm_middle.symm
  · exact List.nodup_cons.mpr ⟨hfree, hgiven.named⟩
  · exact hgiven.ordered
  · exact hgiven.numbered

/-!
## Appointments
-/

theorem perm_insertByTime (a : Appointment) (l : List Appointment) :
    (insertByTime a l).Perm (a :: l) := by
  induction l with
  | nil =>
      exact List.Perm.refl _
  | cons b rest ih =>
      unfold insertByTime
      split
      · exact (ih.cons b).trans (List.Perm.swap _ _ _)
      · exact List.Perm.refl _

theorem pairwise_insertByTime {l : List Appointment} (a : Appointment)
    (hl : l.Pairwise fun b c => b.time <= c.time) :
    (insertByTime a l).Pairwise fun b c => b.time <= c.time := by
  induction l with
  | nil =>
      exact List.pairwise_singleton _ _
  | cons b rest ih =>
      rcases List.pairwise_cons.mp hl with ⟨hfirst, hrest⟩
      unfold insertByTime
      split
      · rename_i hba
        apply List.pairwise_cons.mpr
        refine ⟨?_, ih hrest⟩
        intro c hc
        rcases List.mem_cons.mp ((perm_insertByTime a rest).mem_iff.mp hc) with rfl | hc
        · exact hba
        · exact hfirst c hc
      · rename_i hab
        apply List.pairwise_cons.mpr
        refine ⟨?_, hl⟩
        intro c hc
        have hle : a.time <= b.time := Nat.le_of_not_le hab
        rcases List.mem_cons.mp hc with rfl | hc
        · exact hle
        · exact Nat.le_trans hle (hfirst c hc)

theorem Kept.appoint (hu : Kept loose u) (name : String) (afterMillis : Nat) :
    Kept loose (u.appoint name afterMillis) := by
  unfold Usage.appoint
  cases hticket : u.ticket? name with
  | none =>
      exact hu
  | some ticket =>
      have hforgotten := hu.forget hticket
      constructor
      · exact hforgotten.sound
      · exact hforgotten.quiet
      · apply hforgotten.owned.trans
        have happointed := (perm_insertByTime
          ⟨(u.forget name).pool.now + afterMillis, ticket⟩
          (u.forget name).appointments).map Appointment.ticket
        have hall := (happointed.append_left ((u.forget name).held.map Prod.snd)).trans
          List.perm_middle
        exact (List.perm_middle.symm.trans (hall.symm.append_left loose))
      · exact hforgotten.named
      · exact pairwise_insertByTime _ hforgotten.ordered
      · exact hforgotten.numbered

theorem Kept.next {a : Appointment} {rest : List Appointment}
    (hu : Kept loose { u with appointments := a :: rest }) :
    Kept (a.ticket :: loose) { u with appointments := rest } := by
  constructor
  · exact hu.sound
  · exact hu.quiet
  · apply hu.owned.trans
    show (loose ++ (u.held.map Prod.snd ++ (a.ticket :: rest.map Appointment.ticket))).Perm _
    exact (List.perm_middle.append_left loose).trans List.perm_middle
  · exact hu.named
  · exact (List.pairwise_cons.mp hu.ordered).right
  · exact hu.numbered

/-- Time passes, and appointments are kept meanwhile. -/
theorem kept_pass (stop : Pool -> Bool) (time : Nat) {l : List Appointment}
    (hu : Kept loose { u with appointments := l }) : Kept loose (pass stop time l u) := by
  induction l generalizing u with
  | nil =>
      exact hu
  | cons a rest ih =>
      unfold pass
      split
      · exact hu
      · exact ih (hu.next.advance (max a.time u.pool.now)).giveBack

theorem pass_of_stop (stop : Pool -> Bool) (hstop : stop u.pool = true) (time : Nat)
    (l : List Appointment) : pass stop time l u = { u with appointments := l } := by
  cases l with
  | nil =>
      rfl
  | cons a rest =>
      unfold pass
      rw [hstop]
      rfl

/-!
## Acquisitions
-/

def appointed (u : Usage) (givingBack : Option String) (afterMillis : Nat) : Usage :=
  match givingBack with
  | some name => u.appoint name afterMillis
  | none => u

def asking (u : Usage) : Usage :=
  { u.happen (.ask u.nextTicket) with nextTicket := u.nextTicket + 1 }

def finish (u : Usage) (target : Target) (name : String) : Usage × Answer :=
  let v := pass (fun p => p.holds u.nextTicket) (u.pool.expiry u.clockStart) u.appointments
    u.asking
  if v.pool.holds u.nextTicket then
    (v.keep name u.nextTicket, .acquired target (v.pool.now - u.pool.now))
  else
    let v := v.happen (.advance (u.pool.expiry u.clockStart))
    (v, .refused (v.pool.exhaustedError target) (v.pool.now - u.pool.now))

theorem pool_appointed (u : Usage) (givingBack : Option String) (afterMillis : Nat) :
    (u.appointed givingBack afterMillis).pool = u.pool ∧
      (u.appointed givingBack afterMillis).clockStart = u.clockStart ∧
      (u.appointed givingBack afterMillis).nextTicket = u.nextTicket := by
  unfold appointed
  cases givingBack with
  | none =>
      exact ⟨rfl, rfl, rfl⟩
  | some name =>
      unfold Usage.appoint
      dsimp only
      split <;> exact ⟨rfl, rfl, rfl⟩

theorem act_acquire (u : Usage) (target : Target) (name : String) (givingBack : Option String)
    (afterMillis : Nat) :
    u.act (.acquire target name givingBack afterMillis) =
      (u.appointed givingBack afterMillis).finish target name := by
  have hnow : u.pool.now = (u.appointed givingBack afterMillis).pool.now :=
    congrArg Pool.now (pool_appointed u givingBack afterMillis).left.symm
  unfold act
  dsimp only
  rw [hnow]
  cases givingBack with
  | none => rfl
  | some other => rfl

theorem Kept.appointed (hu : Kept loose u) (givingBack : Option String) (afterMillis : Nat) :
    Kept loose (u.appointed givingBack afterMillis) := by
  unfold Usage.appointed
  cases givingBack with
  | none => exact hu
  | some name => exact hu.appoint name afterMillis

theorem Kept.unused (hu : Kept loose u) : u.nextTicket ∉ u.pool.tickets := by
  rw [mem_tickets]
  rintro (hholder | hline)
  · exact Nat.lt_irrefl _ (hu.numbered _ hholder)
  · rw [line, hu.quiet] at hline
    cases hline

theorem Kept.sound_asking (hu : Kept loose u) : u.asking.pool.Sound := by
  show (u.pool.step u.clockStart (.ask u.nextTicket)).Sound
  apply sound_step hu.sound
  intro t ht
  cases ht
  exact hu.unused

theorem Kept.asking_of_free (hu : Kept loose u) (hfree : 0 < u.pool.free) :
    Kept (u.nextTicket :: loose) u.asking := by
  rcases Nat.exists_eq_add_one_of_ne_zero (Nat.ne_of_gt hfree) with ⟨free, heq⟩
  have hpool : u.asking.pool = _ := step_ask_of_free heq u.nextTicket
  constructor
  · exact hu.sound_asking
  · rw [hpool]
    exact hu.quiet
  · rw [hpool]
    exact hu.owned.cons u.nextTicket
  · exact hu.named
  · exact hu.ordered
  · rw [hpool]
    intro t ht
    rcases List.mem_cons.mp ht with rfl | hold
    · exact Nat.lt_succ_self _
    · exact Nat.lt_succ_of_lt (hu.numbered t hold)

theorem Kept.finish_of_free (hu : Kept [] u) (hfree : 0 < u.pool.free) (target : Target)
    (name : String) :
    Kept [] (u.finish target name).1 ∧ (u.finish target name).2 = .acquired target 0 := by
  have hasking := hu.asking_of_free hfree
  have hholds : u.asking.pool.holds u.nextTicket = true :=
    holds_iff.mpr (hasking.owned.mem_iff.mpr List.mem_cons_self)
  have hnow : u.asking.pool.now = u.pool.now := by
    rcases Nat.exists_eq_add_one_of_ne_zero (Nat.ne_of_gt hfree) with ⟨free, heq⟩
    rw [show u.asking.pool = _ from step_ask_of_free heq u.nextTicket]
  have hpass := pass_of_stop (fun p => p.holds u.nextTicket) hholds
    (u.pool.expiry u.clockStart) u.appointments
  unfold finish
  rw [hpass]
  dsimp only
  rw [if_pos hholds, hnow, Nat.sub_self]
  exact ⟨hasking.keep name, rfl⟩

theorem Kept.pool_asking_of_full (hu : Kept loose u) (hfree : u.pool.free = 0) :
    u.asking.pool = { u.pool with
      waiting := [⟨u.nextTicket, u.pool.expiry u.clockStart⟩] } := by
  have hstep : u.asking.pool = _ := step_ask_of_full hfree u.nextTicket
  rw [hstep, hu.quiet]
  rfl

theorem Kept.not_holds_asking (hu : Kept loose u) (hfree : u.pool.free = 0) :
    u.asking.pool.holds u.nextTicket = false := by
  rw [hu.pool_asking_of_full hfree]
  apply Bool.eq_false_iff.mpr
  intro hholds
  exact hu.unused (mem_tickets.mpr (Or.inl (holds_iff.mp hholds)))

theorem Kept.finish_of_due (hu : Kept [] u) (hfree : u.pool.free = 0) {a : Appointment}
    {rest : List Appointment} (happointments : u.appointments = a :: rest)
    (hdue : max a.time u.pool.now < u.pool.expiry u.clockStart) (target : Target)
    (name : String) :
    Kept [] (u.finish target name).1 ∧
      (u.finish target name).2 = .acquired target (max a.time u.pool.now - u.pool.now) := by
  let m := max a.time u.pool.now
  let v : Usage :=
    { (u.asking.happen (.advance m)).happen (.giveBack a.ticket) with appointments := rest }
  have hnext : Kept [a.ticket] { u with appointments := rest } := by
    apply Kept.next
    rw [← happointments]
    exact hu
  have hticket : a.ticket ∈ u.pool.holders := hnext.owned.mem_iff.mpr List.mem_cons_self
  have hpool : v.pool = { u.pool with
      holders := u.nextTicket :: u.pool.holders.erase a.ticket, waiting := [], now := m } :=
    steps_of_due u.clockStart u.nextTicket hfree hu.quiet hticket (Nat.le_max_right _ _) hdue
  have hholds : v.pool.holds u.nextTicket = true := by
    rw [hpool]
    exact holds_iff.mpr List.mem_cons_self
  have hpass : pass (fun p => p.holds u.nextTicket) (u.pool.expiry u.clockStart)
      u.appointments u.asking = v := by
    have hnow : u.asking.pool.now = u.pool.now := by
      rw [hu.pool_asking_of_full hfree]
    rw [happointments]
    unfold pass
    rw [hnow, hu.not_holds_asking hfree, Bool.false_or, if_neg]
    · exact pass_of_stop _ hholds _ rest
    · rw [decide_eq_true_eq]
      exact Nat.not_le.mpr hdue
  have hsound : v.pool.Sound :=
    sound_vacate (hu.sound_asking.thin List.filter_sublist) a.ticket
  have hkept : Kept [u.nextTicket] v := by
    constructor
    · exact hsound
    · rw [hpool]
    · rw [hpool]
      have hrest := hnext.owned.erase a.ticket
      rw [List.cons_append, List.erase_cons_head] at hrest
      exact hrest.cons u.nextTicket
    · exact hu.named
    · exact hnext.ordered
    · rw [hpool]
      intro t ht
      rcases List.mem_cons.mp ht with rfl | hold
      · exact Nat.lt_succ_self _
      · exact Nat.lt_succ_of_lt (hu.numbered t (List.mem_of_mem_erase hold))
  unfold finish
  rw [hpass]
  dsimp only
  rw [if_pos hholds, hpool]
  exact ⟨hkept.keep name, rfl⟩

theorem Kept.finish_of_late (hu : Kept [] u) (hfree : u.pool.free = 0)
    (hlate : forall a, a ∈ u.appointments ->
      u.pool.expiry u.clockStart <= max a.time u.pool.now)
    (hexpiry : u.pool.now <= u.pool.expiry u.clockStart) (target : Target) (name : String) :
    Kept [] (u.finish target name).1 ∧
      (u.finish target name).2 = .refused (u.pool.exhaustedError target)
        (u.pool.expiry u.clockStart - u.pool.now) ∧
      (u.finish target name).1.pool.free = u.pool.free ∧
      (u.finish target name).1.pool.holders = u.pool.holders := by
  have hasking := hu.pool_asking_of_full hfree
  have hpass : pass (fun p => p.holds u.nextTicket) (u.pool.expiry u.clockStart)
      u.appointments u.asking = u.asking := by
    have hnow : u.asking.pool.now = u.pool.now := by
      rw [hasking]
    cases happointments : u.appointments with
    | nil =>
        unfold pass
        rw [show u.asking = { u.asking with appointments := u.appointments } from rfl,
          happointments]
    | cons a rest =>
        have hfirst := hlate a (by rw [happointments]; exact List.mem_cons_self)
        unfold pass
        rw [hnow, hu.not_holds_asking hfree, Bool.false_or, if_pos (decide_eq_true hfirst),
          ← happointments]
        rfl
  have hpool : (u.asking.happen (.advance (u.pool.expiry u.clockStart))).pool =
      { u.pool with waiting := [], now := u.pool.expiry u.clockStart } :=
    steps_of_late u.clockStart u.nextTicket hfree hu.quiet hexpiry
  have hkept : Kept [] (u.asking.happen (.advance (u.pool.expiry u.clockStart))) := by
    constructor
    · exact hu.sound_asking.thin List.filter_sublist
    · rw [hpool]
    · rw [hpool]
      exact hu.owned
    · exact hu.named
    · exact hu.ordered
    · rw [hpool]
      intro t ht
      exact Nat.lt_succ_of_lt (hu.numbered t ht)
  unfold finish
  rw [hpass]
  dsimp only
  rw [if_neg (by rw [hu.not_holds_asking hfree]; exact Bool.false_ne_true), hpool]
  exact ⟨hkept, rfl, rfl, rfl⟩

/-- Appointments are kept in order: if the first one comes late, so do the others. -/
theorem Kept.late {a : Appointment} {rest : List Appointment} (hu : Kept loose u)
    (happointments : u.appointments = a :: rest) {time : Nat}
    (hlate : time <= max a.time u.pool.now) :
    forall b, b ∈ u.appointments -> time <= max b.time u.pool.now := by
  have hordered := hu.ordered
  rw [happointments] at hordered ⊢
  intro b hb
  rcases List.mem_cons.mp hb with rfl | hb
  · exact hlate
  · have hle : a.time <= b.time := (List.pairwise_cons.mp hordered).left b hb
    omega

theorem Kept.finish (hu : Kept [] u) (target : Target) (name : String) :
    Kept [] (u.finish target name).1 := by
  have hexpiry : u.pool.now <= u.pool.expiry u.clockStart := now_le_expiryAt u.pool _
  rcases Nat.eq_zero_or_pos u.pool.free with hfree | hfree
  · cases happointments : u.appointments with
    | nil =>
        have hlate : forall a, a ∈ u.appointments ->
            u.pool.expiry u.clockStart <= max a.time u.pool.now := by
          intro a ha
          rw [happointments] at ha
          cases ha
        exact (hu.finish_of_late hfree hlate hexpiry target name).left
    | cons a rest =>
        rcases Nat.lt_or_ge (max a.time u.pool.now) (u.pool.expiry u.clockStart)
          with hdue | hlate
        · exact (hu.finish_of_due hfree happointments hdue target name).left
        · exact (hu.finish_of_late hfree (hu.late happointments hlate) hexpiry target
            name).left
  · exact (hu.finish_of_free hfree target name).left

theorem Kept.act (hu : Kept [] u) (a : Act) : Kept [] (u.act a).1 := by
  cases a with
  | acquire target name givingBack afterMillis =>
      rw [act_acquire]
      exact (hu.appointed givingBack afterMillis).finish target name
  | release name => exact (hu.giveBackName name).left
  | drop name => exact (hu.giveBackName name).left
  | sleep millis =>
      have hpassed : Kept [] (pass (fun _ => false) (u.pool.now + millis) u.appointments u) :=
        kept_pass _ _ hu
      exact hpassed.advance _

def actAfter (u : Usage) (acts : List Act) : Usage := acts.foldl (fun v a => (v.act a).1) u

theorem Kept.actAfter (hu : Kept [] u) (acts : List Act) : Kept [] (u.actAfter acts) := by
  induction acts generalizing u with
  | nil =>
      exact hu
  | cons a rest ih =>
      exact ih (hu.act a)

/-- How acquisitions are answered: at once if a place is free; before the patience of the
pool is at an end if a place is given back by then; or else at its end, with an error, and
nothing else has changed. -/
structure Answers (u : Usage) : Prop where
  ledger : Ledger u.clockStart u.pool
  idle : u.pool.waiting = []
  atOnce : forall target name givingBack afterMillis, 0 < u.pool.free ->
    (u.act (.acquire target name givingBack afterMillis)).2 = .acquired target 0
  inTime : forall target name givingBack afterMillis, u.pool.free = 0 ->
    Clock.after? (u.clockStart + u.pool.now * 1000000) u.pool.patience ≠ none ->
    (exists a, a ∈ (u.appointed givingBack afterMillis).appointments ∧
      max a.time u.pool.now < u.pool.now + u.pool.patience.ceilMillis) ->
    exists waited, waited < u.pool.patience.ceilMillis ∧
      (u.act (.acquire target name givingBack afterMillis)).2 = .acquired target waited
  exhausted : forall target name givingBack afterMillis, u.pool.free = 0 ->
    Clock.after? (u.clockStart + u.pool.now * 1000000) u.pool.patience ≠ none ->
    (forall a, a ∈ (u.appointed givingBack afterMillis).appointments ->
      u.pool.now + u.pool.patience.ceilMillis <= max a.time u.pool.now) ->
    (exists e, e.kind = .exhausted ∧
      (u.act (.acquire target name givingBack afterMillis)).2 =
        .refused e u.pool.patience.ceilMillis) ∧
    (u.act (.acquire target name givingBack afterMillis)).1.pool.free = u.pool.free ∧
    (u.act (.acquire target name givingBack afterMillis)).1.pool.holders = u.pool.holders

theorem Kept.answers (hu : Kept [] u) : Answers u where
  ledger := hu.sound.ledger
  idle := hu.quiet
  atOnce target name givingBack afterMillis hfree := by
    have happointed := hu.appointed givingBack afterMillis
    rw [← (pool_appointed u givingBack afterMillis).left] at hfree
    rw [act_acquire]
    exact (happointed.finish_of_free hfree target name).right
  inTime target name givingBack afterMillis hfree hclock := by
    rintro ⟨b, hb, hbefore⟩
    have happointed := hu.appointed givingBack afterMillis
    have hexpiry : u.pool.expiry u.clockStart = _ := expiryAt_of_clock hclock
    rcases pool_appointed u givingBack afterMillis with ⟨hpool, hclockStart, _⟩
    rw [act_acquire]
    generalize u.appointed givingBack afterMillis = v at hb happointed hpool hclockStart
    rw [← hpool] at hfree hbefore hexpiry
    rw [← hclockStart] at hexpiry
    cases happointments : v.appointments with
    | nil =>
        rw [happointments] at hb
        cases hb
    | cons a rest =>
        have hdue : max a.time v.pool.now < v.pool.expiry v.clockStart := by
          rcases Nat.lt_or_ge (max a.time v.pool.now) (v.pool.expiry v.clockStart)
            with hdue | hlate
          · exact hdue
          · have hlater := happointed.late happointments hlate b hb
            omega
        refine ⟨max a.time v.pool.now - v.pool.now, ?_,
          (happointed.finish_of_due hfree happointments hdue target name).right⟩
        rw [← hpool]
        omega
  exhausted target name givingBack afterMillis hfree hclock hlate := by
    have happointed := hu.appointed givingBack afterMillis
    have hexpiry : u.pool.expiry u.clockStart = _ := expiryAt_of_clock hclock
    rcases pool_appointed u givingBack afterMillis with ⟨hpool, hclockStart, _⟩
    rw [act_acquire]
    generalize u.appointed givingBack afterMillis = v at hlate happointed hpool hclockStart
    rw [← hpool] at hfree hlate hexpiry ⊢
    rw [← hclockStart] at hexpiry
    rw [← hexpiry] at hlate
    rcases happointed.finish_of_late hfree hlate (now_le_expiryAt _ _) target name with
      ⟨_, hanswer, hsame⟩
    rw [hexpiry, Nat.add_sub_cancel_left] at hanswer
    exact ⟨⟨_, rfl, hanswer⟩, hsame⟩

end
end Usage

/-- In every state that a pool comes to, by any sequence of acquisitions, releases and
passages of time, its places are accounted for.  A user of the pool is answered
accordingly. -/
theorem places_accounted {size : Nat} {patience : Duration} {p : Pool} (clockStart : Nat)
    (hp : create size patience = .made p) :
    (forall hs, Distinct p hs -> (p.run clockStart hs).size = size ∧
      (p.run clockStart hs).patience = patience ∧
      Ledger clockStart (p.run clockStart hs)) ∧
    forall acts, Usage.Answers ((Usage.ofPool p clockStart).actAfter acts) := by
  have hkept := Usage.kept_ofPool hp clockStart
  rcases sound_of_create hp with ⟨hmade, hsound⟩
  constructor
  · intro hs hdistinct
    rcases size_run clockStart p hs with ⟨hsize, hpatience⟩
    exact ⟨hsize.trans (congrArg Pool.size hmade),
      hpatience.trans (congrArg Pool.patience hmade), (sound_run hsound hdistinct).ledger⟩
  · intro acts
    exact (hkept.actAfter acts).answers

theorem places_accounted_of_one :
    exists p, create 1 (.ofSeconds 0 50000000) = .made p ∧
      (p.run 0 [.ask 1, .ask 2, .advance 20, .giveBack 1]).holders = [2] ∧
      Ledger 0 (p.run 0 [.ask 1, .ask 2, .advance 20, .giveBack 1]) ∧
      Usage.Answers ((Usage.ofPool p 0).actAfter
        [.acquire ⟨"http", "a.test", 80⟩ "first" none 0,
          .acquire ⟨"http", "a.test", 80⟩ "second" (some "first") 49]) := by
  have hmade : create 1 (.ofSeconds 0 50000000) = .made _ := rfl
  rcases places_accounted 0 hmade with ⟨hledger, hanswers⟩
  refine ⟨_, hmade, rfl, (hledger _ ?_).right.right, hanswers _⟩
  constructor
  · decide
  · decide

end Pool
end HttpCall
