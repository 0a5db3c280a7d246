import HttpCall.Pool.Basic

/-!
# The places of a pool

Every place of a pool is free or somebody has it, whoever asks, gives back, gives up or lets
time pass, and in whatever order.  A free place is had for the asking.  Whoever is first in
line gets the next place that is given back before the wait expires.
-/

namespace HttpCall
namespace Pool

def line (p : Pool) : List Nat := p.waiting.map Waiter.ticket

def tickets (p : Pool) : List Nat := p.holders ++ p.line

def Happening.asked? : Happening -> Option Nat
  | ask ticket => some ticket
  | _ => none

def Happening.Returns (p : Pool) : Happening -> Prop
  | giveBack ticket | abandon ticket => ticket ∈ p.holders
  | _ => False

def run (clockStart : Nat) (p : Pool) (hs : List Happening) : Pool :=
  hs.foldl (step clockStart) p

def Distinct (p : Pool) (hs : List Happening) : Prop :=
  (hs.filterMap Happening.asked?).Nodup ∧
    forall ticket, ticket ∈ hs.filterMap Happening.asked? -> ticket ∉ p.tickets

section

variable {clockStart ticket : Nat} {p q : Pool} {h : Happening} {hs : List Happening}

theorem holds_iff : p.holds ticket = true <-> ticket ∈ p.holders := List.contains_iff_mem

theorem mem_tickets : ticket ∈ p.tickets <-> ticket ∈ p.holders ∨ ticket ∈ p.line :=
  List.mem_append

/-!
## What each happening does
-/

theorem step_ask_of_free {free : Nat} (hfree : p.free = free + 1) (ticket : Nat) :
    p.step clockStart (.ask ticket) =
      { p with free := free, holders := ticket :: p.holders } := by
  simp only [step, hfree]

theorem step_ask_of_full (hfree : p.free = 0) (ticket : Nat) :
    p.step clockStart (.ask ticket) =
      { p with waiting := p.waiting ++ [⟨ticket, p.expiry clockStart⟩] } := by
  simp only [step, hfree]

theorem vacate_of_not_mem (hticket : ticket ∉ p.holders) : p.vacate ticket = p := by
  unfold vacate
  rw [if_neg]
  intro hholds
  exact hticket (holds_iff.mp hholds)

inductive Vacates (p : Pool) (ticket : Nat) : Pool -> Prop where
  | free : p.waiting = [] ->
      Vacates p ticket { p with free := p.free + 1, holders := p.holders.erase ticket }
  | passedOn (first : Waiter) (rest : List Waiter) : p.waiting = first :: rest ->
      Vacates p ticket
        { p with holders := first.ticket :: p.holders.erase ticket, waiting := rest }

theorem vacates_of_mem (hticket : ticket ∈ p.holders) :
    Vacates p ticket (p.vacate ticket) := by
  unfold vacate passOn
  rw [if_pos (holds_iff.mpr hticket)]
  split
  · rename_i first rest hwaiting
    exact .passedOn first rest hwaiting
  · rename_i hwaiting
    exact .free hwaiting

/-!
## Every place is accounted for
-/

/-- Every place is free or somebody has it, nobody waits while a place is free, and no
ticket is used twice. -/
structure Sound (p : Pool) : Prop where
  total : p.free + p.holders.length = p.size
  idle : p.waiting ≠ [] -> p.free = 0
  distinct : p.tickets.Nodup

theorem sound_of_create {size : Nat} {patience : Duration}
    (hp : create size patience = .made p) :
    p = ⟨size, patience, size, [], [], 0⟩ ∧ Sound p := by
  unfold create at hp
  split at hp
  · cases hp
  · split at hp
    · cases hp
    · cases hp
      constructor
      · rfl
      · exact ⟨rfl, fun hwaiting => absurd rfl hwaiting, List.nodup_nil⟩

theorem Sound.not_waits (hp : Sound p) (hticket : ticket ∈ p.holders) : ticket ∉ p.line := by
  have hdistinct := hp.distinct
  rw [tickets, List.nodup_append] at hdistinct
  intro hline
  exact hdistinct.right.right ticket hticket ticket hline rfl

theorem tickets_of_vacates (hq : Vacates p ticket q) :
    q.tickets.Perm (p.holders.erase ticket ++ p.line) := by
  cases hq with
  | free hwaiting =>
      show (p.holders.erase ticket ++ p.line).Perm _
      exact List.Perm.refl _
  | passedOn first rest hwaiting =>
      have hline : p.line = first.ticket :: rest.map Waiter.ticket := by
        rw [line, hwaiting]
        rfl
      rw [hline]
      show (first.ticket :: p.holders.erase ticket ++ rest.map Waiter.ticket).Perm _
      exact List.perm_middle.symm

theorem Sound.vacates (hp : Sound p) (hticket : ticket ∈ p.holders)
    (hq : Vacates p ticket q) : Sound q := by
  have htickets := tickets_of_vacates hq
  have hdistinct : q.tickets.Nodup := by
    rw [htickets.nodup_iff]
    exact hp.distinct.sublist (List.erase_sublist.append_right p.line)
  have hlength : (p.holders.erase ticket).length + 1 = p.holders.length := by
    rw [List.length_erase_of_mem hticket]
    exact Nat.sub_add_cancel (List.length_pos_of_mem hticket)
  have htotal := hp.total
  cases hq with
  | free hwaiting =>
      constructor
      · show p.free + 1 + (p.holders.erase ticket).length = p.size
        omega
      · intro hne
        exact absurd hwaiting hne
      · exact hdistinct
  | passedOn first rest hwaiting =>
      constructor
      · show p.free + (first.ticket :: p.holders.erase ticket).length = p.size
        rw [List.length_cons]
        omega
      · intro _
        apply hp.idle
        rw [hwaiting]
        exact List.cons_ne_nil first rest
      · exact hdistinct

theorem sound_vacate (hp : Sound p) (ticket : Nat) : Sound (p.vacate ticket) := by
  by_cases hticket : ticket ∈ p.holders
  · exact hp.vacates hticket (vacates_of_mem hticket)
  · rw [vacate_of_not_mem hticket]
    exact hp

theorem tickets_vacate (ticket : Nat) {x : Nat} (hx : x ∈ (p.vacate ticket).tickets) :
    x ∈ p.tickets := by
  by_cases hticket : ticket ∈ p.holders
  · have hmem := (tickets_of_vacates (vacates_of_mem hticket)).mem_iff.mp hx
    rw [mem_tickets]
    rcases List.mem_append.mp hmem with hholder | hline
    · exact Or.inl (List.mem_of_mem_erase hholder)
    · exact Or.inr hline
  · rwa [vacate_of_not_mem hticket] at hx

theorem Sound.thin (hp : Sound p) {waiting : List Waiter} {now : Nat}
    (hwaiting : waiting.Sublist p.waiting) :
    Sound { p with waiting := waiting, now := now } := by
  constructor
  · exact hp.total
  · intro hne
    apply hp.idle
    intro hnone
    rw [hnone] at hwaiting
    exact hne (List.sublist_nil.mp hwaiting)
  · have hline := hwaiting.map Waiter.ticket
    exact hp.distinct.sublist (hline.append_left p.holders)

theorem sound_step (hp : Sound p) (hnew : forall t, h.asked? = some t -> t ∉ p.tickets) :
    Sound (p.step clockStart h) := by
  cases h with
  | ask ticket =>
      have hticket := hnew ticket rfl
      have hdistinct := hp.distinct
      cases hfree : p.free with
      | zero =>
          rw [step_ask_of_full hfree]
          constructor
          · exact hp.total
          · intro _
            exact hfree
          · show (p.holders ++ (p.waiting ++ [_]).map Waiter.ticket).Nodup
            rw [List.map_append, ← List.append_assoc]
            show (p.tickets ++ [ticket]).Nodup
            rw [List.nodup_append]
            refine ⟨hdistinct, by simp, ?_⟩
            intro x hx y hy
            rw [List.mem_singleton.mp hy]
            intro heq
            rw [heq] at hx
            exact hticket hx
      | succ free =>
          have htotal := hp.total
          rw [step_ask_of_free hfree]
          constructor
          · show free + (ticket :: p.holders).length = p.size
            rw [List.length_cons]
            omega
          · intro hne
            have hfull := hp.idle hne
            omega
          · show (ticket :: p.tickets).Nodup
            exact List.nodup_cons.mpr ⟨hticket, hdistinct⟩
  | giveBack ticket =>
      exact sound_vacate hp ticket
  | abandon ticket =>
      exact sound_vacate (hp.thin List.filter_sublist) ticket
  | advance time =>
      exact hp.thin List.filter_sublist

theorem tickets_step {x : Nat} (hx : x ∈ (p.step clockStart h).tickets) :
    x ∈ p.tickets ∨ h.asked? = some x := by
  have hthin : forall (waiting : List Waiter) (now : Nat), waiting.Sublist p.waiting ->
      x ∈ ({ p with waiting := waiting, now := now } : Pool).tickets -> x ∈ p.tickets := by
    intro waiting now hwaiting hmem
    have hline := hwaiting.map Waiter.ticket
    exact (hline.append_left p.holders).subset hmem
  cases h with
  | ask ticket =>
      cases hfree : p.free with
      | zero =>
          rw [step_ask_of_full hfree] at hx
          have hmem : x ∈ p.tickets ++ [ticket] := by
            rw [tickets, line, List.append_assoc]
            simpa only [tickets, line, List.map_append, List.map_cons, List.map_nil] using hx
          rcases List.mem_append.mp hmem with hold | hnew
          · exact Or.inl hold
          · exact Or.inr (congrArg some (List.mem_singleton.mp hnew).symm)
      | succ free =>
          rw [step_ask_of_free hfree] at hx
          rcases List.mem_cons.mp hx with rfl | hold
          · exact Or.inr rfl
          · exact Or.inl hold
  | giveBack ticket =>
      exact Or.inl (tickets_vacate ticket hx)
  | abandon ticket =>
      exact Or.inl (hthin _ p.now List.filter_sublist (tickets_vacate ticket hx))
  | advance time =>
      exact Or.inl (hthin _ _ List.filter_sublist hx)

theorem Distinct.asked (hnew : Distinct p (h :: hs)) :
    forall t, h.asked? = some t -> t ∉ p.tickets := by
  intro t ht
  apply hnew.right
  rw [List.filterMap_cons_some ht]
  exact List.mem_cons_self

theorem Distinct.step (hnew : Distinct p (h :: hs)) :
    Distinct (p.step clockStart h) hs := by
  rcases hnew with ⟨hdistinct, hfresh⟩
  cases hasked : h.asked? with
  | none =>
      rw [List.filterMap_cons_none hasked] at hdistinct hfresh
      refine ⟨hdistinct, ?_⟩
      intro t ht hmem
      rcases tickets_step hmem with hold | hnow
      · exact hfresh t ht hold
      · rw [hasked] at hnow
        cases hnow
  | some asked =>
      rw [List.filterMap_cons_some hasked] at hdistinct hfresh
      rcases List.nodup_cons.mp hdistinct with ⟨hother, hrest⟩
      refine ⟨hrest, ?_⟩
      intro t ht hmem
      rcases tickets_step hmem with hold | hnow
      · exact hfresh t (List.mem_cons_of_mem asked ht) hold
      · rw [hasked] at hnow
        cases hnow
        exact hother ht

theorem sound_run (hp : Sound p) (hnew : Distinct p hs) : Sound (p.run clockStart hs) := by
  induction hs generalizing p with
  | nil =>
      exact hp
  | cons h hs ih =>
      exact ih (sound_step hp hnew.asked) hnew.step

theorem size_vacate (p : Pool) (ticket : Nat) :
    (p.vacate ticket).size = p.size ∧ (p.vacate ticket).patience = p.patience := by
  by_cases hticket : ticket ∈ p.holders
  · have hvacates := vacates_of_mem hticket
    generalize p.vacate ticket = q at hvacates
    cases hvacates with
    | free hwaiting => exact ⟨rfl, rfl⟩
    | passedOn first rest hwaiting => exact ⟨rfl, rfl⟩
  · rw [vacate_of_not_mem hticket]
    exact ⟨rfl, rfl⟩

theorem size_step (clockStart : Nat) (p : Pool) (h : Happening) :
    (p.step clockStart h).size = p.size ∧ (p.step clockStart h).patience = p.patience := by
  cases h with
  | ask ticket =>
      cases hfree : p.free with
      | zero =>
          rw [step_ask_of_full hfree]
          exact ⟨rfl, rfl⟩
      | succ free =>
          rw [step_ask_of_free hfree]
          exact ⟨rfl, rfl⟩
  | giveBack ticket => exact size_vacate p ticket
  | abandon ticket => exact size_vacate _ ticket
  | advance time => exact ⟨rfl, rfl⟩

theorem size_run (clockStart : Nat) (p : Pool) (hs : List Happening) :
    (p.run clockStart hs).size = p.size ∧ (p.run clockStart hs).patience = p.patience := by
  induction hs generalizing p with
  | nil =>
      exact ⟨rfl, rfl⟩
  | cons h hs ih =>
      rcases ih (p.step clockStart h) with ⟨hsize, hpatience⟩
      rcases size_step clockStart p h with ⟨hsize', hpatience'⟩
      exact ⟨hsize.trans hsize', hpatience.trans hpatience'⟩

/-!
## The first in line
-/

/-- No place is given back to the pool, and a ticket is neither used again nor given up. -/
def Undisturbed (clockStart ticket : Nat) : Pool -> List Happening -> Prop
  | _, [] => True
  | p, h :: hs =>
      ¬ h.Returns p ∧ h ≠ .ask ticket ∧ h ≠ .abandon ticket ∧
        Undisturbed clockStart ticket (p.step clockStart h) hs

/-- The pool is as full as it was, with the same holders, and somebody is the first in line
still, or his wait has expired. -/
structure Lingers (p : Pool) (w : Waiter) (q : Pool) : Prop where
  free : q.free = 0
  holders : q.holders = p.holders
  queue : (exists rest, q.waiting = w :: rest ∧ w.ticket ∉ rest.map Waiter.ticket) ∨
    (w.expiry <= q.now ∧ w.ticket ∉ q.line)

variable {w : Waiter}

theorem Lingers.vacate (hq : Lingers p w q) (hticket : ticket ∉ q.holders) :
    Lingers p w (q.vacate ticket) := by
  rw [vacate_of_not_mem hticket]
  exact hq

theorem Lingers.thin (hq : Lingers p w q) {now : Nat} {stays : Waiter -> Bool}
    (hnow : q.now <= now) (hstays : stays w = true ∨ w.expiry <= now) :
    Lingers p w { q with waiting := q.waiting.filter stays, now := now } := by
  refine ⟨hq.free, hq.holders, ?_⟩
  have hline : forall l : List Waiter, w.ticket ∉ l.map Waiter.ticket ->
      w.ticket ∉ (l.filter stays).map Waiter.ticket := by
    intro l hl hmem
    exact hl ((List.filter_sublist.map Waiter.ticket).subset hmem)
  rcases hq.queue with ⟨rest, hwaiting, hrest⟩ | ⟨hexpired, hgone⟩
  · cases hstay : stays w with
    | true =>
        left
        refine ⟨rest.filter stays, ?_, hline rest hrest⟩
        show q.waiting.filter stays = _
        rw [hwaiting, List.filter_cons_of_pos hstay]
    | false =>
        right
        rw [hstay] at hstays
        refine ⟨hstays.resolve_left Bool.false_ne_true, ?_⟩
        show w.ticket ∉ (q.waiting.filter stays).map Waiter.ticket
        rw [hwaiting, List.filter_cons_of_neg (by rw [hstay]; exact Bool.false_ne_true)]
        exact hline rest hrest
  · right
    exact ⟨Nat.le_trans hexpired hnow, hline q.waiting hgone⟩

theorem lingers_step (hq : Lingers p w q) (hreturns : ¬ h.Returns q)
    (hask : h ≠ .ask w.ticket) (habandon : h ≠ .abandon w.ticket) :
    Lingers p w (q.step clockStart h) := by
  cases h with
  | ask ticket =>
      have hother : w.ticket ≠ ticket := by
        intro heq
        rw [heq] at hask
        exact hask rfl
      have hnext : forall l : List Waiter, w.ticket ∉ l.map Waiter.ticket ->
          w.ticket ∉ (l ++ [Waiter.mk ticket (q.expiry clockStart)]).map Waiter.ticket := by
        intro l hl hmem
        rw [List.map_append] at hmem
        rcases List.mem_append.mp hmem with hold | hnew
        · exact hl hold
        · exact hother (List.mem_singleton.mp hnew)
      rw [step_ask_of_full hq.free]
      refine ⟨hq.free, hq.holders, ?_⟩
      rcases hq.queue with ⟨rest, hwaiting, hrest⟩ | ⟨hexpired, hgone⟩
      · left
        refine ⟨rest ++ [⟨ticket, q.expiry clockStart⟩], ?_, ?_⟩
        · show q.waiting ++ _ = _
          rw [hwaiting]
          rfl
        · exact hnext rest hrest
      · right
        exact ⟨hexpired, hnext q.waiting hgone⟩
  | giveBack ticket =>
      exact hq.vacate hreturns
  | abandon ticket =>
      have hother : w.ticket ≠ ticket := by
        intro heq
        rw [heq] at habandon
        exact habandon rfl
      have hthin : Lingers p w
          { q with waiting := q.waiting.filter fun w => w.ticket ≠ ticket } :=
        hq.thin (Nat.le_refl q.now) (Or.inl (decide_eq_true hother))
      exact hthin.vacate hreturns
  | advance time =>
      apply hq.thin (Nat.le_max_left q.now time)
      rw [decide_eq_true_eq]
      exact Nat.lt_or_ge _ _

theorem lingers_run (hq : Lingers p w q)
    (hquiet : Undisturbed clockStart w.ticket q hs) : Lingers p w (q.run clockStart hs) := by
  induction hs generalizing q with
  | nil =>
      exact hq
  | cons h hs ih =>
      rcases hquiet with ⟨hreturns, hask, habandon, hrest⟩
      exact ih (lingers_step hq hreturns hask habandon) hrest

theorem lingers_ask (hfree : p.free = 0) (hwaiting : p.waiting = []) (ticket : Nat) :
    Lingers p ⟨ticket, p.expiry clockStart⟩ (p.step clockStart (.ask ticket)) := by
  rw [step_ask_of_full hfree]
  refine ⟨hfree, rfl, Or.inl ⟨[], ?_, List.not_mem_nil⟩⟩
  show p.waiting ++ _ = _
  rw [hwaiting]
  rfl

/-- Before the wait expires, the first in line gets the place that is given back. -/
theorem Lingers.granted (hq : Lingers p w q) (hnow : q.now < w.expiry)
    (hreturns : h.Returns q) (habandon : h ≠ .abandon w.ticket) :
    (q.step clockStart h).holds w.ticket = true := by
  rcases hq.queue with ⟨rest, hwaiting, hrest⟩ | ⟨hexpired, hgone⟩
  · have hfirst : forall (r : Pool) (more : List Waiter) (ticket : Nat),
        r.waiting = w :: more -> ticket ∈ r.holders ->
          w.ticket ∈ (r.vacate ticket).holders := by
      intro r more ticket hline hticket
      have hvacates := vacates_of_mem hticket
      generalize r.vacate ticket = s at hvacates
      cases hvacates with
      | free hnone =>
          rw [hline] at hnone
          cases hnone
      | passedOn first others hothers =>
          rw [hline] at hothers
          cases hothers
          exact List.mem_cons_self
    apply holds_iff.mpr
    cases h with
    | ask ticket => cases hreturns
    | advance time => cases hreturns
    | giveBack ticket =>
        exact hfirst q rest ticket hwaiting hreturns
    | abandon ticket =>
        have hother : w.ticket ≠ ticket := by
          intro heq
          rw [heq] at habandon
          exact habandon rfl
        have hline : (q.waiting.filter fun w => w.ticket ≠ ticket) =
            w :: rest.filter fun w => w.ticket ≠ ticket := by
          rw [hwaiting]
          exact List.filter_cons_of_pos (decide_eq_true hother)
        exact hfirst { q with waiting := q.waiting.filter fun w => w.ticket ≠ ticket } _
          ticket hline hreturns
  · exact absurd hexpired (Nat.not_le.mpr hnow)

theorem Lingers.waits (hq : Lingers p w q) (hnow : q.now < w.expiry) : w.ticket ∈ q.line := by
  rcases hq.queue with ⟨rest, hwaiting, _⟩ | ⟨hexpired, _⟩
  · rw [line, hwaiting]
    exact List.mem_cons_self
  · exact absurd hexpired (Nat.not_le.mpr hnow)

/-- When the wait has expired, the first in line has gone away without a place. -/
theorem Lingers.expired (hq : Lingers p w q) (hticket : w.ticket ∉ p.holders) {time : Nat}
    (htime : w.expiry <= time) :
    w.ticket ∉ (q.step clockStart (.advance time)).tickets := by
  have hmax : w.expiry <= max q.now time := Nat.le_trans htime (Nat.le_max_right _ _)
  rw [mem_tickets]
  rintro (hholder | hline)
  · rw [show (q.step clockStart (.advance time)).holders = q.holders from rfl, hq.holders]
      at hholder
    exact hticket hholder
  · rcases List.mem_map.mp hline with ⟨x, hx, hsame⟩
    rcases List.mem_filter.mp hx with ⟨hmem, hstays⟩
    rw [decide_eq_true_eq] at hstays
    have hother : x ≠ w := by
      rintro rfl
      exact absurd hmax (Nat.not_le.mpr hstays)
    rcases hq.queue with ⟨rest, hwaiting, hrest⟩ | ⟨_, hgone⟩
    · rw [hwaiting] at hmem
      exact hrest (List.mem_map.mpr ⟨x, (List.mem_cons.mp hmem).resolve_left hother, hsame⟩)
    · exact hgone (List.mem_map.mpr ⟨x, hmem, hsame⟩)

end

/-!
## The ledger
-/

theorem expiryAt_of_clock {p : Pool} {reading : Nat}
    (hclock : Clock.after? reading p.patience ≠ none) :
    p.expiryAt reading = p.now + p.patience.ceilMillis := by
  unfold expiryAt
  cases hafter : Clock.after? reading p.patience with
  | none => exact absurd hafter hclock
  | some later => rfl

theorem now_le_expiryAt (p : Pool) (reading : Nat) : p.now <= p.expiryAt reading := by
  unfold expiryAt
  split
  · exact Nat.le_add_right _ _
  · exact Nat.le_add_right _ _

/-- What becomes of a ticket that asked a full pool and was the first in line, while no
place was given back: it waits up to its time, gets a place that is given back before, and
goes away empty-handed otherwise. -/
structure FirstInLine (clockStart ticket expiry : Nat) (p q : Pool) : Prop where
  waits : q.now < expiry -> ticket ∈ q.line
  granted : forall h : Happening, q.now < expiry -> h.Returns q -> h ≠ .abandon ticket ->
    (q.step clockStart h).holds ticket = true
  refused : forall time, expiry <= time ->
    ticket ∉ (q.step clockStart (.advance time)).tickets ∧
      (q.step clockStart (.advance time)).free = p.free ∧
      (q.step clockStart (.advance time)).holders = p.holders

/-- How places change hands. -/
structure Ledger (clockStart : Nat) (p : Pool) : Prop where
  total : p.free + p.holders.length = p.size
  free_le : p.free <= p.size
  /-- One place is given back, and no other after it. -/
  returned : forall ticket, ticket ∈ p.holders ->
    Vacates p ticket (p.step clockStart (.giveBack ticket)) ∧
      ticket ∉ (p.step clockStart (.giveBack ticket)).tickets
  absent : forall ticket, ticket ∉ p.holders -> p.step clockStart (.giveBack ticket) = p
  granted : forall ticket, 0 < p.free ->
    (p.step clockStart (.ask ticket)).holders = ticket :: p.holders ∧
      (p.step clockStart (.ask ticket)).free + 1 = p.free
  awaits : forall ticket hs, ticket ∉ p.holders -> p.free = 0 -> p.waiting = [] ->
    Clock.after? (clockStart + p.now * 1000000) p.patience ≠ none ->
    Undisturbed clockStart ticket (p.step clockStart (.ask ticket)) hs ->
    FirstInLine clockStart ticket (p.now + p.patience.ceilMillis) p
      ((p.step clockStart (.ask ticket)).run clockStart hs)
  abandoned : forall ticket, ticket ∈ p.line ->
    (p.step clockStart (.abandon ticket)).free = p.free ∧
      (p.step clockStart (.abandon ticket)).holders = p.holders ∧
      ticket ∉ (p.step clockStart (.abandon ticket)).tickets
  /-- A place that was assigned meanwhile is given back. -/
  declined : forall ticket, ticket ∈ p.holders ->
    p.step clockStart (.abandon ticket) = p.step clockStart (.giveBack ticket)
  passed : forall time, (p.step clockStart (.advance time)).free = p.free ∧
    (p.step clockStart (.advance time)).holders = p.holders

section

variable {clockStart ticket : Nat} {p : Pool} {hs : List Happening}

theorem firstInLine (hticket : ticket ∉ p.holders) (hfree : p.free = 0)
    (hwaiting : p.waiting = [])
    (hquiet : Undisturbed clockStart ticket (p.step clockStart (.ask ticket)) hs) :
    FirstInLine clockStart ticket (p.expiry clockStart) p
      ((p.step clockStart (.ask ticket)).run clockStart hs) := by
  have hlingers := lingers_run (lingers_ask hfree hwaiting ticket) hquiet
  generalize p.expiry clockStart = expiry at hlingers ⊢
  constructor
  · intro hnow
    exact hlingers.waits hnow
  · intro h hnow hreturns habandon
    exact hlingers.granted hnow hreturns habandon
  · intro time htime
    exact ⟨hlingers.expired hticket htime, hlingers.free.trans hfree.symm, hlingers.holders⟩

theorem Sound.not_mem_vacated {q : Pool} (hp : Sound p) (hticket : ticket ∈ p.holders)
    (hq : Vacates p ticket q) : ticket ∉ q.tickets := by
  intro hmem
  have hdistinct := hp.distinct
  rw [tickets, List.nodup_append] at hdistinct
  rcases List.mem_append.mp ((tickets_of_vacates hq).mem_iff.mp hmem) with hholder | hline
  · exact hdistinct.left.not_mem_erase hholder
  · exact hp.not_waits hticket hline

theorem Sound.abandoned (hp : Sound p) (hticket : ticket ∈ p.line) :
    (p.step clockStart (.abandon ticket)).free = p.free ∧
      (p.step clockStart (.abandon ticket)).holders = p.holders ∧
      ticket ∉ (p.step clockStart (.abandon ticket)).tickets := by
  have hholder : ticket ∉ p.holders := fun hmem => hp.not_waits hmem hticket
  have hstep : p.step clockStart (.abandon ticket) =
      { p with waiting := p.waiting.filter fun w => w.ticket ≠ ticket } :=
    vacate_of_not_mem hholder
  rw [hstep, mem_tickets]
  refine ⟨rfl, rfl, ?_⟩
  rintro (hmem | hline)
  · exact hholder hmem
  · rcases List.mem_map.mp hline with ⟨x, hx, hsame⟩
    have hother := (List.mem_filter.mp hx).right
    rw [decide_eq_true_eq] at hother
    exact hother hsame

theorem Sound.declined (hp : Sound p) (hticket : ticket ∈ p.holders) :
    p.step clockStart (.abandon ticket) = p.step clockStart (.giveBack ticket) := by
  have hothers : (p.waiting.filter fun w => w.ticket ≠ ticket) = p.waiting := by
    apply List.filter_eq_self.mpr
    intro w hw
    rw [decide_eq_true_eq]
    intro heq
    apply hp.not_waits hticket
    rw [← heq]
    exact List.mem_map_of_mem hw
  show { p with waiting := p.waiting.filter fun w => w.ticket ≠ ticket }.vacate ticket = _
  rw [hothers]
  rfl

theorem Sound.ledger (hp : Sound p) : Ledger clockStart p where
  total := hp.total
  free_le := by
    rw [← hp.total]
    exact Nat.le_add_right _ _
  returned ticket hticket := by
    have hvacates := vacates_of_mem hticket
    exact ⟨hvacates, hp.not_mem_vacated hticket hvacates⟩
  absent ticket hticket := vacate_of_not_mem hticket
  granted ticket hfree := by
    rcases Nat.exists_eq_add_one_of_ne_zero (Nat.ne_of_gt hfree) with ⟨free, heq⟩
    rw [step_ask_of_free heq]
    exact ⟨rfl, heq.symm⟩
  awaits ticket hs hticket hfree hwaiting hclock hquiet := by
    rw [← expiryAt_of_clock hclock]
    exact firstInLine hticket hfree hwaiting hquiet
  abandoned ticket hticket := hp.abandoned hticket
  declined ticket hticket := hp.declined hticket
  passed time := ⟨rfl, rfl⟩

end
end Pool
end HttpCall
