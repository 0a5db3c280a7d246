import HttpCall.Call.Journal

/-!
# What is released

Whether the connections of a call are back can be read off its journal.  Entries are
read with the newest first, so what came after an entry stands before it.
-/

namespace HttpCall

def Entry.isAside : Entry -> Bool
  | settled _ | acquired _ => false
  | _ => true

theorem Entry.ne_settled_of_isAside {e : Entry} (he : e.isAside = true)
    (held : Option Connection) : e ≠ .settled held := by
  rintro rfl
  cases he

theorem Entry.ne_acquired_of_isAside {e : Entry} (he : e.isAside = true) (c : Connection) :
    e ≠ .acquired c := by
  rintro rfl
  cases he

/-- Nobody but the loop of the call handled events for it. -/
def Quiet (entries : List Entry) : Prop := forall c, Entry.injecting c ∉ entries

/-- Connections with such an entry were released after it, except possibly one that is
held. -/
def ReleasedBut (held : Option Connection) (tag : Connection -> Entry)
    (entries : List Entry) : Prop :=
  forall after c before, entries = after ++ tag c :: before ->
    held = some c ∨ Entry.released c ∈ after

def Entry.settledOn (c : Connection) : Entry := .settled (some c)

/-- The connection that was held when the outcome was recorded is back, and so is, unless
others handled events, each connection that was acquired; except possibly one that is
held. -/
structure BackBut (held : Option Connection) (entries : List Entry) : Prop where
  own : ReleasedBut held Entry.settledOn entries
  all : Quiet entries -> ReleasedBut held Entry.acquired entries

/-- The outcome is recorded, and the connections are back. -/
structure Back (entries : List Entry) : Prop where
  recorded : exists held, Entry.settled held ∈ entries
  released : BackBut none entries

namespace ReleasedBut

variable {held : Option Connection} {tag : Connection -> Entry} {entries : List Entry}

theorem cons (h : ReleasedBut held tag entries) {e : Entry}
    (he : forall c, e = tag c -> held = some c) : ReleasedBut held tag (e :: entries) := by
  intro after c before heq
  cases after with
  | nil =>
      injection heq with hhead
      exact Or.inl (he c hhead)
  | cons first after =>
      injection heq with _ htail
      rcases h after c before htail with hheld | hreleased
      · exact Or.inl hheld
      · exact Or.inr (List.mem_cons_of_mem first hreleased)

theorem weaken (h : ReleasedBut none tag entries) (held : Option Connection) :
    ReleasedBut held tag entries := by
  intro after c before heq
  rcases h after c before heq with hheld | hreleased
  · cases hheld
  · exact Or.inr hreleased

theorem append (h : ReleasedBut held tag entries) {news : List Entry}
    (hnews : forall c, tag c ∉ news) : ReleasedBut held tag (news ++ entries) := by
  induction news with
  | nil =>
      exact h
  | cons e rest ih =>
      have hrest := ih (fun c hc => hnews c (List.mem_cons_of_mem e hc))
      exact hrest.cons (fun c he => absurd (he ▸ List.mem_cons_self) (hnews c))

theorem release {c : Connection} (h : ReleasedBut (some c) tag entries)
    (htag : forall d, Entry.released c ≠ tag d) :
    ReleasedBut none tag (.released c :: entries) := by
  intro after d before heq
  right
  cases after with
  | nil =>
      injection heq with hhead
      exact absurd hhead (htag d)
  | cons first after =>
      injection heq with hhead htail
      rcases h after d before htail with hheld | hreleased
      · cases hheld
        rw [← hhead]
        exact List.mem_cons_self
      · exact List.mem_cons_of_mem first hreleased

theorem of_absent (h : forall c, tag c ∉ entries) : ReleasedBut held tag entries := by
  intro after c before heq
  apply absurd _ (h c)
  rw [heq]
  exact List.mem_append_right after List.mem_cons_self

end ReleasedBut

theorem Quiet.of_cons {e : Entry} {entries : List Entry} (h : Quiet (e :: entries)) :
    Quiet entries :=
  fun c hc => h c (List.mem_cons_of_mem e hc)

theorem Quiet.of_append {news entries : List Entry} (h : Quiet (news ++ entries)) :
    Quiet entries :=
  fun c hc => h c (List.mem_append_right news hc)

namespace BackBut

variable {held : Option Connection} {entries : List Entry}

theorem append (h : BackBut held entries) {news : List Entry}
    (hsettled : forall x, Entry.settled x ∉ news)
    (hacquired : forall c, Entry.acquired c ∉ news) :
    BackBut held (news ++ entries) where
  own := h.own.append (fun c => hsettled (some c))
  all := fun hquiet => (h.all hquiet.of_append).append hacquired

theorem release {c : Connection} (h : BackBut (some c) entries) :
    BackBut none (.released c :: entries) where
  own := h.own.release (fun _ => Entry.noConfusion)
  all := fun hquiet =>
    (h.all hquiet.of_cons).release (fun _ => Entry.noConfusion)

end BackBut

theorem Back.cons {entries : List Entry} {e : Entry} (h : Back entries)
    (he : e.isAside = true) : Back (e :: entries) where
  recorded := by
    rcases h.recorded with ⟨held, hheld⟩
    exact ⟨held, List.mem_cons_of_mem e hheld⟩
  released := {
    own := h.released.own.cons (fun c hc => absurd hc (e.ne_settled_of_isAside he (some c)))
    all := fun hquiet =>
      (h.released.all hquiet.of_cons).cons
        (fun c hc => absurd hc (e.ne_acquired_of_isAside he c)) }

end HttpCall
