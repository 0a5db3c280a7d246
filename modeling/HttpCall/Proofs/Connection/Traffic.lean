import HttpCall.Proofs.Handling.Outline

/-!
# Connections on the move

The pool hands connections out and takes them back.  Connections that user code
brought are not the pool's, and what happens to them is left aside.  A handling moves
no connection but its own, however much user code does in its midst.
-/

namespace HttpCall

inductive Transfer where
  | taken (c : Connection)
  | returned (c : Connection)
deriving DecidableEq, Repr

namespace Transfer

def ofEntries : List Entry -> List Transfer
  | [] => []
  | .acquired c :: older => taken c :: ofEntries older
  | .released c :: older =>
      if c ∈ older.filterMap Entry.brought? then ofEntries older
      else returned c :: ofEntries older
  | _ :: older => ofEntries older

theorem ofEntries_released_of_mem {c : Connection} {older : List Entry}
    (hc : c ∈ older.filterMap Entry.brought?) :
    ofEntries (.released c :: older) = ofEntries older := by
  rw [ofEntries, if_pos hc]

theorem ofEntries_released_of_not_mem {c : Connection} {older : List Entry}
    (hc : c ∉ older.filterMap Entry.brought?) :
    ofEntries (.released c :: older) = returned c :: ofEntries older := by
  rw [ofEntries, if_neg hc]

end Transfer

def Entry.isStill : Entry -> Bool
  | acquired _ | released _ | injecting _ => false
  | _ => true

namespace Entry

theorem ofEntries_cons_of_isStill {e : Entry} (he : e.isStill = true) (older : List Entry) :
    Transfer.ofEntries (e :: older) = Transfer.ofEntries older := by
  cases e <;> simp_all [isStill, Transfer.ofEntries]

theorem brought?_of_isStill {e : Entry} (he : e.isStill = true) : e.brought? = none := by
  cases e <;> simp_all [isStill, brought?]

theorem Notice.isStill {m : Moment} {e : Entry} (h : Notice m e) : e.isStill = true := by
  cases h <;> rfl

end Entry

namespace World

def transfers (w : World) : List Transfer := (Transfer.ofEntries w.entries).reverse

/-- `Traffic meddling ts v w` says that the transfers `ts`, the newest first, took
place between `v` and `w`, and that all connections that user code brought meanwhile
are new. -/
structure Traffic (meddling : Prop) (ts : List Transfer) (v w : World) : Prop where
  transfers : Transfer.ofEntries w.entries = ts ++ Transfer.ofEntries v.entries
  numbers : v.nextConnection <= w.nextConnection
  fresh : forall c, c ∈ w.brought ->
    c ∈ v.brought ∨ (v.nextConnection <= c.id ∧ c.id < w.nextConnection)
  kept : forall c, c ∈ v.brought -> c ∈ w.brought
  alone : ¬ meddling -> w.brought = v.brought

namespace Traffic

variable {meddling : Prop} {ts : List Transfer} {u v w : World}

theorem refl (w : World) : Traffic meddling [] w w :=
  ⟨rfl, Nat.le_refl _, fun _ hc => Or.inl hc, fun _ hc => hc, fun _ => rfl⟩

theorem trans {more : List Transfer} (huv : Traffic meddling ts u v)
    (hvw : Traffic meddling more v w) : Traffic meddling (more ++ ts) u w where
  transfers := by
    rw [hvw.transfers, huv.transfers, List.append_assoc]
  numbers := Nat.le_trans huv.numbers hvw.numbers
  fresh := by
    intro c hc
    rcases hvw.fresh c hc with hv | ⟨hle, hlt⟩
    · rcases huv.fresh c hv with hu | ⟨hle, hlt⟩
      · exact Or.inl hu
      · exact Or.inr ⟨hle, Nat.lt_of_lt_of_le hlt hvw.numbers⟩
    · exact Or.inr ⟨Nat.le_trans huv.numbers hle, hlt⟩
  kept := fun c hc => hvw.kept c (huv.kept c hc)
  alone := fun h => (hvw.alone h).trans (huv.alone h)

theorem of_same (h : Traffic meddling ts u v) (hentries : w.entries = v.entries)
    (hnumber : w.nextConnection = v.nextConnection) : Traffic meddling ts u w := by
  have hbrought : w.brought = v.brought := congrArg (List.filterMap Entry.brought?) hentries
  constructor
  · rw [hentries]
    exact h.transfers
  · rw [hnumber]
    exact h.numbers
  · rw [hbrought, hnumber]
    exact h.fresh
  · rw [hbrought]
    exact h.kept
  · rw [hbrought]
    exact h.alone

theorem note (h : Traffic meddling ts u v) {e : Entry} (he : e.isStill = true) :
    Traffic meddling ts u (v.note e) := by
  have hbrought : (v.note e).brought = v.brought := by
    simp [World.brought, Entry.brought?_of_isStill he]
  constructor
  · rw [entries_note, Entry.ofEntries_cons_of_isStill he]
    exact h.transfers
  · exact h.numbers
  · rw [hbrought]
    exact h.fresh
  · rw [hbrought]
    exact h.kept
  · rw [hbrought]
    exact h.alone

theorem released (w : World) (c : Connection) :
    Traffic meddling (if c ∈ w.brought then [] else [.returned c]) w
      (w.note (.released c)) where
  transfers := by
    by_cases hc : c ∈ w.brought
    · rw [if_pos hc]
      exact Transfer.ofEntries_released_of_mem hc
    · rw [if_neg hc]
      exact Transfer.ofEntries_released_of_not_mem hc
  numbers := Nat.le_refl _
  fresh := fun _ hc => Or.inl hc
  kept := fun _ hc => hc
  alone := fun _ => rfl

theorem bring (hmeddling : meddling) (target : Target) (w : World) :
    Traffic meddling [] w
      ((w.connect target).1.note (.injecting (w.connect target).2)) where
  transfers := rfl
  numbers := Nat.le_succ _
  fresh := by
    intro c hc
    rcases List.mem_cons.mp hc with rfl | hc
    · exact Or.inr ⟨Nat.le_refl _, Nat.lt_succ_self _⟩
    · exact Or.inl hc
  kept := fun _ hc => List.mem_cons_of_mem _ hc
  alone := fun h => absurd hmeddling h

end Traffic

/-!
## User code and handlings
-/

/-- User code moves no connection of the pool. -/
def KeepsApart (meddling : Prop) (react : Reaction) : Prop :=
  forall m v, Traffic meddling [] v (react m v).1

section Handling

variable {meddling : Prop} {react : Reaction} {ts : List Transfer} {u w : World}

theorem traffic_fire (hreact : KeepsApart meddling react) (m : Moment) {e : Entry}
    (he : e.isStill = true) (h : Traffic meddling ts u w) :
    Traffic meddling ts u (w.fire react m e).1 :=
  (h.note he).trans (hreact m (w.note e))

theorem traffic_runHook (hreact : KeepsApart meddling react) (caller : Caller) (o : Outcome)
    (hook : Hook) (h : Traffic meddling ts u w) :
    Traffic meddling ts u (w.runHook caller react o hook) := by
  cases hook with
  | numbered n =>
      exact traffic_fire hreact .complete rfl h
  | transform =>
      exact h.of_same rfl rfl

theorem traffic_publish (hreact : KeepsApart meddling react) (caller : Caller)
    (h : Traffic meddling ts u w) : Traffic meddling ts u (w.publish caller react) := by
  apply publish_induction
  · intro _
    exact h
  · intro o hooks call _
    exact (h.of_same (w := { w with call := call }) rfl rfl).note rfl
  · intro o hooks call _ hook v hv
    exact traffic_runHook hreact caller o hook hv

theorem traffic_register (hreact : KeepsApart meddling react) (caller : Caller)
    (hook : Hook) (h : Traffic meddling ts u w) :
    Traffic meddling ts u (w.register caller react hook) := by
  unfold register
  split
  · rename_i o _
    exact traffic_runHook hreact caller o hook h
  · exact h.of_same rfl rfl

theorem traffic_registerNumbered (hreact : KeepsApart meddling react) (caller : Caller)
    (h : Traffic meddling ts u w) :
    Traffic meddling ts u (w.registerNumbered caller react) :=
  traffic_register hreact caller (.numbered w.nextHook)
    (h.of_same (w := { w with nextHook := w.nextHook + 1 }) rfl rfl)

theorem traffic_settle (held : Option Connection) (o : Outcome)
    (h : Traffic meddling ts u w) : Traffic meddling ts u (w.settle held o).1 := by
  unfold settle
  split
  · rename_i call _
    exact (h.of_same (w := { w with call := call }) rfl rfl).note rfl
  · exact h

theorem traffic_notifyException (hreact : KeepsApart meddling react) (listeners : Listeners)
    (e : TransportError) (h : Traffic meddling ts u w) :
    Traffic meddling ts u (w.notifyException react listeners e) := by
  unfold notifyException fireIf
  split
  · exact traffic_fire hreact .exception rfl h
  · exact h

theorem traffic_release (hreact : KeepsApart meddling react) (c : Connection) (w : World) :
    Traffic meddling (if c ∈ w.brought then [] else [.returned c]) w
      (w.release react c).1 :=
  (Traffic.released w c).trans (hreact .release _)

/-- The transfers of a handling on a connection, from the world in which it begins;
`back` is what its release comes to. -/
theorem traffic_outline (caller : Caller) (hreact : KeepsApart meddling react)
    (c : Connection) (u : World) (back : List Transfer)
    (hback : forall w, Traffic meddling [] u w ->
      Traffic meddling back u (w.release react c).1) :
    Outline caller react c (fun _ => Traffic meddling [] u) (Traffic meddling [] u)
      (fun _ => Traffic meddling back u) (Traffic meddling back u) where
  notice hnotice h := traffic_fire hreact _ hnotice.isStill h
  cookie _ h := h.of_same rfl rfl
  settle o h := traffic_settle (some c) o h
  follow h _ := h.of_same rfl rfl
  release h := hback _ h
  publish h := traffic_publish hreact caller h
  leave h := h

theorem traffic_handle_of_brought (hreact : KeepsApart meddling react) (caller : Caller)
    (listeners : Listeners) {c : Connection} (request : Request) (event : Event)
    (hc : c ∈ w.brought) :
    Traffic meddling [] w (w.handle caller react listeners c request event).1 := by
  have hback : forall v, Traffic meddling [] w v ->
      Traffic meddling [] w (v.release react c).1 := by
    intro v hv
    have hrelease := hv.trans (traffic_release hreact c v)
    rwa [if_pos (hv.kept c hc)] at hrelease
  have hhandled := (traffic_outline caller hreact c w [] hback).handled listeners request
    event (Traffic.refl w)
  rcases hresult : w.handle caller react listeners c request event with
    ⟨v, fault | _ | ⟨location, status⟩⟩ <;> rw [hresult] at hhandled
  · rcases hhandled with rfl | hended
    · exact Traffic.refl v
    · exact hended
  · exact hhandled
  · exact hhandled

theorem traffic_of_deed {caller : Caller} {v : World} (h : Deed caller meddling v w) :
    Traffic meddling [] v w := by
  induction h with
  | idle w =>
      exact Traffic.refl w
  | andThen _ _ huv hvw =>
      exact huv.trans hvw
  | poll w =>
      exact (Traffic.refl w).note rfl
  | hook react w _ ih =>
      exact traffic_registerNumbered ih caller (Traffic.refl w)
  | bring target w hmeddling =>
      exact Traffic.bring hmeddling target w
  | handle policy react listeners c request event w _ _ hc ih =>
      exact traffic_handle_of_brought ih _ listeners request event hc
  | injected step w _ =>
      exact (Traffic.refl w).note rfl

theorem Conduct.keepsApart {caller : Caller} (h : Conduct caller meddling react) :
    KeepsApart meddling react :=
  fun m v => traffic_of_deed (h m v)

end Handling
end World
end HttpCall
