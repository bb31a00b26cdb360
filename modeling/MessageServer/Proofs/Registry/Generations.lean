import MessageServer.Proofs.Registry.History

/-!
# What an id stands for

The generation of a slot counts how often it was released, modulo the word size, and the free list
has the vacant slots in the order of their releases, the latest in front.  So a new connection is
given the slot that was released last, with the number of its releases as generation.

An id leads to its connection until that is released, and nowhere after that, unless the slot has
been released so often since that its generation has come round.

* `Moves.generation_eq`: a slot is as many generations further on as it was released.
* `Moves.live`: a live connection stays live until it is released.
* `Moves.inOrder`: the free list is in the order of the releases.
* `Moves.serial_ne`: no two connections have the same serial number.
* `id_leads_to_connection`: what was said above of new connections and of their ids.
-/

namespace MessageServer

/-- Whether it is the release of a connection in this slot. -/
def RegistryEvent.vacates (i : UInt32) : RegistryEvent → Bool
  | .opened _ => false
  | .released t => t.id.index = i

namespace Registry

variable {r s u : Registry} {events history : List RegistryEvent}

/-- How often the slot was released. -/
def releases (history : List RegistryEvent) (i : UInt32) : Nat :=
  history.countP (·.vacates i)

/-- The slot is vacant, and no other vacant slot was released after it. -/
def LastReleased (history : List RegistryEvent) (r : Registry) (i : UInt32) : Prop :=
  r.Vacant i ∧ ∃ before t after, history = before ++ .released t :: after ∧ t.id.index = i ∧
    ∀ u, .released u ∈ after → ¬ r.Vacant u.id.index

/-- The slot follows those that were given to connections before. -/
def Fresh (history : List RegistryEvent) (i : UInt32) : Prop :=
  ∀ j : UInt32, j < i ↔ ∃ t, .opened t ∈ history ∧ t.id.index = j

/-! ## Generations -/

theorem releases_cons (event : RegistryEvent) (events : List RegistryEvent) (i : UInt32) :
    releases (event :: events) i = releases [event] i + releases events i := by
  rw [← List.singleton_append, releases, List.countP_append]
  rfl

theorem releases_opened (t : Ticket) (i : UInt32) : releases [.opened t] i = 0 :=
  rfl

theorem releases_released (t : Ticket) (i : UInt32) :
    releases [.released t] i = if t.id.index = i then 1 else 0 := by
  rw [releases, List.countP_singleton]
  simp [RegistryEvent.vacates]

theorem releases_pos {t : Ticket} (h : .released t ∈ events) : 0 < releases events t.id.index :=
  List.countP_pos_iff.mpr ⟨_, h, decide_eq_true rfl⟩

theorem Move.generation_eq {event : RegistryEvent} (hmove : r.Move event s) (h : r.Sound)
    (i : UInt32) :
    (s.slotAt i).generation = (r.slotAt i).generation + UInt32.ofNat (releases [event] i) := by
  cases hmove with
  | @release t ht =>
      rw [slotAt_without ht, releases_released]
      split_ifs with hi
      · rw [← hi, h.generation_of_live ht]
        rfl
      · exact (UInt32.add_zero _).symm
  | enter hroom hd =>
      rw [h.slotAt_enter hroom, releases_opened]
      split_ifs
      · exact (UInt32.add_zero _).symm
      · exact (UInt32.add_zero _).symm

/-- A slot is as many generations further on as it was released. -/
theorem Moves.generation_eq (hmoves : r.Moves events s) (h : r.Sound) (i : UInt32) :
    (s.slotAt i).generation = (r.slotAt i).generation + UInt32.ofNat (releases events i) := by
  induction hmoves with
  | refl r => exact (UInt32.add_zero _).symm
  | @step r s u event events hmove _ ih =>
      calc
        (u.slotAt i).generation
        _ = (s.slotAt i).generation + UInt32.ofNat (releases events i) := ih (hmove.sound h)
        _ = (r.slotAt i).generation + UInt32.ofNat (releases [event] i) +
            UInt32.ofNat (releases events i) := by rw [hmove.generation_eq h]
        _ = (r.slotAt i).generation + UInt32.ofNat (releases (event :: events) i) := by
            rw [releases_cons event events, UInt32.ofNat_add, UInt32.add_assoc]

/-! ## Live connections -/

theorem Move.live {event : RegistryEvent} (hmove : r.Move event s) (h : r.Sound) {t : Ticket}
    (ht : r.Live t) (hevent : .released t ≠ event) : s.Live t := by
  cases hmove with
  | release hu => exact (live_without_iff hu).mpr ⟨ht, fun heq => hevent (heq ▸ rfl)⟩
  | enter hroom _ => exact (h.live_enter_iff hroom).mpr (.inr ht)

/-- A live connection stays live until it is released. -/
theorem Moves.live (hmoves : r.Moves events s) (h : r.Sound) {t : Ticket} (ht : r.Live t)
    (hnot : .released t ∉ events) : s.Live t := by
  induction hmoves with
  | refl r => exact ht
  | step hmove _ ih =>
      obtain ⟨hfirst, hrest⟩ := not_or.mp (mt List.mem_cons.mpr hnot)
      exact ih (hmove.sound h) (hmove.live h ht hfirst) hrest

/-- A connection is live right after it was opened. -/
theorem Moves.exists_live {before after : List RegistryEvent} {t : Ticket}
    (hmoves : r.Moves (before ++ .opened t :: after) u) (h : r.Sound) :
    ∃ s : Registry, s.Sound ∧ s.Live t ∧ s.Moves after u := by
  obtain ⟨v, hbefore, hrest⟩ := hmoves.split
  have hv := hbefore.sound h
  cases hrest with
  | @step _ s _ _ _ hmove hafter =>
      refine ⟨s, hmove.sound hv, ?_, hafter⟩
      cases hmove with
      | enter hroom _ => exact (hv.live_enter_iff hroom).mpr (.inl rfl)

/-! ## Slots given out -/

theorem Move.lt_size_iff {event : RegistryEvent} (hmove : r.Move event s) (h : r.Sound)
    (j : UInt32) :
    j.toNat < s.slots.size ↔
      j.toNat < r.slots.size ∨ ∃ t, .opened t = event ∧ t.id.index = j := by
  cases hmove with
  | release ht => simp
  | @enter o hroom hd =>
      rw [size_enter, h.lt_size_takeSlot_iff hroom, or_comm]
      simp [enter_index, eq_comm]

/-- A slot was created if and only if a connection was given it. -/
theorem Moves.lt_size_iff (hmoves : r.Moves events s) (h : r.Sound) (j : UInt32) :
    j.toNat < s.slots.size ↔
      j.toNat < r.slots.size ∨ ∃ t, .opened t ∈ events ∧ t.id.index = j := by
  induction hmoves with
  | refl r => simp
  | step hmove _ ih =>
      rw [ih (hmove.sound h), hmove.lt_size_iff h, or_assoc, ← exists_or]
      simp only [List.mem_cons, or_and_right]

/-! ## The order of the free list -/

/-- Of the slots released after a slot of the free list, the vacant ones stand before it. -/
def InOrder (history : List RegistryEvent) (r : Registry) : Prop :=
  ∀ front i rest, r.free = front ++ i :: rest →
    ∃ before t after, history = before ++ .released t :: after ∧ t.id.index = i ∧
      ∀ u, .released u ∈ after → r.Vacant u.id.index → u.id.index ∈ front

theorem new_inOrder (capacity : Nat) : InOrder [] (new capacity) := by
  intro front i rest hfree
  simp [new] at hfree

theorem InOrder.without (horder : InOrder history r) {t : Ticket} (ht : r.Live t) :
    InOrder (history ++ [.released t]) (r.without t) := by
  intro front i rest hfree
  rcases List.append_eq_cons_iff.mp hfree.symm with ⟨hfront, hi⟩ | ⟨front, rfl, hrest⟩
  · -- the slot just released is in front of all others
    obtain ⟨rfl, -⟩ := List.cons_eq_cons.mp hi.symm
    exact ⟨history, t, [], rfl, rfl, fun u hu => absurd hu List.not_mem_nil⟩
  · obtain ⟨before, v, after, rfl, hv, hafter⟩ := horder front i rest hrest
    refine ⟨before, v, after ++ [.released t], List.append_assoc _ _ _, hv, fun u hu hvacant => ?_⟩
    rcases (vacant_without_iff ht).mp hvacant with heq | hold
    · exact heq ▸ List.mem_cons_self
    · rcases List.mem_append.mp hu with hu | hu
      · exact List.mem_cons_of_mem _ (hafter u hu hold)
      · obtain rfl := RegistryEvent.released.inj (List.mem_singleton.mp hu)
        exact List.mem_cons_self

theorem InOrder.enter (horder : InOrder history r) (h : r.Sound) (hroom : r.live < r.capacity)
    {o : Opening} :
    InOrder (history ++ [.opened (r.enter o).1.toTicket]) (r.enter o).2 := by
  intro front i rest hfree
  rw [free_enter] at hfree
  rcases h.takeSlot_cases hroom with ⟨tail, hnext, htake⟩ | ⟨hnil, -, -, htake⟩
  · have hlong : r.free = (r.nextSlot :: front) ++ i :: rest := by
      rw [htake] at hfree
      rw [hnext, List.cons_append, ← hfree]
    obtain ⟨before, v, after, rfl, hv, hafter⟩ := horder _ i rest hlong
    refine ⟨before, v, after ++ [_], List.append_assoc _ _ _, hv, fun u hu hvacant => ?_⟩
    -- the slot taken was in front of the others, and it is not vacant any more
    obtain ⟨hne, hold⟩ := (h.vacant_enter_iff hroom).mp hvacant
    have hu' : .released u ∈ after := by simpa using hu
    exact (List.mem_cons.mp (hafter u hu' hold)).resolve_left hne
  · rw [htake, hnil] at hfree
    simp at hfree

theorem Moves.inOrder (hmoves : r.Moves events s) (h : r.Sound) (horder : InOrder history r) :
    InOrder (history ++ events) s := by
  induction hmoves generalizing history with
  | refl r => rwa [List.append_nil]
  | step hmove _ ih =>
      rw [List.append_cons]
      refine ih (hmove.sound h) ?_
      cases hmove with
      | release ht => exact horder.without ht
      | enter hroom _ => exact horder.enter h hroom

/-! ## Serial numbers -/

theorem Moves.issued_le (hmoves : r.Moves events s) : r.issued ≤ s.issued := by
  induction hmoves with
  | refl r => exact Nat.le_refl _
  | step hmove _ ih =>
      cases hmove with
      | release ht => exact ih
      | enter hroom _ => exact Nat.le_trans (by rw [issued_enter]; exact Nat.le_succ _) ih

/-- A serial number is the number of the connections opened before. -/
theorem Moves.serial_bounds (hmoves : r.Moves events s) {t : Ticket} (ht : .opened t ∈ events) :
    r.issued ≤ t.serial ∧ t.serial < s.issued := by
  induction hmoves with
  | refl r => cases ht
  | @step r s u event events hmove hrest ih =>
      rcases List.mem_cons.mp ht with rfl | hlater
      · cases hmove with
        | @enter o hroom _ =>
            have hle := hrest.issued_le
            rw [issued_enter] at hle
            rw [enter_serial]
            exact ⟨Nat.le_refl _, hle⟩
      · obtain ⟨hlow, hhigh⟩ := ih hlater
        have hle := (Moves.single hmove).issued_le
        exact ⟨Nat.le_trans hle hlow, hhigh⟩

/-- No two connections have the same serial number. -/
theorem Moves.serial_ne {before after : List RegistryEvent} {t : Ticket}
    (hmoves : r.Moves (before ++ .opened t :: after) s) :
    ∀ u, .opened u ∈ before ++ after → u.serial ≠ t.serial := by
  intro u hu
  obtain ⟨v, hbefore, hrest⟩ := hmoves.split
  cases hrest with
  | step hmove hafter =>
      obtain ⟨hlow, hhigh⟩ := (Moves.single hmove).serial_bounds List.mem_cons_self
      -- what was opened before has a lower number, and what was opened after it a higher one
      rcases List.mem_append.mp hu with hu | hu
      · exact Nat.ne_of_lt (Nat.lt_of_lt_of_le (hbefore.serial_bounds hu).2 hlow)
      · exact Nat.ne_of_gt (Nat.lt_of_lt_of_le hhigh (hafter.serial_bounds hu).1)

/-! ## Ids -/

/-- The id that a registration gives: its generation, and where its slot comes from. -/
theorem Moves.enter_id {capacity : Nat} (hmoves : (new capacity).Moves history r)
    (hcapacity : capacity < UInt32.size) (hroom : r.live < r.capacity) (o : Opening) :
    (r.enter o).1.id.generation = UInt32.ofNat (releases history (r.enter o).1.id.index) ∧
      (LastReleased history r (r.enter o).1.id.index ∨
        (∀ i, ¬ r.Vacant i) ∧ Fresh history (r.enter o).1.id.index) := by
  have hnew := new_sound hcapacity
  have h := hmoves.sound hnew
  rw [Registry.enter_id]
  constructor
  · rw [hmoves.generation_eq hnew]
    exact UInt32.zero_add _
  · rcases h.takeSlot_cases hroom with ⟨rest, hfree, -⟩ | ⟨hfree, hnext, -, -⟩
    · -- the slot comes from the free list, so it was released last
      left
      have horder := hmoves.inOrder hnew (new_inOrder capacity)
      rw [List.nil_append] at horder
      obtain ⟨before, t, after, hhistory, ht, hafter⟩ := horder [] r.nextSlot rest hfree
      have hvacant := (h.mem_free_iff _).mp (hfree ▸ List.mem_cons_self)
      refine ⟨hvacant, before, t, after, hhistory, ht, ?_⟩
      exact fun u hu hvacant => List.not_mem_nil (hafter u hu hvacant)
    · -- there is no free slot, so the arena grows by the slot behind all others
      right
      constructor
      · intro i hvacant
        have hmem := (h.mem_free_iff i).mpr hvacant
        rw [hfree] at hmem
        cases hmem
      · intro j
        rw [UInt32.lt_iff_toNat_lt, hnext, hmoves.lt_size_iff hnew]
        simp [new]

/-- While a connection is live, its id leads to it. -/
theorem Sound.find_live (h : r.Sound) {t : Ticket} (ht : r.Live t) :
    r.get? t.id = some t ∧ (r.release t.id).1 = some t := by
  refine ⟨h.get?_eq_some_iff.mpr ⟨ht, rfl⟩, ?_⟩
  rw [h.release_of_live ht]

/-- An id of another generation than its slot leads nowhere. -/
theorem Sound.find_stale (h : r.Sound) {id : ConnectionId}
    (hne : (r.slotAt id.index).generation ≠ id.generation) :
    r.get? id = none ∧ r.release id = (none, r) := by
  have hnone : r.get? id = none := by rw [get?_eq, if_neg hne]
  rcases h.release_cases id with hcase | ⟨t, hlive, rfl, -⟩
  · exact hcase
  · rw [h.get?_eq_some_iff.mpr ⟨hlive, rfl⟩] at hnone
    cases hnone

/-- A released connection is not found again before the generations of its slot have gone round. -/
theorem Moves.find_released (hmoves : r.Moves events s) (h : r.Sound) {t : Ticket} (ht : r.Live t)
    (hreleased : .released t ∈ events)
    (hround : ∀ k, releases events t.id.index ≠ (k + 1) * UInt32.size) :
    s.get? t.id = none ∧ s.release t.id = (none, s) := by
  refine (hmoves.sound h).find_stale ?_
  rw [hmoves.generation_eq h, h.generation_of_live ht]
  intro hsame
  have hzero : UInt32.ofNat (releases events t.id.index) = 0 := UInt32.add_eq_left.mp hsame
  have hmod : releases events t.id.index % UInt32.size = 0 :=
    (UInt32.ofNat_eq_iff_mod_eq_toNat _ _).mp hzero
  obtain ⟨k, hk⟩ := Nat.dvd_of_mod_eq_zero hmod
  have hpos := releases_pos hreleased
  cases k with
  | zero => omega
  | succ k => exact hround k (by rw [hk, Nat.mul_comm])

/-- A new connection is given the vacant slot that was released last, or a fresh one if there is
none, and the number of the releases of its slot as generation.  No other connection has its serial
number; its id leads to it until it is released, and nowhere after that, unless the releases of its
slot since it was opened are a multiple of the number of generations. -/
theorem id_leads_to_connection {capacity : Nat} (hcapacity : capacity < UInt32.size)
    {history : List RegistryEvent} {r : Registry} (hreached : Reached capacity history r) :
    (∀ o c, (r.register o).1 = .ok c →
      c.id.generation = UInt32.ofNat (releases (history ++ r.evictions o) c.id.index) ∧
        (LastReleased (history ++ r.evictions o) (r.evict o.descriptor) c.id.index ∨
          (∀ i, ¬ (r.evict o.descriptor).Vacant i) ∧
            Fresh (history ++ r.evictions o) c.id.index)) ∧
      ∀ before t after, history = before ++ .opened t :: after →
        (∀ u, .opened u ∈ before ++ after → u.serial ≠ t.serial) ∧
          (.released t ∉ after → r.get? t.id = some t ∧ (r.release t.id).1 = some t) ∧
          (.released t ∈ after → (∀ k, releases after t.id.index ≠ (k + 1) * UInt32.size) →
            r.get? t.id = none ∧ r.release t.id = (none, r)) := by
  have hmoves := moves_of_reached hcapacity hreached
  have hnew := new_sound hcapacity
  have h := hmoves.sound hnew
  constructor
  · intro o c hc
    rcases r.register_cases o with ⟨hfull, -, -⟩ | ⟨hroom, heq⟩
    · rw [register_eq, if_pos hfull] at hc
      cases hc
    · rw [heq, Except.ok.injEq] at hc
      subst hc
      exact (hmoves.trans (h.moves_evict o)).enter_id hcapacity hroom o
  · rintro before t after rfl
    obtain ⟨s, hs, hlive, hafter⟩ := hmoves.exists_live hnew
    refine ⟨hmoves.serial_ne, fun hnot => ?_, fun hreleased hround => ?_⟩
    · exact h.find_live (hafter.live hs hlive hnot)
    · exact hafter.find_released hs hlive hreleased hround

/-- A descriptor is registered twice, so the first connection is evicted, and the second one is
given its slot. -/
theorem id_leads_nowhere_after_reuse :
    let o : Opening := ⟨5, .v4 .localhost 9000, true, 0, .fresh⟩
    let first := ((new 2).register o).2
    let second := (first.register o).2
    2 < UInt32.size ∧ Reached 2 ((new 2).registration o ++ first.registration o) second ∧
      (second.get? ⟨0, 0⟩ = none ∧ second.release ⟨0, 0⟩ = (none, second)) ∧
        second.get? ⟨0, 1⟩ = some ⟨⟨0, 1⟩, 1, 5⟩ := by
  intro o first second
  have hsize : 2 < UInt32.size := by decide
  have hreached : Reached 2 ((new 2).registration o ++ first.registration o) second :=
    .call (.call .new (.register o)) (.register o)
  let old : Ticket := ⟨⟨0, 0⟩, 0, 5⟩
  let young : Ticket := ⟨⟨0, 1⟩, 1, 5⟩
  have hhistory : (new 2).registration o ++ first.registration o =
      [.opened old, .released old, .opened young] := by decide
  obtain ⟨-, hids⟩ := id_leads_to_connection hsize hreached
  have hstale := (hids [] old [.released old, .opened young] hhistory).2.2
  have hcurrent := (hids [.opened old, .released old] young [] hhistory).2.1
  refine ⟨hsize, hreached, hstale (by decide) fun k => ?_, (hcurrent (by decide)).1⟩
  have hone : releases [.released old, .opened young] old.id.index = 1 := by decide
  rw [hone, UInt32.size]
  omega

end Registry

end MessageServer
