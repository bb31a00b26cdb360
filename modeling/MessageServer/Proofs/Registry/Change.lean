import MessageServer.Proofs.Registry.Invariant

/-!
# How a registry changes

Whatever is asked of a registry, its slots change in two ways only.

* `Registry.without` gives up the slot of a live connection.  `Sound.release_cases` says that a
  release does this or nothing, and `Sound.evict_cases` that an eviction does.
* `Registry.enter` puts a new connection into a slot without occupant; `register_eq` says where
  this stands in a registration.

Both keep the representation invariant, `Sound.without` and `Sound.enter`.
-/

namespace MessageServer.Registry

variable {r : Registry}

/-! ## Giving up a slot -/

/-- The registry without a live connection: its slot is free, one generation further on. -/
def without (r : Registry) (t : Ticket) : Registry :=
  { r with
    slots := r.slots.setIfInBounds t.id.index.toNat ⟨t.id.generation + 1, none⟩
    free := t.id.index :: r.free
    live := r.live - 1
    byDescriptor := unmap t.descriptor r.byDescriptor }

@[simp] theorem size_without (r : Registry) (t : Ticket) :
    (r.without t).slots.size = r.slots.size :=
  Array.size_setIfInBounds

theorem slotAt_without {t : Ticket} (ht : r.Live t) (j : UInt32) :
    (r.without t).slotAt j =
      if t.id.index = j then ⟨t.id.generation + 1, none⟩ else r.slotAt j := by
  unfold slotAt without
  rw [Array.getElem?_setIfInBounds]
  by_cases hj : t.id.index = j
  · subst hj
    rw [if_pos rfl, if_pos rfl, if_pos (lt_size_of_occupant ht), Option.getD_some]
  · rw [if_neg hj, if_neg fun heq => hj (UInt32.toNat_inj.mp heq)]

theorem vacant_without_iff {t : Ticket} (ht : r.Live t) {j : UInt32} :
    (r.without t).Vacant j ↔ t.id.index = j ∨ r.Vacant j := by
  unfold Vacant
  rw [size_without, slotAt_without ht]
  split_ifs with hj
  · subst hj
    simpa using lt_size_of_occupant ht
  · simp [hj]

theorem length_tickets_without {t : Ticket} (ht : r.Live t) :
    (r.without t).tickets.length + 1 = r.tickets.length := by
  have hi : t.id.index.toNat < r.slots.toList.length := lt_size_of_occupant ht
  have hslot : r.slots.toList[t.id.index.toNat] = r.slotAt t.id.index := by
    rw [← Option.some.injEq, ← List.getElem?_eq_getElem hi, Array.getElem?_toList]
    exact getElem?_of_occupant ht
  have hsome : (r.slots.toList[t.id.index.toNat]).occupant.isSome = true := by
    rw [hslot, ht.occupant, Option.isSome_some]
  have hpos : 0 < r.slots.toList.countP (·.occupant.isSome) :=
    List.countP_pos_iff.mpr ⟨_, List.getElem_mem hi, hsome⟩
  rw [length_tickets, length_tickets, without, Array.toList_setIfInBounds, List.countP_set hi,
    if_pos hsome]
  simpa using Nat.sub_add_cancel hpos

theorem live_without_iff {t u : Ticket} (ht : r.Live t) :
    (r.without t).Live u ↔ r.Live u ∧ u ≠ t := by
  unfold Live
  rw [slotAt_without ht]
  split_ifs with hindex
  · constructor
    · intro hnone
      cases hnone
    · rintro ⟨hu, hne⟩
      rw [← hindex, ht.occupant, Option.some.injEq] at hu
      exact absurd hu.symm hne
  · refine ⟨fun hu => ⟨hu, ?_⟩, And.left⟩
    rintro rfl
    exact hindex rfl

/-- The connection that an eviction removes. -/
def evicted (r : Registry) (d : Descriptor) : Option Ticket :=
  match r.mapped? d with
  | none => none
  | some stale => (r.release stale).1

namespace Sound

/-- A descriptor belongs to one live connection. -/
theorem eq_of_descriptor_eq (h : r.Sound) {t u : Ticket} (ht : r.Live t) (hu : r.Live u)
    (hd : t.descriptor = u.descriptor) : t = u := by
  have hfound := h.lookup?_eq_some_iff.mpr ⟨ht, hd⟩
  rw [h.lookup?_eq_some_iff.mpr ⟨hu, rfl⟩, Option.some.injEq] at hfound
  exact hfound.symm

theorem without (h : r.Sound) {t : Ticket} (ht : r.Live t) : (r.without t).Sound where
  capacity_lt := h.capacity_lt
  size_le := by
    rw [size_without]
    exact h.size_le
  live_eq := by
    have hcount := length_tickets_without ht
    have hlive := h.live_eq
    have : (r.without t).live = r.live - 1 := rfl
    omega
  live_le := Nat.le_trans (Nat.sub_le _ _) h.live_le
  free_nodup := by
    refine List.nodup_cons.mpr ⟨fun hmem => ?_, h.free_nodup⟩
    have hnone := ((h.mem_free_iff _).mp hmem).2
    rw [ht.occupant] at hnone
    cases hnone
  mem_free_iff i := by
    rw [show (r.without t).free = t.id.index :: r.free from rfl, List.mem_cons, h.mem_free_iff,
      vacant_without_iff ht, eq_comm]
  id_eq i u hu := by
    rw [slotAt_without ht] at hu ⊢
    split_ifs at hu ⊢ with hi
    exact h.id_eq i u hu
  mapped_nodup := nodup_unmap h.mapped_nodup t.descriptor
  mapped_iff d id := by
    rw [show (r.without t).byDescriptor = unmap t.descriptor r.byDescriptor from rfl, mem_unmap,
      h.mapped_iff]
    constructor
    · rintro ⟨⟨u, hu, rfl, rfl⟩, hne⟩
      exact ⟨u, (live_without_iff ht).mpr ⟨hu, fun heq => hne (heq ▸ rfl)⟩, rfl, rfl⟩
    · rintro ⟨u, hu, rfl, rfl⟩
      -- no other live connection has the descriptor that is unmapped
      obtain ⟨hlive, hne⟩ := (live_without_iff ht).mp hu
      exact ⟨⟨u, hlive, rfl, rfl⟩, fun hd => hne (h.eq_of_descriptor_eq hlive ht hd)⟩

/-- A release gives up the slot of the live connection with the id, if there is one. -/
theorem release_of_live (h : r.Sound) {t : Ticket} (ht : r.Live t) :
    r.release t.id = (some t, r.without t) := by
  have hmapped : r.mapped? t.descriptor = some t.id :=
    h.mapped?_eq_some_iff.mpr ⟨t, ht, rfl, rfl⟩
  unfold release
  simp only [getElem?_of_occupant ht, h.generation_of_live ht, if_true, ht.occupant, hmapped]
  rfl

theorem release_cases (h : r.Sound) (id : ConnectionId) :
    r.get? id = none ∧ r.release id = (none, r) ∨
      ∃ t, r.Live t ∧ t.id = id ∧ r.release id = (some t, r.without t) := by
  cases hget : r.get? id with
  | none =>
      refine .inl ⟨rfl, ?_⟩
      unfold get? at hget
      unfold release
      split at hget
      · rfl
      · split_ifs at hget ⊢ with hgeneration
        · simp only [hget]
        · rfl
  | some t =>
      obtain ⟨hlive, rfl⟩ := h.get?_eq_some_iff.mp hget
      exact .inr ⟨t, hlive, rfl, h.release_of_live hlive⟩

/-- An eviction gives up the slot of the live connection with the descriptor, if there is one. -/
theorem evict_cases (h : r.Sound) (d : Descriptor) :
    r.evicted d = none ∧ r.mapped? d = none ∧ r.evict d = r ∨
      ∃ t, r.Live t ∧ t.descriptor = d ∧ r.evicted d = some t ∧ r.evict d = r.without t := by
  unfold evicted Registry.evict
  cases hmapped : r.mapped? d with
  | none => exact .inl ⟨rfl, rfl, rfl⟩
  | some id =>
      obtain ⟨t, hlive, rfl, rfl⟩ := h.mapped?_eq_some_iff.mp hmapped
      refine .inr ⟨t, hlive, rfl, ?_, ?_⟩
      · simp only [h.release_of_live hlive]
      · simp only [h.release_of_live hlive]

theorem evict (h : r.Sound) (d : Descriptor) : (r.evict d).Sound := by
  rcases h.evict_cases d with ⟨-, -, heq⟩ | ⟨t, hlive, -, -, heq⟩
  · rwa [heq]
  · rw [heq]
    exact h.without hlive

theorem mapped?_evict (h : r.Sound) (d : Descriptor) : (r.evict d).mapped? d = none := by
  rcases h.evict_cases d with ⟨-, hnone, heq⟩ | ⟨t, hlive, rfl, -, heq⟩
  · rwa [heq]
  · rw [heq, mapped?, List.lookup_eq_none_iff]
    intro entry hentry
    have hne := (mem_unmap.mp hentry).2
    exact bne_iff_ne.mpr hne.symm

end Sound

/-! ## Giving up many slots -/

/-- An id belongs to one live connection. -/
theorem Live.eq_of_id_eq {t u : Ticket} (ht : r.Live t) (hu : r.Live u) (hid : t.id = u.id) :
    t = u := by
  have hsame := hu.occupant
  rw [← hid, ht.occupant] at hsame
  exact Option.some.inj hsame

@[simp] theorem issued_release (r : Registry) (id : ConnectionId) :
    (r.release id).2.issued = r.issued := by
  unfold release
  split
  · rfl
  · split_ifs
    · split <;> rfl
    · rfl

@[simp] theorem issued_releaseAll (r : Registry) (ids : List ConnectionId) :
    (r.releaseAll ids).2.issued = r.issued := by
  induction ids generalizing r with
  | nil => rfl
  | cons id ids ih => rw [releaseAll, ih, issued_release]

@[simp] theorem size_release (r : Registry) (id : ConnectionId) :
    (r.release id).2.slots.size = r.slots.size := by
  unfold release
  split
  · rfl
  · split_ifs
    · split
      · rfl
      · exact Array.size_setIfInBounds
    · rfl

@[simp] theorem size_releaseAll (r : Registry) (ids : List ConnectionId) :
    (r.releaseAll ids).2.slots.size = r.slots.size := by
  induction ids generalizing r with
  | nil => rfl
  | cons id ids ih => rw [releaseAll, ih, size_release]

@[simp] theorem issued_evict (r : Registry) (d : Descriptor) :
    (r.evict d).issued = r.issued := by
  unfold evict
  split
  · rfl
  · exact issued_release r _

namespace Sound

theorem release (h : r.Sound) (id : ConnectionId) : (r.release id).2.Sound := by
  rcases h.release_cases id with ⟨-, heq⟩ | ⟨t, hlive, -, heq⟩
  · rwa [heq]
  · rw [heq]
    exact h.without hlive

theorem release_eq_some_iff (h : r.Sound) {id : ConnectionId} {t : Ticket} :
    (r.release id).1 = some t ↔ r.Live t ∧ t.id = id := by
  rw [← h.get?_eq_some_iff]
  rcases h.release_cases id with ⟨hnone, heq⟩ | ⟨u, hlive, rfl, heq⟩
  · rw [heq, hnone]
  · rw [heq, h.get?_eq_some_iff.mpr ⟨hlive, rfl⟩]

theorem live_release_iff (h : r.Sound) {id : ConnectionId} {t : Ticket} :
    (r.release id).2.Live t ↔ r.Live t ∧ t.id ≠ id := by
  rcases h.release_cases id with ⟨hnone, heq⟩ | ⟨u, hlive, rfl, heq⟩
  · rw [heq]
    refine ⟨fun ht => ⟨ht, ?_⟩, And.left⟩
    rintro rfl
    rw [h.get?_eq_some_iff.mpr ⟨ht, rfl⟩] at hnone
    cases hnone
  · rw [heq, live_without_iff hlive]
    refine and_congr_right fun ht => not_congr ⟨congrArg _, ht.eq_of_id_eq hlive⟩

/-- The descriptor map leads to every live connection. -/
theorem mem_of_live (h : r.Sound) {ids : List ConnectionId}
    (hids : ids.Perm (r.byDescriptor.map (·.2))) {t : Ticket} (ht : r.Live t) : t.id ∈ ids := by
  rw [hids.mem_iff, List.mem_map]
  exact ⟨_, (h.mapped_iff _ _).mpr ⟨t, ht, rfl, rfl⟩, rfl⟩

/-- What a release of many ids answers: the live connections that have one of them. -/
theorem mem_releaseAll_iff (h : r.Sound) {ids : List ConnectionId} {t : Ticket} :
    t ∈ (r.releaseAll ids).1 ↔ r.Live t ∧ t.id ∈ ids := by
  induction ids generalizing r with
  | nil => simp [releaseAll]
  | cons id ids ih =>
      rw [releaseAll, List.mem_append, Option.mem_toList, h.release_eq_some_iff,
        ih (h.release id), h.live_release_iff, List.mem_cons]
      by_cases hid : t.id = id <;> simp [hid]

theorem live_releaseAll_iff (h : r.Sound) {ids : List ConnectionId} {t : Ticket} :
    (r.releaseAll ids).2.Live t ↔ r.Live t ∧ t.id ∉ ids := by
  induction ids generalizing r with
  | nil => simp [releaseAll]
  | cons id ids ih =>
      rw [releaseAll, ih (h.release id), h.live_release_iff, List.mem_cons, not_or, and_assoc]

/-- No connection is answered twice, even if an id is given twice. -/
theorem nodup_releaseAll (h : r.Sound) (ids : List ConnectionId) :
    (r.releaseAll ids).1.Nodup := by
  induction ids generalizing r with
  | nil => exact List.nodup_nil
  | cons id ids ih =>
      rw [releaseAll]
      refine List.nodup_append.mpr ⟨?_, ih (h.release id), fun t ht u hu htu => ?_⟩
      · cases (r.release id).1 <;> simp
      · -- what was released first is not live any more
        have hfirst := h.release_eq_some_iff.mp (Option.mem_toList.mp ht)
        have hlive := ((h.release id).mem_releaseAll_iff.mp hu).1
        exact (h.live_release_iff.mp hlive).2 (htu ▸ hfirst.2)

end Sound

/-! ## Taking a slot -/

/-- The slot that the next connection is given. -/
def nextSlot (r : Registry) : UInt32 :=
  r.takeSlot.1

/-- Makes a connection of a socket and puts it into the next slot. -/
def enter (r : Registry) (o : Opening) : Connection × Registry :=
  let (index, r) := r.takeSlot
  let c := o.connection ⟨index, r.generation index⟩ r.issued
  (c, r.occupy c.toTicket)

/-- A registration evicts, and then either refuses or opens a connection. -/
theorem register_eq (r : Registry) (o : Opening) :
    r.register o =
      if (r.evict o.descriptor).capacity ≤ (r.evict o.descriptor).live then
        (.error (.full (r.evict o.descriptor).capacity), r.evict o.descriptor)
      else
        (.ok ((r.evict o.descriptor).enter o).1, ((r.evict o.descriptor).enter o).2) :=
  rfl

/-- Taking a slot creates one at most, and a new one looks as if it had been there before. -/
theorem slotAt_takeSlot (r : Registry) (j : UInt32) : r.takeSlot.2.slotAt j = r.slotAt j := by
  unfold takeSlot
  cases r.free with
  | cons index rest => rfl
  | nil =>
      unfold slotAt
      simp only [Array.getElem?_push]
      split_ifs with hj
      · rw [Array.getElem?_eq_none (by omega), Option.getD_none, Option.getD_some]
      · rfl

theorem length_tickets_takeSlot (r : Registry) :
    r.takeSlot.2.tickets.length = r.tickets.length := by
  unfold takeSlot
  cases r.free with
  | cons index rest => rfl
  | nil => simp [length_tickets]

theorem slotAt_occupy {t : Ticket} (hindex : t.id.index.toNat < r.slots.size) (j : UInt32) :
    (r.occupy t).slotAt j =
      if t.id.index = j then ⟨(r.slotAt j).generation, some t⟩ else r.slotAt j := by
  unfold slotAt occupy
  simp only [Array.getElem?_modify]
  by_cases hj : t.id.index = j
  · subst hj
    rw [if_pos rfl, if_pos rfl, Array.getElem?_eq_getElem hindex]
    rfl
  · rw [if_neg hj, if_neg fun heq => hj (UInt32.toNat_inj.mp heq)]

theorem length_tickets_occupy {t : Ticket} (hindex : t.id.index.toNat < r.slots.size)
    (hvacant : (r.slotAt t.id.index).occupant = none) :
    (r.occupy t).tickets.length = r.tickets.length + 1 := by
  obtain ⟨before, slot, after, hslots, hlength, hmodify⟩ :=
    List.exists_of_modify (fun slot : RegistrySlot => { slot with occupant := some t })
      (i := t.id.index.toNat) (l := r.slots.toList) hindex
  have hslot : r.slots[t.id.index.toNat]? = some slot := by
    rw [← Array.getElem?_toList, hslots, ← hlength]
    simp
  rw [slotAt_of_getElem? hslot] at hvacant
  rw [length_tickets, length_tickets, occupy, Array.toList_modify, hmodify, hslots]
  simp only [List.countP_append, List.countP_cons, hvacant, Option.isSome_some, Option.isSome_none]
  simp
  omega

namespace Sound

/-- Without free slots all slots are occupied, so there are as many as live connections. -/
theorem live_eq_size (h : r.Sound) (hfree : r.free = []) : r.live = r.slots.size := by
  have hall : ∀ slot ∈ r.slots.toList, slot.occupant.isSome = true := by
    intro slot hslot
    obtain ⟨i, hi⟩ := List.mem_iff_getElem?.mp hslot
    rw [Array.getElem?_toList] at hi
    obtain ⟨j, rfl, -⟩ := h.exists_slotAt hi
    rw [Option.isSome_iff_ne_none]
    intro hnone
    have hmem := (h.mem_free_iff j).mpr (vacant_iff.mpr ⟨slot, hi, hnone⟩)
    rw [hfree] at hmem
    cases hmem
  calc
    r.live
    _ = r.slots.toList.countP (·.occupant.isSome) := h.live_eq.trans r.length_tickets
    _ = r.slots.toList.length := List.countP_eq_length.mpr hall
    _ = r.slots.size := Array.length_toList

/-- While there is room, the next slot was given up, or it is created behind all others. -/
theorem takeSlot_cases (h : r.Sound) (hroom : r.live < r.capacity) :
    (∃ rest, r.free = r.nextSlot :: rest ∧ r.takeSlot.2 = { r with free := rest }) ∨
      r.free = [] ∧ r.nextSlot.toNat = r.slots.size ∧ r.slots.size < r.capacity ∧
        r.takeSlot.2 = { r with slots := r.slots.push ⟨0, none⟩ } := by
  unfold nextSlot takeSlot
  cases hfree : r.free with
  | cons index rest => exact .inl ⟨rest, rfl, rfl⟩
  | nil =>
      refine .inr ⟨rfl, UInt32.toNat_ofNat_of_lt' h.size_lt, ?_, rfl⟩
      rw [← h.live_eq_size hfree]
      exact hroom

/-- The next slot is created at once if it is not there. -/
theorem lt_size_takeSlot_iff (h : r.Sound) (hroom : r.live < r.capacity) {j : UInt32} :
    j.toNat < r.takeSlot.2.slots.size ↔ j = r.nextSlot ∨ j.toNat < r.slots.size := by
  rcases h.takeSlot_cases hroom with ⟨rest, hfree, htake⟩ | ⟨-, hnext, -, htake⟩
  · have hvacant : r.Vacant r.nextSlot := (h.mem_free_iff _).mp (hfree ▸ List.mem_cons_self)
    rw [htake]
    refine ⟨Or.inr, ?_⟩
    rintro (rfl | hj)
    · exact hvacant.1
    · exact hj
  · rw [htake, Array.size_push, ← hnext, ← UInt32.toNat_inj]
    omega

theorem nextSlot_lt (h : r.Sound) (hroom : r.live < r.capacity) :
    r.nextSlot.toNat < r.takeSlot.2.slots.size :=
  (h.lt_size_takeSlot_iff hroom).mpr (.inl rfl)

theorem occupant_nextSlot (h : r.Sound) (hroom : r.live < r.capacity) :
    (r.slotAt r.nextSlot).occupant = none := by
  rcases h.takeSlot_cases hroom with ⟨rest, hfree, -⟩ | ⟨-, hnext, -, -⟩
  · exact ((h.mem_free_iff _).mp (hfree ▸ List.mem_cons_self)).2
  · rw [slotAt, hnext, Array.getElem?_eq_none (Nat.le_refl _), Option.getD_none]

theorem mem_free_takeSlot (h : r.Sound) (hroom : r.live < r.capacity) {j : UInt32} :
    j ∈ r.takeSlot.2.free ↔ j ≠ r.nextSlot ∧ r.Vacant j := by
  rcases h.takeSlot_cases hroom with ⟨rest, hfree, htake⟩ | ⟨hfree, -, -, htake⟩
  · have hnodup := h.free_nodup
    rw [hfree] at hnodup
    have hnot := (List.nodup_cons.mp hnodup).1
    rw [htake, ← h.mem_free_iff, hfree, List.mem_cons]
    constructor
    · intro hj
      exact ⟨fun heq => hnot (heq ▸ hj), .inr hj⟩
    · rintro ⟨hne, heq | hj⟩
      · exact absurd heq hne
      · exact hj
  · rw [htake, ← h.mem_free_iff, hfree]
    simp

theorem free_nodup_takeSlot (h : r.Sound) (hroom : r.live < r.capacity) :
    r.takeSlot.2.free.Nodup := by
  have hnodup := h.free_nodup
  rcases h.takeSlot_cases hroom with ⟨rest, hfree, htake⟩ | ⟨-, -, -, htake⟩
  · rw [hfree] at hnodup
    rw [htake]
    exact (List.nodup_cons.mp hnodup).2
  · rwa [htake]

theorem size_takeSlot_le (h : r.Sound) (hroom : r.live < r.capacity) :
    r.takeSlot.2.slots.size ≤ r.capacity := by
  rcases h.takeSlot_cases hroom with ⟨rest, -, htake⟩ | ⟨-, -, hlt, htake⟩
  · rw [htake]
    exact h.size_le
  · rw [htake, Array.size_push]
    exact hlt

end Sound

/-! ### The new connection -/

section Enter

variable (r) (o : Opening)

/-- Taking a slot concerns the slots and the free list only. -/
theorem takeSlot_frame :
    r.takeSlot.2.capacity = r.capacity ∧ r.takeSlot.2.byDescriptor = r.byDescriptor ∧
      r.takeSlot.2.live = r.live ∧ r.takeSlot.2.issued = r.issued := by
  unfold takeSlot
  cases r.free with
  | cons index rest => exact ⟨rfl, rfl, rfl, rfl⟩
  | nil => exact ⟨rfl, rfl, rfl, rfl⟩

theorem enter_id : (r.enter o).1.id = ⟨r.nextSlot, (r.slotAt r.nextSlot).generation⟩ := by
  rw [← slotAt_takeSlot, ← generation_eq]
  rfl

theorem enter_serial : (r.enter o).1.serial = r.issued :=
  r.takeSlot_frame.2.2.2

theorem enter_index : (r.enter o).1.id.index = r.nextSlot :=
  rfl

@[simp] theorem capacity_enter : (r.enter o).2.capacity = r.capacity :=
  r.takeSlot_frame.1

@[simp] theorem live_enter : (r.enter o).2.live = r.live + 1 :=
  congrArg (· + 1) r.takeSlot_frame.2.2.1

@[simp] theorem issued_enter : (r.enter o).2.issued = r.issued + 1 :=
  congrArg (· + 1) r.takeSlot_frame.2.2.2

@[simp] theorem free_enter : (r.enter o).2.free = r.takeSlot.2.free :=
  rfl

@[simp] theorem size_enter : (r.enter o).2.slots.size = r.takeSlot.2.slots.size :=
  Array.size_modify

theorem byDescriptor_enter :
    (r.enter o).2.byDescriptor =
      (o.descriptor, (r.enter o).1.id) :: unmap o.descriptor r.byDescriptor := by
  rw [← r.takeSlot_frame.2.1]
  rfl

end Enter

namespace Sound

theorem slotAt_enter (h : r.Sound) (hroom : r.live < r.capacity) (o : Opening) (j : UInt32) :
    (r.enter o).2.slotAt j =
      if r.nextSlot = j then ⟨(r.slotAt j).generation, some (r.enter o).1.toTicket⟩
      else r.slotAt j := by
  rw [← slotAt_takeSlot r j]
  exact slotAt_occupy (t := (r.enter o).1.toTicket) (h.nextSlot_lt hroom) j

theorem vacant_enter_iff (h : r.Sound) (hroom : r.live < r.capacity) {o : Opening} {j : UInt32} :
    (r.enter o).2.Vacant j ↔ j ≠ r.nextSlot ∧ r.Vacant j := by
  unfold Vacant
  rw [size_enter, h.lt_size_takeSlot_iff hroom, h.slotAt_enter hroom]
  split_ifs with hj
  · simp [hj]
  · simp [Ne.symm hj]

theorem length_tickets_enter (h : r.Sound) (hroom : r.live < r.capacity) (o : Opening) :
    (r.enter o).2.tickets.length = r.tickets.length + 1 := by
  have hvacant := h.occupant_nextSlot hroom
  rw [← slotAt_takeSlot] at hvacant
  rw [← length_tickets_takeSlot r]
  exact length_tickets_occupy (t := (r.enter o).1.toTicket) (h.nextSlot_lt hroom) hvacant

theorem live_enter_iff (h : r.Sound) (hroom : r.live < r.capacity) {o : Opening} {u : Ticket} :
    (r.enter o).2.Live u ↔ u = (r.enter o).1.toTicket ∨ r.Live u := by
  have hvacant := h.occupant_nextSlot hroom
  unfold Live
  rw [h.slotAt_enter hroom]
  split_ifs with hindex
  · rw [← hindex, hvacant, Option.some.injEq, eq_comm]
    simp
  · constructor
    · exact Or.inr
    · rintro (rfl | hu)
      · exact absurd (enter_index r o).symm hindex
      · exact hu

theorem enter (h : r.Sound) (hroom : r.live < r.capacity) {o : Opening}
    (hd : r.mapped? o.descriptor = none) : (r.enter o).2.Sound where
  capacity_lt := by
    rw [capacity_enter]
    exact h.capacity_lt
  size_le := by
    rw [size_enter, capacity_enter]
    exact h.size_takeSlot_le hroom
  live_eq := by rw [live_enter, h.length_tickets_enter hroom, h.live_eq]
  live_le := by
    rw [live_enter, capacity_enter]
    exact hroom
  free_nodup := h.free_nodup_takeSlot hroom
  mem_free_iff j := by
    rw [free_enter, h.mem_free_takeSlot hroom, h.vacant_enter_iff hroom]
  id_eq j u hu := by
    rw [h.slotAt_enter hroom] at hu ⊢
    split_ifs at hu ⊢ with hj
    · subst hj
      rw [← Option.some.inj hu]
      exact enter_id r o
    · exact h.id_eq j u hu
  mapped_nodup := by
    rw [byDescriptor_enter, List.map_cons, List.nodup_cons]
    refine ⟨fun hmem => ?_, nodup_unmap h.mapped_nodup _⟩
    obtain ⟨⟨d, id⟩, hentry, heq⟩ := List.mem_map.mp hmem
    exact (mem_unmap.mp hentry).2 heq
  mapped_iff d id := by
    -- the descriptor is not mapped after an eviction, so the map only grows
    rw [byDescriptor_enter, unmap_eq_self hd, List.mem_cons, h.mapped_iff, Prod.mk.injEq]
    constructor
    · rintro (⟨rfl, rfl⟩ | ⟨u, hu, rfl, rfl⟩)
      · exact ⟨_, (h.live_enter_iff hroom).mpr (.inl rfl), rfl, rfl⟩
      · exact ⟨u, (h.live_enter_iff hroom).mpr (.inr hu), rfl, rfl⟩
    · rintro ⟨u, hu, rfl, rfl⟩
      rcases (h.live_enter_iff hroom).mp hu with rfl | hold
      · exact .inl ⟨rfl, rfl⟩
      · exact .inr ⟨u, hold, rfl, rfl⟩

end Sound

end MessageServer.Registry
