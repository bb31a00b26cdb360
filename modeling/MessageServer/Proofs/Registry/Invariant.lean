import Mathlib.Data.List.Basic
import MessageServer.Connection.Registry

/-!
# The representation invariant of the registry

Five parts of a registry have to agree: the slots with their generations, the list of free slots,
the descriptor map and the number of live connections.  `Registry.Sound` says how.

The slots are seen through `Registry.slotAt`, which takes a slot that was never created for an
unoccupied slot of generation zero, so that creating a slot changes nothing that is seen.

* `new_sound`: the empty registry is sound.
* `Sound.mem_tickets_iff`: the live connections are the occupants of the slots their ids name.
* `Sound.get?_eq_some_iff`: an id finds the live connection with this id.
* `Sound.lookup?_eq_some_iff`: a descriptor finds the live connection with this descriptor.
-/

namespace MessageServer.Registry

/-! ## Views -/

/-- A slot by its index, unoccupied and of generation zero if it was never created. -/
def slotAt (r : Registry) (i : UInt32) : RegistrySlot :=
  r.slots[i.toNat]?.getD ⟨0, none⟩

/-- The connection occupies the slot its id names. -/
def Live (r : Registry) (t : Ticket) : Prop :=
  (r.slotAt t.id.index).occupant = some t

/-- The slot was created and has no occupant. -/
def Vacant (r : Registry) (i : UInt32) : Prop :=
  i.toNat < r.slots.size ∧ (r.slotAt i).occupant = none

theorem Live.occupant {r : Registry} {t : Ticket} (h : r.Live t) :
    (r.slotAt t.id.index).occupant = some t :=
  h

theorem generation_eq (r : Registry) (i : UInt32) : r.generation i = (r.slotAt i).generation := by
  unfold generation slotAt
  cases r.slots[i.toNat]? <;> rfl

theorem slotAt_of_getElem? {r : Registry} {i : UInt32} {slot : RegistrySlot}
    (h : r.slots[i.toNat]? = some slot) : r.slotAt i = slot := by
  rw [slotAt, h, Option.getD_some]

/-- Only slots that were created are occupied. -/
theorem getElem?_of_occupant {r : Registry} {i : UInt32} {t : Ticket}
    (h : (r.slotAt i).occupant = some t) : r.slots[i.toNat]? = some (r.slotAt i) := by
  cases hslot : r.slots[i.toNat]? with
  | none => simp [slotAt, hslot] at h
  | some slot => rw [slotAt_of_getElem? hslot]

theorem vacant_iff {r : Registry} {i : UInt32} :
    r.Vacant i ↔ ∃ slot, r.slots[i.toNat]? = some slot ∧ slot.occupant = none := by
  unfold Vacant
  constructor
  · rintro ⟨hi, hnone⟩
    have hslot := Array.getElem?_eq_getElem hi
    rw [slotAt_of_getElem? hslot] at hnone
    exact ⟨_, hslot, hnone⟩
  · rintro ⟨slot, hslot, hnone⟩
    rw [slotAt_of_getElem? hslot]
    exact ⟨(Array.getElem?_eq_some_iff.mp hslot).1, hnone⟩

theorem lt_size_of_occupant {r : Registry} {i : UInt32} {t : Ticket}
    (h : (r.slotAt i).occupant = some t) : i.toNat < r.slots.size :=
  (Array.getElem?_eq_some_iff.mp (getElem?_of_occupant h)).1

theorem get?_eq (r : Registry) (id : ConnectionId) :
    r.get? id =
      if (r.slotAt id.index).generation = id.generation then (r.slotAt id.index).occupant
      else none := by
  unfold get? slotAt
  cases r.slots[id.index.toNat]? with
  | none => split_ifs <;> rfl
  | some slot => rfl

theorem lookup?_eq (r : Registry) (d : Descriptor) :
    r.lookup? d = (r.mapped? d).bind fun id => (r.slotAt id.index).occupant := by
  unfold lookup? slotAt
  cases r.mapped? d with
  | none => rfl
  | some id => cases hslot : r.slots[id.index.toNat]? <;> simp [hslot]

/-- How many slots are occupied. -/
theorem length_tickets (r : Registry) :
    r.tickets.length = r.slots.toList.countP (·.occupant.isSome) :=
  List.length_filterMap_eq_countP

/-! ## The descriptor map -/

theorem lookup_eq_some_iff {m : List (Descriptor × ConnectionId)} (h : (m.map (·.1)).Nodup)
    {d : Descriptor} {id : ConnectionId} : m.lookup d = some id ↔ (d, id) ∈ m := by
  induction m with
  | nil => simp
  | cons entry m ih =>
      obtain ⟨e, other⟩ := entry
      obtain ⟨hnot, hrest⟩ := List.nodup_cons.mp h
      by_cases heq : d = e
      · subst heq
        have hmem : (d, id) ∉ m := fun hm => hnot (List.mem_map.mpr ⟨_, hm, rfl⟩)
        simp [hmem, eq_comm]
      · have hbeq : (d == e) = false := beq_false_of_ne heq
        rw [List.lookup_cons, hbeq, ih hrest, List.mem_cons, Prod.mk.injEq]
        simp [heq]

theorem mem_unmap {d e : Descriptor} {id : ConnectionId} {m : List (Descriptor × ConnectionId)} :
    (e, id) ∈ unmap d m ↔ (e, id) ∈ m ∧ e ≠ d := by
  simp [unmap]

theorem nodup_unmap {m : List (Descriptor × ConnectionId)} (h : (m.map (·.1)).Nodup)
    (d : Descriptor) : ((unmap d m).map (·.1)).Nodup :=
  h.sublist (List.filter_sublist.map _)

/-- A descriptor that is not mapped needs no unmapping. -/
theorem unmap_eq_self {m : List (Descriptor × ConnectionId)} {d : Descriptor}
    (h : m.lookup d = none) : unmap d m = m := by
  refine List.filter_eq_self.mpr fun entry hentry => ?_
  rw [bne_comm]
  exact List.lookup_eq_none_iff.mp h entry hentry

/-! ## The invariant -/

/-- The slots, the free list, the descriptor map and the count of live connections agree. -/
structure Sound (r : Registry) : Prop where
  capacity_lt : r.capacity < UInt32.size
  /-- The arena does not grow beyond the capacity. -/
  size_le : r.slots.size ≤ r.capacity
  live_eq : r.live = r.tickets.length
  live_le : r.live ≤ r.capacity
  free_nodup : r.free.Nodup
  mem_free_iff : ∀ i, i ∈ r.free ↔ r.Vacant i
  /-- An occupant carries the index and the current generation of its slot. -/
  id_eq : ∀ i t, (r.slotAt i).occupant = some t → t.id = ⟨i, (r.slotAt i).generation⟩
  mapped_nodup : (r.byDescriptor.map (·.1)).Nodup
  mapped_iff : ∀ d id, (d, id) ∈ r.byDescriptor ↔ ∃ t, r.Live t ∧ t.descriptor = d ∧ t.id = id

theorem new_sound {capacity : Nat} (h : capacity < UInt32.size) : (new capacity).Sound where
  capacity_lt := h
  size_le := Nat.zero_le _
  live_eq := rfl
  live_le := Nat.zero_le _
  free_nodup := List.nodup_nil
  mem_free_iff i := by simp [new, Vacant]
  id_eq i t ht := by simp [slotAt, new] at ht
  mapped_nodup := List.nodup_nil
  mapped_iff d id := by simp [Live, slotAt, new]

namespace Sound

variable {r : Registry}

theorem size_lt (h : r.Sound) : r.slots.size < UInt32.size :=
  Nat.lt_of_le_of_lt h.size_le h.capacity_lt

/-- The place of a slot in the arena is an index. -/
theorem exists_slotAt (h : r.Sound) {i : Nat} {slot : RegistrySlot}
    (hslot : r.slots[i]? = some slot) : ∃ j : UInt32, j.toNat = i ∧ r.slotAt j = slot := by
  have hi : i < r.slots.size := (Array.getElem?_eq_some_iff.mp hslot).1
  have hj : (UInt32.ofNat i).toNat = i := UInt32.toNat_ofNat_of_lt' (Nat.lt_trans hi h.size_lt)
  exact ⟨UInt32.ofNat i, hj, slotAt_of_getElem? (by rw [hj, hslot])⟩

theorem live_of_occupant (h : r.Sound) {i : UInt32} {t : Ticket}
    (ht : (r.slotAt i).occupant = some t) : r.Live t := by
  rw [Live, h.id_eq i t ht]
  exact ht

theorem generation_of_live (h : r.Sound) {t : Ticket} (ht : r.Live t) :
    (r.slotAt t.id.index).generation = t.id.generation :=
  (congrArg ConnectionId.generation (h.id_eq _ t ht)).symm

/-- The live connections are the occupants of the slots. -/
theorem mem_tickets_iff (h : r.Sound) {t : Ticket} : t ∈ r.tickets ↔ r.Live t := by
  constructor
  · intro hmem
    obtain ⟨slot, hslot, hoccupant⟩ := List.mem_filterMap.mp hmem
    obtain ⟨i, hi⟩ := List.mem_iff_getElem?.mp hslot
    rw [Array.getElem?_toList] at hi
    obtain ⟨j, -, rfl⟩ := h.exists_slotAt hi
    exact h.live_of_occupant hoccupant
  · intro hlive
    have hslot := getElem?_of_occupant hlive
    rw [← Array.getElem?_toList] at hslot
    exact List.mem_filterMap.mpr ⟨_, List.mem_of_getElem? hslot, hlive⟩

theorem get?_eq_some_iff (h : r.Sound) {id : ConnectionId} {t : Ticket} :
    r.get? id = some t ↔ r.Live t ∧ t.id = id := by
  rw [get?_eq]
  constructor
  · intro hget
    split_ifs at hget with hgeneration
    have hid := h.id_eq _ t hget
    rw [hgeneration] at hid
    exact ⟨h.live_of_occupant hget, hid⟩
  · rintro ⟨hlive, rfl⟩
    rw [if_pos (h.generation_of_live hlive)]
    exact hlive

theorem mapped?_eq_some_iff (h : r.Sound) {d : Descriptor} {id : ConnectionId} :
    r.mapped? d = some id ↔ ∃ t, r.Live t ∧ t.descriptor = d ∧ t.id = id :=
  (lookup_eq_some_iff h.mapped_nodup).trans (h.mapped_iff d id)

/-- Looking up a descriptor needs no check of the generation. -/
theorem lookup?_eq_some_iff (h : r.Sound) {d : Descriptor} {t : Ticket} :
    r.lookup? d = some t ↔ r.Live t ∧ t.descriptor = d := by
  unfold lookup?
  cases hmapped : r.mapped? d with
  | none =>
      refine ⟨fun hnone => absurd hnone (Option.some_ne_none t).symm, fun ⟨hlive, hd⟩ => ?_⟩
      rw [h.mapped?_eq_some_iff.mpr ⟨t, hlive, hd, rfl⟩] at hmapped
      cases hmapped
  | some id =>
      obtain ⟨u, hlive, hd, rfl⟩ := h.mapped?_eq_some_iff.mp hmapped
      simp only [getElem?_of_occupant hlive]
      rw [hlive.occupant, Option.some.injEq]
      constructor
      · rintro rfl
        exact ⟨hlive, hd⟩
      · rintro ⟨ht, hd'⟩
        have hid := h.mapped?_eq_some_iff.mpr ⟨t, ht, hd', rfl⟩
        rw [hmapped, Option.some.injEq] at hid
        have hsame : (r.slotAt t.id.index).occupant = some u := hid ▸ hlive.occupant
        exact Option.some.inj (hsame.symm.trans ht.occupant)

end Sound

end MessageServer.Registry
