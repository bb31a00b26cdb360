import Mathlib.Data.List.Nodup
import MessageServer.Proofs.Registry.History

/-!
# What the parts of a reached registry have to do with each other

`Registry.Consistent` says it of the fields as they are: every slot by its place in the arena, the
free list and the descriptor map as lists.  It also says what the operations take for granted: that
a mapped descriptor leads to an occupied slot, and that a release finds a connection to subtract and
a descriptor that is mapped to the id.

`reached_consistent` is the result.  It covers the states inside a call, since what a drain has done
so far is to release some ids, and an eviction releases one.
-/

namespace MessageServer.Registry

/-- The five parts of a registry, and what is taken for granted where they are used. -/
structure Consistent (r : Registry) : Prop where
  live_eq : r.live = r.slots.toList.countP (·.occupant.isSome)
  live_le : r.live ≤ r.capacity
  free_nodup : r.free.Nodup
  mem_free_iff : ∀ i : Nat, (∃ j ∈ r.free, j.toNat = i) ↔
    ∃ slot, r.slots[i]? = some slot ∧ slot.occupant = none
  /-- A connection is in the slot its id names, in the current generation. -/
  occupant_id : ∀ (i : Nat) (slot : RegistrySlot) (t : Ticket), r.slots[i]? = some slot →
    slot.occupant = some t → t.id.index.toNat = i ∧ t.id.generation = slot.generation
  /-- The descriptor map has one entry for each live connection, and no other. -/
  byDescriptor_perm : r.byDescriptor.Perm (r.tickets.map fun t => (t.descriptor, t.id))
  descriptors_nodup : (r.tickets.map (·.descriptor)).Nodup
  /-- A look-up by descriptor is in range and finds a connection. -/
  mapped_occupied : ∀ d id, r.mapped? d = some id →
    ∃ slot t, r.slots[id.index.toNat]? = some slot ∧ slot.occupant = some t ∧ t.id = id ∧
      t.descriptor = d
  /-- Where a release takes an occupant out, it finds the count positive and the descriptor mapped
  to the id. -/
  release_guard : ∀ (id : ConnectionId) (slot : RegistrySlot) (t : Ticket),
    r.slots[id.index.toNat]? = some slot → slot.generation = id.generation →
      slot.occupant = some t → 0 < r.live ∧ r.mapped? t.descriptor = some id

namespace Sound

variable {r : Registry}

theorem tickets_nodup (h : r.Sound) : r.tickets.Nodup := by
  rw [tickets, List.Nodup, List.pairwise_filterMap, List.pairwise_iff_getElem]
  intro i j hi hj hij t ht u hu heq
  -- one connection in two slots would have two indices
  subst heq
  rw [Array.length_toList] at hi hj
  obtain ⟨a, rfl, ha⟩ := h.exists_slotAt (Array.getElem?_eq_getElem hi)
  obtain ⟨b, rfl, hb⟩ := h.exists_slotAt (Array.getElem?_eq_getElem hj)
  rw [Array.getElem_toList, ← ha] at ht
  rw [Array.getElem_toList, ← hb] at hu
  have hida := congrArg ConnectionId.index (h.id_eq a t ht)
  have hidb := congrArg ConnectionId.index (h.id_eq b t hu)
  have hab : a = b := hida.symm.trans hidb
  exact absurd (hab ▸ hij) (Nat.lt_irrefl _)

theorem descriptors_nodup (h : r.Sound) : (r.tickets.map (·.descriptor)).Nodup := by
  refine h.tickets_nodup.map_on fun t ht u hu hd => ?_
  exact h.eq_of_descriptor_eq (h.mem_tickets_iff.mp ht) (h.mem_tickets_iff.mp hu) hd

theorem byDescriptor_perm (h : r.Sound) :
    r.byDescriptor.Perm (r.tickets.map fun t => (t.descriptor, t.id)) := by
  have htickets : (r.tickets.map fun t => (t.descriptor, t.id)).Nodup := by
    refine List.Nodup.of_map (·.1) ?_
    rw [List.map_map]
    exact h.descriptors_nodup
  refine (List.perm_ext_iff_of_nodup (h.mapped_nodup.of_map _) htickets).mpr fun ⟨d, id⟩ => ?_
  rw [h.mapped_iff, List.mem_map]
  constructor
  · rintro ⟨t, hlive, rfl, rfl⟩
    exact ⟨t, h.mem_tickets_iff.mpr hlive, rfl⟩
  · rintro ⟨t, hmem, heq⟩
    obtain ⟨rfl, rfl⟩ := Prod.mk.inj heq
    exact ⟨t, h.mem_tickets_iff.mp hmem, rfl, rfl⟩

theorem live_pos (h : r.Sound) {t : Ticket} (ht : r.Live t) : 0 < r.live := by
  rw [h.live_eq]
  exact List.length_pos_of_mem (h.mem_tickets_iff.mpr ht)

theorem consistent (h : r.Sound) : r.Consistent where
  live_eq := h.live_eq.trans r.length_tickets
  live_le := h.live_le
  free_nodup := h.free_nodup
  mem_free_iff i := by
    constructor
    · rintro ⟨j, hj, rfl⟩
      exact vacant_iff.mp ((h.mem_free_iff j).mp hj)
    · rintro ⟨slot, hslot, hnone⟩
      obtain ⟨j, rfl, -⟩ := h.exists_slotAt hslot
      exact ⟨j, (h.mem_free_iff j).mpr (vacant_iff.mpr ⟨slot, hslot, hnone⟩), rfl⟩
  occupant_id i slot t hslot ht := by
    obtain ⟨j, rfl, rfl⟩ := h.exists_slotAt hslot
    rw [h.id_eq j t ht]
    exact ⟨rfl, rfl⟩
  byDescriptor_perm := h.byDescriptor_perm
  descriptors_nodup := h.descriptors_nodup
  mapped_occupied d id hd := by
    obtain ⟨t, hlive, rfl, rfl⟩ := h.mapped?_eq_some_iff.mp hd
    exact ⟨_, t, getElem?_of_occupant hlive, hlive, rfl, rfl⟩
  release_guard id slot t hslot hgeneration ht := by
    have hget : r.get? id = some t := by
      simp only [get?, hslot]
      rw [if_pos hgeneration, ht]
    obtain ⟨hlive, rfl⟩ := h.get?_eq_some_iff.mp hget
    exact ⟨h.live_pos hlive, h.mapped?_eq_some_iff.mpr ⟨t, hlive, rfl, rfl⟩⟩

end Sound

/-- Whatever calls were made, and whatever ids a call under way has released of late. -/
theorem reached_consistent {capacity : Nat} (hcapacity : capacity < UInt32.size)
    {history : List RegistryEvent} {r : Registry} (hreached : Reached capacity history r) :
    r.capacity = capacity ∧ r.Consistent ∧
      ∀ ids : List ConnectionId, (r.releaseAll ids).2.Consistent := by
  have hsound := hreached.sound hcapacity
  refine ⟨(moves_of_reached hcapacity hreached).capacity_eq, hsound.consistent, fun ids => ?_⟩
  exact ((hsound.moves_releaseAll ids).sound hsound).consistent

/-- A registry after a descriptor was registered twice. -/
theorem consistent_after_reuse :
    let o : Opening := ⟨5, .v4 .localhost 9000, true, 0, .fresh⟩
    let first := ((new 2).register o).2
    let second := (first.register o).2
    2 < UInt32.size ∧ Reached 2 ((new 2).registration o ++ first.registration o) second ∧
      second.slots = #[⟨1, some ⟨⟨0, 1⟩, 1, 5⟩⟩] ∧ second.capacity = 2 ∧ second.Consistent ∧
        ∀ ids : List ConnectionId, (second.releaseAll ids).2.Consistent := by
  intro o first second
  have hsize : 2 < UInt32.size := by decide
  have hreached : Reached 2 ((new 2).registration o ++ first.registration o) second :=
    .call (.call .new (.register o)) (.register o)
  exact ⟨hsize, hreached, by decide, reached_consistent hsize hreached⟩

end MessageServer.Registry
