import Mathlib.Data.List.Perm.Basic
import MessageServer.Proofs.Registry.Generations
import MessageServer.Proofs.Registry.Renaming

/-!
# Drains

A drain releases what the descriptor map leads to, in whichever order the map gives it.  The map
leads to every live connection, so nothing is left, and the order can be seen in the free list only.

* `Registry.Emptied` is what a drain answers and leaves behind.
* `Sound.releaseAll_perm`: two orders leave the same registry, but for the order of the free list.
* `Sound.exists_renamed`: where nothing is live, the order of the free list is a matter of names.
* `Sound.play_releaseAll`: no script can tell two orders apart, not even by ids that are not current
  any more.
* `drain_in_any_order` is the main statement, and `Sound.emptied_drain` has it for the order of the
  map.
-/

namespace MessageServer.Registry

/-- Two arrangements of distinct things differ by a permutation that moves nothing else. -/
theorem exists_perm_map_eq {α : Type} [DecidableEq α] {l l' : List α} (h : l.Perm l')
    (hl : l.Nodup) : ∃ π : Equiv.Perm α, l.map π = l' ∧ ∀ a, a ∉ l → π a = a := by
  induction h with
  | nil => exact ⟨Equiv.refl α, rfl, fun _ _ => rfl⟩
  | @cons a l l' _ ih =>
      obtain ⟨hnot, hrest⟩ := List.nodup_cons.mp hl
      obtain ⟨π, hmap, hfix⟩ := ih hrest
      refine ⟨π, ?_, fun b hb => hfix b (mt (List.mem_cons_of_mem a) hb)⟩
      rw [List.map_cons, hfix a hnot, hmap]
  | swap a b l =>
      have hfix : ∀ c, c ≠ a → c ≠ b → Equiv.swap a b c = c := fun c =>
        Equiv.swap_apply_of_ne_of_ne
      simp only [List.nodup_cons, List.mem_cons, not_or] at hl
      refine ⟨Equiv.swap a b, ?_, fun c hc => ?_⟩
      · have hrest : l.map (Equiv.swap a b) = l.map id :=
          List.map_congr_left fun c hc =>
            hfix c (ne_of_mem_of_not_mem hc hl.2.1) (ne_of_mem_of_not_mem hc hl.1.2)
        rw [List.map_cons, List.map_cons, Equiv.swap_apply_left, Equiv.swap_apply_right, hrest,
          List.map_id]
      · simp only [List.mem_cons, not_or] at hc
        exact hfix c hc.2.1 hc.1
  | @trans l m n hfirst _ ih ih' =>
      obtain ⟨π, rfl, hfix⟩ := ih hl
      obtain ⟨π', rfl, hfix'⟩ := ih' (hfirst.nodup_iff.mp hl)
      refine ⟨π.trans π', by simp, fun a ha => ?_⟩
      rw [Equiv.trans_apply, hfix a ha, hfix' a (mt hfirst.mem_iff.mpr ha)]

/-- What a drain answers, and what it leaves behind. -/
structure Emptied (r : Registry) (answer : List Ticket) (s : Registry) : Prop where
  /-- The live connections are answered, each of them once. -/
  answer_perm : answer.Perm r.tickets
  answer_nodup : answer.Nodup
  live_eq : s.live = 0
  byDescriptor_eq : s.byDescriptor = []
  size_eq : s.slots.size = r.slots.size
  /-- Every slot is free, and stands in the free list once. -/
  free_nodup : s.free.Nodup
  mem_free_iff : ∀ i : UInt32, i ∈ s.free ↔ i.toNat < s.slots.size
  get?_eq : ∀ id, s.get? id = none
  release_eq : ∀ id, s.release id = (none, s)
  lookup?_eq : ∀ d, s.lookup? d = none
  issued_eq : s.issued = r.issued

variable {r s : Registry} {ids ids' : List ConnectionId}

/-- Two registries with the same view of their slots have the same slots. -/
theorem Sound.slots_ext (hr : r.Sound) (hsize : s.slots.size = r.slots.size)
    (hslot : ∀ i, s.slotAt i = r.slotAt i) : s.slots = r.slots := by
  refine Array.ext hsize fun i hi hi' => ?_
  obtain ⟨j, rfl, hj⟩ := hr.exists_slotAt (Array.getElem?_eq_getElem hi')
  rw [← hj, ← hslot, slotAt_of_getElem? (Array.getElem?_eq_getElem hi)]

namespace Sound

theorem not_live_releaseAll (h : r.Sound) (hids : ids.Perm (r.byDescriptor.map (·.2)))
    (t : Ticket) : ¬ (r.releaseAll ids).2.Live t := by
  rw [h.live_releaseAll_iff]
  exact fun ⟨ht, hnot⟩ => hnot (h.mem_of_live hids ht)

theorem releaseAll_answer_perm (h : r.Sound) (hids : ids.Perm (r.byDescriptor.map (·.2))) :
    (r.releaseAll ids).1.Perm r.tickets := by
  refine (List.perm_ext_iff_of_nodup (h.nodup_releaseAll ids) h.tickets_nodup).mpr fun t => ?_
  rw [h.mem_releaseAll_iff, h.mem_tickets_iff]
  exact and_iff_left_of_imp (h.mem_of_live hids)

/-- A registry without live connections has every slot free, and finds nothing. -/
theorem occupant_eq_none (h : s.Sound) (hnobody : ∀ t, ¬ s.Live t) (i : UInt32) :
    (s.slotAt i).occupant = none := by
  cases hoccupant : (s.slotAt i).occupant with
  | none => rfl
  | some t => exact absurd (h.live_of_occupant hoccupant) (hnobody t)

theorem emptied (h : r.Sound) (hids : ids.Perm (r.byDescriptor.map (·.2))) :
    r.Emptied (r.releaseAll ids).1 (r.releaseAll ids).2 := by
  have hnobody := h.not_live_releaseAll hids
  have hafter := (h.moves_releaseAll ids).sound h
  have hget : ∀ id, (r.releaseAll ids).2.get? id = none := by
    intro id
    rw [Option.eq_none_iff_forall_ne_some]
    exact fun t ht => hnobody t (hafter.get?_eq_some_iff.mp ht).1
  exact
    { answer_perm := h.releaseAll_answer_perm hids
      answer_nodup := h.nodup_releaseAll ids
      live_eq := by
        rw [hafter.live_eq, List.length_eq_zero_iff, List.eq_nil_iff_forall_not_mem]
        exact fun t ht => hnobody t (hafter.mem_tickets_iff.mp ht)
      byDescriptor_eq := by
        rw [List.eq_nil_iff_forall_not_mem]
        rintro ⟨d, id⟩ hentry
        obtain ⟨t, ht, -⟩ := (hafter.mapped_iff d id).mp hentry
        exact hnobody t ht
      size_eq := size_releaseAll r ids
      free_nodup := hafter.free_nodup
      mem_free_iff := fun i => by
        rw [hafter.mem_free_iff]
        exact and_iff_left (hafter.occupant_eq_none hnobody i)
      get?_eq := hget
      release_eq := fun id => by
        rcases hafter.release_cases id with ⟨-, heq⟩ | ⟨t, ht, -⟩
        · exact heq
        · exact absurd ht (hnobody t)
      lookup?_eq := fun d => by
        rw [Option.eq_none_iff_forall_ne_some]
        exact fun t ht => hnobody t (hafter.lookup?_eq_some_iff.mp ht).1
      issued_eq := issued_releaseAll r ids }

/-- How often a slot is released does not depend on the order. -/
theorem slotAt_releaseAll (h : r.Sound) (hids : ids.Perm (r.byDescriptor.map (·.2)))
    (i : UInt32) :
    (r.releaseAll ids).2.slotAt i =
      ⟨(r.slotAt i).generation + UInt32.ofNat (releases (r.tickets.map .released) i), none⟩ := by
  have hmoves := h.moves_releaseAll ids
  have hcount : releases ((r.releaseAll ids).1.map .released) i =
      releases (r.tickets.map .released) i :=
    ((h.releaseAll_answer_perm hids).map _).countP_eq _
  have hgeneration := hmoves.generation_eq h i
  have hnone := (hmoves.sound h).occupant_eq_none (h.not_live_releaseAll hids) i
  rw [hcount] at hgeneration
  rw [← hgeneration, ← hnone]

/-- Two orders leave the same registry, but for the order of the free list. -/
theorem releaseAll_perm (h : r.Sound) (hids : ids.Perm (r.byDescriptor.map (·.2)))
    (hids' : ids'.Perm (r.byDescriptor.map (·.2))) :
    (r.releaseAll ids).2.free.Perm (r.releaseAll ids').2.free ∧
      (r.releaseAll ids').2 =
        { (r.releaseAll ids).2 with free := (r.releaseAll ids').2.free } := by
  have hempty := h.emptied hids
  have hempty' := h.emptied hids'
  have hmoves := h.moves_releaseAll ids
  have hmoves' := h.moves_releaseAll ids'
  have hsize := hempty'.size_eq.trans hempty.size_eq.symm
  constructor
  · refine (List.perm_ext_iff_of_nodup hempty.free_nodup hempty'.free_nodup).mpr fun i => ?_
    rw [hempty.mem_free_iff, hempty'.mem_free_iff, hsize]
  · have hslots : (r.releaseAll ids').2.slots = (r.releaseAll ids).2.slots := by
      refine (hmoves.sound h).slots_ext hsize fun i => ?_
      rw [h.slotAt_releaseAll hids, h.slotAt_releaseAll hids']
    dsimp only
    rw [← hslots, hmoves.capacity_eq.trans hmoves'.capacity_eq.symm, hempty.byDescriptor_eq,
      ← hempty'.byDescriptor_eq, hempty.live_eq, ← hempty'.live_eq, hempty.issued_eq,
      ← hempty'.issued_eq]

end Sound

/-- Where nothing is live, another order of the free list comes to other names of the slots: the
slots in the same place of the list correspond, whatever their generations are. -/
theorem Sound.exists_renamed (h : s.Sound) (hnobody : ∀ t, ¬ s.Live t)
    (hempty : s.byDescriptor = []) {free : List UInt32} (hfree : s.free.Perm free) :
    ∃ ρ, Renamed ρ s { s with free } := by
  obtain ⟨π, hmap, hfix⟩ := exists_perm_map_eq hfree h.free_nodup
  refine ⟨⟨π, fun i => (s.slotAt (π i)).generation - (s.slotAt i).generation⟩, ?_⟩
  exact
    { capacity_eq := rfl
      size_eq := rfl
      slotAt_eq := fun i => by
        show s.slotAt (π i) = _
        have hnone := h.occupant_eq_none hnobody
        dsimp only
        rw [hnone i, Option.map_none, ← hnone (π i), UInt32.add_comm, UInt32.sub_add_cancel]
      free_eq := hmap.symm
      byDescriptor_eq := by
        show s.byDescriptor = _
        rw [hempty, List.map_nil]
      live_eq := rfl
      issued_eq := rfl
      fresh := fun i hi => by
        have hnot : i ∉ s.free := fun hmem =>
          absurd ((h.mem_free_iff i).mp hmem).1 (Nat.not_lt_of_le hi)
        dsimp only
        rw [hfix i hnot]
        exact ⟨rfl, UInt32.sub_self _⟩ }

/-- No script can tell in which order the registry was drained. -/
theorem Sound.play_releaseAll (h : r.Sound) (hids : ids.Perm (r.byDescriptor.map (·.2)))
    (hids' : ids'.Perm (r.byDescriptor.map (·.2))) (script : List ScriptCall) :
    Stage.play ⟨(r.releaseAll ids').2, []⟩ script =
      Stage.play ⟨(r.releaseAll ids).2, []⟩ script := by
  have hafter := (h.moves_releaseAll ids).sound h
  have hafter' := (h.moves_releaseAll ids').sound h
  obtain ⟨hfree, hsame⟩ := h.releaseAll_perm hids hids'
  obtain ⟨ρ, hrenamed⟩ :=
    hafter.exists_renamed (h.not_live_releaseAll hids) (h.emptied hids).byDescriptor_eq hfree
  rw [← hsame] at hrenamed
  have hstages : Stage.Renamed ρ ⟨(r.releaseAll ids).2, []⟩ ⟨(r.releaseAll ids').2, []⟩ :=
    ⟨hrenamed, rfl, hafter, hafter'⟩
  exact hstages.play_eq script

/-- The drain that goes through the descriptor map as it stands. -/
theorem Sound.emptied_drain (h : r.Sound) :
    r.Emptied r.drain.1 r.drain.2 ∧
      ∀ ids, ids.Perm (r.byDescriptor.map (·.2)) → ∀ script,
        Stage.play ⟨(r.releaseAll ids).2, []⟩ script = Stage.play ⟨r.drain.2, []⟩ script :=
  ⟨h.emptied (.refl _), fun _ hids script => h.play_releaseAll (.refl _) hids script⟩

/-- Whatever calls were made before, a drain answers every live connection once and leaves none.
Another order of the descriptor map makes another order of the free list and no other difference,
and a script is answered the same after either. -/
theorem drain_in_any_order {capacity : Nat} (hcapacity : capacity < UInt32.size)
    {history : List RegistryEvent} (hreached : Reached capacity history r)
    (hids : ids.Perm (r.byDescriptor.map (·.2))) (hids' : ids'.Perm (r.byDescriptor.map (·.2))) :
    r.Emptied (r.releaseAll ids).1 (r.releaseAll ids).2 ∧
      (r.releaseAll ids).2.free.Perm (r.releaseAll ids').2.free ∧
        (r.releaseAll ids').2 =
          { (r.releaseAll ids).2 with free := (r.releaseAll ids').2.free } ∧
          ∀ script, Stage.play ⟨(r.releaseAll ids').2, []⟩ script =
            Stage.play ⟨(r.releaseAll ids).2, []⟩ script := by
  have h := hreached.sound hcapacity
  obtain ⟨hfree, hsame⟩ := h.releaseAll_perm hids hids'
  exact ⟨h.emptied hids, hfree, hsame, h.play_releaseAll hids hids'⟩

/-- Two connections are drained in either order.  The next one is given another slot then, but a
script that registers, looks up, unregisters and is refused cannot tell. -/
theorem drained_in_two_orders :
    let o : Opening := ⟨5, .v4 .localhost 9000, true, 0, .fresh⟩
    let full := (((new 2).register o).2.register { o with descriptor := 6 }).2
    let first := (full.releaseAll [⟨0, 0⟩, ⟨1, 0⟩]).2
    let second := (full.releaseAll [⟨1, 0⟩, ⟨0, 0⟩]).2
    let script : List ScriptCall :=
      [.register o, .register { o with descriptor := 7 }, .register { o with descriptor := 8 },
        .lookup 7, .unregister 0, .lookup 5, .unregister 0]
    2 < UInt32.size ∧ (∃ history, Reached 2 history full) ∧
      [⟨0, 0⟩, ⟨1, 0⟩].Perm (full.byDescriptor.map (·.2)) ∧
      [⟨1, 0⟩, ⟨0, 0⟩].Perm (full.byDescriptor.map (·.2)) ∧
      (first.register o).1 = .ok (o.connection ⟨1, 1⟩ 2) ∧
      (second.register o).1 = .ok (o.connection ⟨0, 1⟩ 2) ∧
      full.Emptied (full.releaseAll [⟨0, 0⟩, ⟨1, 0⟩]).1 first ∧ first.free.Perm second.free ∧
      second = { first with free := second.free } ∧
      Stage.play ⟨second, []⟩ script = Stage.play ⟨first, []⟩ script := by
  intro o full first second script
  have hsize : 2 < UInt32.size := by decide
  have hreached : Reached 2 _ full := .call (.call .new (.register o)) (.register _)
  have hids : [⟨0, 0⟩, ⟨1, 0⟩].Perm (full.byDescriptor.map (·.2)) := by decide
  have hids' : [⟨1, 0⟩, ⟨0, 0⟩].Perm (full.byDescriptor.map (·.2)) := by decide
  obtain ⟨hempty, hfree, hsame, hplay⟩ := drain_in_any_order hsize hreached hids hids'
  exact ⟨hsize, ⟨_, hreached⟩, hids, hids', by decide, by decide, hempty, hfree, hsame,
    hplay script⟩

end MessageServer.Registry
