import MessageServer.Proofs.Registry.Consistency

/-!
# What a registration can do to the connections that are there

A registration evicts first and looks for room afterwards.  `Sound.registration_cases` says what
this comes to where the registry is sound: a refusal, a new connection beside the others, or a new
connection in the place of the one that had the descriptor.  The fourth case, an eviction that is
followed by a refusal, does not arise, because an eviction makes room.

`registration_atomic` is the main statement.  It holds of every registry that calls lead to, also of
one that is full or has no room at all.
-/

namespace MessageServer.Registry

variable {r : Registry}

namespace Sound

/-- An eviction makes room. -/
theorem live_without_lt (h : r.Sound) {t : Ticket} (ht : r.Live t) :
    (r.without t).live < (r.without t).capacity :=
  Nat.sub_one_lt_of_le (h.live_pos ht) h.live_le

/-- A registration is refused, lets a connection in, or puts one in the place of another. -/
theorem registration_cases (h : r.Sound) (o : Opening) :
    r.mapped? o.descriptor = none ∧ r.capacity ≤ r.live ∧
        r.register o = (.error (.full r.capacity), r) ∨
      r.mapped? o.descriptor = none ∧ r.live < r.capacity ∧
        r.register o = (.ok (r.enter o).1, (r.enter o).2) ∨
      ∃ t, r.Live t ∧ t.descriptor = o.descriptor ∧ (r.without t).mapped? o.descriptor = none ∧
        r.register o = (.ok ((r.without t).enter o).1, ((r.without t).enter o).2) := by
  have hafter := h.mapped?_evict o.descriptor
  rw [register_eq]
  rcases h.evict_cases o.descriptor with ⟨-, hunmapped, heq⟩ | ⟨t, hlive, hd, -, heq⟩
  · rw [heq]
    split_ifs with hfull
    · exact .inl ⟨hunmapped, hfull, rfl⟩
    · exact .inr (.inl ⟨hunmapped, Nat.lt_of_not_le hfull, rfl⟩)
  · rw [heq] at hafter ⊢
    rw [if_neg (Nat.not_le_of_lt (h.live_without_lt hlive))]
    exact .inr (.inr ⟨t, hlive, hd, hafter, rfl⟩)

theorem mapped?_eq_none_iff (h : r.Sound) {d : Descriptor} :
    r.mapped? d = none ↔ ∀ t, r.Live t → t.descriptor ≠ d := by
  constructor
  · rintro hnone t hlive rfl
    rw [h.mapped?_eq_some_iff.mpr ⟨t, hlive, rfl, rfl⟩] at hnone
    cases hnone
  · intro hnobody
    cases hmapped : r.mapped? d with
    | none => rfl
    | some id =>
        obtain ⟨t, hlive, hd, -⟩ := h.mapped?_eq_some_iff.mp hmapped
        exact absurd hd (hnobody t hlive)

/-- The slot that was given up last is the next one to be used, one generation further on. -/
theorem enter_without_id {t : Ticket} (ht : r.Live t) (o : Opening) :
    ((r.without t).enter o).1.id = ⟨t.id.index, t.id.generation + 1⟩ := by
  have hnext : (r.without t).nextSlot = t.id.index := rfl
  rw [enter_id, hnext, slotAt_without ht, if_pos rfl]

end Sound

/-- What a registration can do to the connections that are there. -/
structure Spares (r : Registry) (o : Opening) : Prop where
  refused_iff : (∃ e, (r.register o).1 = .error e) ↔
    (∀ t ∈ r.tickets, t.descriptor ≠ o.descriptor) ∧ r.live = r.capacity
  /-- A refusal leaves everything as it was. -/
  refused : ∀ e, (r.register o).1 = .error e → e = .full r.capacity ∧ (r.register o).2 = r
  /-- A connection that is evicted gives its slot to the new one, and no other connection goes. -/
  evicting : ∀ id, r.mapped? o.descriptor = some id →
    ∃ t c, r.get? id = some t ∧ t.descriptor = o.descriptor ∧ (r.register o).1 = .ok c ∧
      c.id = ⟨id.index, id.generation + 1⟩ ∧ (r.register o).2.live = r.live ∧
        ∀ u, u ∈ (r.register o).2.tickets ↔ u = c.toTicket ∨ u ∈ r.tickets ∧ u ≠ t

theorem Sound.spares (h : r.Sound) (o : Opening) : r.Spares o where
  refused_iff := by
    have hunmapped : (∀ t ∈ r.tickets, t.descriptor ≠ o.descriptor) ↔
        r.mapped? o.descriptor = none := by
      simp only [h.mapped?_eq_none_iff, h.mem_tickets_iff]
    rw [hunmapped]
    rcases h.registration_cases o with
      ⟨hnone, hfull, heq⟩ | ⟨-, hroom, heq⟩ | ⟨t, hlive, hd, -, heq⟩
    · simp [heq, hnone, Nat.le_antisymm h.live_le hfull]
    · simp [heq, Nat.ne_of_lt hroom]
    · have hmapped := h.mapped?_eq_some_iff.mpr ⟨t, hlive, hd, rfl⟩
      simp [heq, hmapped]
  refused e he := by
    rcases h.registration_cases o with ⟨-, -, heq⟩ | ⟨-, -, heq⟩ | ⟨t, -, -, -, heq⟩
    · rw [heq] at he ⊢
      exact ⟨(Except.error.inj he).symm, rfl⟩
    · rw [heq] at he
      cases he
    · rw [heq] at he
      cases he
  evicting id hmapped := by
    obtain ⟨t, hlive, hd, rfl⟩ := h.mapped?_eq_some_iff.mp hmapped
    rcases h.registration_cases o with
      ⟨hnone, -, -⟩ | ⟨hnone, -, -⟩ | ⟨u, hu, hud, hunmapped, heq⟩
    · rw [hmapped] at hnone
      cases hnone
    · rw [hmapped] at hnone
      cases hnone
    · obtain rfl := h.eq_of_descriptor_eq hlive hu (hd.trans hud.symm)
      have hrest := h.without hlive
      have hroom := h.live_without_lt hlive
      rw [heq]
      refine ⟨t, _, h.get?_eq_some_iff.mpr ⟨hlive, rfl⟩, hd, rfl, enter_without_id hlive o, ?_,
        fun v => ?_⟩
      · rw [live_enter]
        exact Nat.sub_add_cancel (h.live_pos hlive)
      · rw [(hrest.enter hroom hunmapped).mem_tickets_iff, hrest.live_enter_iff hroom,
          live_without_iff hlive, h.mem_tickets_iff]

/-- Whatever calls were made before, a registration is refused only where the registry is full and
the descriptor is new, and then nothing has changed; one that evicts succeeds. -/
theorem registration_atomic {capacity : Nat} (hcapacity : capacity < UInt32.size)
    {history : List RegistryEvent} (hreached : Reached capacity history r) (o : Opening) :
    r.capacity = capacity ∧ r.Spares o :=
  ⟨(moves_of_reached hcapacity hreached).capacity_eq, (hreached.sound hcapacity).spares o⟩

/-- A registry with room for one connection is full when the descriptor is registered again, and
when another one is. -/
theorem registration_at_capacity :
    let o : Opening := ⟨5, .v4 .localhost 9000, true, 0, .fresh⟩
    let full := ((new 1).register o).2
    1 < UInt32.size ∧ Reached 1 ((new 1).registration o) full ∧
      full.live = 1 ∧ (full.register o).1 = .ok (o.connection ⟨0, 1⟩ 1) ∧
        full.register { o with descriptor := 6 } = (.error (.full 1), full) ∧
          full.capacity = 1 ∧ full.Spares o ∧ full.Spares { o with descriptor := 6 } := by
  intro o full
  have hsize : 1 < UInt32.size := by decide
  have hreached : Reached 1 ((new 1).registration o) full := .call .new (.register o)
  obtain ⟨hcapacity, hsame⟩ := registration_atomic hsize hreached o
  obtain ⟨-, hother⟩ := registration_atomic hsize hreached { o with descriptor := 6 }
  exact ⟨hsize, hreached, by decide, by decide, by decide, hcapacity, hsame, hother⟩

end MessageServer.Registry
