import Mathlib.Order.Bounds.Defs
import MessageServer.Proofs.Registry.Generations
import MessageServer.Proofs.Registry.Registration

/-!
# How far the arena grows

A slot is created only when all slots are occupied.  So after any calls there are as many slots as
there were live connections at the fullest time, however many connections came and went; no index is
ever given that is not below this number.

* `Registry.Passes` is a run of calls together with the registries it went through.
* `Call.size_eq`: what one call does to the number of slots.
* `Reached.token_ne`: the token of the listening socket is out of reach, because a word counts more
  slots than a registry has and the last index is therefore never given.
* `arena_grows_to_peak` is the main statement.
-/

namespace MessageServer.Registry

variable {r s : Registry} {capacity : Nat} {history events : List RegistryEvent}
  {earlier : List Registry}

/-- The calls of a run lead from an empty registry to `r`, by way of the registries `earlier`, the
latest of them in front. -/
inductive Passes (capacity : Nat) : List RegistryEvent → List Registry → Registry → Prop where
  | new : Passes capacity [] [] (new capacity)
  | call {history events : List RegistryEvent} {earlier : List Registry} {r s : Registry} :
      Passes capacity history earlier r → Call r events s →
        Passes capacity (history ++ events) (r :: earlier) s

theorem Passes.reached (hrun : Passes capacity history earlier r) : Reached capacity history r := by
  induction hrun with
  | new => exact .new
  | call _ hcall ih => exact .call ih hcall

/-! ## One call -/

namespace Sound

theorem live_le_size (h : r.Sound) : r.live ≤ r.slots.size := by
  rw [h.live_eq, length_tickets]
  exact List.countP_le_length

/-- A new connection makes the arena grow if and only if there was no free slot. -/
theorem size_enter_eq (h : r.Sound) (hroom : r.live < r.capacity) {o : Opening}
    (hd : r.mapped? o.descriptor = none) :
    (r.enter o).2.slots.size = max r.slots.size (r.enter o).2.live := by
  have hafter := (h.enter hroom hd).live_le_size
  rw [live_enter, size_enter] at hafter
  rw [live_enter, size_enter]
  rcases h.takeSlot_cases hroom with ⟨rest, -, htake⟩ | ⟨hfree, -, -, htake⟩
  · rw [htake] at hafter ⊢
    exact (Nat.max_eq_left hafter).symm
  · have hfull := h.live_eq_size hfree
    rw [htake, Array.size_push]
    omega

end Sound

/-- A call creates as many slots as it takes to have one for every live connection. -/
theorem Call.size_eq (hcall : r.Call events s) (h : r.Sound) :
    s.slots.size = max r.slots.size s.tickets.length := by
  have hafter := (h.moves_call hcall).sound h
  have hle := hafter.live_le_size
  rw [← hafter.live_eq]
  have hsame : s.slots.size = r.slots.size → s.slots.size = max r.slots.size s.live := by
    omega
  cases hcall with
  | register o =>
      rcases h.registration_cases o with
        ⟨-, -, heq⟩ | ⟨hd, hroom, heq⟩ | ⟨t, hlive, -, hd, heq⟩
      · exact hsame (by rw [heq])
      · rw [heq]
        exact h.size_enter_eq hroom hd
      · -- the slot of the connection that goes is the one for the connection that comes
        have hsize := (h.without hlive).size_enter_eq (h.live_without_lt hlive) hd
        rw [size_without] at hsize
        rw [heq]
        exact hsize
  | unregister id => exact hsame (size_release r id)
  | find => exact hsame rfl
  | drain _ => exact hsame (size_releaseAll r _)

/-! ## Any number of calls -/

/-- There are as many slots as there were live connections at the fullest time. -/
theorem Passes.isGreatest_size (hrun : Passes capacity history earlier r)
    (hcapacity : capacity < UInt32.size) :
    IsGreatest {n | ∃ s ∈ r :: earlier, s.tickets.length = n} r.slots.size := by
  induction hrun with
  | new =>
      refine ⟨⟨_, List.mem_cons_self, rfl⟩, ?_⟩
      rintro n ⟨s, hs, rfl⟩
      obtain rfl := List.mem_singleton.mp hs
      exact Nat.le_refl _
  | @call history events earlier r s hrun hcall ih =>
      have hsize := hcall.size_eq (hrun.reached.sound hcapacity)
      obtain ⟨⟨u, hu, hfullest⟩, hbound⟩ := ih
      constructor
      · -- the fullest time is now, or it was before and has not been surpassed
        rcases Nat.le_total s.tickets.length r.slots.size with hle | hle
        · refine ⟨u, List.mem_cons_of_mem s hu, ?_⟩
          rw [hfullest, hsize, Nat.max_eq_left hle]
        · refine ⟨s, List.mem_cons_self, ?_⟩
          rw [hsize, Nat.max_eq_right hle]
      · rintro n ⟨v, hv, rfl⟩
        rw [hsize]
        rcases List.mem_cons.mp hv with rfl | hv
        · exact Nat.le_max_right _ _
        · exact Nat.le_trans (hbound ⟨v, hv, rfl⟩) (Nat.le_max_left _ _)

/-- The index of every connection that was opened is the place of a slot. -/
theorem Reached.index_lt {t : Ticket} (hreached : Reached capacity history r)
    (hcapacity : capacity < UInt32.size) (ht : .opened t ∈ history) :
    t.id.index.toNat < r.slots.size :=
  ((moves_of_reached hcapacity hreached).lt_size_iff (new_sound hcapacity) _).mpr
    (.inr ⟨t, ht, rfl⟩)

theorem Reached.capacity_eq (hreached : Reached capacity history r)
    (hcapacity : capacity < UInt32.size) : r.capacity = capacity :=
  (moves_of_reached hcapacity hreached).capacity_eq

/-- No slot that a connection was ever given has the index of the listening socket's token, so no
generation of it makes this token. -/
theorem Reached.token_ne {t : Ticket} (hreached : Reached capacity history r)
    (hcapacity : capacity < UInt32.size) (ht : .opened t ∈ history) (generation : UInt32) :
    ConnectionId.toToken ⟨t.id.index, generation⟩ ≠ listenerToken := by
  intro htoken
  have hid : ConnectionId.ofToken listenerToken = ⟨t.id.index, generation⟩ := by
    rw [← htoken, ConnectionId.ofToken_toToken]
  -- the token of the listening socket has the last index there is
  have hlast : t.id.index.toNat + 1 = UInt32.size := by
    rw [show t.id.index = (ConnectionId.ofToken listenerToken).index by rw [hid]]
    decide
  have hindex := hreached.index_lt hcapacity ht
  have hsize := (hreached.sound hcapacity).size_le
  rw [hreached.capacity_eq hcapacity] at hsize
  omega

/-- After any calls there are as many slots as there were live connections at the fullest time.
Every id that was ever given has its index below this number, and no token is made of such an index
that is the one of the listening socket.  The live connections have different tokens, and tokens and
ids are two forms of the same. -/
theorem arena_grows_to_peak (hcapacity : capacity < UInt32.size)
    (hrun : Passes capacity history earlier r) :
    IsGreatest {n | ∃ s ∈ r :: earlier, s.tickets.length = n} r.slots.size ∧
      r.slots.size ≤ capacity ∧
      (∀ t, .opened t ∈ history → t.id.index.toNat < r.slots.size ∧
        ∀ generation, ConnectionId.toToken ⟨t.id.index, generation⟩ ≠ listenerToken) ∧
      (∀ t ∈ r.tickets, ∀ u ∈ r.tickets, t ≠ u → t.id.toToken ≠ u.id.toToken) ∧
      (∀ token, (ConnectionId.ofToken token).toToken = token) ∧
      ∀ index generation, ConnectionId.ofToken (ConnectionId.toToken ⟨index, generation⟩) =
        ⟨index, generation⟩ := by
  have hreached := hrun.reached
  have h := hreached.sound hcapacity
  refine ⟨hrun.isGreatest_size hcapacity, ?_, fun t ht => ⟨hreached.index_lt hcapacity ht, ?_⟩, ?_,
    ConnectionId.toToken_ofToken, fun _ _ => ConnectionId.ofToken_toToken _⟩
  · rw [← hreached.capacity_eq hcapacity]
    exact h.size_le
  · exact hreached.token_ne hcapacity ht
  · intro t ht u hu hne htoken
    have hid := ConnectionId.eq_of_toToken_eq htoken
    exact hne ((h.mem_tickets_iff.mp ht).eq_of_id_eq (h.mem_tickets_iff.mp hu) hid)

/-- Two connections at a time fit.  The third registration takes the place of the first connection,
the fourth is refused, and a drain and one more registration leave one live connection in an arena
of two. -/
theorem arena_of_two :
    let o : Opening := ⟨5, .v4 .localhost 9000, true, 0, .fresh⟩
    let one := ((new 2).register o).2
    let two := (one.register { o with descriptor := 6 }).2
    let replaced := (two.register o).2
    let refused := (replaced.register { o with descriptor := 7 }).2
    let drained := refused.drain.2
    let last := (drained.register o).2
    let earlier := [drained, refused, replaced, two, one, new 2]
    2 < UInt32.size ∧ (∃ history, Passes 2 history earlier last) ∧
      (last :: earlier).map (·.tickets.length) = [1, 0, 2, 2, 2, 1, 0] ∧ last.slots.size = 2 ∧
      IsGreatest {n | ∃ s ∈ last :: earlier, s.tickets.length = n} last.slots.size := by
  intro o one two replaced refused drained last earlier
  have hsize : 2 < UInt32.size := by decide
  have hrun : Passes 2 _ earlier last :=
    .call (.call (.call (.call (.call (.call .new (.register _)) (.register _)) (.register _))
      (.register _)) (call_drain _)) (.register _)
  exact ⟨hsize, ⟨_, hrun⟩, by decide, by decide, (arena_grows_to_peak hsize hrun).1⟩

end MessageServer.Registry
