import MessageServer.Proofs.Registry.Change

/-!
# Histories of a registry

What happens to the connections of a registry is a list of events, the oldest first: a connection
is opened, or it is released by whichever operation.  `Registry.Reached` is every registry that
calls lead to, with its history.

A call can change the registry more than once.  `Registry.Moves` takes these changes one by one, so
what a call leaves half done is a state of its own there.

* `moves_of_reached`: whatever calls lead to, moves lead to, with the same history.
* `Moves.sound`: moves keep the representation invariant.
* `Moves.split`: a history can be cut anywhere.
-/

namespace MessageServer

/-- What happens to a connection. -/
inductive RegistryEvent where
  | opened (t : Ticket)
  | released (t : Ticket)
  deriving DecidableEq, Repr

namespace Registry

variable {r s u : Registry} {events later : List RegistryEvent}

/-! ## Calls -/

/-- The eviction of a registration, as history. -/
def evictions (r : Registry) (o : Opening) : List RegistryEvent :=
  (r.evicted o.descriptor).toList.map .released

/-- What a registration adds to the history. -/
def registration (r : Registry) (o : Opening) : List RegistryEvent :=
  r.evictions o ++
    match (r.register o).1 with
    | .ok c => [.opened c.toTicket]
    | .error _ => []

/-- One call, what it adds to the history, and the registry after it.  Finding a connection, by
either key, changes nothing.  A drain goes through the descriptor map in no particular order. -/
inductive Call (r : Registry) : List RegistryEvent → Registry → Prop where
  | register (o : Opening) : Call r (r.registration o) (r.register o).2
  | unregister (id : ConnectionId) :
      Call r ((r.release id).1.toList.map .released) (r.release id).2
  | find : Call r [] r
  | drain {ids : List ConnectionId} (h : ids.Perm (r.byDescriptor.map (·.2))) :
      Call r ((r.releaseAll ids).1.map .released) (r.releaseAll ids).2

theorem call_drain (r : Registry) : r.Call (r.drain.1.map .released) r.drain.2 :=
  .drain (.refl _)

/-- The registries that calls lead to from an empty one, with their histories. -/
inductive Reached (capacity : Nat) : List RegistryEvent → Registry → Prop where
  | new : Reached capacity [] (new capacity)
  | call {history events : List RegistryEvent} {r s : Registry} :
      Reached capacity history r → Call r events s → Reached capacity (history ++ events) s

/-! ## Moves -/

/-- One change and its event. -/
inductive Move (r : Registry) : RegistryEvent → Registry → Prop where
  | release {t : Ticket} (ht : r.Live t) : Move r (.released t) (r.without t)
  | enter {o : Opening} (hroom : r.live < r.capacity) (hd : r.mapped? o.descriptor = none) :
      Move r (.opened (r.enter o).1.toTicket) (r.enter o).2

/-- Changes one after another. -/
inductive Moves : Registry → List RegistryEvent → Registry → Prop where
  | refl (r : Registry) : Moves r [] r
  | step {r s u : Registry} {event : RegistryEvent} {events : List RegistryEvent} :
      Move r event s → Moves s events u → Moves r (event :: events) u

theorem Move.sound {event : RegistryEvent} (hmove : r.Move event s) (h : r.Sound) : s.Sound := by
  cases hmove with
  | release ht => exact h.without ht
  | enter hroom hd => exact h.enter hroom hd

theorem Move.capacity_eq {event : RegistryEvent} (hmove : r.Move event s) :
    s.capacity = r.capacity := by
  cases hmove with
  | release ht => rfl
  | enter hroom hd => exact capacity_enter r _

namespace Moves

/-- Moves keep the representation invariant. -/
theorem sound (hmoves : r.Moves events s) (h : r.Sound) : s.Sound := by
  induction hmoves with
  | refl r => exact h
  | step hmove _ ih => exact ih (hmove.sound h)

theorem capacity_eq (hmoves : r.Moves events s) : s.capacity = r.capacity := by
  induction hmoves with
  | refl r => rfl
  | step hmove _ ih => exact ih.trans hmove.capacity_eq

theorem trans (hfirst : r.Moves events s) (hrest : s.Moves later u) :
    r.Moves (events ++ later) u := by
  induction hfirst with
  | refl r => exact hrest
  | step hmove _ ih => exact .step hmove (ih hrest)

theorem single {event : RegistryEvent} (hmove : r.Move event s) : r.Moves [event] s :=
  .step hmove (.refl s)

/-- The registry at any point of a history. -/
theorem split (hmoves : r.Moves (events ++ later) u) :
    ∃ s, r.Moves events s ∧ s.Moves later u := by
  induction events generalizing r with
  | nil => exact ⟨r, .refl r, hmoves⟩
  | cons event events ih =>
      cases hmoves with
      | step hmove hrest =>
          obtain ⟨s, hbefore, hafter⟩ := ih hrest
          exact ⟨s, .step hmove hbefore, hafter⟩

end Moves

/-! ## Calls as moves -/

/-- A registration succeeds if and only if there is room after its eviction. -/
theorem register_cases (r : Registry) (o : Opening) :
    (r.evict o.descriptor).capacity ≤ (r.evict o.descriptor).live ∧
        r.registration o = r.evictions o ∧ (r.register o).2 = r.evict o.descriptor ∨
      (r.evict o.descriptor).live < (r.evict o.descriptor).capacity ∧
        r.register o =
          (.ok ((r.evict o.descriptor).enter o).1, ((r.evict o.descriptor).enter o).2) := by
  unfold registration
  rw [register_eq]
  split_ifs with hfull
  · exact .inl ⟨hfull, List.append_nil _, rfl⟩
  · exact .inr ⟨Nat.lt_of_not_le hfull, rfl⟩

namespace Sound

theorem moves_release (h : r.Sound) (id : ConnectionId) :
    r.Moves ((r.release id).1.toList.map .released) (r.release id).2 := by
  rcases h.release_cases id with ⟨-, heq⟩ | ⟨t, hlive, -, heq⟩
  · rw [heq]
    exact .refl _
  · rw [heq]
    exact .single (.release hlive)

theorem moves_evict (h : r.Sound) (o : Opening) :
    r.Moves (r.evictions o) (r.evict o.descriptor) := by
  unfold evictions
  rcases h.evict_cases o.descriptor with ⟨hnone, -, heq⟩ | ⟨t, hlive, -, hsome, heq⟩
  · rw [hnone, heq]
    exact .refl _
  · rw [hsome, heq]
    exact .single (.release hlive)

theorem moves_register (h : r.Sound) (o : Opening) :
    r.Moves (r.registration o) (r.register o).2 := by
  rcases r.register_cases o with ⟨-, hevents, heq⟩ | ⟨hroom, heq⟩
  · rw [hevents, heq]
    exact h.moves_evict o
  · rw [registration, heq]
    exact (h.moves_evict o).trans (.single (.enter hroom (h.mapped?_evict o.descriptor)))

theorem moves_releaseAll (h : r.Sound) (ids : List ConnectionId) :
    r.Moves ((r.releaseAll ids).1.map .released) (r.releaseAll ids).2 := by
  induction ids generalizing r with
  | nil => exact .refl _
  | cons id ids ih =>
      have hfirst := h.moves_release id
      have hrest := ih (hfirst.sound h)
      rw [releaseAll, List.map_append]
      exact hfirst.trans hrest

theorem moves_call (h : r.Sound) (hcall : r.Call events s) : r.Moves events s := by
  cases hcall with
  | register o => exact h.moves_register o
  | unregister id => exact h.moves_release id
  | find => exact .refl _
  | drain _ => exact h.moves_releaseAll _

end Sound

/-- Whatever calls lead to, moves lead to, with the same history. -/
theorem moves_of_reached {capacity : Nat} (hcapacity : capacity < UInt32.size)
    (hreached : Reached capacity events r) : (new capacity).Moves events r := by
  induction hreached with
  | new => exact .refl _
  | call _ hcall ih => exact ih.trans ((ih.sound (new_sound hcapacity)).moves_call hcall)

theorem Reached.sound {capacity : Nat} (hreached : Reached capacity events r)
    (hcapacity : capacity < UInt32.size) : r.Sound :=
  (moves_of_reached hcapacity hreached).sound (new_sound hcapacity)

end Registry

end MessageServer
