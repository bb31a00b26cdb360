import Mathlib.Logic.Equiv.Basic
import MessageServer.Proofs.Registry.Registration

/-!
# What does not depend on the names of slots

The order of the free list decides which slot a new connection is given, and the history of that
slot decides the generation.  Nothing else depends on it: a registry whose slots have other names
answers the same up to ids.

* `Registry.Renaming` gives every slot another index and counts its generations from another one.
  `Registry.Renamed` says that one registry is another one under such names.
* The operations keep it.  `Renamed.release` and `Renamed.register` are the two that change a
  registry, `Renamed.lookup?_eq` is the one that finds a connection without its id.
* A script (`Registry.ScriptCall`) names a connection by the registration that made it, so it can be
  played on any registry.  `Stage.Renamed.play_eq` is the main statement: under other names a script
  is answered the same, whatever it asks for and however long it is.
-/

namespace MessageServer

/-- The ticket with its id erased. -/
def Ticket.unnamed (t : Ticket) : Ticket :=
  { t with id := ⟨0, 0⟩ }

/-- The connection with its id erased. -/
def Connection.unnamed (c : Connection) : Connection :=
  { c with toTicket := c.toTicket.unnamed }

namespace Registry

/-! ## Scripts -/

/-- A call of a script.  What is unregistered is the connection that registration number `n` of the
script made, where the first one has number zero. -/
inductive ScriptCall where
  | register (o : Opening)
  | unregister (n : Nat)
  | lookup (d : Descriptor)

/-- What a script is answered, but for ids. -/
inductive ScriptAnswer where
  | registered (result : Except RegistryError Connection)
  | found (t : Option Ticket)
  deriving DecidableEq

/-- A registry in the middle of a script. -/
structure Stage where
  registry : Registry
  /-- The ids that the registrations of the script gave, in turn; a refused one gave none. -/
  ids : List (Option ConnectionId)

namespace Stage

/-- The answer to one call, and the stage after it. -/
def answer (p : Stage) : ScriptCall → ScriptAnswer × Stage
  | .register o =>
    let (result, r) := p.registry.register o
    (.registered (result.map (·.unnamed)), ⟨r, p.ids ++ [result.toOption.map (·.id)]⟩)
  | .unregister n =>
    match p.ids[n]?.join with
    | none => (.found none, p)
    | some id =>
      let (t, r) := p.registry.release id
      (.found (t.map (·.unnamed)), ⟨r, p.ids⟩)
  | .lookup d => (.found ((p.registry.lookup? d).map (·.unnamed)), p)

/-- The answers to a script, each with the number of live connections after it. -/
def play (p : Stage) : List ScriptCall → List (ScriptAnswer × Nat)
  | [] => []
  | call :: script =>
    let (answer, p) := p.answer call
    (answer, p.registry.live) :: p.play script

theorem play_cons (p : Stage) (call : ScriptCall) (script : List ScriptCall) :
    p.play (call :: script) =
      ((p.answer call).1, (p.answer call).2.registry.live) :: (p.answer call).2.play script :=
  rfl

end Stage

/-! ## Other names -/

/-- Other names: a slot has another index, and its generations are counted from another one. -/
structure Renaming where
  slot : Equiv.Perm UInt32
  shift : UInt32 → UInt32

namespace Renaming

variable (ρ : Renaming)

def name (id : ConnectionId) : ConnectionId :=
  ⟨ρ.slot id.index, id.generation + ρ.shift id.index⟩

def ticket (t : Ticket) : Ticket :=
  { t with id := ρ.name t.id }

def connection (c : Connection) : Connection :=
  { c with toTicket := ρ.ticket c.toTicket }

@[simp] theorem unnamed_ticket (t : Ticket) : (ρ.ticket t).unnamed = t.unnamed :=
  rfl

@[simp] theorem unnamed_connection (c : Connection) : (ρ.connection c).unnamed = c.unnamed :=
  rfl

end Renaming

/-- The second registry is the first one under other names.  Slots that were not created yet have
the same names in both. -/
structure Renamed (ρ : Renaming) (r s : Registry) : Prop where
  capacity_eq : s.capacity = r.capacity
  size_eq : s.slots.size = r.slots.size
  slotAt_eq : ∀ i, s.slotAt (ρ.slot i) =
    ⟨(r.slotAt i).generation + ρ.shift i, (r.slotAt i).occupant.map ρ.ticket⟩
  free_eq : s.free = r.free.map ρ.slot
  byDescriptor_eq : s.byDescriptor = r.byDescriptor.map fun entry => (entry.1, ρ.name entry.2)
  live_eq : s.live = r.live
  issued_eq : s.issued = r.issued
  fresh : ∀ i : UInt32, r.slots.size ≤ i.toNat → ρ.slot i = i ∧ ρ.shift i = 0

namespace Renamed

variable {ρ : Renaming} {r s : Registry}

/-! ## Finding a connection -/

theorem get?_eq (h : Renamed ρ r s) (id : ConnectionId) :
    s.get? (ρ.name id) = (r.get? id).map ρ.ticket := by
  rw [Registry.get?_eq, Registry.get?_eq, Renaming.name, h.slotAt_eq]
  by_cases hgeneration : (r.slotAt id.index).generation = id.generation
  · rw [if_pos hgeneration, if_pos (congrArg (· + _) hgeneration)]
  · rw [if_neg hgeneration, if_neg fun heq => hgeneration ((UInt32.add_left_inj _).mp heq)]
    rfl

theorem mapped?_eq (h : Renamed ρ r s) (d : Descriptor) :
    s.mapped? d = (r.mapped? d).map ρ.name := by
  rw [mapped?, mapped?, h.byDescriptor_eq]
  induction r.byDescriptor with
  | nil => rfl
  | cons entry rest ih =>
      rw [List.map_cons, List.lookup_cons, List.lookup_cons, ih]
      cases d == entry.1 <;> rfl

theorem lookup?_eq (h : Renamed ρ r s) (d : Descriptor) :
    s.lookup? d = (r.lookup? d).map ρ.ticket := by
  rw [Registry.lookup?_eq, Registry.lookup?_eq, h.mapped?_eq]
  cases r.mapped? d with
  | none => rfl
  | some id => exact congrArg RegistrySlot.occupant (h.slotAt_eq id.index)

theorem live (h : Renamed ρ r s) {t : Ticket} (ht : r.Live t) : s.Live (ρ.ticket t) := by
  have hslot := h.slotAt_eq t.id.index
  rw [ht.occupant] at hslot
  exact congrArg RegistrySlot.occupant hslot

/-! ## Giving up a slot -/

theorem without (h : Renamed ρ r s) {t : Ticket} (ht : r.Live t) :
    Renamed ρ (r.without t) (s.without (ρ.ticket t)) where
  capacity_eq := h.capacity_eq
  size_eq := by rw [size_without, size_without, h.size_eq]
  slotAt_eq i := by
    have hindex : (ρ.ticket t).id.index = ρ.slot i ↔ t.id.index = i := ρ.slot.apply_eq_iff_eq
    rw [slotAt_without (h.live ht), slotAt_without ht]
    by_cases hi : t.id.index = i
    · rw [if_pos hi, if_pos (hindex.mpr hi), ← hi]
      have hnext : t.id.generation + ρ.shift t.id.index + 1 =
          t.id.generation + 1 + ρ.shift t.id.index := by ac_rfl
      exact congrArg₂ RegistrySlot.mk hnext rfl
    · rw [if_neg hi, if_neg (mt hindex.mp hi), h.slotAt_eq]
  free_eq := congrArg (List.cons _) h.free_eq
  byDescriptor_eq := by
    show unmap _ s.byDescriptor = (unmap _ r.byDescriptor).map _
    rw [h.byDescriptor_eq, unmap, unmap, List.filter_map]
    rfl
  live_eq := congrArg (· - 1) h.live_eq
  issued_eq := h.issued_eq
  fresh i hi := h.fresh i (by rwa [size_without] at hi)

theorem release (h : Renamed ρ r s) (hr : r.Sound) (hs : s.Sound) (id : ConnectionId) :
    (s.release (ρ.name id)).1 = (r.release id).1.map ρ.ticket ∧
      Renamed ρ (r.release id).2 (s.release (ρ.name id)).2 := by
  have hget := h.get?_eq id
  rcases hr.release_cases id with ⟨hnone, heq⟩ | ⟨t, hlive, rfl, heq⟩
  · rw [hnone] at hget
    rcases hs.release_cases (ρ.name id) with ⟨-, heq'⟩ | ⟨u, hu, huid, -⟩
    · rw [heq, heq']
      exact ⟨rfl, h⟩
    · rw [hs.get?_eq_some_iff.mpr ⟨hu, huid⟩] at hget
      cases hget
  · rw [heq, show s.release (ρ.name t.id) = _ from hs.release_of_live (h.live hlive)]
    exact ⟨rfl, h.without hlive⟩

theorem evict (h : Renamed ρ r s) (hr : r.Sound) (hs : s.Sound) (d : Descriptor) :
    Renamed ρ (r.evict d) (s.evict d) := by
  unfold Registry.evict
  rw [h.mapped?_eq]
  cases r.mapped? d with
  | none => exact h
  | some stale => exact (h.release hr hs stale).2

/-! ## Taking a slot -/

theorem nextSlot_eq (h : Renamed ρ r s) (hr : r.Sound) : s.nextSlot = ρ.slot r.nextSlot := by
  unfold nextSlot takeSlot
  rw [h.free_eq]
  cases r.free with
  | cons index rest => rfl
  | nil =>
      -- a slot that is created has the same name in both
      have hnew : (UInt32.ofNat r.slots.size).toNat = r.slots.size :=
        UInt32.toNat_ofNat_of_lt' hr.size_lt
      have hfresh := (h.fresh (UInt32.ofNat r.slots.size) (Nat.le_of_eq hnew.symm)).1
      exact (congrArg UInt32.ofNat h.size_eq).trans hfresh.symm

theorem takeSlot_eq (h : Renamed ρ r s) :
    s.takeSlot.2.free = r.takeSlot.2.free.map ρ.slot ∧
      s.takeSlot.2.slots.size = r.takeSlot.2.slots.size := by
  unfold takeSlot
  rw [h.free_eq]
  cases r.free with
  | cons index rest => exact ⟨rfl, h.size_eq⟩
  | nil => exact ⟨rfl, by simp [h.size_eq]⟩

theorem enter (h : Renamed ρ r s) (hr : r.Sound) (hs : s.Sound) (hroom : r.live < r.capacity)
    (o : Opening) :
    (s.enter o).1 = ρ.connection (r.enter o).1 ∧ Renamed ρ (r.enter o).2 (s.enter o).2 := by
  have hroom' : s.live < s.capacity := by rw [h.live_eq, h.capacity_eq]; exact hroom
  have hnext := h.nextSlot_eq hr
  obtain ⟨hfree, hsize⟩ := h.takeSlot_eq
  have hid : (s.enter o).1.id = ρ.name (r.enter o).1.id := by
    rw [enter_id, enter_id, hnext, h.slotAt_eq]
    rfl
  have hconnection : (s.enter o).1 = ρ.connection (r.enter o).1 := by
    have hserial : (s.enter o).1.serial = (r.enter o).1.serial := by
      rw [enter_serial, enter_serial, h.issued_eq]
    exact congrArg₂ o.connection hid hserial
  refine ⟨hconnection, ?_⟩
  exact
    { capacity_eq := by rw [capacity_enter, capacity_enter, h.capacity_eq]
      size_eq := by rw [size_enter, size_enter, hsize]
      slotAt_eq := fun i => by
        have hindex : s.nextSlot = ρ.slot i ↔ r.nextSlot = i := by
          rw [hnext, ρ.slot.apply_eq_iff_eq]
        rw [hs.slotAt_enter hroom', hr.slotAt_enter hroom, h.slotAt_eq, hconnection]
        by_cases hi : r.nextSlot = i
        · rw [if_pos hi, if_pos (hindex.mpr hi)]
          rfl
        · rw [if_neg hi, if_neg (mt hindex.mp hi)]
      free_eq := hfree
      byDescriptor_eq := by
        rw [byDescriptor_enter, byDescriptor_enter, hid, h.byDescriptor_eq, unmap, unmap,
          List.filter_map]
        rfl
      live_eq := by rw [live_enter, live_enter, h.live_eq]
      issued_eq := by rw [issued_enter, issued_enter, h.issued_eq]
      fresh := fun i hi => by
        rw [size_enter] at hi
        refine h.fresh i (Nat.le_of_not_lt fun hlt => ?_)
        exact absurd ((hr.lt_size_takeSlot_iff hroom).mpr (.inr hlt)) (Nat.not_lt_of_le hi) }

theorem register (h : Renamed ρ r s) (hr : r.Sound) (hs : s.Sound) (o : Opening) :
    (s.register o).1 = (r.register o).1.map ρ.connection ∧
      Renamed ρ (r.register o).2 (s.register o).2 := by
  have hevict := h.evict hr hs o.descriptor
  rw [register_eq, register_eq, hevict.capacity_eq, hevict.live_eq]
  by_cases hfull : (r.evict o.descriptor).capacity ≤ (r.evict o.descriptor).live
  · rw [if_pos hfull, if_pos hfull]
    exact ⟨rfl, hevict⟩
  · rw [if_neg hfull, if_neg hfull]
    obtain ⟨hconnection, hafter⟩ :=
      hevict.enter (hr.evict _) (hs.evict _) (Nat.lt_of_not_le hfull) o
    exact ⟨congrArg Except.ok hconnection, hafter⟩

end Renamed

/-! ## Playing a script under other names -/

/-- The second stage is the first one under other names. -/
structure Stage.Renamed (ρ : Renaming) (p q : Stage) : Prop where
  registry : Registry.Renamed ρ p.registry q.registry
  ids : q.ids = p.ids.map (·.map ρ.name)
  sound : p.registry.Sound ∧ q.registry.Sound

namespace Stage.Renamed

variable {ρ : Renaming} {p q : Stage}

theorem answer (h : Stage.Renamed ρ p q) (call : ScriptCall) :
    (q.answer call).1 = (p.answer call).1 ∧
      Stage.Renamed ρ (p.answer call).2 (q.answer call).2 := by
  obtain ⟨hp, hq⟩ := h.sound
  cases call with
  | register o =>
      obtain ⟨hresult, hafter⟩ := h.registry.register hp hq o
      have hsound := (hp.moves_register o).sound hp
      have hsound' := (hq.moves_register o).sound hq
      unfold Stage.answer
      dsimp only
      rw [hresult]
      refine ⟨?_, hafter, ?_, hsound, hsound'⟩
      · cases (p.registry.register o).1 <;> rfl
      · rw [h.ids, List.map_append]
        cases (p.registry.register o).1 <;> rfl
  | unregister n =>
      have hname : q.ids[n]?.join = p.ids[n]?.join.map ρ.name := by
        rw [h.ids, List.getElem?_map]
        cases p.ids[n]? <;> rfl
      simp only [Stage.answer, hname]
      cases p.ids[n]?.join with
      | none => exact ⟨rfl, h⟩
      | some id =>
          obtain ⟨hresult, hafter⟩ := h.registry.release hp hq id
          refine ⟨?_, hafter, h.ids, hp.release id, hq.release _⟩
          simp only [Option.map_some, hresult]
          cases (p.registry.release id).1 <;> rfl
  | lookup d =>
      refine ⟨?_, h⟩
      unfold Stage.answer
      dsimp only
      rw [h.registry.lookup?_eq]
      cases p.registry.lookup? d <;> rfl

/-- Under other names a script is answered the same. -/
theorem play_eq (h : Stage.Renamed ρ p q) (script : List ScriptCall) :
    q.play script = p.play script := by
  induction script generalizing p q with
  | nil => rfl
  | cons call script ih =>
      obtain ⟨hanswer, hafter⟩ := h.answer call
      rw [play_cons, play_cons, hanswer, hafter.registry.live_eq, ih hafter]

end Stage.Renamed

end Registry

end MessageServer
