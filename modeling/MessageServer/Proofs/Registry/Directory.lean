import Mathlib.Data.Finset.Card
import MessageServer.Proofs.Registry.Registration

/-!
# A registry as a set of connections

A `Directory` is what a registry stands for: the set of the live connections and the number of
registrations so far.  It knows nothing of slots, generations, free lists and descriptor maps.
`Directory.Allows` says what may be answered to a call, and which directory is left.  Nothing is
left open there but the id of a new connection, which has to differ from those of the other live
connections, and the order in which a drain answers.

`registry_refines_directory` is the main statement.  Whatever an empty registry is asked and
answers, the empty directory allows, and afterwards the registry shows what its directory shows
(`Registry.Shows`).  The calls may come in any order and number, so this holds after every single
one of them.  Connections are found by their id and by their descriptor on two ways that do not meet
in the registry; in the directory both look at the same set.
-/

namespace MessageServer

/-- What is asked of a registry. -/
inductive RegistryCall where
  | register (o : Opening)
  | unregister (id : ConnectionId)
  | get (id : ConnectionId)
  | lookup (d : Descriptor)
  | size
  | isEmpty
  | drain

/-- What a registry answers. -/
inductive RegistryAnswer where
  | registered (result : Except RegistryError Connection)
  | found (t : Option Ticket)
  | counted (count : Nat)
  | tested (isEmpty : Bool)
  | drained (ts : List Ticket)

/-- Calls and their answers one after the other, and the states before and after. -/
inductive Exchanges {σ : Type} (step : σ → RegistryCall → RegistryAnswer → σ → Prop) :
    σ → List (RegistryCall × RegistryAnswer) → σ → Prop where
  | nil (s : σ) : Exchanges step s [] s
  | cons {s t u : σ} {call : RegistryCall} {answer : RegistryAnswer}
      {rest : List (RegistryCall × RegistryAnswer)} (first : step s call answer t)
      (later : Exchanges step t rest u) : Exchanges step s ((call, answer) :: rest) u

/-! ## Directories -/

/-- The live connections, and how many connections were registered so far. -/
structure Directory where
  members : Finset Ticket
  registered : Nat
  deriving DecidableEq

namespace Directory

/-- No connection was ever registered. -/
def empty : Directory :=
  ⟨∅, 0⟩

/-- The live connections but the one with this descriptor. -/
def others (m : Directory) (d : Descriptor) : Finset Ticket :=
  m.members.filter (·.descriptor ≠ d)

/-- What may be answered to a call, and which directory is left. -/
inductive Allows (capacity : Nat) (m : Directory) :
    RegistryCall → RegistryAnswer → Directory → Prop where
  /-- The connection that has the descriptor makes room for the new one. -/
  | registered {o : Opening} {c : Connection} (room : (m.others o.descriptor).card < capacity)
      (accepted : c.state = .accepted) (descriptor : c.descriptor = o.descriptor)
      (serial : c.serial = m.registered) (clientId : c.clientId = UInt64.ofNat (1 + m.registered))
      (fresh : ∀ t ∈ m.others o.descriptor, t.id ≠ c.id) :
      Allows capacity m (.register o) (.registered (.ok c))
        ⟨insert c.toTicket (m.others o.descriptor), m.registered + 1⟩
  | refused {o : Opening} (full : m.members.card = capacity)
      (unknown : ∀ t ∈ m.members, t.descriptor ≠ o.descriptor) :
      Allows capacity m (.register o) (.registered (.error (.full capacity))) m
  | unregistered {id : ConnectionId} {found : Option Ticket}
      (exact : ∀ t, found = some t ↔ t ∈ m.members ∧ t.id = id) :
      Allows capacity m (.unregister id) (.found found)
        ⟨m.members.filter (·.id ≠ id), m.registered⟩
  | got {id : ConnectionId} {found : Option Ticket}
      (exact : ∀ t, found = some t ↔ t ∈ m.members ∧ t.id = id) :
      Allows capacity m (.get id) (.found found) m
  | lookedUp {d : Descriptor} {found : Option Ticket}
      (exact : ∀ t, found = some t ↔ t ∈ m.members ∧ t.descriptor = d) :
      Allows capacity m (.lookup d) (.found found) m
  | counted : Allows capacity m .size (.counted m.members.card) m
  | tested : Allows capacity m .isEmpty (.tested (decide (m.members = ∅))) m
  | drained {ts : List Ticket} (once : ts.Nodup) (all : ts.toFinset = m.members) :
      Allows capacity m .drain (.drained ts) ⟨∅, m.registered⟩

end Directory

namespace Registry

variable {r s : Registry}

/-- How a registry answers a call.  A drain goes through the descriptor map in no particular
order. -/
inductive Answers (r : Registry) : RegistryCall → RegistryAnswer → Registry → Prop where
  | register (o : Opening) : Answers r (.register o) (.registered (r.register o).1) (r.register o).2
  | unregister (id : ConnectionId) :
      Answers r (.unregister id) (.found (r.release id).1) (r.release id).2
  | get (id : ConnectionId) : Answers r (.get id) (.found (r.get? id)) r
  | lookup (d : Descriptor) : Answers r (.lookup d) (.found (r.lookup? d)) r
  | size : Answers r .size (.counted r.live) r
  | isEmpty : Answers r .isEmpty (.tested r.isEmpty) r
  | drain {ids : List ConnectionId} (h : ids.Perm (r.byDescriptor.map (·.2))) :
      Answers r .drain (.drained (r.releaseAll ids).1) (r.releaseAll ids).2

/-- What a registry stands for. -/
def directory (r : Registry) : Directory :=
  ⟨r.tickets.toFinset, r.issued⟩

/-- What can be seen of a registry that stands for `m`. -/
structure Shows (r : Registry) (m : Directory) : Prop where
  size_eq : r.live = m.members.card
  isEmpty_iff : r.isEmpty = true ↔ m.members = ∅
  get?_iff : ∀ id t, r.get? id = some t ↔ t ∈ m.members ∧ t.id = id
  release_iff : ∀ id t, (r.release id).1 = some t ↔ t ∈ m.members ∧ t.id = id
  lookup?_iff : ∀ d t, r.lookup? d = some t ↔ t ∈ m.members ∧ t.descriptor = d
  /-- What is found by its descriptor is found by its id. -/
  get?_of_lookup? : ∀ d t, r.lookup? d = some t → r.get? t.id = some t
  id_injective : ∀ t ∈ m.members, ∀ u ∈ m.members, t.id = u.id → t = u
  descriptor_injective : ∀ t ∈ m.members, ∀ u ∈ m.members, t.descriptor = u.descriptor → t = u

/-! ## One call -/

namespace Sound

theorem mem_directory_iff (h : r.Sound) {t : Ticket} : t ∈ r.directory.members ↔ r.Live t := by
  rw [directory, List.mem_toFinset, h.mem_tickets_iff]

theorem card_directory (h : r.Sound) : r.directory.members.card = r.live := by
  rw [directory, List.toFinset_card_of_nodup h.tickets_nodup, h.live_eq]

theorem directory_release (h : r.Sound) (id : ConnectionId) :
    (r.release id).2.directory =
      ⟨r.directory.members.filter (·.id ≠ id), r.directory.registered⟩ := by
  refine congrArg₂ Directory.mk (Finset.ext fun t => ?_) (issued_release r id)
  rw [Finset.mem_filter, h.mem_directory_iff, ← h.live_release_iff]
  exact (h.release id).mem_directory_iff

theorem directory_releaseAll (h : r.Sound) (ids : List ConnectionId) :
    (r.releaseAll ids).2.directory =
      ⟨r.directory.members.filter (·.id ∉ ids), r.directory.registered⟩ := by
  refine congrArg₂ Directory.mk (Finset.ext fun t => ?_) (issued_releaseAll r ids)
  rw [Finset.mem_filter, h.mem_directory_iff, ← h.live_releaseAll_iff]
  exact ((h.moves_releaseAll ids).sound h).mem_directory_iff

/-- An eviction takes away whichever connection has the descriptor. -/
theorem directory_evict (h : r.Sound) (d : Descriptor) :
    (r.evict d).directory = ⟨r.directory.others d, r.directory.registered⟩ := by
  refine congrArg₂ Directory.mk (Finset.ext fun t => ?_) (issued_evict r d)
  rw [Directory.others, Finset.mem_filter, h.mem_directory_iff]
  refine (h.evict d).mem_directory_iff.trans ?_
  rcases h.evict_cases d with ⟨-, hnone, heq⟩ | ⟨u, hlive, rfl, -, heq⟩
  · rw [heq]
    refine ⟨fun ht => ⟨ht, ?_⟩, And.left⟩
    rintro rfl
    rw [h.mapped?_eq_some_iff.mpr ⟨t, ht, rfl, rfl⟩] at hnone
    cases hnone
  · rw [heq, live_without_iff hlive]
    refine and_congr_right fun ht => not_congr ⟨congrArg _, h.eq_of_descriptor_eq ht hlive⟩

theorem directory_enter (h : r.Sound) (hroom : r.live < r.capacity) {o : Opening}
    (hd : r.mapped? o.descriptor = none) :
    (r.enter o).2.directory =
      ⟨insert (r.enter o).1.toTicket r.directory.members, r.directory.registered + 1⟩ := by
  refine congrArg₂ Directory.mk (Finset.ext fun t => ?_) (issued_enter r o)
  rw [Finset.mem_insert, h.mem_directory_iff, ← h.live_enter_iff hroom]
  exact (h.enter hroom hd).mem_directory_iff

/-- A registration, in terms of the directory. -/
theorem allows_register (h : r.Sound) (o : Opening) :
    r.directory.Allows r.capacity (.register o) (.registered (r.register o).1)
      (r.register o).2.directory := by
  have hevict := h.evict o.descriptor
  have hothers : (r.evict o.descriptor).live = (r.directory.others o.descriptor).card := by
    rw [← hevict.card_directory, h.directory_evict]
  have hmembers : (r.evict o.descriptor).directory.members =
      r.directory.others o.descriptor := by
    rw [h.directory_evict]
  have hcapacity : (r.evict o.descriptor).capacity = r.capacity := (h.moves_evict o).capacity_eq
  rw [register_eq]
  split_ifs with hfull
  · -- where a connection was evicted there is room, so none was
    rcases h.evict_cases o.descriptor with ⟨-, hnone, heq⟩ | ⟨t, hlive, -, -, heq⟩
    · rw [heq] at hfull ⊢
      have hunmapped := h.mapped?_eq_none_iff.mp hnone
      refine .refused ?_ fun t ht => hunmapped t (h.mem_directory_iff.mp ht)
      rw [h.card_directory]
      exact Nat.le_antisymm h.live_le hfull
    · rw [heq] at hfull
      exact absurd hfull (Nat.not_le_of_lt (h.live_without_lt hlive))
  · have hroom := Nat.lt_of_not_le hfull
    rw [hevict.directory_enter hroom (h.mapped?_evict o.descriptor), hmembers, h.directory_evict]
    have hserial : ((r.evict o.descriptor).enter o).1.serial = r.issued := by
      rw [enter_serial, issued_evict]
    refine .registered (by omega) rfl rfl hserial ?_ fun t ht hid => ?_
    · rw [Connection.clientId, Ticket.clientId, hserial, Nat.add_comm]
      rfl
    · -- the slot of the new connection had no occupant
      rw [← hmembers] at ht
      have hlive := (hevict.mem_directory_iff.mp ht).occupant
      rw [hid, enter_index, hevict.occupant_nextSlot hroom] at hlive
      cases hlive

end Sound

theorem Answers.call {call : RegistryCall} {answer : RegistryAnswer}
    (hanswer : r.Answers call answer s) : ∃ events, r.Call events s := by
  cases hanswer with
  | register o => exact ⟨_, .register o⟩
  | unregister id => exact ⟨_, .unregister id⟩
  | get id => exact ⟨_, .find⟩
  | lookup d => exact ⟨_, .find⟩
  | size => exact ⟨_, .find⟩
  | isEmpty => exact ⟨_, .find⟩
  | drain h => exact ⟨_, .drain h⟩

/-- What a registry answers, its directory allows. -/
theorem Sound.allows (h : r.Sound) {call : RegistryCall} {answer : RegistryAnswer}
    (hanswer : r.Answers call answer s) :
    r.directory.Allows r.capacity call answer s.directory := by
  cases hanswer with
  | register o => exact h.allows_register o
  | unregister id =>
      rw [h.directory_release]
      exact .unregistered fun t => by rw [h.release_eq_some_iff, h.mem_directory_iff]
  | get id => exact .got fun t => by rw [h.get?_eq_some_iff, h.mem_directory_iff]
  | lookup d => exact .lookedUp fun t => by rw [h.lookup?_eq_some_iff, h.mem_directory_iff]
  | size =>
      rw [← h.card_directory]
      exact .counted
  | isEmpty =>
      have htested : r.isEmpty = decide (r.directory.members = ∅) := by
        rw [isEmpty, ← h.card_directory, Bool.eq_iff_iff, beq_iff_eq, decide_eq_true_iff,
          Finset.card_eq_zero]
      rw [htested]
      exact .tested
  | @drain ids hids =>
      have hall : ∀ t ∈ r.directory.members, t.id ∈ ids := fun t ht =>
        h.mem_of_live hids (h.mem_directory_iff.mp ht)
      rw [h.directory_releaseAll, Finset.filter_false_of_mem fun t ht => not_not.mpr (hall t ht)]
      refine .drained (h.nodup_releaseAll ids) (Finset.ext fun t => ?_)
      rw [List.mem_toFinset, h.mem_releaseAll_iff, ← h.mem_directory_iff]
      exact and_iff_left_of_imp (hall t)

theorem Sound.shows (h : r.Sound) : r.Shows r.directory where
  size_eq := h.card_directory.symm
  isEmpty_iff := by rw [isEmpty, beq_iff_eq, ← h.card_directory, Finset.card_eq_zero]
  get?_iff id t := by rw [h.get?_eq_some_iff, h.mem_directory_iff]
  release_iff id t := by rw [h.release_eq_some_iff, h.mem_directory_iff]
  lookup?_iff d t := by rw [h.lookup?_eq_some_iff, h.mem_directory_iff]
  get?_of_lookup? d t ht := h.get?_eq_some_iff.mpr ⟨(h.lookup?_eq_some_iff.mp ht).1, rfl⟩
  id_injective t ht u hu := (h.mem_directory_iff.mp ht).eq_of_id_eq (h.mem_directory_iff.mp hu)
  descriptor_injective t ht u hu :=
    h.eq_of_descriptor_eq (h.mem_directory_iff.mp ht) (h.mem_directory_iff.mp hu)

/-! ## Any number of calls -/

theorem Sound.exchanges (h : r.Sound) {exchanges : List (RegistryCall × RegistryAnswer)}
    (hrun : Exchanges Answers r exchanges s) :
    Exchanges (Directory.Allows r.capacity) r.directory exchanges s.directory ∧ s.Sound := by
  induction hrun with
  | nil r => exact ⟨.nil _, h⟩
  | @cons r s u call answer rest hanswer _ ih =>
      obtain ⟨events, hcall⟩ := hanswer.call
      have hmoves := h.moves_call hcall
      obtain ⟨hlater, hend⟩ := ih (hmoves.sound h)
      rw [hmoves.capacity_eq] at hlater
      exact ⟨.cons (h.allows hanswer) hlater, hend⟩

/-- Whatever a registry is asked from the start, it answers as its set of live connections allows,
and shows that set. -/
theorem registry_refines_directory {capacity : Nat} (hcapacity : capacity < UInt32.size)
    {exchanges : List (RegistryCall × RegistryAnswer)}
    (hrun : Exchanges Answers (new capacity) exchanges r) :
    Exchanges (Directory.Allows capacity) .empty exchanges r.directory ∧ r.Shows r.directory := by
  obtain ⟨hallowed, hsound⟩ := (new_sound hcapacity).exchanges hrun
  exact ⟨hallowed, hsound.shows⟩

/-- A descriptor is registered twice, and then ids that are stale, unheard of and current are asked
for. -/
theorem directory_after_reuse :
    let o : Opening := ⟨5, .v4 .localhost 9000, true, 0, .fresh⟩
    let young : Ticket := ⟨⟨0, 1⟩, 1, 5⟩
    let last : Registry := ⟨2, #[⟨2, none⟩], [0], [], 0, 2⟩
    let exchanges : List (RegistryCall × RegistryAnswer) :=
      [(.register o, .registered (.ok (o.connection ⟨0, 0⟩ 0))),
        (.register o, .registered (.ok (o.connection ⟨0, 1⟩ 1))), (.get ⟨0, 0⟩, .found none),
        (.unregister ⟨7, 0⟩, .found none), (.lookup 5, .found (some young)), (.size, .counted 1),
        (.unregister ⟨0, 1⟩, .found (some young)), (.isEmpty, .tested true)]
    2 < UInt32.size ∧ Exchanges Answers (new 2) exchanges last ∧
      Exchanges (Directory.Allows 2) .empty exchanges ⟨∅, 2⟩ ∧ last.Shows ⟨∅, 2⟩ := by
  intro o young last exchanges
  have hsize : 2 < UInt32.size := by decide
  let first : Registry := ⟨2, #[⟨0, some ⟨⟨0, 0⟩, 0, 5⟩⟩], [], [(5, ⟨0, 0⟩)], 1, 1⟩
  let second : Registry := ⟨2, #[⟨1, some young⟩], [], [(5, ⟨0, 1⟩)], 1, 2⟩
  have hopened : (new 2).Answers (.register o) (.registered (.ok (o.connection ⟨0, 0⟩ 0))) first :=
    .register o
  have hreopened : first.Answers (.register o) (.registered (.ok (o.connection ⟨0, 1⟩ 1))) second :=
    .register o
  have hstale : second.Answers (.get ⟨0, 0⟩) (.found none) second := .get ⟨0, 0⟩
  have hunknown : second.Answers (.unregister ⟨7, 0⟩) (.found none) second := .unregister ⟨7, 0⟩
  have hfound : second.Answers (.lookup 5) (.found (some young)) second := .lookup 5
  have hreleased : second.Answers (.unregister ⟨0, 1⟩) (.found (some young)) last :=
    .unregister ⟨0, 1⟩
  have hrun : Exchanges Answers (new 2) exchanges last :=
    .cons hopened <| .cons hreopened <| .cons hstale <| .cons hunknown <| .cons hfound <|
      .cons .size <| .cons hreleased <| .cons .isEmpty <| .nil _
  exact ⟨hsize, hrun, registry_refines_directory hsize hrun⟩

end Registry

end MessageServer
