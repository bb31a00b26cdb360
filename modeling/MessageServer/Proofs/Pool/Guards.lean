import Mathlib.Data.Finset.Card
import MessageServer.Proofs.Pool.Custody

/-!
# Leases and the guards that stand for them

A lease that is granted gives a `Guard`, which may be written through, read through and dropped
once.  What happens to a pool is a list of `PoolEvent`s, the oldest first, and `Pool.Reached` is
every pool that leases and guards in any order and number lead to, with its history.
`Pools.Reached` is the same for the two pools of a server.

* `Reached.guarded`: the lent slots are those of the outstanding guards, each of them has one
  guard, and the start of the search is the number of the leases that were asked for.
* `lease_eq_some_iff`: a lease gives the first free slot in the order in which it looks at them.
* `Pools.Reached.get`: each of the two pools lives by its own history alone.
* `lease_law`: what these come to.
-/

namespace MessageServer

/-- A lease that was granted: how many were asked for before it, and the slot. -/
structure Guard where
  call : Nat
  slot : Nat
  deriving DecidableEq, Repr

/-- What happens to a pool. -/
inductive PoolEvent where
  | leased (g : Guard)
  | refused
  | dropped (g : Guard)
  | wrote (g : Guard) (r : Record)
  | read (g : Guard)
  deriving DecidableEq

namespace PoolEvent

/-- A lease was asked for. -/
def isCall : PoolEvent → Bool
  | leased _ | refused => true
  | dropped _ | wrote _ _ | read _ => false

/-- The guards that are outstanding behind an event. -/
def outstanding (before : Finset Guard) : PoolEvent → Finset Guard
  | leased g => insert g before
  | dropped g => before.erase g
  | refused | wrote _ _ | read _ => before

end PoolEvent

namespace Pool

variable {p q : Pool} {size i : Nat} {history : List PoolEvent} {event : PoolEvent} {g : Guard}

/-! ## Histories -/

/-- How many leases were asked for. -/
def asked (history : List PoolEvent) : Nat :=
  history.countP PoolEvent.isCall

/-- The guards that were given out and not dropped. -/
def outstanding (history : List PoolEvent) : Finset Guard :=
  history.foldl PoolEvent.outstanding ∅

/-- One operation on a pool with this history: what happens, and the pool behind it. -/
inductive Operation (history : List PoolEvent) (p : Pool) : PoolEvent → Pool → Prop where
  | lease {i : Nat} {q : Pool} (granted : p.lease = (some i, q)) :
      Operation history p (.leased ⟨asked history, i⟩) q
  | refuse {q : Pool} (refused : p.lease = (none, q)) : Operation history p .refused q
  | drop {g : Guard} (held : g ∈ outstanding history) :
      Operation history p (.dropped g) (p.release g.slot)
  | write {g : Guard} (held : g ∈ outstanding history) (r : Record) :
      Operation history p (.wrote g r) (p.write g.slot r)
  | read {g : Guard} (held : g ∈ outstanding history) : Operation history p (.read g) p

/-- The pools that operations lead to from a new one, with their histories. -/
inductive Reached (size : Nat) : List PoolEvent → Pool → Prop where
  | new {p : Pool} (made : Pool.new size = .ok p) : Reached size [] p
  | operation {history : List PoolEvent} {event : PoolEvent} {p q : Pool}
      (earlier : Reached size history p) (step : p.Operation history event q) :
      Reached size (history ++ [event]) q

theorem asked_append (history : List PoolEvent) (event : PoolEvent) :
    asked (history ++ [event]) = asked history + if event.isCall then 1 else 0 := by
  rw [asked, List.countP_append, List.countP_singleton, asked]

theorem outstanding_append (history : List PoolEvent) (event : PoolEvent) :
    outstanding (history ++ [event]) = event.outstanding (outstanding history) := by
  rw [outstanding, List.foldl_append]
  rfl

/-! ## One lease -/

/-- A lease gives the first free slot, from the start of the search round the pool. -/
theorem lease_eq_some_iff :
    p.lease.1 = some i ↔
      ∃ k < p.size, i = (p.calls.toNat % p.size + k) % p.size ∧ p.isLent i = false ∧
        ∀ j < k, p.isLent ((p.calls.toNat % p.size + j) % p.size) = true := by
  have hfound : p.lease.1 = p.probes.find? fun i => !p.isLent i := by
    unfold lease
    dsimp only
    split
    · next hnone => exact hnone.symm
    · next hsome => exact hsome.symm
  rw [hfound, probes, List.find?_eq_some_iff_getElem]
  simp only [Bool.not_eq_true', List.length_map, List.length_range, List.getElem_map,
    List.getElem_range, Bool.not_not]
  constructor
  · rintro ⟨hfree, k, hk, rfl, hbefore⟩
    exact ⟨k, hk, rfl, hfree, hbefore⟩
  · rintro ⟨k, hk, rfl, hfree, hbefore⟩
    exact ⟨hfree, k, hk, rfl, hbefore⟩

@[simp] theorem calls_lease (p : Pool) : p.lease.2.calls = p.calls + 1 := by
  unfold lease
  dsimp only
  split
  · rfl
  · rfl

/-- A lease that finds nothing has moved the start of the next search. -/
theorem lease_of_none (h : p.lease.1 = none) : p.lease.2 = { p with calls := p.calls + 1 } := by
  unfold lease at h ⊢
  dsimp only at h ⊢
  split at h
  · rfl
  · cases h

theorem lt_size_of_isLent (h : p.isLent i = true) : i < p.size := by
  by_contra hout
  rw [isLent, Array.getElem?_eq_none (Nat.le_of_not_lt hout)] at h
  cases h

/-- The lent slots are counted by their indices. -/
theorem inUse_eq (p : Pool) : p.inUse = ((Finset.range p.size).filter (p.isLent ·)).card := by
  have hslots : p.slots.toList.map (·.lent) = (List.range p.size).map p.isLent := by
    refine List.ext_getElem (by simp [size]) fun i hi _ => ?_
    have hi' : i < p.slots.size := by simpa using hi
    simp [isLent, Array.getElem?_eq_getElem hi']
  calc
    p.inUse
    _ = (p.slots.toList.map (·.lent)).countP id := by
        rw [List.countP_map, inUse, ← Array.countP_toList]
        rfl
    _ = (List.range p.size).countP p.isLent := by
        rw [hslots, List.countP_map]
        rfl
    _ = ((Finset.range p.size).filter (p.isLent ·)).card := by
        rw [Finset.card_def, Finset.filter_val, ← Multiset.countP_eq_card_filter, Finset.range_val,
          Multiset.range, Multiset.coe_countP]
        simp

/-! ## The guards and the pool -/

/-- What a pool has to do with its history. -/
structure Guarded (size : Nat) (history : List PoolEvent) (p : Pool) : Prop where
  size_eq : p.size = size
  calls_eq : p.calls = UInt64.ofNat (asked history)
  lent_iff : ∀ i, p.isLent i = true ↔ ∃ g ∈ outstanding history, g.slot = i
  exclusive : ∀ g ∈ outstanding history, ∀ g' ∈ outstanding history, g.slot = g'.slot → g = g'

namespace Guarded

theorem new (hnew : Pool.new size = .ok p) : Guarded size [] p := by
  unfold Pool.new at hnew
  split_ifs at hnew
  obtain rfl := Except.ok.inj hnew
  refine ⟨Array.size_replicate, rfl, fun i => ?_, nofun⟩
  rw [isLent_eq, Array.getElem?_replicate]
  split_ifs <;> simp [outstanding]

/-- A slot is free if no guard is outstanding for it. -/
theorem free_iff (h : Guarded size history p) :
    p.isLent i = false ↔ ∀ g ∈ outstanding history, g.slot ≠ i := by
  rw [← Bool.not_eq_true, h.lent_iff]
  simp

theorem slot_lt (h : Guarded size history p) (held : g ∈ outstanding history) : g.slot < size := by
  rw [← h.size_eq]
  exact lt_size_of_isLent ((h.lent_iff g.slot).mpr ⟨g, held, rfl⟩)

/-- The operations that are no calls, and leave the flags and the guards alone. -/
theorem beside (h : Guarded size history p) (hsize : q.size = p.size) (hcalls : q.calls = p.calls)
    (hlent : ∀ i, q.isLent i = p.isLent i) (hcall : event.isCall = false)
    (hguards : event.outstanding (outstanding history) = outstanding history) :
    Guarded size (history ++ [event]) q where
  size_eq := hsize.trans h.size_eq
  calls_eq := by
    rw [hcalls, h.calls_eq, asked_append, hcall]
    rfl
  lent_iff i := by rw [hlent, h.lent_iff, outstanding_append, hguards]
  exclusive := by
    rw [outstanding_append, hguards]
    exact h.exclusive

/-- The start of the next search behind a call. -/
theorem calls_succ (h : Guarded size history p) (event : PoolEvent) (hcall : event.isCall = true) :
    p.lease.2.calls = UInt64.ofNat (asked (history ++ [event])) := by
  rw [calls_lease, h.calls_eq, asked_append, hcall, if_pos rfl, UInt64.ofNat_add]
  rfl

theorem lease (h : Guarded size history p) (granted : p.lease = (some i, q)) :
    Guarded size (history ++ [.leased ⟨asked history, i⟩]) q := by
  have hcalls := h.calls_succ (.leased ⟨asked history, i⟩) rfl
  rw [granted] at hcalls
  rcases p.lease_cases with ⟨_, heq, -⟩ | ⟨j, q', heq, hsize, -, hfree, hlent⟩
  · rw [granted] at heq
    cases heq
  · rw [granted] at heq
    obtain ⟨hij, rfl⟩ := Prod.mk.inj heq
    obtain rfl := Option.some.inj hij
    have hnobody := h.free_iff.mp hfree
    refine ⟨hsize.trans h.size_eq, hcalls, fun j => ?_, ?_⟩
    · rw [hlent, outstanding_append, PoolEvent.outstanding, Finset.exists_mem_insert, ← h.lent_iff]
      by_cases hj : i = j
      · simp [hj]
      · simp [hj]
    · -- the slot of the new guard was free, so that no other guard has it
      rw [outstanding_append]
      intro g hg g' hg' hslot
      rcases Finset.mem_insert.mp hg with rfl | hold
      · rcases Finset.mem_insert.mp hg' with rfl | hold'
        · rfl
        · exact absurd hslot.symm (hnobody g' hold')
      · rcases Finset.mem_insert.mp hg' with rfl | hold'
        · exact absurd hslot (hnobody g hold)
        · exact h.exclusive g hold g' hold' hslot

theorem refuse (h : Guarded size history p) (refused : p.lease = (none, q)) :
    Guarded size (history ++ [.refused]) q := by
  have hcalls := h.calls_succ .refused rfl
  have hsize := p.size_lease
  rw [refused] at hcalls hsize
  refine ⟨hsize.trans h.size_eq, hcalls, fun i => ?_, ?_⟩
  · rw [isLent_of_lease_none refused, h.lent_iff, outstanding_append]
    rfl
  · rw [outstanding_append]
    exact h.exclusive

theorem drop (h : Guarded size history p) (held : g ∈ outstanding history) :
    Guarded size (history ++ [.dropped g]) (p.release g.slot) where
  size_eq := (size_release p g.slot).trans h.size_eq
  calls_eq := by
    rw [asked_append]
    exact h.calls_eq
  lent_iff i := by
    rw [isLent_release, outstanding_append, PoolEvent.outstanding]
    split_ifs with hi
    · -- the guard that is dropped was the only one of its slot
      refine iff_of_false id ?_
      rintro ⟨g', hg', rfl⟩
      obtain ⟨hne, hold⟩ := Finset.mem_erase.mp hg'
      exact hne (h.exclusive g' hold g held hi.symm)
    · rw [h.lent_iff]
      refine ⟨?_, ?_⟩
      · rintro ⟨g', hold, rfl⟩
        exact ⟨g', Finset.mem_erase.mpr ⟨fun heq => hi (heq ▸ rfl), hold⟩, rfl⟩
      · rintro ⟨g', hg', rfl⟩
        exact ⟨g', (Finset.mem_erase.mp hg').2, rfl⟩
  exclusive := by
    rw [outstanding_append]
    exact fun g hg g' hg' =>
      h.exclusive g (Finset.mem_of_mem_erase hg) g' (Finset.mem_of_mem_erase hg')

theorem operation (h : Guarded size history p) (step : p.Operation history event q) :
    Guarded size (history ++ [event]) q := by
  cases step with
  | lease granted => exact h.lease granted
  | refuse refused => exact h.refuse refused
  | drop held => exact h.drop held
  | write held r => exact h.beside (size_write p _ r) rfl (isLent_write p _ r) rfl rfl
  | read held => exact h.beside rfl rfl (fun _ => rfl) rfl rfl

/-- As many slots are lent as guards are outstanding. -/
theorem inUse_eq_card (h : Guarded size history p) : p.inUse = (outstanding history).card := by
  have hslots : (Finset.range p.size).filter (p.isLent ·) =
      (outstanding history).image Guard.slot := by
    ext i
    rw [Finset.mem_filter, Finset.mem_image, h.lent_iff, Finset.mem_range, h.size_eq]
    refine and_iff_right_of_imp ?_
    rintro ⟨g, held, rfl⟩
    exact h.slot_lt held
  rw [inUse_eq, hslots, Finset.card_image_of_injOn]
  exact fun g hg g' hg' => h.exclusive g hg g' hg'

end Guarded

theorem Reached.guarded (h : Reached size history p) : Guarded size history p := by
  induction h with
  | new made => exact .new made
  | operation _ step ih => exact ih.operation step

/-! ## The law of leases -/

/-- What the flags of a pool say, and what the next lease does. -/
structure Lends (size : Nat) (history : List PoolEvent) (p : Pool) : Prop where
  lent_iff : ∀ i, p.isLent i = true ↔ ∃ g ∈ outstanding history, g.slot = i
  exclusive : ∀ g ∈ outstanding history, ∀ g' ∈ outstanding history, g.slot = g'.slot → g = g'
  inUse_eq : p.inUse = (outstanding history).card
  /-- The first slot without guard, from where the number of leases so far points to. -/
  granted_iff : ∀ i, p.lease.1 = some i ↔
    ∃ k < size, i = (asked history % UInt64.size % size + k) % size ∧
      (∀ g ∈ outstanding history, g.slot ≠ i) ∧
        ∀ j < k, ∃ g ∈ outstanding history,
          g.slot = (asked history % UInt64.size % size + j) % size
  refused_iff : p.lease.1 = none ↔ ∀ i < size, ∃ g ∈ outstanding history, g.slot = i
  /-- A lease that is refused leaves everything else as it was. -/
  refused : p.lease.1 = none → p.lease.2 = { p with calls := p.calls + 1 }

theorem Guarded.lends (h : Guarded size history p) : p.Lends size history where
  lent_iff := h.lent_iff
  exclusive := h.exclusive
  inUse_eq := h.inUse_eq_card
  granted_iff i := by
    have hcalls : p.calls.toNat = asked history % UInt64.size := by
      rw [h.calls_eq]
      exact UInt64.toNat_ofNat'
    simp only [lease_eq_some_iff, h.size_eq, hcalls, h.lent_iff, h.free_iff]
  refused_iff := by simp only [lease_eq_none_iff, h.size_eq, h.lent_iff]
  refused := lease_of_none

end Pool

/-! ## Two pools -/

namespace Pools

variable {p q : Pools} {size : Nat} {d d' : Direction} {history : List (Direction × PoolEvent)}
  {event : Direction × PoolEvent}

/-- What happened to the pool of one direction. -/
def onto (d : Direction) (history : List (Direction × PoolEvent)) : List PoolEvent :=
  history.filterMap fun event => if event.1 = d then some event.2 else none

/-- One operation on one of the pools. -/
inductive Operation (history : List (Direction × PoolEvent)) (p : Pools) :
    Direction × PoolEvent → Pools → Prop where
  | lease {d : Direction} {i : Nat} {q : Pools} (granted : p.lease d = (some i, q)) :
      Operation history p (d, .leased ⟨Pool.asked (onto d history), i⟩) q
  | refuse {d : Direction} {q : Pools} (refused : p.lease d = (none, q)) :
      Operation history p (d, .refused) q
  | drop {d : Direction} {g : Guard} (held : g ∈ Pool.outstanding (onto d history)) :
      Operation history p (d, .dropped g) (p.release d g.slot)
  | write {d : Direction} {g : Guard} (held : g ∈ Pool.outstanding (onto d history)) (r : Record) :
      Operation history p (d, .wrote g r) (p.write d g.slot r)
  | read {d : Direction} {g : Guard} (held : g ∈ Pool.outstanding (onto d history)) :
      Operation history p (d, .read g) p

/-- The pools that operations lead to from new ones, with their histories. -/
inductive Reached (size : Nat) : List (Direction × PoolEvent) → Pools → Prop where
  | new {p : Pools} (made : Pools.new size = .ok p) : Reached size [] p
  | operation {history : List (Direction × PoolEvent)} {event : Direction × PoolEvent}
      {p q : Pools} (earlier : Reached size history p) (step : p.Operation history event q) :
      Reached size (history ++ [event]) q

theorem onto_append_self (history : List (Direction × PoolEvent))
    (event : Direction × PoolEvent) : onto event.1 (history ++ [event]) =
      onto event.1 history ++ [event.2] := by
  simp [onto]

theorem onto_append_other (h : event.1 ≠ d) : onto d (history ++ [event]) = onto d history := by
  simp [onto, h]

/-- An operation concerns the pool of its direction. -/
theorem Operation.get (step : p.Operation history event q) :
    (p.get event.1).Operation (onto event.1 history) event.2 (q.get event.1) ∧
      ∀ d, event.1 ≠ d → q.get d = p.get d := by
  have hlease : ∀ d, (p.get d).lease = ((p.lease d).1, (p.lease d).2.get d) := by
    intro d
    rw [get_lease, if_pos rfl]
    rfl
  cases step with
  | @lease d i q granted =>
      have hpool := hlease d
      rw [granted] at hpool
      refine ⟨.lease hpool, fun d' hd => ?_⟩
      rw [show q = (p.lease d).2 from (congrArg Prod.snd granted).symm, get_lease, if_neg hd]
  | @refuse d q refused =>
      have hpool := hlease d
      rw [refused] at hpool
      refine ⟨.refuse hpool, fun d' hd => ?_⟩
      rw [show q = (p.lease d).2 from (congrArg Prod.snd refused).symm, get_lease, if_neg hd]
  | @drop d g held =>
      refine ⟨?_, fun d' hd => by rw [get_release, if_neg hd]⟩
      rw [get_release, if_pos rfl]
      exact .drop held
  | @write d g held r =>
      refine ⟨?_, fun d' hd => by rw [get_write, if_neg hd]⟩
      rw [get_write, if_pos rfl]
      exact .write held r
  | read held => exact ⟨.read held, fun _ _ => rfl⟩

/-- The pool of each direction is what its own history makes of it. -/
theorem Reached.get (h : Reached size history p) (d : Direction) :
    Pool.Reached size (onto d history) (p.get d) := by
  induction h with
  | @new p made =>
      unfold Pools.new at made
      split at made
      · cases made
      · next pool hpool =>
          obtain rfl := Except.ok.inj made
          cases d with
          | send => exact .new hpool
          | receive => exact .new hpool
  | @operation history event p q _ step ih =>
      obtain ⟨hown, hother⟩ := step.get
      by_cases hd : event.1 = d
      · subst hd
        rw [onto_append_self]
        exact .operation ih hown
      · rw [onto_append_other hd, hother d hd]
        exact ih

end Pools

/-- There is a pool unless its slots would take more than a block of memory.  The flags of a pool
are those of the outstanding guards, the lease that is asked for next looks for a free slot from
where the number of leases before it points to, and an operation on one of two pools has nothing to
do with the other. -/
theorem Pool.lease_law {size : Nat} (hsize : 0 < size) :
    ((∃ p, Pool.new size = .ok p) ↔ size ≤ mostSlots) ∧
      (∀ history p, Pool.Reached size history p → p.Lends size history) ∧
        ∀ history p, Pools.Reached size history p → ∀ d,
          Pool.Reached size (Pools.onto d history) (p.get d) ∧
            ∀ event q, p.Operation history event q → event.1 ≠ d →
              q.get d = p.get d ∧ Pools.onto d (history ++ [event]) = Pools.onto d history := by
  refine ⟨⟨fun hmade => ?_, fun hmost => ⟨_, new_of_le hsize hmost⟩⟩,
    fun history p h => h.guarded.lends, fun history p h d => ?_⟩
  · obtain ⟨p, hp⟩ := hmade
    by_contra hmost
    rw [new_of_lt (Nat.not_le.mp hmost)] at hp
    cases hp
  · exact ⟨h.get d, fun event q step hd => ⟨step.get.2 d hd, Pools.onto_append_other hd⟩⟩

/-- A pool of two slots whose third lease is refused, and whose fourth one passes over the slot that
is still lent. -/
theorem Pool.leases_of_two :
    let history : List PoolEvent :=
      [.leased ⟨0, 0⟩, .leased ⟨1, 1⟩, .refused, .dropped ⟨0, 0⟩, .leased ⟨3, 0⟩]
    let last : Pool := ⟨#[⟨true, Record.zero⟩, ⟨true, Record.zero⟩], 4⟩
    0 < 2 ∧ Pool.Reached 2 history last ∧ last.Lends 2 history ∧
      Pool.outstanding history = {⟨1, 1⟩, ⟨3, 0⟩} := by
  intro history last
  let slots (first second : Bool) (calls : UInt64) : Pool :=
    ⟨#[⟨first, Record.zero⟩, ⟨second, Record.zero⟩], calls⟩
  have hnew : Pool.Reached 2 [] (slots false false 0) := .new rfl
  have hfirst : Pool.Reached 2 [.leased ⟨0, 0⟩] (slots true false 1) :=
    .operation hnew (.lease rfl)
  have hsecond : Pool.Reached 2 [.leased ⟨0, 0⟩, .leased ⟨1, 1⟩] (slots true true 2) :=
    .operation hfirst (.lease rfl)
  have hrefused : Pool.Reached 2 [.leased ⟨0, 0⟩, .leased ⟨1, 1⟩, .refused] (slots true true 3) :=
    .operation hsecond (.refuse (by decide))
  have hdropped : Pool.Reached 2 [.leased ⟨0, 0⟩, .leased ⟨1, 1⟩, .refused, .dropped ⟨0, 0⟩]
      (slots false true 3) :=
    .operation hrefused (.drop (by decide))
  have hlast : Pool.Reached 2 history last := .operation hdropped (.lease (by decide))
  have htwo : 0 < 2 := Nat.zero_lt_two
  exact ⟨htwo, hlast, (Pool.lease_law htwo).2.1 _ _ hlast, by decide⟩

end MessageServer
