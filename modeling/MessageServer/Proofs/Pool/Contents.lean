import MessageServer.Proofs.Pool.Guards

/-!
# What a guard shows

A slot keeps its record when it is given back and lent again, so a guard may show what an earlier
holder of its slot left behind.  `Pool.shown` says which record that is, from the history alone: the
last one written through the guard, or else the last one written by the latest earlier holder of the
slot that wrote, or the zero record.

The proof goes through the slots.  A slot shows what was written to it last, by whomever
(`Chronicle.contents`), and the last to write to a slot is the latest holder that wrote
(`Chronicle.last_eq`), because only the guard of a slot writes to it.

`read_through_guard` is the main statement, for both pools of a server.
-/

namespace MessageServer

namespace PoolEvent

/-- The guard that is given out. -/
def granted? : PoolEvent → Option Guard
  | leased g => some g
  | refused | dropped _ | wrote _ _ | read _ => none

/-- What is written through a guard. -/
def through? (g : Guard) : PoolEvent → Option Record
  | wrote h r => if h = g then some r else none
  | leased _ | refused | dropped _ | read _ => none

/-- What is written to a slot. -/
def into? (i : Nat) : PoolEvent → Option Record
  | wrote h r => if h.slot = i then some r else none
  | leased _ | refused | dropped _ | read _ => none

end PoolEvent

namespace Pool

variable {p q : Pool} {size i : Nat} {history : List PoolEvent} {event : PoolEvent} {g h : Guard}

/-! ## Records in slots -/

theorem read?_write (p : Pool) (i : Nat) (r : Record) (j : Nat) :
    (p.write i r).read? j = if i = j then (p.read? j).map fun _ => r else p.read? j := by
  unfold read? write
  rw [Array.getElem?_modify]
  split_ifs
  · cases p.slots[j]? <;> rfl
  · rfl

@[simp] theorem read?_release (p : Pool) (i j : Nat) : (p.release i).read? j = p.read? j := by
  unfold read? release
  rw [Array.getElem?_modify]
  split_ifs
  · cases p.slots[j]? <;> rfl
  · rfl

/-- A slot that is lent keeps its record. -/
@[simp] theorem read?_lease (p : Pool) (j : Nat) : p.lease.2.read? j = p.read? j := by
  unfold lease
  dsimp only
  split
  · rfl
  · unfold read?
    rw [Array.getElem?_modify]
    split_ifs
    · cases p.slots[j]? <;> rfl
    · rfl

/-- An operation changes the record in a slot only if it writes there. -/
theorem Operation.read? (step : p.Operation history event q) (j : Nat) :
    q.read? j = (p.read? j).map fun old => (event.into? j).getD old := by
  cases step with
  | lease granted =>
      have hkept := p.read?_lease j
      rw [granted] at hkept
      exact hkept.trans Option.map_id'.symm
  | refuse refused =>
      have hkept := p.read?_lease j
      rw [refused] at hkept
      exact hkept.trans Option.map_id'.symm
  | drop held => exact (p.read?_release _ j).trans Option.map_id'.symm
  | write held r =>
      rw [read?_write, PoolEvent.into?]
      split_ifs
      · rfl
      · exact Option.map_id'.symm
  | read held => exact Option.map_id'.symm

/-! ## Who wrote what -/

/-- The last record written through a guard. -/
def lastWritten (history : List PoolEvent) (g : Guard) : Option Record :=
  history.reverse.findSome? (PoolEvent.through? g)

/-- The last record written to a slot. -/
def lastInto (history : List PoolEvent) (i : Nat) : Option Record :=
  history.reverse.findSome? (PoolEvent.into? i)

/-- The guards a slot was lent to, the latest first. -/
def holders (history : List PoolEvent) (i : Nat) : List Guard :=
  (history.reverse.filterMap PoolEvent.granted?).filter (·.slot = i)

/-- The guards that the slot of a guard was lent to before, the latest first. -/
def predecessors (history : List PoolEvent) (g : Guard) : List Guard :=
  (holders history g.slot).filter (·.call < g.call)

/-- The record that an outstanding guard shows: the last one written through it, or else through
the latest of its predecessors that wrote. -/
def shown (history : List PoolEvent) (g : Guard) : Record :=
  ((g :: predecessors history g).findSome? (lastWritten history)).getD Record.zero

theorem lastWritten_append (history : List PoolEvent) (event : PoolEvent) (g : Guard) :
    lastWritten (history ++ [event]) g = (event.through? g).or (lastWritten history g) := by
  rw [lastWritten, List.reverse_append, List.findSome?_append, lastWritten]
  cases hevent : event.through? g <;> simp [hevent]

theorem lastInto_append (history : List PoolEvent) (event : PoolEvent) (i : Nat) :
    lastInto (history ++ [event]) i = (event.into? i).or (lastInto history i) := by
  rw [lastInto, List.reverse_append, List.findSome?_append, lastInto]
  cases hevent : event.into? i <;> simp [hevent]

theorem holders_append (history : List PoolEvent) (event : PoolEvent) (i : Nat) :
    holders (history ++ [event]) i =
      event.granted?.toList.filter (·.slot = i) ++ holders history i := by
  rw [holders, List.reverse_append, List.filterMap_append, List.filter_append, holders]
  cases hgranted : event.granted? <;> simp [hgranted]

theorem slot_of_mem_holders (hmem : g ∈ holders history i) : g.slot = i := by
  simpa using (List.mem_filter.mp hmem).2

/-- A search finds the same with functions that agree on the list. -/
private theorem findSome?_congr {α β : Type} {f f' : α → Option β} :
    ∀ {l : List α}, (∀ a ∈ l, f a = f' a) → l.findSome? f = l.findSome? f'
  | [], _ => rfl
  | a :: l, hagree => by
      rw [List.findSome?_cons, List.findSome?_cons, hagree a List.mem_cons_self,
        findSome?_congr fun a' ha' => hagree a' (List.mem_cons_of_mem _ ha')]

/-- What a history says of the guards of a pool, and of the records in its slots. -/
structure Chronicle (size : Nat) (history : List PoolEvent) (p : Pool) : Prop where
  guarded : Guarded size history p
  /-- A slot shows what was written to it last. -/
  contents : ∀ i < size, p.read? i = some ((lastInto history i).getD Record.zero)
  call_lt : ∀ i, ∀ g ∈ holders history i, g.call < asked history
  /-- The guard of a slot is the last that the slot was lent to. -/
  current : ∀ g ∈ outstanding history, holders history g.slot = g :: predecessors history g
  wrote : ∀ g r, lastWritten history g = some r → g ∈ holders history g.slot
  /-- The last record in a slot is from the latest of its holders that wrote. -/
  last_eq : ∀ i, lastInto history i = (holders history i).findSome? (lastWritten history)

namespace Chronicle

theorem new (hnew : Pool.new size = .ok p) : Chronicle size [] p where
  guarded := .new hnew
  contents i hi := by
    unfold Pool.new at hnew
    split_ifs at hnew
    obtain rfl := Except.ok.inj hnew
    simp [read?, lastInto, hi]
  call_lt i g hg := by cases hg
  current g hg := by simp [outstanding] at hg
  wrote g r hr := by cases hr
  last_eq i := rfl

/-- A lease that is granted opens a chapter of its slot. -/
theorem lease (h : Chronicle size history p) (granted : p.lease = (some i, q)) :
    Chronicle size (history ++ [.leased ⟨asked history, i⟩]) q := by
  let g : Guard := ⟨asked history, i⟩
  have hstep : p.Operation history (.leased g) q := .lease granted
  have hfree : ∀ g' ∈ outstanding history, g'.slot ≠ i := by
    refine h.guarded.free_iff.mp ?_
    rcases p.lease_cases with ⟨_, heq, -⟩ | ⟨j, _, heq, -, -, hfree, -⟩
    · rw [granted] at heq
      cases heq
    · rw [granted] at heq
      obtain rfl := Option.some.inj (congrArg Prod.fst heq)
      exact hfree
  have hholders : ∀ j, holders (history ++ [.leased g]) j =
      if i = j then g :: holders history j else holders history j := by
    intro j
    rw [holders_append]
    by_cases hj : i = j <;> simp [PoolEvent.granted?, g, hj]
  have hwritten : lastWritten (history ++ [.leased g]) = lastWritten history :=
    funext fun g' => lastWritten_append _ _ g'
  have hinto : ∀ j, lastInto (history ++ [.leased g]) j = lastInto history j :=
    fun j => lastInto_append _ _ j
  -- nothing can have been written through a guard that was not given out
  have hsilent : lastWritten history g = none := by
    cases hr : lastWritten history g with
    | none => rfl
    | some r => exact absurd (h.call_lt _ g (h.wrote g r hr)) (Nat.lt_irrefl _)
  have hasked : asked history < asked (history ++ [.leased g]) := by
    rw [asked_append]
    exact Nat.lt_succ_self _
  refine
    { guarded := h.guarded.operation hstep
      contents := fun j hj => ?_
      call_lt := fun j g' hg' => ?_
      current := fun g' hg' => ?_
      wrote := fun g' r hr => ?_
      last_eq := fun j => ?_ }
  · rw [hstep.read?, h.contents j hj, hinto]
    rfl
  · rw [hholders] at hg'
    split_ifs at hg'
    · rcases List.mem_cons.mp hg' with rfl | hold
      · exact hasked
      · exact (h.call_lt j g' hold).trans hasked
    · exact (h.call_lt j g' hg').trans hasked
  · rw [outstanding_append] at hg'
    rcases Finset.mem_insert.mp hg' with rfl | hold
    · -- all that held the slot before were given out earlier
      have hbefore : (holders history i).filter (·.call < asked history) = holders history i :=
        List.filter_eq_self.mpr fun g' hg' => decide_eq_true (h.call_lt i g' hg')
      rw [predecessors, hholders, if_pos rfl]
      simpa [g] using hbefore.symm
    · rw [predecessors, hholders, if_neg fun heq => hfree g' hold heq.symm]
      exact h.current g' hold
  · rw [hwritten] at hr
    rw [hholders]
    split_ifs
    · exact List.mem_cons_of_mem _ (h.wrote g' r hr)
    · exact h.wrote g' r hr
  · rw [hinto, hwritten, hholders, h.last_eq]
    split_ifs with hj
    · rw [List.findSome?_cons, hsilent]
    · rfl

/-- An operation that gives no guard out writes through an outstanding guard, or nothing. -/
theorem beside (h : Chronicle size history p) (step : p.Operation history event q)
    (hgranted : event.granted? = none) (hcalls : asked history ≤ asked (history ++ [event]))
    (houtstanding : event.outstanding (outstanding history) ⊆ outstanding history)
    (hwrites : (∃ g ∈ outstanding history, ∃ r, event = .wrote g r) ∨
      (∀ g, event.through? g = none) ∧ ∀ i, event.into? i = none) :
    Chronicle size (history ++ [event]) q := by
  have hholders : ∀ j, holders (history ++ [event]) j = holders history j := by
    intro j
    rw [holders_append, hgranted]
    rfl
  refine
    { guarded := h.guarded.operation step
      contents := fun j hj => ?_
      call_lt := fun j g' hg' => ?_
      current := fun g' hg' => ?_
      wrote := fun g' r hr => ?_
      last_eq := fun j => ?_ }
  · rw [step.read?, h.contents j hj, lastInto_append]
    cases event.into? j <;> rfl
  · rw [hholders] at hg'
    exact (h.call_lt j g' hg').trans_le hcalls
  · rw [outstanding_append] at hg'
    rw [predecessors, hholders]
    exact h.current g' (houtstanding hg')
  · rw [lastWritten_append] at hr
    rw [hholders]
    rcases hwrites with ⟨g, held, r', rfl⟩ | ⟨hnone, -⟩
    · rw [PoolEvent.through?] at hr
      split_ifs at hr with heq
      · rw [← heq, h.current g held]
        exact List.mem_cons_self
      · exact h.wrote g' r hr
    · rw [hnone, Option.none_or] at hr
      exact h.wrote g' r hr
  · rw [lastInto_append, hholders]
    rcases hwrites with ⟨g, held, r, rfl⟩ | ⟨hnone, hnowhere⟩
    · rw [PoolEvent.into?]
      split_ifs with hslot
      · -- the guard is the latest holder of its slot, and has written
        rw [← hslot, h.current g held, List.findSome?_cons, lastWritten_append]
        simp [PoolEvent.through?]
      · -- none of the holders of another slot has written anything
        rw [Option.none_or, h.last_eq]
        refine findSome?_congr fun g' hg' => ?_
        have hne : g ≠ g' := by
          rintro rfl
          exact hslot (slot_of_mem_holders hg')
        rw [lastWritten_append, PoolEvent.through?, if_neg hne, Option.none_or]
    · rw [hnowhere, Option.none_or, h.last_eq]
      refine findSome?_congr fun g' _ => ?_
      rw [lastWritten_append, hnone, Option.none_or]

theorem operation (h : Chronicle size history p) (step : p.Operation history event q) :
    Chronicle size (history ++ [event]) q := by
  have hasked : asked history ≤ asked (history ++ [event]) := by
    rw [asked_append]
    exact Nat.le_add_right _ _
  cases step with
  | lease granted => exact h.lease granted
  | refuse refused =>
      exact h.beside (.refuse refused) rfl hasked subset_rfl (.inr ⟨fun _ => rfl, fun _ => rfl⟩)
  | drop held =>
      exact h.beside (.drop held) rfl hasked (Finset.erase_subset _ _)
        (.inr ⟨fun _ => rfl, fun _ => rfl⟩)
  | write held r =>
      exact h.beside (.write held r) rfl hasked subset_rfl (.inl ⟨_, held, r, rfl⟩)
  | read held =>
      exact h.beside (.read held) rfl hasked subset_rfl (.inr ⟨fun _ => rfl, fun _ => rfl⟩)

theorem read_eq_shown (h : Chronicle size history p) (held : g ∈ outstanding history) :
    p.read? g.slot = some (shown history g) := by
  rw [h.contents g.slot (h.guarded.slot_lt held), h.last_eq, h.current g held]
  rfl

end Chronicle

theorem Reached.chronicle (h : Reached size history p) : Chronicle size history p := by
  induction h with
  | new made => exact .new made
  | operation _ step ih => exact ih.operation step

/-- Only a write through the guard of a slot changes what is in it. -/
theorem Guarded.read?_eq (h : Guarded size history p) (held : g ∈ outstanding history)
    (step : p.Operation history event q) (hother : ∀ r, event ≠ .wrote g r) :
    q.read? g.slot = p.read? g.slot := by
  have hnone : event.into? g.slot = none := by
    cases step with
    | @write g' held' r =>
        rw [PoolEvent.into?]
        split_ifs with hslot
        · exact absurd (h.exclusive g' held' g held hslot ▸ rfl) (hother r)
        · rfl
    | lease _ | refuse _ | drop _ | read _ => rfl
  rw [step.read?, hnone]
  exact Option.map_id'

end Pool

/-- A read through a guard gives the last record that was written through it, or else what the
latest earlier holder of the slot that wrote anything wrote last, or the zero record.  No lease, no
dropping of a guard, no write through another guard and no operation on the other pool changes
that. -/
theorem Pools.read_through_guard {size : Nat} {history : List (Direction × PoolEvent)} {p : Pools}
    (hreached : Pools.Reached size history p) {d : Direction} {g : Guard}
    (held : g ∈ Pool.outstanding (onto d history)) :
    p.read? d g.slot = some (Pool.shown (onto d history) g) ∧
      ∀ event q, p.Operation history event q → (∀ r, event ≠ (d, .wrote g r)) →
        q.read? d g.slot = p.read? d g.slot := by
  have hpool := hreached.get d
  refine ⟨hpool.chronicle.read_eq_shown held, fun event q step hother => ?_⟩
  obtain ⟨hown, hothers⟩ := step.get
  by_cases hd : event.1 = d
  · subst hd
    exact hpool.guarded.read?_eq held hown fun r heq => hother r (Prod.ext rfl heq)
  · exact congrArg (Pool.read? · g.slot) (hothers d hd)

/-- The second holder of a slot shows what the first one wrote, while the other pool is used. -/
theorem Pools.read_behind_predecessor :
    let r : Record := { Record.zero with header := { Record.zero.header with messageId := 7 } }
    let history : List (Direction × PoolEvent) :=
      [(.send, .leased ⟨0, 0⟩), (.send, .wrote ⟨0, 0⟩ r), (.receive, .leased ⟨0, 0⟩),
        (.send, .dropped ⟨0, 0⟩), (.send, .leased ⟨1, 0⟩)]
    let last : Pools := ⟨⟨#[⟨true, r⟩], 2⟩, ⟨#[⟨true, Record.zero⟩], 1⟩⟩
    Pools.Reached 1 history last ∧ ⟨1, 0⟩ ∈ Pool.outstanding (onto .send history) ∧
      Pool.shown (onto .send history) ⟨1, 0⟩ = r ∧
        (last.read? .send 0 = some (Pool.shown (onto .send history) ⟨1, 0⟩) ∧
          ∀ event q, last.Operation history event q → (∀ r, event ≠ (.send, .wrote ⟨1, 0⟩ r)) →
            q.read? .send 0 = last.read? .send 0) := by
  intro r history last
  let one (lent : Bool) (record : Record) (calls : UInt64) : Pool := ⟨#[⟨lent, record⟩], calls⟩
  have hnew : Pools.Reached 1 [] ⟨one false .zero 0, one false .zero 0⟩ := .new rfl
  have hleased : Pools.Reached 1 [(.send, .leased ⟨0, 0⟩)]
      ⟨one true .zero 1, one false .zero 0⟩ :=
    .operation hnew (.lease (by decide))
  have hwrote : Pools.Reached 1 [(.send, .leased ⟨0, 0⟩), (.send, .wrote ⟨0, 0⟩ r)]
      ⟨one true r 1, one false .zero 0⟩ :=
    .operation hleased (.write (by decide) r)
  have hreceive : Pools.Reached 1
      [(.send, .leased ⟨0, 0⟩), (.send, .wrote ⟨0, 0⟩ r), (.receive, .leased ⟨0, 0⟩)]
      ⟨one true r 1, one true .zero 1⟩ :=
    .operation hwrote (.lease (by decide))
  have hdropped : Pools.Reached 1
      [(.send, .leased ⟨0, 0⟩), (.send, .wrote ⟨0, 0⟩ r), (.receive, .leased ⟨0, 0⟩),
        (.send, .dropped ⟨0, 0⟩)]
      ⟨one false r 1, one true .zero 1⟩ :=
    .operation hreceive (.drop (by decide))
  have hlast : Pools.Reached 1 history last := .operation hdropped (.lease (by decide))
  have held : ⟨1, 0⟩ ∈ Pool.outstanding (onto .send history) := by decide
  exact ⟨hlast, held, by decide, Pools.read_through_guard hlast held⟩

end MessageServer
