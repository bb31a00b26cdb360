import Mathlib.Data.Finset.Card
import Mathlib.Data.Fintype.Card
import MessageServer.Proofs.Pool.Lease

/-!
# Who holds which slot

`Custody` is the pools together with the slots that each of a number of workers holds, one of each
direction at most.  A worker leases a slot when it holds none of that direction, writes into it, and
gives it back; `Custody.Reached` is what any interleaving of these operations leads to.

* `Reached.valid`: the lent slots are those that are held, and each of them has one holder.
* `Valid.lease_eq_some`: with as many slots as workers, a worker that holds no slot gets one.  If
  all slots were lent, the other workers would hold them, and there are too few of these.
-/

namespace MessageServer

namespace Pools

theorem get_set (p : Pools) (d : Direction) (pool : Pool) (d' : Direction) :
    (p.set d pool).get d' = if d = d' then pool else p.get d' := by
  cases d <;> cases d' <;> rfl

theorem get_lease (p : Pools) (d d' : Direction) :
    (p.lease d).2.get d' = if d = d' then (p.get d).lease.2 else p.get d' :=
  p.get_set d _ d'

theorem get_release (p : Pools) (d : Direction) (i : Nat) (d' : Direction) :
    (p.release d i).get d' = if d = d' then (p.get d).release i else p.get d' :=
  p.get_set d _ d'

theorem get_write (p : Pools) (d : Direction) (i : Nat) (r : Record) (d' : Direction) :
    (p.write d i r).get d' = if d = d' then (p.get d).write i r else p.get d' :=
  p.get_set d _ d'

end Pools

/-- The pools, and the slot of each direction that each worker holds. -/
structure Custody (workers : Nat) where
  pools : Pools
  held : Direction → Fin workers → Option Nat

namespace Custody

variable {workers size : Nat} {pools : Pools} {s t : Custody workers} {d : Direction}
  {w : Fin workers} {i : Nat}

/-! ## Interleavings -/

/-- The same with another slot, or none, in the hands of one worker. -/
def handing (s : Custody workers) (d : Direction) (w : Fin workers) (slot : Option Nat) :
    Direction → Fin workers → Option Nat :=
  fun d' w' => if d = d' ∧ w = w' then slot else s.held d' w'

/-- Nobody holds anything. -/
def idle (pools : Pools) : Custody workers :=
  ⟨pools, fun _ _ => none⟩

/-- A worker asks for a slot, and holds what it is given. -/
def lease (s : Custody workers) (d : Direction) (w : Fin workers) : Custody workers :=
  ⟨(s.pools.lease d).2, s.handing d w (s.pools.lease d).1⟩

/-- A worker gives a slot back. -/
def release (s : Custody workers) (d : Direction) (w : Fin workers) (i : Nat) : Custody workers :=
  ⟨s.pools.release d i, s.handing d w none⟩

/-- A record is put into a slot. -/
def write (s : Custody workers) (d : Direction) (i : Nat) (r : Record) : Custody workers :=
  { s with pools := s.pools.write d i r }

/-- One operation of one worker. -/
inductive Operation (s : Custody workers) : Custody workers → Prop where
  | lease {d : Direction} {w : Fin workers} (free : s.held d w = none) : Operation s (s.lease d w)
  | write {d : Direction} {w : Fin workers} {i : Nat} (holds : s.held d w = some i) (r : Record) :
      Operation s (s.write d i r)
  | release {d : Direction} {w : Fin workers} {i : Nat} (holds : s.held d w = some i) :
      Operation s (s.release d w i)

/-- What the operations of all workers, in any order, lead to from idle pools. -/
inductive Reached (pools : Pools) : Custody workers → Prop where
  | idle : Reached pools (idle pools)
  | operation {s t : Custody workers} (before : Reached pools s) (step : s.Operation t) :
      Reached pools t

/-! ## The lent slots and their holders -/

/-- The lent slots are those that are held, and each of them has one holder. -/
structure Valid (size : Nat) (s : Custody workers) : Prop where
  size_eq : ∀ d, (s.pools.get d).size = size
  lent_iff : ∀ d i, (s.pools.get d).isLent i = true ↔ ∃ w, s.held d w = some i
  exclusive : ∀ {d i w w'}, s.held d w = some i → s.held d w' = some i → w = w'

theorem valid_idle (hsize : ∀ d, (pools.get d).size = size)
    (hfree : ∀ d i, (pools.get d).isLent i = false) :
    (idle pools : Custody workers).Valid size where
  size_eq := hsize
  lent_iff d i := by simp [idle, hfree]
  exclusive h := nomatch h

/-! ## What one operation does to the holders -/

theorem handing_self {slot : Option Nat} (h : s.held d w = slot) : s.handing d w slot = s.held := by
  funext d' w'
  unfold handing
  split_ifs with hsame
  · rw [← hsame.1, ← hsame.2, h]
  · rfl

/-- A worker that held nothing holds a slot now. -/
theorem held_given_iff (free : s.held d w = none) {d' : Direction} {j : Nat} :
    (∃ w', s.handing d w (some i) d' w' = some j) ↔
      d = d' ∧ i = j ∨ ∃ w', s.held d' w' = some j := by
  unfold handing
  constructor
  · rintro ⟨w', hheld⟩
    split_ifs at hheld with hsame
    · exact .inl ⟨hsame.1, Option.some.inj hheld⟩
    · exact .inr ⟨w', hheld⟩
  · rintro (⟨rfl, rfl⟩ | ⟨w', hheld⟩)
    · exact ⟨w, if_pos ⟨rfl, rfl⟩⟩
    · refine ⟨w', (if_neg ?_).trans hheld⟩
      rintro ⟨rfl, rfl⟩
      exact nomatch free.symm.trans hheld

/-- The one holder of a slot holds it no longer. -/
theorem held_returned_iff (h : s.Valid size) (holds : s.held d w = some i) {d' : Direction}
    {j : Nat} :
    (∃ w', s.handing d w none d' w' = some j) ↔
      ¬(d = d' ∧ i = j) ∧ ∃ w', s.held d' w' = some j := by
  unfold handing
  constructor
  · rintro ⟨w', hheld⟩
    split_ifs at hheld with hsame
    refine ⟨?_, w', hheld⟩
    rintro ⟨rfl, rfl⟩
    exact hsame ⟨rfl, h.exclusive holds hheld⟩
  · rintro ⟨hother, w', hheld⟩
    refine ⟨w', (if_neg ?_).trans hheld⟩
    rintro ⟨rfl, rfl⟩
    exact hother ⟨rfl, Option.some.inj (holds.symm.trans hheld)⟩

namespace Valid

theorem lease (h : s.Valid size) (free : s.held d w = none) : (s.lease d w).Valid size := by
  rcases (s.pools.get d).lease_cases with ⟨q, heq, hsize, -, hlent⟩ |
    ⟨i, q, heq, hsize, -, hnotLent, hlent⟩
  · -- nothing was found, and the worker still holds nothing
    have hheld : (s.lease d w).held = s.held := by
      rw [Custody.lease, show (s.pools.lease d).1 = none from congrArg Prod.fst heq]
      exact handing_self free
    have hsame : ∀ d', ((s.lease d w).pools.get d').size = (s.pools.get d').size ∧
        ∀ j, ((s.lease d w).pools.get d').isLent j = (s.pools.get d').isLent j := by
      intro d'
      rw [Custody.lease, Pools.get_lease, heq]
      split_ifs with hd
      · subst hd
        exact ⟨hsize, hlent⟩
      · exact ⟨rfl, fun _ => rfl⟩
    refine ⟨fun d' => (hsame d').1.trans (h.size_eq d'), fun d' j => ?_, ?_⟩
    · rw [(hsame d').2, hheld]
      exact h.lent_iff d' j
    · rw [hheld]
      exact h.exclusive
  · have hheld : (s.lease d w).held = s.handing d w (some i) := by
      rw [Custody.lease, show (s.pools.lease d).1 = some i from congrArg Prod.fst heq]
    have hfree : ∀ w', s.held d w' ≠ some i := by
      intro w' holds
      rw [(h.lent_iff d i).mpr ⟨w', holds⟩] at hnotLent
      cases hnotLent
    refine ⟨fun d' => ?_, fun d' j => ?_, ?_⟩
    · rw [Custody.lease, Pools.get_lease, heq]
      split_ifs with hd
      · exact hsize.trans (h.size_eq d)
      · exact h.size_eq d'
    · rw [hheld, held_given_iff free, ← h.lent_iff, Custody.lease, Pools.get_lease, heq]
      by_cases hd : d = d'
      · subst hd
        by_cases hj : i = j
        · simp [hlent, hj]
        · simp [hlent, hj]
      · simp [hd]
    · intro d' j w₁ w₂ hfirst hsecond
      rw [hheld, handing] at hfirst hsecond
      split_ifs at hfirst hsecond with h₁ h₂ h₂
      · exact h₁.2.symm.trans h₂.2
      · obtain rfl := Option.some.inj hfirst
        exact absurd (h₁.1 ▸ hsecond) (hfree w₂)
      · obtain rfl := Option.some.inj hsecond
        exact absurd (h₂.1 ▸ hfirst) (hfree w₁)
      · exact h.exclusive hfirst hsecond

theorem write (h : s.Valid size) (r : Record) : (s.write d i r).Valid size where
  size_eq d' := by
    rw [Custody.write, Pools.get_write]
    split_ifs with hd
    · exact (Pool.size_write _ _ _).trans (h.size_eq d)
    · exact h.size_eq d'
  lent_iff d' j := by
    rw [← show s.held = (s.write d i r).held from rfl, ← h.lent_iff, Custody.write, Pools.get_write]
    split_ifs with hd
    · rw [Pool.isLent_write, hd]
    · rfl
  exclusive := h.exclusive

theorem release (h : s.Valid size) (holds : s.held d w = some i) :
    (s.release d w i).Valid size where
  size_eq d' := by
    rw [Custody.release, Pools.get_release]
    split_ifs with hd
    · exact (Pool.size_release _ _).trans (h.size_eq d)
    · exact h.size_eq d'
  lent_iff d' j := by
    rw [show (s.release d w i).held = s.handing d w none from rfl, held_returned_iff h holds,
      ← h.lent_iff, Custody.release, Pools.get_release]
    by_cases hd : d = d'
    · subst hd
      simp [Pool.isLent_release]
    · simp [hd]
  exclusive {d' j w₁ w₂} hfirst hsecond := by
    simp only [Custody.release, handing] at hfirst hsecond
    split_ifs at hfirst hsecond
    exact h.exclusive hfirst hsecond

theorem operation (h : s.Valid size) (step : s.Operation t) : t.Valid size := by
  cases step with
  | lease free => exact h.lease free
  | write _ r => exact h.write r
  | release holds => exact h.release holds

/-! ## There is a slot for everyone -/

/-- With as many slots as workers, not all slots are lent while a worker holds none. -/
theorem exists_free (h : s.Valid size) (henough : workers ≤ size) (free : s.held d w = none) :
    ∃ i < size, (s.pools.get d).isLent i = false := by
  by_contra hnone
  have hlent : ∀ i < size, ∃ w', s.held d w' = some i := by
    intro i hi
    rw [← h.lent_iff, ← Bool.not_eq_false]
    exact fun hfree => hnone ⟨i, hi, hfree⟩
  -- every slot is the slot of a worker other than `w`
  have hcovered : Set.SurjOn (fun w' => (s.held d w').getD 0) (Finset.univ.erase w : Finset _)
      (Finset.range size : Finset _) := by
    intro i hi
    obtain ⟨w', holds⟩ := hlent i (Finset.mem_range.mp hi)
    refine ⟨w', Finset.mem_erase.mpr ⟨?_, Finset.mem_univ w'⟩, by simp [holds]⟩
    rintro rfl
    exact nomatch free.symm.trans holds
  have hcard := Finset.card_le_card_of_surjOn _ hcovered
  rw [Finset.card_range, Finset.card_erase_of_mem (Finset.mem_univ w), Finset.card_univ,
    Fintype.card_fin] at hcard
  have hworker := w.isLt
  omega

/-- A worker that holds no slot gets one, which nobody else holds. -/
theorem lease_eq_some (h : s.Valid size) (henough : workers ≤ size) (free : s.held d w = none) :
    ∃ i < size, (s.pools.lease d).1 = some i ∧ ∀ w', s.held d w' ≠ some i := by
  rcases (s.pools.get d).lease_cases with ⟨q, heq, -, hall, -⟩ | ⟨i, q, heq, -, hi, hfree, -⟩
  · obtain ⟨i, hi, hfree⟩ := h.exists_free henough free
    rw [hall i (hi.trans_eq (h.size_eq d).symm)] at hfree
    cases hfree
  · refine ⟨i, hi.trans_eq (h.size_eq d), congrArg Prod.fst heq, fun w' holds => ?_⟩
    rw [(h.lent_iff d i).mpr ⟨w', holds⟩] at hfree
    cases hfree

end Valid

theorem Reached.valid (h : Reached pools s) (hsize : ∀ d, (pools.get d).size = size)
    (hfree : ∀ d i, (pools.get d).isLent i = false) : s.Valid size := by
  induction h with
  | idle => exact valid_idle hsize hfree
  | operation _ step ih => exact ih.operation step

end Custody

end MessageServer
