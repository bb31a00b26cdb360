import Mathlib.Data.List.Basic
import MessageServer.Pool

/-!
# Leases

Which pools there are, and which slots of a pool are lent, before and after an operation.

* `new_of_le` and `new_of_lt`: there are pools of one slot up to `mostSlots`, and no larger ones.
* `lease_cases`: a lease changes the flag of one slot that was free, or no flag at all.
* `lease_eq_none_iff`: a lease finds nothing only when every slot is lent.
* `isLent_returned`: a slot that is lent, written and given back leaves the flags as they were.
-/

namespace MessageServer.Pool

variable {p q : Pool} {i j : Nat}

theorem isLent_eq (p : Pool) (i : Nat) : p.isLent i = (p.slots[i]?.map (·.lent)).getD false := by
  unfold isLent
  cases p.slots[i]? <;> rfl

theorem exists_read? (h : i < p.size) : ∃ r, p.read? i = some r := by
  rw [read?, Array.getElem?_eq_getElem h]
  exact ⟨_, rfl⟩

/-! ## New pools -/

theorem new_of_le {size : Nat} (hpositive : 0 < size) (hmost : size ≤ mostSlots) :
    new size = .ok ⟨Array.replicate size ⟨false, Record.zero⟩, 0⟩ := by
  rw [new, if_neg (Nat.ne_of_gt hpositive), if_neg (Nat.not_lt.mpr hmost)]

theorem new_of_lt {size : Nat} (hmost : mostSlots < size) : new size = .error .tooManySlots := by
  rw [new, if_neg (Nat.ne_of_gt (Nat.zero_lt_of_lt hmost)), if_pos hmost]

/-! ## Giving back and writing -/

@[simp] theorem size_release (p : Pool) (i : Nat) : (p.release i).size = p.size :=
  Array.size_modify

@[simp] theorem size_write (p : Pool) (i : Nat) (r : Record) : (p.write i r).size = p.size :=
  Array.size_modify

theorem isLent_release (p : Pool) (i j : Nat) :
    (p.release i).isLent j = if i = j then false else p.isLent j := by
  rw [isLent_eq, isLent_eq, release, Array.getElem?_modify]
  split_ifs
  · cases p.slots[j]? <;> rfl
  · rfl

@[simp] theorem isLent_write (p : Pool) (i : Nat) (r : Record) (j : Nat) :
    (p.write i r).isLent j = p.isLent j := by
  rw [isLent_eq, isLent_eq, write, Array.getElem?_modify]
  split_ifs
  · cases p.slots[j]? <;> rfl
  · rfl

/-! ## Lending -/

/-- Every slot is looked at. -/
theorem mem_probes_iff : i ∈ p.probes ↔ i < p.size := by
  unfold probes
  rw [List.mem_map]
  constructor
  · rintro ⟨k, hk, rfl⟩
    exact Nat.mod_lt _ (Nat.zero_lt_of_lt (List.mem_range.mp hk))
  · intro hi
    have hpos : 0 < p.size := Nat.zero_lt_of_lt hi
    have hstart : p.calls.toNat % p.size < p.size := Nat.mod_lt _ hpos
    -- the slot is as many places behind the start as it takes, going round once at most
    refine ⟨(i + p.size - p.calls.toNat % p.size) % p.size,
      List.mem_range.mpr (Nat.mod_lt _ hpos), ?_⟩
    rw [Nat.add_mod_mod, Nat.add_sub_cancel' (by omega), Nat.add_mod_right, Nat.mod_eq_of_lt hi]

/-- A lease lends a slot that was free, or finds all slots lent; no other flag changes. -/
theorem lease_cases (p : Pool) :
    (∃ q, p.lease = (none, q) ∧ q.size = p.size ∧ (∀ i < p.size, p.isLent i = true) ∧
        ∀ j, q.isLent j = p.isLent j) ∨
      ∃ i q, p.lease = (some i, q) ∧ q.size = p.size ∧ i < p.size ∧ p.isLent i = false ∧
        ∀ j, q.isLent j = if i = j then true else p.isLent j := by
  unfold lease
  cases hfound : p.probes.find? fun i => !p.isLent i with
  | none =>
      refine .inl ⟨_, rfl, rfl, fun i hi => ?_, fun j => rfl⟩
      simpa using List.find?_eq_none.mp hfound i (mem_probes_iff.mpr hi)
  | some i =>
      have hi : i < p.size := mem_probes_iff.mp (List.mem_of_find?_eq_some hfound)
      have hfree : p.isLent i = false := by simpa using List.find?_some hfound
      refine .inr ⟨i, _, rfl, Array.size_modify, hi, hfree, fun j => ?_⟩
      rw [isLent_eq, isLent_eq, Array.getElem?_modify]
      split_ifs with hj
      · subst hj
        rw [Array.getElem?_eq_getElem hi]
        rfl
      · rfl

theorem lease_eq_none_iff : p.lease.1 = none ↔ ∀ i < p.size, p.isLent i = true := by
  rcases p.lease_cases with ⟨q, heq, -, hall, -⟩ | ⟨i, q, heq, -, hi, hfree, -⟩
  · rw [heq]
    exact ⟨fun _ => hall, fun _ => rfl⟩
  · rw [heq]
    refine ⟨fun hnone => (Option.some_ne_none i hnone).elim, fun hall => ?_⟩
    rw [hall i hi] at hfree
    cases hfree

theorem isLent_of_lease_none (h : p.lease = (none, q)) : q.isLent j = p.isLent j := by
  rcases p.lease_cases with ⟨q', heq, -, -, hsame⟩ | ⟨i, q', heq, -⟩
  · rw [h] at heq
    obtain rfl := (Prod.mk.inj heq).2
    exact hsame j
  · rw [h] at heq
    cases heq

/-- A slot that was lent, and is written and given back, is as free as it was. -/
theorem isLent_returned (h : p.lease = (some i, q)) (r : Record) :
    ((q.write i r).release i).isLent j = p.isLent j := by
  rcases p.lease_cases with ⟨q', heq, -⟩ | ⟨i', q', heq, -, -, hfree, hlent⟩
  · rw [h] at heq
    cases heq
  · rw [h] at heq
    obtain ⟨hi, rfl⟩ := Prod.mk.inj heq
    obtain rfl := Option.some.inj hi
    rw [isLent_release, isLent_write, hlent]
    split_ifs with hj
    · rw [← hj, hfree]
    · rfl

theorem size_lease (p : Pool) : p.lease.2.size = p.size := by
  rcases p.lease_cases with ⟨q, heq, hsize, -⟩ | ⟨i, q, heq, hsize, -⟩
  · rw [heq, hsize]
  · rw [heq, hsize]

end MessageServer.Pool
