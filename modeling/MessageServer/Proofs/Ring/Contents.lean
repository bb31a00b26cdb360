import Mathlib.Data.List.Basic
import Mathlib.Data.Nat.ModEq
import MessageServer.Ring

/-!
# What a ring holds

`Ring.Holds r q` is the abstraction relation between a ring and the queue it stands for: counted
from the head, modulo the number of slots, the slots hold the values of `q` in order and then
nothing, and the tail stands right behind the last of them.  A ring of `n` slots holds fewer than
`n` values, so that the two cursors determine the length of `q`.

* The operations on the ring are read off `q`: `Holds.tryPush_of_lt`, `Holds.tryPush_of_full`,
  `Holds.tryPop_nil`, `Holds.tryPop_cons` and `Holds.popBatch`.
* So are its observers: `Holds.size_eq`, `Holds.isEmpty_iff`, `Holds.isFull_iff` and
  `Holds.toList_eq`.

The cursors wrap by a mask.  `mask_eq_mod` replaces it by the remainder, and
`offset_injective` is the one fact about remainders that keeps a written slot apart from all
others.
-/

namespace MessageServer.Ring

variable {α : Type} {n : Nat}

/-! ## Cursors -/

theorem mask_eq_mod (hn : n.isPowerOfTwo) (cursor : Nat) : mask n cursor = cursor % n := by
  obtain ⟨k, rfl⟩ := hn
  exact Nat.and_two_pow_sub_one_eq_mod cursor k

/-- Within one turn, different offsets lead to different slots. -/
theorem offset_injective {start i j : Nat} (hi : i < n) (hj : j < n)
    (h : (start + i) % n = (start + j) % n) : i = j := by
  have hmod : i ≡ j [MOD n] := Nat.ModEq.add_left_cancel' start h
  exact hmod.eq_of_lt_of_lt hi hj

/-- Every slot is reached from every start within one turn. -/
theorem exists_offset {start i : Nat} (hs : start < n) (hi : i < n) :
    ∃ j < n, (start + j) % n = i := by
  rcases Nat.lt_or_ge i start with hlt | hge
  · refine ⟨i + n - start, by omega, ?_⟩
    rw [show start + (i + n - start) = i + n by omega, Nat.add_mod_right, Nat.mod_eq_of_lt hi]
  · refine ⟨i - start, by omega, ?_⟩
    rw [show start + (i - start) = i by omega, Nat.mod_eq_of_lt hi]

/-- A ring with one slot overwritten, seen through `slot`. -/
theorem slot_setIfInBounds (r : Ring α n) (head tail : Nat) {i : Nat} (hi : i < n)
    (a : Option α) (j : Nat) :
    slot ⟨r.slots.setIfInBounds i a, head, tail⟩ j = if i = j then a else r.slot j := by
  unfold slot
  rw [Vector.getElem?_setIfInBounds, if_pos hi]
  split_ifs with hij
  · rfl
  · rfl

/-- The values of a list, picked one by one. -/
theorem filterMap_range_getElem? (q : List α) :
    (List.range q.length).filterMap (fun i => q[i]?) = q := by
  induction q with
  | nil => rfl
  | cons a q ih =>
      rw [List.length_cons, List.range_succ_eq_map]
      simpa [List.filterMap_map, Function.comp_def] using ih

/-! ## The abstraction relation -/

/-- The slots from the head on hold the values of `q`, and the others nothing. -/
structure Holds (r : Ring α n) (q : List α) : Prop where
  head_lt : r.head < n
  length_lt : q.length < n
  tail_eq : r.tail = (r.head + q.length) % n
  slot_eq : ∀ i < n, r.slot ((r.head + i) % n) = q[i]?

theorem empty_holds (hn : 0 < n) : (empty α n).Holds [] where
  head_lt := hn
  length_lt := hn
  tail_eq := (Nat.mod_eq_of_lt hn).symm
  slot_eq i _ := by
    have hi : (0 + i) % n < n := Nat.mod_lt _ hn
    rw [slot, empty, Vector.getElem?_replicate_of_lt hi, List.getElem?_nil]
    rfl

namespace Holds

variable {r : Ring α n} {q : List α}

theorem pos (h : r.Holds q) : 0 < n :=
  Nat.zero_lt_of_lt h.head_lt

theorem tail_lt (h : r.Holds q) : r.tail < n := by
  rw [h.tail_eq]
  exact Nat.mod_lt _ h.pos

/-- The value at the head. -/
theorem slot_head (h : r.Holds q) : r.slot r.head = q[0]? := by
  simpa [Nat.mod_eq_of_lt h.head_lt] using h.slot_eq 0 h.pos

/-- A slot holds a value exactly when it is one of the first `q.length` slots from the head on. -/
theorem isSome_slot_iff (h : r.Holds q) {i : Nat} (hi : i < n) :
    (r.slot i).isSome ↔ ∃ j < q.length, (r.head + j) % n = i := by
  constructor
  · intro hsome
    obtain ⟨j, hj, rfl⟩ := exists_offset h.head_lt hi
    rw [h.slot_eq j hj] at hsome
    exact ⟨j, by simpa using hsome, rfl⟩
  · rintro ⟨j, hj, rfl⟩
    rw [h.slot_eq j (hj.trans h.length_lt)]
    simpa using hj

/-! ### Observers -/

/-- The cursors are equal only when nothing is queued. -/
theorem head_eq_tail_iff (h : r.Holds q) : r.head = r.tail ↔ q = [] := by
  rw [h.tail_eq]
  constructor
  · intro heq
    have hzero : 0 = q.length := offset_injective h.pos h.length_lt <| by
      rw [Nat.add_zero, Nat.mod_eq_of_lt h.head_lt]
      exact heq
    exact List.length_eq_zero_iff.mp hzero.symm
  · rintro rfl
    exact (Nat.mod_eq_of_lt h.head_lt).symm

/-- The slot behind the tail is the head only when one slot is left. -/
theorem next_tail_eq_head_iff (h : r.Holds q) :
    (r.tail + 1) % n = r.head ↔ q.length = n - 1 := by
  have hpos := h.pos
  have hlt := h.length_lt
  rw [h.tail_eq, Nat.mod_add_mod, Nat.add_assoc]
  constructor
  · intro heq
    by_contra hne
    have hzero : q.length + 1 = 0 := offset_injective (by omega) hpos <| by
      rw [heq, Nat.add_zero, Nat.mod_eq_of_lt h.head_lt]
    omega
  · intro hfull
    rw [hfull, Nat.sub_add_cancel hpos, Nat.add_mod_right, Nat.mod_eq_of_lt h.head_lt]

theorem size_eq (h : r.Holds q) (hn : n.isPowerOfTwo) : r.size = q.length := by
  have hhead := h.head_lt
  have hlt := h.length_lt
  rw [size, mask_eq_mod hn, h.tail_eq]
  -- the tail is behind the head, or it has wrapped and is in front of it
  rcases Nat.lt_or_ge (r.head + q.length) n with hflat | hwrap
  · rw [Nat.mod_eq_of_lt hflat, show r.head + q.length + n - r.head = q.length + n by omega,
      Nat.add_mod_right, Nat.mod_eq_of_lt hlt]
  · have hback : r.head + q.length - n < n := by omega
    rw [Nat.mod_eq_sub_mod hwrap, Nat.mod_eq_of_lt hback,
      show r.head + q.length - n + n - r.head = q.length by omega, Nat.mod_eq_of_lt hlt]

theorem isEmpty_iff (h : r.Holds q) : r.isEmpty = true ↔ q = [] := by
  rw [isEmpty, beq_iff_eq]
  exact h.head_eq_tail_iff

theorem isFull_iff (h : r.Holds q) (hn : n.isPowerOfTwo) :
    r.isFull = true ↔ q.length = n - 1 := by
  rw [isFull, beq_iff_eq, mask_eq_mod hn]
  exact h.next_tail_eq_head_iff

theorem size_le_capacity (h : r.Holds q) (hn : n.isPowerOfTwo) : r.size ≤ r.capacity := by
  rw [h.size_eq hn]
  exact Nat.le_sub_one_of_lt h.length_lt

theorem remaining_eq (h : r.Holds q) (hn : n.isPowerOfTwo) :
    r.remaining = n - 1 - q.length := by
  rw [remaining, h.size_eq hn, capacity]

theorem toList_eq (h : r.Holds q) (hn : n.isPowerOfTwo) : r.toList = q := by
  have hslots : ∀ i ∈ List.range q.length, r.slot (mask n (r.head + i)) = q[i]? := by
    intro i hi
    rw [mask_eq_mod hn]
    exact h.slot_eq i ((List.mem_range.mp hi).trans h.length_lt)
  rw [toList, h.size_eq hn, List.filterMap_congr hslots]
  exact filterMap_range_getElem? q

/-! ### Operations -/

/-- The slot of offset `i`, behind a head that has moved on by one. -/
theorem next_offset (start i : Nat) : ((start + 1) % n + i) % n = (start + (i + 1)) % n := by
  rw [Nat.mod_add_mod, Nat.add_assoc, Nat.add_comm 1 i]

theorem tryPush_of_full (h : r.Holds q) (hn : n.isPowerOfTwo) (hfull : q.length = n - 1) (a : α) :
    r.tryPush a = (false, r) := by
  simp only [tryPush, mask_eq_mod hn, if_pos (h.next_tail_eq_head_iff.mpr hfull)]

theorem tryPush_of_lt (h : r.Holds q) (hn : n.isPowerOfTwo) (hroom : q.length < n - 1) (a : α) :
    (r.tryPush a).1 = true ∧ (r.tryPush a).2.Holds (q ++ [a]) := by
  have hnext : (r.tail + 1) % n ≠ r.head := by
    rw [ne_eq, h.next_tail_eq_head_iff]
    exact hroom.ne
  simp only [tryPush, mask_eq_mod hn, if_neg hnext, true_and]
  refine ⟨h.head_lt, ?_, ?_, fun i hi => ?_⟩
  · rw [List.length_append, List.length_singleton]
    omega
  · rw [List.length_append, List.length_singleton, h.tail_eq, Nat.mod_add_mod, Nat.add_assoc]
  · -- only the slot of offset `q.length` has been written
    rw [slot_setIfInBounds r _ _ h.tail_lt, h.slot_eq i hi, h.tail_eq]
    by_cases hoffset : q.length = i
    · subst hoffset
      simp
    · have hne : (r.head + q.length) % n ≠ (r.head + i) % n :=
        fun heq => hoffset (offset_injective h.length_lt hi heq)
      rw [if_neg hne]
      rcases Nat.lt_or_ge i q.length with hlt | hge
      · rw [List.getElem?_append_left hlt]
      · rw [List.getElem?_eq_none hge, List.getElem?_eq_none]
        rw [List.length_append, List.length_singleton]
        omega

theorem tryPop_nil (h : r.Holds []) : r.tryPop = (none, r) := by
  rw [tryPop, if_pos (h.head_eq_tail_iff.mpr rfl)]

theorem tryPop_cons {a : α} (h : r.Holds (a :: q)) (hn : n.isPowerOfTwo) :
    r.tryPop.1 = some a ∧ r.tryPop.2.Holds q := by
  have hne : r.head ≠ r.tail := by
    rw [ne_eq, h.head_eq_tail_iff]
    exact List.cons_ne_nil a q
  have hlength := h.length_lt
  rw [List.length_cons] at hlength
  simp only [tryPop, if_neg hne, mask_eq_mod hn]
  refine ⟨h.slot_head, Nat.mod_lt _ h.pos, by omega, ?_, fun i hi => ?_⟩
  · rw [h.tail_eq, next_offset, List.length_cons]
  · rw [next_offset, slot_setIfInBounds r _ _ h.head_lt]
    -- the slot just read is the one behind all others
    rcases Nat.lt_or_ge (i + 1) n with hlt | hge
    · have hskip : r.head ≠ (r.head + (i + 1)) % n := by
        intro heq
        have hsame : (r.head + 0) % n = (r.head + (i + 1)) % n := by
          rw [Nat.add_zero, Nat.mod_eq_of_lt h.head_lt]
          exact heq
        exact absurd (offset_injective h.pos hlt hsame) (Nat.succ_ne_zero i).symm
      rw [if_neg hskip, h.slot_eq (i + 1) hlt, List.getElem?_cons_succ]
    · have hturn : (r.head + (i + 1)) % n = r.head := by
        rw [show i + 1 = n by omega, Nat.add_mod_right, Nat.mod_eq_of_lt h.head_lt]
      rw [if_pos hturn.symm, List.getElem?_eq_none (by omega)]

/-- A batch is as many pops as there are values and places. -/
theorem popBatch (h : r.Holds q) (hn : n.isPowerOfTwo) (buffer : List α) :
    (r.popBatch buffer).1 = min q.length buffer.length ∧
      (r.popBatch buffer).2.1 =
        q.take (min q.length buffer.length) ++ buffer.drop (min q.length buffer.length) ∧
      (r.popBatch buffer).2.2.Holds (q.drop (min q.length buffer.length)) := by
  induction buffer generalizing r q with
  | nil => simpa [Ring.popBatch] using h
  | cons old rest ih =>
      cases q with
      | nil => simpa [Ring.popBatch, h.tryPop_nil] using h
      | cons a q =>
          obtain ⟨hpopped, hleft⟩ := h.tryPop_cons hn
          have hpop : r.tryPop = (some a, r.tryPop.2) := by rw [← hpopped]
          obtain ⟨hcount, hfilled, hrest⟩ := ih hleft
          simp only [Ring.popBatch, List.length_cons, Nat.add_min_add_right, List.take_succ_cons,
            List.drop_succ_cons, List.cons_append]
          rw [hpop]
          exact ⟨congrArg (· + 1) hcount, congrArg (a :: ·) hfilled, hrest⟩

end Holds

end MessageServer.Ring
