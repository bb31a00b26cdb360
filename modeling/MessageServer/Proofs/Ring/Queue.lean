import MessageServer.Proofs.Ring.Contents

/-!
# A ring is a bounded queue

`boundedQueue` is a queue of at most `capacity` values as a list: a push appends, a pop takes the
front, a batch takes the front part of the list, as long as the buffer allows.  It knows nothing
of slots and cursors.

`ring_refines_queue` is the main statement.  Whatever is asked of an empty ring of `n` slots, `n`
a power of two, it answers like the empty queue of `n - 1` values, and afterwards shows what the
queue shows (`Ring.Shows`).  The calls may come in any order and number, so this holds after every
single one of them.  A batch pops like as many single calls and stops at the first slot that yields
nothing, so its answer also says that each of its reads found a value.
-/

namespace MessageServer

variable {α : Type} {n : Nat}

/-- What is asked of a ring, through either of its two ends. -/
inductive RingCall (α : Type) where
  | tryPush (a : α)
  | tryPop
  | popBatch (buffer : List α)
  deriving DecidableEq

/-- The answer; a batch answers with the number of places filled and the whole buffer. -/
inductive RingAnswer (α : Type) where
  | pushed (accepted : Bool)
  | popped (value : Option α)
  | batch (count : Nat) (buffer : List α)
  deriving DecidableEq

/-- Answers the calls one after the other. -/
def answerAll {σ κ β : Type} (answer : σ → κ → β × σ) : σ → List κ → List β × σ
  | s, [] => ([], s)
  | s, call :: calls =>
    let (first, s) := answer s call
    let (rest, s) := answerAll answer s calls
    (first :: rest, s)

/-- How a ring answers. -/
def Ring.answer (r : Ring α n) : RingCall α → RingAnswer α × Ring α n
  | .tryPush a =>
    let (accepted, r) := r.tryPush a
    (.pushed accepted, r)
  | .tryPop =>
    let (value, r) := r.tryPop
    (.popped value, r)
  | .popBatch buffer =>
    let (count, filled, r) := r.popBatch buffer
    (.batch count filled, r)

/-- How a queue of at most `capacity` values answers. -/
def boundedQueue (capacity : Nat) (q : List α) : RingCall α → RingAnswer α × List α
  | .tryPush a => if q.length < capacity then (.pushed true, q ++ [a]) else (.pushed false, q)
  | .tryPop => (.popped q.head?, q.tail)
  | .popBatch buffer =>
    let count := min q.length buffer.length
    (.batch count (q.take count ++ buffer.drop count), q.drop count)

namespace Ring

/-- What can be seen of a ring that stands for `q`.  The two ends share the cursors, so that it
is the same from both. -/
structure Shows (r : Ring α n) (q : List α) : Prop where
  toList_eq : r.toList = q
  size_eq : r.size = q.length
  isEmpty_iff : r.isEmpty = true ↔ q.length = 0
  isFull_iff : r.isFull = true ↔ q.length = n - 1
  /-- The subtraction in `remaining` does not go below zero. -/
  size_le : r.size ≤ r.capacity
  remaining_eq : r.remaining = n - 1 - q.length
  head_lt : r.head < n
  tail_lt : r.tail < n
  /-- The slots that were written and not read since. -/
  written_iff : ∀ i < n, (r.slot i).isSome ↔ ∃ j < q.length, (r.head + j) % n = i
  /-- The slot that the next pop reads is one of them. -/
  head_written : r.head ≠ r.tail → ∃ a, r.slot r.head = some a ∧ r.tryPop.1 = some a

theorem Holds.shows {r : Ring α n} {q : List α} (h : r.Holds q) (hn : n.isPowerOfTwo) :
    r.Shows q where
  toList_eq := h.toList_eq hn
  size_eq := h.size_eq hn
  isEmpty_iff := h.isEmpty_iff.trans List.length_eq_zero_iff.symm
  isFull_iff := h.isFull_iff hn
  size_le := h.size_le_capacity hn
  remaining_eq := h.remaining_eq hn
  head_lt := h.head_lt
  tail_lt := h.tail_lt
  written_iff _ hi := h.isSome_slot_iff hi
  head_written hne := by
    cases q with
    | nil => exact absurd (h.head_eq_tail_iff.mpr rfl) hne
    | cons a q => exact ⟨a, h.slot_head, (h.tryPop_cons hn).1⟩

/-- One call: the ring and the queue answer alike and stay related. -/
theorem Holds.answer {r : Ring α n} {q : List α} (h : r.Holds q) (hn : n.isPowerOfTwo)
    (call : RingCall α) :
    (r.answer call).1 = (boundedQueue (n - 1) q call).1 ∧
      (r.answer call).2.Holds (boundedQueue (n - 1) q call).2 := by
  cases call with
  | tryPush a =>
      by_cases hroom : q.length < n - 1
      · obtain ⟨haccepted, hafter⟩ := h.tryPush_of_lt hn hroom a
        simp only [Ring.answer, boundedQueue, if_pos hroom]
        exact ⟨congrArg RingAnswer.pushed haccepted, hafter⟩
      · have hfull : q.length = n - 1 := by
          have := h.length_lt
          omega
        simp only [Ring.answer, boundedQueue, if_neg hroom, h.tryPush_of_full hn hfull a]
        exact ⟨trivial, h⟩
  | tryPop =>
      cases q with
      | nil =>
          simp only [Ring.answer, boundedQueue, h.tryPop_nil]
          exact ⟨rfl, h⟩
      | cons a q =>
          obtain ⟨hpopped, hafter⟩ := h.tryPop_cons hn
          exact ⟨congrArg RingAnswer.popped hpopped, hafter⟩
  | popBatch buffer =>
      obtain ⟨hcount, hfilled, hafter⟩ := h.popBatch hn buffer
      exact ⟨congrArg₂ RingAnswer.batch hcount hfilled, hafter⟩

/-- Any number of calls. -/
theorem Holds.answerAll {r : Ring α n} {q : List α} (h : r.Holds q) (hn : n.isPowerOfTwo)
    (calls : List (RingCall α)) :
    (answerAll Ring.answer r calls).1 = (answerAll (boundedQueue (n - 1)) q calls).1 ∧
      (answerAll Ring.answer r calls).2.Holds
        (answerAll (boundedQueue (n - 1)) q calls).2 := by
  induction calls generalizing r q with
  | nil => exact ⟨rfl, h⟩
  | cons call calls ih =>
      obtain ⟨hanswer, hafter⟩ := h.answer hn call
      obtain ⟨hanswers, hend⟩ := ih hafter
      exact ⟨congrArg₂ List.cons hanswer hanswers, hend⟩

/-- A ring of `n` slots, `n` a power of two, is a queue of at most `n - 1` values. -/
theorem ring_refines_queue (hn : n.isPowerOfTwo) (hsize : 2 ≤ n) (calls : List (RingCall α)) :
    (answerAll Ring.answer (empty α n) calls).1 = (answerAll (boundedQueue (n - 1)) [] calls).1 ∧
      (answerAll Ring.answer (empty α n) calls).2.Shows
        (answerAll (boundedQueue (n - 1)) [] calls).2 := by
  obtain ⟨hanswers, hend⟩ := (empty_holds (α := α) (by omega : 0 < n)).answerAll hn calls
  exact ⟨hanswers, hend.shows hn⟩

/-- Four slots: a refused push, and a batch that runs over the last slot to the first. -/
theorem ring_of_four_wraps :
    Nat.isPowerOfTwo 4 ∧ 2 ≤ 4 ∧
      (answerAll Ring.answer (empty Nat 4)
        [.tryPush 1, .tryPush 2, .tryPush 3, .tryPush 4, .tryPop, .tryPop, .tryPush 5, .tryPush 6,
          .popBatch [0, 0, 0, 0, 0], .tryPop]).1 =
        [.pushed true, .pushed true, .pushed true, .pushed false, .popped (some 1),
          .popped (some 2), .pushed true, .pushed true, .batch 3 [3, 5, 6, 0, 0], .popped none] :=
  ⟨⟨2, rfl⟩, by decide, (ring_refines_queue ⟨2, rfl⟩ (by decide) _).1⟩

end Ring

end MessageServer
