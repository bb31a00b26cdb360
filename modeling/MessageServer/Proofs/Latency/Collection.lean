import MessageServer.Latency.Samples
import MessageServer.Proofs.Ring.Contents

/-!
# Collecting the samples

The collection of one ring is a loop: pop a batch into a buffer, record what was popped, and go on
unless the batch was short.  `Sweeps` is this loop without a bound on its passes, and with one
buffer for all of them, so that a pass finds the samples of the pass before it in its buffer.
`Collects` goes through all rings in turn.

* `exists_collects`: the loops end, whatever the rings hold.  A batch that is not short takes as
  many samples as the buffer has places, so that less is left for the next one.
* `Collects.moved_eq`: they move everything, in the order in which it was pushed, and record what
  they move and nothing else; in particular nothing that an earlier pass left in the buffer.
* `Latencies.empties`: `Latencies.collect`, which takes a new buffer each time and bounds the
  passes, comes to the same.
-/

namespace MessageServer

variable {n : Nat}

/-! ## Rings as they come -/

namespace Ring

variable {α : Type} {r : Ring α n}

/-- The ring stands for the queue that it shows. -/
def Sound (r : Ring α n) : Prop :=
  r.Holds r.toList

theorem Holds.sound {q : List α} (h : r.Holds q) (hn : n.isPowerOfTwo) : r.Sound := by
  rwa [Sound, h.toList_eq hn]

/-- A push: the value is queued unless the ring is full. -/
theorem Sound.tryPush (h : r.Sound) (hn : n.isPowerOfTwo) (a : α) :
    (r.tryPush a).2.Sound ∧
      (r.tryPush a).2.toList = r.toList ++ (if (r.tryPush a).1 then [a] else []) ∧
      ((r.tryPush a).1 = false ↔ r.size = n - 1) := by
  have hlt : r.toList.length < n := h.length_lt
  by_cases hroom : r.toList.length < n - 1
  · obtain ⟨haccepted, hafter⟩ := h.tryPush_of_lt hn hroom a
    rw [haccepted, hafter.toList_eq hn, h.size_eq hn]
    exact ⟨hafter.sound hn, rfl, by simp [hroom.ne]⟩
  · have hfull : r.toList.length = n - 1 := by omega
    rw [h.tryPush_of_full hn hfull a, h.size_eq hn]
    exact ⟨h, by simp, by simp [hfull]⟩

/-- What a buffer held before makes no difference to how much is popped, and to the ring. -/
theorem popBatch_congr (r : Ring α n) {buffer buffer' : List α}
    (hlength : buffer.length = buffer'.length) :
    (r.popBatch buffer).1 = (r.popBatch buffer').1 ∧
      (r.popBatch buffer).2.2 = (r.popBatch buffer').2.2 := by
  induction buffer generalizing r buffer' with
  | nil =>
      obtain rfl := List.length_eq_zero_iff.mp hlength.symm
      exact ⟨rfl, rfl⟩
  | cons old rest ih =>
      cases buffer' with
      | nil => cases hlength
      | cons old' rest' =>
          rcases hpop : r.tryPop with ⟨_ | a, after⟩
          · simp [popBatch, hpop]
          · obtain ⟨hcount, hring⟩ := ih after (Nat.succ.inj hlength)
            simp [popBatch, hpop, hcount, hring]

/-- A batch in full: what was popped is in front of what the buffer held before. -/
theorem Holds.batch {q : List α} (h : r.Holds q) (hn : n.isPowerOfTwo) {buffer filled : List α}
    {count : Nat} {after : Ring α n} (hbatch : r.popBatch buffer = (count, filled, after)) :
    count = min q.length buffer.length ∧ filled.take count = q.take count ∧
      filled.length = buffer.length ∧ after.Holds (q.drop count) := by
  obtain ⟨hcount, hfilled, hafter⟩ := h.popBatch hn buffer
  rw [hbatch] at hcount hfilled hafter
  obtain rfl : count = min q.length buffer.length := hcount
  obtain rfl : filled = _ := hfilled
  have hpopped : (q.take (min q.length buffer.length)).length = min q.length buffer.length := by
    rw [List.length_take]
    omega
  refine ⟨rfl, List.take_left' hpopped, ?_, hafter⟩
  rw [List.length_append, hpopped, List.length_drop]
  omega

end Ring

/-! ## The loops -/

/-- What the collection works with: the buffer, and the histogram. -/
structure Gathering where
  scratch : List UInt64
  histogram : Histogram

namespace Gathering

/-- A batch has been popped into the buffer, and its samples are recorded. -/
def take (g : Gathering) (count : Nat) (filled : List UInt64) : Gathering :=
  ⟨filled, g.histogram.recordAll (filled.take count)⟩

end Gathering

/-- The loop over one ring: the samples it moves, and what it leaves. -/
inductive Sweeps : Ring UInt64 n → Gathering → List UInt64 → Ring UInt64 n → Gathering → Prop where
  | last {ring after : Ring UInt64 n} {g : Gathering} {count : Nat} {filled : List UInt64}
      (batch : ring.popBatch g.scratch = (count, filled, after))
      (short : count < g.scratch.length) :
      Sweeps ring g (filled.take count) after (g.take count filled)
  | more {ring after ring' : Ring UInt64 n} {g g' : Gathering} {count : Nat}
      {filled moved : List UInt64} (batch : ring.popBatch g.scratch = (count, filled, after))
      (full : ¬count < g.scratch.length)
      (later : Sweeps after (g.take count filled) moved ring' g') :
      Sweeps ring g (filled.take count ++ moved) ring' g'

/-- The loop over all rings. -/
inductive Collects : List (Ring UInt64 n) → Gathering → List (List UInt64) →
    List (Ring UInt64 n) → Gathering → Prop where
  | done {g : Gathering} : Collects [] g [] [] g
  | next {ring ring' : Ring UInt64 n} {rings rings' : List (Ring UInt64 n)} {g g' g'' : Gathering}
      {moved : List UInt64} {rest : List (List UInt64)} (sweep : Sweeps ring g moved ring' g')
      (later : Collects rings g' rest rings' g'') :
      Collects (ring :: rings) g (moved :: rest) (ring' :: rings') g''

namespace Histogram

theorem recordAll_append (h : Histogram) (vs ws : List UInt64) :
    h.recordAll (vs ++ ws) = (h.recordAll vs).recordAll ws :=
  List.foldl_append

theorem count_recordAll (h : Histogram) (vs : List UInt64) :
    (h.recordAll vs).count = h.count + vs.length := by
  induction vs generalizing h with
  | nil => rfl
  | cons v vs ih =>
      calc (h.recordAll (v :: vs)).count
          = (h.record v).count + vs.length := ih (h.record v)
        _ = h.count + (v :: vs).length := by rw [record, List.length_cons, Nat.add_right_comm]; rfl

end Histogram

/-! ## One ring -/

section Sweep

variable {ring ring' : Ring UInt64 n} {g g' : Gathering} {moved queue : List UInt64}

/-- A sweep moves the whole queue in its order, and records it. -/
theorem Sweeps.moved_eq (h : Sweeps ring g moved ring' g') (hn : n.isPowerOfTwo)
    (hring : ring.Holds queue) :
    moved = queue ∧ ring'.Holds [] ∧ g'.histogram = g.histogram.recordAll queue ∧
      g'.scratch.length = g.scratch.length := by
  induction h generalizing queue with
  | @last ring after g count filled batch short =>
      obtain ⟨hcount, hpopped, hlength, hafter⟩ := hring.batch hn batch
      -- a short batch has emptied the ring
      have hall : queue.length ≤ count := by omega
      rw [List.drop_of_length_le hall] at hafter
      rw [Gathering.take, hpopped, List.take_of_length_le hall]
      exact ⟨rfl, hafter, rfl, hlength⟩
  | @more ring after ring' g g' count filled moved batch full _ ih =>
      obtain ⟨-, hpopped, hlength, hafter⟩ := hring.batch hn batch
      obtain ⟨rfl, hempty, hhistogram, hscratch⟩ := ih hafter
      refine ⟨?_, hempty, ?_, hscratch.trans hlength⟩
      · rw [hpopped, List.take_append_drop]
      · rw [hhistogram, Gathering.take, hpopped, ← Histogram.recordAll_append,
          List.take_append_drop]

/-- The loop ends: each pass that is not the last takes something. -/
theorem exists_sweeps (hn : n.isPowerOfTwo) (hring : ring.Holds queue)
    (hscratch : 0 < g.scratch.length) : ∃ moved ring' g', Sweeps ring g moved ring' g' := by
  induction hsize : queue.length using Nat.strong_induction_on generalizing ring g queue with
  | _ size ih =>
      rcases hbatch : ring.popBatch g.scratch with ⟨count, filled, after⟩
      obtain ⟨hcount, -, hlength, hafter⟩ := hring.batch hn hbatch
      by_cases hshort : count < g.scratch.length
      · exact ⟨_, _, _, .last hbatch hshort⟩
      · have hless : (queue.drop count).length < size := by
          rw [List.length_drop]
          omega
        obtain ⟨moved, ring', g', hlater⟩ :=
          ih _ hless (g := g.take count filled) hafter (by rwa [Gathering.take, hlength]) rfl
        exact ⟨_, _, _, .more hbatch hshort hlater⟩

/-- A pass of the bounded loop, which has a new buffer, comes to the same as one with any other. -/
theorem collectRing_succ {after : Ring UInt64 n} {count : Nat} {filled : List UInt64}
    (hn : n.isPowerOfTwo) (hring : ring.Holds queue) (hscratch : g.scratch.length = scratchSize)
    (batch : ring.popBatch g.scratch = (count, filled, after)) (passes : Nat) :
    Latencies.collectRing (passes + 1) ring g.histogram =
      if count < scratchSize then (after, (g.take count filled).histogram)
      else Latencies.collectRing passes after (g.take count filled).histogram := by
  have hlength : g.scratch.length = (List.replicate scratchSize (0 : UInt64)).length := by
    rw [hscratch, List.length_replicate]
  obtain ⟨hcount, hafter⟩ := ring.popBatch_congr hlength
  rcases hnew : ring.popBatch (List.replicate scratchSize 0) with ⟨count', filled', after'⟩
  rw [batch, hnew] at hcount hafter
  obtain rfl : count = count' := hcount
  obtain rfl : after = after' := hafter
  have hsame : filled'.take count = filled.take count :=
    (hring.batch hn hnew).2.1.trans (hring.batch hn batch).2.1.symm
  rw [Latencies.collectRing, hnew]
  dsimp only
  rw [hsame]
  rfl

/-- With passes to spare, the bounded loop is the same. -/
theorem Sweeps.collectRing_eq (h : Sweeps ring g moved ring' g') (hn : n.isPowerOfTwo)
    (hring : ring.Holds queue) (hscratch : g.scratch.length = scratchSize) {passes : Nat}
    (hpasses : queue.length < passes * scratchSize) :
    Latencies.collectRing passes ring g.histogram = (ring', g'.histogram) := by
  induction h generalizing queue passes with
  | @last ring after g count filled batch short =>
      cases passes with
      | zero => omega
      | succ passes => rw [collectRing_succ hn hring hscratch batch, if_pos (hscratch ▸ short)]
  | @more ring after ring' g g' count filled moved batch full _ ih =>
      cases passes with
      | zero => omega
      | succ passes =>
          obtain ⟨hcount, -, hlength, hafter⟩ := hring.batch hn batch
          have hfewer : (queue.drop count).length < passes * scratchSize := by
            rw [List.length_drop]
            rw [Nat.succ_mul] at hpasses
            omega
          rw [collectRing_succ hn hring hscratch batch, if_neg (hscratch ▸ full)]
          exact ih hafter (hlength.trans hscratch) hfewer

end Sweep

/-! ## All rings -/

section Collection

variable {rings rings' : List (Ring UInt64 n)} {g g' : Gathering} {moved : List (List UInt64)}

/-- What the loops move, what they leave, and what they record. -/
theorem Collects.moved_eq (h : Collects rings g moved rings' g') (hn : n.isPowerOfTwo)
    (hrings : ∀ ring ∈ rings, ring.Sound) :
    moved = rings.map Ring.toList ∧ (∀ ring ∈ rings', ring.Holds []) ∧
      g'.histogram = g.histogram.recordAll moved.flatten ∧
      g'.scratch.length = g.scratch.length := by
  induction h with
  | done => exact ⟨rfl, nofun, rfl, rfl⟩
  | next sweep _ ih =>
      obtain ⟨hfirst, hothers⟩ := List.forall_mem_cons.mp hrings
      obtain ⟨rfl, hempty, hhistogram, hscratch⟩ := sweep.moved_eq hn hfirst
      obtain ⟨rfl, hempties, hhistogram', hscratch'⟩ := ih hothers
      refine ⟨rfl, List.forall_mem_cons.mpr ⟨hempty, hempties⟩, ?_, hscratch'.trans hscratch⟩
      rw [hhistogram', hhistogram, List.flatten_cons, Histogram.recordAll_append]

theorem Collects.length_eq (h : Collects rings g moved rings' g') :
    rings'.length = rings.length := by
  induction h with
  | done => rfl
  | next _ _ ih => rw [List.length_cons, List.length_cons, ih]

/-- The loops end, whatever the rings hold. -/
theorem exists_collects (hn : n.isPowerOfTwo) (hrings : ∀ ring ∈ rings, ring.Sound)
    (hscratch : 0 < g.scratch.length) : ∃ moved rings' g', Collects rings g moved rings' g' := by
  induction rings generalizing g with
  | nil => exact ⟨_, _, _, .done⟩
  | cons ring rings ih =>
      obtain ⟨hfirst, hothers⟩ := List.forall_mem_cons.mp hrings
      obtain ⟨_, _, g', hsweep⟩ := exists_sweeps hn hfirst hscratch
      have hlength := (hsweep.moved_eq hn hfirst).2.2.2
      obtain ⟨_, _, _, hlater⟩ := ih hothers (g := g') (by rwa [hlength])
      exact ⟨_, _, _, .next hsweep hlater⟩

theorem Collects.collectRings_eq (h : Collects rings g moved rings' g') (hn : n.isPowerOfTwo)
    (hrings : ∀ ring ∈ rings, ring.Sound) (hscratch : g.scratch.length = scratchSize) :
    Latencies.collectRings rings g.histogram = (rings', g'.histogram) := by
  induction h with
  | done => rfl
  | @next ring ring' rings rings' g g' g'' moved rest sweep _ ih =>
      obtain ⟨hfirst, hothers⟩ := List.forall_mem_cons.mp hrings
      have hlength := (sweep.moved_eq hn hfirst).2.2.2
      have henough : ring.toList.length < (ring.size / scratchSize + 1) * scratchSize := by
        rw [hfirst.size_eq hn]
        exact (Nat.div_lt_iff_lt_mul (by decide)).mp (Nat.lt_succ_self _)
      rw [Latencies.collectRings, sweep.collectRing_eq hn hfirst hscratch henough]
      dsimp only
      rw [ih hothers (hlength.trans hscratch)]

end Collection

namespace Latencies

variable {l : Latencies} {scratch : List UInt64}

theorem isPowerOfTwo_latencyRingSize : latencyRingSize.isPowerOfTwo :=
  ⟨12, rfl⟩

/-- What becomes of the samples when they are collected through a buffer. -/
structure Empties (l : Latencies) (scratch : List UInt64) : Prop where
  ends : ∃ moved rings g, Collects l.rings ⟨scratch, l.histogram⟩ moved rings g
  /-- However the loops end, they have moved what the rings held, recorded it, and come to what
  `collect` comes to. -/
  outcome : ∀ {moved rings g}, Collects l.rings ⟨scratch, l.histogram⟩ moved rings g →
    moved = l.rings.map Ring.toList ∧ g.histogram = l.histogram.recordAll moved.flatten ∧
      l.collect = ⟨rings, g.histogram⟩
  empty : ∀ ring ∈ l.collect.rings, ring.isEmpty = true

theorem empties (hrings : ∀ ring ∈ l.rings, ring.Sound) (hscratch : scratch.length = scratchSize) :
    l.Empties scratch := by
  have hn := isPowerOfTwo_latencyRingSize
  have hpositive : 0 < (Gathering.mk scratch l.histogram).scratch.length := by
    rw [hscratch]
    decide
  have hcollect : ∀ {moved rings g}, Collects l.rings ⟨scratch, l.histogram⟩ moved rings g →
      l.collect = ⟨rings, g.histogram⟩ := by
    intro moved rings g h
    have hrecorded := h.collectRings_eq hn hrings hscratch
    rw [collect, hrecorded]
  obtain ⟨moved, rings, g, hends⟩ := exists_collects hn hrings hpositive
  refine ⟨⟨moved, rings, g, hends⟩, fun h => ?_, fun ring hring => ?_⟩
  · obtain ⟨hmoved, -, hhistogram, -⟩ := h.moved_eq hn hrings
    exact ⟨hmoved, hhistogram, hcollect h⟩
  · rw [hcollect hends] at hring
    exact ((hends.moved_eq hn hrings).2.1 ring hring).isEmpty_iff.mpr rfl

end Latencies

end MessageServer
