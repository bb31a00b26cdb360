import MessageServer.Counters
import MessageServer.Proofs.Latency.Collection

/-!
# The books of the samples

A `SampleEvent` is one thing that happens to samples on their way: a dispatch pushes one into the
ring of its worker, or drops its record and pushes none; a collection moves what is in the rings
into the histogram; a report empties the histogram.

`Balance` says what a log of these events has to do with the rings, the histogram and the counts of
records.  It holds at the start, `Balance.new`, and there is one lemma for each kind of event:
`Balance.push`, `Balance.drop`, `Balance.collect` and `Balance.forget`.
-/

namespace MessageServer

/-! ## What happens to samples -/

/-- What happens to samples: a worker whose ring holds so many pushes one, which is kept or lost; a
worker drops a record; the rings are emptied into the histogram; the histogram is emptied. -/
inductive SampleEvent where
  | pushed (worker : Nat) (latency : UInt64) (held : Nat) (kept : Bool)
  | dropped (worker : Nat)
  | collected (moved : List (List UInt64))
  | forgotten (count : Nat)
  deriving DecidableEq

namespace SampleEvent

/-- A record was handled. -/
def isPushed : SampleEvent → Bool
  | pushed _ _ _ _ => true
  | _ => false

/-- A ring accepted a sample. -/
def isKept : SampleEvent → Bool
  | pushed _ _ _ kept => kept
  | _ => false

/-- A ring rejected a sample. -/
def isLost : SampleEvent → Bool
  | pushed _ _ _ kept => !kept
  | _ => false

def isDropped : SampleEvent → Bool
  | dropped _ => true
  | _ => false

/-- The sample that the ring of a worker accepted. -/
def keptBy? (worker : Nat) : SampleEvent → Option UInt64
  | pushed w latency _ true => if w = worker then some latency else none
  | _ => none

/-- The samples that left the ring of a worker. -/
def movedOf (worker : Nat) : SampleEvent → List UInt64
  | collected moved => moved[worker]?.getD []
  | _ => []

/-- How many samples the histogram forgot. -/
def forgets : SampleEvent → Nat
  | forgotten count => count
  | _ => 0

end SampleEvent

section Log

variable (log : List SampleEvent)

/-- The samples that the ring of a worker accepted, in the order of the pushes. -/
def acceptedBy (worker : Nat) : List UInt64 :=
  log.filterMap (SampleEvent.keptBy? worker)

/-- The samples that left the ring of a worker, in the order in which they did. -/
def movedFrom (worker : Nat) : List UInt64 :=
  log.flatMap (SampleEvent.movedOf worker)

/-- What has been recorded since the histogram was last emptied. -/
def recorded : List UInt64 :=
  log.foldl (fun vs event => match event with
    | .collected moved => vs ++ moved.flatten
    | .forgotten _ => []
    | _ => vs) []

/-- How many samples the histogram has forgotten. -/
def forgotten : Nat :=
  (log.map SampleEvent.forgets).sum

end Log

section Later

variable {log : List SampleEvent} {event : SampleEvent} {worker : Nat}

@[simp] theorem acceptedBy_append :
    acceptedBy (log ++ [event]) worker =
      acceptedBy log worker ++ (event.keptBy? worker).toList := by
  rw [acceptedBy, List.filterMap_append, List.filterMap_cons, List.filterMap_nil]
  cases event.keptBy? worker <;> rfl

@[simp] theorem movedFrom_append :
    movedFrom (log ++ [event]) worker = movedFrom log worker ++ event.movedOf worker := by
  rw [movedFrom, List.flatMap_append, List.flatMap_singleton]
  rfl

@[simp] theorem recorded_append :
    recorded (log ++ [event]) =
      match event with
      | .collected moved => recorded log ++ moved.flatten
      | .forgotten _ => []
      | _ => recorded log := by
  rw [recorded, List.foldl_append]
  rfl

@[simp] theorem forgotten_append : forgotten (log ++ [event]) = forgotten log + event.forgets := by
  rw [forgotten, List.map_append, List.sum_append, List.map_singleton, List.sum_singleton]
  rfl

end Later

/-- Every sample that was pushed was kept or lost. -/
theorem countP_isPushed (log : List SampleEvent) :
    log.countP SampleEvent.isPushed =
      log.countP SampleEvent.isKept + log.countP SampleEvent.isLost := by
  induction log with
  | nil => rfl
  | cons event log ih =>
      have hone : (if event.isPushed then 1 else 0) =
          (if event.isKept then 1 else 0) + if event.isLost then 1 else 0 := by
        rcases event with ⟨_, _, _, _ | _⟩ | _ | _ | _ <;> rfl
      rw [List.countP_cons, List.countP_cons, List.countP_cons, ih, hone]
      omega

/-! ## One push -/

namespace Latencies

/-- How many samples the ring of a worker holds. -/
def held (l : Latencies) (worker : Nat) : Nat :=
  match l.rings[worker]? with
  | some ring => ring.size
  | none => 0

/-- Whether the ring of a worker accepts a sample. -/
def keeps (l : Latencies) (worker : Nat) (latency : UInt64) : Bool :=
  match l.rings[worker]? with
  | some ring => (ring.tryPush latency).1
  | none => false

section Push

variable {l : Latencies} {worker : Nat} {ring : Ring UInt64 latencyRingSize}

theorem held_eq (hring : l.rings[worker]? = some ring) : l.held worker = ring.size := by
  rw [held, hring]

theorem keeps_eq (hring : l.rings[worker]? = some ring) (latency : UInt64) :
    l.keeps worker latency = (ring.tryPush latency).1 := by
  rw [keeps, hring]

/-- A push changes the ring of its worker. -/
theorem getElem?_push (hring : l.rings[worker]? = some ring) (latency : UInt64) (j : Nat) :
    (l.push worker latency).rings[j]? =
      if worker = j then some (ring.tryPush latency).2 else l.rings[j]? := by
  rw [push, List.getElem?_modify]
  split_ifs with hj
  · rw [← hj, hring]
    rfl
  · simp

theorem sum_size_of_empty {rings : List (Ring UInt64 latencyRingSize)}
    (hempty : ∀ ring ∈ rings, ring.Holds []) : (rings.map Ring.size).sum = 0 := by
  induction rings with
  | nil => rfl
  | cons ring rings ih =>
      obtain ⟨hfirst, hothers⟩ := List.forall_mem_cons.mp hempty
      have hnone : ring.size = 0 := hfirst.size_eq isPowerOfTwo_latencyRingSize
      rw [List.map_cons, List.sum_cons, hnone, ih hothers]

/-- The sum of the sizes, when one of the rings is exchanged. -/
theorem sum_size_modify {n : Nat} {rings : List (Ring UInt64 n)} {ring : Ring UInt64 n}
    (hring : rings[worker]? = some ring) (f : Ring UInt64 n → Ring UInt64 n) :
    ((rings.modify worker f).map Ring.size).sum + ring.size =
      (rings.map Ring.size).sum + (f ring).size := by
  induction rings generalizing worker with
  | nil => cases hring
  | cons first rings ih =>
      cases worker with
      | zero =>
          obtain rfl : first = ring := Option.some.inj hring
          simp only [List.modify_zero_cons, List.map_cons, List.sum_cons]
          omega
      | succ worker =>
          have hrest := ih hring
          simp only [List.modify_succ_cons, List.map_cons, List.sum_cons]
          omega

/-- There is one more sample in the rings, unless the push was rejected. -/
theorem sum_size_push (hring : l.rings[worker]? = some ring) (hsound : ring.Sound)
    (latency : UInt64) :
    ((l.push worker latency).rings.map Ring.size).sum =
      (l.rings.map Ring.size).sum + if l.keeps worker latency then 1 else 0 := by
  have hn := isPowerOfTwo_latencyRingSize
  obtain ⟨hafter, hlist, -⟩ := hsound.tryPush hn latency
  have hsum : ((l.push worker latency).rings.map Ring.size).sum + ring.size =
      (l.rings.map Ring.size).sum + (ring.tryPush latency).2.size := sum_size_modify hring _
  have hsize : (ring.tryPush latency).2.size =
      ring.size + (if (ring.tryPush latency).1 then [latency] else []).length := by
    rw [hafter.size_eq hn, hlist, List.length_append, hsound.size_eq hn]
  rw [keeps_eq hring]
  cases hkept : (ring.tryPush latency).1
  all_goals
    rw [hkept] at hsize
    simp at hsize ⊢
    omega

end Push

end Latencies

/-! ## The books -/

/-- What the rings, the histogram and the counters have to do with what happened. -/
structure Balance (workers : Nat) (log : List SampleEvent) (l : Latencies) (counters : Counters) :
    Prop where
  rings : l.rings.length = workers
  sound : ∀ ring ∈ l.rings, ring.Sound
  /-- The samples of a worker leave its ring in the order in which it accepted them, each once. -/
  order : ∀ worker ring, l.rings[worker]? = some ring →
    acceptedBy log worker = movedFrom log worker ++ ring.toList
  /-- Every accepted sample was forgotten, is in the histogram, or is in a ring. -/
  kept : log.countP SampleEvent.isKept =
    forgotten log + l.histogram.count + (l.rings.map Ring.size).sum
  /-- A sample is lost where the ring holds as many as it can, and nowhere else. -/
  lost : ∀ worker latency held kept, .pushed worker latency held kept ∈ log →
    worker < workers ∧ (kept = false ↔ held = latencyRingSize - 1)
  histogram : l.histogram = Histogram.empty.recordAll (recorded log)
  messages : counters.messages = UInt64.ofNat (log.countP SampleEvent.isPushed)
  dropped : counters.dropped = UInt64.ofNat (log.countP SampleEvent.isDropped)

namespace Balance

variable {workers worker : Nat} {log : List SampleEvent} {l : Latencies} {c c' : Counters}
  {latency : UInt64}

/-- One change of a word that counts. -/
theorem ofNat_succ {count : UInt64} {k : Nat} (h : count = UInt64.ofNat k) :
    count + 1 = UInt64.ofNat (k + 1) := by
  rw [h, UInt64.ofNat_add]
  rfl

theorem new (hmessages : c.messages = 0) (hdropped : c.dropped = 0) :
    Balance workers [] (Latencies.new workers) c := by
  have hempty : (Ring.empty UInt64 latencyRingSize).Holds [] := Ring.empty_holds (by decide)
  have hn := Latencies.isPowerOfTwo_latencyRingSize
  refine
    { rings := List.length_replicate
      sound := fun ring hring => ?_
      order := fun worker ring hring => ?_
      kept := ?_
      lost := fun _ _ _ _ h => nomatch h
      histogram := rfl
      messages := hmessages
      dropped := hdropped }
  · obtain rfl := List.eq_of_mem_replicate hring
    exact hempty.sound hn
  · obtain rfl := List.eq_of_mem_replicate (List.mem_of_getElem? hring)
    exact (hempty.toList_eq hn).symm
  · have hnone : ((Latencies.new workers).rings.map Ring.size).sum = 0 :=
      Latencies.sum_size_of_empty fun ring hring => List.eq_of_mem_replicate hring ▸ hempty
    rw [hnone]
    rfl

theorem push (h : Balance workers log l c) (known : worker < workers)
    (hmessages : c'.messages = c.messages + 1) (hdropped : c'.dropped = c.dropped) :
    Balance workers (log ++ [.pushed worker latency (l.held worker) (l.keeps worker latency)])
      (l.push worker latency) c' := by
  -- the ring that the worker pushes to
  obtain ⟨ring, hring⟩ : ∃ ring, l.rings[worker]? = some ring :=
    ⟨_, List.getElem?_eq_getElem (known.trans_eq h.rings.symm)⟩
  have hsound := h.sound ring (List.mem_of_getElem? hring)
  have hkeeps := Latencies.keeps_eq hring latency
  obtain ⟨hafter, hlist, hfull⟩ :=
    hsound.tryPush Latencies.isPowerOfTwo_latencyRingSize latency
  refine
    { rings := (List.length_modify _ _ _).trans h.rings
      sound := fun ring' hmem => ?_
      order := fun j ring' hj => ?_
      kept := ?_
      lost := fun w latency' held kept hmem => ?_
      histogram := ?_
      messages := ?_
      dropped := ?_ }
  · obtain ⟨j, hj⟩ := List.mem_iff_getElem?.mp hmem
    rw [Latencies.getElem?_push hring] at hj
    split_ifs at hj
    · exact Option.some.inj hj ▸ hafter
    · exact h.sound ring' (List.mem_of_getElem? hj)
  · rw [Latencies.getElem?_push hring] at hj
    simp only [acceptedBy_append, movedFrom_append, SampleEvent.movedOf, List.append_nil, hkeeps]
    split_ifs at hj with hworker
    · obtain rfl := Option.some.inj hj
      rw [hlist, h.order j ring (hworker ▸ hring), List.append_assoc]
      cases (ring.tryPush latency).1 <;> simp [SampleEvent.keptBy?, hworker]
    · rw [h.order j ring' hj]
      cases (ring.tryPush latency).1 <;> simp [SampleEvent.keptBy?, hworker]
  · have hcount : List.countP SampleEvent.isKept
        [.pushed worker latency (l.held worker) (l.keeps worker latency)] =
          if l.keeps worker latency then 1 else 0 := List.countP_singleton
    have hhistogram : (l.push worker latency).histogram = l.histogram := rfl
    rw [List.countP_append, hcount, Latencies.sum_size_push hring hsound, forgotten_append,
      hhistogram, h.kept]
    simp only [SampleEvent.forgets]
    omega
  · rcases List.mem_append.mp hmem with hold | hnew
    · exact h.lost w latency' held kept hold
    · obtain ⟨rfl, rfl, rfl, rfl⟩ := SampleEvent.pushed.inj (List.mem_singleton.mp hnew)
      rw [Latencies.held_eq hring, hkeeps]
      exact ⟨known, hfull⟩
  · rw [recorded_append]
    exact h.histogram
  · rw [hmessages, List.countP_append]
    exact ofNat_succ h.messages
  · rw [hdropped, List.countP_append]
    exact h.dropped

/-- A record that is dropped gives no sample. -/
theorem drop (h : Balance workers log l c) (hmessages : c'.messages = c.messages)
    (hdropped : c'.dropped = c.dropped + 1) : Balance workers (log ++ [.dropped worker]) l c' where
  rings := h.rings
  sound := h.sound
  order j ring hj := by simpa [SampleEvent.keptBy?, SampleEvent.movedOf] using h.order j ring hj
  kept := by simpa [SampleEvent.isKept, SampleEvent.forgets] using h.kept
  lost j latency held kept hmem := h.lost j latency held kept (by simpa using hmem)
  histogram := by simpa using h.histogram
  messages := by simpa [SampleEvent.isPushed, hmessages] using h.messages
  dropped := by
    rw [hdropped, List.countP_append]
    exact ofNat_succ h.dropped

/-- The loops over the rings have ended. -/
theorem collect (h : Balance workers log l c) {scratch : List UInt64} {moved : List (List UInt64)}
    {rings : List (Ring UInt64 latencyRingSize)} {g : Gathering}
    (hloops : Collects l.rings ⟨scratch, l.histogram⟩ moved rings g) :
    Balance workers (log ++ [.collected moved]) ⟨rings, g.histogram⟩ c := by
  have hn := Latencies.isPowerOfTwo_latencyRingSize
  have hlength := hloops.length_eq
  obtain ⟨rfl, hempty, hhistogram, -⟩ := hloops.moved_eq hn h.sound
  refine
    { rings := hlength.trans h.rings
      sound := fun ring hring => (hempty ring hring).sound hn
      order := fun j ring' hj => ?_
      kept := ?_
      lost := fun j latency held kept hmem => h.lost j latency held kept (by simpa using hmem)
      histogram := ?_
      messages := by simpa [SampleEvent.isPushed] using h.messages
      dropped := by simpa [SampleEvent.isDropped] using h.dropped }
  · -- what the ring held has been moved, and nothing is left in it
    obtain ⟨ring, hring⟩ : ∃ ring, l.rings[j]? = some ring := by
      have hbound := (List.getElem?_eq_some_iff.mp hj).1
      exact ⟨_, List.getElem?_eq_getElem (hbound.trans_eq hlength)⟩
    have hleft := (hempty ring' (List.mem_of_getElem? hj)).toList_eq hn
    simp [SampleEvent.keptBy?, SampleEvent.movedOf, hring, hleft, h.order j ring hring]
  · have hnone := Latencies.sum_size_of_empty hempty
    have hall : (l.rings.map Ring.toList).flatten.length = (l.rings.map Ring.size).sum := by
      rw [List.length_flatten, List.map_map]
      exact congrArg List.sum (List.map_congr_left fun ring hring =>
        ((h.sound ring hring).size_eq hn).symm)
    have hbefore := h.kept
    simp only [List.countP_append, forgotten_append, SampleEvent.forgets, hhistogram,
      Histogram.count_recordAll, hnone, hall]
    simpa [SampleEvent.isKept, Nat.add_assoc] using hbefore
  · rw [recorded_append, Histogram.recordAll_append, ← h.histogram]
    exact hhistogram

/-- The histogram has been emptied. -/
theorem forget (h : Balance workers log l c) :
    Balance workers (log ++ [.forgotten l.histogram.count]) l.takeSummary.2 c where
  rings := h.rings
  sound := h.sound
  order j ring hj := by simpa [SampleEvent.keptBy?, SampleEvent.movedOf] using h.order j ring hj
  kept := by
    have hbefore := h.kept
    simpa [SampleEvent.isKept, SampleEvent.forgets, Latencies.takeSummary, Histogram.empty]
      using hbefore
  lost j latency held kept hmem := h.lost j latency held kept (by simpa using hmem)
  histogram := by simp [Latencies.takeSummary, Histogram.recordAll]
  messages := by simpa [SampleEvent.isPushed] using h.messages
  dropped := by simpa [SampleEvent.isDropped] using h.dropped

/-- The same counts elsewhere. -/
theorem congr (h : Balance workers log l c) (hmessages : c'.messages = c.messages)
    (hdropped : c'.dropped = c.dropped) : Balance workers log l c' where
  rings := h.rings
  sound := h.sound
  order := h.order
  kept := h.kept
  lost := h.lost
  histogram := h.histogram
  messages := hmessages.trans h.messages
  dropped := hdropped.trans h.dropped

end Balance

end MessageServer
