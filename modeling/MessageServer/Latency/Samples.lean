import MessageServer.Latency.Histogram
import MessageServer.Ring

/-!
# Latency samples

Every worker pushes the latencies of the records it handled into a ring of its own.  The first
worker collects the rings into the histogram, through a buffer of 256 samples, before it reports.
-/

namespace MessageServer

/-- The slots of a worker's ring. -/
def latencyRingSize : Nat := 4096

/-- The samples that are collected at a time. -/
def scratchSize : Nat := 256

/-- One ring for each worker, and the histogram of the samples collected since the last report. -/
structure Latencies where
  rings : List (Ring UInt64 latencyRingSize)
  histogram : Histogram

namespace Latencies

/-- Empty rings for so many workers. -/
def new (workers : Nat) : Latencies :=
  ⟨List.replicate workers (Ring.empty UInt64 latencyRingSize), Histogram.empty⟩

/-- Pushes a sample into a worker's ring.  A full ring loses it. -/
def push (l : Latencies) (worker : Nat) (latency : UInt64) : Latencies :=
  { l with rings := l.rings.modify worker fun ring => (ring.tryPush latency).2 }

/-- Moves samples into the histogram, one buffer at a time, until a buffer is not filled; `passes`
bounds the number of buffers. -/
def collectRing {n : Nat} : (passes : Nat) → Ring UInt64 n → Histogram → Ring UInt64 n × Histogram
  | 0, ring, histogram => (ring, histogram)
  | passes + 1, ring, histogram =>
    let (count, filled, ring) := ring.popBatch (List.replicate scratchSize 0)
    let histogram := histogram.recordAll (filled.take count)
    if count < scratchSize then (ring, histogram) else collectRing passes ring histogram

/-- Moves the samples of each ring in turn into the histogram. -/
def collectRings {n : Nat} : List (Ring UInt64 n) → Histogram → List (Ring UInt64 n) × Histogram
  | [], histogram => ([], histogram)
  | ring :: rings, histogram =>
    let (ring, histogram) := collectRing (ring.size / scratchSize + 1) ring histogram
    let (rings, histogram) := collectRings rings histogram
    (ring :: rings, histogram)

/-- Moves all samples into the histogram. -/
def collect (l : Latencies) : Latencies :=
  let (rings, histogram) := collectRings l.rings l.histogram
  ⟨rings, histogram⟩

/-- The summary of the collected samples, which are forgotten. -/
def takeSummary (l : Latencies) : LatencySummary × Latencies :=
  (l.histogram.summary, { l with histogram := Histogram.empty })

end Latencies

end MessageServer
