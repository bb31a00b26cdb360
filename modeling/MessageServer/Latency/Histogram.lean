import Std.Data.TreeMap

/-!
# Latency histogram

Samples are counted in bins.  A value below 2048 has a bin of its own.  Above, the values from
`2 ^ k` up to `2 ^ (k + 1)` share bins of width `2 ^ (k - 10)`, so that a bin is never wider than
a thousandth of its values.

A summary names a bin by the last value in it.  The quantile `q` of `n` samples is the bin in
which the sample of rank `⌈q * n⌉` lies, counted from the smallest.
-/

namespace MessageServer

namespace Bin

/-- The width of the bin that holds `v`. -/
def width (v : Nat) : Nat :=
  if v < 2048 then 1 else 1 <<< (v.log2 - 10)

/-- The smallest value in the bin that holds `v`. -/
def start (v : Nat) : Nat :=
  v - v % width v

/-- The largest value in the bin that holds `v`.  The last bin ends one short of the largest word,
which stands for itself. -/
def last (v : Nat) : Nat :=
  if v = UInt64.size - 1 then v else min (start v + width v) (UInt64.size - 1) - 1

end Bin

/-- The figures of a report, in nanoseconds. -/
structure LatencySummary where
  count : UInt64
  p50 : UInt64
  p99 : UInt64
  p999 : UInt64
  max : UInt64
  deriving DecidableEq, Repr

namespace LatencySummary

/-- The summary on one line. -/
def text (s : LatencySummary) : String :=
  s!"n={s.count} p50={s.p50}ns p99={s.p99}ns p99.9={s.p999}ns max={s.max}ns"

end LatencySummary

/-- Counts by bin start, the number of samples, and the largest sample. -/
structure Histogram where
  bins : Std.TreeMap Nat Nat
  count : Nat
  largest : Nat

namespace Histogram

/-- No samples. -/
def empty : Histogram :=
  ⟨∅, 0, 0⟩

/-- One more sample. -/
def record (h : Histogram) (v : UInt64) : Histogram :=
  { bins := h.bins.alter (Bin.start v.toNat) fun n => some (n.getD 0 + 1)
    count := h.count + 1
    largest := max h.largest v.toNat }

/-- Samples in turn. -/
def recordAll (h : Histogram) (vs : List UInt64) : Histogram :=
  vs.foldl record h

/-- The first bin in which the running count reaches `rank`, named by its last value; zero if
there is none. -/
def valueAtRank (rank : Nat) : List (Nat × Nat) → Nat
  | [] => 0
  | (start, n) :: rest => if rank ≤ n then Bin.last start else valueAtRank (rank - n) rest

/-- A double that is not negative, rounded up to a whole number. -/
def roundUp (x : Float) : Nat :=
  let whole := x.toUInt64
  if whole.toFloat < x then whole.toNat + 1 else whole.toNat

/-- The rank of the quantile `q` among `count` samples, computed in doubles. -/
def rank (q : Float) (count : Nat) : Nat :=
  max 1 (roundUp (q * count.toUInt64.toFloat))

/-- The value at the quantile `q`. -/
def quantile (h : Histogram) (q : Float) : Nat :=
  valueAtRank (rank q h.count) h.bins.toList

/-- The last value of the bin of the largest sample; zero if no sample was above zero. -/
def maximum (h : Histogram) : Nat :=
  if h.largest = 0 then 0 else Bin.last h.largest

def summary (h : Histogram) : LatencySummary where
  count := h.count.toUInt64
  p50 := (h.quantile 0.50).toUInt64
  p99 := (h.quantile 0.99).toUInt64
  p999 := (h.quantile 0.999).toUInt64
  max := h.maximum.toUInt64

end Histogram

end MessageServer
