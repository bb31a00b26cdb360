/-!
# Counters

What a server counts: records handled and dropped, short reads, acknowledgments that were not
sent, connections, and the sums behind the mean latencies.  Counts and sums are 64-bit words and
wrap, except that the number of active connections never falls below zero.
-/

namespace MessageServer

/-- The counts of a server since it was made. -/
structure Counters where
  messages : UInt64
  dropped : UInt64
  shortReads : UInt64
  sendFailures : UInt64
  active : UInt64
  peak : UInt64
  connections : UInt64
  latencySum : UInt64
  latencySamples : UInt64
  wireLatencySum : UInt64
  wireLatencySamples : UInt64
  deriving DecidableEq, Repr

/-- The quotient of a sum and a count, both rounded to doubles first; zero without samples. -/
def mean (sum count : UInt64) : Float :=
  if count = 0 then 0.0 else sum.toFloat / count.toFloat

namespace Counters

/-- Nothing has happened yet. -/
def zero : Counters :=
  ⟨0, 0, 0, 0, 0, 0, 0, 0, 0, 0, 0⟩

/-- A record was handled in `latency` nanoseconds. -/
def recordMessage (c : Counters) (latency : UInt64) : Counters :=
  { c with
    messages := c.messages + 1
    latencySum := c.latencySum + latency
    latencySamples := c.latencySamples + 1 }

/-- A record took `latency` nanoseconds from its sender. -/
def recordWireLatency (c : Counters) (latency : UInt64) : Counters :=
  { c with
    wireLatencySum := c.wireLatencySum + latency
    wireLatencySamples := c.wireLatencySamples + 1 }

/-- A record was not handled. -/
def recordDrop (c : Counters) : Counters :=
  { c with dropped := c.dropped + 1 }

/-- A read gave less than a record. -/
def recordShortRead (c : Counters) : Counters :=
  { c with shortReads := c.shortReads + 1 }

/-- An acknowledgment was not written in full. -/
def recordSendFailure (c : Counters) : Counters :=
  { c with sendFailures := c.sendFailures + 1 }

/-- A connection was opened; the peak is the largest active count so far. -/
def connectionOpened (c : Counters) : Counters :=
  let active := c.active + 1
  { c with
    connections := c.connections + 1
    active
    peak := max c.peak active }

/-- A connection was closed; where none is active, this changes nothing. -/
def connectionClosed (c : Counters) : Counters :=
  if c.active = 0 then c else { c with active := c.active - 1 }

/-- The mean latency of the records handled, in nanoseconds. -/
def meanLatency (c : Counters) : Float :=
  mean c.latencySum c.latencySamples

/-- The mean time from a sender, in nanoseconds. -/
def meanWireLatency (c : Counters) : Float :=
  mean c.wireLatencySum c.wireLatencySamples

end Counters

/-- One thing that is counted. -/
inductive CounterEvent where
  | message (latency : UInt64)
  | wire (latency : UInt64)
  | drop
  | shortRead
  | sendFailure
  | opened
  | closed
  deriving DecidableEq, Repr

namespace Counters

/-- The counts after one more event. -/
def count (c : Counters) : CounterEvent → Counters
  | .message latency => c.recordMessage latency
  | .wire latency => c.recordWireLatency latency
  | .drop => c.recordDrop
  | .shortRead => c.recordShortRead
  | .sendFailure => c.recordSendFailure
  | .opened => c.connectionOpened
  | .closed => c.connectionClosed

end Counters

end MessageServer
