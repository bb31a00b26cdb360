import MessageServer.Server.Admission

/-!
# Serving connections

A worker that is given an event looks the connection up by its token.  Unless the connection is
active, it does nothing.  Where the peer is gone and there is nothing to read it closes the
connection; otherwise it reads until there is nothing left.

One read of at most 128 bytes is taken as one record.  A shorter read is counted and forgotten; no
record is put together from two reads.  The bytes are read into a slot of the receive pool, or into
a buffer of the worker's own where no slot is free.
-/

namespace MessageServer

/-- Why a connection is closed. -/
inductive CloseReason where
  | hungUp | socketError | peerClosed | readError | writeError
  deriving DecidableEq, Repr

namespace CloseReason

def text : CloseReason → String
  | hungUp => "peer hung up"
  | socketError => "socket error"
  | peerClosed => "peer closed"
  | readError => "read error"
  | writeError => "write error"

end CloseReason

/-- How reading ended. -/
inductive Drained where
  /-- Nothing was left to read. -/
  | pending
  | peerClosed
  | readFailed (error : IoError)
  | writeFailed (error : IoError)
  deriving DecidableEq, Repr

namespace Record

/-- The bytes of a record overwritten from the front. -/
def overwrite (r : Record) (bytes : List UInt8) : Record :=
  layout.decode (bytes ++ r.toBytes.drop bytes.length)

end Record

/-- Reading in progress: the desk, the buffer, the samples, how many records were dispatched, and
the events so far. -/
structure Pass where
  desk : Desk
  buffer : Record
  latencies : Latencies
  dispatched : Nat
  events : List DispatchEvent

namespace Pass

/-- What is left to read. -/
def incoming (p : Pass) : List Arrival :=
  p.desk.connection.stream.incoming

/-- The same with something else left to read. -/
def withIncoming (p : Pass) (incoming : List Arrival) : Pass :=
  let c := p.desk.connection
  { p with desk := { p.desk with connection := { c with stream := { c.stream with incoming } } } }

/-- Bytes have been read into the buffer. -/
def fill (p : Pass) (bytes : List UInt8) : Pass :=
  { p with buffer := p.buffer.overwrite bytes }

/-- Counts a read that gave less than a record. -/
def countShortRead (p : Pass) : Pass :=
  { p with desk := { p.desk with counters := p.desk.counters.recordShortRead } }

/-- The sample that an outcome gives. -/
def sample? : Outcome → Option UInt64
  | .handled latency _ | .writeFailed latency _ => some latency
  | .dropped _ => none

/-- Dispatches the record in the buffer; what was handled gives a sample. -/
def dispatch (p : Pass) (table : HandlerTable) (worker : Nat) (clock : Nat → Readings) :
    Outcome × Pass :=
  let (outcome, desk, events) := p.desk.dispatch table (clock p.dispatched) p.buffer
  let latencies :=
    match sample? outcome with
    | some latency => p.latencies.push worker latency
    | none => p.latencies
  (outcome,
    { desk, buffer := p.buffer, latencies, dispatched := p.dispatched + 1,
      events := p.events ++ events })

theorem incoming_dispatch (p : Pass) (table : HandlerTable) (worker : Nat)
    (clock : Nat → Readings) : (p.dispatch table worker clock).2.incoming = p.incoming := by
  have hs := Desk.incoming_dispatch p.desk table (clock p.dispatched) p.buffer
  simpa [dispatch, incoming] using hs

/-- Reads and dispatches until there is nothing left, the peer has closed, or a read or a write
fails.  An interrupted read is made again. -/
def drain (table : HandlerTable) (worker : Nat) (clock : Nat → Readings) (p : Pass) :
    Drained × Pass :=
  match _h : Arrival.read Record.size p.desk.connection.stream.atEnd p.incoming with
  | (.error e, rest) =>
    if _hk : e.kind = .interrupted then drain table worker clock (p.withIncoming rest)
    else (if e.kind = .wouldBlock then .pending else .readFailed e, p.withIncoming rest)
  | (.ok got, rest) =>
    let read := (p.withIncoming rest).fill got
    if _hg : got = [] then (.peerClosed, read)
    else if got.length < Record.size then drain table worker clock read.countShortRead
    else
      match (read.dispatch table worker clock).1 with
      | .writeFailed _ e => (.writeFailed e, (read.dispatch table worker clock).2)
      | _ => drain table worker clock (read.dispatch table worker clock).2
termination_by Arrival.weight p.incoming
decreasing_by
  · exact Arrival.weight_read_of_interrupted _h _hk
  · exact Arrival.weight_read_of_ok _h _hg
  · rw [incoming_dispatch]
    exact Arrival.weight_read_of_ok _h _hg

end Pass

namespace Server

/-- Reads from the connection with serial number `k` until there is nothing left. -/
def drainConnection (s : Server) (worker : Nat) (clock : Nat → Readings) (k : Nat)
    (c : Connection) : Drained × Server × List DispatchEvent :=
  let (slot, pools) := s.pools.lease .receive
  let buffer := (slot.bind fun i => pools.read? .receive i).getD Record.zero
  let desk : Desk := ⟨c, pools, s.counters⟩
  let (ended, p) := Pass.drain s.table worker clock ⟨desk, buffer, s.latencies, 0, []⟩
  let pools :=
    match slot with
    | some i => (p.desk.pools.write .receive i p.buffer).release .receive i
    | none => p.desk.pools
  (ended,
    { s.updateConnection k fun _ => p.desk.connection with
      pools, counters := p.desk.counters, latencies := p.latencies },
    p.events)

/-- Whether the connection must go after reading ended in this way. -/
def reasonAfter (e : Event) : Drained → Option CloseReason
  | .pending => if e.error then some .socketError else none
  | .peerClosed => some .peerClosed
  | .readFailed _ => some .readError
  | .writeFailed _ => some .writeError

/-- Serves one event; answers why the connection was closed, if it was. -/
def service (s : Server) (worker : Nat) (clock : Nat → Readings) (e : Event) :
    Option CloseReason × Server × List DispatchEvent :=
  match s.registry.get? (.ofToken e.token) with
  | none => (none, s, [])
  | some t =>
    match s.connection? t.serial with
    | none => (none, s, [])
    | some c =>
      if !c.isActive then (none, s, [])
      else if e.hangup && !e.readable then
        (some .hungUp, (s.closeConnection t.serial).2, [])
      else
        let (ended, s, events) := s.drainConnection worker clock t.serial c
        match reasonAfter e ended with
        | none => (none, s, events)
        | some reason => (some reason, (s.closeConnection t.serial).2, events)

/-- What the first worker does after each round: it collects the samples, and reports when the
interval has passed. -/
def housekeep (s : Server) (elapsed : Nat) : Server :=
  match s.config.statsInterval with
  | some interval =>
    if interval ≤ elapsed then s.report else { s with latencies := s.latencies.collect }
  | none => { s with latencies := s.latencies.collect }

end Server

end MessageServer
