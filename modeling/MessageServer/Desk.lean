import MessageServer.Counters
import MessageServer.Handler.Table
import MessageServer.Pool

/-!
# Dispatching records

A `Desk` is what a dispatch works on: one connection, the pools, and the counters.  `Desk.dispatch`
takes one record through a handler table: a record of unknown type, with an invalid header, or of a
type without handler is dropped; otherwise the handler runs, and what it replies is acknowledged
from a slot of the send pool.

Clock readings are an input, `Readings`.
-/

namespace MessageServer

/-- The clock readings of one dispatch. -/
structure Readings where
  /-- When the record was received. -/
  received : UInt64
  /-- What the handler sees on the clock. -/
  handled : UInt64
  /-- The timestamp of the acknowledgment. -/
  acknowledged : UInt64
  /-- How long the dispatch took. -/
  latency : UInt64
  deriving DecidableEq, Repr

/-- Why a record was not handled. -/
inductive DropReason where
  | unknownType (code : UInt8)
  | invalid
  | noHandler (type : MessageType)
  deriving DecidableEq, Repr

/-- How a dispatch ended. -/
inductive Outcome where
  /-- The handler ran; `acked` says whether an acknowledgment was written. -/
  | handled (latency : UInt64) (acked : Bool)
  /-- The handler ran, and its acknowledgment was not written in full.  The stream may hold a part
  of it, so the connection cannot be used any more. -/
  | writeFailed (latency : UInt64) (error : IoError)
  | dropped (reason : DropReason)
  deriving DecidableEq, Repr

/-- What a dispatch works on. -/
structure Desk where
  connection : Connection
  pools : Pools
  counters : Counters
  deriving DecidableEq

namespace Desk

/-- Writes the acknowledgment of `request` from a slot of the send pool, which is given back at
once.  Answers whether it was written: without a free slot nothing is. -/
def sendAck (d : Desk) (request : Record) (type : MessageType) (timestamp : UInt64) :
    Except IoError Bool × Desk × List DispatchEvent :=
  let clientId := d.connection.clientId
  match d.pools.lease .send with
  | (none, pools) =>
    (.ok false, { d with pools, counters := d.counters.recordSendFailure },
      [.sendPoolExhausted clientId])
  | (some slot, pools) =>
    let ack := request.acknowledge type timestamp
    let pools := (pools.write .send slot ack).release .send slot
    let (result, connection) := d.connection.send ack
    match result with
    | .error e =>
      (.error e, { d with connection, pools, counters := d.counters.recordSendFailure },
        [.ackFailed clientId slot e])
    | .ok () => (.ok true, { d with connection, pools }, [.ackSent clientId slot])

/-- Counts a record that is not handled. -/
def drop (d : Desk) (reason : DropReason) (event : DispatchEvent) :
    Outcome × Desk × List DispatchEvent :=
  (.dropped reason, { d with counters := d.counters.recordDrop }, [event])

/-- Counts the time since a record was sent, unless its timestamp is in the future. -/
def countWire (d : Desk) (r : Record) (received : UInt64) : Desk :=
  if r.header.timestamp ≤ received then
    { d with counters := d.counters.recordWireLatency (received - r.header.timestamp) }
  else d

/-- Runs a handler on a record, sends what it replies, and counts the record. -/
def handle (d : Desk) (readings : Readings) (h : Handler) (r : Record) :
    Outcome × Desk × List DispatchEvent :=
  let d := d.countWire r readings.received
  let decision := h ⟨r, d.connection, readings.handled⟩
  let d := { d with connection := d.connection.treated decision.toTreatment }
  let (sent, d, events) :=
    match decision.reply with
    | .ack type => d.sendAck r type readings.acknowledged
    | .silent => (.ok false, d, [])
  let d := { d with counters := d.counters.recordMessage readings.latency }
  let outcome :=
    match sent with
    | .ok acked => .handled readings.latency acked
    | .error e => .writeFailed readings.latency e
  (outcome, d, decision.events ++ events)

/-- Takes one record through the table.  An unknown type is noticed before an invalid header, and
that before a missing handler. -/
def dispatch (d : Desk) (table : HandlerTable) (readings : Readings) (r : Record) :
    Outcome × Desk × List DispatchEvent :=
  let clientId := d.connection.clientId
  match MessageType.ofCode? r.header.typeCode with
  | none =>
    d.drop (.unknownType r.header.typeCode) (.unknownType clientId r.header.typeCode)
  | some type =>
    if r.isValid then
      match table.get type with
      | none => d.drop (.noHandler type) (.noHandler clientId type)
      | some h => d.handle readings h r
    else d.drop .invalid (.invalidHeader clientId r.header.messageId type)

/-- Dispatches a record again and again, at most `limit` times, as long as it is handled; answers
how often it was, and how the last dispatch ended. -/
def flood (d : Desk) (table : HandlerTable) (readings : Readings) (r : Record) :
    (limit : Nat) → Nat × Outcome × Desk
  | 0 => (0, (d.dispatch table readings r).1, (d.dispatch table readings r).2.1)
  | limit + 1 =>
    match d.dispatch table readings r with
    | (.handled _ _, d, _) =>
      let (taken, ended, d) := d.flood table readings r limit
      (taken + 1, ended, d)
    | (ended, d, _) => (0, ended, d)

/-! ## What a dispatch leaves alone -/

@[simp] theorem incoming_send (c : Connection) (r : Record) :
    (c.send r).2.stream.incoming = c.stream.incoming := by
  have hw : (c.stream.write r.toBytes).2.incoming = c.stream.incoming := by
    unfold Stream.write
    split
    · rfl
    · split <;> rfl
  unfold Connection.send
  split
  split
  · simp_all
  · split <;> simp_all

@[simp] theorem incoming_sendAck (d : Desk) (request : Record) (type : MessageType)
    (timestamp : UInt64) :
    (d.sendAck request type timestamp).2.1.connection.stream.incoming =
      d.connection.stream.incoming := by
  have h := incoming_send d.connection (request.acknowledge type timestamp)
  unfold sendAck
  split
  · rfl
  · dsimp only
    rcases hs : d.connection.send (request.acknowledge type timestamp) with ⟨result, c⟩
    rw [hs] at h
    cases result <;> simpa using h

@[simp] theorem incoming_handle (d : Desk) (readings : Readings) (h : Handler) (r : Record) :
    (d.handle readings h r).2.1.connection.stream.incoming = d.connection.stream.incoming := by
  have hw : (d.countWire r readings.received).connection = d.connection := by
    unfold countWire
    split <;> rfl
  unfold handle
  dsimp only
  split
  · rw [incoming_sendAck, hw]
    rfl
  · dsimp only
    rw [hw]
    rfl

/-- A dispatch reads nothing. -/
theorem incoming_dispatch (d : Desk) (table : HandlerTable) (readings : Readings) (r : Record) :
    (d.dispatch table readings r).2.1.connection.stream.incoming =
      d.connection.stream.incoming := by
  unfold dispatch
  split
  · rfl
  · split
    · split
      · rfl
      · exact incoming_handle d readings _ r
    · rfl

end Desk

end MessageServer
