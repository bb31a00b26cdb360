import Mathlib.Data.List.Basic
import MessageServer.Desk
import MessageServer.Proofs.Pool.Lease
import MessageServer.Proofs.Record.Wire

/-!
# What a dispatch does and what it leaves alone

`Desk.Dispatches` has one case for each way in which a dispatch can end, with all that it changes
there; `Desk.dispatches` says that every dispatch is one of them.  What follows is read off the
cases.

* A dispatch checks a record on its own.  `dispatch_of_unknown`, `dispatch_of_invalid` and
  `dispatch_of_ok` say what it does in terms of `Record.validate`; `DropReason.Applies` sums up when
  a record is dropped.
* `Dispatches.keeps`: the connection stays the same but for its standing, for what is written to it
  and for its being shut down; the receive pool is not touched, and no slot of the send pool stays
  lent.
* `Dispatches.shutDown_eq`: only the handler of the record shuts the stream down.
* `Dispatches.counts`: every dispatch counts one record, handled or dropped.
* `Dispatches.accepting`: while the stream takes every record whole and stays open, no
  acknowledgment fails.
* `dispatch_withReceive`: the receive pool makes no difference.
-/

namespace MessageServer

/-! ## Writing -/

namespace Stream

variable {s : Stream}

/-- Every record that is written is taken whole. -/
structure Accepting (s : Stream) : Prop where
  notShutDown : s.shutDown = false
  peerThere : s.peerGone = false
  whole : ∀ a ∈ s.acceptance, ∃ count, Record.size ≤ count ∧ a = .takes count

/-- A write changes what was written, and what the next writes meet. -/
theorem write_cases (s : Stream) (bytes : List UInt8) :
    ∃ outgoing acceptance, (s.write bytes).2 = { s with outgoing, acceptance } := by
  unfold write
  split
  · exact ⟨_, _, rfl⟩
  · split
    · exact ⟨_, _, rfl⟩
    · exact ⟨_, _, rfl⟩
    · exact ⟨_, _, rfl⟩

theorem Accepting.write (h : s.Accepting) {bytes : List UInt8}
    (hlength : bytes.length ≤ Record.size) :
    s.write bytes = (.ok bytes.length,
      { s with outgoing := s.outgoing ++ bytes, acceptance := s.acceptance.tail }) := by
  have hopen : (s.shutDown || s.peerGone) = false := by rw [h.notShutDown, h.peerThere]; rfl
  rw [Stream.write, hopen, if_neg Bool.false_ne_true]
  cases hnext : s.acceptance with
  | nil => simp
  | cons a rest =>
      obtain ⟨count, hcount, rfl⟩ := h.whole a (hnext ▸ List.mem_cons_self)
      simp [List.take_of_length_le (Nat.le_trans hlength hcount)]

/-- A stream that takes records whole goes on doing so. -/
theorem Accepting.written (h : s.Accepting) (outgoing : List UInt8) :
    Accepting { s with outgoing, acceptance := s.acceptance.tail } where
  notShutDown := h.notShutDown
  peerThere := h.peerThere
  whole a ha := h.whole a (List.mem_of_mem_tail ha)

/-- What is left to read has nothing to do with it. -/
theorem Accepting.reading (h : s.Accepting) (incoming : List Arrival) :
    Accepting { s with incoming } :=
  ⟨h.notShutDown, h.peerThere, h.whole⟩

end Stream

namespace Connection

theorem send_cases (c : Connection) (r : Record) :
    ∃ outgoing acceptance,
      (c.send r).2 = { c with stream := { c.stream with outgoing, acceptance } } := by
  obtain ⟨outgoing, acceptance, hwrite⟩ := c.stream.write_cases r.toBytes
  refine ⟨outgoing, acceptance, ?_⟩
  unfold send
  simp only [hwrite]
  split
  · rfl
  · split
    · rfl
    · rfl

theorem send_of_accepting {c : Connection} (h : c.stream.Accepting) (r : Record) :
    c.send r = (.ok (), { c with stream := { c.stream with
      outgoing := c.stream.outgoing ++ r.toBytes, acceptance := c.stream.acceptance.tail } }) := by
  have hlength := Record.length_toBytes r
  unfold send
  rw [h.write (Nat.le_of_eq hlength)]
  simp only [hlength, if_true]

end Connection

/-! ## The ways a dispatch can end -/

namespace HandlerTable

variable {t : HandlerTable} {type : MessageType} {h : Handler} {q : Request}

/-- What the handler of a record decides, if one runs. -/
def decision? (t : HandlerTable) (q : Request) : Option Decision :=
  match q.record.validate with
  | .ok type => (t.get type).map fun h => h q
  | .error _ => none

/-- The handler of a record runs, and shuts the stream down. -/
def shutsDown (t : HandlerTable) (q : Request) : Bool :=
  (t.decision? q).any (·.shutsDown)

theorem decision?_of_routed (valid : q.record.validate = .ok type) (routed : t.get type = some h) :
    t.decision? q = some (h q) := by
  rw [decision?, valid]
  simp only [routed, Option.map_some]

theorem decision?_of_unhandled
    (unhandled : ∀ type, q.record.validate = .ok type → t.get type = none) :
    t.decision? q = none := by
  unfold decision?
  split
  · next type valid => rw [unhandled type valid, Option.map_none]
  · rfl

theorem shutsDown_of_routed (valid : q.record.validate = .ok type) (routed : t.get type = some h) :
    t.shutsDown q = (h q).shutsDown := by
  rw [shutsDown, decision?_of_routed valid routed, Option.any_some]

theorem shutsDown_of_unhandled
    (unhandled : ∀ type, q.record.validate = .ok type → t.get type = none) :
    t.shutsDown q = false := by
  rw [shutsDown, decision?_of_unhandled unhandled, Option.any_none]

/-- No handler changes the state of a connection. -/
def KeepsState (t : HandlerTable) : Prop :=
  ∀ type h, t.get type = some h → ∀ q : Request, (h q).standing.state = q.connection.state

/-- No handler shuts a stream down. -/
def KeepsStream (t : HandlerTable) : Prop :=
  ∀ type h, t.get type = some h → ∀ q : Request, (h q).shutsDown = false

theorem KeepsStream.shutsDown_eq_false (hkeeps : t.KeepsStream) (q : Request) :
    t.shutsDown q = false := by
  unfold shutsDown decision?
  split
  · next type _ =>
      cases hget : t.get type with
      | none => rfl
      | some h => exact hkeeps type h hget q
  · rfl

/-- The handlers of a table that has those of the default table. -/
theorem get_of_default (hdefault : t.handlers = HandlerTable.default.handlers)
    (type : MessageType) :
    t.get type =
      match type with
      | .newOrder | .cancel | .replace => some Handler.order
      | .marketData => some Handler.marketData
      | .heartbeat => some Handler.heartbeat
      | _ => none := by
  rw [get, hdefault]
  cases type <;> rfl

/-- The default handlers change no state. -/
theorem keepsState_of_default (hdefault : t.handlers = HandlerTable.default.handlers) :
    t.KeepsState := by
  intro type h hget q
  rw [get_of_default hdefault] at hget
  split at hget <;> cases hget <;> rfl

/-- The default handlers shut no stream down. -/
theorem keepsStream_of_default (hdefault : t.handlers = HandlerTable.default.handlers) :
    t.KeepsStream := by
  intro type h hget q
  rw [get_of_default hdefault] at hget
  split at hget <;> cases hget <;> rfl

end HandlerTable

/-- The record is to be dropped for this reason. -/
def DropReason.Applies (table : HandlerTable) (r : Record) : DropReason → Prop
  | .unknownType code => r.validate = .error (.unknownType code)
  | .invalid => r.validate = .error .invalidHeader
  | .noHandler type => r.validate = .ok type ∧ table.get type = none

/-- Of the reasons only a missing handler goes with a valid record. -/
theorem DropReason.Applies.get_eq_none {table : HandlerTable} {r : Record} {reason : DropReason}
    (happlies : reason.Applies table r) {type : MessageType} (hcheck : r.validate = .ok type) :
    table.get type = none := by
  cases reason with
  | unknownType code => rw [Applies, hcheck] at happlies; cases happlies
  | invalid => rw [Applies, hcheck] at happlies; cases happlies
  | noHandler other =>
      obtain ⟨hother, hroute⟩ := happlies
      obtain rfl : type = other := Except.ok.inj (hcheck.symm.trans hother)
      exact hroute

namespace Desk

variable {d d' : Desk} {table : HandlerTable} {readings : Readings} {r : Record}
  {outcome : Outcome} {events : List DispatchEvent} {type : MessageType} {h : Handler}

/-- What a handler is asked about a record. -/
def request (d : Desk) (readings : Readings) (r : Record) : Request :=
  ⟨r, d.connection, readings.handled⟩

/-- What a handler decides on a record. -/
def decision (d : Desk) (readings : Readings) (h : Handler) (r : Record) : Decision :=
  h (d.request readings r)

/-- The desk when the handler is done and has not been answered for yet. -/
def decided (d : Desk) (readings : Readings) (h : Handler) (r : Record) : Desk :=
  { d.countWire r readings.received with
    connection := d.connection.treated (d.decision readings h r).toTreatment }

/-- How a dispatch ends: a record is dropped; it is handled without an answer, or without a free
slot for the answer; or the answer is written, or fails to be. -/
inductive Dispatches (d : Desk) (table : HandlerTable) (readings : Readings) (r : Record) :
    Outcome → Desk → List DispatchEvent → Prop where
  | dropped {reason : DropReason} {event : DispatchEvent}
      (unhandled : ∀ type, r.validate = .ok type → table.get type = none) :
      Dispatches d table readings r (.dropped reason)
        { d with counters := d.counters.recordDrop } [event]
  | silent {type : MessageType} {h : Handler} (valid : r.validate = .ok type)
      (routed : table.get type = some h) (reply : (d.decision readings h r).reply = .silent) :
      Dispatches d table readings r (.handled readings.latency false)
        { d.decided readings h r with
          counters := (d.decided readings h r).counters.recordMessage readings.latency }
        (d.decision readings h r).events
  | exhausted {type ack : MessageType} {h : Handler} {pools : Pools}
      (valid : r.validate = .ok type) (routed : table.get type = some h)
      (reply : (d.decision readings h r).reply = .ack ack)
      (lease : d.pools.lease .send = (none, pools)) :
      Dispatches d table readings r (.handled readings.latency false)
        { d.decided readings h r with
          pools
          counters := (d.decided readings h r).counters.recordSendFailure.recordMessage
            readings.latency }
        ((d.decision readings h r).events ++ [.sendPoolExhausted d.connection.clientId])
  | sent {type ack : MessageType} {h : Handler} {slot : Nat} {pools : Pools}
      {connection : Connection} (valid : r.validate = .ok type) (routed : table.get type = some h)
      (reply : (d.decision readings h r).reply = .ack ack)
      (lease : d.pools.lease .send = (some slot, pools))
      (send : (d.decided readings h r).connection.send (r.acknowledge ack readings.acknowledged) =
        (.ok (), connection)) :
      Dispatches d table readings r (.handled readings.latency true)
        ⟨connection,
          (pools.write .send slot (r.acknowledge ack readings.acknowledged)).release .send slot,
          (d.decided readings h r).counters.recordMessage readings.latency⟩
        ((d.decision readings h r).events ++ [.ackSent d.connection.clientId slot])
  | failed {type ack : MessageType} {h : Handler} {slot : Nat} {pools : Pools}
      {connection : Connection} {error : IoError} (valid : r.validate = .ok type)
      (routed : table.get type = some h) (reply : (d.decision readings h r).reply = .ack ack)
      (lease : d.pools.lease .send = (some slot, pools))
      (send : (d.decided readings h r).connection.send (r.acknowledge ack readings.acknowledged) =
        (.error error, connection)) :
      Dispatches d table readings r (.writeFailed readings.latency error)
        ⟨connection,
          (pools.write .send slot (r.acknowledge ack readings.acknowledged)).release .send slot,
          (d.decided readings h r).counters.recordSendFailure.recordMessage readings.latency⟩
        ((d.decision readings h r).events ++ [.ackFailed d.connection.clientId slot error])

theorem pools_decided (d : Desk) (readings : Readings) (h : Handler) (r : Record) :
    (d.decided readings h r).pools = d.pools := by
  unfold decided countWire
  split <;> rfl

/-- A handler runs, and then its reply is sent. -/
theorem handle_eq (d : Desk) (readings : Readings) (h : Handler) (r : Record) :
    d.handle readings h r =
      match (d.decision readings h r).reply with
      | .silent => (.handled readings.latency false,
          { d.decided readings h r with
            counters := (d.decided readings h r).counters.recordMessage readings.latency },
          (d.decision readings h r).events ++ [])
      | .ack ack =>
        let sent := (d.decided readings h r).sendAck r ack readings.acknowledged
        (match sent.1 with
          | .ok acked => .handled readings.latency acked
          | .error e => .writeFailed readings.latency e,
          { sent.2.1 with counters := sent.2.1.counters.recordMessage readings.latency },
          (d.decision readings h r).events ++ sent.2.2) := by
  -- the time on the wire is counted before the handler runs, which does not see the counters
  have hconnection : (d.countWire r readings.received).connection = d.connection := by
    unfold countWire
    split <;> rfl
  have hdecided : { d.countWire r readings.received with
      connection := d.connection.treated (d.decision readings h r).toTreatment } =
        d.decided readings h r := rfl
  unfold handle
  simp only [hconnection]
  rw [show h ⟨r, d.connection, readings.handled⟩ = d.decision readings h r from rfl, hdecided]
  cases (d.decision readings h r).reply <;> rfl

/-- A handler that was found is one of the last four cases. -/
theorem dispatches_handle {type : MessageType} {h : Handler} (valid : r.validate = .ok type)
    (routed : table.get type = some h) :
    d.Dispatches table readings r (d.handle readings h r).1 (d.handle readings h r).2.1
      (d.handle readings h r).2.2 := by
  rw [handle_eq]
  cases hreply : (d.decision readings h r).reply with
  | silent =>
      simp only [List.append_nil]
      exact .silent valid routed hreply
  | ack ack =>
      simp only [sendAck, pools_decided]
      rcases hlease : d.pools.lease .send with ⟨_ | slot, pools⟩
      · exact .exhausted valid routed hreply hlease
      · rcases hsend : (d.decided readings h r).connection.send
          (r.acknowledge ack readings.acknowledged) with ⟨error | done, connection⟩
        · exact .failed valid routed hreply hlease hsend
        · exact .sent valid routed hreply hlease hsend

/-! ## The checks of a dispatch are those of a receiver -/

theorem dispatch_of_unknown {code : UInt8} (hcheck : r.validate = .error (.unknownType code)) :
    d.dispatch table readings r =
      d.drop (.unknownType code) (.unknownType d.connection.clientId code) := by
  rcases Record.validate_eq_error_iff.mp hcheck with htype | ⟨-, -, he⟩
  · obtain ⟨he, hunknown⟩ := Record.messageType_eq_error_iff.mp htype
    cases he
    rw [dispatch, MessageType.ofCode?_eq_none_iff.mpr hunknown]
  · cases he

theorem dispatch_of_invalid (d : Desk) (readings : Readings)
    (hcheck : r.validate = .error .invalidHeader) :
    ∃ type, ∀ table, d.dispatch table readings r =
      d.drop .invalid (.invalidHeader d.connection.clientId r.header.messageId type) := by
  rcases Record.validate_eq_error_iff.mp hcheck with htype | ⟨⟨type, htype⟩, hinvalid, -⟩
  · cases (Record.messageType_eq_error_iff.mp htype).1
  · rw [Record.messageType_eq_ok_iff, ← MessageType.ofCode?_eq_some_iff] at htype
    refine ⟨type, fun table => ?_⟩
    rw [dispatch, htype, hinvalid]
    rfl

theorem dispatch_of_ok (hcheck : r.validate = .ok type) :
    d.dispatch table readings r =
      match table.get type with
      | none => d.drop (.noHandler type) (.noHandler d.connection.clientId type)
      | some h => d.handle readings h r := by
  obtain ⟨hcode, hvalid⟩ := Record.validate_eq_ok_iff.mp hcheck
  rw [dispatch, MessageType.ofCode?_eq_some_iff.mpr hcode, hvalid]
  rfl

theorem dispatch_of_routed (hcheck : r.validate = .ok type) (hroute : table.get type = some h) :
    d.dispatch table readings r = d.handle readings h r := by
  rw [dispatch_of_ok hcheck, hroute]

/-- There is a reason to drop a record, or there is a handler for it. -/
theorem exists_applies_or_routed (table : HandlerTable) (r : Record) :
    (∃ reason : DropReason, reason.Applies table r) ∨
      ∃ type h, r.validate = .ok type ∧ table.get type = some h := by
  cases hcheck : r.validate with
  | ok type =>
      cases hroute : table.get type with
      | none => exact .inl ⟨.noHandler type, hcheck, hroute⟩
      | some h => exact .inr ⟨type, h, rfl, hroute⟩
  | error e =>
      rcases Record.validate_error_cases hcheck with rfl | rfl
      · exact .inl ⟨.unknownType r.header.typeCode, hcheck⟩
      · exact .inl ⟨.invalid, hcheck⟩

theorem dispatch_of_applies (d : Desk) (readings : Readings) {reason : DropReason}
    (happlies : reason.Applies table r) :
    ∃ event, d.dispatch table readings r = d.drop reason event := by
  cases reason with
  | unknownType code => exact ⟨_, dispatch_of_unknown happlies⟩
  | invalid =>
      obtain ⟨type, hdrop⟩ := dispatch_of_invalid d readings happlies
      exact ⟨_, hdrop table⟩
  | noHandler type =>
      obtain ⟨hcheck, hroute⟩ := happlies
      refine ⟨.noHandler d.connection.clientId type, ?_⟩
      rw [dispatch_of_ok hcheck, hroute]

theorem dispatches (d : Desk) (table : HandlerTable) (readings : Readings) (r : Record) :
    d.Dispatches table readings r (d.dispatch table readings r).1 (d.dispatch table readings r).2.1
      (d.dispatch table readings r).2.2 := by
  rcases exists_applies_or_routed table r with ⟨reason, happlies⟩ | ⟨type, h, hcheck, hroute⟩
  · obtain ⟨event, hdrop⟩ := dispatch_of_applies d readings happlies
    rw [hdrop]
    exact .dropped fun type => happlies.get_eq_none
  · rw [dispatch_of_routed hcheck hroute]
    exact dispatches_handle hcheck hroute

/-! ## What a dispatch leaves alone -/

/-- What reading and dispatching leave alone: which connection it is, its stream but for what is
read and written and for its being shut down, the receive pool, which slots of the send pool are
lent, and the counts of connections. -/
structure Keeps (d d' : Desk) : Prop where
  ticket : d'.connection.toTicket = d.connection.toTicket
  peer : d'.connection.peer = d.connection.peer
  stream : ∃ incoming outgoing acceptance shutDown,
    d'.connection.stream = { d.connection.stream with incoming, outgoing, acceptance, shutDown }
  receive : d'.pools.receive = d.pools.receive
  size : d'.pools.send.size = d.pools.send.size
  lent : ∀ i, d'.pools.send.isLent i = d.pools.send.isLent i
  active : d'.counters.active = d.counters.active
  peak : d'.counters.peak = d.counters.peak
  connections : d'.counters.connections = d.counters.connections

namespace Keeps

theorem refl (d : Desk) : d.Keeps d :=
  ⟨rfl, rfl, ⟨_, _, _, _, rfl⟩, rfl, rfl, fun _ => rfl, rfl, rfl, rfl⟩

theorem trans {d'' : Desk} (h : d.Keeps d') (h' : d'.Keeps d'') : d.Keeps d'' where
  ticket := h'.ticket.trans h.ticket
  peer := h'.peer.trans h.peer
  stream := by
    obtain ⟨_, _, _, _, hstream⟩ := h.stream
    obtain ⟨incoming, outgoing, acceptance, shutDown, hstream'⟩ := h'.stream
    exact ⟨incoming, outgoing, acceptance, shutDown, by rw [hstream', hstream]⟩
  receive := h'.receive.trans h.receive
  size := h'.size.trans h.size
  lent i := (h'.lent i).trans (h.lent i)
  active := h'.active.trans h.active
  peak := h'.peak.trans h.peak
  connections := h'.connections.trans h.connections

/-- Which slots are lent, of either pool. -/
theorem isLent_eq (h : d.Keeps d') (direction : Direction) (i : Nat) :
    (d'.pools.get direction).isLent i = (d.pools.get direction).isLent i := by
  cases direction with
  | send => exact h.lent i
  | receive => exact congrArg (Pool.isLent · i) h.receive

end Keeps

theorem keeps_decided (d : Desk) (readings : Readings) (h : Handler) (r : Record) :
    d.Keeps (d.decided readings h r) := by
  unfold decided countWire
  split
  · exact ⟨rfl, rfl, ⟨_, _, _, _, rfl⟩, rfl, rfl, fun _ => rfl, rfl, rfl, rfl⟩
  · exact ⟨rfl, rfl, ⟨_, _, _, _, rfl⟩, rfl, rfl, fun _ => rfl, rfl, rfl, rfl⟩

/-- A slot of the send pool that was lent for an acknowledgment is given back. -/
theorem pools_sent {pools pools' : Pools} {slot : Nat}
    (hlease : pools.lease .send = (some slot, pools')) (ack : Record) :
    let returned := (pools'.write .send slot ack).release .send slot
    returned.receive = pools.receive ∧ returned.send.size = pools.send.size ∧
      ∀ i, returned.send.isLent i = pools.send.isLent i := by
  intro returned
  obtain ⟨hslot, rfl⟩ := Prod.mk.inj hlease
  have hsend : pools.send.lease = (some slot, pools.send.lease.2) := Prod.ext hslot rfl
  refine ⟨rfl, ?_, fun i => Pool.isLent_returned hsend ack⟩
  exact (Pool.size_release _ _).trans ((Pool.size_write _ _ _).trans pools.send.size_lease)

theorem keeps_send {pools pools' : Pools} {slot : Nat} {connection connection' : Connection}
    {counters counters' : Counters} {ack : Record} {result : Except IoError Unit}
    (hlease : pools.lease .send = (some slot, pools'))
    (hsend : connection.send ack = (result, connection'))
    (hcounters : counters'.active = counters.active ∧ counters'.peak = counters.peak ∧
      counters'.connections = counters.connections) :
    Keeps ⟨connection, pools, counters⟩
      ⟨connection', (pools'.write .send slot ack).release .send slot, counters'⟩ := by
  obtain ⟨outgoing, acceptance, hconnection⟩ := connection.send_cases ack
  rw [hsend] at hconnection
  obtain rfl : connection' = _ := hconnection
  obtain ⟨hreceive, hsize, hlent⟩ := pools_sent hlease ack
  obtain ⟨hactive, hpeak, hconnections⟩ := hcounters
  exact ⟨rfl, rfl, ⟨_, _, _, _, rfl⟩, hreceive, hsize, hlent, hactive, hpeak, hconnections⟩

theorem Dispatches.keeps (h : d.Dispatches table readings r outcome d' events) : d.Keeps d' := by
  cases h with
  | dropped _ => exact ⟨rfl, rfl, ⟨_, _, _, _, rfl⟩, rfl, rfl, fun _ => rfl, rfl, rfl, rfl⟩
  | @silent type h _ _ _ =>
      refine (d.keeps_decided readings h r).trans ?_
      exact ⟨rfl, rfl, ⟨_, _, _, _, rfl⟩, rfl, rfl, fun _ => rfl, rfl, rfl, rfl⟩
  | @exhausted type ack h pools _ _ _ lease =>
      refine (d.keeps_decided readings h r).trans ?_
      rw [← pools_decided d readings h r] at lease
      obtain ⟨hnone, rfl⟩ := Prod.mk.inj lease
      exact ⟨rfl, rfl, ⟨_, _, _, _, rfl⟩, rfl, Pool.size_lease _,
        fun i => Pool.isLent_of_lease_none (Prod.ext hnone rfl), rfl, rfl, rfl⟩
  | @sent type ack h slot pools connection _ _ _ lease send =>
      refine (d.keeps_decided readings h r).trans ?_
      rw [← pools_decided d readings h r] at lease
      exact keeps_send lease send ⟨rfl, rfl, rfl⟩
  | @failed type ack h slot pools connection error _ _ _ lease send =>
      refine (d.keeps_decided readings h r).trans ?_
      rw [← pools_decided d readings h r] at lease
      exact keeps_send lease send ⟨rfl, rfl, rfl⟩

/-! ## What a dispatch counts -/

theorem counters_decided (d : Desk) (readings : Readings) (h : Handler) (r : Record) :
    (d.decided readings h r).counters.messages = d.counters.messages ∧
      (d.decided readings h r).counters.dropped = d.counters.dropped ∧
        (d.decided readings h r).counters.shortReads = d.counters.shortReads := by
  unfold decided countWire
  split
  · exact ⟨rfl, rfl, rfl⟩
  · exact ⟨rfl, rfl, rfl⟩

/-- A dispatch counts its record once, as handled or as dropped, and no short read. -/
theorem Dispatches.counts (h : d.Dispatches table readings r outcome d' events) :
    d'.counters.messages + d'.counters.dropped = d.counters.messages + d.counters.dropped + 1 ∧
      d'.counters.shortReads = d.counters.shortReads := by
  -- what a handled record does to the other counters is no matter here
  have hhandled : ∀ h, (d.decided readings h r).counters.messages + 1 +
        (d.decided readings h r).counters.dropped = d.counters.messages + d.counters.dropped + 1 ∧
      (d.decided readings h r).counters.shortReads = d.counters.shortReads := by
    intro h
    obtain ⟨hmessages, hdropped, hshort⟩ := d.counters_decided readings h r
    rw [hmessages, hdropped, UInt64.add_assoc, UInt64.add_comm 1, UInt64.add_assoc]
    exact ⟨rfl, hshort⟩
  cases h with
  | dropped _ => exact ⟨(UInt64.add_assoc _ _ _).symm, rfl⟩
  | @silent type h _ _ _ => exact hhandled h
  | @exhausted type ack h pools _ _ _ _ => exact hhandled h
  | @sent type ack h slot pools connection _ _ _ _ _ => exact hhandled h
  | @failed type ack h slot pools connection error _ _ _ _ _ => exact hhandled h

/-! ## The connection -/

/-- Sending an acknowledgment leaves the connection as the handler did, the writing apart. -/
theorem frame_of_send {ack : Record} {result : Except IoError Unit} {c : Connection}
    (hsend : (d.decided readings h r).connection.send ack = (result, c)) :
    c.standing = (d.decided readings h r).connection.standing ∧
      c.stream.shutDown = (d.decided readings h r).connection.stream.shutDown := by
  obtain ⟨_, _, heq⟩ := (d.decided readings h r).connection.send_cases ack
  rw [hsend] at heq
  obtain rfl : c = _ := heq
  exact ⟨rfl, rfl⟩

/-- A dispatch does to the state of a connection what a handler may do to it, or nothing. -/
theorem Dispatches.state_related {R : Lifecycle → Lifecycle → Prop}
    (h : d.Dispatches table readings r outcome d' events) (hnothing : ∀ state, R state state)
    (hhandlers : ∀ type h, table.get type = some h →
      ∀ q : Request, R q.connection.state (h q).standing.state) :
    R d.connection.state d'.connection.state := by
  cases h with
  | dropped _ => exact hnothing _
  | silent _ routed _ | exhausted _ routed _ _ => exact hhandlers _ _ routed (d.request readings r)
  | sent _ routed _ _ send | failed _ routed _ _ send =>
      have hsent := congrArg Standing.state (frame_of_send send).1
      have hdecided := hhandlers _ _ routed (d.request readings r)
      exact (congrArg (R d.connection.state) hsent).mpr hdecided

/-- The stream is shut down by the handler of the record, and by nothing else. -/
theorem Dispatches.shutDown_eq (h : d.Dispatches table readings r outcome d' events) :
    d'.connection.stream.shutDown =
      (d.connection.stream.shutDown || table.shutsDown (d.request readings r)) := by
  have hdecided : ∀ {type h}, r.validate = .ok type → table.get type = some h →
      (d.decided readings h r).connection.stream.shutDown =
        (d.connection.stream.shutDown || table.shutsDown (d.request readings r)) := by
    intro type h valid routed
    rw [HandlerTable.shutsDown_of_routed (q := d.request readings r) valid routed]
    rfl
  cases h with
  | dropped unhandled =>
      rw [HandlerTable.shutsDown_of_unhandled (q := d.request readings r) unhandled, Bool.or_false]
  | silent valid routed _ => exact hdecided valid routed
  | exhausted valid routed _ _ => exact hdecided valid routed
  | sent valid routed _ _ send | failed valid routed _ _ send =>
      exact (frame_of_send send).2.trans (hdecided valid routed)

theorem Dispatches.shutDown_eq_of_keeps (h : d.Dispatches table readings r outcome d' events)
    (hkeeps : table.KeepsStream) :
    d'.connection.stream.shutDown = d.connection.stream.shutDown := by
  rw [h.shutDown_eq, hkeeps.shutsDown_eq_false, Bool.or_false]

/-- A stream that takes records whole goes on doing so unless the handler shuts it down. -/
theorem accepting_decided (haccepting : d.connection.stream.Accepting)
    (hopen : (d.decided readings h r).connection.stream.shutDown = false) :
    (d.decided readings h r).connection.stream.Accepting :=
  ⟨hopen, haccepting.peerThere, haccepting.whole⟩

/-- On a stream that takes records whole and stays open no acknowledgment fails, and it goes on
taking them. -/
theorem Dispatches.accepting (h : d.Dispatches table readings r outcome d' events)
    (haccepting : d.connection.stream.Accepting)
    (hopen : d'.connection.stream.shutDown = false) :
    d'.connection.stream.Accepting ∧ ∀ latency error, outcome ≠ .writeFailed latency error := by
  cases h with
  | dropped _ => exact ⟨haccepting, fun _ _ => nofun⟩
  | silent _ _ _ | exhausted _ _ _ _ =>
      exact ⟨accepting_decided haccepting hopen, fun _ _ => nofun⟩
  | sent _ _ _ _ send =>
      have hdecided := accepting_decided haccepting ((frame_of_send send).2.symm.trans hopen)
      rw [Connection.send_of_accepting hdecided] at send
      obtain ⟨-, rfl⟩ := Prod.mk.inj send
      exact ⟨hdecided.written _, fun _ _ => nofun⟩
  | failed _ _ _ _ send =>
      have hdecided := accepting_decided haccepting ((frame_of_send send).2.symm.trans hopen)
      rw [Connection.send_of_accepting hdecided] at send
      cases send

/-! ## The receive pool -/

/-- The same desk with another receive pool. -/
def withReceive (d : Desk) (pool : Pool) : Desk :=
  { d with pools := { d.pools with receive := pool } }

theorem sendAck_withReceive (d : Desk) (pool : Pool) (request : Record) (type : MessageType)
    (timestamp : UInt64) :
    (d.withReceive pool).sendAck request type timestamp =
      ((d.sendAck request type timestamp).1,
        (d.sendAck request type timestamp).2.1.withReceive pool,
        (d.sendAck request type timestamp).2.2) := by
  unfold sendAck
  -- the lease is from the send pool, which both desks have
  simp only [withReceive, Pools.lease, Pools.get, Pools.set]
  cases d.pools.send.lease.1 with
  | none => rfl
  | some slot =>
      simp only [Pools.write, Pools.release, Pools.get, Pools.set]
      cases (d.connection.send (request.acknowledge type timestamp)).1 <;> rfl

theorem countWire_withReceive (d : Desk) (pool : Pool) (r : Record) (received : UInt64) :
    (d.withReceive pool).countWire r received = (d.countWire r received).withReceive pool := by
  unfold countWire
  split <;> rfl

theorem handle_withReceive (d : Desk) (pool : Pool) (readings : Readings) (h : Handler)
    (r : Record) :
    (d.withReceive pool).handle readings h r =
      ((d.handle readings h r).1, (d.handle readings h r).2.1.withReceive pool,
        (d.handle readings h r).2.2) := by
  have hdecision : (d.withReceive pool).decision readings h r = d.decision readings h r := rfl
  have hdecided : (d.withReceive pool).decided readings h r =
      (d.decided readings h r).withReceive pool := by
    unfold decided
    rw [countWire_withReceive]
    rfl
  rw [handle_eq, handle_eq, hdecision, hdecided]
  cases (d.decision readings h r).reply with
  | silent => rfl
  | ack ack =>
      simp only [sendAck_withReceive]
      rfl

/-- A dispatch does not see the receive pool. -/
theorem dispatch_withReceive (d : Desk) (pool : Pool) (table : HandlerTable) (readings : Readings)
    (r : Record) :
    (d.withReceive pool).dispatch table readings r =
      ((d.dispatch table readings r).1, (d.dispatch table readings r).2.1.withReceive pool,
        (d.dispatch table readings r).2.2) := by
  unfold dispatch
  split
  · rfl
  · split
    · split
      · rfl
      · exact d.handle_withReceive pool readings _ r
    · rfl

end Desk

end MessageServer
