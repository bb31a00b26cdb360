import Mathlib.Data.List.Induction
import MessageServer.Proofs.Dispatch.Frame

/-!
# What dispatches count

A `Turn` is one dispatch of a sequence.  From turn to turn the counters go on; the connection and
the pools are whatever the turn finds.  In between others may have taken slots of the send pool or
given them back, the stream may have changed in any way, and the next record may come from another
connection.

`Turn.Ends` has one case for each way in which a turn can end, in terms of what can be seen from
outside: what the handler replies, if one runs, whether a slot is free, and whether the stream takes
the acknowledgment whole.  `Turn.ends` says that every turn is one of them.

* `Turn.Balanced`: what one turn enters into the books, how it ends, and what it gives back.
* `Totals`: the counters after any number of turns.
* `dispatches_balanced`: after any turns the totals are right, and the next turn is balanced.
-/

namespace MessageServer

/-! ## Writing in full and in part -/

theorem Record.toBytes_ne_nil (r : Record) : r.toBytes ≠ [] :=
  List.ne_nil_of_length_pos (r.length_toBytes ▸ (by decide : 0 < 128))

namespace Stream

/-- The stream takes the record whole. -/
def takes (s : Stream) (r : Record) : Bool :=
  match (s.write r.toBytes).1 with
  | .ok count => count == Record.size
  | .error _ => false

/-- A write appends the first part of a record, and answers the whole number only if that is all. -/
theorem write_part (s : Stream) (r : Record) :
    ∃ part, part <+: r.toBytes ∧ (s.write r.toBytes).2.outgoing = s.outgoing ++ part ∧
      (s.takes r = true ↔ part = r.toBytes) := by
  have hlength := r.length_toBytes
  have hsome : [] ≠ r.toBytes := r.toBytes_ne_nil.symm
  unfold takes write
  split
  · exact ⟨[], List.nil_prefix, (List.append_nil _).symm, nofun, fun h => absurd h hsome⟩
  · split
    · exact ⟨_, List.prefix_refl _, rfl, fun _ => rfl, fun _ => beq_iff_eq.mpr hlength⟩
    · next count rest _ =>
        have hpart : r.toBytes.take count <+: r.toBytes := List.take_prefix count r.toBytes
        refine ⟨_, hpart, rfl, fun h => ?_, fun h => ?_⟩
        · exact hpart.eq_of_length ((beq_iff_eq.mp h).trans hlength.symm)
        · exact beq_iff_eq.mpr ((congrArg List.length h).trans hlength)
    · exact ⟨[], List.nil_prefix, (List.append_nil _).symm, nofun, fun h => absurd h hsome⟩

end Stream

namespace Connection

theorem stream_send (c : Connection) (r : Record) :
    (c.send r).2.stream = (c.stream.write r.toBytes).2 := by
  unfold send
  rcases c.stream.write r.toBytes with ⟨_ | written, stream⟩
  · rfl
  · dsimp only
    split_ifs <;> rfl

/-- Sending succeeds where the stream takes the record whole. -/
theorem send_eq_ok_iff {c : Connection} {r : Record} :
    (c.send r).1 = .ok () ↔ c.stream.takes r = true := by
  unfold send Stream.takes
  rcases c.stream.write r.toBytes with ⟨_ | written, stream⟩
  · simp
  · dsimp only
    split_ifs with hall
    · simp [hall]
    · simp [hall]

end Connection

/-! ## Turns -/

/-- What one dispatch finds, the counters apart. -/
structure Turn where
  connection : Connection
  pools : Pools
  readings : Readings
  record : Record

namespace Turn

/-- The desk of a turn that finds these counters. -/
def desk (t : Turn) (counters : Counters) : Desk :=
  ⟨t.connection, t.pools, counters⟩

/-- The dispatch of a turn that finds these counters. -/
def run (t : Turn) (table : HandlerTable) (counters : Counters) :
    Outcome × Desk × List DispatchEvent :=
  (t.desk counters).dispatch table t.readings t.record

/-- What a handler is asked. -/
def request (t : Turn) : Request :=
  ⟨t.record, t.connection, t.readings.handled⟩

/-- What the handler of the record replies, if one runs. -/
def reply? (t : Turn) (table : HandlerTable) : Option Reply :=
  (table.decision? t.request).map (·.reply)

/-- The stream of the connection as the handler of the record leaves it. -/
def streamLeft (t : Turn) (table : HandlerTable) : Stream :=
  { t.connection.stream with
    shutDown := t.connection.stream.shutDown || table.shutsDown t.request }

/-- A handler runs. -/
def handles (t : Turn) (table : HandlerTable) : Bool :=
  (t.reply? table).isSome

/-- The acknowledgment of this type. -/
def acknowledgment (t : Turn) (type : MessageType) : Record :=
  t.record.acknowledge type t.readings.acknowledged

/-- The acknowledgment that the handler wants sent. -/
def ack? (t : Turn) (table : HandlerTable) : Option Record :=
  match t.reply? table with
  | some (.ack type) => some (t.acknowledgment type)
  | _ => none

/-- A slot of the send pool is free. -/
def hasSlot (t : Turn) : Bool :=
  (List.range t.pools.send.size).any fun i => !t.pools.send.isLent i

/-- The stream takes this record whole when the handler is done. -/
def takes (t : Turn) (table : HandlerTable) (ack : Record) : Bool :=
  (t.streamLeft table).takes ack

/-- An acknowledgment is wanted and cannot be written in full. -/
def fails (t : Turn) (table : HandlerTable) : Bool :=
  match t.ack? table with
  | some ack => !(t.hasSlot && t.takes table ack)
  | none => false

/-- A handler runs on a record whose timestamp is not in the future. -/
def timed (t : Turn) (table : HandlerTable) : Bool :=
  t.handles table && decide (t.record.header.timestamp ≤ t.readings.received)

/-- How long the record was on its way. -/
def elapsed (t : Turn) : UInt64 :=
  t.readings.received - t.record.header.timestamp

/-- The counters when the handler begins. -/
def onWire (t : Turn) (counters : Counters) : Counters :=
  if t.record.header.timestamp ≤ t.readings.received then counters.recordWireLatency t.elapsed
  else counters

variable {t : Turn} {table : HandlerTable} {before : Counters} {outcome : Outcome} {after : Desk}
  {events : List DispatchEvent}

theorem hasSlot_iff : t.hasSlot = true ↔ (t.pools.lease .send).1 ≠ none := by
  have hlease : (t.pools.lease .send).1 = t.pools.send.lease.1 := rfl
  rw [hlease, ne_eq, Pool.lease_eq_none_iff, hasSlot, List.any_eq_true]
  simp

/-- How a turn ends: the record is dropped; it is handled without an answer, or without a free slot
for the answer; or the answer is written, or a part of it that is not all. -/
inductive Ends (t : Turn) (table : HandlerTable) (before : Counters) : Outcome → Desk → Prop where
  | dropped {reason : DropReason} {after : Desk} (reply : t.reply? table = none)
      (counters : after.counters = before.recordDrop)
      (outgoing : after.connection.stream.outgoing = t.connection.stream.outgoing) :
      Ends t table before (.dropped reason) after
  | silent {after : Desk} (reply : t.reply? table = some .silent)
      (counters : after.counters = (t.onWire before).recordMessage t.readings.latency)
      (outgoing : after.connection.stream.outgoing = t.connection.stream.outgoing) :
      Ends t table before (.handled t.readings.latency false) after
  | exhausted {type : MessageType} {after : Desk} (reply : t.reply? table = some (.ack type))
      (slot : t.hasSlot = false)
      (counters : after.counters =
        (t.onWire before).recordSendFailure.recordMessage t.readings.latency)
      (outgoing : after.connection.stream.outgoing = t.connection.stream.outgoing) :
      Ends t table before (.handled t.readings.latency false) after
  | sent {type : MessageType} {after : Desk} (reply : t.reply? table = some (.ack type))
      (slot : t.hasSlot = true) (takes : t.takes table (t.acknowledgment type) = true)
      (counters : after.counters = (t.onWire before).recordMessage t.readings.latency)
      (outgoing : after.connection.stream.outgoing =
        t.connection.stream.outgoing ++ (t.acknowledgment type).toBytes) :
      Ends t table before (.handled t.readings.latency true) after
  | failed {type : MessageType} {error : IoError} {part : List UInt8} {after : Desk}
      (reply : t.reply? table = some (.ack type)) (slot : t.hasSlot = true)
      (takes : t.takes table (t.acknowledgment type) = false)
      (counters : after.counters =
        (t.onWire before).recordSendFailure.recordMessage t.readings.latency)
      (short : part <+: (t.acknowledgment type).toBytes ∧ part ≠ (t.acknowledgment type).toBytes)
      (outgoing : after.connection.stream.outgoing = t.connection.stream.outgoing ++ part) :
      Ends t table before (.writeFailed t.readings.latency error) after

theorem reply?_of_routed {type : MessageType} {h : Handler} (valid : t.record.validate = .ok type)
    (routed : table.get type = some h) :
    t.reply? table = some ((t.desk before).decision t.readings h t.record).reply := by
  rw [reply?, HandlerTable.decision?_of_routed (q := t.request) valid routed]
  rfl

theorem counters_decided (h : Handler) :
    ((t.desk before).decided t.readings h t.record).counters = t.onWire before := by
  unfold Desk.decided Desk.countWire onWire
  split <;> rfl

theorem hasSlot_of_lease {slot : Nat} {pools : Pools}
    (lease : t.pools.lease .send = (some slot, pools)) : t.hasSlot = true := by
  rw [hasSlot_iff, lease]
  exact Option.some_ne_none slot

/-- What is on the stream when an acknowledgment was sent, or failed to be. -/
theorem written_of_send {type : MessageType} {h : Handler} {ack : Record}
    {result : Except IoError Unit} {connection : Connection}
    (valid : t.record.validate = .ok type) (routed : table.get type = some h)
    (send : ((t.desk before).decided t.readings h t.record).connection.send ack =
      (result, connection)) :
    (result = .ok () ↔ t.takes table ack = true) ∧
      ∃ part, part <+: ack.toBytes ∧
        connection.stream.outgoing = t.connection.stream.outgoing ++ part ∧
        (t.takes table ack = true ↔ part = ack.toBytes) := by
  let decided := ((t.desk before).decided t.readings h t.record).connection
  have hstream : decided.stream = t.streamLeft table := by
    rw [streamLeft, HandlerTable.shutsDown_of_routed (q := t.request) valid routed]
    rfl
  obtain ⟨part, hstart, hpart, hall⟩ := (t.streamLeft table).write_part ack
  have hresult : (decided.send ack).1 = .ok () ↔ decided.stream.takes ack = true :=
    Connection.send_eq_ok_iff
  have hsent := Connection.stream_send decided ack
  rw [show decided.send ack = (result, connection) from send, hstream] at hresult hsent
  refine ⟨hresult, part, hstart, ?_, hall⟩
  rw [hsent, hpart]
  rfl

/-- What a turn does is one of the cases. -/
theorem ends_of_dispatches
    (h : (t.desk before).Dispatches table t.readings t.record outcome after events) :
    t.Ends table before outcome after := by
  have hreply : ∀ {type : MessageType} {h : Handler} {reply : Reply},
      t.record.validate = .ok type → table.get type = some h →
        ((t.desk before).decision t.readings h t.record).reply = reply →
          t.reply? table = some reply :=
    fun valid routed reply => (reply?_of_routed valid routed).trans (congrArg some reply)
  cases h with
  | dropped unhandled =>
      refine .dropped ?_ rfl rfl
      rw [reply?, HandlerTable.decision?_of_unhandled (q := t.request) unhandled, Option.map_none]
  | silent valid routed reply =>
      refine .silent (hreply valid routed reply) ?_ rfl
      rw [counters_decided]
  | exhausted valid routed reply lease =>
      refine .exhausted (hreply valid routed reply) ?_ ?_ rfl
      · rw [Bool.eq_false_iff, ne_eq, hasSlot_iff, not_not]
        exact congrArg Prod.fst lease
      · rw [counters_decided]
  | sent valid routed reply lease send =>
      obtain ⟨hresult, part, -, hpart, hall⟩ := written_of_send valid routed send
      have htakes := hresult.mp rfl
      refine .sent (hreply valid routed reply) (hasSlot_of_lease lease) htakes ?_ ?_
      · rw [counters_decided]
      · rw [hpart, hall.mp htakes]
        rfl
  | failed valid routed reply lease send =>
      obtain ⟨hresult, part, hstart, hpart, hall⟩ := written_of_send valid routed send
      have hfails := Bool.eq_false_iff.mpr fun htakes => nomatch hresult.mpr htakes
      refine .failed (hreply valid routed reply) (hasSlot_of_lease lease) hfails ?_
        ⟨hstart, fun heq => ?_⟩ hpart
      · rw [counters_decided]
      · exact Bool.eq_false_iff.mp hfails (hall.mpr heq)

theorem ends (t : Turn) (table : HandlerTable) (before : Counters) :
    t.Ends table before (t.run table before).1 (t.run table before).2.1 :=
  ends_of_dispatches ((t.desk before).dispatches table t.readings t.record)

/-! ## The books -/

/-- What a turn enters into the books, how it ends, and what it gives back. -/
structure Balanced (t : Turn) (table : HandlerTable) (before : Counters) (outcome : Outcome)
    (after : Desk) : Prop where
  /-- A record is counted once, as handled or as dropped. -/
  taken : after.counters.messages + after.counters.dropped = before.messages + before.dropped + 1
  /-- A record counts as handled whatever becomes of its acknowledgment. -/
  messages : after.counters.messages = before.messages + if t.handles table then 1 else 0
  samples : after.counters.latencySamples =
    before.latencySamples + if t.handles table then 1 else 0
  sendFailures : after.counters.sendFailures = before.sendFailures + if t.fails table then 1 else 0
  wireSamples : after.counters.wireLatencySamples =
    before.wireLatencySamples + if t.timed table then 1 else 0
  wireSum : after.counters.wireLatencySum =
    before.wireLatencySum + if t.timed table then t.elapsed else 0
  /-- The subtraction does not go below zero where its result is used. -/
  elapsed : t.timed table = true →
    t.record.header.timestamp.toNat + t.elapsed.toNat = t.readings.received.toNat
  /-- What fails to be sent is not on the stream in full. -/
  fails_iff : t.fails table = true ↔ ∃ ack, t.ack? table = some ack ∧
    after.connection.stream.outgoing ≠ t.connection.stream.outgoing ++ ack.toBytes
  acked_iff : (∃ latency, outcome = .handled latency true) ↔ ∃ ack, t.ack? table = some ack ∧
    after.connection.stream.outgoing = t.connection.stream.outgoing ++ ack.toBytes
  writeFailed_iff : (∃ latency error, outcome = .writeFailed latency error) ↔
    ∃ ack, t.ack? table = some ack ∧ t.hasSlot = true ∧ t.takes table ack = false
  unacked_iff : (∃ latency, outcome = .handled latency false) ↔
    t.reply? table = some .silent ∨ (t.ack? table).isSome ∧ t.hasSlot = false
  dropped_iff : (∃ reason, outcome = .dropped reason) ↔ t.handles table = false
  /-- Nothing but the acknowledgment or its first part is written. -/
  written : ∃ part, after.connection.stream.outgoing = t.connection.stream.outgoing ++ part ∧
    (part = [] ∨ ∃ ack, t.ack? table = some ack ∧ part <+: ack.toBytes)
  /-- The slots that are lent are those that were lent before. -/
  lent : ∀ direction i, (after.pools.get direction).isLent i = (t.pools.get direction).isLent i

/-- What the cases say of the counters. -/
theorem Ends.counters (h : t.Ends table before outcome after) :
    after.counters.messages = (before.messages + if t.handles table then 1 else 0) ∧
      after.counters.dropped = (before.dropped + if t.handles table then 0 else 1) ∧
      after.counters.latencySamples =
        (before.latencySamples + if t.handles table then 1 else 0) ∧
      after.counters.sendFailures = (before.sendFailures + if t.fails table then 1 else 0) ∧
      after.counters.wireLatencySamples =
        (before.wireLatencySamples + if t.timed table then 1 else 0) ∧
      after.counters.wireLatencySum =
        (before.wireLatencySum + if t.timed table then t.elapsed else 0) := by
  have hwire : ∀ {reply : Reply}, t.reply? table = some reply →
      (t.onWire before).wireLatencySamples =
        (before.wireLatencySamples + if t.timed table then 1 else 0) ∧
      (t.onWire before).wireLatencySum =
        (before.wireLatencySum + if t.timed table then t.elapsed else 0) ∧
      (t.onWire before).messages = before.messages ∧ (t.onWire before).dropped = before.dropped ∧
      (t.onWire before).latencySamples = before.latencySamples ∧
      (t.onWire before).sendFailures = before.sendFailures := by
    intro reply hreply
    by_cases htime : t.record.header.timestamp ≤ t.readings.received
    · simp [onWire, timed, handles, hreply, htime, Counters.recordWireLatency]
    · simp [onWire, timed, handles, hreply, htime]
  cases h with
  | dropped reply counters =>
      simp [counters, Counters.recordDrop, handles, fails, ack?, timed, reply]
  | silent reply counters =>
      simp [counters, Counters.recordMessage, handles, fails, ack?, reply, hwire reply]
  | exhausted reply slot counters =>
      simp [counters, Counters.recordMessage, Counters.recordSendFailure, handles, fails, ack?,
        reply, slot, hwire reply]
  | sent reply slot takes counters =>
      simp [counters, Counters.recordMessage, handles, fails, ack?, reply, slot, takes, hwire reply]
  | failed reply slot takes counters =>
      simp [counters, Counters.recordMessage, Counters.recordSendFailure, handles, fails, ack?,
        reply, slot, takes, hwire reply]

/-- What the cases say of the stream. -/
theorem Ends.written (h : t.Ends table before outcome after) :
    ∃ part, after.connection.stream.outgoing = t.connection.stream.outgoing ++ part ∧
      (part = [] ∨ ∃ ack, t.ack? table = some ack ∧ part <+: ack.toBytes) := by
  cases h with
  | dropped _ _ outgoing | silent _ _ outgoing | exhausted _ _ _ outgoing =>
      exact ⟨[], by rw [outgoing, List.append_nil], .inl rfl⟩
  | @sent type _ reply _ _ _ outgoing =>
      exact ⟨_, outgoing, .inr ⟨t.acknowledgment type, by rw [ack?, reply], List.prefix_refl _⟩⟩
  | @failed type _ part _ reply _ _ _ short outgoing =>
      exact ⟨part, outgoing, .inr ⟨t.acknowledgment type, by rw [ack?, reply], short.1⟩⟩

/-- What the cases say of the outcome, where an acknowledgment was wanted. -/
theorem Ends.ack_iff (h : t.Ends table before outcome after) :
    (t.fails table = true ↔ ∃ ack, t.ack? table = some ack ∧
      after.connection.stream.outgoing ≠ t.connection.stream.outgoing ++ ack.toBytes) ∧
    ((∃ latency, outcome = .handled latency true) ↔ ∃ ack, t.ack? table = some ack ∧
      after.connection.stream.outgoing = t.connection.stream.outgoing ++ ack.toBytes) ∧
    ((∃ latency error, outcome = .writeFailed latency error) ↔
      ∃ ack, t.ack? table = some ack ∧ t.hasSlot = true ∧ t.takes table ack = false) := by
  cases h with
  | dropped reply => simp [fails, ack?, reply]
  | silent reply => simp [fails, ack?, reply]
  | exhausted reply slot _ outgoing =>
      simp [fails, ack?, reply, slot, outgoing, Record.toBytes_ne_nil]
  | sent reply slot takes _ outgoing => simp [fails, ack?, reply, slot, takes, outgoing]
  | failed reply slot takes _ short outgoing =>
      simp [fails, ack?, reply, slot, takes, outgoing, short.2]

/-- What the cases say of the outcome, where nothing was written. -/
theorem Ends.unacked_iff (h : t.Ends table before outcome after) :
    ((∃ latency, outcome = .handled latency false) ↔
      t.reply? table = some .silent ∨ (t.ack? table).isSome ∧ t.hasSlot = false) ∧
    ((∃ reason, outcome = .dropped reason) ↔ t.handles table = false) := by
  cases h with
  | dropped reply => simp [handles, ack?, reply]
  | silent reply => simp [handles, reply]
  | exhausted reply slot => simp [handles, ack?, reply, slot]
  | sent reply slot => simp [handles, ack?, reply, slot]
  | failed reply slot => simp [handles, ack?, reply, slot]

theorem balanced (t : Turn) (table : HandlerTable) (before : Counters) :
    t.Balanced table before (t.run table before).1 (t.run table before).2.1 := by
  have hdispatches := (t.desk before).dispatches table t.readings t.record
  have hends := t.ends table before
  obtain ⟨hmessages, -, hsamples, hfailures, hwire, hsum⟩ := hends.counters
  obtain ⟨hfails, hacked, hwriteFailed⟩ := hends.ack_iff
  obtain ⟨hunacked, hdropped⟩ := hends.unacked_iff
  exact
    { taken := hdispatches.counts.1
      messages := hmessages
      samples := hsamples
      sendFailures := hfailures
      wireSamples := hwire
      wireSum := hsum
      elapsed := fun htimed => by
        have hle : t.record.header.timestamp ≤ t.readings.received :=
          of_decide_eq_true (Bool.and_eq_true_iff.mp htimed).2
        rw [elapsed, UInt64.toNat_sub_of_le _ _ hle]
        exact Nat.add_sub_of_le (UInt64.le_iff_toNat_le.mp hle)
      fails_iff := hfails
      acked_iff := hacked
      writeFailed_iff := hwriteFailed
      unacked_iff := hunacked
      dropped_iff := hdropped
      written := hends.written
      lent := hdispatches.keeps.isLent_eq }

end Turn

/-! ## Turns one after the other -/

/-- The counters after the turns. -/
def Counters.afterTurns (table : HandlerTable) (counters : Counters) (turns : List Turn) :
    Counters :=
  turns.foldl (fun c t => (t.run table c).2.1.counters) counters

/-- What the turns add up to, from counters at zero. -/
structure Totals (table : HandlerTable) (turns : List Turn) (counters : Counters) : Prop where
  taken : counters.messages + counters.dropped = UInt64.ofNat turns.length
  messages : counters.messages = UInt64.ofNat (turns.countP (·.handles table))
  samples : counters.latencySamples = counters.messages
  sendFailures : counters.sendFailures = UInt64.ofNat (turns.countP (·.fails table))
  wireSamples : counters.wireLatencySamples = UInt64.ofNat (turns.countP (·.timed table))

namespace Totals

variable {table : HandlerTable} {turns : List Turn} {counters : Counters}

theorem nil (table : HandlerTable) : Totals table [] Counters.zero :=
  ⟨rfl, rfl, rfl, rfl, rfl⟩

/-- A count with one more turn behind the others. -/
theorem ofNat_countP_append (p : Turn → Bool) (turns : List Turn) (t : Turn) :
    UInt64.ofNat ((turns ++ [t]).countP p) =
      UInt64.ofNat (turns.countP p) + if p t then 1 else 0 := by
  rw [List.countP_append, UInt64.ofNat_add, List.countP_singleton]
  split_ifs <;> rfl

theorem append (h : Totals table turns counters) (t : Turn) :
    Totals table (turns ++ [t]) (t.run table counters).2.1.counters := by
  have hturn := t.balanced table counters
  exact
    { taken := by
        rw [hturn.taken, h.taken, List.length_append, UInt64.ofNat_add]
        rfl
      messages := by rw [hturn.messages, h.messages, ofNat_countP_append]
      samples := by rw [hturn.samples, hturn.messages, h.samples]
      sendFailures := by rw [hturn.sendFailures, h.sendFailures, ofNat_countP_append]
      wireSamples := by rw [hturn.wireSamples, h.wireSamples, ofNat_countP_append] }

end Totals

theorem totals_afterTurns (table : HandlerTable) (turns : List Turn) :
    Totals table turns (Counters.zero.afterTurns table turns) := by
  induction turns using List.reverseRecOn with
  | nil => exact .nil table
  | append_singleton turns t ih =>
      rw [Counters.afterTurns, List.foldl_append]
      exact ih.append t

/-! ## Records one after the other on one desk -/

/-- The desk after the records, each with its clock readings. -/
def Desk.dispatchAll (d : Desk) (table : HandlerTable) (calls : List (Readings × Record)) : Desk :=
  calls.foldl (fun d call => (d.dispatch table call.1 call.2).2.1) d

theorem Desk.keeps_dispatchAll (d : Desk) (table : HandlerTable)
    (calls : List (Readings × Record)) : d.Keeps (d.dispatchAll table calls) := by
  induction calls generalizing d with
  | nil => exact .refl d
  | cons call calls ih => exact (d.dispatches table call.1 call.2).keeps.trans (ih _)

/-- After any turns from counters at zero the totals are right, and the next turn enters one record
into the books, fails if and only if an acknowledgment is not written in full, ends accordingly, and
gives back the slot that it took.  So no slot is lost, however many records one desk dispatches. -/
theorem dispatches_balanced (table : HandlerTable) (turns : List Turn) (t : Turn) :
    Totals table turns (Counters.zero.afterTurns table turns) ∧
      t.Balanced table (Counters.zero.afterTurns table turns)
        (t.run table (Counters.zero.afterTurns table turns)).1
        (t.run table (Counters.zero.afterTurns table turns)).2.1 ∧
      ∀ (d : Desk) (calls : List (Readings × Record)) (direction : Direction) (i : Nat),
        ((d.dispatchAll table calls).pools.get direction).isLent i =
          (d.pools.get direction).isLent i :=
  ⟨totals_afterTurns table turns, t.balanced table _,
    fun d calls => (d.keeps_dispatchAll table calls).isLent_eq⟩

end MessageServer
