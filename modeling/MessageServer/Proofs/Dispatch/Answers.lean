import MessageServer.Proofs.Dispatch.Frame

/-!
# What the default handlers answer

Under the default handlers a record is answered or it is not, and the record alone decides which:
`Record.request?`.  The answer is an acknowledgment whose timestamp is all that the clock has to do
with it.

* `Record.Answers`: what every such acknowledgment looks like to a client that checks it.
* `Desk.Dispatches.outgoing`: while the stream takes records whole and a slot of the send pool is
  free, a dispatch writes the acknowledgment of its record and nothing else.
-/

namespace MessageServer

/-- The type of the acknowledgment that a message is answered with. -/
def MessageType.answer? : MessageType → Option MessageType
  | .newOrder | .cancel | .replace => some .orderAck
  | .marketData => some .marketDataAck
  | .heartbeat => some .heartbeat
  | _ => none

namespace HandlerTable

variable {t : HandlerTable} {type : MessageType}

theorem answer?_of_get_eq_none (hdefault : t.handlers = HandlerTable.default.handlers)
    (hget : t.get type = none) : type.answer? = none := by
  rw [get_of_default hdefault] at hget
  cases type <;> first | rfl | cases hget

/-- Every default handler has one reply. -/
theorem reply_of_get_eq_some (hdefault : t.handlers = HandlerTable.default.handlers)
    {h : Handler} (hget : t.get type = some h) :
    ∃ ack, type.answer? = some ack ∧ ∀ q, (h q).reply = .ack ack := by
  rw [get_of_default hdefault] at hget
  cases type <;> cases hget
  all_goals exact ⟨_, rfl, fun _ => rfl⟩

end HandlerTable

namespace Record

variable {r ack : Record} {type : MessageType} {timestamp : UInt64}

/-- The record and the type of its acknowledgment, if it is valid and of a type that is answered. -/
def request? (r : Record) : Option (Record × MessageType) :=
  match r.validate with
  | .ok type => type.answer?.map fun answer => (r, answer)
  | .error _ => none

/-- The requests among the records, in their order. -/
def requests (records : List Record) : List (Record × MessageType) :=
  records.filterMap request?

/-- The record with its timestamp erased. -/
def untimed (r : Record) : Record :=
  { r with header := { r.header with timestamp := 0 } }

/-- The acknowledgment of a request, and what a client finds in it. -/
structure Answers (request : Record × MessageType) (ack : Record) : Prop where
  eq : ∃ timestamp, ack = request.1.acknowledge request.2 timestamp
  valid : ack.validate = .ok request.2
  messageId : ack.header.messageId = request.1.header.messageId
  sequence : ack.header.sequence = request.1.header.sequence
  source : ack.header.source = request.1.header.destination
  destination : ack.header.destination = request.1.header.source
  status : ack.status? = some .processed
  payloadLength : ack.header.payloadLength = 0
  payload : ack.payload = Vector.replicate 88 0

/-- A valid record has an id. -/
theorem messageId_ne_zero (h : r.validate = .ok type) : r.header.messageId ≠ 0 :=
  (isValid_iff.mp (validate_eq_ok_iff.mp h).2).1

theorem validate_acknowledge (hid : r.header.messageId ≠ 0) (htime : timestamp ≠ 0)
    (type : MessageType) : (r.acknowledge type timestamp).validate = .ok type := by
  have hlength : (r.acknowledge type timestamp).header.payloadLength.toNat ≤ payloadSize :=
    Nat.zero_le _
  exact validate_eq_ok_iff.mpr ⟨rfl, isValid_iff.mpr ⟨hid, htime, hlength⟩⟩

theorem request?_eq_some {q : Record × MessageType} (h : r.request? = some q) :
    q.1 = r ∧ ∃ type, r.validate = .ok type ∧ type.answer? = some q.2 := by
  unfold request? at h
  split at h
  · next type hvalid =>
      obtain ⟨answer, hanswer, rfl⟩ := Option.map_eq_some_iff.mp h
      exact ⟨rfl, type, hvalid, hanswer⟩
  · cases h

/-- Any clock reading but zero gives a proper answer to a request. -/
theorem answers_acknowledge {q : Record × MessageType} (h : r.request? = some q)
    (htime : timestamp ≠ 0) : Answers q (q.1.acknowledge q.2 timestamp) := by
  obtain ⟨rfl, type, hvalid, -⟩ := request?_eq_some h
  exact
    { eq := ⟨timestamp, rfl⟩
      valid := validate_acknowledge (messageId_ne_zero hvalid) htime q.2
      messageId := rfl
      sequence := rfl
      source := rfl
      destination := rfl
      status := rfl
      payloadLength := rfl
      payload := rfl }

/-- Answers to the same requests are the same up to their timestamps. -/
theorem untimed_answers {qs : List (Record × MessageType)} {acks : List Record}
    (h : List.Forall₂ Answers qs acks) :
    acks.map untimed = qs.map fun q => (q.1.acknowledge q.2 0).untimed := by
  induction h with
  | nil => rfl
  | @cons q ack qs acks hanswers _ ih =>
      obtain ⟨timestamp, rfl⟩ := hanswers.eq
      rw [List.map_cons, List.map_cons, ih]
      rfl

end Record

namespace Desk

variable {d d' : Desk} {table : HandlerTable} {readings : Readings} {r : Record}
  {outcome : Outcome} {events : List DispatchEvent}

/-- A slot of the send pool is free. -/
def HasSendSlot (d : Desk) : Prop :=
  ∃ i, i < d.pools.send.size ∧ d.pools.send.isLent i = false

theorem HasSendSlot.keep (h : d.HasSendSlot) (hkeeps : d.Keeps d') :
    d'.HasSendSlot := by
  obtain ⟨i, hi, hfree⟩ := h
  refine ⟨i, ?_, ?_⟩
  · rw [hkeeps.size]
    exact hi
  · rw [hkeeps.lent]
    exact hfree

/-- What the handlers acknowledge are the requests. -/
theorem request?_of_reply (hdefault : table.handlers = HandlerTable.default.handlers)
    {type ack : MessageType} {h : Handler} (valid : r.validate = .ok type)
    (routed : table.get type = some h) (reply : (d.decision readings h r).reply = .ack ack) :
    r.request? = some (r, ack) := by
  obtain ⟨answer, hanswer, hall⟩ := HandlerTable.reply_of_get_eq_some hdefault routed
  have hsame : answer = ack := by
    have heq := (hall _).symm.trans reply
    cases heq
    rfl
  simp only [Record.request?, valid, hanswer, hsame, Option.map_some]

/-- What is not handled is no request. -/
theorem request?_of_unhandled (hdefault : table.handlers = HandlerTable.default.handlers)
    (unhandled : ∀ type, r.validate = .ok type → table.get type = none) : r.request? = none := by
  unfold Record.request?
  split
  · next type hvalid =>
      rw [HandlerTable.answer?_of_get_eq_none hdefault (unhandled type hvalid)]
      rfl
  · rfl

/-- A dispatch writes the acknowledgment of its record, if it has one. -/
theorem Dispatches.outgoing (h : d.Dispatches table readings r outcome d' events)
    (hdefault : table.handlers = HandlerTable.default.handlers) (hslot : d.HasSendSlot)
    (haccepting : d.connection.stream.Accepting) :
    d'.connection.stream.outgoing =
      d.connection.stream.outgoing ++
        match r.request? with
        | some q => (q.1.acknowledge q.2 readings.acknowledged).toBytes
        | none => [] := by
  -- the default handlers shut nothing down
  have hopen : d'.connection.stream.shutDown = false :=
    (h.shutDown_eq_of_keeps (HandlerTable.keepsStream_of_default hdefault)).trans
      haccepting.notShutDown
  cases h with
  | dropped unhandled => rw [request?_of_unhandled hdefault unhandled, List.append_nil]
  | silent _ routed reply =>
      -- no default handler is silent
      obtain ⟨answer, -, hall⟩ := HandlerTable.reply_of_get_eq_some hdefault routed
      cases (hall _).symm.trans reply
  | exhausted _ _ _ lease =>
      -- the free slot would have been lent
      obtain ⟨i, hi, hfree⟩ := hslot
      have hnone : d.pools.send.lease.1 = none := congrArg Prod.fst lease
      rw [Pool.lease_eq_none_iff.mp hnone i hi] at hfree
      cases hfree
  | sent valid routed reply _ send =>
      have hdecided := accepting_decided haccepting ((frame_of_send send).2.symm.trans hopen)
      rw [Connection.send_of_accepting hdecided] at send
      obtain ⟨-, rfl⟩ := Prod.mk.inj send
      rw [request?_of_reply hdefault valid routed reply]
      rfl
  | failed _ _ _ _ send =>
      have hdecided := accepting_decided haccepting ((frame_of_send send).2.symm.trans hopen)
      rw [Connection.send_of_accepting hdecided] at send
      cases send

end Desk

end MessageServer
