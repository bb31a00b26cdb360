import MessageServer.Proofs.Dispatch.Accounting
import MessageServer.Proofs.Drain.Intake

/-!
# A pass read by read

What the reads of a socket find is settled before a pass begins, except that a handler can shut the
stream down: `Pass.answerAt` says what the next read finds behind so many others, whatever became of
what they gave, and whether the stream has ended by then.  `Pass.Reads` is the pass as the list of
its reads, with all that each of them changes, `Pass.Takes`; a read that has an `ending?` is the
last one.

`Pass.Drains` says less: it knows the pieces that were taken, and forgets the interruptions and the
read that ended the pass.  `exists_reads` and `Reads.drains` lead from one to the other.

`Reads.scripted` sums up: the reads are the first ones of the script up to the first that ends the
pass, none is made behind it, every full one is dispatched once, and every short one is counted.
-/

namespace MessageServer

/-! ## Scripts -/

namespace Arrival

/-- The arrivals that are left when so many reads have been made. -/
def leftAfter (incoming : List Arrival) : Nat → List Arrival
  | 0 => incoming
  | n + 1 => leftAfter (read Record.size false incoming).2 n

/-- Whether the stream has ended makes no difference to what a read leaves. -/
theorem read_snd (size : Nat) (ended : Bool) (incoming : List Arrival) :
    (read size ended incoming).2 = (read size false incoming).2 := by
  match incoming with
  | [] | data _ :: _ | interrupted :: _ | failed _ :: _ => rfl

/-- A read gives at most one record. -/
theorem length_le_of_read {atEnd : Bool} {incoming rest : List Arrival} {got : List UInt8}
    (h : read Record.size atEnd incoming = (.ok got, rest)) : got.length ≤ Record.size := by
  match incoming with
  | [] =>
      cases atEnd with
      | false => cases h
      | true =>
          cases h
          exact Nat.zero_le _
  | data bytes :: more =>
      obtain ⟨hgot, -⟩ := Prod.mk.inj h
      rw [← Except.ok.inj hgot]
      exact List.length_take_le _ _
  | interrupted :: more => cases h
  | failed e :: more => cases h

end Arrival

/-- One read of a pass, and what came of it. -/
inductive Reading where
  /-- A whole record, which this turn dispatched. -/
  | record (turn : Turn) (outcome : Outcome)
  | fragment (bytes : List UInt8)
  | interrupted
  | peerClosed
  | blocked
  | failed (error : IoError)

namespace Reading

/-- How a pass ends with this read, if it does. -/
def ending? : Reading → Option Drained
  | record _ (.writeFailed _ e) => some (.writeFailed e)
  | record _ _ | fragment _ | interrupted => none
  | peerClosed => some .peerClosed
  | blocked => some .pending
  | failed e => some (.readFailed e)

/-- The piece that was taken, if any. -/
def intake? : Reading → Option Intake
  | record turn _ => some (.record turn.record)
  | fragment bytes => some (.fragment bytes)
  | interrupted | peerClosed | blocked | failed _ => none

/-- The dispatch, if there was one. -/
def turn? : Reading → Option Turn
  | record turn _ => some turn
  | fragment _ | interrupted | peerClosed | blocked | failed _ => none

def isFragment : Reading → Bool
  | fragment _ => true
  | record _ _ | interrupted | peerClosed | blocked | failed _ => false

/-- The handler of the record that was read shuts the stream down. -/
def shutsDown (table : HandlerTable) : Reading → Bool
  | record turn _ => table.shutsDown turn.request
  | fragment _ | interrupted | peerClosed | blocked | failed _ => false

/-- The socket answered a read in this way: with 128 bytes, fewer, or none, or with an error. -/
def Answers : Reading → Except IoError (List UInt8) → Prop
  | record turn _, got => got = .ok turn.record.toBytes
  | fragment bytes, got => got = .ok bytes ∧ 0 < bytes.length ∧ bytes.length < 128
  | interrupted, got => ∃ e : IoError, got = .error e ∧ e.kind = .interrupted
  | peerClosed, got => got = .ok []
  | blocked, got => ∃ e : IoError, got = .error e ∧ e.kind = .wouldBlock
  | failed e, got => got = .error e ∧ e.kind ≠ .interrupted ∧ e.kind ≠ .wouldBlock

theorem ending?_record_of_answered {turn : Turn} {outcome : Outcome}
    (answered : ∀ latency error, outcome ≠ .writeFailed latency error) :
    (record turn outcome).ending? = none := by
  cases outcome with
  | writeFailed latency error => exact absurd rfl (answered latency error)
  | handled _ _ => rfl
  | dropped _ => rfl

/-- The pieces of the reads are their dispatches and their fragments. -/
theorem length_filterMap_intake? (rs : List Reading) :
    ((rs.filterMap intake?).filterMap Intake.record?).length = (rs.filterMap turn?).length ∧
      (rs.filterMap intake?).countP Intake.isFragment = rs.countP isFragment := by
  induction rs with
  | nil => exact ⟨rfl, rfl⟩
  | cons r rs ih =>
      obtain ⟨hrecords, hfragments⟩ := ih
      cases r with
      | record turn outcome => exact ⟨congrArg (· + 1) hrecords, hfragments⟩
      | fragment bytes =>
          rw [List.countP_cons_of_pos rfl, ← hfragments]
          exact ⟨hrecords, List.countP_cons_of_pos rfl⟩
      | interrupted | peerClosed | blocked | failed _ => exact ⟨hrecords, hfragments⟩

end Reading

namespace Pass

variable {table : HandlerTable} {worker : Nat} {clock : Nat → Readings} {p p' q : Pass}
  {r : Reading} {rs : List Reading} {trace : List Intake} {ended : Drained}

/-- What is left to read when so many reads have been made. -/
def leftAfter (p : Pass) (n : Nat) : List Arrival :=
  Arrival.leftAfter p.incoming n

/-- Whether the stream has ended behind these reads: the peer has ended it, or it has been shut
down. -/
def endedBehind (p : Pass) (table : HandlerTable) (rs : List Reading) : Bool :=
  p.stream.atEnd || rs.any (·.shutsDown table)

/-- What the next read finds when so many have been made. -/
def answerAt (p : Pass) (ended : Bool) (n : Nat) : Except IoError (List UInt8) :=
  (Arrival.read Record.size ended (p.leftAfter n)).1

/-- What a dispatch of the buffer finds. -/
def turn (p : Pass) (clock : Nat → Readings) : Turn :=
  ⟨p.desk.connection, p.desk.pools, clock p.dispatched, p.buffer⟩

/-! ## One read -/

/-- The pass `q` comes of `p` by one read: 128 bytes are dispatched, fewer are counted, and a read
that gives nothing leaves everything else as it was. -/
inductive Takes (table : HandlerTable) (worker : Nat) (clock : Nat → Readings) (p : Pass) :
    Reading → Pass → Prop where
  | record {got : List UInt8} {rest : List Arrival} (read : p.next = (.ok got, rest))
      (full : Record.size ≤ got.length) :
      Takes table worker clock p
        (.record ((p.filled rest got).turn clock)
          ((p.filled rest got).dispatch table worker clock).1)
        ((p.filled rest got).dispatch table worker clock).2
  | fragment {got : List UInt8} {rest : List Arrival} (read : p.next = (.ok got, rest))
      (some : got ≠ []) (short : got.length < Record.size) :
      Takes table worker clock p (.fragment got) (p.filled rest got).countShortRead
  | interrupted {e : IoError} {rest : List Arrival} (read : p.next = (.error e, rest))
      (kind : e.kind = .interrupted) :
      Takes table worker clock p .interrupted (p.withIncoming rest)
  | peerClosed {rest : List Arrival} (read : p.next = (.ok [], rest)) :
      Takes table worker clock p .peerClosed (p.withIncoming rest)
  | blocked {e : IoError} {rest : List Arrival} (read : p.next = (.error e, rest))
      (kind : e.kind = .wouldBlock) : Takes table worker clock p .blocked (p.withIncoming rest)
  | failed {e : IoError} {rest : List Arrival} (read : p.next = (.error e, rest))
      (notInterrupted : e.kind ≠ .interrupted) (notBlocked : e.kind ≠ .wouldBlock) :
      Takes table worker clock p (.failed e) (p.withIncoming rest)

/-- A read of nothing leaves the buffer alone. -/
theorem filled_nil (p : Pass) (rest : List Arrival) : p.filled rest [] = p.withIncoming rest :=
  congrArg (fun buffer => { p.withIncoming rest with buffer })
    ((congrArg Record.layout.decode (List.append_nil _).symm).trans
      (Record.layout_faithful.decode_encode p.buffer []))

/-- A read of a whole record puts its bytes, and nothing else, into the buffer. -/
theorem toBytes_buffer_filled {got : List UInt8} {rest : List Arrival}
    (read : p.next = (.ok got, rest)) (full : Record.size ≤ got.length) :
    (p.filled rest got).buffer.toBytes = got := by
  rw [buffer_filled rest full]
  refine (Record.layout_faithful.encode_decode got full).trans ?_
  exact List.take_of_length_le (Arrival.length_le_of_read read)

namespace Takes

theorem answers (h : Takes table worker clock p r q) : r.Answers p.next.1 := by
  cases h with
  | record read full =>
      rw [read]
      exact congrArg Except.ok (toBytes_buffer_filled read full).symm
  | fragment read some short =>
      rw [read]
      exact ⟨rfl, List.length_pos_iff.mpr some, short⟩
  | interrupted read kind | blocked read kind =>
      rw [read]
      exact ⟨_, rfl, kind⟩
  | peerClosed read => exact congrArg Prod.fst read
  | failed read notInterrupted notBlocked =>
      rw [read]
      exact ⟨rfl, notInterrupted, notBlocked⟩

theorem incoming (h : Takes table worker clock p r q) : q.incoming = p.next.2 := by
  cases h with
  | record read _ =>
      rw [read]
      exact incoming_dispatch _ table worker clock
  | fragment read _ _ | interrupted read _ | peerClosed read | blocked read _ | failed read _ _ =>
      rw [read]
      rfl

theorem keeps (h : Takes table worker clock p r q) : p.desk.Keeps q.desk := by
  cases h with
  | record _ _ => exact p.keeps_taken _ _
  | fragment _ _ _ => exact (p.keeps_withIncoming _).trans (keeps_countShortRead _)
  | interrupted _ _ | peerClosed _ | blocked _ _ | failed _ _ _ => exact p.keeps_withIncoming _

/-- A stream ends in a pass where the handler of a record shuts it down. -/
theorem atEnd (h : Takes table worker clock p r q) :
    q.stream.atEnd = (p.stream.atEnd || r.shutsDown table) := by
  obtain ⟨_, _, _, _, hstream⟩ := h.keeps.stream
  have hended : q.stream.ended = p.stream.ended := by
    rw [stream, hstream]
    rfl
  have hshut : q.stream.shutDown = (p.stream.shutDown || r.shutsDown table) := by
    cases h with
    | record _ _ => exact (dispatches _ table worker clock).shutDown_eq
    | fragment _ _ _ | interrupted _ _ | peerClosed _ | blocked _ _ | failed _ _ _ =>
        exact (Bool.or_false _).symm
  rw [Stream.atEnd, hended, hshut, Stream.atEnd, Bool.or_assoc]

theorem dispatched (h : Takes table worker clock p r q) :
    q.dispatched = p.dispatched + r.turn?.toList.length := by
  cases h <;> rfl

/-- What the later reads find, seen from behind this one. -/
theorem leftAfter (h : Takes table worker clock p r q) (n : Nat) :
    q.leftAfter n = p.leftAfter (n + 1) := by
  rw [Pass.leftAfter, h.incoming, next, Arrival.read_snd]
  rfl

theorem answerAt (h : Takes table worker clock p r q) (ended : Bool) (n : Nat) :
    q.answerAt ended n = p.answerAt ended (n + 1) := by
  rw [Pass.answerAt, h.leftAfter]
  rfl

theorem endedBehind (h : Takes table worker clock p r q) (rs : List Reading) :
    q.endedBehind table rs = p.endedBehind table (r :: rs) := by
  rw [Pass.endedBehind, h.atEnd, Pass.endedBehind, List.any_cons, Bool.or_assoc]

/-- A dispatch ends with a failed write where there is an acknowledgment to send, a slot for it, and
a stream that does not take it whole. -/
theorem writeFailed_iff {t : Turn} {outcome : Outcome}
    (h : Takes table worker clock p (.record t outcome) q) :
    (∃ latency error, outcome = .writeFailed latency error) ↔
      ∃ ack, t.ack? table = some ack ∧ t.hasSlot = true ∧ t.takes table ack = false := by
  cases h with
  | @record got rest _ _ =>
      have hends := ((p.filled rest got).turn clock).ends table (p.filled rest got).desk.counters
      exact hends.ack_iff.2.2

end Takes

/-! ## Read by read -/

/-- The pass `p` makes these reads, ends in this way and leaves `q`. -/
inductive Reads (table : HandlerTable) (worker : Nat) (clock : Nat → Readings) :
    Pass → List Reading → Drained → Pass → Prop where
  | last {p q : Pass} {r : Reading} {ended : Drained} (taken : Takes table worker clock p r q)
      (ending : r.ending? = some ended) : Reads table worker clock p [r] ended q
  | more {p p' q : Pass} {r : Reading} {rs : List Reading} {ended : Drained}
      (taken : Takes table worker clock p r p') (goesOn : r.ending? = none)
      (later : Reads table worker clock p' rs ended q) :
      Reads table worker clock p (r :: rs) ended q

/-- Every pass is made up of reads. -/
theorem Drains.exists_reads (h : Drains table worker clock p trace ended q) :
    ∃ rs, Reads table worker clock p rs ended q := by
  induction h with
  | again read interrupted _ ih =>
      obtain ⟨rs, hlater⟩ := ih
      exact ⟨_, .more (.interrupted read interrupted) rfl hlater⟩
  | blocked read wouldBlock => exact ⟨_, .last (.blocked read wouldBlock) rfl⟩
  | broken read notInterrupted notBlocked =>
      exact ⟨_, .last (.failed read notInterrupted notBlocked) rfl⟩
  | @peerClosed p rest read =>
      rw [filled_nil]
      exact ⟨_, .last (.peerClosed read) rfl⟩
  | fragment read some short _ ih =>
      obtain ⟨rs, hlater⟩ := ih
      exact ⟨_, .more (.fragment read some short) rfl hlater⟩
  | record read full answered _ ih =>
      obtain ⟨rs, hlater⟩ := ih
      exact ⟨_, .more (.record read full) (Reading.ending?_record_of_answered answered) hlater⟩
  | unanswered read full failed =>
      exact ⟨_, .last (.record read full) (by rw [failed]; rfl)⟩

namespace Reads

/-- The pieces are those of the reads. -/
theorem drains (h : Reads table worker clock p rs ended q) :
    Drains table worker clock p (rs.filterMap Reading.intake?) ended q := by
  induction h with
  | @last p q r ended taken ending =>
      cases taken with
      | @record got rest read full =>
          cases houtcome : ((p.filled rest got).dispatch table worker clock).1 with
          | writeFailed latency error =>
              rw [houtcome] at ending
              cases ending
              exact .unanswered read full houtcome
          | handled _ _ | dropped _ =>
              rw [houtcome] at ending
              cases ending
      | fragment _ _ _ | interrupted _ _ => cases ending
      | @peerClosed rest read =>
          cases ending
          rw [← filled_nil]
          exact .peerClosed read
      | blocked read kind =>
          cases ending
          exact .blocked read kind
      | failed read notInterrupted notBlocked =>
          cases ending
          exact .broken read notInterrupted notBlocked
  | @more p p' q r rs ended taken goesOn _ ih =>
      cases taken with
      | record read full =>
          refine .record read full (fun latency error failed => ?_) ih
          rw [failed] at goesOn
          cases goesOn
      | fragment read some short => exact .fragment read some short ih
      | interrupted read kind => exact .again read kind ih
      | peerClosed _ | blocked _ _ | failed _ _ _ => cases goesOn

theorem length_pos (h : Reads table worker clock p rs ended q) : 0 < rs.length := by
  cases h with
  | last _ _ => exact Nat.one_pos
  | more _ _ _ => exact Nat.succ_pos _

theorem answers (h : Reads table worker clock p rs ended q) (i : Nat) (hi : i < rs.length) :
    rs[i].Answers (p.answerAt (p.endedBehind table (rs.take i)) i) := by
  -- nothing was read before the first one
  have hfirst : ∀ p : Pass, p.answerAt (p.endedBehind table []) 0 = p.next.1 := by
    intro p
    rw [Pass.endedBehind, List.any_nil, Bool.or_false]
    rfl
  -- the reads behind the first one are those of the pass behind it
  induction h generalizing i with
  | last taken _ =>
      obtain rfl : i = 0 := Nat.lt_one_iff.mp hi
      rw [List.take_zero, hfirst]
      exact taken.answers
  | more taken _ _ ih =>
      cases i with
      | zero =>
          rw [List.take_zero, hfirst]
          exact taken.answers
      | succ i =>
          rw [List.take_succ_cons, ← taken.endedBehind, ← taken.answerAt]
          exact ih i (Nat.lt_of_succ_lt_succ hi)

theorem left (h : Reads table worker clock p rs ended q) : q.incoming = p.leftAfter rs.length := by
  induction h with
  | last taken _ => exact taken.leftAfter 0
  | more taken _ _ ih => exact ih.trans (taken.leftAfter _)

/-- Only the last read ends the pass. -/
theorem ending? (h : Reads table worker clock p rs ended q) (i : Nat) (hi : i < rs.length) :
    rs[i].ending? = if i + 1 = rs.length then some ended else none := by
  induction h generalizing i with
  | last _ ending =>
      obtain rfl : i = 0 := Nat.lt_one_iff.mp hi
      exact ending
  | more _ goesOn later ih =>
      cases i with
      | zero =>
          have hmore := later.length_pos
          rw [List.length_cons, if_neg (by omega)]
          exact goesOn
      | succ i =>
          refine (ih i (Nat.lt_of_succ_lt_succ hi)).trans ?_
          simp only [List.length_cons, Nat.add_right_cancel_iff]

theorem dispatched (h : Reads table worker clock p rs ended q) :
    q.dispatched = p.dispatched + (rs.filterMap Reading.turn?).length := by
  have hcons : ∀ (r : Reading) (rs : List Reading), ((r :: rs).filterMap Reading.turn?).length =
      r.turn?.toList.length + (rs.filterMap Reading.turn?).length := by
    intro r rs
    rw [List.filterMap_cons]
    cases r.turn? with
    | none => exact (Nat.zero_add _).symm
    | some t => exact Nat.add_comm _ 1
  induction h with
  | last taken _ => rw [taken.dispatched, hcons]; rfl
  | more taken _ _ ih => rw [ih, taken.dispatched, hcons, Nat.add_assoc]

theorem writeFailed_iff (h : Reads table worker clock p rs ended q) {t : Turn} {outcome : Outcome}
    (hr : .record t outcome ∈ rs) :
    (∃ latency error, outcome = .writeFailed latency error) ↔
      ∃ ack, t.ack? table = some ack ∧ t.hasSlot = true ∧ t.takes table ack = false := by
  induction h with
  | last taken _ =>
      cases List.mem_singleton.mp hr
      exact taken.writeFailed_iff
  | more taken _ _ ih =>
      rcases List.mem_cons.mp hr with rfl | hlater
      · exact taken.writeFailed_iff
      · exact ih hlater

/-- A short read is counted as such, and a full one as handled or dropped. -/
theorem counts (h : Reads table worker clock p rs ended q) :
    q.desk.counters.messages + q.desk.counters.dropped =
        p.desk.counters.messages + p.desk.counters.dropped +
          UInt64.ofNat (rs.filterMap Reading.turn?).length ∧
      q.desk.counters.shortReads =
        p.desk.counters.shortReads + UInt64.ofNat (rs.countP Reading.isFragment) := by
  obtain ⟨htaken, hshort⟩ := h.drains.counts
  obtain ⟨hrecords, hfragments⟩ := Reading.length_filterMap_intake? rs
  rw [hrecords] at htaken
  rw [hfragments] at hshort
  exact ⟨htaken, hshort⟩

end Reads

/-- What becomes of a script.  The pass `p` makes the reads `rs`, ends in the way `ended` and leaves
`q`. -/
structure Scripted (table : HandlerTable) (worker : Nat) (clock : Nat → Readings) (p : Pass)
    (rs : List Reading) (ended : Drained) (q : Pass) : Prop where
  /-- One read comes after the other, and each changes only what `Takes` says. -/
  reads : Reads table worker clock p rs ended q
  /-- The socket answers as the script has it, where a stream that a handler shuts down has
  ended. -/
  answers : ∀ i (hi : i < rs.length),
    rs[i].Answers (p.answerAt (p.endedBehind table (rs.take i)) i)
  /-- The pass goes on until a read ends it. -/
  ending : ∀ i (hi : i < rs.length),
    rs[i].ending? = if i + 1 = rs.length then some ended else none
  /-- There is such a read, and nothing is read behind it. -/
  left : 0 < rs.length ∧ q.incoming = p.leftAfter rs.length
  /-- A write fails where an acknowledgment is to be sent from a free slot and is not taken
  whole. -/
  writeFailed_iff : ∀ t outcome, .record t outcome ∈ rs →
    ((∃ latency error, outcome = .writeFailed latency error) ↔
      ∃ ack, t.ack? table = some ack ∧ t.hasSlot = true ∧ t.takes table ack = false)
  dispatched : q.dispatched = p.dispatched + (rs.filterMap Reading.turn?).length
  taken : q.desk.counters.messages + q.desk.counters.dropped =
    p.desk.counters.messages + p.desk.counters.dropped +
      UInt64.ofNat (rs.filterMap Reading.turn?).length
  shortReads : q.desk.counters.shortReads =
    p.desk.counters.shortReads + UInt64.ofNat (rs.countP Reading.isFragment)

theorem Reads.scripted (h : Reads table worker clock p rs ended q) :
    Scripted table worker clock p rs ended q where
  reads := h
  answers := h.answers
  ending := h.ending?
  left := ⟨h.length_pos, h.left⟩
  writeFailed_iff _ _ hr := h.writeFailed_iff hr
  dispatched := h.dispatched
  taken := h.counts.1
  shortReads := h.counts.2

end Pass

end MessageServer
