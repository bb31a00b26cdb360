import Mathlib.Data.List.Induction
import Mathlib.Data.List.Nodup
import Mathlib.Data.Nat.ModEq
import MessageServer.Proofs.Record.Bodies
import MessageServer.Record.Stamper

/-!
# The numbers that a stamper gives out

A stamper is asked for sequence numbers, for message ids and for records, in any order.  What it
answers is a matter of counting: how many ids and how many sequence numbers were drawn before.

* `Stamper.Given` says which two numbers a stamper holds that has given out so many ids and so many
  sequence numbers.  `Given.draw` is the step, `given_after` the run.
* `toNat_nextMessageId`: an id is 1 more than the last one modulo `2 ^ 64 - 1`, which is all that is
  left of 0 being skipped.
* `stamps_numbered` is the main statement.
-/

namespace MessageServer

/-! ## What is asked of a stamper -/

/-- A record that a stamper is asked for, but for its numbers. -/
inductive StampForm where
  | order (type : MessageType) (timestamp : UInt64) (o : Order)
  | marketData (timestamp : UInt64) (d : MarketData)
  | heartbeat (timestamp : UInt64)

namespace StampForm

def type : StampForm → MessageType
  | order type _ _ => type
  | marketData _ _ => .marketData
  | heartbeat _ => .heartbeat

def timestamp : StampForm → UInt64
  | order _ timestamp _ | marketData timestamp _ | heartbeat timestamp => timestamp

/-- The record with this id and this sequence number. -/
def numbered (f : StampForm) (id : UInt64) (sequence : UInt32) : Record :=
  let r :=
    match f with
    | order type timestamp o => Record.order id type timestamp o
    | marketData timestamp d => Record.marketData id timestamp d
    | heartbeat timestamp => Record.envelope id .heartbeat timestamp
  { r with header := { r.header with sequence } }

@[simp] theorem messageId_numbered (f : StampForm) (id : UInt64) (sequence : UInt32) :
    (f.numbered id sequence).header.messageId = id := by
  cases f <;> rfl

/-- A receiver does not look at the sequence number, nor, behind its length, at the body. -/
theorem validate_numbered (f : StampForm) (id : UInt64) (sequence : UInt32) :
    (f.numbered id sequence).validate =
      if id ≠ 0 ∧ f.timestamp ≠ 0 then .ok f.type else .error .invalidHeader := by
  cases f with
  | order type timestamp o =>
      exact Record.validate_withBody (l := Order.layout) id type timestamp o (by decide)
  | marketData timestamp d =>
      exact Record.validate_withBody (l := MarketData.layout) id .marketData timestamp d (by decide)
  | heartbeat timestamp =>
      have hvalid : (Record.envelope id .heartbeat timestamp).isValid = true ↔
          id ≠ 0 ∧ timestamp ≠ 0 := by
        rw [Record.isValid_iff]
        exact and_congr_right fun _ => and_iff_left (Nat.zero_le _)
      have htype : (Record.envelope id .heartbeat timestamp).messageType = .ok .heartbeat := rfl
      change (Record.envelope id .heartbeat timestamp).validate =
        if id ≠ 0 ∧ timestamp ≠ 0 then .ok .heartbeat else .error .invalidHeader
      simp only [Record.validate, htype, hvalid]

end StampForm

/-- What a stamper is asked for. -/
inductive StampCall where
  | sequence
  | messageId
  | record (f : StampForm)

namespace StampCall

/-- A message id is drawn. -/
def drawsId : StampCall → Bool
  | sequence => false
  | messageId | record _ => true

/-- A sequence number is drawn. -/
def drawsSequence : StampCall → Bool
  | messageId => false
  | sequence | record _ => true

end StampCall

/-- What a stamper gives out. -/
inductive Stamp where
  | sequence (n : UInt32)
  | messageId (id : UInt64)
  | record (r : Record)

namespace Stamp

/-- The message id, if there is one. -/
def id? : Stamp → Option UInt64
  | sequence _ => none
  | messageId id => some id
  | record r => some r.header.messageId

/-- The sequence number, if there is one. -/
def sequence? : Stamp → Option UInt32
  | sequence n => some n
  | messageId _ => none
  | record r => some r.header.sequence

end Stamp

namespace Stamper

variable {s : Stamper} {ids sequences : Nat} {calls : List StampCall}

/-- The record of this form with the next numbers. -/
def build (s : Stamper) : StampForm → Record × Stamper
  | .order type timestamp o => s.order type timestamp o
  | .marketData timestamp d => s.marketData timestamp d
  | .heartbeat timestamp => s.heartbeat timestamp

/-- Answers one call. -/
def draw (s : Stamper) : StampCall → Stamp × Stamper
  | .sequence => (.sequence s.nextSequence.1, s.nextSequence.2)
  | .messageId => (.messageId s.nextMessageId.1, s.nextMessageId.2)
  | .record f => (.record (s.build f).1, (s.build f).2)

/-- The stamper behind the calls. -/
def after (s : Stamper) (calls : List StampCall) : Stamper :=
  calls.foldl (fun s call => (s.draw call).2) s

/-- The answers to the calls. -/
def answers (s : Stamper) : List StampCall → List Stamp
  | [] => []
  | call :: calls => (s.draw call).1 :: (s.draw call).2.answers calls

theorem answers_append (s : Stamper) (first rest : List StampCall) :
    s.answers (first ++ rest) = s.answers first ++ (s.after first).answers rest := by
  induction first generalizing s with
  | nil => rfl
  | cons call first ih =>
      rw [List.cons_append, answers, answers, ih, List.cons_append]
      rfl

@[simp] theorem length_answers (s : Stamper) (calls : List StampCall) :
    (s.answers calls).length = calls.length := by
  induction calls generalizing s with
  | nil => rfl
  | cons call calls ih => rw [answers, List.length_cons, ih, List.length_cons]

/-! ## One draw -/

/-- A record takes one number of each kind, and the stamper goes on behind both. -/
theorem build_eq (s : Stamper) (f : StampForm) :
    s.build f = (f.numbered s.nextMessageId.1 s.nextSequence.1,
      ⟨s.nextMessageId.1, s.nextSequence.1⟩) := by
  cases f <;> rfl

theorem toNat_nextMessageId (s : Stamper) :
    s.nextMessageId.1.toNat = 1 + s.messageId.toNat % (UInt64.size - 1) := by
  have hlt := s.messageId.toNat_lt
  have hnext : s.nextMessageId.1 =
      if s.messageId + 1 ≤ 1 then 1 else s.messageId + 1 := rfl
  rw [hnext]
  split_ifs with hwrapped
  · -- the last id was 0, or it was the greatest one
    rw [UInt64.le_iff_toNat_le, UInt64.toNat_add] at hwrapped
    simp only [UInt64.toNat_one, UInt64.size] at *
    omega
  · rw [UInt64.le_iff_toNat_le, UInt64.toNat_add] at hwrapped
    rw [UInt64.toNat_add]
    simp only [UInt64.toNat_one, UInt64.size] at *
    omega

theorem toNat_nextSequence (s : Stamper) :
    s.nextSequence.1.toNat = (s.sequence.toNat + 1) % UInt32.size :=
  UInt32.toNat_add _ _

/-- What a stamper holds that has given out so many ids and so many sequence numbers. -/
structure Given (ids sequences : Nat) (s : Stamper) : Prop where
  messageId : s.messageId.toNat % (UInt64.size - 1) = ids % (UInt64.size - 1)
  sequence : s.sequence.toNat = sequences % UInt32.size

namespace Given

theorem nextMessageId (h : s.Given ids sequences) :
    s.nextMessageId.1.toNat = 1 + ids % (UInt64.size - 1) := by
  rw [toNat_nextMessageId, h.messageId]

theorem nextSequence (h : s.Given ids sequences) :
    s.nextSequence.1.toNat = (sequences + 1) % UInt32.size := by
  rw [toNat_nextSequence, h.sequence, Nat.mod_add_mod]

/-- A stamper that holds the next id has given out one more, whatever became of the sequence. -/
theorem id_drawn (h : s.Given ids sequences) :
    s.nextMessageId.1.toNat % (UInt64.size - 1) = (ids + 1) % (UInt64.size - 1) := by
  rw [h.nextMessageId, Nat.add_comm, Nat.mod_add_mod]

/-- One call. -/
theorem draw (h : s.Given ids sequences) (call : StampCall) :
    (s.draw call).2.Given (ids + if call.drawsId then 1 else 0)
      (sequences + if call.drawsSequence then 1 else 0) := by
  cases call with
  | sequence => exact ⟨h.messageId, h.nextSequence⟩
  | messageId => exact ⟨h.id_drawn, h.sequence⟩
  | record f =>
      rw [Stamper.draw, build_eq]
      exact ⟨h.id_drawn, h.nextSequence⟩

end Given

/-! ## Many draws -/

theorem given_new : new.Given 0 0 :=
  ⟨rfl, rfl⟩

/-- Any number of calls. -/
theorem given_after (calls : List StampCall) :
    (new.after calls).Given (calls.countP StampCall.drawsId)
      (calls.countP StampCall.drawsSequence) := by
  induction calls using List.reverseRecOn with
  | nil => exact given_new
  | append_singleton calls call ih =>
      rw [after, List.foldl_append, List.countP_append, List.countP_append, List.countP_singleton,
        List.countP_singleton]
      exact ih.draw call

/-- The ids that are given out, one after the other. -/
theorem ids_eq (calls : List StampCall) :
    ((new.answers calls).filterMap Stamp.id?).map UInt64.toNat =
      (List.range (calls.countP StampCall.drawsId)).map fun i => 1 + i % (UInt64.size - 1) := by
  induction calls using List.reverseRecOn with
  | nil => rfl
  | append_singleton calls call ih =>
      have hnext := (given_after calls).nextMessageId
      rw [answers_append, List.filterMap_append, List.map_append, ih, List.countP_append,
        List.countP_singleton]
      cases call with
      | sequence => exact List.append_nil _
      | messageId | record f =>
          simp [answers, draw, build_eq, Stamp.id?, StampCall.drawsId, List.range_succ, hnext]

/-- The sequence numbers that are given out, one after the other. -/
theorem sequences_eq (calls : List StampCall) :
    ((new.answers calls).filterMap Stamp.sequence?).map UInt32.toNat =
      (List.range (calls.countP StampCall.drawsSequence)).map fun j => (j + 1) % UInt32.size := by
  induction calls using List.reverseRecOn with
  | nil => rfl
  | append_singleton calls call ih =>
      have hnext := (given_after calls).nextSequence
      rw [answers_append, List.filterMap_append, List.map_append, ih, List.countP_append,
        List.countP_singleton]
      cases call with
      | messageId => exact List.append_nil _
      | sequence | record f =>
          simp [answers, draw, build_eq, StampForm.numbered, Stamp.sequence?,
            StampCall.drawsSequence, List.range_succ, hnext]

/-- Ids that are drawn less than a whole round apart are different. -/
theorem ids_nodup (calls : List StampCall) (start : Nat) :
    ((((new.answers calls).filterMap Stamp.id?).drop start).take (UInt64.size - 1)).Nodup := by
  refine List.Nodup.of_map UInt64.toNat ?_
  rw [List.map_take, List.map_drop, ids_eq, List.Nodup, List.pairwise_iff_getElem]
  intro i j hi hj hij heq
  have hround : j < UInt64.size - 1 := by
    rw [List.length_take] at hj
    omega
  -- the two places are less than a round apart, so that their remainders differ
  simp only [List.getElem_take, List.getElem_drop, List.getElem_map, List.getElem_range] at heq
  have hsame : start + i ≡ start + j [MOD UInt64.size - 1] := Nat.add_left_cancel heq
  have hequal := Nat.ModEq.add_left_cancel' start hsame
  rw [Nat.ModEq, Nat.mod_eq_of_lt hround, Nat.mod_eq_of_lt (hij.trans hround)] at hequal
  exact Nat.ne_of_lt hij hequal

/-! ## The numbers and the records -/

/-- What calls on a stamper that has given nothing out yet are answered with. -/
structure Numbers (calls : List StampCall) (answers : List Stamp) : Prop where
  answered : answers.length = calls.length
  /-- Ids count from 1 and go round without passing through 0; whoever draws one gets the next. -/
  ids : (answers.filterMap Stamp.id?).map UInt64.toNat =
    (List.range (calls.countP StampCall.drawsId)).map fun i => 1 + i % (UInt64.size - 1)
  nonzero : ∀ id ∈ answers.filterMap Stamp.id?, id ≠ 0
  distinct : ∀ start,
    (((answers.filterMap Stamp.id?).drop start).take (UInt64.size - 1)).Nodup
  /-- Sequence numbers count from 1 and go round through 0. -/
  sequences : (answers.filterMap Stamp.sequence?).map UInt32.toNat =
    (List.range (calls.countP StampCall.drawsSequence)).map fun j => (j + 1) % UInt32.size
  /-- A record has the form that was asked for, the next id and the next sequence number.  Whether
  a receiver takes it is decided by its timestamp. -/
  records : ∀ before f after, calls = before ++ .record f :: after →
    ∃ id sequence, answers[before.length]? = some (.record (f.numbered id sequence)) ∧
      id.toNat = 1 + before.countP StampCall.drawsId % (UInt64.size - 1) ∧
      sequence.toNat = (before.countP StampCall.drawsSequence + 1) % UInt32.size ∧
      (f.numbered id sequence).header.messageId = id ∧
      (f.numbered id sequence).header.sequence = sequence ∧
      ((f.numbered id sequence).validate = .ok f.type ↔ f.timestamp ≠ 0)

theorem records_numbered (before : List StampCall) (f : StampForm) (after : List StampCall) :
    ∃ id sequence, (new.answers (before ++ .record f :: after))[before.length]? =
        some (.record (f.numbered id sequence)) ∧
      id.toNat = 1 + before.countP StampCall.drawsId % (UInt64.size - 1) ∧
      sequence.toNat = (before.countP StampCall.drawsSequence + 1) % UInt32.size := by
  have hgiven := given_after before
  refine ⟨_, _, ?_, hgiven.nextMessageId, hgiven.nextSequence⟩
  rw [answers_append, List.getElem?_append_right (Nat.le_of_eq (length_answers _ _)),
    length_answers, Nat.sub_self, answers, List.getElem?_cons_zero, draw, build_eq]

/-- Whatever a stamper is asked for, and in which order, the ids and the sequence numbers that it
gives out are counted apart from each other, each record takes one of both, and a receiver takes the
record unless its timestamp is zero. -/
theorem stamps_numbered (calls : List StampCall) :
    Numbers calls (new.answers calls) ∧
      ∀ s : Stamper, s.nextSequence.2.messageId = s.messageId ∧
        s.nextMessageId.2.sequence = s.sequence ∧
        ∀ f, (s.build f).2 = s.nextMessageId.2.nextSequence.2 := by
  have hnonzero : ∀ id ∈ (new.answers calls).filterMap Stamp.id?, id ≠ 0 := by
    rintro id hid rfl
    have hmem := List.mem_map_of_mem (f := UInt64.toNat) hid
    rw [ids_eq, List.mem_map] at hmem
    obtain ⟨i, -, hi⟩ := hmem
    rw [UInt64.toNat_zero] at hi
    omega
  refine ⟨?_, fun s => ⟨rfl, rfl, fun f => by rw [build_eq]; rfl⟩⟩
  refine
    { answered := length_answers new calls
      ids := ids_eq calls
      nonzero := hnonzero
      distinct := ids_nodup calls
      sequences := sequences_eq calls
      records := ?_ }
  rintro before f after rfl
  obtain ⟨id, sequence, hanswer, hid, hsequence⟩ := records_numbered before f after
  refine ⟨id, sequence, hanswer, hid, hsequence, f.messageId_numbered id sequence, rfl, ?_⟩
  have hid' : id ≠ 0 := by
    rintro rfl
    rw [UInt64.toNat_zero] at hid
    omega
  rw [f.validate_numbered]
  split_ifs with hboth
  · exact iff_of_true rfl hboth.2
  · exact iff_of_false nofun fun htime => hboth ⟨hid', htime⟩

end Stamper

end MessageServer
