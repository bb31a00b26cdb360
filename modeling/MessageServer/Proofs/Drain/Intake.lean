import MessageServer.Proofs.Dispatch.Frame
import MessageServer.Server.Service

/-!
# What a pass reads

A pass takes what it reads piece by piece: a whole record is dispatched, less than a record is
counted and forgotten.  `Pass.Drains` is the pass together with the list of its pieces, one case for
each way in which a read can go on or end.

* `drain_eq` and `exists_drains`: `Pass.Drains` is `Pass.drain`, with the pieces made visible.
* `Drains.keeps`, `Drains.counts`, `Drains.state_eq`: what a whole pass leaves alone and what it
  counts, by induction on the pass from what one dispatch does.
* `Drains.of_offers`: a pass over bytes that are all there takes the records of `intakes` and no
  others.
* `Drains.around`: the pass is the same whatever receive pool and buffer it starts with.
-/

namespace MessageServer

/-! ## Bytes in pieces -/

/-- What a pass takes at a time: a record, or less than one. -/
inductive Intake where
  | record (r : Record)
  | fragment (bytes : List UInt8)
  deriving DecidableEq

namespace Intake

/-- The record, if it is one. -/
def record? : Intake → Option Record
  | record r => some r
  | fragment _ => none

def isFragment : Intake → Bool
  | record _ => false
  | fragment _ => true

end Intake

namespace Record

/-- The records of a byte string from its start on, as many as there are whole ones. -/
def wholes (bytes : List UInt8) : List Record :=
  (List.range (bytes.length / size)).map fun i => layout.decode (bytes.drop (size * i))

@[simp] theorem length_wholes (bytes : List UInt8) :
    (wholes bytes).length = bytes.length / size := by
  rw [wholes, List.length_map, List.length_range]

/-- The bytes of the `i`-th record are those from `128 * i` on. -/
theorem toBytes_wholes {bytes : List UInt8} {i : Nat} (hi : i < (wholes bytes).length) :
    (wholes bytes)[i].toBytes = (bytes.drop (size * i)).take size := by
  have hlength : size ≤ (bytes.drop (size * i)).length := by
    have hdiv : size * (i + 1) ≤ bytes.length := by
      rw [length_wholes] at hi
      exact Nat.le_trans (Nat.mul_le_mul_left _ hi) (Nat.mul_div_le _ _)
    rw [List.length_drop]
    rw [Nat.mul_succ] at hdiv
    omega
  simp only [wholes, List.getElem_map, List.getElem_range]
  exact layout_faithful.encode_decode _ hlength

theorem wholes_of_lt {bytes : List UInt8} (h : bytes.length < size) : wholes bytes = [] := by
  rw [wholes, Nat.div_eq_of_lt h]
  rfl

theorem wholes_of_le {bytes : List UInt8} (h : size ≤ bytes.length) :
    wholes bytes = layout.decode bytes :: wholes (bytes.drop size) := by
  have hdiv : bytes.length / size = (bytes.drop size).length / size + 1 := by
    rw [List.length_drop, ← Nat.div_eq_sub_div (by decide) h]
  -- the record at `i + 1` is the one at `i` of what is behind the first
  rw [wholes, hdiv, List.range_succ_eq_map, List.map_cons, List.map_map, wholes]
  refine congrArg _ (List.map_congr_left fun i _ => ?_)
  rw [Function.comp_apply, List.drop_drop, Nat.mul_succ, Nat.add_comm]

/-- Records that were written one after the other are found again. -/
theorem wholes_toBytes (records : List Record) : wholes (records.flatMap toBytes) = records := by
  induction records with
  | nil => rfl
  | cons r rest ih =>
      have hlength : size ≤ (r.toBytes ++ rest.flatMap toBytes).length := by
        rw [List.length_append, length_toBytes]
        exact Nat.le_add_right _ _
      rw [List.flatMap_cons, wholes_of_le hlength, List.drop_left' (length_toBytes r), ih]
      exact congrArg (· :: rest) (layout_faithful.decode_encode r _)

end Record

/-- The pieces of a byte string that is all there: the records, and what is left over. -/
def intakes (bytes : List UInt8) : List Intake :=
  (Record.wholes bytes).map .record ++
    if bytes.length % Record.size = 0 then []
    else [.fragment (bytes.drop (Record.size * (bytes.length / Record.size)))]

theorem intakes_of_lt {bytes : List UInt8} (hsome : bytes ≠ [])
    (hlength : bytes.length < Record.size) : intakes bytes = [.fragment bytes] := by
  have hmod : bytes.length % Record.size ≠ 0 := by
    rw [Nat.mod_eq_of_lt hlength]
    exact fun hzero => hsome (List.length_eq_zero_iff.mp hzero)
  rw [intakes, Record.wholes_of_lt hlength, if_neg hmod, Nat.div_eq_of_lt hlength]
  rfl

theorem intakes_of_le {bytes : List UInt8} (hlength : Record.size ≤ bytes.length) :
    intakes bytes = .record (Record.layout.decode bytes) :: intakes (bytes.drop Record.size) := by
  have hmod : (bytes.drop Record.size).length % Record.size = bytes.length % Record.size := by
    rw [List.length_drop, ← Nat.mod_eq_sub_mod hlength]
  have hdrop : (bytes.drop Record.size).drop
      (Record.size * ((bytes.drop Record.size).length / Record.size)) =
        bytes.drop (Record.size * (bytes.length / Record.size)) := by
    rw [List.drop_drop, List.length_drop, Nat.div_eq_sub_div (by decide) hlength, Nat.mul_succ,
      Nat.add_comm]
  rw [intakes, Record.wholes_of_le hlength, intakes, hmod, hdrop]
  rfl

theorem countP_intakes (bytes : List UInt8) :
    (intakes bytes).countP Intake.isFragment = if bytes.length % Record.size = 0 then 0 else 1 := by
  have hrecords : ((Record.wholes bytes).map Intake.record).countP Intake.isFragment = 0 := by
    rw [List.countP_map, List.countP_eq_zero]
    exact fun _ _ => Bool.false_ne_true
  rw [intakes, List.countP_append, hrecords]
  split_ifs <;> rfl

theorem filterMap_intakes (bytes : List UInt8) :
    (intakes bytes).filterMap Intake.record? = Record.wholes bytes := by
  have hrecords : ((Record.wholes bytes).map Intake.record).filterMap Intake.record? =
      Record.wholes bytes := by
    rw [List.filterMap_map]
    exact List.filterMap_some
  rw [intakes, List.filterMap_append, hrecords]
  split_ifs
  · exact List.append_nil _
  · exact List.append_nil _

/-! ## Bytes that are all there -/

/-- The bytes have all arrived, nothing else has, and what is written is taken. -/
structure Stream.Offers (s : Stream) (bytes : List UInt8) : Prop where
  incoming : s.incoming = Arrival.append [] bytes
  notEnded : s.ended = false
  accepting : s.Accepting

/-- Nothing has arrived on a fresh stream, and it takes everything. -/
theorem Stream.offers_fresh : Stream.fresh.Offers [] :=
  ⟨rfl, rfl, rfl, rfl, List.forall_mem_nil _⟩

theorem Stream.Offers.deliver {s : Stream} (h : s.Offers []) (bytes : List UInt8) :
    (s.deliver bytes).Offers bytes where
  incoming := congrArg (Arrival.append · bytes) h.incoming
  notEnded := h.notEnded
  accepting := h.accepting.reading _

namespace Pass

variable {table : HandlerTable} {worker : Nat} {clock : Nat → Readings} {p q : Pass}
  {trace : List Intake} {ended : Drained}

/-! ## The pass and its pieces -/

/-- What the next read of a pass finds. -/
def next (p : Pass) : Except IoError (List UInt8) × List Arrival :=
  Arrival.read Record.size p.desk.connection.stream.atEnd p.incoming

/-- The pass after a read that gave bytes. -/
def filled (p : Pass) (rest : List Arrival) (got : List UInt8) : Pass :=
  (p.withIncoming rest).fill got

/-- A pass, the pieces it takes, how it ends, and what it leaves. -/
inductive Drains (table : HandlerTable) (worker : Nat) (clock : Nat → Readings) :
    Pass → List Intake → Drained → Pass → Prop where
  | again {p q : Pass} {trace : List Intake} {ended : Drained} {e : IoError} {rest : List Arrival}
      (read : p.next = (.error e, rest)) (interrupted : e.kind = .interrupted)
      (later : Drains table worker clock (p.withIncoming rest) trace ended q) :
      Drains table worker clock p trace ended q
  | blocked {p : Pass} {e : IoError} {rest : List Arrival} (read : p.next = (.error e, rest))
      (wouldBlock : e.kind = .wouldBlock) :
      Drains table worker clock p [] .pending (p.withIncoming rest)
  | broken {p : Pass} {e : IoError} {rest : List Arrival} (read : p.next = (.error e, rest))
      (notInterrupted : e.kind ≠ .interrupted) (notBlocked : e.kind ≠ .wouldBlock) :
      Drains table worker clock p [] (.readFailed e) (p.withIncoming rest)
  | peerClosed {p : Pass} {rest : List Arrival} (read : p.next = (.ok [], rest)) :
      Drains table worker clock p [] .peerClosed (p.filled rest [])
  | fragment {p q : Pass} {trace : List Intake} {ended : Drained} {got : List UInt8}
      {rest : List Arrival} (read : p.next = (.ok got, rest)) (some : got ≠ [])
      (short : got.length < Record.size)
      (later : Drains table worker clock (p.filled rest got).countShortRead trace ended q) :
      Drains table worker clock p (.fragment got :: trace) ended q
  | record {p q : Pass} {trace : List Intake} {ended : Drained} {got : List UInt8}
      {rest : List Arrival} (read : p.next = (.ok got, rest)) (full : Record.size ≤ got.length)
      (answered : ∀ latency error,
        ((p.filled rest got).dispatch table worker clock).1 ≠ .writeFailed latency error)
      (later : Drains table worker clock ((p.filled rest got).dispatch table worker clock).2
        trace ended q) :
      Drains table worker clock p (.record (p.filled rest got).buffer :: trace) ended q
  | unanswered {p : Pass} {got : List UInt8} {rest : List Arrival} {latency : UInt64}
      {error : IoError} (read : p.next = (.ok got, rest)) (full : Record.size ≤ got.length)
      (failed : ((p.filled rest got).dispatch table worker clock).1 = .writeFailed latency error) :
      Drains table worker clock p [.record (p.filled rest got).buffer] (.writeFailed error)
        ((p.filled rest got).dispatch table worker clock).2

theorem drain_of_error {e : IoError} {rest : List Arrival} (read : p.next = (.error e, rest)) :
    drain table worker clock p =
      if e.kind = .interrupted then drain table worker clock (p.withIncoming rest)
      else (if e.kind = .wouldBlock then .pending else .readFailed e, p.withIncoming rest) := by
  unfold next at read
  rw [drain]
  split
  · next hread =>
      obtain ⟨he, rfl⟩ := Prod.mk.inj (hread.symm.trans read)
      cases he
      split_ifs <;> rfl
  · next hread => cases hread.symm.trans read

theorem drain_of_ok {got : List UInt8} {rest : List Arrival} (read : p.next = (.ok got, rest)) :
    drain table worker clock p =
      if got = [] then (.peerClosed, p.filled rest got)
      else if got.length < Record.size then
        drain table worker clock (p.filled rest got).countShortRead
      else
        match ((p.filled rest got).dispatch table worker clock).1 with
        | .writeFailed _ e => (.writeFailed e, ((p.filled rest got).dispatch table worker clock).2)
        | _ => drain table worker clock ((p.filled rest got).dispatch table worker clock).2 := by
  unfold next at read
  rw [drain]
  split
  · next hread => cases hread.symm.trans read
  · next hread =>
      obtain ⟨hgot, rfl⟩ := Prod.mk.inj (hread.symm.trans read)
      cases hgot
      rfl

theorem ne_nil_of_full {got : List UInt8} (full : Record.size ≤ got.length) : got ≠ [] := by
  rintro rfl
  exact absurd full (by decide)

/-- The pieces are those of the pass. -/
theorem Drains.drain_eq (h : Drains table worker clock p trace ended q) :
    drain table worker clock p = (ended, q) := by
  induction h with
  | again read interrupted _ ih => rw [drain_of_error read, if_pos interrupted, ih]
  | @blocked p e rest read wouldBlock =>
      have hnot : e.kind ≠ .interrupted := by
        rw [wouldBlock]
        nofun
      rw [drain_of_error read, if_neg hnot, if_pos wouldBlock]
  | broken read notInterrupted notBlocked =>
      rw [drain_of_error read, if_neg notInterrupted, if_neg notBlocked]
  | peerClosed read => rw [drain_of_ok read, if_pos rfl]
  | fragment read some short _ ih => rw [drain_of_ok read, if_neg some, if_pos short, ih]
  | record read full answered _ ih =>
      rw [drain_of_ok read, if_neg (ne_nil_of_full full), if_neg (Nat.not_lt.mpr full)]
      split
      · next houtcome => exact absurd houtcome (answered _ _)
      · exact ih
  | unanswered read full failed =>
      rw [drain_of_ok read, if_neg (ne_nil_of_full full), if_neg (Nat.not_lt.mpr full), failed]

theorem exists_drains (table : HandlerTable) (worker : Nat) (clock : Nat → Readings) (p : Pass) :
    ∃ trace, Drains table worker clock p trace (drain table worker clock p).1
      (drain table worker clock p).2 := by
  fun_induction drain table worker clock p with
  | case1 p e rest read interrupted ih =>
      obtain ⟨trace, hlater⟩ := ih
      exact ⟨trace, .again read interrupted hlater⟩
  | case2 p e rest read notInterrupted =>
      by_cases hblocked : e.kind = .wouldBlock
      · rw [if_pos hblocked]
        exact ⟨[], .blocked read hblocked⟩
      · rw [if_neg hblocked]
        exact ⟨[], .broken read notInterrupted hblocked⟩
  | case3 p rest read => exact ⟨[], .peerClosed read⟩
  | case4 p got rest read filled some short ih =>
      obtain ⟨trace, hlater⟩ := ih
      exact ⟨_, .fragment read some short hlater⟩
  | case5 p got rest read filled _ full latency error failed =>
      exact ⟨_, .unanswered read (Nat.not_lt.mp full) failed⟩
  | case6 p got rest read filled _ full answered ih =>
      obtain ⟨trace, hlater⟩ := ih
      exact ⟨_, .record read (Nat.not_lt.mp full) answered hlater⟩

/-! ## What a pass leaves alone and what it counts -/

/-- What a pass dispatches, its desk does. -/
theorem dispatches (p : Pass) (table : HandlerTable) (worker : Nat) (clock : Nat → Readings) :
    p.desk.Dispatches table (clock p.dispatched) p.buffer (p.dispatch table worker clock).1
      (p.dispatch table worker clock).2.desk
      (p.desk.dispatch table (clock p.dispatched) p.buffer).2.2 :=
  p.desk.dispatches table (clock p.dispatched) p.buffer

theorem keeps_withIncoming (p : Pass) (rest : List Arrival) :
    p.desk.Keeps (p.withIncoming rest).desk :=
  ⟨rfl, rfl, ⟨_, _, _, _, rfl⟩, rfl, rfl, fun _ => rfl, rfl, rfl, rfl⟩

theorem keeps_countShortRead (p : Pass) : p.desk.Keeps p.countShortRead.desk :=
  ⟨rfl, rfl, ⟨_, _, _, _, rfl⟩, rfl, rfl, fun _ => rfl, rfl, rfl, rfl⟩

theorem keeps_taken (p : Pass) (rest : List Arrival) (got : List UInt8) :
    p.desk.Keeps ((p.filled rest got).dispatch table worker clock).2.desk :=
  (p.keeps_withIncoming rest).trans (Desk.dispatches _ _ _ _).keeps

namespace Drains

/-- What reads and dispatches preserve, a pass preserves. -/
theorem preserves {P : Pass → Prop} (hread : ∀ p rest, P p → P (p.withIncoming rest))
    (hfill : ∀ p bytes, P p → P (p.fill bytes)) (hshort : ∀ p, P p → P p.countShortRead)
    (hdispatch : ∀ p, P p → P (p.dispatch table worker clock).2)
    (h : Drains table worker clock p trace ended q) (hp : P p) : P q := by
  have hfilled : ∀ p rest got, P p → P (p.filled rest got) :=
    fun p rest got hp => hfill _ got (hread p rest hp)
  induction h with
  | again _ _ _ ih => exact ih (hread _ _ hp)
  | blocked _ _ => exact hread _ _ hp
  | broken _ _ _ => exact hread _ _ hp
  | peerClosed _ => exact hfilled _ _ _ hp
  | fragment _ _ _ _ ih => exact ih (hshort _ (hfilled _ _ _ hp))
  | record _ _ _ _ ih => exact ih (hdispatch _ (hfilled _ _ _ hp))
  | unanswered _ _ _ => exact hdispatch _ (hfilled _ _ _ hp)

theorem keeps (h : Drains table worker clock p trace ended q) : p.desk.Keeps q.desk :=
  h.preserves (P := fun q => p.desk.Keeps q.desk)
    (fun q rest hkeeps => hkeeps.trans (q.keeps_withIncoming rest)) (fun _ _ hkeeps => hkeeps)
    (fun q hkeeps => hkeeps.trans q.keeps_countShortRead)
    (fun q hkeeps => hkeeps.trans (q.dispatches table worker clock).keeps) (.refl p.desk)

/-- Every record is counted once, as handled or dropped, and every fragment as a short read. -/
theorem counts (h : Drains table worker clock p trace ended q) :
    q.desk.counters.messages + q.desk.counters.dropped =
        p.desk.counters.messages + p.desk.counters.dropped +
          UInt64.ofNat (trace.filterMap Intake.record?).length ∧
      q.desk.counters.shortReads =
        p.desk.counters.shortReads + UInt64.ofNat (trace.countP Intake.isFragment) := by
  -- the counts wrap round, so that all of this is arithmetic of words
  have hnone : ∀ n : UInt64, n = n + UInt64.ofNat 0 := fun n => (UInt64.add_zero n).symm
  have hone : ∀ (n : UInt64) (k : Nat), n + 1 + UInt64.ofNat k = n + UInt64.ofNat (k + 1) := by
    intro n k
    rw [UInt64.ofNat_add, UInt64.add_assoc, UInt64.add_comm 1]
    rfl
  induction h with
  | again _ _ _ ih => exact ih
  | blocked _ _ => exact ⟨hnone _, hnone _⟩
  | broken _ _ _ => exact ⟨hnone _, hnone _⟩
  | peerClosed _ => exact ⟨hnone _, hnone _⟩
  | fragment _ _ _ _ ih =>
      obtain ⟨htaken, hshort⟩ := ih
      refine ⟨htaken, ?_⟩
      rw [hshort, List.countP_cons_of_pos rfl, ← hone]
      rfl
  | @record p q trace ended got rest _ _ _ _ ih =>
      obtain ⟨htaken, hshort⟩ := ih
      obtain ⟨htaken', hshort'⟩ := ((p.filled rest got).dispatches table worker clock).counts
      rw [htaken, hshort, htaken', hshort', List.countP_cons_of_neg Bool.false_ne_true, hone]
      exact ⟨rfl, rfl⟩
  | @unanswered p got rest latency error _ _ _ =>
      obtain ⟨htaken', hshort'⟩ := ((p.filled rest got).dispatches table worker clock).counts
      rw [htaken', hshort']
      exact ⟨rfl, hnone _⟩

/-- A pass does to the state of a connection what handlers may do to it one after the other. -/
theorem state_related {R : Lifecycle → Lifecycle → Prop} (hnothing : ∀ state, R state state)
    (htrans : ∀ {before between after}, R before between → R between after → R before after)
    (hhandlers : ∀ type h, table.get type = some h →
      ∀ q : Request, R q.connection.state (h q).standing.state)
    (h : Drains table worker clock p trace ended q) :
    R p.desk.connection.state q.desk.connection.state :=
  h.preserves (P := fun q => R p.desk.connection.state q.desk.connection.state)
    (fun _ _ hstate => hstate) (fun _ _ hstate => hstate) (fun _ hstate => hstate)
    (fun q hstate =>
      htrans hstate ((q.dispatches table worker clock).state_related hnothing hhandlers))
    (hnothing _)

/-- If no handler changes the state of a connection, no pass does. -/
theorem state_eq (hkeeps : table.KeepsState) (h : Drains table worker clock p trace ended q) :
    q.desk.connection.state = p.desk.connection.state :=
  h.state_related (R := fun before after => after = before) (fun _ => rfl)
    (fun hfirst hlater => hlater.trans hfirst) hkeeps

/-- If no handler shuts a stream down, no pass does. -/
theorem shutDown_eq (hkeeps : table.KeepsStream)
    (h : Drains table worker clock p trace ended q) :
    q.desk.connection.stream.shutDown = p.desk.connection.stream.shutDown :=
  h.preserves
    (P := fun q => q.desk.connection.stream.shutDown = p.desk.connection.stream.shutDown)
    (fun _ _ hshut => hshut) (fun _ _ hshut => hshut) (fun _ hshut => hshut)
    (fun q hshut => ((q.dispatches table worker clock).shutDown_eq_of_keeps hkeeps).trans hshut)
    rfl

/-- A stream that is open after a pass was open before. -/
theorem open_before (h : Drains table worker clock p trace ended q)
    (hopen : q.desk.connection.stream.shutDown = false) :
    p.desk.connection.stream.shutDown = false := by
  by_contra hshut
  have hstill := h.preserves (P := fun q => q.desk.connection.stream.shutDown = true)
    (fun _ _ hshut => hshut) (fun _ _ hshut => hshut) (fun _ hshut => hshut)
    (fun q hshut => by rw [(q.dispatches table worker clock).shutDown_eq, hshut, Bool.true_or])
    (eq_true_of_ne_false hshut)
  exact Bool.false_ne_true (hopen.symm.trans hstill)

end Drains

/-! ## A pass over bytes that are all there -/

/-- The stream of the connection that is read from. -/
def stream (p : Pass) : Stream :=
  p.desk.connection.stream

/-- A read blocks when there are no bytes, and takes up to 128 of them otherwise. -/
theorem next_of_offers {bytes : List UInt8} (h : p.stream.Offers bytes) :
    bytes = [] ∧ p.next = (.error (.system .wouldBlock), []) ∨
      bytes ≠ [] ∧
        p.next = (.ok (bytes.take Record.size), Arrival.append [] (bytes.drop Record.size)) := by
  have hopen : p.desk.connection.stream.atEnd = false := by
    rw [Stream.atEnd, show p.desk.connection.stream.ended = false from h.notEnded,
      show p.desk.connection.stream.shutDown = false from h.accepting.notShutDown]
    rfl
  rw [next, hopen, show p.incoming = Arrival.append [] bytes from h.incoming]
  by_cases hbytes : bytes = []
  · subst hbytes
    exact .inl ⟨rfl, rfl⟩
  · refine .inr ⟨hbytes, ?_⟩
    rw [Arrival.append, if_neg hbytes]
    rfl

theorem offers_withIncoming {bytes : List UInt8} (h : p.stream.Offers bytes)
    (rest : List UInt8) : (p.withIncoming (Arrival.append [] rest)).stream.Offers rest :=
  ⟨rfl, h.notEnded, h.accepting.reading _⟩

theorem offers_filled {bytes : List UInt8} (h : p.stream.Offers bytes) (got rest : List UInt8) :
    (p.filled (Arrival.append [] rest) got).stream.Offers rest :=
  offers_withIncoming h rest

/-- A dispatch that leaves the stream open leaves the bytes where they are, and none of its writes
fails. -/
theorem offers_dispatch {bytes : List UInt8} (h : p.stream.Offers bytes)
    (hopen : (p.dispatch table worker clock).2.stream.shutDown = false) :
    (p.dispatch table worker clock).2.stream.Offers bytes ∧
      ∀ latency error, (p.dispatch table worker clock).1 ≠ .writeFailed latency error := by
  have hdispatches := p.dispatches table worker clock
  obtain ⟨haccepting, hanswered⟩ := hdispatches.accepting h.accepting hopen
  refine ⟨⟨?_, ?_, haccepting⟩, hanswered⟩
  · exact (p.incoming_dispatch table worker clock).trans h.incoming
  · obtain ⟨incoming, outgoing, acceptance, shutDown, hstream⟩ := hdispatches.keeps.stream
    have hended : (p.dispatch table worker clock).2.stream.ended = p.stream.ended := by
      rw [stream, hstream]
      rfl
    exact hended.trans h.notEnded

/-- A read of a whole record leaves nothing of what the buffer held before. -/
theorem buffer_filled {got : List UInt8} (rest : List Arrival) (full : Record.size ≤ got.length) :
    (p.filled rest got).buffer = Record.layout.decode got := by
  have hnone : p.buffer.toBytes.drop got.length = [] :=
    List.drop_of_length_le (by rwa [Record.length_toBytes])
  change Record.layout.decode (got ++ p.buffer.toBytes.drop got.length) = _
  rw [hnone, List.append_nil]

theorem decode_take {bytes : List UInt8} (h : Record.size ≤ bytes.length) :
    Record.layout.decode (bytes.take Record.size) = Record.layout.decode bytes :=
  Record.layout_faithful.decode_take h

/-- A pass over bytes that are all there, on a stream that stays open, takes their pieces, and
leaves nothing. -/
theorem Drains.of_offers {bytes : List UInt8} (h : Drains table worker clock p trace ended q)
    (hoffers : p.stream.Offers bytes) (hopen : q.stream.shutDown = false) :
    trace = intakes bytes ∧ ended = .pending ∧ q.stream.Offers [] := by
  -- by induction on the pass, where `bytes` is what is left; `next_of_offers` says what the read
  -- finds, which rules out all cases but three
  induction h generalizing bytes with
  | @again p q trace ended e rest read interrupted _ ih =>
      rcases next_of_offers hoffers with ⟨-, hread⟩ | ⟨-, hread⟩
      · cases read.symm.trans hread
        cases interrupted
      · cases read.symm.trans hread
  | @blocked p e rest read wouldBlock =>
      rcases next_of_offers hoffers with ⟨rfl, hread⟩ | ⟨-, hread⟩
      · cases read.symm.trans hread
        exact ⟨rfl, rfl, offers_withIncoming hoffers []⟩
      · cases read.symm.trans hread
  | @broken p e rest read _ notBlocked =>
      rcases next_of_offers hoffers with ⟨-, hread⟩ | ⟨-, hread⟩
      · cases read.symm.trans hread
        exact absurd rfl notBlocked
      · cases read.symm.trans hread
  | @peerClosed p rest read =>
      rcases next_of_offers hoffers with ⟨-, hread⟩ | ⟨hsome, hread⟩
      · cases read.symm.trans hread
      · have hnone := congrArg Prod.fst (read.symm.trans hread)
        simp [Record.size, hsome] at hnone
  | @fragment p q trace ended got rest read _ short _ ih =>
      rcases next_of_offers hoffers with ⟨-, hread⟩ | ⟨hsome, hread⟩
      · cases read.symm.trans hread
      · cases read.symm.trans hread
        have hlength : bytes.length < Record.size := by
          rw [List.length_take] at short
          omega
        rw [List.drop_of_length_le (Nat.le_of_lt hlength)] at ih
        obtain ⟨rfl, rfl, hleft⟩ := ih (offers_withIncoming hoffers []) hopen
        rw [intakes_of_lt hsome hlength, List.take_of_length_le (Nat.le_of_lt hlength)]
        exact ⟨rfl, rfl, hleft⟩
  | @record p q trace ended got rest read full _ later ih =>
      rcases next_of_offers hoffers with ⟨-, hread⟩ | ⟨-, hread⟩
      · cases read.symm.trans hread
      · cases read.symm.trans hread
        have hlength : Record.size ≤ bytes.length := by
          rw [List.length_take] at full
          omega
        have hread := offers_dispatch (offers_filled hoffers _ _) (later.open_before hopen)
        obtain ⟨rfl, rfl, hleft⟩ := ih hread.1 hopen
        rw [buffer_filled _ full, decode_take hlength, intakes_of_le hlength]
        exact ⟨rfl, rfl, hleft⟩
  | @unanswered p got rest latency error read full failed =>
      rcases next_of_offers hoffers with ⟨-, hread⟩ | ⟨-, hread⟩
      · cases read.symm.trans hread
      · cases read.symm.trans hread
        exact absurd failed ((offers_dispatch (offers_filled hoffers _ _) hopen).2 latency error)

/-! ## The buffer and the receive pool -/

/-- The same pass with another receive pool and another buffer. -/
def around (p : Pass) (pool : Pool) (buffer : Record) : Pass :=
  { p with desk := p.desk.withReceive pool, buffer }

/-- Once the buffer is full, a dispatch sees nothing of the receive pool. -/
theorem dispatch_around (p : Pass) (pool : Pool) :
    (p.around pool p.buffer).dispatch table worker clock =
      ((p.dispatch table worker clock).1,
        (p.dispatch table worker clock).2.around pool p.buffer) := by
  unfold dispatch
  simp only [around, Desk.dispatch_withReceive]

theorem filled_around (p : Pass) (pool : Pool) (buffer : Record) (rest : List Arrival)
    (got : List UInt8) :
    (p.around pool buffer).filled rest got =
      (p.filled rest got).around pool (buffer.overwrite got) :=
  rfl

theorem filled_around_of_full (p : Pass) (pool : Pool) (buffer : Record) (rest : List Arrival)
    {got : List UInt8} (full : Record.size ≤ got.length) :
    (p.around pool buffer).filled rest got =
      (p.filled rest got).around pool (p.filled rest got).buffer := by
  have hbuffer := buffer_filled (p := p.around pool buffer) rest full
  rw [filled_around] at hbuffer ⊢
  rw [buffer_filled rest full, ← hbuffer]
  rfl

/-- A pass takes the same pieces with the same result whatever receive pool and buffer it starts
with; only what is left in the buffer can differ. -/
theorem Drains.around (h : Drains table worker clock p trace ended q) (pool : Pool)
    (buffer : Record) :
    ∃ left, Drains table worker clock (p.around pool buffer) trace ended (q.around pool left) := by
  -- the buffers differ behind a short read, and are the same whenever a record is dispatched
  induction h generalizing buffer with
  | again read interrupted _ ih =>
      obtain ⟨left, hlater⟩ := ih buffer
      exact ⟨left, .again read interrupted hlater⟩
  | blocked read wouldBlock => exact ⟨buffer, .blocked read wouldBlock⟩
  | broken read notInterrupted notBlocked =>
      exact ⟨buffer, .broken read notInterrupted notBlocked⟩
  | peerClosed read => exact ⟨buffer.overwrite [], .peerClosed read⟩
  | @fragment p q trace ended got rest read some short _ ih =>
      obtain ⟨left, hlater⟩ := ih (buffer.overwrite got)
      exact ⟨left, .fragment read some short hlater⟩
  | @record p q trace ended got rest read full answered _ ih =>
      have hfilled := p.filled_around_of_full pool buffer rest full
      obtain ⟨left, hlater⟩ := ih (p.filled rest got).buffer
      have hrecord : Drains table worker clock (p.around pool buffer)
          (.record ((p.around pool buffer).filled rest got).buffer :: trace) ended
          (q.around pool left) := by
        refine .record read full ?_ ?_
        · rw [hfilled, dispatch_around]
          exact answered
        · rw [hfilled, dispatch_around]
          exact hlater
      rw [hfilled] at hrecord
      exact ⟨left, hrecord⟩
  | @unanswered p got rest latency error read full failed =>
      have hfilled := p.filled_around_of_full pool buffer rest full
      have hfailed : (((p.around pool buffer).filled rest got).dispatch table worker clock).1 =
          .writeFailed latency error := by
        rw [hfilled, dispatch_around]
        exact failed
      have hrecord := Drains.unanswered (p := p.around pool buffer) read full hfailed
      rw [hfilled, dispatch_around] at hrecord
      exact ⟨_, hrecord⟩

end Pass

/-! ## The pass of a server -/

namespace Server

/-- The pass with which a worker begins: with a slot of the receive pool, or with a buffer of its
own. -/
def firstPass (s : Server) (c : Connection) : Pass :=
  let (slot, pools) := s.pools.lease .receive
  { desk := ⟨c, pools, s.counters⟩
    buffer := (slot.bind fun i => pools.read? .receive i).getD Record.zero
    latencies := s.latencies
    dispatched := 0
    events := [] }

/-- The server when the pass has ended and the slot is given back. -/
def afterPass (s : Server) (k : Nat) (q : Pass) : Server :=
  let pools :=
    match (s.pools.lease .receive).1 with
    | some i => (q.desk.pools.write .receive i q.buffer).release .receive i
    | none => q.desk.pools
  { s.updateConnection k fun _ => q.desk.connection with
    pools, counters := q.desk.counters, latencies := q.latencies }

theorem drainConnection_of_drains {s : Server} {worker : Nat} {clock : Nat → Readings} {k : Nat}
    {c : Connection} {trace : List Intake} {ended : Drained} {q : Pass}
    (h : Pass.Drains s.table worker clock (s.firstPass c) trace ended q) :
    s.drainConnection worker clock k c = (ended, s.afterPass k q, q.events) := by
  have hpass : s.drainConnection worker clock k c =
      ((Pass.drain s.table worker clock (s.firstPass c)).1,
        s.afterPass k (Pass.drain s.table worker clock (s.firstPass c)).2,
        (Pass.drain s.table worker clock (s.firstPass c)).2.events) := rfl
  rw [hpass, h.drain_eq]

/-- Every drain is a pass. -/
theorem exists_pass (s : Server) (worker : Nat) (clock : Nat → Readings) (k : Nat)
    (c : Connection) :
    ∃ trace ended q, Pass.Drains s.table worker clock (s.firstPass c) trace ended q ∧
      s.drainConnection worker clock k c = (ended, s.afterPass k q, q.events) := by
  obtain ⟨trace, h⟩ := Pass.exists_drains s.table worker clock (s.firstPass c)
  exact ⟨trace, _, _, h, drainConnection_of_drains h⟩

end Server

end MessageServer
