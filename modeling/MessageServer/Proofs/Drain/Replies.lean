import Mathlib.Data.List.Forall2
import MessageServer.Proofs.Dispatch.Answers
import MessageServer.Proofs.Drain.Framing

/-!
# Replies

What a client is sent under the default handlers depends on what this client sent, and on the clock
for the timestamps.

* `Pass.Drains.outgoing`: a pass writes the answers to the requests among its records.
* `Server.outgoing_serveAll`: over any deliveries to any clients, what is written to one client are
  the answers to its own requests.
* `Server.replies_isolated` puts this together with the comparison of two servers: whatever their
  pools, their workers, their other clients and the cuts between deliveries, the same bytes are
  answered in the same way up to timestamps.
-/

namespace MessageServer

open Record

/-! ## Whole records -/

namespace Record

/-- Behind whole records the next one begins. -/
theorem wholes_append {first : List UInt8} (hwhole : size ∣ first.length) (rest : List UInt8) :
    wholes (first ++ rest) = wholes first ++ wholes rest := by
  obtain ⟨n, hn⟩ := hwhole
  -- by induction on the number of records in `first`
  induction n generalizing first with
  | zero =>
      rw [Nat.mul_zero, List.length_eq_zero_iff] at hn
      subst hn
      rfl
  | succ n ih =>
      have hlength : size ≤ first.length := by
        rw [hn]
        exact Nat.le_mul_of_pos_right _ n.succ_pos
      have hdecode : layout.decode (first ++ rest) = layout.decode first := by
        have hencode := layout_faithful.encode_decode first hlength
        have htake : layout.encode (layout.decode first) ++ (first.drop size ++ rest) =
            first ++ rest := by
          rw [hencode, ← List.append_assoc]
          exact congrArg (· ++ rest) (List.take_append_drop _ _)
        rw [← htake, layout_faithful.decode_encode]
      have hdrop : (first.drop size).length = size * n := by
        rw [List.length_drop, hn, Nat.mul_succ, Nat.add_sub_cancel]
      rw [wholes_of_le hlength, wholes_of_le (by rw [List.length_append]; omega), hdecode,
        List.drop_append_of_le_length hlength, ih hdrop]
      rfl

theorem requests_append (first rest : List Record) :
    requests (first ++ rest) = requests first ++ requests rest :=
  List.filterMap_append

end Record

/-! ## A pass -/

namespace Pass

variable {table : HandlerTable} {worker : Nat} {clock : Nat → Readings} {p q : Pass}
  {trace : List Intake} {ended : Drained}

/-- A pass answers the requests among its records in their order, and writes nothing else. -/
theorem Drains.outgoing (hdefault : table.handlers = HandlerTable.default.handlers)
    (hclock : ∀ i, (clock i).acknowledged ≠ 0)
    (h : Drains table worker clock p trace ended q) (hslot : p.desk.HasSendSlot)
    (haccepting : p.stream.Accepting) :
    ∃ acks : List Record, q.stream.outgoing = p.stream.outgoing ++ acks.flatMap toBytes ∧
      List.Forall₂ Answers (requests (trace.filterMap Intake.record?)) acks := by
  have hnothing : ∀ p : Pass, ∃ acks : List Record,
      p.stream.outgoing = p.stream.outgoing ++ acks.flatMap toBytes ∧
        List.Forall₂ Answers (requests []) acks :=
    fun p => ⟨[], (List.append_nil _).symm, .nil⟩
  have hwritten : ∀ p : Pass, p.desk.HasSendSlot → p.stream.Accepting → ∃ acks : List Record,
      (p.dispatch table worker clock).2.stream.outgoing =
        p.stream.outgoing ++ acks.flatMap toBytes ∧
          List.Forall₂ Answers (requests [p.buffer]) acks := by
    intro p hslot haccepting
    have hdispatch := (p.dispatches table worker clock).outgoing hdefault hslot haccepting
    cases hrequest : p.buffer.request? with
    | none =>
        rw [hrequest] at hdispatch
        refine ⟨[], hdispatch, ?_⟩
        rw [requests, List.filterMap_cons_none hrequest]
        exact .nil
    | some q =>
        rw [hrequest] at hdispatch
        refine ⟨[q.1.acknowledge q.2 (clock p.dispatched).acknowledged], ?_, ?_⟩
        · rw [List.flatMap_cons, List.flatMap_nil, List.append_nil]
          exact hdispatch
        · rw [requests, List.filterMap_cons_some hrequest]
          exact .cons (answers_acknowledge hrequest (hclock _)) .nil
  -- no default handler shuts the stream down
  have hnext : ∀ p : Pass, p.stream.Accepting →
      (p.dispatch table worker clock).2.stream.Accepting ∧ ∀ latency error,
        (p.dispatch table worker clock).1 ≠ .writeFailed latency error := by
    intro p haccepting
    have hdispatches := p.dispatches table worker clock
    have hkeeps := HandlerTable.keepsStream_of_default hdefault
    exact hdispatches.accepting haccepting
      ((hdispatches.shutDown_eq_of_keeps hkeeps).trans haccepting.notShutDown)
  induction h with
  | again _ _ _ ih => exact ih hslot (haccepting.reading _)
  | blocked _ _ => exact hnothing _
  | broken _ _ _ => exact hnothing _
  | peerClosed _ => exact hnothing _
  | fragment _ _ _ _ ih => exact ih hslot (haccepting.reading _)
  | @record p q trace ended got rest _ _ _ _ ih =>
      have hread : (p.filled rest got).stream.Accepting := haccepting.reading rest
      obtain ⟨first, hfirst, hanswers⟩ := hwritten (p.filled rest got) hslot hread
      obtain ⟨acks, hacks, hanswers'⟩ := ih (hslot.keep (p.keeps_taken rest got)) (hnext _ hread).1
      refine ⟨first ++ acks, ?_, ?_⟩
      · rw [hacks, hfirst, List.flatMap_append, List.append_assoc]
        rfl
      · have hsplit : requests ((p.filled rest got).buffer :: trace.filterMap Intake.record?) =
            requests [(p.filled rest got).buffer] ++
              requests (trace.filterMap Intake.record?) :=
          requests_append [_] _
        exact hsplit ▸ List.rel_append hanswers hanswers'
  | @unanswered p got rest latency error _ _ failed =>
      have hread : (p.filled rest got).stream.Accepting := haccepting.reading rest
      exact absurd failed ((hnext _ hread).2 latency error)

end Pass

/-! ## Many clients -/

namespace Server

variable {s s' : Server} {ds ds' : List Delivery} {d : Delivery} {k k' : Nat}

/-- The server when a worker has served an event. -/
def afterEvent (s : Server) (worker : Nat) (clock : Nat → Readings) (e : Event) : Server :=
  (s.service worker clock e).2.1

/-- The bytes arrive, the readiness queue says so, and a worker serves the event. -/
def serve (s : Server) (d : Delivery) : Server :=
  match s.connection? d.serial with
  | none => s
  | some c => (s.arrive d).afterEvent d.worker d.clock ⟨c.id.toToken, 0x1⟩

/-- One delivery after the other, each served before the next one arrives. -/
def serveAll (s : Server) (ds : List Delivery) : Server :=
  ds.foldl serve s

/-- An active connection that the registry knows, with nothing left to read. -/
def Open (s : Server) (k : Nat) : Prop :=
  ∃ c, s.connection? k = some c ∧ c.serial = k ∧ c.isActive = true ∧
    s.registry.get? c.id = some c.toTicket ∧ c.stream.Offers []

/-- What a client sends in these deliveries, without regard to where one ends and the next one
begins. -/
def sentBy (k : Nat) (ds : List Delivery) : List UInt8 :=
  (ds.filter fun d => d.serial == k).flatMap Delivery.bytes

/-- `acks` is what was written to a client. -/
def Wrote (s s' : Server) (k : Nat) (acks : List Record) : Prop :=
  ∃ c c', s.connection? k = some c ∧ s'.connection? k = some c' ∧
    c'.stream.outgoing = c.stream.outgoing ++ acks.flatMap toBytes

/-- Deliveries of whole records to open connections of a server with the default handlers, a free
slot in the send pool, and a clock that does not read zero. -/
structure Schedule (s : Server) (ds : List Delivery) : Prop where
  default : s.table.handlers = HandlerTable.default.handlers
  slot : ∃ i, i < s.pools.send.size ∧ s.pools.send.isLent i = false
  opened : ∀ d ∈ ds, s.Open d.serial
  whole : ∀ d ∈ ds, 128 ∣ d.bytes.length
  clock : ∀ d ∈ ds, ∀ i, (d.clock i).acknowledged ≠ 0

/-- An event that says no more than that there is something to read. -/
theorem service_of_pending {u : Server} {worker : Nat} {clock : Nat → Readings} {e : Event}
    {t : Ticket} {c : Connection} {events : List DispatchEvent}
    (hget : s.registry.get? (.ofToken e.token) = some t) (hc : s.connection? t.serial = some c)
    (hactive : c.isActive = true) (hreadable : e.readable = true) (herror : e.error = false)
    (hdrain : s.drainConnection worker clock t.serial c = (.pending, u, events)) :
    s.service worker clock e = (none, u, events) := by
  have haddressed : s.Addressed e t.serial c := ⟨⟨t, hget, rfl⟩, hc, beq_iff_eq.mp hactive⟩
  have hthere : e.gone = false := by
    rw [Event.gone, hreadable]
    exact Bool.and_false _
  have hreason : reasonAfter e .pending = none := by
    rw [reasonAfter, herror]
    rfl
  rw [service_of_addressed haddressed, hthere, hdrain]
  simp only [Bool.false_eq_true, if_false, hreason]

/-- Serving the event of a delivery to an open connection is reading it. -/
theorem serve_eq_take (hdefault : s.table.handlers = HandlerTable.default.handlers)
    (hopen : s.Open d.serial) : s.serve d = (s.take d).2.1 := by
  obtain ⟨c, hc, hserial, hactive, hget, hoffers⟩ := hopen
  have hkeeps := HandlerTable.keepsStream_of_default hdefault
  obtain ⟨trace, left, -, hresult⟩ := (framed_take_of_keeps (d := d) hkeeps hc hoffers).pass
  have hknown : (s.arrive d).registry.get? (.ofToken c.id.toToken) = some c.toTicket := by
    rw [ConnectionId.ofToken_toToken]
    exact hget
  have hplace : (s.arrive d).connection? c.toTicket.serial = some (delivered c d) := by
    rw [hserial, connection?_arrive hc, if_pos rfl]
  have hdrain := (take_eq hc).symm.trans hresult
  rw [← hserial] at hdrain
  -- the event says that there is something to read, and no more
  have hreadable : ((0x1 : UInt32) &&& 0x1 != 0) = true := by decide
  have hfault : ((0x1 : UInt32) &&& 0x8 != 0) = false := by decide
  have hservice := service_of_pending (e := ⟨c.id.toToken, 0x1⟩) hknown hplace hactive hreadable
    hfault hdrain
  have hserve : s.serve d = (s.arrive d).afterEvent d.worker d.clock ⟨c.id.toToken, 0x1⟩ := by
    rw [serve, hc]
  rw [hserve, afterEvent, hservice, hresult, hserial]

/-- A delivery leaves the handlers as they are, and the slots of the send pool free that were. -/
theorem slot_take (hd : s.Waits d.serial)
    (hslot : ∃ i, i < s.pools.send.size ∧ s.pools.send.isLent i = false) :
    ∃ i, i < (s.take d).2.1.pools.send.size ∧ (s.take d).2.1.pools.send.isLent i = false := by
  obtain ⟨c, hc, -⟩ := hd
  obtain ⟨trace, ended, left, hpass, hresult, -⟩ := exists_take hc
  have hsend : ((s.arrive d).afterPass d.serial left).pools.send = left.desk.pools.send := by
    unfold afterPass
    cases ((s.arrive d).pools.lease .receive).1 <;> rfl
  have hfirst : ((s.arrive d).firstPass (delivered c d)).desk.HasSendSlot := hslot
  rw [hresult]
  obtain ⟨i, hi, hfree⟩ := hfirst.keep hpass.keeps
  exact ⟨i, by rwa [hsend], by rwa [hsend]⟩

theorem Open.waits (h : s.Open k) : s.Waits k := by
  obtain ⟨c, hc, -, -, -, hoffers⟩ := h
  exact ⟨c, hc, hoffers⟩

/-- Whoever was open before a delivery is open behind it. -/
theorem open_take (hdefault : s.table.handlers = HandlerTable.default.handlers)
    (hd : s.Open d.serial) (hk : s.Open k) : (s.take d).2.1.Open k := by
  obtain ⟨c, hc, hserial, hactive, hget, hoffers⟩ := hd
  have hkeeps := HandlerTable.keepsStream_of_default hdefault
  have hframed := framed_take_of_keeps (d := d) hkeeps hc hoffers
  by_cases hsame : k = d.serial
  · subst hsame
    obtain ⟨c', hc', hticket, hoffers'⟩ := hframed.connection
    refine ⟨c', hc', ?_, ?_, ?_, hoffers'⟩
    · rw [hticket, hserial]
    · obtain ⟨c₁, hc₁, hstate⟩ :=
        state_take (d := d) (HandlerTable.keepsState_of_default hdefault) hc
      obtain rfl : c' = c₁ := Option.some.inj (hc'.symm.trans hc₁)
      rw [Connection.isActive, hstate]
      exact hactive
    · rw [hframed.registry, hticket]
      exact hget
  · obtain ⟨other, hother, hserial', hactive', hget', hoffers'⟩ := hk
    refine ⟨other, (hframed.others k hsame).trans hother, hserial', hactive', ?_, hoffers'⟩
    rw [hframed.registry]
    exact hget'

theorem sentBy_cons (k : Nat) (d : Delivery) (ds : List Delivery) :
    sentBy k (d :: ds) = sentBy k [d] ++ sentBy k ds := by
  unfold sentBy
  rw [← List.flatMap_append, ← List.filter_append]
  rfl

theorem sentBy_self (d : Delivery) : sentBy d.serial [d] = d.bytes := by
  simp [sentBy]

theorem sentBy_other (hother : k ≠ d.serial) : sentBy k [d] = [] := by
  simp [sentBy, Ne.symm hother]

/-- What a delivery writes, and to whom. -/
theorem wrote_take (hdefault : s.table.handlers = HandlerTable.default.handlers)
    (hslot : ∃ i, i < s.pools.send.size ∧ s.pools.send.isLent i = false)
    (hclock : ∀ i, (d.clock i).acknowledged ≠ 0) (hd : s.Waits d.serial) (hk : s.Waits k) :
    ∃ acks, s.Wrote (s.take d).2.1 k acks ∧
      List.Forall₂ Answers (requests (wholes (sentBy k [d]))) acks := by
  obtain ⟨c, hc, hoffers⟩ := hd
  have hkeeps := HandlerTable.keepsStream_of_default hdefault
  have hframed := framed_take_of_keeps (d := d) hkeeps hc hoffers
  by_cases hsame : k = d.serial
  · subst hsame
    obtain ⟨trace, left, hpass, hresult⟩ := hframed.pass
    have hall : ((s.arrive d).firstPass (delivered c d)).stream.Offers d.bytes :=
      hoffers.deliver d.bytes
    obtain ⟨acks, hwritten, hanswers⟩ := hpass.outgoing hdefault hclock hslot hall.accepting
    have hopen := (hpass.shutDown_eq hkeeps).trans hall.accepting.notShutDown
    obtain ⟨rfl, -, -⟩ := hpass.of_offers hall hopen
    rw [filterMap_intakes] at hanswers
    have hplace := (connection?_arrive hc d.serial).trans (if_pos rfl)
    refine ⟨acks, ⟨c, left.desk.connection, hc, ?_, hwritten⟩, ?_⟩
    · rw [hresult, connection?_afterPass hplace, if_pos rfl]
    · rw [sentBy_self]
      exact hanswers
  · obtain ⟨other, hother, -⟩ := hk
    refine ⟨[], ⟨other, other, hother, (hframed.others k hsame).trans hother, ?_⟩, ?_⟩
    · exact (List.append_nil _).symm
    · rw [sentBy_other hsame]
      exact .nil

/-! ## Any deliveries -/

theorem Wrote.trans {u : Server} {first rest : List Record} (h : s.Wrote u k first)
    (h' : u.Wrote s' k rest) : s.Wrote s' k (first ++ rest) := by
  obtain ⟨c, c₁, hc, hc₁, hfirst⟩ := h
  obtain ⟨c₂, c', hc₂, hc', hrest⟩ := h'
  obtain rfl := Option.some.inj (hc₁.symm.trans hc₂)
  refine ⟨c, c', hc, hc', ?_⟩
  rw [hrest, hfirst, List.flatMap_append, List.append_assoc]

/-- The records can be read off the bytes that were written. -/
theorem Wrote.unique {acks acks' : List Record} (h : s.Wrote s' k acks)
    (h' : s.Wrote s' k acks') : acks = acks' := by
  obtain ⟨c, c', hc, hc', hacks⟩ := h
  obtain ⟨c₁, c₁', hc₁, hc₁', hacks'⟩ := h'
  obtain rfl := Option.some.inj (hc.symm.trans hc₁)
  obtain rfl := Option.some.inj (hc'.symm.trans hc₁')
  have hbytes := List.append_cancel_left (hacks.symm.trans hacks')
  rw [← wholes_toBytes acks, ← wholes_toBytes acks', hbytes]

/-- What is left of a schedule behind its first delivery. -/
theorem Schedule.tail (h : s.Schedule (d :: ds)) : Schedule (s.take d).2.1 ds := by
  have hd := h.opened d List.mem_cons_self
  exact
    { default := by rw [table_take, h.default]
      slot := slot_take hd.waits h.slot
      opened := fun e he => open_take h.default hd (h.opened e (List.mem_cons_of_mem d he))
      whole := fun e he => h.whole e (List.mem_cons_of_mem d he)
      clock := fun e he => h.clock e (List.mem_cons_of_mem d he) }

/-- What is written to a client are the answers to its own requests. -/
theorem wrote_serveAll (h : s.Schedule ds) (hk : s.Open k) :
    ∃ acks, s.Wrote (s.serveAll ds) k acks ∧
      List.Forall₂ Answers (requests (wholes (sentBy k ds))) acks := by
  induction ds generalizing s with
  | nil =>
      obtain ⟨c, hc, -⟩ := hk
      have hnothing : wholes (sentBy k []) = [] := wholes_of_lt (show 0 < Record.size by decide)
      rw [hnothing]
      exact ⟨[], ⟨c, c, hc, hc, (List.append_nil _).symm⟩, .nil⟩
  | cons d ds ih =>
      have hd := h.opened d List.mem_cons_self
      obtain ⟨first, hfirst, hanswers⟩ :=
        wrote_take h.default h.slot (h.clock d List.mem_cons_self) hd.waits hk.waits
      obtain ⟨rest, hrest, hanswers'⟩ := ih h.tail (open_take h.default hd hk)
      have hserve : s.serveAll (d :: ds) = (s.take d).2.1.serveAll ds :=
        congrArg (serveAll · ds) (serve_eq_take h.default hd)
      -- the cut behind this delivery is one between records, also for those it does not concern
      have hwhole : Record.size ∣ (sentBy k [d]).length := by
        by_cases hsame : k = d.serial
        · rw [hsame, sentBy_self]
          exact h.whole d List.mem_cons_self
        · rw [sentBy_other hsame]
          exact Nat.dvd_zero _
      refine ⟨first ++ rest, ?_, ?_⟩
      · rw [hserve]
        exact hfirst.trans hrest
      · rw [sentBy_cons, wholes_append hwhole, requests_append]
        exact List.rel_append hanswers hanswers'

/-- What is written to a client are the answers to its own requests in their order.  On any other
server, with any other clients and in any other deliveries, the same bytes are answered in the same
way up to timestamps. -/
theorem replies_isolated (h : s.Schedule ds) (hk : s.Open k) :
    (∃ acks, s.Wrote (s.serveAll ds) k acks ∧
      List.Forall₂ Answers (requests (wholes (sentBy k ds))) acks) ∧
    ∀ (s' : Server) (ds' : List Delivery) (k' : Nat), s'.Schedule ds' → s'.Open k' →
      sentBy k' ds' = sentBy k ds →
        ∀ acks acks', s.Wrote (s.serveAll ds) k acks → s'.Wrote (s'.serveAll ds') k' acks' →
          acks.map untimed = acks'.map untimed := by
  refine ⟨wrote_serveAll h hk, fun s' ds' k' h' hk' hsame acks acks' hacks hacks' => ?_⟩
  obtain ⟨here, hhere, hanswers⟩ := wrote_serveAll h hk
  obtain ⟨there, hthere, hanswers'⟩ := wrote_serveAll h' hk'
  rw [hsame] at hanswers'
  rw [hacks.unique hhere, hacks'.unique hthere, untimed_answers hanswers,
    untimed_answers hanswers']

/-- An order and a heartbeat of two clients, interleaved. -/
theorem replies_to_two_clients :
    let config : Config := { Config.default with workers := 1, poolSize := 1 }
    let pool : Pool := ⟨#[⟨false, Record.zero⟩], 0⟩
    let socket (d : Descriptor) : Incoming :=
      ⟨d, .v4 .localhost 9000, 0, .fresh, none, none⟩
    let clock : Nat → Readings := fun _ => ⟨1, 2, 3, 4⟩
    let order := Record.envelope 7 .newOrder 1
    let heartbeat := Record.envelope 8 .heartbeat 1
    let s₀ := bound config .default (.ofIp (.v4 .localhost) 8888) ⟨pool, pool⟩
    let s := (((s₀.accept (socket 5)).2).accept (socket 6)).2
    let ds : List Delivery := [⟨0, order.toBytes, 0, clock⟩, ⟨1, heartbeat.toBytes, 0, clock⟩]
    s.Schedule ds ∧ s.Open 0 ∧ ∃ acks, s.Wrote (s.serveAll ds) 0 acks ∧
      List.Forall₂ Answers (requests (wholes (sentBy 0 ds))) acks := by
  intro config pool socket clock order heartbeat s₀ s ds
  let client (k : Nat) (index : UInt32) (d : Descriptor) : Connection :=
    ⟨⟨⟨index, 0⟩, k, d⟩, .v4 .localhost 9000, ⟨.active, 0, true⟩, .fresh⟩
  have hfirst : s.connection? 0 = some (client 0 0 5) := by decide +kernel
  have hsecond : s.connection? 1 = some (client 1 1 6) := by decide +kernel
  have hopen₀ : s.Open 0 :=
    ⟨_, hfirst, rfl, rfl, by decide +kernel, Stream.offers_fresh⟩
  have hopen₁ : s.Open 1 :=
    ⟨_, hsecond, rfl, rfl, by decide +kernel, Stream.offers_fresh⟩
  have htable : s.table = .default := (table_run _ _).trans (table_run _ _)
  have hschedule : s.Schedule ds :=
    { default := by rw [htable]
      slot := ⟨0, by decide +kernel, by decide +kernel⟩
      opened := List.forall_mem_cons.mpr ⟨hopen₀, List.forall_mem_singleton.mpr hopen₁⟩
      whole := List.forall_mem_cons.mpr ⟨⟨1, length_toBytes order⟩,
        List.forall_mem_singleton.mpr ⟨1, length_toBytes heartbeat⟩⟩
      clock := by
        have hnotZero : ∀ i, (clock i).acknowledged ≠ 0 := fun _ => by decide
        exact List.forall_mem_cons.mpr ⟨hnotZero, List.forall_mem_singleton.mpr hnotZero⟩ }
  exact ⟨hschedule, hopen₀, (replies_isolated hschedule hopen₀).1⟩

end Server

end MessageServer
