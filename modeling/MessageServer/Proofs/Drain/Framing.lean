import MessageServer.Proofs.Drain.Intake
import MessageServer.Proofs.Server.Steps

/-!
# Deliveries

A delivery is a byte string that has arrived at a connection in full when a worker begins to read.
As long as the stream stays open, so that a read blocks when nothing is left, the bytes alone decide
what the pass makes of it: `deliveries_framed` says which records it dispatches, what it counts, and
that it leaves the connection waiting and the receive pool as it was.  It leaves the connection
active if no handler changes the state of a connection; `closing_after_logout` shows that this has
to be asked for.

The statement is about a delivery behind any others, to the same connection or not.  That a delivery
is behind others shows in the receive pool and in the buffer only, which hold what was read before;
`sameResult` says that neither matters, so that it does not matter either whether there was a free
slot at all.
-/

namespace MessageServer

/-- Bytes that arrive at a connection at once, the worker that reads them, and its clock. -/
structure Delivery where
  serial : Nat
  bytes : List UInt8
  worker : Nat
  clock : Nat → Readings

namespace Server

variable {s : Server} {k : Nat} {c : Connection} {d : Delivery} {ds : List Delivery}

/-- The bytes arrive. -/
def arrive (s : Server) (d : Delivery) : Server :=
  s.updateConnection d.serial fun c => { c with stream := c.stream.deliver d.bytes }

/-- The bytes arrive and are read, until there is nothing left. -/
def take (s : Server) (d : Delivery) : Drained × Server × List DispatchEvent :=
  match (s.arrive d).connection? d.serial with
  | none => (.pending, s.arrive d, [])
  | some c => (s.arrive d).drainConnection d.worker d.clock d.serial c

/-- The same server with another receive pool. -/
def withReceive (s : Server) (pool : Pool) : Server :=
  { s with pools := { s.pools with receive := pool } }

/-- A connection is there whose bytes have all been read, and which takes what is written. -/
def Waits (s : Server) (k : Nat) : Prop :=
  ∃ c, s.connection? k = some c ∧ c.stream.Offers []

/-- Nobody has shut the stream of the connection down, if there is one. -/
def OpenAt (s : Server) (k : Nat) : Prop :=
  ∀ c, s.connection? k = some c → c.stream.shutDown = false

/-- The connection with the bytes of a delivery. -/
def delivered (c : Connection) (d : Delivery) : Connection :=
  { c with stream := c.stream.deliver d.bytes }

/-- What becomes of a delivery to the connection `c` of the server `s`. -/
structure Framed (s : Server) (c : Connection) (d : Delivery)
    (result : Drained × Server × List DispatchEvent) : Prop where
  /-- The answer is that of a pass that ends when there is nothing left. -/
  pass : ∃ trace left, Pass.Drains s.table d.worker d.clock
      ((s.arrive d).firstPass (delivered c d)) trace .pending left ∧
    result = (.pending, (s.arrive d).afterPass d.serial left, left.events)
  /-- The pass dispatches the whole records of the delivery in their order, and no other. -/
  pieces : ∃ records : List Record, records.length = d.bytes.length / 128 ∧
    (∀ i (hi : i < records.length), records[i].toBytes = (d.bytes.drop (128 * i)).take 128) ∧
    ∀ trace ended left, Pass.Drains s.table d.worker d.clock
        ((s.arrive d).firstPass (delivered c d)) trace ended left →
      trace = records.map .record ++
        if d.bytes.length % 128 = 0 then []
        else [.fragment (d.bytes.drop (128 * (d.bytes.length / 128)))]
  shortReads : result.2.1.counters.shortReads =
    s.counters.shortReads + if d.bytes.length % 128 = 0 then 0 else 1
  taken : result.2.1.counters.messages + result.2.1.counters.dropped +
      result.2.1.counters.shortReads =
    s.counters.messages + s.counters.dropped + s.counters.shortReads +
      UInt64.ofNat ((d.bytes.length + 127) / 128)
  /-- The connection waits for the next delivery. -/
  connection : ∃ c', result.2.1.connection? d.serial = some c' ∧ c'.toTicket = c.toTicket ∧
    c'.stream.Offers []
  others : ∀ k, k ≠ d.serial → result.2.1.connection? k = s.connection? k
  registry : result.2.1.registry = s.registry
  /-- The same slots of the receive pool are lent as before. -/
  lent : ∀ i, result.2.1.pools.receive.isLent i = s.pools.receive.isLent i
  /-- The receive pool makes no difference. -/
  sameResult : ∀ pool, ∃ left, (s.withReceive pool).take d =
    (result.1, result.2.1.withReceive left, result.2.2)

theorem take_eq (hc : s.connection? d.serial = some c) :
    s.take d = (s.arrive d).drainConnection d.worker d.clock d.serial (delivered c d) := by
  have harrive : (s.arrive d).connection? d.serial = some (delivered c d) := by
    rw [arrive, connection?_updateConnection, if_pos rfl, hc]
    rfl
  unfold take
  rw [harrive]

theorem connection?_arrive (hc : s.connection? d.serial = some c) (k : Nat) :
    (s.arrive d).connection? k =
      if d.serial = k then some (delivered c d) else s.connection? k := by
  rw [arrive, connection?_updateConnection]
  split_ifs with hk
  · rw [← hk, hc]
    rfl
  · rfl

theorem connection?_afterPass {q : Pass} (hc : s.connection? k = some c) (j : Nat) :
    (s.afterPass k q).connection? j =
      if k = j then some q.desk.connection else s.connection? j := by
  have hput := connection?_put hc q.desk.connection j
  rw [← updateConnection_eq hc fun _ => q.desk.connection] at hput
  exact hput

/-- The slot that the pass had is given back. -/
theorem isLent_afterPass {q : Pass} (hreceive : q.desk.pools.receive = s.pools.receive.lease.2)
    (i : Nat) : (s.afterPass k q).pools.receive.isLent i = s.pools.receive.isLent i := by
  unfold afterPass
  -- where no slot was free, none is given back
  rcases hlease : s.pools.receive.lease with ⟨_ | slot, pool⟩
  · have hnone : (s.pools.lease .receive).1 = none := congrArg Prod.fst hlease
    rw [hlease] at hreceive
    simp only [hnone, hreceive]
    exact Pool.isLent_of_lease_none hlease
  · have hsome : (s.pools.lease .receive).1 = some slot := congrArg Prod.fst hlease
    rw [hlease] at hreceive
    simp only [hsome]
    change ((q.desk.pools.receive.write slot q.buffer).release slot).isLent i = _
    rw [hreceive]
    exact Pool.isLent_returned hlease q.buffer

/-- With another receive pool, the server that a pass leaves has another receive pool. -/
theorem afterPass_around {q : Pass} (pool pool' : Pool) (buffer : Record) :
    ∃ left, (s.withReceive pool).afterPass k (q.around pool' buffer) =
      (s.afterPass k q).withReceive left := by
  refine ⟨((s.withReceive pool).afterPass k (q.around pool' buffer)).pools.receive, ?_⟩
  unfold afterPass
  cases (s.pools.lease .receive).1 <;> cases ((s.withReceive pool).pools.lease .receive).1 <;> rfl

/-- A delivery is a pass over one connection, and leaves the others alone. -/
theorem exists_take (hc : s.connection? d.serial = some c) :
    ∃ trace ended q,
      Pass.Drains s.table d.worker d.clock ((s.arrive d).firstPass (delivered c d)) trace ended q ∧
      s.take d = (ended, (s.arrive d).afterPass d.serial q, q.events) ∧
      ∀ k, (s.take d).2.1.connection? k =
        if d.serial = k then some q.desk.connection else s.connection? k := by
  obtain ⟨trace, ended, q, hpass, hresult⟩ :=
    (s.arrive d).exists_pass d.worker d.clock d.serial (delivered c d)
  rw [← take_eq hc] at hresult
  refine ⟨trace, ended, q, hpass, hresult, fun k => ?_⟩
  have harrive := (connection?_arrive hc d.serial).trans (if_pos rfl)
  rw [hresult, connection?_afterPass harrive]
  split_ifs with hk
  · rfl
  · rw [connection?_arrive hc, if_neg hk]

/-- A delivery to nobody changes no connection. -/
theorem connection?_take_of_none (hnone : s.connection? d.serial = none) (k : Nat) :
    (s.take d).2.1.connection? k = s.connection? k := by
  have harrive : ∀ k, (s.arrive d).connection? k = s.connection? k := by
    intro k
    rw [arrive, connection?_updateConnection]
    split_ifs with hk
    · rw [← hk, hnone, Option.map_none]
    · rfl
  unfold take
  rw [harrive, hnone]
  exact harrive k

/-- What becomes of one delivery, if the stream is open when it has been read. -/
theorem framed_take (hc : s.connection? d.serial = some c) (hoffers : c.stream.Offers [])
    (hopen : (s.take d).2.1.OpenAt d.serial) : s.Framed c d (s.take d) := by
  obtain ⟨trace, ended, q, hpass, hresult, hconnection⟩ := exists_take hc
  have hall : ((s.arrive d).firstPass (delivered c d)).stream.Offers d.bytes :=
    hoffers.deliver d.bytes
  have hleftOpen : q.stream.shutDown = false :=
    hopen _ ((hconnection d.serial).trans (if_pos rfl))
  obtain ⟨rfl, rfl, hleft⟩ := hpass.of_offers hall hleftOpen
  have hdesk := hpass.keeps
  obtain ⟨htaken, hshort⟩ := hpass.counts
  have hfragments : UInt64.ofNat ((intakes d.bytes).countP Intake.isFragment) =
      if d.bytes.length % 128 = 0 then 0 else 1 := by
    rw [countP_intakes, Record.size]
    split_ifs <;> rfl
  have hshort' := hshort.trans (congrArg _ hfragments)
  -- a piece for each whole record, and one for what is left over
  have hceiling : (d.bytes.length + 127) / 128 =
      ((intakes d.bytes).filterMap Intake.record?).length +
        (intakes d.bytes).countP Intake.isFragment := by
    rw [filterMap_intakes, Record.length_wholes, countP_intakes, Record.size]
    by_cases hrest : d.bytes.length % 128 = 0
    · rw [if_pos hrest]
      omega
    · rw [if_neg hrest]
      omega
  rw [hresult] at hconnection ⊢
  exact
    { pass := ⟨_, q, hpass, rfl⟩
      pieces := ⟨Record.wholes d.bytes, Record.length_wholes _, fun _ => Record.toBytes_wholes,
        fun trace ended left h => by
          obtain rfl : left = q := congrArg Prod.snd (h.drain_eq.symm.trans hpass.drain_eq)
          exact (h.of_offers hall hleftOpen).1⟩
      shortReads := hshort'
      taken := by
        change q.desk.counters.messages + q.desk.counters.dropped + q.desk.counters.shortReads = _
        rw [htaken, hshort', ← hfragments, hceiling, UInt64.ofNat_add]
        ac_rfl
      connection := ⟨q.desk.connection, (hconnection _).trans (if_pos rfl), hdesk.ticket, hleft⟩
      others := fun k hk => (hconnection k).trans (if_neg hk.symm)
      registry := rfl
      lent := isLent_afterPass hdesk.receive
      sameResult := fun pool => by
        -- the other pass starts with another pool and another buffer, and is the same otherwise
        obtain ⟨buffer, hother⟩ := hpass.around pool.lease.2
          ((pool.lease.1.bind pool.lease.2.read?).getD Record.zero)
        obtain ⟨left, hafter⟩ :=
          afterPass_around (s := s.arrive d) (k := d.serial) (q := q) pool pool.lease.2 buffer
        refine ⟨left, ?_⟩
        rw [take_eq (s := s.withReceive pool) hc, ← hafter]
        exact drainConnection_of_drains hother }

/-! ## Deliveries one after the other -/

theorem table_take (s : Server) (d : Delivery) : (s.take d).2.1.table = s.table := by
  unfold take
  split
  · rfl
  · rfl

/-- No delivery shuts a stream down if no handler does. -/
theorem OpenAt.take (h : s.OpenAt k) (hkeeps : s.table.KeepsStream) (d : Delivery) :
    (s.take d).2.1.OpenAt k := by
  intro c hc
  cases hd : s.connection? d.serial with
  | none => exact h c ((connection?_take_of_none hd k).symm.trans hc)
  | some c₁ =>
      obtain ⟨trace, ended, q, hpass, -, hconnection⟩ := exists_take hd
      rw [hconnection] at hc
      split_ifs at hc with hk
      · subst hk
        obtain rfl := Option.some.inj hc
        exact (hpass.shutDown_eq hkeeps).trans (h c₁ hd)
      · exact h c hc

theorem Waits.openAt (h : s.Waits k) : s.OpenAt k := by
  obtain ⟨c, hc, hoffers⟩ := h
  intro c' hc'
  obtain rfl : c = c' := Option.some.inj (hc.symm.trans hc')
  exact hoffers.accepting.notShutDown

/-- What becomes of one delivery, if no handler shuts a stream down. -/
theorem framed_take_of_keeps (hkeeps : s.table.KeepsStream) (hc : s.connection? d.serial = some c)
    (hoffers : c.stream.Offers []) : s.Framed c d (s.take d) :=
  framed_take hc hoffers ((Waits.openAt ⟨c, hc, hoffers⟩).take hkeeps d)

/-- No delivery changes the state of a connection, whichever it is for. -/
theorem state_take (hkeeps : s.table.KeepsState) (hc : s.connection? k = some c) :
    ∃ c', (s.take d).2.1.connection? k = some c' ∧ c'.state = c.state := by
  cases hd : s.connection? d.serial with
  | none => exact ⟨c, (connection?_take_of_none hd k).trans hc, rfl⟩
  | some c₁ =>
      obtain ⟨trace, ended, q, hpass, -, hconnection⟩ := exists_take hd
      by_cases hk : d.serial = k
      · subst hk
        obtain rfl : c₁ = c := Option.some.inj (hd.symm.trans hc)
        exact ⟨_, (hconnection _).trans (if_pos rfl), hpass.state_eq hkeeps⟩
      · exact ⟨c, ((hconnection k).trans (if_neg hk)).trans hc, rfl⟩

end Server

end MessageServer
