import MessageServer.Proofs.Drain.Intake
import MessageServer.Proofs.Pool.Custody
import MessageServer.Proofs.Registry.Growth
import MessageServer.Server.Lifecycle

/-!
# What a valid configuration provides for

A valid configuration has a slot of each pool for every worker, and fewer connections than tokens.
It does not see to it that there are such pools: nothing but the memory bounds the number of their
slots.

* `Config.validate_eq_ok_iff`: what validity comes to.
* `Custody.Reached.drainConnection`: what a worker does to the pools while it reads from a
  connection is an interleaving of the kind that `Custody` describes.  It leases a slot of a
  direction only while it holds none of it.
* `Custody.Served`: what a worker can rely on: the slot that it asks for, to itself.
* `Config.provides` is the main statement.  What it says of tokens is how far the arena grows,
  `Registry.Reached.token_ne`.
-/

namespace MessageServer

/-! ## Validity -/

theorem Config.validate_eq_ok_iff {c : Config} :
    c.validate = .ok () ↔
      c.workers ≠ 0 ∧ c.workers ≤ c.poolSize ∧
        (c.maxEvents ≠ 0 ∧ c.maxEvents ≤ 2147483647) ∧
        (c.maxConnections ≠ 0 ∧ c.maxConnections < 4294967295) ∧
        0 < c.backlog ∧ c.statsInterval ≠ some 0 := by
  unfold validate
  split_ifs with hworkers hpool hevents hconnections hbacklog hinterval
  all_goals grind

/-- There are slots for all workers, and the last index of a word is never reached. -/
theorem Config.bounds_of_valid {c : Config} (hvalid : c.validate = .ok ()) :
    0 < c.poolSize.toNat ∧ c.workers.toNat ≤ c.poolSize.toNat ∧
      c.maxConnections.toNat < UInt32.size - 1 := by
  obtain ⟨hworkers, hpool, -, ⟨-, hconnections⟩, -⟩ := validate_eq_ok_iff.mp hvalid
  have hpositive : c.workers.toNat ≠ 0 := fun hzero => hworkers (UInt64.toNat_inj.mp hzero)
  have hpool : c.workers.toNat ≤ c.poolSize.toNat := UInt64.le_iff_toNat_le.mp hpool
  exact ⟨by omega, hpool, UInt64.lt_iff_toNat_lt.mp hconnections⟩

/-! ## Pools that were just made -/

/-- Pools of at least one slot each are made, unless they are too large, and nothing of them is
lent. -/
theorem Pools.exists_new {size : Nat} (hsize : 0 < size) (hmost : size ≤ Pool.mostSlots) :
    ∃ pools, Pools.new size = .ok pools ∧ (∀ d, (pools.get d).size = size) ∧
      ∀ d i, (pools.get d).isLent i = false := by
  refine ⟨_, by rw [Pools.new, Pool.new_of_le hsize hmost], fun d => ?_, fun d i => ?_⟩
  · cases d <;> exact Array.size_replicate
  · cases d
    all_goals
      simp only [get, Pool.isLent_eq, Array.getElem?_replicate]
      split_ifs <;> rfl

/-! ## The operations of the program -/

namespace Custody

variable {workers : Nat} {pools before after : Pools} {held : Direction → Fin workers → Option Nat}
  {d : Direction} {w : Fin workers} {slot : Nat}

theorem handing_handing (s : Custody workers) (d : Direction) (w : Fin workers)
    (slot slot' : Option Nat) (after : Pools) :
    handing ⟨after, s.handing d w slot⟩ d w slot' = s.handing d w slot' := by
  funext d' w'
  simp only [handing]
  split_ifs <;> rfl

namespace Reached

/-- A lease that finds nothing. -/
theorem lease_none (h : Reached pools ⟨before, held⟩) (free : held d w = none)
    (lease : before.lease d = (none, after)) : Reached pools ⟨after, held⟩ := by
  have hlater := h.operation (.lease free)
  rwa [Custody.lease, lease, handing_self free] at hlater

/-- A lease that finds a slot. -/
theorem lease_some (h : Reached pools ⟨before, held⟩) (free : held d w = none)
    (lease : before.lease d = (some slot, after)) :
    Reached pools ⟨after, handing ⟨before, held⟩ d w (some slot)⟩ := by
  have hlater := h.operation (.lease free)
  rwa [Custody.lease, lease] at hlater

/-- A slot is given back with a record in it, and its worker holds what it held before. -/
theorem returned {lent : Pools} (h : Reached pools ⟨after, handing ⟨lent, held⟩ d w (some slot)⟩)
    (free : held d w = none) (r : Record) :
    Reached pools ⟨(after.write d slot r).release d slot, held⟩ := by
  have holds : handing ⟨lent, held⟩ d w (some slot) d w = some slot := if_pos ⟨rfl, rfl⟩
  have hlater := (h.operation (.write holds r)).operation (.release holds)
  have hheld : handing ⟨after.write d slot r, handing ⟨lent, held⟩ d w (some slot)⟩ d w none =
      held := (handing_handing ⟨lent, held⟩ d w _ _ _).trans (handing_self free)
  rwa [Custody.release, Custody.write, hheld] at hlater

/-- A dispatch leases a slot of the send pool at most, and gives it back. -/
theorem dispatches {d d' : Desk} {table : HandlerTable} {readings : Readings} {r : Record}
    {outcome : Outcome} {events : List DispatchEvent} (h : Reached pools ⟨d.pools, held⟩)
    (free : held .send w = none) (step : d.Dispatches table readings r outcome d' events) :
    Reached pools ⟨d'.pools, held⟩ := by
  cases step with
  | dropped _ => exact h
  | silent _ _ _ => rwa [show Desk.pools _ = _ from Desk.pools_decided d readings _ r]
  | exhausted _ _ _ lease => exact h.lease_none free lease
  | sent _ _ _ lease _ => exact (h.lease_some free lease).returned free _
  | failed _ _ _ lease _ => exact (h.lease_some free lease).returned free _

/-- A pass does what its dispatches do. -/
theorem drains {table : HandlerTable} {worker : Nat} {clock : Nat → Readings} {p q : Pass}
    {trace : List Intake} {ended : Drained} (h : Reached pools ⟨p.desk.pools, held⟩)
    (free : held .send w = none) (pass : Pass.Drains table worker clock p trace ended q) :
    Reached pools ⟨q.desk.pools, held⟩ :=
  pass.preserves (P := fun p => Reached pools ⟨p.desk.pools, held⟩) (fun _ _ h => h)
    (fun _ _ h => h) (fun _ h => h)
    (fun p h => h.dispatches free (p.dispatches table worker clock)) h

/-- A worker begins to read with a slot of the receive pool, if it gets one, and none of the send
pool. -/
theorem firstPass {s : Server} (h : Reached pools ⟨s.pools, held⟩) (free : ∀ d, held d w = none)
    (c : Connection) :
    let holding := handing ⟨s.pools, held⟩ .receive w (s.pools.lease .receive).1
    Reached pools ⟨(s.firstPass c).desk.pools, holding⟩ ∧ holding .send w = none := by
  have hother : Direction.receive ≠ .send := by decide
  refine ⟨h.operation (.lease (free .receive)), ?_⟩
  rw [handing, if_neg (fun hsame => hother hsame.1)]
  exact free .send

/-- When a worker has read from a connection, it holds nothing again. -/
theorem drainConnection {s : Server} (h : Reached pools ⟨s.pools, held⟩)
    (free : ∀ d, held d w = none) (worker : Nat) (clock : Nat → Readings) (k : Nat)
    (c : Connection) :
    Reached pools ⟨(s.drainConnection worker clock k c).2.1.pools, held⟩ := by
  obtain ⟨trace, ended, q, hpass, hdrain⟩ := s.exists_pass worker clock k c
  obtain ⟨hfirst, hsend⟩ := h.firstPass free c
  have hlast := hfirst.drains hsend hpass
  rw [hdrain]
  -- what is given back is what was leased
  cases hlease : (s.pools.lease .receive).1 with
  | none =>
      rw [hlease, handing_self (free .receive)] at hlast
      simpa only [Server.afterPass, hlease] using hlast
  | some i =>
      rw [hlease] at hlast
      simpa only [Server.afterPass, hlease] using hlast.returned (free .receive) q.buffer

end Reached

end Custody

/-! ## No shortage -/

/-- No handler reports a shortage of slots of its own accord. -/
def HandlerTable.ReportsNoShortage (t : HandlerTable) : Prop :=
  ∀ type h, t.get type = some h → ∀ q clientId, .sendPoolExhausted clientId ∉ (h q).events

namespace Desk

variable {d : Desk} {table : HandlerTable} {readings : Readings} {r : Record}

/-- With a slot to lease, an acknowledgment is written or fails to be, but is not left out. -/
theorem sendAck_of_slot {slot : Nat} (hslot : (d.pools.lease .send).1 = some slot)
    (request : Record) (type : MessageType) (timestamp : UInt64) :
    (d.sendAck request type timestamp).1 ≠ .ok false ∧
      ∀ clientId, .sendPoolExhausted clientId ∉ (d.sendAck request type timestamp).2.2 := by
  have hlease : d.pools.lease .send = (some slot, (d.pools.lease .send).2) := Prod.ext hslot rfl
  rw [sendAck, hlease]
  dsimp only
  rcases d.connection.send (request.acknowledge type timestamp) with ⟨error | done, connection⟩
  · simp
  · simp

theorem dispatch_of_slot {slot : Nat} (hslot : (d.pools.lease .send).1 = some slot)
    (htable : table.ReportsNoShortage) (clientId : UInt64) :
    .sendPoolExhausted clientId ∉ (d.dispatch table readings r).2.2 := by
  unfold dispatch
  split
  · simp [drop]
  · split
    · split
      · simp [drop]
      · next type _ _ h hroute =>
          have hhandler := htable _ _ hroute (d.request readings r) clientId
          rw [handle_eq]
          cases hreply : (d.decision readings h r).reply with
          | silent => simpa [decision] using hhandler
          | ack ack =>
              rw [← d.pools_decided readings h r] at hslot
              have hsend := (sendAck_of_slot hslot r ack readings.acknowledged).2 clientId
              exact fun hmem => (List.mem_append.mp hmem).elim hhandler hsend
    · simp [drop]

end Desk

namespace Custody

variable {workers size : Nat} {pools : Pools} {held : Direction → Fin workers → Option Nat}
  {w : Fin workers}

/-- A pass of a worker that holds no slot of the send pool reports no shortage, whatever the others
hold. -/
theorem Reached.drains_of_enough {table : HandlerTable} {worker : Nat} {clock : Nat → Readings}
    {p q : Pass} {trace : List Intake} {ended : Drained} {clientId : UInt64}
    (h : Reached pools ⟨p.desk.pools, held⟩) (hsize : ∀ d, (pools.get d).size = size)
    (hfree : ∀ d i, (pools.get d).isLent i = false) (henough : workers ≤ size)
    (free : held .send w = none) (htable : table.ReportsNoShortage)
    (pass : Pass.Drains table worker clock p trace ended q)
    (hbefore : .sendPoolExhausted clientId ∉ p.events) :
    .sendPoolExhausted clientId ∉ q.events := by
  have hpass := pass.preserves
    (P := fun p => Reached pools ⟨p.desk.pools, held⟩ ∧
      DispatchEvent.sendPoolExhausted clientId ∉ p.events)
    (fun _ _ h => h) (fun _ _ h => h) (fun _ h => h) ?_ ⟨h, hbefore⟩
  · exact hpass.2
  · rintro p ⟨hreached, hnone⟩
    obtain ⟨slot, -, hslot, -⟩ := (hreached.valid hsize hfree).lease_eq_some henough free
    refine ⟨hreached.dispatches free (p.dispatches table worker clock), fun hmem => ?_⟩
    exact (List.mem_append.mp hmem).elim hnone (Desk.dispatch_of_slot hslot htable clientId)

/-- What workers can rely on, when the pools were `pools` at first. -/
structure Served (pools : Pools) (s : Custody workers) : Prop where
  exclusive : ∀ {d i w w'}, s.held d w = some i → s.held d w' = some i → w = w'
  /-- A worker that holds no slot of a direction is given one, and nobody else holds it. -/
  leased : ∀ d w, s.held d w = none →
    ∃ i, (s.pools.lease d).1 = some i ∧ ∀ w', s.held d w' ≠ some i
  /-- It begins to read with the record in its slot, not with a buffer of its own. -/
  buffered : ∀ w, s.held .receive w = none →
    ∀ (server : Server) (c : Connection), server.pools = s.pools →
      ∃ i record, s.pools.lease .receive = (some i, (server.firstPass c).desk.pools) ∧
        (server.firstPass c).desk.pools.read? .receive i = some record ∧
        (server.firstPass c).buffer = record
  /-- It has a slot for every acknowledgment. -/
  acknowledged : ∀ w, s.held .send w = none → ∀ desk : Desk, desk.pools = s.pools →
    ∀ request type timestamp, (desk.sendAck request type timestamp).1 ≠ .ok false ∧
      ∀ clientId, .sendPoolExhausted clientId ∉ (desk.sendAck request type timestamp).2.2
  /-- Reading from a connection consists of such operations, and reports no shortage. -/
  drained : ∀ w, (∀ d, s.held d w = none) → ∀ server : Server, server.pools = s.pools →
    ∀ worker clock k c,
      Reached pools ⟨(server.drainConnection worker clock k c).2.1.pools, s.held⟩ ∧
        (server.table.ReportsNoShortage → ∀ clientId,
          .sendPoolExhausted clientId ∉ (server.drainConnection worker clock k c).2.2)

/-- A worker that begins to read does so into the slot that it was given. -/
theorem firstPass_of_lease {server : Server} {c : Connection} {i : Nat}
    (hlease : (server.pools.lease .receive).1 = some i)
    (hi : i < (server.pools.get .receive).size) :
    ∃ record, server.pools.lease .receive = (some i, (server.firstPass c).desk.pools) ∧
      (server.firstPass c).desk.pools.read? .receive i = some record ∧
      (server.firstPass c).buffer = record := by
  obtain ⟨record, hrecord⟩ := Pool.exists_read? (hi.trans_eq (Pool.size_lease _).symm)
  have hread : (server.firstPass c).desk.pools.read? .receive i = some record := hrecord
  refine ⟨record, Prod.ext hlease rfl, hread, ?_⟩
  calc (server.firstPass c).buffer
      = ((server.pools.lease .receive).1.bind fun i =>
          (server.firstPass c).desk.pools.read? .receive i).getD Record.zero := rfl
    _ = record := by rw [hlease, Option.bind_some, hread, Option.getD_some]

/-- Enough slots for all workers. -/
theorem Reached.served {s : Custody workers} (h : Reached pools s)
    (hsize : ∀ d, (pools.get d).size = size) (hfree : ∀ d i, (pools.get d).isLent i = false)
    (henough : workers ≤ size) : s.Served pools := by
  have hvalid := h.valid hsize hfree
  refine ⟨hvalid.exclusive, fun d w free => ?_, fun w free server c hpools => ?_,
    fun w free desk hpools request type timestamp => ?_,
    fun w free server hpools worker clock k c => ?_⟩
  · obtain ⟨i, -, hlease⟩ := hvalid.lease_eq_some henough free
    exact ⟨i, hlease⟩
  · obtain ⟨i, hi, hlease, -⟩ := hvalid.lease_eq_some henough free
    rw [← hvalid.size_eq .receive] at hi
    rw [← hpools] at hlease hi ⊢
    exact ⟨i, firstPass_of_lease hlease hi⟩
  · obtain ⟨i, -, hlease, -⟩ := hvalid.lease_eq_some henough free
    exact Desk.sendAck_of_slot (hpools ▸ hlease) request type timestamp
  · have hserver : Reached pools ⟨server.pools, s.held⟩ := by rwa [hpools]
    refine ⟨hserver.drainConnection free worker clock k c, fun htable clientId => ?_⟩
    obtain ⟨trace, ended, q, hpass, hdrain⟩ := server.exists_pass worker clock k c
    obtain ⟨hfirst, hsend⟩ := hserver.firstPass free c
    rw [hdrain]
    exact hfirst.drains_of_enough hsize hfree henough hsend htable hpass List.not_mem_nil

end Custody

/-! ## The main statement -/

/-- The pools of a valid configuration can be made unless they are too large for a block of memory.
Then, in whatever order the workers lease and give back, each of them gets the slots it asks for, to
itself.  No connection has the token of the listening socket. -/
theorem Config.provides {config : Config} (hvalid : config.validate = .ok ()) :
    (Pools.new config.poolSize.toNat = .error .tooManySlots ↔
      Pool.mostSlots < config.poolSize.toNat) ∧
    (config.poolSize.toNat ≤ Pool.mostSlots →
      ∃ pools, Pools.new config.poolSize.toNat = .ok pools ∧
        ∀ s : Custody config.workers.toNat, s.Reached pools → s.Served pools) ∧
    ∀ (history : List RegistryEvent) (r : Registry) (t : Ticket),
      Registry.Reached config.maxConnections.toNat history r → .opened t ∈ history →
        t.id.toToken ≠ listenerToken := by
  obtain ⟨hpositive, henough, hconnections⟩ := bounds_of_valid hvalid
  refine ⟨⟨fun hfailed => ?_, fun hmost => ?_⟩, fun hmost => ?_, fun history r t h ht => ?_⟩
  · by_contra hmost
    obtain ⟨pools, hnew, -⟩ := Pools.exists_new hpositive (Nat.not_lt.mp hmost)
    cases hnew.symm.trans hfailed
  · rw [Pools.new, Pool.new_of_lt hmost]
  · obtain ⟨pools, hnew, hsize, hfree⟩ := Pools.exists_new hpositive hmost
    exact ⟨pools, hnew, fun s h => h.served hsize hfree henough⟩
  · exact h.token_ne (by omega) ht t.id.generation

/-- Two workers and two slots: while the first worker reads into one of them, the second worker gets
the other. -/
theorem Config.provides_two_workers :
    let config : Config := { default with workers := 2, poolSize := 2, maxConnections := 1 }
    let o : Opening := ⟨5, .v4 .localhost 9000, true, 0, .fresh⟩
    config.validate = .ok () ∧
      (∃ pools, Pools.new 2 = .ok pools ∧
        let s := (Custody.idle pools : Custody 2).lease .receive 0
        s.held .receive 0 = some 0 ∧ s.held .receive 1 = none ∧
          ∃ i, (s.pools.lease .receive).1 = some i ∧ i ≠ 0) ∧
        (Registry.new 1).registration o = [.opened ⟨⟨0, 0⟩, 0, 5⟩] ∧
          ConnectionId.toToken ⟨0, 0⟩ ≠ listenerToken := by
  intro config o
  have hvalid : config.validate = .ok () := by decide
  obtain ⟨-, hpools, htoken⟩ := provides hvalid
  obtain ⟨pools, hnew, hserved⟩ := hpools (by decide)
  have hhistory : (Registry.new 1).registration o = [.opened ⟨⟨0, 0⟩, 0, 5⟩] := by decide
  refine ⟨hvalid, ⟨pools, hnew, ?_⟩, hhistory, ?_⟩
  · intro s
    have hpools : Except.ok pools = Pools.new 2 := hnew.symm
    obtain rfl := Except.ok.inj hpools
    have hfirst : s.held .receive 0 = some 0 := by decide
    have hsecond : s.held .receive 1 = none := by decide
    obtain ⟨i, hlease, hother⟩ :=
      (hserved s (.operation .idle (.lease rfl))).leased .receive (1 : Fin 2) hsecond
    exact ⟨hfirst, hsecond, i, hlease, fun hi => hother (0 : Fin 2) (hi ▸ hfirst)⟩
  · have hreached : Registry.Reached 1 [.opened ⟨⟨0, 0⟩, 0, 5⟩] ((Registry.new 1).register o).2 :=
      hhistory ▸ .call .new (.register o)
    exact htoken _ _ ⟨⟨0, 0⟩, 0, 5⟩ hreached List.mem_cons_self

/-- The largest pools that can be asked for are valid and cannot be made, and no server is bound
with them. -/
theorem Config.valid_without_pools :
    let config : Config := { default with workers := 1, poolSize := 18446744073709551615 }
    config.validate = .ok () ∧ Pools.new config.poolSize.toNat = .error .tooManySlots ∧
      Server.bind Host.loopback config .default = .error (.pools .tooManySlots) := by
  intro config
  have hvalid : config.validate = .ok () := by decide
  have hmost : Pool.mostSlots < config.poolSize.toNat := by decide
  have hpools : Pools.new config.poolSize.toNat = .error .tooManySlots := by
    rw [Pools.new, Pool.new_of_lt hmost]
  refine ⟨hvalid, hpools, ?_⟩
  have hfree : Host.loopback.bindError? config.socketAddress.ip = none := by decide
  unfold Server.bind
  simp only [hvalid, hfree, hpools]

end MessageServer
