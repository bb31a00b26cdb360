import MessageServer.Proofs.Drain.Framing
import MessageServer.Proofs.Drain.Scripts
import MessageServer.Proofs.Server.Changes

/-!
# Serving an event

An event is served if its token resolves to an active connection, `Server.Addressed`.  Then the
connection is closed at once, or it is read until a read ends the pass, and closed afterwards if
there is a reason to.

* `closedOnce`: a closing takes an open connection down and changes nothing else, whatever came
  before it.
* `Serviced`: what becomes of an event, from the event and from what the socket answers.
* `service_closes`: every event is served in this way, whatever the state of the server.
-/

namespace MessageServer

namespace Server

variable {s u : Server} {worker : Nat} {clock : Nat → Readings} {e : Event} {k : Nat}
  {c : Connection}

/-! ## Closing -/

/-- The server `u` is `s` with its connection `c` closed: the connection has left the readiness
queue and the registry, has been announced to the hook and counted, each of them once. -/
structure ClosedOnce (s : Server) (k : Nat) (c : Connection) (u : Server) : Prop where
  /-- The connection is closed, its socket shut down and given back, and nothing was read. -/
  connection : ∃ c', u.connection? k = some c' ∧ c'.toTicket = c.toTicket ∧ c'.state = .closed ∧
    c'.stream = { c.stream with shutDown := true, dropped := true }
  others : ∀ j, j ≠ k → u.connection? j = s.connection? j
  /-- All that is new besides. -/
  changes : ∃ connections, u =
    { s with
      connections
      watchlist := s.watchlist.delete c.descriptor
      registry := (s.registry.release c.id).2
      counters := s.counters.connectionClosed
      calls := s.calls ++ HookCall.of .closed s.table.onClose c.shutdown.markClosed }

/-- A worker that closes an open connection closes it once. -/
theorem closedOnce (hpassive : s.table.Passive) (hc : s.connection? k = some c)
    (hopen : c.state.isOpen = true) : s.ClosedOnce k c (s.closeConnection k).2 := by
  have hput := connection?_put hc (c.shutdown.retired s.table)
  rw [closeConnection, closing_eq hc hopen]
  exact
    { connection := ⟨_, (hput k).trans (if_pos rfl), c.shutdown.retired_ticket s.table,
        Connection.retired_state hpassive.closes, Connection.retired_stream s.table c⟩
      others := fun j hj => (hput j).trans (if_neg hj.symm)
      changes := ⟨_, rfl⟩ }

/-- A connection must go after every pass but one that ended for want of bytes, and after that too
if the event reports an error. -/
theorem reasonAfter_eq_none_iff {ended : Drained} :
    reasonAfter e ended = none ↔ ended = .pending ∧ e.error = false := by
  cases ended with
  | pending => cases herror : e.error <;> simp [reasonAfter, herror]
  | peerClosed | readFailed _ | writeFailed _ => simp [reasonAfter]

/-- Every drain makes the reads of a script. -/
theorem exists_script (s : Server) (worker : Nat) (clock : Nat → Readings) (k : Nat)
    (c : Connection) :
    ∃ rs ended q, Pass.Scripted s.table worker clock (s.firstPass c) rs ended q ∧
      s.drainConnection worker clock k c = (ended, s.afterPass k q, q.events) := by
  obtain ⟨trace, ended, q, hpass, hdrain⟩ := s.exists_pass worker clock k c
  obtain ⟨rs, hreads⟩ := hpass.exists_reads
  exact ⟨rs, ended, q, hreads.scripted, hdrain⟩

/-! ## The ways to serve an event -/

/-- How an event is served: it is for nobody; or the peer is gone and the connection is closed
unread; or the connection is read and left as it is, or closed behind the last read. -/
inductive Serves (s : Server) (worker : Nat) (clock : Nat → Readings) (e : Event) :
    Option CloseReason × Server × List DispatchEvent → Prop where
  | ignored (nobody : ∀ k c, ¬ s.Addressed e k c) : Serves s worker clock e (none, s, [])
  | gone {k : Nat} {c : Connection} {u : Server} (addressed : s.Addressed e k c)
      (gone : e.gone = true) (closed : s.ClosedOnce k c u) :
      Serves s worker clock e (some .hungUp, u, [])
  | kept {k : Nat} {c : Connection} {rs : List Reading} {ended : Drained} {q : Pass}
      (addressed : s.Addressed e k c) (there : e.gone = false)
      (script : Pass.Scripted s.table worker clock (s.firstPass c) rs ended q)
      (drain : (s.drainConnection worker clock k c).1 = ended)
      (active : q.desk.connection.state = .active) (reason : reasonAfter e ended = none) :
      Serves s worker clock e (none, s.afterPass k q, q.events)
  | closed {k : Nat} {c : Connection} {rs : List Reading} {ended : Drained} {q : Pass}
      {why : CloseReason} {u : Server} (addressed : s.Addressed e k c) (there : e.gone = false)
      (script : Pass.Scripted s.table worker clock (s.firstPass c) rs ended q)
      (drain : (s.drainConnection worker clock k c).1 = ended)
      (active : q.desk.connection.state = .active) (reason : reasonAfter e ended = some why)
      (closed : (s.afterPass k q).ClosedOnce k q.desk.connection u) :
      Serves s worker clock e (some why, u, q.events)

theorem serves (hpassive : s.table.Passive) (worker : Nat) (clock : Nat → Readings) (e : Event) :
    s.Serves worker clock e (s.service worker clock e) := by
  by_cases haddressed : ∃ k c, s.Addressed e k c
  · obtain ⟨k, c, haddressed⟩ := haddressed
    rw [service_of_addressed haddressed]
    cases hgone : e.gone with
    | true =>
        exact .gone haddressed hgone
          (closedOnce hpassive haddressed.connection haddressed.isOpen)
    | false =>
        obtain ⟨rs, ended, q, hscript, hdrain⟩ := s.exists_script worker clock k c
        have hended := congrArg Prod.fst hdrain
        have hactive : q.desk.connection.state = .active :=
          (hscript.reads.drains.state_eq hpassive.handlers).trans haddressed.active
        rw [if_neg Bool.false_ne_true, hdrain]
        cases hreason : reasonAfter e ended with
        | none =>
            simp only [hreason]
            exact .kept haddressed hgone hscript hended hactive hreason
        | some reason =>
            have hafter := connection?_afterPass (q := q) haddressed.connection k
            have hopen : q.desk.connection.state.isOpen = true := by
              rw [hactive]
              rfl
            simp only [hreason]
            exact .closed haddressed hgone hscript hended hactive hreason
              (closedOnce hpassive (hafter.trans (if_pos rfl)) hopen)
  · have hnobody : ∀ k c, ¬ s.Addressed e k c := fun k c h => haddressed ⟨k, c, h⟩
    rw [service_of_unaddressed hnobody]
    exact .ignored hnobody

/-! ## What becomes of an event -/

/-- What a server answers to an event: why a connection was closed, if one was, the server behind
it, and what the dispatches reported. -/
structure Serviced (s : Server) (worker : Nat) (clock : Nat → Readings) (e : Event)
    (answer : Option CloseReason × Server × List DispatchEvent) : Prop where
  /-- Where the event is for nobody, nothing is read, and nothing changes. -/
  ignored : (∀ k c, ¬ s.Addressed e k c) → answer = (none, s, [])
  /-- Where the peer is gone and there is nothing to read, the connection is closed unread. -/
  hungUp : ∀ k c, s.Addressed e k c → e.gone = true →
    answer.1 = some .hungUp ∧ s.ClosedOnce k c answer.2.1 ∧ answer.2.2 = []
  /-- Otherwise the connection is read as its script has it, and stays active as long as it is.
  After that it is left as it is, or it is closed. -/
  served : ∀ k c, s.Addressed e k c → e.gone = false → ∃ rs ended q,
    Pass.Scripted s.table worker clock (s.firstPass c) rs ended q ∧
      (s.drainConnection worker clock k c).1 = ended ∧ q.desk.connection.state = .active ∧
        answer.1 = reasonAfter e ended ∧ answer.2.2 = q.events ∧
          if ended = .pending ∧ e.error = false then answer.2.1 = s.afterPass k q
          else (s.afterPass k q).ClosedOnce k q.desk.connection answer.2.1
  /-- A connection is closed if and only if there is a reason for it. -/
  closes_iff : answer.1 ≠ none ↔ ∃ k c, s.Addressed e k c ∧
    (e.gone = true ∨ (s.drainConnection worker clock k c).1 ≠ .pending ∨ e.error = true)
  /-- The connection is closed if the answer says so, and active otherwise; all others are as they
  were. -/
  connections : ∀ k c, s.Addressed e k c →
    (∃ c', answer.2.1.connection? k = some c' ∧ c'.toTicket = c.toTicket ∧
      c'.state = if answer.1 = none then .active else .closed) ∧
      ∀ j, j ≠ k → answer.2.1.connection? j = s.connection? j

namespace Serves

variable {answer : Option CloseReason × Server × List DispatchEvent}

theorem hungUp (h : s.Serves worker clock e answer) (haddressed : s.Addressed e k c)
    (hgone : e.gone = true) :
    answer.1 = some .hungUp ∧ s.ClosedOnce k c answer.2.1 ∧ answer.2.2 = [] := by
  cases h with
  | ignored nobody => exact absurd haddressed (nobody k c)
  | gone addressed _ closed =>
      obtain ⟨rfl, rfl⟩ := addressed.unique haddressed
      exact ⟨rfl, closed, rfl⟩
  | kept _ there | closed _ there => cases there.symm.trans hgone

theorem served (h : s.Serves worker clock e answer) (haddressed : s.Addressed e k c)
    (hthere : e.gone = false) : ∃ rs ended q,
      Pass.Scripted s.table worker clock (s.firstPass c) rs ended q ∧
        (s.drainConnection worker clock k c).1 = ended ∧ q.desk.connection.state = .active ∧
          answer.1 = reasonAfter e ended ∧ answer.2.2 = q.events ∧
            if ended = .pending ∧ e.error = false then answer.2.1 = s.afterPass k q
            else (s.afterPass k q).ClosedOnce k q.desk.connection answer.2.1 := by
  cases h with
  | ignored nobody => exact absurd haddressed (nobody k c)
  | gone _ gone _ => cases gone.symm.trans hthere
  | kept addressed _ script drain active reason =>
      obtain ⟨rfl, rfl⟩ := addressed.unique haddressed
      refine ⟨_, _, _, script, drain, active, reason.symm, rfl, ?_⟩
      rw [if_pos (reasonAfter_eq_none_iff.mp reason)]
  | closed addressed _ script drain active reason closed =>
      obtain ⟨rfl, rfl⟩ := addressed.unique haddressed
      refine ⟨_, _, _, script, drain, active, reason.symm, rfl, ?_⟩
      rw [if_neg fun hkept => Option.some_ne_none _
        (reason.symm.trans (reasonAfter_eq_none_iff.mpr hkept))]
      exact closed

theorem closes_iff (h : s.Serves worker clock e answer) :
    answer.1 ≠ none ↔ ∃ k c, s.Addressed e k c ∧
      (e.gone = true ∨ (s.drainConnection worker clock k c).1 ≠ .pending ∨ e.error = true) := by
  cases h with
  | ignored nobody =>
      exact ⟨fun hclosed => absurd rfl hclosed, fun ⟨k, c, haddressed, _⟩ =>
        absurd haddressed (nobody k c)⟩
  | gone addressed gone _ =>
      exact ⟨fun _ => ⟨_, _, addressed, .inl gone⟩, fun _ => Option.some_ne_none _⟩
  | kept addressed there _ drain _ reason =>
      obtain ⟨hpending, herror⟩ := reasonAfter_eq_none_iff.mp reason
      refine ⟨fun hclosed => absurd rfl hclosed, fun ⟨k, c, haddressed, hmust⟩ => ?_⟩
      obtain ⟨rfl, rfl⟩ := addressed.unique haddressed
      rcases hmust with hgone | hended | herror'
      · cases there.symm.trans hgone
      · exact absurd (drain.trans hpending) hended
      · cases herror.symm.trans herror'
  | @closed k c _ ended _ _ _ addressed _ _ drain _ reason _ =>
      refine ⟨fun _ => ⟨k, c, addressed, .inr ?_⟩, fun _ => Option.some_ne_none _⟩
      rw [drain]
      by_contra hkept
      rw [not_or, not_not, Bool.not_eq_true] at hkept
      cases reason.symm.trans (reasonAfter_eq_none_iff.mpr hkept)

theorem connections (h : s.Serves worker clock e answer) (haddressed : s.Addressed e k c) :
    (∃ c', answer.2.1.connection? k = some c' ∧ c'.toTicket = c.toTicket ∧
      c'.state = if answer.1 = none then .active else .closed) ∧
      ∀ j, j ≠ k → answer.2.1.connection? j = s.connection? j := by
  cases h with
  | ignored nobody => exact absurd haddressed (nobody k c)
  | gone addressed _ closed =>
      obtain ⟨rfl, rfl⟩ := addressed.unique haddressed
      obtain ⟨c', hc', hticket, hstate, -⟩ := closed.connection
      exact ⟨⟨c', hc', hticket, hstate⟩, closed.others⟩
  | @kept _ _ _ _ q addressed _ script _ active _ =>
      obtain ⟨rfl, rfl⟩ := addressed.unique haddressed
      have hafter := connection?_afterPass (q := q) addressed.connection
      exact ⟨⟨_, (hafter _).trans (if_pos rfl), script.reads.drains.keeps.ticket, active⟩,
        fun j hj => (hafter j).trans (if_neg hj.symm)⟩
  | @closed _ _ _ _ q _ _ addressed _ script _ _ _ closed =>
      obtain ⟨rfl, rfl⟩ := addressed.unique haddressed
      obtain ⟨c', hc', hticket, hstate, -⟩ := closed.connection
      have hafter := connection?_afterPass (q := q) addressed.connection
      exact ⟨⟨c', hc', hticket.trans script.reads.drains.keeps.ticket, hstate⟩,
        fun j hj => (closed.others j hj).trans ((hafter j).trans (if_neg hj.symm))⟩

end Serves

/-- Whatever the state of the server, an event that is for an active connection closes it if and
only if the peer is gone with nothing to read, or the pass ends otherwise than for want of bytes, or
the event reports an error; and what is read before that is what the socket has to give. -/
theorem service_closes (hpassive : s.table.Passive) (worker : Nat) (clock : Nat → Readings)
    (e : Event) : s.Serviced worker clock e (s.service worker clock e) where
  ignored := service_of_unaddressed
  hungUp _ _ := (serves hpassive worker clock e).hungUp
  served _ _ := (serves hpassive worker clock e).served
  closes_iff := (serves hpassive worker clock e).closes_iff
  connections _ _ := (serves hpassive worker clock e).connections

/-- A connection whose peer sends a part of a record and then three orders, and takes the first
acknowledgment whole and only a part of the second: the third order is never read. -/
theorem service_closes_behind_partial_write :
    let table : HandlerTable := { HandlerTable.default with onClose := some Hook.idle }
    let config : Config := { Config.default with workers := 1, poolSize := 1 }
    let clock : Nat → Readings := fun i => ⟨1, 2, UInt64.ofNat i + 3, 4⟩
    let order : Record := { Record.zero with header := { Header.zero with
      typeCode := 1, messageId := 7, timestamp := 1, payloadLength := 56 } }
    let stream : Stream := { Stream.fresh with
      incoming := [.data (List.replicate 100 9), .interrupted, .data order.toBytes,
        .data order.toBytes, .data order.toBytes]
      acceptance := [.takes 128, .takes 60] }
    let pool : Pool := ⟨#[⟨false, Record.zero⟩], 0⟩
    let s₀ := bound config table (.ofIp (.v4 .localhost) 8888) ⟨pool, pool⟩
    let s := (s₀.accept ⟨5, .v4 .localhost 9000, 0, stream, none, none⟩).2
    let answer := s.service 0 clock ⟨0, 1⟩
    s.table.Passive ∧ answer.1 = some .writeError ∧
      (answer.2.1.connection? 0).map (·.stream.incoming) = some [.data order.toBytes] ∧
        s.Serviced 0 clock ⟨0, 1⟩ answer := by
  intro table config clock order stream pool s₀ s answer
  have htable : s.table = table := table_run s₀ _
  have hpassive : s.table.Passive := by
    rw [htable]
    exact ⟨HandlerTable.keepsState_of_default rfl, nofun, fun _ hhook _ => by cases hhook; rfl⟩
  have hreason : answer.1 = some .writeError := by decide +kernel
  have hunread : (answer.2.1.connection? 0).map (·.stream.incoming) =
      some [.data order.toBytes] := by
    decide +kernel
  exact ⟨hpassive, hreason, hunread, service_closes hpassive 0 clock ⟨0, 1⟩⟩

end Server

end MessageServer
