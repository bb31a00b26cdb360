import MessageServer.Proofs.Server.Changes

/-!
# Runs of a server

Sockets are accepted, connections are closed, workers read and keep house, peers write and leave,
and the server is started and stopped, in any order.  Each of these is an `Act`, and `Server.Run` is
every run of a server, one act after the other.

A run has a log: the acts, each with the server that it met.  What there is to say about a run is
read off its log: which admissions there were, what starts and stops were answered, what happened to
the registry, and which states the server went through, those inside an act included.

* `perform_eq`: an act is a list of steps behind its `outset`.
* `outset_cases`: up to there the server has done nothing that the registry, the readiness queue or
  the books of the server are about, except that one connection may have been worked on.
* `Run.service`: whatever serves an event of the readiness queue is a run.
-/

namespace MessageServer

/-- Something that happens to a server. -/
inductive Act where
  | accept (i : Incoming)
  | close (k : Nat)
  /-- A start that fails, or a stop, gets the connections from the registry in the order of
  `ids`. -/
  | start (spawnError? : Nat → Option SystemError) (ids : List ConnectionId)
  | stop (ids : List ConnectionId)
  /-- The peer of a connection writes, reads or leaves. -/
  | peer (k : Nat) (stream : Stream)
  | drain (worker : Nat) (clock : Nat → Readings) (k : Nat)
  | housekeep (elapsed : Nat)

/-- Something that was asked of a server, and the answer. -/
inductive Signal where
  | start (result : Except ServerError Unit)
  | stop

namespace Server

variable {s s₀ u : Server} {a : Act}

/-! ## Acts -/

/-- A worker reads from the connection with a serial number, if there is one. -/
def drained (s : Server) (worker : Nat) (clock : Nat → Readings) (k : Nat) : Server :=
  match s.connection? k with
  | none => s
  | some c => (s.drainConnection worker clock k c).2.1

theorem drained_of_none {k : Nat} (hc : s.connection? k = none) (worker : Nat)
    (clock : Nat → Readings) : s.drained worker clock k = s := by
  simp only [drained, hc]

theorem drained_of_some {k : Nat} {c : Connection} (hc : s.connection? k = some c) (worker : Nat)
    (clock : Nat → Readings) :
    s.drained worker clock k = (s.drainConnection worker clock k c).2.1 := by
  simp only [drained, hc]

/-- The server behind an act. -/
def perform (s : Server) : Act → Server
  | .accept i => (s.accept i).2
  | .close k => (s.closeConnection k).2
  | .start spawnError? ids => (s.startIn spawnError? ids).2
  | .stop ids => s.run (s.stopStepsIn ids)
  | .peer k stream => s.updateConnection k fun c => { c with stream }
  | .drain worker clock k => s.drained worker clock k
  | .housekeep elapsed => s.housekeep elapsed

/-- A socket that is accepted has a descriptor that no live connection has.  The registry gives all
its connections to the stop. -/
def Permits (s : Server) : Act → Prop
  | .accept i => ∀ t ∈ s.registry.tickets, t.descriptor ≠ i.descriptor
  | .start _ ids | .stop ids => ids.Perm (s.registry.byDescriptor.map (·.2))
  | .close _ | .peer _ _ | .drain _ _ _ | .housekeep _ => True

/-- Only a server that listens accepts a socket, which is in use; and a peer leaves the server's end
of a socket alone. -/
def Ordinary (s : Server) : Act → Prop
  | .accept i => s.listening = true ∧ i.stream.shutDown = false ∧ i.stream.dropped = false
  | .peer k stream => ∀ c, s.connection? k = some c →
      stream.shutDown = c.stream.shutDown ∧ stream.dropped = c.stream.dropped
  | .close _ | .start _ _ | .stop _ | .drain _ _ _ | .housekeep _ => True

/-- The server where the steps of an act begin. -/
def outset (s : Server) : Act → Server
  | .accept _ | .close _ | .stop _ => s
  | .start spawnError? _ => if s.stopped || s.running then s else (s.spawn spawnError?).2
  | .peer k stream => s.updateConnection k fun c => { c with stream }
  | .drain worker clock k => s.drained worker clock k
  | .housekeep elapsed => s.housekeep elapsed

/-- The steps of an act. -/
def stepsOf (s : Server) : Act → List Step
  | .accept i => s.admissionSteps i
  | .close k => s.closingSteps k
  | .start spawnError? ids =>
    if s.stopped || s.running || (s.spawn spawnError?).1.isNone then []
    else (s.outset (.start spawnError? ids)).stopStepsIn ids
  | .stop ids => s.stopStepsIn ids
  | .peer _ _ | .drain _ _ _ | .housekeep _ => []

theorem perform_eq (s : Server) (a : Act) : s.perform a = (s.outset a).run (s.stepsOf a) := by
  cases a with
  | accept i | close k | stop ids | peer k stream | drain worker clock k | housekeep elapsed => rfl
  | start spawnError? ids =>
      unfold perform stepsOf outset
      rcases s.startIn_cases spawnError? ids with
        ⟨hstopped, heq⟩ | ⟨hstopped, hrunning, heq⟩ |
        ⟨hstopped, hrunning, e, spawned, hspawn, heq⟩ | ⟨hstopped, hrunning, spawned, hspawn, heq⟩
      · simp [heq, hstopped]
      · simp [heq, hstopped, hrunning]
      · simp [heq, hstopped, hrunning, hspawn]
      · simp [heq, hstopped, hrunning, hspawn]

/-- A start takes no steps, or those of the stop. -/
theorem stepsOf_start (s : Server) (spawnError? : Nat → Option SystemError)
    (ids : List ConnectionId) :
    s.stepsOf (.start spawnError? ids) = [] ∨
      s.stepsOf (.start spawnError? ids) =
        (s.outset (.start spawnError? ids)).stopStepsIn ids := by
  rw [stepsOf]
  split_ifs
  · exact .inl rfl
  · exact .inr rfl

/-- Up to where the steps of an act begin, workers were spawned, or samples were collected, or one
connection was worked on. -/
theorem outset_cases (s : Server) (a : Act) :
    (∃ running workers latencies reports,
        s.outset a = { s with running, workers, latencies, reports }) ∨
      ∃ k c c', s.Worked k c c' (s.outset a) ∧
        (s.table.KeepsState → c'.state = c.state) ∧
        (s.table.Harmless → s.Ordinary a → c.state.Spared c'.state ∧
          c'.stream.shutDown = c.stream.shutDown ∧ c'.stream.dropped = c.stream.dropped) := by
  have hnothing : ∃ running workers latencies reports,
      s = { s with running, workers, latencies, reports } := ⟨_, _, _, _, rfl⟩
  cases a with
  | accept i | close k | stop ids => exact .inl hnothing
  | start spawnError? ids =>
      obtain ⟨workers, hspawn⟩ := s.spawn_frame spawnError?
      unfold outset
      split_ifs
      · exact .inl hnothing
      · exact .inl ⟨_, _, _, _, hspawn⟩
  | peer k stream =>
      cases hc : s.connection? k with
      | none =>
          have hsame : s.outset (.peer k stream) = s := updateConnection_of_none hc _
          exact .inl (hsame.symm ▸ hnothing)
      | some c =>
          exact .inr ⟨k, c, _, worked_peer hc stream, fun _ => rfl,
            fun _ hordinary => ⟨.refl _, hordinary c hc⟩⟩
  | drain worker clock k =>
      change (∃ running workers latencies reports, s.drained worker clock k =
        { s with running, workers, latencies, reports }) ∨ ∃ k' c c', s.Worked k' c c'
          (s.drained worker clock k) ∧ _
      cases hc : s.connection? k with
      | none =>
          rw [drained_of_none hc]
          exact .inl hnothing
      | some c =>
          obtain ⟨trace, ended, q, hpass, hwork⟩ := exists_worked hc worker clock
          rw [drained_of_some hc]
          refine .inr ⟨k, c, _, hwork, hpass.state_eq, fun hharmless _ => ⟨?_, ?_, ?_⟩⟩
          · exact hpass.state_related .refl .trans
              fun type h hget q => (hharmless.handlers type h hget q).state
          · exact hpass.shutDown_eq fun type h hget q => (hharmless.handlers type h hget q).stream
          · obtain ⟨incoming, outgoing, acceptance, shutDown, hstream⟩ := hpass.keeps.stream
            rw [hstream]
            rfl
  | housekeep elapsed =>
      obtain ⟨latencies, reports, hkept⟩ := s.housekeep_frame elapsed
      exact .inl ⟨_, _, _, _, hkept⟩

theorem outset_frame (s : Server) (a : Act) :
    (s.outset a).table = s.table ∧ (s.outset a).registry = s.registry := by
  rcases s.outset_cases a with ⟨running, workers, latencies, reports, heq⟩ | ⟨k, c, c', hwork, -⟩
  · rw [heq]
    exact ⟨rfl, rfl⟩
  · obtain ⟨pools, counters, latencies, heq⟩ := hwork.frame
    rw [heq]
    exact ⟨rfl, rfl⟩

/-- Nobody exchanges the handlers. -/
theorem table_perform (s : Server) (a : Act) : (s.perform a).table = s.table := by
  rw [perform_eq, table_run, (s.outset_frame a).1]

/-- What happens to the registry in an act. -/
theorem moves_perform (hsound : s.registry.Sound) (a : Act) :
    s.registry.Moves ((s.outset a).history (s.stepsOf a)) (s.perform a).registry := by
  have hregistry := (s.outset_frame a).2
  rw [perform_eq, ← hregistry]
  rw [← hregistry] at hsound
  exact moves_run hsound (s.stepsOf a)

/-! ## Logs -/

/-- The acts of a run, each with the server that it met. -/
abbrev Log := List (Server × Act)

/-- What became of the socket, if one was accepted. -/
def admission? (s : Server) : Act → Option Admission
  | .accept i => some (s.accept i).1
  | .close _ | .start _ _ | .stop _ | .peer _ _ | .drain _ _ _ | .housekeep _ => none

/-- What was asked of the server, if it was started or stopped. -/
def signal? (s : Server) : Act → Option Signal
  | .start spawnError? ids => some (.start (s.startIn spawnError? ids).1)
  | .stop _ => some .stop
  | .accept _ | .close _ | .peer _ _ | .drain _ _ _ | .housekeep _ => none

/-- Where nothing was asked of the server, it is in the same phase up to where the steps begin. -/
theorem phase_outset (s : Server) (hsignal : s.signal? a = none) : s.SamePhase (s.outset a) := by
  cases a with
  | accept i | close k | peer k stream => exact ⟨rfl, rfl, rfl, rfl⟩
  | start spawnError? ids | stop ids => cases hsignal
  | drain worker clock k =>
      change s.SamePhase (s.drained worker clock k)
      unfold drained
      split
      · exact .refl s
      · exact ⟨rfl, rfl, rfl, rfl⟩
  | housekeep elapsed =>
      obtain ⟨latencies, reports, hkept⟩ := s.housekeep_frame elapsed
      change s.SamePhase (s.housekeep elapsed)
      rw [hkept]
      exact ⟨rfl, rfl, rfl, rfl⟩

namespace Log

variable {log : Log}

/-- The admissions. -/
def admissions (log : Log) : List Admission :=
  log.filterMap fun entry => entry.1.admission? entry.2

/-- The starts and the stops. -/
def signals (log : Log) : List Signal :=
  log.filterMap fun entry => entry.1.signal? entry.2

/-- What happened to the registry. -/
def history (log : Log) : List RegistryEvent :=
  log.flatMap fun entry => (entry.1.outset entry.2).history (entry.1.stepsOf entry.2)

/-- The states of the server, from the first one on. -/
def states (s₀ : Server) (log : Log) : List Server :=
  s₀ :: log.flatMap fun entry => (entry.1.outset entry.2).trace (entry.1.stepsOf entry.2)

theorem admissions_concat (log : Log) (s : Server) (a : Act) :
    admissions (log ++ [(s, a)]) = log.admissions ++ (s.admission? a).toList := by
  rw [admissions, List.filterMap_append]
  cases h : s.admission? a <;> simp [admissions, h]

theorem signals_concat (log : Log) (s : Server) (a : Act) :
    signals (log ++ [(s, a)]) = log.signals ++ (s.signal? a).toList := by
  rw [signals, List.filterMap_append]
  cases h : s.signal? a <;> simp [signals, h]

theorem history_concat (log : Log) (s : Server) (a : Act) :
    history (log ++ [(s, a)]) = log.history ++ (s.outset a).history (s.stepsOf a) := by
  simp [history]

theorem states_concat (s₀ : Server) (log : Log) (s : Server) (a : Act) :
    states s₀ (log ++ [(s, a)]) = states s₀ log ++ (s.outset a).trace (s.stepsOf a) := by
  simp [states]

end Log

/-! ## Runs -/

/-- The runs of a server. -/
inductive Run (s₀ : Server) : Log → Server → Prop where
  | bound : Run s₀ [] s₀
  | act {log : Log} {s : Server} (earlier : Run s₀ log s) (a : Act) (permitted : s.Permits a) :
      Run s₀ (log ++ [(s, a)]) (s.perform a)

namespace Run

variable {log : Log}

theorem table_eq (h : s₀.Run log s) : s.table = s₀.table := by
  induction h with
  | bound => rfl
  | act _ a _ ih => exact (table_perform _ a).trans ih

/-- A start, in the order in which the registry happens to be. -/
theorem start (h : s₀.Run log s) (spawnError? : Nat → Option SystemError) :
    s₀.Run (log ++ [(s, .start spawnError? (s.registry.byDescriptor.map (·.2)))])
      (s.start spawnError?).2 :=
  h.act _ (.refl _)

/-- A stop, in the order in which the registry happens to be. -/
theorem stop (h : s₀.Run log s) :
    s₀.Run (log ++ [(s, .stop (s.registry.byDescriptor.map (·.2)))]) s.stop :=
  h.act _ (.refl _)

/-- Whatever an event says, serving it is reading from a connection and closing it, or less. -/
theorem service (h : s₀.Run log s) (worker : Nat) (clock : Nat → Readings) (e : Event) :
    ∃ later : Log, s₀.Run (log ++ later) (s.service worker clock e).2.1 ∧
      ∀ entry ∈ later, entry.1.Ordinary entry.2 := by
  rcases s.service_cases worker clock e with heq | ⟨k, heq⟩ | ⟨k, c, u, hc, hdrain, hrest⟩
  · exact ⟨[], by rwa [heq, List.append_nil], List.forall_mem_nil _⟩
  · refine ⟨[(s, .close k)], ?_, List.forall_mem_singleton.mpr trivial⟩
    rw [heq]
    exact h.act (.close k) trivial
  · have hperform : s.perform (.drain worker clock k) = u :=
      (drained_of_some hc worker clock).trans hdrain
    have hread : s₀.Run (log ++ [(s, .drain worker clock k)]) u := by
      rw [← hperform]
      exact h.act (.drain worker clock k) trivial
    rcases hrest with heq | heq
    · refine ⟨[(s, .drain worker clock k)], ?_, List.forall_mem_singleton.mpr trivial⟩
      rw [heq]
      exact hread
    · refine ⟨[(s, .drain worker clock k)] ++ [(u, .close k)], ?_, ?_⟩
      · rw [heq, ← List.append_assoc]
        exact hread.act (.close k) trivial
      · exact List.forall_mem_cons.mpr ⟨trivial, List.forall_mem_singleton.mpr trivial⟩

end Run

end Server

end MessageServer
