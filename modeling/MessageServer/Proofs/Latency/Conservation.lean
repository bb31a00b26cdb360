import MessageServer.Proofs.Drain.Intake
import MessageServer.Proofs.Latency.Balance
import MessageServer.Proofs.Server.Steps

/-!
# Where the samples go

The samples of a server go from the dispatches of the workers through the rings into the histogram,
which forgets them when it is reported.  `Server.Sampling` is every server that passes, collections
and reports lead to, in whatever order, with the log of what happened to the samples.

* `Pass.preserves_samplings`: an invariant of single dispatches is one of whole passes, with the
  events of the pass.
* `samples_conserved`: every state of a run is balanced, and the loops of a collection end.
* `Sampling.start`, `Sampling.service`, `Sampling.housekeep`, `Sampling.run`: what a server does
  from its start on is such a run.
-/

namespace MessageServer

/-! ## The samples of a pass -/

namespace Pass

variable {table : HandlerTable} {worker : Nat} {clock : Nat → Readings} {p : Pass}

/-- What a dispatch does to the samples. -/
def sampling (table : HandlerTable) (worker : Nat) (clock : Nat → Readings) (p : Pass) :
    SampleEvent :=
  match sample? (p.dispatch table worker clock).1 with
  | some latency =>
    .pushed worker latency (p.latencies.held worker) (p.latencies.keeps worker latency)
  | none => .dropped worker

/-- What a pass does to the samples, dispatch by dispatch. -/
def samplings (table : HandlerTable) (worker : Nat) (clock : Nat → Readings) (p : Pass) :
    List SampleEvent :=
  match _h : Arrival.read Record.size p.desk.connection.stream.atEnd p.incoming with
  | (.error e, rest) =>
    if _hk : e.kind = .interrupted then samplings table worker clock (p.withIncoming rest) else []
  | (.ok got, rest) =>
    if _hg : got = [] then []
    else if got.length < Record.size then
      samplings table worker clock (p.filled rest got).countShortRead
    else
      match ((p.filled rest got).dispatch table worker clock).1 with
      | .writeFailed _ _ => [(p.filled rest got).sampling table worker clock]
      | _ =>
        (p.filled rest got).sampling table worker clock ::
          samplings table worker clock ((p.filled rest got).dispatch table worker clock).2
termination_by Arrival.weight p.incoming
decreasing_by
  · exact Arrival.weight_read_of_interrupted _h _hk
  · exact Arrival.weight_read_of_ok _h _hg
  · rw [incoming_dispatch]
    exact Arrival.weight_read_of_ok _h _hg

/-- What reads and dispatches preserve as the log goes on, a pass preserves. -/
theorem preserves_samplings {P : List SampleEvent → Pass → Prop}
    (hread : ∀ log p rest, P log p → P log (p.withIncoming rest))
    (hfill : ∀ log p bytes, P log p → P log (p.fill bytes))
    (hshort : ∀ log p, P log p → P log p.countShortRead)
    (hdispatch : ∀ log p, P log p →
      P (log ++ [p.sampling table worker clock]) (p.dispatch table worker clock).2)
    {log : List SampleEvent} (hp : P log p) :
    P (log ++ p.samplings table worker clock) (drain table worker clock p).2 := by
  have hfilled : ∀ log p rest got, P log p → P log (p.filled rest got) :=
    fun log p rest got hp => hfill log _ got (hread log p rest hp)
  fun_induction samplings table worker clock p generalizing log with
  | case1 p e rest read interrupted ih =>
      rw [drain_of_error read, if_pos interrupted]
      exact ih (hread _ _ _ hp)
  | case2 p e rest read notInterrupted =>
      rw [drain_of_error read, if_neg notInterrupted, List.append_nil]
      exact hread _ _ _ hp
  | case3 p rest read =>
      rw [drain_of_ok read, if_pos rfl, List.append_nil]
      exact hfilled _ _ _ _ hp
  | case4 p got rest read some short ih =>
      rw [drain_of_ok read, if_neg some, if_pos short]
      exact ih (hshort _ _ (hfilled _ _ _ _ hp))
  | case5 p got rest read some full latency error failed =>
      rw [drain_of_ok read, if_neg some, if_neg full, failed]
      exact hdispatch _ _ (hfilled _ _ _ _ hp)
  | case6 p got rest read some full answered ih =>
      rw [drain_of_ok read, if_neg some, if_neg full, List.append_cons]
      split
      · next latency error failed => exact absurd failed (answered latency error)
      · exact ih (hdispatch _ _ (hfilled _ _ _ _ hp))

end Pass

/-! ## The books of a pass -/

/-- A dispatch counts what gives a sample as handled, and what gives none as dropped. -/
theorem Desk.Dispatches.sample_cases {d d' : Desk} {table : HandlerTable} {readings : Readings}
    {r : Record} {outcome : Outcome} {events : List DispatchEvent}
    (h : d.Dispatches table readings r outcome d' events) :
    (∃ latency, Pass.sample? outcome = some latency ∧
        d'.counters.messages = d.counters.messages + 1 ∧
        d'.counters.dropped = d.counters.dropped) ∨
      Pass.sample? outcome = none ∧ d'.counters.messages = d.counters.messages ∧
        d'.counters.dropped = d.counters.dropped + 1 := by
  have hhandled : ∀ h, (d.decided readings h r).counters.messages + 1 = d.counters.messages + 1 ∧
      (d.decided readings h r).counters.dropped = d.counters.dropped := by
    intro h
    obtain ⟨hmessages, hdropped, -⟩ := d.counters_decided readings h r
    exact ⟨congrArg (· + 1) hmessages, hdropped⟩
  cases h with
  | dropped _ => exact .inr ⟨rfl, rfl, rfl⟩
  | @silent type h _ _ _ => exact .inl ⟨_, rfl, hhandled h⟩
  | @exhausted type ack h pools _ _ _ _ => exact .inl ⟨_, rfl, hhandled h⟩
  | @sent type ack h slot pools connection _ _ _ _ _ => exact .inl ⟨_, rfl, hhandled h⟩
  | @failed type ack h slot pools connection error _ _ _ _ _ => exact .inl ⟨_, rfl, hhandled h⟩

namespace Pass

variable {workers worker : Nat} {log : List SampleEvent} {table : HandlerTable}
  {clock : Nat → Readings} {p : Pass}

theorem balance_dispatch (h : Balance workers log p.latencies p.desk.counters)
    (known : worker < workers) :
    Balance workers (log ++ [p.sampling table worker clock])
      (p.dispatch table worker clock).2.latencies
      (p.dispatch table worker clock).2.desk.counters := by
  have hlatencies : (p.dispatch table worker clock).2.latencies =
      match sample? (p.dispatch table worker clock).1 with
      | some latency => p.latencies.push worker latency
      | none => p.latencies := rfl
  rw [sampling, hlatencies]
  rcases (p.dispatches table worker clock).sample_cases with
    ⟨latency, hsample, hmessages, hdropped⟩ | ⟨hsample, hmessages, hdropped⟩
  · rw [hsample]
    exact h.push known hmessages hdropped
  · rw [hsample]
    exact h.drop hmessages hdropped

theorem balance_drain (h : Balance workers log p.latencies p.desk.counters)
    (known : worker < workers) :
    Balance workers (log ++ p.samplings table worker clock)
      (drain table worker clock p).2.latencies (drain table worker clock p).2.desk.counters :=
  preserves_samplings (P := fun log p => Balance workers log p.latencies p.desk.counters)
    (fun _ _ _ h => h) (fun _ _ _ h => h) (fun _ _ h => h.congr rfl rfl)
    (fun _ _ h => balance_dispatch h known) h

end Pass

/-! ## The books of a run -/

namespace Server

/-- The servers that workers, collections and reports lead to, in whatever order they come, with
what happens to the samples.  Whatever else happens leaves the rings, the histogram and the two
counts alone. -/
inductive Sampling (workers : Nat) : List SampleEvent → Server → Prop where
  | started {s : Server} (latencies : s.latencies = Latencies.new workers)
      (messages : s.counters.messages = 0) (dropped : s.counters.dropped = 0) :
      Sampling workers [] s
  | drained {log : List SampleEvent} {s : Server} {worker : Nat} (before : Sampling workers log s)
      (known : worker < workers) (clock : Nat → Readings) (k : Nat) (c : Connection) :
      Sampling workers (log ++ (s.firstPass c).samplings s.table worker clock)
        (s.drainConnection worker clock k c).2.1
  | collected {log : List SampleEvent} {s : Server} {scratch : List UInt64}
      {moved : List (List UInt64)} {rings : List (Ring UInt64 latencyRingSize)} {g : Gathering}
      (before : Sampling workers log s) (buffer : scratch.length = scratchSize)
      (loops : Collects s.latencies.rings ⟨scratch, s.latencies.histogram⟩ moved rings g) :
      Sampling workers (log ++ [.collected moved]) { s with latencies := ⟨rings, g.histogram⟩ }
  | reported {log : List SampleEvent} {s : Server} (before : Sampling workers log s) :
      Sampling workers (log ++ [.forgotten s.latencies.histogram.count])
        { s with latencies := s.latencies.takeSummary.2 }
  | elsewhere {log : List SampleEvent} {s t : Server} (before : Sampling workers log s)
      (latencies : t.latencies = s.latencies) (messages : t.counters.messages = s.counters.messages)
      (dropped : t.counters.dropped = s.counters.dropped) : Sampling workers log t

/-- No step but the last of the workers touches the samples. -/
theorem latencies_apply (s : Server) {step : Step} (hstep : step ≠ .joinWorkers) :
    (s.apply step).latencies = s.latencies := by
  have hnotify : ∀ phase hook k, (s.notify phase hook k).latencies = s.latencies := by
    intro phase hook k
    unfold notify
    split <;> rfl
  cases step with
  | notifyOpened k => exact hnotify _ _ _
  | notifyClosed k => exact hnotify _ _ _
  | watch k =>
      simp only [apply]
      split
      · rfl
      · split <;> rfl
  | register _ | unregister _ | closeListener =>
      simp only [apply]
      split <;> rfl
  | joinWorkers => exact absurd rfl hstep
  | activate _ | countOpened | unwatch _ | beginClose _ | shutdown _ | markClosed _ | countClosed
  | drop _ | halt | drain _ => rfl

/-- No step counts a record. -/
theorem messages_apply (s : Server) (step : Step) :
    (s.apply step).counters.messages = s.counters.messages ∧
      (s.apply step).counters.dropped = s.counters.dropped := by
  rcases (s.apply_cases step).2 with heq | heq | heq
  · rw [heq]
    exact ⟨rfl, rfl⟩
  · rw [heq]
    exact ⟨rfl, rfl⟩
  · rw [heq, Counters.connectionClosed]
    split <;> exact ⟨rfl, rfl⟩

namespace Sampling

variable {workers : Nat} {log : List SampleEvent} {s : Server}

theorem balance (h : s.Sampling workers log) : Balance workers log s.latencies s.counters := by
  induction h with
  | started latencies messages dropped =>
      rw [latencies]
      exact .new messages dropped
  | @drained log s worker _ known clock k c ih =>
      have hfirst : Balance workers log (s.firstPass c).latencies
          (s.firstPass c).desk.counters := ih
      exact Pass.balance_drain hfirst known
  | collected _ _ loops ih => exact ih.collect loops
  | reported _ ih => exact ih.forget
  | elsewhere _ latencies messages dropped ih =>
      rw [latencies]
      exact ih.congr messages dropped

/-! ## The program -/

/-- A run begins where a server is started that has counted no record. -/
theorem start {spawnError? : Nat → Option SystemError} {t : Server}
    (hstart : s.start spawnError? = (.ok (), t)) (hmessages : s.counters.messages = 0)
    (hdropped : s.counters.dropped = 0) : t.Sampling s.config.workers.toNat [] := by
  obtain rfl := eq_of_start hstart
  exact .started rfl hmessages hdropped

/-- The first worker collects through its buffer. -/
theorem collect (h : s.Sampling workers log) :
    ∃ moved, Sampling workers (log ++ [.collected moved])
      { s with latencies := s.latencies.collect } := by
  have hscratch : (List.replicate scratchSize (0 : UInt64)).length = scratchSize :=
    List.length_replicate
  have hempties := Latencies.empties h.balance.sound hscratch
  obtain ⟨moved, rings, g, hloops⟩ := hempties.ends
  rw [(hempties.outcome hloops).2.2]
  exact ⟨moved, h.collected hscratch hloops⟩

theorem report (h : s.Sampling workers log) :
    ∃ events, Sampling workers (log ++ events) s.report := by
  obtain ⟨moved, hcollected⟩ := h.collect
  unfold Server.report
  dsimp only
  split
  · exact ⟨_, hcollected⟩
  · have hreported := hcollected.reported
    rw [List.append_assoc] at hreported
    exact ⟨_, hreported.elsewhere rfl rfl rfl⟩

theorem apply (h : s.Sampling workers log) (step : Step) :
    ∃ events, Sampling workers (log ++ events) (s.apply step) := by
  by_cases hjoin : step = .joinWorkers
  · subst hjoin
    simp only [Server.apply]
    split
    · obtain ⟨events, hreported⟩ := h.report
      exact ⟨events, hreported.elsewhere rfl rfl rfl⟩
    · exact ⟨[], (List.append_nil log).symm ▸ h.elsewhere rfl rfl rfl⟩
  · have hlatencies := s.latencies_apply hjoin
    obtain ⟨hmessages, hdropped⟩ := s.messages_apply step
    exact ⟨[], (List.append_nil log).symm ▸ h.elsewhere hlatencies hmessages hdropped⟩

theorem run (h : s.Sampling workers log) (steps : List Step) :
    ∃ events, Sampling workers (log ++ events) (s.run steps) := by
  induction steps generalizing s log with
  | nil => exact ⟨[], by rwa [List.append_nil]⟩
  | cons step steps ih =>
      obtain ⟨events, hstep⟩ := h.apply step
      obtain ⟨later, hrest⟩ := ih hstep
      exact ⟨events ++ later, by rwa [← List.append_assoc]⟩

/-- A worker serves an event. -/
theorem service (h : s.Sampling workers log) {worker : Nat} (known : worker < workers)
    (clock : Nat → Readings) (e : Event) :
    ∃ events, Sampling workers (log ++ events) (s.service worker clock e).2.1 := by
  have hnothing : ∃ events, Sampling workers (log ++ events) s := ⟨[], by rwa [List.append_nil]⟩
  rcases s.service_cases worker clock e with heq | ⟨k, heq⟩ | ⟨k, c, u, -, rfl, heq | heq⟩
  · exact heq.symm ▸ hnothing
  · exact heq.symm ▸ h.run _
  · exact heq.symm ▸ ⟨_, h.drained known clock k c⟩
  · obtain ⟨events, hclosed⟩ := (h.drained known clock k c).run
      ((s.drainConnection worker clock k c).2.1.closingSteps k)
    rw [List.append_assoc] at hclosed
    exact heq.symm ▸ ⟨_, hclosed⟩

/-- What the first worker does after each round. -/
theorem housekeep (h : s.Sampling workers log) (elapsed : Nat) :
    ∃ events, Sampling workers (log ++ events) (s.housekeep elapsed) := by
  obtain ⟨moved, hcollected⟩ := h.collect
  unfold Server.housekeep
  split
  · split_ifs
    · exact h.report
    · exact ⟨_, hcollected⟩
  · exact ⟨_, hcollected⟩

end Sampling

end Server

/-! ## The main statement -/

/-- In every state between the passes of the workers, the collections and the reports, the books
balance, and as long as the count of records has not wrapped, it is the number of samples kept and
lost.  A collection ends, whatever the rings hold, and leaves them empty. -/
theorem samples_conserved :
    (∀ {workers : Nat} {log : List SampleEvent} {s : Server}, s.Sampling workers log →
      Balance workers log s.latencies s.counters ∧
        (log.countP SampleEvent.isPushed < UInt64.size → s.counters.messages.toNat =
          log.countP SampleEvent.isKept + log.countP SampleEvent.isLost)) ∧
    ∀ (l : Latencies) (scratch : List UInt64), (∀ ring ∈ l.rings, ring.Sound) →
      scratch.length = scratchSize → l.Empties scratch := by
  refine ⟨fun {workers log s} h => ⟨h.balance, fun hfew => ?_⟩,
    fun l scratch hrings hscratch => Latencies.empties hrings hscratch⟩
  rw [h.balance.messages, UInt64.toNat_ofNat_of_lt' hfew, countP_isPushed]

/-- One of two workers handles a record, drops one, and handles another one. -/
theorem samples_of_three_records :
    let pool : Pool := ⟨#[⟨false, Record.zero⟩], 0⟩
    let clock : Nat → Readings := fun k => ⟨1, 2, 3, 7 + k.toUInt64⟩
    let heartbeat := Record.envelope 8 .heartbeat 1
    let bytes := heartbeat.toBytes ++ Record.zero.toBytes ++ heartbeat.toBytes
    let c : Connection :=
      ⟨⟨⟨0, 0⟩, 0, 5⟩, .v4 .localhost 9000, ⟨.active, 0, true⟩, Stream.fresh.deliver bytes⟩
    let bound := Server.bound .default .default (.ofIp (.v4 .localhost) 8888) ⟨pool, pool⟩
    let s₀ : Server := { bound with latencies := .new 2 }
    let s := (s₀.drainConnection 1 clock 0 c).2.1
    let log : List SampleEvent := [.pushed 1 7 0 true, .dropped 1, .pushed 1 9 1 true]
    s.Sampling 2 log ∧ s.counters.messages.toNat = 2 ∧
      (∀ ring, s.latencies.rings[1]? = some ring → ring.toList = [7, 9]) ∧
        s.latencies.Empties (List.replicate scratchSize 5) := by
  intro pool clock heartbeat bytes c bound s₀ s log
  have hlog : (s₀.firstPass c).samplings s₀.table 1 clock = log := by decide +kernel
  have hstart : s₀.Sampling 2 [] := .started rfl rfl rfl
  have hrun : s.Sampling 2 log := hlog ▸ hstart.drained (by decide) clock 0 c
  obtain ⟨hbalance, hmessages⟩ := samples_conserved.1 hrun
  refine ⟨hrun, hmessages (by decide), fun ring hring => ?_, ?_⟩
  · exact (hbalance.order 1 ring hring).symm
  · exact samples_conserved.2 s.latencies _ hbalance.sound List.length_replicate

end MessageServer
