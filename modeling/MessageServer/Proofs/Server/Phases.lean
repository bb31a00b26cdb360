import MessageServer.Proofs.Server.Teardown

/-!
# The life of a server

A server that was bound is idle; the first start makes it run, and the first stop, or a start that
cannot spawn all its workers, is its end.  `Phased` reads the phase of a server off the starts and
the stops of its past, and how each start was answered.

* `Lived.act` is the step, `Run.lived` the run.
* `life_governed` is the main statement: what `is running` means, and how the next start and the
  next stop will be answered.
* `begun_before_stop`: a connection that a hook has put on its way out is not closed by the stop.
-/

namespace MessageServer

namespace Signal

variable {past : List Signal} {signal : Signal}

/-- There was a start that succeeded, and no stop after it. -/
def Started (past : List Signal) : Prop :=
  ∃ before after, past = before ++ start (.ok ()) :: after ∧ stop ∉ after

/-- There was a stop, or a start that could not spawn a worker. -/
def Ended (past : List Signal) : Prop :=
  stop ∈ past ∨ ∃ e, start (.error (.spawn e)) ∈ past

theorem not_started_nil : ¬ Started [] := by
  rintro ⟨before, after, hsplit, -⟩
  cases before <;> cases hsplit

theorem not_ended_nil : ¬ Ended [] := by
  rintro (hstop | ⟨e, hfailed⟩)
  · cases hstop
  · cases hfailed

theorem started_concat :
    Started (past ++ [signal]) ↔ signal = start (.ok ()) ∨ signal ≠ stop ∧ Started past := by
  constructor
  · rintro ⟨before, after, hsplit, hnone⟩
    rcases List.eq_nil_or_concat after with rfl | ⟨after, last, rfl⟩
    · exact .inl (List.append_singleton_inj.mp hsplit).2
    · rw [List.concat_eq_append, ← List.cons_append, ← List.append_assoc] at hsplit
      obtain ⟨rfl, rfl⟩ := List.append_singleton_inj.mp hsplit
      rw [List.concat_eq_append, List.mem_append, not_or, List.mem_singleton] at hnone
      exact .inr ⟨Ne.symm hnone.2, before, after, rfl, hnone.1⟩
  · rintro (rfl | ⟨hne, before, after, rfl, hnone⟩)
    · exact ⟨past, [], rfl, List.not_mem_nil⟩
    · refine ⟨before, after ++ [signal], by rw [List.append_assoc, List.cons_append], ?_⟩
      rw [List.mem_append, not_or, List.mem_singleton]
      exact ⟨hnone, Ne.symm hne⟩

theorem ended_concat :
    Ended (past ++ [signal]) ↔
      Ended past ∨ signal = stop ∨ ∃ e, signal = start (.error (.spawn e)) := by
  simp only [Ended, List.mem_append, List.mem_singleton, exists_or, eq_comm (a := signal)]
  tauto

end Signal

namespace Server

variable {s u s₀ : Server} {past : List Signal} {ids : List ConnectionId} {log : Log} {a : Act}
  {spawnError? : Nat → Option SystemError}

/-! ## Phases -/

/-- The phase that a server is in, and the past that brings it there. -/
inductive Phased (past : List Signal) (s : Server) : Prop where
  | idle (running : s.running = false) (stopped : s.stopped = false) (nothing : past = [])
  | serving (running : s.running = true) (stopped : s.stopped = false)
      (started : Signal.Started past) (notEnded : ¬ Signal.Ended past)
  | finished (running : s.running = false) (stopped : s.stopped = true)
      (notStarted : ¬ Signal.Started past) (ended : Signal.Ended past)

namespace Phased

theorem running_iff (h : s.Phased past) : s.running = true ↔ Signal.Started past := by
  cases h with
  | idle running _ nothing =>
      rw [running, nothing]
      exact iff_of_false nofun Signal.not_started_nil
  | serving running _ started _ => exact iff_of_true running started
  | finished running _ notStarted _ =>
      rw [running]
      exact iff_of_false nofun notStarted

theorem stopped_iff (h : s.Phased past) : s.stopped = true ↔ Signal.Ended past := by
  cases h with
  | idle _ stopped nothing =>
      rw [stopped, nothing]
      exact iff_of_false nofun Signal.not_ended_nil
  | serving _ stopped _ notEnded =>
      rw [stopped]
      exact iff_of_false nofun notEnded
  | finished _ stopped _ ended => exact iff_of_true stopped ended

theorem idle_iff (h : s.Phased past) : s.stopped = false ∧ s.running = false ↔ past = [] := by
  cases h with
  | idle running stopped nothing => exact iff_of_true ⟨stopped, running⟩ nothing
  | serving running _ started _ =>
      refine iff_of_false (fun hboth => ?_) fun hnothing => ?_
      · rw [running] at hboth
        cases hboth.2
      · exact Signal.not_started_nil (hnothing ▸ started)
  | finished _ stopped _ ended =>
      refine iff_of_false (fun hboth => ?_) fun hnothing => ?_
      · rw [stopped] at hboth
        cases hboth.1
      · exact Signal.not_ended_nil (hnothing ▸ ended)

/-- A server that is running or stopped has a past. -/
theorem ne_nil (h : s.Phased past) (hbusy : s.stopped = true ∨ s.running = true) : past ≠ [] := by
  rw [Ne, ← h.idle_iff]
  rintro ⟨hstopped, hrunning⟩
  rcases hbusy with heq | heq
  · cases hstopped.symm.trans heq
  · cases hrunning.symm.trans heq

theorem not_started (h : s.Phased past) (hstopped : s.stopped = true) :
    ¬ Signal.Started past := by
  cases h with
  | idle _ stopped _ | serving _ stopped _ _ => cases stopped.symm.trans hstopped
  | finished _ _ notStarted _ => exact notStarted

theorem congr (h : s.Phased past) (hrunning : u.running = s.running)
    (hstopped : u.stopped = s.stopped) : u.Phased past := by
  cases h with
  | idle running stopped nothing =>
      exact .idle (hrunning.trans running) (hstopped.trans stopped) nothing
  | serving running stopped started notEnded =>
      exact .serving (hrunning.trans running) (hstopped.trans stopped) started notEnded
  | finished running stopped notStarted ended =>
      exact .finished (hrunning.trans running) (hstopped.trans stopped) notStarted ended

/-- An answer that changes neither is no news. -/
theorem refused (h : s.Phased past) (hbusy : past ≠ []) {e : ServerError}
    (he : ∀ source, e ≠ .spawn source) : s.Phased (past ++ [.start (.error e)]) := by
  have hstarted : Signal.Started (past ++ [.start (.error e)]) ↔ Signal.Started past := by
    simp [Signal.started_concat]
  have hended : Signal.Ended (past ++ [.start (.error e)]) ↔ Signal.Ended past := by
    simp [Signal.ended_concat, he]
  cases h with
  | idle _ _ nothing => exact absurd nothing hbusy
  | serving running stopped started notEnded =>
      exact .serving running stopped (hstarted.mpr started) (mt hended.mp notEnded)
  | finished running stopped notStarted ended =>
      exact .finished running stopped (mt hstarted.mp notStarted) (hended.mpr ended)

/-- The end, however it came. -/
theorem ending (hdown : s.TornDown u) {signal : Signal}
    (hsignal : signal = .stop ∨ past = [] ∧ ∃ e, signal = .start (.error (.spawn e))) :
    u.Phased (past ++ [signal]) := by
  refine .finished hdown.running hdown.stopped ?_ ?_
  · rw [Signal.started_concat]
    rcases hsignal with rfl | ⟨rfl, e, rfl⟩
    · simp
    · simp [Signal.not_started_nil]
  · rw [Signal.ended_concat]
    exact .inr (hsignal.imp_right And.right)

/-- A stop behind the end. -/
theorem stop (h : s.Phased past) (hstopped : s.stopped = true) : s.Phased (past ++ [.stop]) := by
  have hended := h.stopped_iff.mp hstopped
  cases h with
  | idle _ stopped _ | serving _ stopped _ _ =>
      rw [hstopped] at stopped
      cases stopped
  | finished running stopped _ _ =>
      refine .finished running stopped ?_ (Signal.ended_concat.mpr (.inl hended))
      simp [Signal.started_concat]

end Phased

/-! ## Runs -/

/-- What holds of a server at the end of a run. -/
structure Lived (s₀ : Server) (log : Log) (s : Server) : Prop where
  table : s.table = s₀.table
  recorded : s.Recorded
  phased : s.Phased log.signals
  tended : s.table.Passive → s.Tended

/-- A stop that finds workers, or spawns some before, leaves the same behind. -/
theorem TornDown.beside {running : Bool} {workers : Nat} {latencies : Latencies}
    (h : TornDown { s with running, workers, latencies } u) : s.TornDown u := by
  obtain ⟨cs, hserials, hmem, hcloses⟩ := h.closings
  exact ⟨h.running, h.stopped, h.listening, h.workers, h.emptied, h.total, h.peak,
    ⟨cs, hserials, hmem, hcloses.connection, hcloses.counters, hcloses.calls⟩⟩

theorem ClosedDown.beside {running : Bool} {workers : Nat} {latencies : Latencies}
    (h : ClosedDown { s with running, workers, latencies } u) : s.ClosedDown u := by
  obtain ⟨cs, hserials, hmem, hcloses, hclosed⟩ := h.allClosed
  exact ⟨h.toTornDown.beside, h.active, cs, hserials, hmem,
    ⟨hcloses.connection, hcloses.counters, hcloses.calls⟩, hclosed⟩

namespace Lived

variable {running : Bool} {workers : Nat} {latencies : Latencies}

/-- The first stop, which may be made by a start that has spawned some workers. -/
theorem tornDown (h : s₀.Lived log s) (hrunning : s.stopped = false)
    (hids : ids.Perm (s.registry.byDescriptor.map (·.2))) :
    let spawned : Server := { s with running, workers, latencies }
    s.TornDown (spawned.run (spawned.stopStepsIn ids)) := by
  intro spawned
  have hrecorded : spawned.Recorded := ⟨h.recorded.sound, h.recorded.issued, h.recorded.known⟩
  exact (tornDown_stop hrecorded hrunning hids).beside

theorem closedDown (h : s₀.Lived log s) (hpassive : s.table.Passive) (hrunning : s.stopped = false)
    (hids : ids.Perm (s.registry.byDescriptor.map (·.2))) :
    let spawned : Server := { s with running, workers, latencies }
    s.ClosedDown (spawned.run (spawned.stopStepsIn ids)) := by
  intro spawned
  obtain ⟨calls, hbooks⟩ := h.tended hpassive
  have hrecorded : spawned.Recorded := ⟨h.recorded.sound, h.recorded.issued, h.recorded.known⟩
  have htended : spawned.Tended :=
    ⟨calls, hbooks.congr rfl rfl (fun _ c hc => ⟨c, hc, rfl, rfl⟩) rfl rfl rfl⟩
  exact (closedDown_stop hrecorded htended hpassive hrunning hids).beside

theorem phased_stop (h : s₀.Lived log s) (hids : ids.Perm (s.registry.byDescriptor.map (·.2))) :
    (s.run (s.stopStepsIn ids)).Phased (log.signals ++ [.stop]) := by
  cases hstopped : s.stopped with
  | false => exact .ending (h.tornDown hstopped hids) (.inl rfl)
  | true =>
      rw [stopStepsIn, if_pos hstopped, run_nil]
      exact h.phased.stop hstopped

theorem phased_start (h : s₀.Lived log s) (spawnError? : Nat → Option SystemError)
    (hids : ids.Perm (s.registry.byDescriptor.map (·.2))) :
    (s.startIn spawnError? ids).2.Phased
      (log.signals ++ [.start (s.startIn spawnError? ids).1]) := by
  obtain ⟨workers, hframe⟩ := s.spawn_frame spawnError?
  rcases s.startIn_cases spawnError? ids with
    ⟨hstopped, heq⟩ | ⟨hstopped, hrunning, heq⟩ |
    ⟨hstopped, hrunning, e, spawned, hspawn, heq⟩ | ⟨hstopped, hrunning, spawned, hspawn, heq⟩
  · rw [heq]
    exact h.phased.refused (h.phased.ne_nil (.inl hstopped)) nofun
  · rw [heq]
    exact h.phased.refused (h.phased.ne_nil (.inr hrunning)) nofun
  all_goals
    have hnothing := h.phased.idle_iff.mp ⟨hstopped, hrunning⟩
    rw [hspawn] at hframe
    obtain rfl := hframe
    rw [heq]
  · exact .ending (h.tornDown hstopped hids) (.inr ⟨hnothing, e, rfl⟩)
  · refine .serving rfl hstopped (Signal.started_concat.mpr (.inl rfl)) ?_
    rw [Signal.ended_concat, hnothing]
    simp [Signal.not_ended_nil]

/-- An act that neither starts nor stops the server. -/
theorem phased_other (h : s₀.Lived log s) (hsignal : s.signal? a = none) :
    (s.perform a).Phased log.signals := by
  have hsteps : ∀ step ∈ s.stepsOf a, step.isFinal = false := by
    cases a with
    | start spawnError? ids | stop ids => cases hsignal
    | accept i => exact s.isFinal_admissionSteps i
    | close k => exact fun step hstep => (s.concerns_closingSteps k step hstep).isFinal_eq
    | peer k stream | drain worker clock k | housekeep elapsed => exact List.forall_mem_nil _
  have hphase := (s.phase_outset hsignal).trans (phase_run (s.outset a) hsteps)
  rw [perform_eq]
  exact h.phased.congr hphase.running hphase.stopped

theorem act (h : s₀.Lived log s) (hpermitted : s.Permits a) :
    s₀.Lived (log ++ [(s, a)]) (s.perform a) where
  table := (table_perform s a).trans h.table
  recorded := h.recorded.perform a
  phased := by
    rw [Log.signals_concat]
    cases a with
    | start spawnError? ids => exact h.phased_start spawnError? hpermitted
    | stop ids => exact h.phased_stop hpermitted
    | accept i | close k | peer k stream | drain worker clock k | housekeep elapsed =>
        have hsame : log.signals ++ [] = log.signals := List.append_nil _
        exact hsame.symm ▸ h.phased_other rfl
  tended hpassive := by
    rw [table_perform] at hpassive
    exact (h.tended hpassive).perform hpassive hpermitted

end Lived

theorem Run.lived (hrecorded : s₀.Recorded) (hphased : s₀.Phased []) (htended : s₀.Tended)
    (hrun : s₀.Run log s) : s₀.Lived log s := by
  induction hrun with
  | bound => exact ⟨rfl, hrecorded, hphased, fun _ => htended⟩
  | act _ a permitted ih => exact ih.act permitted

/-! ## The next start and the next stop -/

/-- How a start is answered, and what becomes of the server.  `Down` is what a stop leaves
behind. -/
structure StartAnswered (Down : Server → Server → Prop) (s : Server) (past : List Signal)
    (spawnError? : Nat → Option SystemError) (answer : Except ServerError Unit × Server) :
    Prop where
  ok_iff : answer.1 = .ok () ↔
    past = [] ∧ ∀ i < s.config.workers.toNat, spawnError? i = none
  started : answer.1 = .ok () → answer.2 = { s with
    running := true, workers := s.config.workers.toNat
    latencies := Latencies.new s.config.workers.toNat }
  running : Signal.Started past → answer = (.error .alreadyRunning, s)
  ended : Signal.Ended past → answer = (.error .shutdown, s)
  failed : past = [] → ∀ i < s.config.workers.toNat, (∀ j < i, spawnError? j = none) →
    ∀ e, spawnError? i = some e → answer.1 = .error (.spawn e) ∧ Down s answer.2

/-- What the past of a server says about it. -/
structure Governed (Down : Server → Server → Prop) (s : Server) (past : List Signal) : Prop where
  phases : past = [] ∨ Signal.Started past ∨ Signal.Ended past
  running : s.running = true ↔ Signal.Started past
  start : ∀ spawnError? ids, ids.Perm (s.registry.byDescriptor.map (·.2)) →
    StartAnswered Down s past spawnError? (s.startIn spawnError? ids)
  firstStop : ¬ Signal.Ended past → ∀ ids, ids.Perm (s.registry.byDescriptor.map (·.2)) →
    Down s (s.run (s.stopStepsIn ids))
  laterStop : Signal.Ended past → ∀ ids, s.run (s.stopStepsIn ids) = s

/-- What the first stop of a server leaves behind, also where a start makes it that has spawned some
workers. -/
def Leaves (Down : Server → Server → Prop) (s : Server) : Prop :=
  ∀ spawned : Server, (∃ running workers latencies,
      spawned = { s with running, workers, latencies }) →
    s.stopped = false → ∀ ids, ids.Perm (s.registry.byDescriptor.map (·.2)) →
      Down s (spawned.run (spawned.stopStepsIn ids))

variable {Down : Server → Server → Prop}

theorem Lived.startAnswered (h : s₀.Lived log s) (hdown : s.Leaves Down)
    (spawnError? : Nat → Option SystemError)
    (hids : ids.Perm (s.registry.byDescriptor.map (·.2))) :
    StartAnswered Down s log.signals spawnError? (s.startIn spawnError? ids) := by
  have hphased := h.phased
  obtain ⟨workers, hframe⟩ := s.spawn_frame spawnError?
  rcases s.startIn_cases spawnError? ids with
    ⟨hstopped, heq⟩ | ⟨hstopped, hrunning, heq⟩ |
    ⟨hstopped, hrunning, e, spawned, hspawn, heq⟩ | ⟨hstopped, hrunning, spawned, hspawn, heq⟩
  · have hbusy := hphased.ne_nil (.inl hstopped)
    rw [heq]
    exact ⟨iff_of_false nofun fun hboth => hbusy hboth.1, nofun,
      fun hstarted => absurd hstarted (hphased.not_started hstopped), fun _ => rfl,
      fun hnothing => absurd hnothing hbusy⟩
  · have hbusy := hphased.ne_nil (.inr hrunning)
    have hnotEnded : ¬ Signal.Ended log.signals := by
      rw [← hphased.stopped_iff, hstopped]
      nofun
    rw [heq]
    exact ⟨iff_of_false nofun fun hboth => hbusy hboth.1, nofun, fun _ => rfl,
      fun hended => absurd hended hnotEnded, fun hnothing => absurd hnothing hbusy⟩
  all_goals
    have hnothing := hphased.idle_iff.mp ⟨hstopped, hrunning⟩
    have hnotStarted : ¬ Signal.Started log.signals := hnothing ▸ Signal.not_started_nil
    have hnotEnded : ¬ Signal.Ended log.signals := hnothing ▸ Signal.not_ended_nil
    have hanswer := congrArg Prod.fst hspawn
  · rw [hspawn] at hframe
    obtain rfl := hframe
    rw [heq]
    refine ⟨iff_of_false nofun fun hboth => ?_, nofun, fun hstarted => absurd hstarted hnotStarted,
      fun hended => absurd hended hnotEnded, fun _ i hi hbefore e' he' => ?_⟩
    · cases hanswer.symm.trans (s.spawn_eq_none_iff.mpr hboth.2)
    · obtain rfl := Option.some.inj (hanswer.symm.trans (s.spawn_of_first hi hbefore he'))
      exact ⟨rfl, hdown _ ⟨_, _, _, rfl⟩ hstopped ids hids⟩
  · have hall := s.spawn_eq_none_iff.mp hanswer
    rw [s.spawn_of_ok hall] at hspawn
    rw [heq, ← (Prod.mk.inj hspawn).2]
    refine ⟨iff_of_true rfl ⟨hnothing, hall⟩, fun _ => rfl,
      fun hstarted => absurd hstarted hnotStarted, fun hended => absurd hended hnotEnded,
      fun _ i hi _ e he => ?_⟩
    rw [hall i hi] at he
    cases he

theorem Lived.governed (h : s₀.Lived log s) (hdown : s.Leaves Down) :
    Governed Down s log.signals := by
  have hphased := h.phased
  refine
    { phases := ?_
      running := hphased.running_iff
      start := fun spawnError? ids hids => h.startAnswered hdown spawnError? hids
      firstStop := fun hnotEnded ids hids => ?_
      laterStop := fun hended ids => ?_ }
  · cases hphased with
    | idle _ _ nothing => exact .inl nothing
    | serving _ _ started _ => exact .inr (.inl started)
    | finished _ _ _ ended => exact .inr (.inr ended)
  · refine hdown s ⟨_, _, _, rfl⟩ (eq_false_of_ne_true fun hstopped => ?_) ids hids
    exact hnotEnded (hphased.stopped_iff.mp hstopped)
  · rw [stopStepsIn, if_pos (hphased.stopped_iff.mpr hended), run_nil]

/-- Whatever a server went through since it was bound, its past decides whether it is running, how
the next start is answered, and whether the next stop is the first one.  The first stop takes
everything down, and a later one, which may be the one that lets go of the server, changes nothing.
Where handlers and hooks leave the state of a connection alone, every connection that was open is
closed by the first stop, and none is counted as active any more. -/
theorem life_governed {host : Host} {config : Config} {table : HandlerTable}
    (hbind : bind host config table = .ok s₀) (hrun : s₀.Run log s) :
    Governed TornDown s log.signals ∧ (table.Passive → Governed ClosedDown s log.signals) := by
  obtain ⟨hsettled, -⟩ := settled_of_bind hbind
  obtain ⟨-, address, pools, rfl⟩ := eq_of_bind hbind
  have hlived := hrun.lived ⟨hsettled.sound, hsettled.issued, hsettled.known⟩ (.idle rfl rfl rfl)
    ⟨[], hsettled.congr rfl rfl (fun _ c hc => ⟨c, hc, rfl, rfl⟩) rfl rfl rfl⟩
  constructor
  · refine hlived.governed ?_
    rintro _ ⟨running, workers, latencies, rfl⟩ hrunning ids hids
    exact hlived.tornDown hrunning hids
  · intro hpassive
    refine hlived.governed ?_
    rintro _ ⟨running, workers, latencies, rfl⟩ hrunning ids hids
    exact hlived.closedDown (hlived.table ▸ hpassive) hrunning hids

/-- The start and the stop that go through the descriptor map as it stands. -/
theorem Governed.in_map_order (h : Governed Down s past) :
    (∀ spawnError?, StartAnswered Down s past spawnError? (s.start spawnError?)) ∧
      (¬ Signal.Ended past → Down s s.stop) ∧ (Signal.Ended past → s.stop = s) :=
  ⟨fun spawnError? => h.start spawnError? _ (.refl _),
    fun hnotEnded => h.firstStop hnotEnded _ (.refl _), fun hended => h.laterStop hended _⟩

/-- A server with a connection whose second worker cannot be spawned, and that is started again. -/
theorem life_governed_after_failed_start :
    let hook : Option Hook := some Hook.idle
    let table : HandlerTable := { HandlerTable.default with onClose := hook }
    let config : Config := { Config.default with workers := 2, poolSize := 2 }
    let past : List Signal := [.start (.error (.spawn .fileExists)), .start (.error .shutdown)]
    ∃ s₀ log s, bind Host.loopback config table = .ok s₀ ∧ table.Passive ∧ s₀.Run log s ∧
      log.signals = past ∧ s.connections.size = 1 ∧ s.calls.length = 1 ∧
        Governed ClosedDown s log.signals := by
  intro hook table config past
  let socket : Incoming := ⟨5, .v4 .localhost 9000, 0, .fresh, none, none⟩
  let pool : Pool := ⟨#[⟨false, Record.zero⟩, ⟨false, Record.zero⟩], 0⟩
  let s₀ := bound config table (.ofIp (.v4 .localhost) 8888) ⟨pool, pool⟩
  let spawnError? : Nat → Option SystemError := fun i => if i = 1 then some .fileExists else none
  have hbind : bind Host.loopback config table = .ok s₀ := rfl
  have hpassive : table.Passive :=
    ⟨HandlerTable.keepsState_of_default rfl, nofun, fun _ hhook _ => by cases hhook; rfl⟩
  let s₁ := s₀.perform (.accept socket)
  let ids₁ := s₁.registry.byDescriptor.map (·.2)
  let s₂ := s₁.perform (.start spawnError? ids₁)
  let ids₂ := s₂.registry.byDescriptor.map (·.2)
  let s₃ := s₂.perform (.start spawnError? ids₂)
  let log : Log := [(s₀, .accept socket), (s₁, .start spawnError? ids₁),
    (s₂, .start spawnError? ids₂)]
  have hfirst : (s₁.startIn spawnError? ids₁).1 = .error (.spawn .fileExists) := by decide +kernel
  have hsecond : (s₂.startIn spawnError? ids₂).1 = .error .shutdown := by decide +kernel
  have hadmitted : s₀.Run _ s₁ := Run.bound.act (.accept socket) nofun
  have hfailed : s₀.Run _ s₂ := hadmitted.act (.start spawnError? ids₁) (.refl _)
  have hrun : s₀.Run log s₃ := hfailed.act (.start spawnError? ids₂) (.refl _)
  have hsignals : log.signals = past := by
    simp only [log, Log.signals, List.filterMap_cons, List.filterMap_nil, signal?, hfirst, hsecond,
      past]
  have hclosed : s₃.connections.size = 1 ∧ s₃.calls.length = 1 := by decide +kernel
  exact ⟨s₀, log, s₃, hbind, hpassive, hrun, hsignals, hclosed.1, hclosed.2,
    (life_governed hbind hrun).2 hpassive⟩

/-- A hook begins to close the connection that it is called on.  The stop finds the closing begun,
and leaves the connection counted as active, with no call of the hook for closings. -/
theorem begun_before_stop :
    let hook : Hook := fun c => { standing := { c.standing with state := .closing } }
    let table : HandlerTable :=
      { HandlerTable.default with onConnect := some hook, onClose := some Hook.idle }
    let config : Config := { Config.default with workers := 1, poolSize := 1 }
    let socket : Incoming := ⟨5, .v4 .localhost 9000, 0, .fresh, none, none⟩
    ∃ s₀ s, bind Host.loopback config table = .ok s₀ ∧ s₀.Run [(s₀, .accept socket)] s ∧
      s.stopped = false ∧ s.stop.stopped = true ∧ s.stop.registry.live = 0 ∧
        s.stop.counters.active = 1 ∧ s.stop.calls.countP HookCall.isClosing = 0 ∧
          (s.stop.connection? 0).map (·.state) = some .closing := by
  intro hook table config socket
  let pool : Pool := ⟨#[⟨false, Record.zero⟩], 0⟩
  let s₀ := bound config table (.ofIp (.v4 .localhost) 8888) ⟨pool, pool⟩
  have hrun : s₀.Run [(s₀, .accept socket)] (s₀.perform (.accept socket)) :=
    Run.bound.act (.accept socket) nofun
  refine ⟨s₀, _, rfl, hrun, ?_⟩
  decide +kernel

end Server

end MessageServer
