import Mathlib.Logic.Function.Iterate
import MessageServer.Proofs.Registry.Draining
import MessageServer.Proofs.Server.Accounts
import MessageServer.Proofs.Server.Points

/-!
# What a stop leaves behind

The first stop of a server takes everything down that the server has: the listening, the workers,
and every connection that the registry has.  `TornDown` says so of the servers before and after it,
and `ClosedDown` says what more there is to it where handlers and hooks leave the state of a
connection alone.

A connection that the registry has is remembered, whatever handlers and hooks do: `Recorded`.  The
books of a server, `Settled`, say more.  They count the calls of the hooks and are kept by servers
that have hooks.  A hook that does nothing can be installed where there is none,
`HandlerTable.attended`, without making a difference to anything but the calls; `Tended` is what
this gives for servers without hooks.

* `Closes.cons`: one more connection is given up.
* `closes_abandonAll`: a stop gives up one connection after the other, and closes each of them once
  that is open.
* `tornDown_stop` and `closedDown_stop`: the first stop.
-/

namespace MessageServer

/-- The same handlers, and hooks that do nothing where there are none. -/
def HandlerTable.attended (t : HandlerTable) : HandlerTable :=
  { t with
    onConnect := some (t.onConnect.getD Hook.idle)
    onClose := some (t.onClose.getD Hook.idle) }

theorem HandlerTable.Passive.attended {t : HandlerTable} (h : t.Passive) : t.attended.Hooked := by
  have hkeeps : ∀ hook? : Option Hook,
      (∀ hook, hook? = some hook → ∀ c, (hook c).standing.state = c.state) →
        ∀ c, (hook?.getD Hook.idle c).standing.state = c.state := by
    intro hook? hpassive
    cases hook? with
    | none => exact fun _ => rfl
    | some hook => exact hpassive hook rfl
  exact ⟨⟨_, rfl, hkeeps _ h.opens⟩, ⟨_, rfl, hkeeps _ h.closes⟩⟩

/-- Calling a hook that does nothing makes no difference to a connection. -/
theorem Connection.told_getD (c : Connection) (hook? : Option Hook) :
    c.told (some (hook?.getD Hook.idle)) = c.told hook? := by
  cases hook? with
  | none => simp only [told, treated, Hook.idle, Option.getD_none, Bool.or_false]
  | some hook => rfl

/-- The connection when the stop has given it up. -/
def Connection.abandoned (table : HandlerTable) (c : Connection) : Connection :=
  if c.state.isOpen then c.shutdown.retired table else { c with stream := c.stream.drop }

theorem Connection.abandoned_ticket (table : HandlerTable) (c : Connection) :
    (c.abandoned table).toTicket = c.toTicket := by
  unfold abandoned
  split_ifs
  · exact c.shutdown.retired_ticket table
  · rfl

/-- The step takes a connection down that the registry has let go of. -/
def Step.retires : Step → Bool
  | beginClose _ | unwatch _ | shutdown _ | markClosed _ | notifyClosed _ | countClosed
  | drop _ => true
  | _ => false

namespace Server

variable {s u : Server} {k : Nat} {c : Connection} {cs : List Connection}
  {ids : List ConnectionId} {step : Step} {steps : List Step} {a : Act}

/-! ## Servers without hooks -/

/-- The server with hooks that do nothing where it has none, and with other calls made. -/
def attended (s : Server) (calls : List HookCall) : Server :=
  { s with table := s.table.attended, calls }

@[simp] theorem connection?_attended (s : Server) (calls : List HookCall) (k : Nat) :
    (s.attended calls).connection? k = s.connection? k :=
  rfl

theorem notify_attended (s : Server) (calls : List HookCall) (phase : HookPhase)
    (hook? : Option Hook) (k : Nat) :
    ∃ calls', (s.attended calls).notify phase (some (hook?.getD Hook.idle)) k =
      (s.notify phase hook? k).attended calls' := by
  cases hc : s.connection? k with
  | none =>
      refine ⟨calls, ?_⟩
      unfold notify
      simp only [connection?_attended, hc]
  | some c =>
      rw [notify_eq hc, notify_eq ((s.connection?_attended calls k).trans hc),
        Connection.told_getD]
      exact ⟨_, rfl⟩

/-- A step does the same where the hooks are attended to. -/
theorem apply_attended (s : Server) (calls : List HookCall) (step : Step) :
    ∃ calls', (s.attended calls).apply step = (s.apply step).attended calls' := by
  cases step with
  | notifyOpened k => exact s.notify_attended calls .opened s.table.onConnect k
  | notifyClosed k => exact s.notify_attended calls .closed s.table.onClose k
  | register o =>
      refine ⟨calls, ?_⟩
      rcases hregister : s.registry.register o with ⟨_ | c, registry⟩ <;>
        simp only [apply, attended, hregister]
  | watch k =>
      refine ⟨calls, ?_⟩
      cases hc : s.connection? k with
      | none => simp only [apply, connection?_attended, hc]
      | some c =>
          simp only [apply, connection?_attended, hc]
          cases hadd : s.watchlist.add ⟨c.descriptor, c.id.toToken, true⟩ <;>
            simp only [attended, hadd]
  | unregister k =>
      refine ⟨calls, ?_⟩
      cases hc : s.connection? k with
      | none => simp only [apply, connection?_attended, hc]
      | some c =>
          simp only [apply, connection?_attended, hc]
          rfl
  | closeListener =>
      refine ⟨calls, ?_⟩
      by_cases hlistening : s.listening = true <;> simp [apply, attended, hlistening]
  | joinWorkers =>
      refine ⟨calls, ?_⟩
      simp only [apply, attended, report]
      cases s.config.statsInterval <;> by_cases hworkers : 0 < s.workers <;> simp [hworkers]
  | activate _ | unwatch _ | beginClose _ | shutdown _ | markClosed _ | drop _ | countOpened
  | countClosed | halt | drain _ => exact ⟨calls, rfl⟩

theorem run_attended (s : Server) (calls : List HookCall) (steps : List Step) :
    ∃ calls', (s.attended calls).run steps = (s.run steps).attended calls' := by
  induction steps generalizing s calls with
  | nil => exact ⟨calls, rfl⟩
  | cons step steps ih =>
      obtain ⟨calls', hstep⟩ := s.apply_attended calls step
      rw [run_cons, run_cons, hstep]
      exact ih (s.apply step) calls'

theorem Worked.attended {c' : Connection} (h : s.Worked k c c' u) (calls : List HookCall) :
    (s.attended calls).Worked k c c' (u.attended calls) := by
  refine ⟨h.known, h.ticket, ?_, h.active, h.total, h.peak⟩
  obtain ⟨pools, counters, latencies, rfl⟩ := h.frame
  exact ⟨pools, counters, latencies, rfl⟩

/-! ## The books of any server -/

/-- The books are in order, except that the calls of hooks are not counted. -/
def Tended (s : Server) : Prop :=
  ∃ calls, (s.attended calls).Settled

namespace Tended

/-- Steps that keep the books of a server with hooks keep those of any server. -/
theorem run (h : ∀ calls, (s.attended calls).Settled → ((s.attended calls).run steps).Settled) :
    s.Tended → (s.run steps).Tended := by
  rintro ⟨calls, hbooks⟩
  obtain ⟨calls', hrun⟩ := s.run_attended calls steps
  exact ⟨calls', hrun ▸ h calls hbooks⟩

/-- Nothing is booked up to where the steps of an act begin. -/
theorem outset (h : s.Tended) (hkeeps : s.table.KeepsState) (a : Act) : (s.outset a).Tended := by
  obtain ⟨calls, hbooks⟩ := h
  rcases s.outset_cases a with
    ⟨running, workers, latencies, reports, heq⟩ | ⟨k, c, c', hwork, hstate, -⟩
  · rw [heq]
    exact ⟨calls, hbooks.congr rfl rfl (fun _ c hc => ⟨c, hc, rfl, rfl⟩) rfl rfl rfl⟩
  · exact ⟨calls, hbooks.worked (hwork.attended calls) (hstate hkeeps)⟩

theorem stop (h : s.Tended) (hpassive : s.table.Passive) (ids : List ConnectionId) :
    (s.run (s.stopStepsIn ids)).Tended :=
  run (fun _ hbooks => (hbooks.stop hpassive.attended ids).1) h

/-- An act keeps the books in order. -/
theorem perform (h : s.Tended) (hpassive : s.table.Passive) (hpermitted : s.Permits a) :
    (s.perform a).Tended := by
  have houtset := h.outset hpassive.handlers a
  rw [perform_eq]
  cases a with
  | accept i =>
      refine run (fun calls hbooks => ?_) h
      have hfresh : ∀ t, s.registry.Live t → t.descriptor ≠ i.descriptor :=
        fun t hlive => hpermitted t (hbooks.sound.mem_tickets_iff.mpr hlive)
      exact (hbooks.accept (i := i) hpassive.attended hfresh).1
  | close k => exact run (fun _ hbooks => (hbooks.close hpassive.attended k).1) h
  | stop ids => exact h.stop hpassive ids
  | start spawnError? ids =>
      rcases s.stepsOf_start spawnError? ids with hsteps | hsteps
      · rw [hsteps]
        exact houtset
      · rw [hsteps]
        exact houtset.stop ((s.outset_frame _).1 ▸ hpassive) ids
  | peer k stream | drain worker clock k | housekeep elapsed => exact houtset

/-- A connection is open as long as the registry leads to it. -/
theorem live_iff (h : s.Tended) (hc : s.connection? k = some c) :
    s.registry.Live c.toTicket ↔ c.state.isOpen = true := by
  obtain ⟨calls, hbooks⟩ := h
  rcases hbooks.standing k c hc with ⟨hactive, hlive⟩ | ⟨hclosed, hdead⟩
  · rw [hactive]
    exact iff_of_true hlive rfl
  · rw [hclosed]
    exact iff_of_false hdead nofun

end Tended

/-! ## The connections that the registry has -/

/-- Every connection that the registry has is remembered. -/
structure Recorded (s : Server) : Prop where
  sound : s.registry.Sound
  issued : s.registry.issued = s.connections.size
  known : ∀ t, s.registry.Live t → ∃ c, s.connection? t.serial = some c ∧ c.toTicket = t

namespace Recorded

/-- The connections became other ones with the same tickets, and the registry has no new ones. -/
theorem mono {f : Nat → Connection → Connection} (h : s.Recorded) (hsound : u.registry.Sound)
    (hissued : u.registry.issued = s.registry.issued)
    (hconnections : ∀ k, u.connection? k = (s.connection? k).map (f k))
    (hticket : ∀ k c, s.connection? k = some c → (f k c).toTicket = c.toTicket)
    (hlive : ∀ t, u.registry.Live t → s.registry.Live t) : u.Recorded where
  sound := hsound
  issued := hissued.trans (h.issued.trans (size_eq_of_map hconnections).symm)
  known t ht := by
    obtain ⟨c, hc, rfl⟩ := h.known t (hlive t ht)
    exact ⟨f c.serial c, by rw [hconnections, hc, Option.map_some], hticket _ c hc⟩

/-- A connection is registered, perhaps in the place of one with the same descriptor. -/
theorem register (h : s.Recorded) (o : Opening) : (s.apply (.register o)).Recorded := by
  have hsound := (moves_apply h.sound (.register o)).sound h.sound
  -- the registry `r` has lost the connection that is evicted, if there is one
  have henter : ∀ r : Registry, r.Sound → r.live < r.capacity → r.issued = s.registry.issued →
      (∀ t, r.Live t → s.registry.Live t) →
      s.registry.register o = (.ok (r.enter o).1, (r.enter o).2) →
      (s.apply (.register o)).Recorded := by
    intro r hr hroom hissued hlive hregistered
    have heq := apply_register hregistered
    have hserial : (r.enter o).1.serial = s.connections.size := by
      rw [Registry.enter_serial, hissued, h.issued]
    rw [heq] at hsound ⊢
    refine ⟨hsound, ?_, fun t ht => ?_⟩
    · rw [Registry.issued_enter, hissued, h.issued, Array.size_push]
    · rcases (hr.live_enter_iff hroom).mp ht with rfl | ht
      · refine ⟨(r.enter o).1, ?_, rfl⟩
        rw [hserial]
        exact Array.getElem?_push_size
      · obtain ⟨c, hc, rfl⟩ := h.known t (hlive t ht)
        exact ⟨c, connection?_push_of_lt hc, rfl⟩
  rcases h.sound.registration_cases o with
    ⟨-, -, hrefused⟩ | ⟨-, hroom, hregistered⟩ | ⟨t, ht, -, -, hregistered⟩
  · simp only [apply, hrefused]
    exact h
  · exact henter _ h.sound hroom rfl (fun _ hlive => hlive) hregistered
  · exact henter _ (h.sound.without ht) (h.sound.live_without_lt ht) rfl
      (fun _ hlive => ((Registry.live_without_iff ht).mp hlive).1) hregistered

theorem apply (h : s.Recorded) (step : Step) : (s.apply step).Recorded := by
  by_cases hregister : ∃ o, step = .register o
  · obtain ⟨o, rfl⟩ := hregister
    exact h.register o
  · have hstep : ∀ o, step ≠ .register o := fun o heq => hregister ⟨o, heq⟩
    refine h.mono ((moves_apply h.sound step).sound h.sound) ?_ (s.connection?_apply hstep)
      (fun k c _ => step.effect_ticket s.table k c) fun t ht => ?_
    · rw [s.registry_apply hstep, Registry.issued_releaseAll]
    · rw [s.registry_apply hstep, h.sound.live_releaseAll_iff] at ht
      exact ht.1

theorem run (h : s.Recorded) (steps : List Step) : (s.run steps).Recorded := by
  induction steps generalizing s with
  | nil => exact h
  | cons step steps ih => exact ih (h.apply step)

theorem perform (h : s.Recorded) (a : Act) : (s.perform a).Recorded := by
  rw [perform_eq]
  refine run ?_ _
  rcases s.outset_cases a with
    ⟨running, workers, latencies, reports, heq⟩ | ⟨k, c, c', hwork, -⟩
  · rw [heq]
    exact ⟨h.sound, h.issued, h.known⟩
  · have hfollows := Follows.worked hwork
    have hregistry := (s.outset_frame a).2
    refine h.mono (hregistry ▸ h.sound) hfollows.issued hfollows.connections hfollows.ticket ?_
    exact fun t ht => hregistry ▸ ht

end Recorded

/-! ## One connection after the other -/

/-- Between these two servers the connections `cs` were given up, one after the other, and nothing
happened to any other connection. -/
structure Closes (s : Server) (cs : List Connection) (u : Server) : Prop where
  connection : ∀ k, u.connection? k = (s.connection? k).map fun c =>
    if k ∈ cs.map (·.serial) then c.abandoned s.table else c
  /-- Those that were open are counted. -/
  counters : u.counters = Counters.connectionClosed^[cs.countP (·.state.isOpen)] s.counters
  /-- The hook is called once for each of those that were open, and on no other one. -/
  calls : u.calls = s.calls ++ (cs.filter (·.state.isOpen)).flatMap fun c =>
    HookCall.of .closed s.table.onClose c.shutdown.markClosed

/-- The stop gives one connection up. -/
theorem run_abandonSteps {t : Ticket} (hc : s.connection? t.serial = some c) :
    s.run (s.abandonSteps t) = { s.put t.serial (c.abandoned s.table) with
      watchlist := s.watchlist.delete c.descriptor
      counters := if c.state.isOpen then s.counters.connectionClosed else s.counters
      calls := s.calls ++ if c.state.isOpen then
        HookCall.of .closed s.table.onClose c.shutdown.markClosed else [] } := by
  unfold Connection.abandoned
  by_cases hopen : c.state.isOpen = true
  · simp only [hopen, if_true]
    exact abandoning_eq hc hopen
  · have hsteps : s.abandonSteps t = [.drop t.serial] := by
      simp only [abandonSteps, hc, if_neg hopen]
    rw [hsteps, if_neg hopen, if_neg hopen, if_neg hopen, List.append_nil]
    exact apply_drop hc

theorem Closes.cons {next : Server} (hc : s.connection? c.serial = some c)
    (hfirst : c.serial ∉ cs.map (·.serial))
    (hconnection : ∀ k, next.connection? k =
      if c.serial = k then some (c.abandoned s.table) else s.connection? k)
    (hcounters : next.counters =
      if c.state.isOpen then s.counters.connectionClosed else s.counters)
    (hcalls : next.calls = s.calls ++ if c.state.isOpen then
      HookCall.of .closed s.table.onClose c.shutdown.markClosed else [])
    (htable : next.table = s.table) (hrest : next.Closes cs u) : s.Closes (c :: cs) u where
  connection k := by
    rw [hrest.connection, hconnection, htable, List.map_cons]
    by_cases hk : c.serial = k
    · subst hk
      simp only [hfirst, hc, List.mem_cons, true_or, if_true, if_false, Option.map_some]
    · simp only [hk, Ne.symm hk, List.mem_cons, false_or, if_false]
  counters := by
    rw [hrest.counters, hcounters, List.countP_cons]
    by_cases hopen : c.state.isOpen = true
    · rw [if_pos hopen, if_pos hopen, Function.iterate_succ_apply]
    · rw [if_neg hopen, if_neg hopen, Nat.add_zero]
  calls := by
    rw [hrest.calls, hcalls, htable, List.append_assoc, List.filter_cons]
    by_cases hopen : c.state.isOpen = true
    · rw [if_pos hopen, if_pos hopen, List.flatMap_cons]
    · rw [if_neg hopen, if_neg hopen, List.nil_append]

/-- A connection that was closed stays the one that it was. -/
theorem Closes.closed (h : s.Closes cs u) (hpassive : s.table.Passive) (hmem : c ∈ cs)
    (hc : s.connection? c.serial = some c) (hopen : c.state.isOpen = true) :
    ∃ c', u.connection? c.serial = some c' ∧ c'.toTicket = c.toTicket ∧ c'.state = .closed := by
  refine ⟨c.abandoned s.table, ?_, c.abandoned_ticket s.table, ?_⟩
  · rw [h.connection, hc, Option.map_some, if_pos (List.mem_map_of_mem hmem)]
  · rw [Connection.abandoned, if_pos hopen]
    exact Connection.retired_state hpassive.closes

/-- The stop gives connections up one after the other. -/
theorem closes_abandonAll (hserials : (cs.map (·.serial)).Nodup)
    (hplace : ∀ c ∈ cs, s.connection? c.serial = some c) :
    s.Closes cs (s.run ((cs.map (·.toTicket)).flatMap s.abandonSteps)) := by
  induction cs generalizing s with
  | nil =>
      refine ⟨fun k => ?_, rfl, (List.append_nil _).symm⟩
      simp only [List.map_nil, List.flatMap_nil, run_nil, List.not_mem_nil, if_false,
        Option.map_id']
  | cons c cs ih =>
      obtain ⟨hfirst, hserials'⟩ := List.nodup_cons.mp hserials
      obtain ⟨hc, hplace'⟩ := List.forall_mem_cons.mp hplace
      let next := s.run (s.abandonSteps c.toTicket)
      have hrun := run_abandonSteps (t := c.toTicket) hc
      have hconnection : ∀ k, next.connection? k =
          if c.serial = k then some (c.abandoned s.table) else s.connection? k := by
        intro k
        rw [show next = _ from hrun]
        exact connection?_put hc _ k
      -- what is ahead for the others does not depend on this connection
      have hothers : ∀ c' ∈ cs, next.connection? c'.serial = s.connection? c'.serial := by
        intro c' hc'
        have hne : c.serial ≠ c'.serial := by
          intro heq
          exact hfirst (List.mem_map.mpr ⟨c', hc', heq.symm⟩)
        rw [hconnection, if_neg hne]
      have hsteps : (cs.map (·.toTicket)).flatMap s.abandonSteps =
          (cs.map (·.toTicket)).flatMap next.abandonSteps := by
        refine List.flatMap_congr fun t ht => (Settled.abandonSteps_congr ?_).symm
        obtain ⟨c', hc', rfl⟩ := List.mem_map.mp ht
        exact hothers c' hc'
      have hlater : next.Closes cs (next.run ((cs.map (·.toTicket)).flatMap next.abandonSteps)) :=
        ih hserials' fun c' hc' => (hothers c' hc').trans (hplace' c' hc')
      rw [List.map_cons, List.flatMap_cons, run_append, hsteps]
      exact .cons hc hfirst hconnection (congrArg counters hrun) (congrArg Server.calls hrun)
        (table_run s _) hlater

/-! ## The first stop -/

theorem retires_abandonSteps (s : Server) (t : Ticket) :
    ∀ step ∈ s.abandonSteps t, step.retires = true := by
  unfold abandonSteps
  split
  · nofun
  · split_ifs <;> simp [Step.retires]

/-- What a connection that is taken down leaves alone. -/
structure Spared (s u : Server) : Prop where
  registry : u.registry = s.registry
  total : u.counters.connections = s.counters.connections
  peak : u.counters.peak = s.counters.peak

theorem spared_apply (s : Server) (hstep : step.retires = true) : s.Spared (s.apply step) := by
  cases step with
  | notifyClosed k =>
      obtain ⟨connections, calls, heq⟩ := s.notify_frame .closed s.table.onClose k
      rw [apply, heq]
      exact ⟨rfl, rfl, rfl⟩
  | countClosed =>
      obtain ⟨hpeak, htotal⟩ := s.counters.others_connectionClosed
      exact ⟨rfl, htotal, hpeak⟩
  | beginClose _ | unwatch _ | shutdown _ | markClosed _ | drop _ => exact ⟨rfl, rfl, rfl⟩
  | _ => cases hstep

theorem spared_run (s : Server) (hsteps : ∀ step ∈ steps, step.retires = true) :
    s.Spared (s.run steps) := by
  induction steps generalizing s with
  | nil => exact ⟨rfl, rfl, rfl⟩
  | cons step steps ih =>
      obtain ⟨hstep, hrest⟩ := List.forall_mem_cons.mp hsteps
      have hfirst := s.spared_apply hstep
      have hlater := ih (s.apply step) hrest
      exact ⟨hlater.registry.trans hfirst.registry, hlater.total.trans hfirst.total,
        hlater.peak.trans hfirst.peak⟩

/-- The registry gives all its connections up, one for each ticket. -/
theorem Recorded.exists_given_up (h : s.Recorded)
    (hids : ids.Perm (s.registry.byDescriptor.map (·.2))) :
    ∃ cs : List Connection, cs.map (·.toTicket) = (s.registry.releaseAll ids).1 ∧
      (cs.map (·.serial)).Nodup ∧
        ∀ c, c ∈ cs ↔ s.connection? c.serial = some c ∧ s.registry.Live c.toTicket := by
  have hanswer : ∀ t, t ∈ (s.registry.releaseAll ids).1 ↔ s.registry.Live t := fun t =>
    h.sound.mem_releaseAll_iff.trans (and_iff_left_of_imp (h.sound.mem_of_live hids))
  let cs := (s.registry.releaseAll ids).1.filterMap fun t => s.connection? t.serial
  have hmem : ∀ c, c ∈ cs ↔ s.connection? c.serial = some c ∧ s.registry.Live c.toTicket := by
    intro c
    rw [List.mem_filterMap]
    constructor
    · rintro ⟨t, ht, hc⟩
      obtain ⟨c', hc', rfl⟩ := h.known t ((hanswer t).mp ht)
      obtain rfl : c = c' := Option.some.inj (hc.symm.trans hc')
      exact ⟨hc, (hanswer _).mp ht⟩
    · rintro ⟨hc, hlive⟩
      exact ⟨c.toTicket, (hanswer _).mpr hlive, hc⟩
  have htickets : cs.map (·.toTicket) = (s.registry.releaseAll ids).1 := by
    rw [List.map_filterMap]
    refine (List.filterMap_congr fun t ht => ?_).trans (List.filterMap_some)
    obtain ⟨c, hc, rfl⟩ := h.known t ((hanswer t).mp ht)
    exact congrArg (Option.map _) hc
  refine ⟨cs, htickets, ?_, hmem⟩
  have hnodup : cs.Nodup := by
    refine List.Nodup.of_map (·.toTicket) ?_
    rw [htickets]
    exact h.sound.nodup_releaseAll ids
  refine hnodup.map_on fun c hc c' hc' heq => ?_
  have hplace := ((hmem c).mp hc).1
  rw [heq, ((hmem c').mp hc').1] at hplace
  exact (Option.some.inj hplace).symm

/-- What the first stop of the server `s` leaves behind. -/
structure TornDown (s u : Server) : Prop where
  running : u.running = false
  stopped : u.stopped = true
  listening : u.listening = false
  workers : u.workers = 0
  /-- The registry leads to nobody any more. -/
  emptied : ∃ answer, s.registry.Emptied answer u.registry
  total : u.counters.connections = s.counters.connections
  peak : u.counters.peak = s.counters.peak
  /-- The connections that the registry had are given up, and each of them is closed once that was
  open. -/
  closings : ∃ cs : List Connection, (cs.map (·.serial)).Nodup ∧
    (∀ c, c ∈ cs ↔ s.connection? c.serial = some c ∧ s.registry.Live c.toTicket) ∧ s.Closes cs u

/-- What it leaves behind where handlers and hooks leave the state of a connection alone: every
connection that was open is closed, once, and none is counted as active. -/
structure ClosedDown (s u : Server) : Prop extends TornDown s u where
  active : u.counters.active = 0
  allClosed : ∃ cs : List Connection, (cs.map (·.serial)).Nodup ∧
    (∀ c, c ∈ cs ↔ s.connection? c.serial = some c ∧ c.state.isOpen = true) ∧ s.Closes cs u ∧
      ∀ c ∈ cs, ∃ c', u.connection? c.serial = some c' ∧ c'.toTicket = c.toTicket ∧
        c'.state = .closed

theorem tornDown_stop (h : s.Recorded) (hrunning : s.stopped = false)
    (hids : ids.Perm (s.registry.byDescriptor.map (·.2))) :
    s.TornDown (s.run (s.stopStepsIn ids)) := by
  obtain ⟨hstopped, hlistening⟩ := phase_stop hrunning ids
  obtain ⟨listening, watchlist, latencies, reports, hhalting⟩ := s.run_halting
  -- the server when the registry has let go of its connections, and none of them is closed yet
  let drained : Server := { s with
    running := false, stopped := true, listening, workers := 0, watchlist, latencies, reports
    registry := (s.registry.releaseAll ids).2 }
  have hrun : s.run (s.stopStepsIn ids) =
      drained.run ((s.registry.releaseAll ids).1.flatMap drained.abandonSteps) := by
    rw [stopStepsIn_eq hrunning, run_append,
      show ([.halt, .closeListener, .joinWorkers, .drain ids] : List Step) =
        [.halt, .closeListener, .joinWorkers] ++ [.drain ids] from rfl, run_append, hhalting]
    rfl
  have hphase := drained.phase_run (drained.isFinal_abandonAll (s.registry.releaseAll ids).1)
  have hspared : drained.Spared (s.run (s.stopStepsIn ids)) := by
    rw [hrun]
    refine drained.spared_run fun step hstep => ?_
    obtain ⟨t, -, hstep⟩ := List.mem_flatMap.mp hstep
    exact drained.retires_abandonSteps t step hstep
  obtain ⟨cs, htickets, hserials, hmem⟩ := h.exists_given_up hids
  have hcloses := closes_abandonAll (s := drained) hserials fun c hc => ((hmem c).mp hc).1
  have hemptied := h.sound.emptied hids
  rw [htickets, ← hrun] at hcloses
  rw [← hrun] at hphase
  exact
    { running := hphase.running
      stopped := hstopped
      listening := hlistening
      workers := hphase.workers
      emptied := ⟨_, by rwa [hspared.registry]⟩
      total := hspared.total
      peak := hspared.peak
      closings := ⟨cs, hserials, hmem, hcloses.connection, hcloses.counters, hcloses.calls⟩ }

theorem closedDown_stop (h : s.Recorded) (htended : s.Tended) (hpassive : s.table.Passive)
    (hrunning : s.stopped = false) (hids : ids.Perm (s.registry.byDescriptor.map (·.2))) :
    s.ClosedDown (s.run (s.stopStepsIn ids)) := by
  have hdown := tornDown_stop h hrunning hids
  refine ⟨hdown, ?_, ?_⟩
  · obtain ⟨calls, hbooks⟩ := htended.stop hpassive ids
    obtain ⟨answer, hemptied⟩ := hdown.emptied
    exact UInt64.toNat_inj.mp (hbooks.active.trans hemptied.live_eq)
  · obtain ⟨cs, hserials, hmem, hcloses⟩ := hdown.closings
    have hopen : ∀ c, c ∈ cs ↔ s.connection? c.serial = some c ∧ c.state.isOpen = true :=
      fun c => (hmem c).trans (and_congr_right fun hc => htended.live_iff hc)
    refine ⟨cs, hserials, hopen, hcloses, fun c hc => ?_⟩
    obtain ⟨hplace, hstate⟩ := (hopen c).mp hc
    exact hcloses.closed hpassive hc hplace hstate

end Server

end MessageServer
