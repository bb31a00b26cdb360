import Mathlib.Data.List.Basic
import MessageServer.Proofs.Drain.Intake
import MessageServer.Server.Lifecycle

/-!
# What the steps of an operation come to

An admission and a closing are lists of steps.  Here each of them is taken as a whole: one equation
says what the server is like behind it.

* `Server.put` is a server with one connection exchanged.  The steps that change a connection are
  all of this kind, `updateConnection_eq`.
* `closing_eq`, `abandoning_eq` and `undoing_eq`: the three ways in which a connection is taken down
  differ in what they do to the registry and to the readiness queue.  All of them leave it closed,
  call the hook once if there is one, and count the connection once.
* `run_closing`, `run_abandoning` and `run_undoing`: the same where there is a hook.
* `run_opening`: an admission up to where the connection is counted.
* `Worked`: what reading from a connection comes to.  `Addressed` says which connection an event is
  for, and `service_of_unaddressed` and `service_of_addressed` what serving it comes to.
* `eq_of_bind`: the beginning of a server.  `startIn_cases` has the four ends of a start.
-/

namespace MessageServer

/-- Both hooks are installed, and neither changes the state of a connection. -/
structure HandlerTable.Hooked (t : HandlerTable) : Prop where
  opens : ∃ hook, t.onConnect = some hook ∧ ∀ c, (hook c).standing.state = c.state
  closes : ∃ hook, t.onClose = some hook ∧ ∀ c, (hook c).standing.state = c.state

/-- A descriptor that is not watched any more cannot be taken out again. -/
@[simp] theorem Watchlist.delete_delete (l : Watchlist) (d : Descriptor) :
    (l.delete d).delete d = l.delete d := by
  simp only [delete, List.filter_filter, Bool.and_self]

namespace Connection

variable {c : Connection} {hook? : Option Hook}

/-- The connection when a hook, if there is one, has been called on it. -/
def told (c : Connection) : Option Hook → Connection
  | none => c
  | some hook => c.treated (hook c)

theorem told_state (hkeeps : ∀ hook, hook? = some hook →
    ∀ c, (hook c).standing.state = c.state) : (c.told hook?).state = c.state := by
  cases hook? with
  | none => rfl
  | some hook => exact hkeeps hook rfl c

theorem told_ticket (c : Connection) (hook? : Option Hook) :
    (c.told hook?).toTicket = c.toTicket := by
  cases hook? <;> rfl

theorem told_stream (hkeeps : ∀ hook, hook? = some hook → ∀ c, (hook c).shutsDown = false) :
    (c.told hook?).stream = c.stream := by
  cases hook? with
  | none => rfl
  | some hook => simp only [told, treated, hkeeps hook rfl c, Bool.or_false]

/-- The connection when it has been closed for good: marked, announced and let go of. -/
def retired (table : HandlerTable) (c : Connection) : Connection :=
  let told := c.markClosed.told table.onClose
  { told with stream := told.stream.drop }

theorem retired_ticket (table : HandlerTable) (c : Connection) :
    (c.retired table).toTicket = c.toTicket :=
  c.markClosed.told_ticket table.onClose

/-- What a hook does to a stream that is shut down makes no difference. -/
theorem retired_stream (table : HandlerTable) (c : Connection) :
    (c.shutdown.retired table).stream = { c.stream with shutDown := true, dropped := true } := by
  unfold retired told
  cases table.onClose <;> rfl

theorem retired_state {table : HandlerTable} (hkeeps : ∀ hook, table.onClose = some hook →
    ∀ c, (hook c).standing.state = c.state) : (c.retired table).state = .closed :=
  Connection.told_state (c := c.markClosed) hkeeps

end Connection

/-- The call of a hook on a connection, if there is the hook. -/
def HookCall.of (phase : HookPhase) (hook? : Option Hook) (c : Connection) : List HookCall :=
  hook?.toList.map fun _ => ⟨phase, c⟩

/-- An installed hook is called, and leaves a connection that is closed closed. -/
theorem HandlerTable.Hooked.retires {t : HandlerTable} (hooked : t.Hooked) (c : Connection) :
    ∃ call, HookCall.of .closed t.onClose c.markClosed = [call] ∧
      (c.retired t).toTicket = c.toTicket ∧ (c.retired t).state = .closed ∧
        call.phase = .closed := by
  obtain ⟨hook, hhook, hstate⟩ := hooked.closes
  refine ⟨⟨.closed, c.markClosed⟩, ?_, c.retired_ticket t, Connection.retired_state ?_, rfl⟩
  · rw [hhook]
    rfl
  · intro hook' hhook'
    rw [hhook, Option.some.injEq] at hhook'
    exact hhook' ▸ hstate

/-- The peer is gone, and there is nothing to read. -/
def Event.gone (e : Event) : Bool :=
  e.hangup && !e.readable

namespace Server

variable {s u : Server} {k : Nat} {c : Connection} {e : Event} {worker : Nat}
  {clock : Nat → Readings} {spawnError? : Nat → Option SystemError}

/-! ## One connection -/

/-- The server with another connection in the place of the one with serial number `k`. -/
def put (s : Server) (k : Nat) (c : Connection) : Server :=
  { s with connections := s.connections.setIfInBounds k c }

@[simp] theorem put_put (s : Server) (k : Nat) (c c' : Connection) :
    (s.put k c).put k c' = s.put k c' := by
  simp only [put, Array.setIfInBounds_setIfInBounds]

@[simp] theorem size_put (s : Server) (k : Nat) (c : Connection) :
    (s.put k c).connections.size = s.connections.size :=
  Array.size_setIfInBounds

theorem lt_size_of_connection? (hc : s.connection? k = some c) : k < s.connections.size :=
  (Array.getElem?_eq_some_iff.mp hc).1

theorem connection?_put (hc : s.connection? k = some c) (c' : Connection) (j : Nat) :
    (s.put k c').connection? j = if k = j then some c' else s.connection? j := by
  unfold connection? put
  rw [Array.getElem?_setIfInBounds]
  by_cases hj : k = j
  · rw [if_pos hj, if_pos hj, if_pos (lt_size_of_connection? hc)]
  · rw [if_neg hj, if_neg hj]

theorem connection?_put_self (hc : s.connection? k = some c) (c' : Connection) :
    (s.put k c').connection? k = some c' := by
  rw [connection?_put hc, if_pos rfl]

theorem connection?_updateConnection (s : Server) (k : Nat) (f : Connection → Connection)
    (j : Nat) : (s.updateConnection k f).connection? j =
      if k = j then (s.connection? j).map f else s.connection? j := by
  unfold connection? updateConnection
  rw [Array.getElem?_modify]

/-- A change of a connection that is there puts another one in its place. -/
theorem updateConnection_eq (hc : s.connection? k = some c) (f : Connection → Connection) :
    s.updateConnection k f = s.put k (f c) := by
  unfold updateConnection put
  refine congrArg (fun connections => { s with connections }) (Array.ext_getElem? fun j => ?_)
  rw [Array.getElem?_modify, Array.getElem?_setIfInBounds]
  by_cases hj : k = j
  · subst hj
    rw [if_pos rfl, if_pos rfl, if_pos (lt_size_of_connection? hc),
      show s.connections[k]? = some c from hc]
    rfl
  · rw [if_neg hj, if_neg hj]

theorem updateConnection_of_none (hc : s.connection? k = none) (f : Connection → Connection) :
    s.updateConnection k f = s := by
  have hsame : s.connections.modify k f = s.connections := by
    refine Array.ext_getElem? fun j => ?_
    rw [Array.getElem?_modify]
    split_ifs with hj
    · rw [← hj, show s.connections[k]? = none from hc, Option.map_none]
    · rfl
  rw [updateConnection, hsame]

theorem notify_eq (hc : s.connection? k = some c) (phase : HookPhase) (hook? : Option Hook) :
    s.notify phase hook? k =
      { s.put k (c.told hook?) with calls := s.calls ++ HookCall.of phase hook? c } := by
  cases hook? with
  | none =>
      have hsame : s.connections.setIfInBounds k c = s.connections := by
        refine Array.ext_getElem? fun j => ?_
        rw [Array.getElem?_setIfInBounds]
        split_ifs with hj hlt
        · exact hj ▸ hc.symm
        · exact absurd (lt_size_of_connection? hc) hlt
        · rfl
      unfold notify put Connection.told HookCall.of
      simp only [hsame, Option.toList_none, List.map_nil, List.append_nil]
  | some hook =>
      unfold notify
      simp only [hc, updateConnection_eq hc]
      rfl

@[simp] theorem run_nil (s : Server) : s.run [] = s :=
  rfl

@[simp] theorem run_cons (s : Server) (step : Step) (steps : List Step) :
    s.run (step :: steps) = (s.apply step).run steps :=
  rfl

theorem run_append (s : Server) (first rest : List Step) :
    s.run (first ++ rest) = (s.run first).run rest :=
  List.foldl_append

/-- A hook concerns the connections and the list of calls. -/
theorem notify_frame (s : Server) (phase : HookPhase) (hook? : Option Hook) (k : Nat) :
    ∃ connections calls, s.notify phase hook? k = { s with connections, calls } := by
  unfold notify
  split <;> exact ⟨_, _, rfl⟩

theorem connection?_push {c' : Connection} {j : Nat}
    (hj : (s.connections.push c')[j]? = some c) :
    j = s.connections.size ∧ c = c' ∨ j < s.connections.size ∧ s.connection? j = some c := by
  rw [Array.getElem?_push] at hj
  split_ifs at hj with heq
  · exact .inl ⟨heq, (Option.some.inj hj).symm⟩
  · exact .inr ⟨lt_size_of_connection? hj, hj⟩

theorem connection?_push_of_lt {c' : Connection} {j : Nat} (hj : s.connection? j = some c) :
    (s.connections.push c')[j]? = some c := by
  rw [Array.getElem?_push, if_neg (Nat.ne_of_lt (lt_size_of_connection? hj))]
  exact hj

theorem apply_watch (s : Server) (k : Nat) :
    ∃ watchlist, s.apply (.watch k) = { s with watchlist } := by
  simp only [apply]
  split
  · exact ⟨s.watchlist, rfl⟩
  · split
    · exact ⟨_, rfl⟩
    · exact ⟨s.watchlist, rfl⟩

theorem apply_closeListener (s : Server) :
    ∃ listening watchlist, s.apply .closeListener = { s with listening, watchlist } := by
  simp only [apply]
  split <;> exact ⟨_, _, rfl⟩

theorem report_frame (s : Server) :
    ∃ latencies reports, s.report = { s with latencies, reports } := by
  unfold report
  dsimp only
  split <;> exact ⟨_, _, rfl⟩

/-- Between the rounds of a worker only the samples are collected and reported. -/
theorem housekeep_frame (s : Server) (elapsed : Nat) :
    ∃ latencies reports, s.housekeep elapsed = { s with latencies, reports } := by
  obtain ⟨latencies, reports, hreport⟩ := s.report_frame
  unfold housekeep
  split
  · split_ifs
    · exact ⟨latencies, reports, hreport⟩
    · exact ⟨_, s.reports, rfl⟩
  · exact ⟨_, s.reports, rfl⟩

theorem apply_joinWorkers (s : Server) :
    ∃ latencies reports,
      s.apply .joinWorkers = { s with workers := 0, latencies, reports } := by
  obtain ⟨latencies, reports, heq⟩ := s.report_frame
  simp only [apply]
  split
  · rw [heq]
    exact ⟨latencies, reports, rfl⟩
  · exact ⟨_, _, rfl⟩

/-- No step exchanges the handlers.  It counts a connection as opened or as closed, or it counts
nothing. -/
theorem apply_cases (s : Server) (step : Step) :
    (s.apply step).table = s.table ∧
      ((s.apply step).counters = s.counters ∨
        (s.apply step).counters = s.counters.connectionOpened ∨
          (s.apply step).counters = s.counters.connectionClosed) := by
  cases step with
  | countOpened => exact ⟨rfl, .inr (.inl rfl)⟩
  | countClosed => exact ⟨rfl, .inr (.inr rfl)⟩
  | notifyOpened k =>
      obtain ⟨connections, calls, heq⟩ := s.notify_frame .opened s.table.onConnect k
      rw [apply, heq]
      exact ⟨rfl, .inl rfl⟩
  | notifyClosed k =>
      obtain ⟨connections, calls, heq⟩ := s.notify_frame .closed s.table.onClose k
      rw [apply, heq]
      exact ⟨rfl, .inl rfl⟩
  | watch k =>
      obtain ⟨watchlist, heq⟩ := s.apply_watch k
      rw [heq]
      exact ⟨rfl, .inl rfl⟩
  | closeListener =>
      obtain ⟨listening, watchlist, heq⟩ := s.apply_closeListener
      rw [heq]
      exact ⟨rfl, .inl rfl⟩
  | joinWorkers =>
      obtain ⟨latencies, reports, heq⟩ := s.apply_joinWorkers
      rw [heq]
      exact ⟨rfl, .inl rfl⟩
  | register o | unregister k =>
      simp only [apply]
      split <;> exact ⟨rfl, .inl rfl⟩
  | activate _ | unwatch _ | beginClose _ | shutdown _ | markClosed _ | drop _ | halt | drain _ =>
      exact ⟨rfl, .inl rfl⟩

@[simp] theorem table_run (s : Server) (steps : List Step) : (s.run steps).table = s.table := by
  induction steps generalizing s with
  | nil => rfl
  | cons step steps ih => rw [run_cons, ih, (s.apply_cases step).1]

theorem apply_unwatch (hc : s.connection? k = some c) :
    s.apply (.unwatch k) = { s with watchlist := s.watchlist.delete c.descriptor } := by
  simp only [apply, unwatched, hc]

theorem apply_unregister (hc : s.connection? k = some c) :
    s.apply (.unregister k) = { s with registry := (s.registry.release c.id).2 } := by
  simp only [apply, hc]

theorem apply_drop (hc : s.connection? k = some c) :
    s.apply (.drop k) = { s.put k { c with stream := c.stream.drop } with
      watchlist := s.watchlist.delete c.descriptor } := by
  simp only [apply, unwatched, hc, updateConnection_eq hc]

theorem apply_beginClose (hc : s.connection? k = some c) (hopen : c.state.isOpen = true) :
    s.apply (.beginClose k) = s.put k (c.withState .closing) := by
  have hbegin : c.beginClose.2 = c.withState .closing := by
    rw [Connection.beginClose, if_pos hopen]
  rw [← hbegin]
  exact updateConnection_eq hc _

/-! ## Taking a connection down -/

/-- The end of every teardown. -/
theorem retiring_eq (hc : s.connection? k = some c) :
    s.run [.markClosed k, .notifyClosed k, .countClosed, .drop k] =
      { s.put k (c.retired s.table) with
        watchlist := s.watchlist.delete c.descriptor
        counters := s.counters.connectionClosed
        calls := s.calls ++ HookCall.of .closed s.table.onClose c.markClosed } := by
  -- the connection when it is marked, and when the hook has been called on it
  let closed := c.markClosed
  let told := closed.told s.table.onClose
  have hclosed := connection?_put_self hc closed
  have htold := connection?_put_self hc told
  have hmark : s.apply (.markClosed k) = s.put k closed := updateConnection_eq hc _
  have hnotify : (s.put k closed).apply (.notifyClosed k) =
      { s.put k told with calls := s.calls ++ HookCall.of .closed s.table.onClose closed } := by
    refine (notify_eq hclosed .closed s.table.onClose).trans ?_
    rw [put_put]
    rfl
  let counted : Server := { s.put k told with
    counters := s.counters.connectionClosed
    calls := s.calls ++ HookCall.of .closed s.table.onClose closed }
  have hdrop := apply_drop (s := counted) htold
  have hdescriptor : told.descriptor = c.descriptor :=
    congrArg Ticket.descriptor (closed.told_ticket s.table.onClose)
  have hput := put_put s k told (c.retired s.table)
  rw [hdescriptor] at hdrop
  rw [run_cons, hmark, run_cons, hnotify]
  refine Eq.trans (b := counted.apply (.drop k)) rfl (hdrop.trans ?_)
  exact congrArg (fun u : Server => { u with
    watchlist := s.watchlist.delete c.descriptor
    counters := s.counters.connectionClosed
    calls := s.calls ++ HookCall.of .closed s.table.onClose closed }) hput

/-- The same where the connection, the readiness queue and the registry have changed before. -/
theorem retiring_after_eq (hc : s.connection? k = some c) (c₁ : Connection)
    (watchlist : Watchlist) (registry : Registry) :
    ({ s.put k c₁ with watchlist, registry } : Server).run
        [.markClosed k, .notifyClosed k, .countClosed, .drop k] =
      { s.put k (c₁.retired s.table) with
        watchlist := watchlist.delete c₁.descriptor, registry
        counters := s.counters.connectionClosed
        calls := s.calls ++ HookCall.of .closed s.table.onClose c₁.markClosed } := by
  have hc₁ := connection?_put_self hc c₁
  have hput := put_put s k c₁ (c₁.retired s.table)
  refine (retiring_eq (s := { s.put k c₁ with watchlist, registry }) hc₁).trans ?_
  exact congrArg (fun u : Server => { u with
    watchlist := watchlist.delete c₁.descriptor, registry
    counters := s.counters.connectionClosed
    calls := s.calls ++ HookCall.of .closed s.table.onClose c₁.markClosed }) hput

/-- The shutdown of a connection that was exchanged, on a server whose readiness queue and registry
have changed. -/
theorem apply_shutdown_after (hc : s.connection? k = some c) (c₁ : Connection)
    (watchlist : Watchlist) (registry : Registry) :
    ({ s.put k c₁ with watchlist, registry } : Server).apply (.shutdown k) =
      { s.put k c₁.shutdown with watchlist, registry } := by
  have hc₁ := connection?_put_self hc c₁
  have hput := put_put s k c₁ c₁.shutdown
  refine (updateConnection_eq (s := { s.put k c₁ with watchlist, registry }) hc₁
    Connection.shutdown).trans ?_
  exact congrArg (fun u : Server => { u with watchlist, registry }) hput

/-- A closing by a worker: the connection leaves the readiness queue and the registry. -/
theorem closing_eq (hc : s.connection? k = some c) (hopen : c.state.isOpen = true) :
    s.run (s.closingSteps k) =
      { s.put k (c.shutdown.retired s.table) with
        watchlist := s.watchlist.delete c.descriptor
        registry := (s.registry.release c.id).2
        counters := s.counters.connectionClosed
        calls := s.calls ++ HookCall.of .closed s.table.onClose c.shutdown.markClosed } := by
  let closing := c.withState .closing
  let watchlist := s.watchlist.delete c.descriptor
  let registry := (s.registry.release c.id).2
  have hclosing := connection?_put_self hc closing
  have hsteps : s.closingSteps k = [.beginClose k, .unwatch k, .unregister k, .shutdown k,
      .markClosed k, .notifyClosed k, .countClosed, .drop k] := by
    simp only [closingSteps, hc, hopen, if_true]
  have hunwatch : (s.put k closing).apply (.unwatch k) = { s.put k closing with watchlist } :=
    apply_unwatch (c := closing) hclosing
  have hunregister : ({ s.put k closing with watchlist } : Server).apply (.unregister k) =
      { s.put k closing with watchlist, registry } :=
    apply_unregister (s := { s.put k closing with watchlist }) (c := closing) hclosing
  have hshutdown := apply_shutdown_after hc closing watchlist registry
  rw [hsteps, run_cons, apply_beginClose hc hopen, run_cons, hunwatch, run_cons, hunregister,
    run_cons, hshutdown, retiring_after_eq hc closing.shutdown watchlist registry]
  -- the descriptor was not watched any more
  rw [show watchlist.delete closing.shutdown.descriptor = watchlist from
    s.watchlist.delete_delete c.descriptor]
  rfl

theorem run_closing (hooked : s.table.Hooked) (hc : s.connection? k = some c)
    (hopen : c.state.isOpen = true) :
    ∃ c' watchlist call, s.run (s.closingSteps k) =
        { s.put k c' with
          watchlist, registry := (s.registry.release c.id).2
          counters := s.counters.connectionClosed, calls := s.calls ++ [call] } ∧
      c'.toTicket = c.toTicket ∧ c'.state = .closed ∧ call.phase = .closed := by
  obtain ⟨call, hcall, hrest⟩ := hooked.retires c.shutdown
  refine ⟨c.shutdown.retired s.table, s.watchlist.delete c.descriptor, call, ?_, hrest⟩
  rw [closing_eq hc hopen, hcall]

/-- A closing by the stop, after the registry has let go of all connections. -/
theorem abandoning_eq {t : Ticket} (hc : s.connection? t.serial = some c)
    (hopen : c.state.isOpen = true) :
    s.run (s.abandonSteps t) =
      { s.put t.serial (c.shutdown.retired s.table) with
        watchlist := s.watchlist.delete c.descriptor
        counters := s.counters.connectionClosed
        calls := s.calls ++ HookCall.of .closed s.table.onClose c.shutdown.markClosed } := by
  let closing := c.withState .closing
  let watchlist := s.watchlist.delete c.descriptor
  have hsteps : s.abandonSteps t = [.beginClose t.serial, .unwatch t.serial, .shutdown t.serial,
      .markClosed t.serial, .notifyClosed t.serial, .countClosed, .drop t.serial] := by
    simp only [abandonSteps, hc, hopen, if_true]
  have hunwatch : (s.put t.serial closing).apply (.unwatch t.serial) =
      { s.put t.serial closing with watchlist } :=
    apply_unwatch (c := closing) (connection?_put_self hc closing)
  have hshutdown := apply_shutdown_after hc closing watchlist s.registry
  rw [hsteps, run_cons, apply_beginClose hc hopen, run_cons, hunwatch, run_cons]
  refine (congrArg (run · _) hshutdown).trans
    ((retiring_after_eq hc closing.shutdown watchlist s.registry).trans ?_)
  rw [show watchlist.delete closing.shutdown.descriptor = watchlist from
    s.watchlist.delete_delete c.descriptor]
  rfl

theorem run_abandoning (hooked : s.table.Hooked) {t : Ticket}
    (hc : s.connection? t.serial = some c) (hopen : c.state.isOpen = true) :
    ∃ c' watchlist call, s.run (s.abandonSteps t) =
        { s.put t.serial c' with
          watchlist, counters := s.counters.connectionClosed, calls := s.calls ++ [call] } ∧
      c'.toTicket = c.toTicket ∧ c'.state = .closed ∧ call.phase = .closed := by
  obtain ⟨call, hcall, hrest⟩ := hooked.retires c.shutdown
  refine ⟨c.shutdown.retired s.table, s.watchlist.delete c.descriptor, call, ?_, hrest⟩
  rw [abandoning_eq hc hopen, hcall]

/-- The undoing of an admission whose connection cannot be watched. -/
theorem undoing_eq (hc : s.connection? k = some c) (hopen : c.state.isOpen = true) :
    s.run [.unregister k, .beginClose k, .markClosed k, .notifyClosed k, .countClosed, .drop k] =
      { s.put k (c.retired s.table) with
        watchlist := s.watchlist.delete c.descriptor
        registry := (s.registry.release c.id).2
        counters := s.counters.connectionClosed
        calls := s.calls ++ HookCall.of .closed s.table.onClose c.markClosed } := by
  let closing := c.withState .closing
  let registry := (s.registry.release c.id).2
  have hunregister : s.apply (.unregister k) = { s with registry } := apply_unregister hc
  have hbegin : ({ s with registry } : Server).apply (.beginClose k) =
      { s.put k closing with registry } :=
    apply_beginClose (s := { s with registry }) hc hopen
  rw [run_cons, hunregister, run_cons, hbegin]
  exact retiring_after_eq hc closing s.watchlist registry

theorem run_undoing (hooked : s.table.Hooked) (hc : s.connection? k = some c)
    (hopen : c.state.isOpen = true) :
    ∃ c' watchlist call, s.run [.unregister k, .beginClose k, .markClosed k, .notifyClosed k,
          .countClosed, .drop k] =
        { s.put k c' with
          watchlist, registry := (s.registry.release c.id).2
          counters := s.counters.connectionClosed, calls := s.calls ++ [call] } ∧
      c'.toTicket = c.toTicket ∧ c'.state = .closed ∧ call.phase = .closed := by
  obtain ⟨call, hcall, hrest⟩ := hooked.retires c
  refine ⟨c.retired s.table, s.watchlist.delete c.descriptor, call, ?_, hrest⟩
  rw [undoing_eq hc hopen, hcall]

/-- Up to where the registry is asked, a stop concerns the listening and the workers. -/
theorem run_halting (s : Server) :
    ∃ listening watchlist latencies reports, s.run [.halt, .closeListener, .joinWorkers] =
      { s with
        running := false, stopped := true, listening, workers := 0, watchlist, latencies
        reports } := by
  obtain ⟨listening, watchlist, hclosed⟩ := (s.apply .halt).apply_closeListener
  obtain ⟨latencies, reports, hjoined⟩ :=
    apply_joinWorkers { s.apply .halt with listening, watchlist }
  refine ⟨listening, watchlist, latencies, reports, ?_⟩
  rw [run_cons, run_cons, hclosed, run_cons, hjoined]
  rfl

/-! ## Letting a connection in -/

theorem setIfInBounds_push (connections : Array Connection) (c₁ c₂ : Connection) :
    (connections.push c₁).setIfInBounds connections.size c₂ = connections.push c₂ := by
  refine Array.ext_getElem? fun j => ?_
  rw [Array.getElem?_setIfInBounds, Array.getElem?_push, Array.getElem?_push, Array.size_push]
  by_cases hj : connections.size = j
  · simp [hj]
  · simp [hj, Ne.symm hj]

/-- An admission up to where the connection is counted. -/
theorem run_opening (hooked : s.table.Hooked) {i : Incoming} {registry : Registry}
    (hregister : s.registry.register (s.openingOf i) = (.ok c, registry))
    (hstate : c.state = .accepted) (hserial : c.serial = s.connections.size) :
    ∃ c' call, s.run [.register (s.openingOf i), .activate c.serial, .notifyOpened c.serial,
          .countOpened] =
        { s with
          registry, connections := s.connections.push c'
          counters := s.counters.connectionOpened, calls := s.calls ++ [call] } ∧
      c'.toTicket = c.toTicket ∧ c'.state = .active ∧ call.phase = .opened := by
  obtain ⟨hook, hhook, hkeeps⟩ := hooked.opens
  let active := c.withState .active
  let told : Connection := active.treated (hook active)
  -- the server with a connection behind the others; the steps exchange this connection
  let entered (c : Connection) : Server :=
    { s with registry, connections := s.connections.push c }
  have hplace : ∀ c₁ : Connection, (entered c₁).connection? c.serial = some c₁ := by
    intro c₁
    rw [hserial]
    exact Array.getElem?_push_size
  have hput : ∀ c₁ c₂ : Connection, (entered c₁).put c.serial c₂ = entered c₂ := by
    intro c₁ c₂
    refine congrArg (fun connections => ({ s with registry, connections } : Server)) ?_
    rw [hserial]
    exact setIfInBounds_push s.connections c₁ c₂
  have hentered : s.apply (.register (s.openingOf i)) = entered c := by
    simp only [apply, hregister]
    rfl
  have hactivate : (entered c).apply (.activate c.serial) = entered active := by
    have hactive : c.activate.2 = active := by
      simp only [Connection.activate, hstate]
      rfl
    refine (updateConnection_eq (hplace c) _).trans ?_
    rw [hput, hactive]
  have hnotify : (entered active).apply (.notifyOpened c.serial) =
      { entered told with calls := s.calls ++ [⟨.opened, active⟩] } := by
    change (entered active).notify .opened s.table.onConnect c.serial = _
    rw [hhook, notify_eq (hplace active), hput]
    rfl
  refine ⟨told, ⟨.opened, active⟩, ?_, rfl, hkeeps active, rfl⟩
  rw [run_cons, hentered, run_cons, hactivate, run_cons, hnotify]
  rfl

/-! ## Reading -/

/-- A connection was worked on, by its peer or by a worker, and was exchanged for one with the same
ticket. -/
structure Worked (s : Server) (k : Nat) (c c' : Connection) (u : Server) : Prop where
  known : s.connection? k = some c
  ticket : c'.toTicket = c.toTicket
  frame : ∃ pools counters latencies, u = { s.put k c' with pools, counters, latencies }
  active : u.counters.active = s.counters.active
  total : u.counters.connections = s.counters.connections
  peak : u.counters.peak = s.counters.peak

theorem worked_peer (hc : s.connection? k = some c) (stream : Stream) :
    s.Worked k c { c with stream } (s.updateConnection k fun c => { c with stream }) := by
  rw [updateConnection_eq hc]
  exact ⟨hc, rfl, ⟨_, _, _, rfl⟩, rfl, rfl, rfl⟩

/-- Reading from a connection. -/
theorem exists_worked (hc : s.connection? k = some c) (worker : Nat) (clock : Nat → Readings) :
    ∃ trace ended q, Pass.Drains s.table worker clock (s.firstPass c) trace ended q ∧
      s.Worked k c q.desk.connection (s.drainConnection worker clock k c).2.1 := by
  obtain ⟨trace, ended, q, hpass, hdrain⟩ := s.exists_pass worker clock k c
  refine ⟨trace, ended, q, hpass, ?_⟩
  rw [hdrain, afterPass, updateConnection_eq hc]
  have hdesk := hpass.keeps
  exact ⟨hc, hdesk.ticket, ⟨_, _, _, rfl⟩, hdesk.active, hdesk.connections, hdesk.peak⟩

/-! ## Serving -/

/-- The event is for the connection `c`, which is active. -/
structure Addressed (s : Server) (e : Event) (k : Nat) (c : Connection) : Prop where
  token : ∃ t, s.registry.get? (.ofToken e.token) = some t ∧ t.serial = k
  connection : s.connection? k = some c
  active : c.state = .active

theorem Addressed.isOpen (h : s.Addressed e k c) : c.state.isOpen = true := by
  rw [h.active]
  rfl

/-- An event is for one connection at most. -/
theorem Addressed.unique (h : s.Addressed e k c) {k' : Nat} {c' : Connection}
    (h' : s.Addressed e k' c') : k = k' ∧ c = c' := by
  obtain ⟨⟨t, ht, rfl⟩, hc, -⟩ := h
  obtain ⟨⟨t', ht', rfl⟩, hc', -⟩ := h'
  obtain rfl : t = t' := Option.some.inj (ht.symm.trans ht')
  exact ⟨rfl, Option.some.inj (hc.symm.trans hc')⟩

theorem service_of_unaddressed (h : ∀ k c, ¬ s.Addressed e k c) :
    s.service worker clock e = (none, s, []) := by
  unfold service
  split
  · rfl
  · next t ht =>
      split
      · rfl
      · next c hc =>
          split_ifs with hactive
          · rfl
          all_goals
            have hstate : c.state = .active := by simpa [Connection.isActive] using hactive
            exact absurd ⟨⟨t, ht, rfl⟩, hc, hstate⟩ (h t.serial c)

theorem service_of_addressed (h : s.Addressed e k c) :
    s.service worker clock e =
      if e.gone then (some .hungUp, (s.closeConnection k).2, [])
      else
        match s.drainConnection worker clock k c with
        | (ended, s', events) =>
          match reasonAfter e ended with
          | none => (none, s', events)
          | some reason => (some reason, (s'.closeConnection k).2, events) := by
  obtain ⟨⟨t, ht, rfl⟩, hc, hstate⟩ := h
  have hactive : c.isActive = true := by
    rw [Connection.isActive, hstate]
    rfl
  unfold service
  simp only [ht, hc, hactive, Bool.not_true, Bool.false_eq_true, if_false]
  rfl

/-- Whatever an event says, serving it does nothing, or it is a closing, or it is reading and
perhaps a closing behind it. -/
theorem service_cases (s : Server) (worker : Nat) (clock : Nat → Readings) (e : Event) :
    (s.service worker clock e).2.1 = s ∨
      (∃ k, (s.service worker clock e).2.1 = s.run (s.closingSteps k)) ∨
        ∃ k c u, s.connection? k = some c ∧ (s.drainConnection worker clock k c).2.1 = u ∧
          ((s.service worker clock e).2.1 = u ∨
            (s.service worker clock e).2.1 = u.run (u.closingSteps k)) := by
  by_cases haddressed : ∃ k c, s.Addressed e k c
  · obtain ⟨k, c, haddressed⟩ := haddressed
    rw [service_of_addressed haddressed]
    cases e.gone with
    | true => exact .inr (.inl ⟨k, rfl⟩)
    | false =>
        rcases hdrain : s.drainConnection worker clock k c with ⟨ended, u, events⟩
        refine .inr (.inr ⟨k, c, u, haddressed.connection, by rw [hdrain], ?_⟩)
        rw [if_neg Bool.false_ne_true]
        cases hreason : reasonAfter e ended with
        | none => exact .inl (by simp only [hreason])
        | some reason => exact .inr (by simp only [hreason]; rfl)
  · rw [service_of_unaddressed fun k c h => haddressed ⟨k, c, h⟩]
    exact .inl rfl

/-! ## Binding and starting -/

/-- A server that was bound has a valid configuration, and does nothing but listen. -/
theorem eq_of_bind {host : Host} {config : Config} {table : HandlerTable}
    (hbind : bind host config table = .ok s) :
    config.validate = .ok () ∧ ∃ address pools, s = bound config table address pools := by
  unfold bind at hbind
  split at hbind
  · cases hbind
  · next hvalid =>
      dsimp only at hbind
      split at hbind
      · cases hbind
      · split at hbind
        · cases hbind
        · exact ⟨hvalid, _, _, (Except.ok.inj hbind).symm⟩

theorem firstSpawnError_eq_none_iff {workers : Nat} :
    firstSpawnError spawnError? workers = none ↔ ∀ i < workers, spawnError? i = none := by
  simp [firstSpawnError]

theorem firstSpawnError_of_first {workers i : Nat} {e : SystemError} (hi : i < workers)
    (hbefore : ∀ j < i, spawnError? j = none) (he : spawnError? i = some e) :
    firstSpawnError spawnError? workers = some (i, e) := by
  obtain ⟨m, rfl⟩ : ∃ m, workers = i + (m + 1) := ⟨workers - i - 1, by omega⟩
  have hnone := firstSpawnError_eq_none_iff.mpr hbefore
  rw [firstSpawnError] at hnone ⊢
  rw [List.range_add, List.findSome?_append, hnone, List.range_succ_eq_map]
  simp [he]

/-- Spawning concerns the workers only. -/
theorem spawn_frame (s : Server) (spawnError? : Nat → Option SystemError) :
    ∃ workers, (s.spawn spawnError?).2 = { s with
      running := true, workers, latencies := Latencies.new s.config.workers.toNat } := by
  unfold spawn
  dsimp only
  split <;> exact ⟨_, rfl⟩

/-- All workers are spawned. -/
theorem spawn_of_ok (s : Server) (hall : ∀ i < s.config.workers.toNat, spawnError? i = none) :
    s.spawn spawnError? = (none, { s with
      running := true, workers := s.config.workers.toNat
      latencies := Latencies.new s.config.workers.toNat }) := by
  unfold spawn
  simp only [firstSpawnError_eq_none_iff.mpr hall]

/-- Where a worker cannot be spawned, the first such worker gives the error. -/
theorem spawn_of_first (s : Server) {i : Nat} {e : SystemError}
    (hi : i < s.config.workers.toNat) (hbefore : ∀ j < i, spawnError? j = none)
    (he : spawnError? i = some e) : (s.spawn spawnError?).1 = some e := by
  unfold spawn
  simp only [firstSpawnError_of_first hi hbefore he]

/-- Spawning succeeds where no worker fails to be spawned. -/
theorem spawn_eq_none_iff (s : Server) :
    (s.spawn spawnError?).1 = none ↔ ∀ i < s.config.workers.toNat, spawnError? i = none := by
  rw [← firstSpawnError_eq_none_iff]
  unfold spawn
  dsimp only
  split
  · next heq => exact iff_of_false nofun (heq ▸ nofun)
  · next heq => exact iff_of_true rfl heq

/-- The four ends of a start. -/
theorem startIn_cases (s : Server) (spawnError? : Nat → Option SystemError)
    (ids : List ConnectionId) :
    s.stopped = true ∧ s.startIn spawnError? ids = (.error .shutdown, s) ∨
    s.stopped = false ∧ s.running = true ∧
      s.startIn spawnError? ids = (.error .alreadyRunning, s) ∨
    s.stopped = false ∧ s.running = false ∧
      (∃ e spawned, s.spawn spawnError? = (some e, spawned) ∧
        s.startIn spawnError? ids = (.error (.spawn e), spawned.run (spawned.stopStepsIn ids))) ∨
    s.stopped = false ∧ s.running = false ∧
      ∃ spawned, s.spawn spawnError? = (none, spawned) ∧
        s.startIn spawnError? ids = (.ok (), spawned) := by
  unfold startIn
  cases hstopped : s.stopped with
  | true => exact .inl ⟨rfl, rfl⟩
  | false =>
      cases hrunning : s.running with
      | true => exact .inr (.inl ⟨rfl, rfl, rfl⟩)
      | false =>
          right; right
          rcases hspawn : s.spawn spawnError? with ⟨_ | e, spawned⟩
          · exact .inr ⟨rfl, rfl, spawned, rfl, rfl⟩
          · exact .inl ⟨rfl, rfl, e, spawned, rfl, rfl⟩

/-- A start that succeeds concerns the workers only. -/
theorem eq_of_start (hstart : s.start spawnError? = (.ok (), u)) :
    u = { s with
      running := true, workers := s.config.workers.toNat
      latencies := Latencies.new s.config.workers.toNat } := by
  rcases s.startIn_cases spawnError? (s.registry.byDescriptor.map (·.2)) with
    ⟨-, heq⟩ | ⟨-, -, heq⟩ | ⟨-, -, e, spawned, -, heq⟩ | ⟨-, -, spawned, hspawn, heq⟩
  all_goals cases hstart.symm.trans heq
  have hall := s.spawn_eq_none_iff.mp (congrArg Prod.fst hspawn)
  exact (congrArg Prod.snd hspawn).symm.trans (congrArg Prod.snd (s.spawn_of_ok hall))

end Server

end MessageServer
