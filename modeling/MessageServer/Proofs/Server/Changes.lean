import MessageServer.Proofs.Dispatch.Frame
import MessageServer.Proofs.Registry.History
import MessageServer.Proofs.Server.Steps

/-!
# What one step changes

A step changes at most one connection that is there already, `Step.effect`.  It never changes which
connection that is.  Where handlers and hooks do no harm, it never brings a connection back that is
on its way out, and only three steps take a socket away or close a connection for good,
`Step.breaks`.

To the registry a step does what a history of the registry can tell, `Server.events`, so the history
of a server's registry can be read off the steps of the server.

Only `watch` adds to the readiness queue.
-/

namespace MessageServer

/-- No handler and no hook changes the state of the connection that it is called on, so that only
the steps of the server do. -/
structure HandlerTable.Passive (t : HandlerTable) : Prop where
  handlers : t.KeepsState
  opens : ∀ hook, t.onConnect = some hook → ∀ c, (hook c).standing.state = c.state
  closes : ∀ hook, t.onClose = some hook → ∀ c, (hook c).standing.state = c.state

/-- From one state to the other a connection neither comes to its end nor back into service.  There
is no operation that would do the latter. -/
structure Lifecycle.Spared (before after : Lifecycle) : Prop where
  opened : after.isOpen = true → before.isOpen = true
  closed : after = .closed → before = .closed

theorem Lifecycle.Spared.refl (state : Lifecycle) : state.Spared state :=
  ⟨id, id⟩

theorem Lifecycle.Spared.trans {before between after : Lifecycle} (h : before.Spared between)
    (h' : between.Spared after) : before.Spared after :=
  ⟨fun hopen => h.opened (h'.opened hopen), fun hclosed => h.closed (h'.closed hclosed)⟩

/-- The connection may be put on its way out, but it is not closed for good, and its stream is not
shut down. -/
structure Treatment.Spares (t : Treatment) (c : Connection) : Prop where
  state : c.state.Spared t.standing.state
  stream : t.shutsDown = false

/-- No handler and no hook closes a connection for good or shuts its stream down. -/
structure HandlerTable.Harmless (t : HandlerTable) : Prop where
  handlers : ∀ type h, t.get type = some h → ∀ q : Request, (h q).Spares q.connection
  opens : ∀ hook, t.onConnect = some hook → ∀ c, (hook c).Spares c
  closes : ∀ hook, t.onClose = some hook → ∀ c, (hook c).Spares c

/-- The default handlers do no harm, and where there are no hooks, none do. -/
theorem HandlerTable.harmless_of_default {t : HandlerTable}
    (hdefault : t.handlers = HandlerTable.default.handlers) (hopens : t.onConnect = none)
    (hcloses : t.onClose = none) : t.Harmless where
  handlers type h hget q := by
    have hstate := keepsState_of_default hdefault type h hget q
    exact ⟨hstate ▸ .refl _, keepsStream_of_default hdefault type h hget q⟩
  opens := by
    rw [hopens]
    nofun
  closes := by
    rw [hcloses]
    nofun

namespace Connection

/-- The socket is in use, and the connection has not come to its end. -/
structure Intact (c : Connection) : Prop where
  notClosed : c.state ≠ .closed
  notShutDown : c.stream.shutDown = false
  notDropped : c.stream.dropped = false

variable {c : Connection} {hook? : Option Hook}

theorem told_spared (hspares : ∀ hook, hook? = some hook → ∀ c, (hook c).Spares c) :
    c.state.Spared (c.told hook?).state := by
  cases hook? with
  | none => exact .refl _
  | some hook => exact (hspares hook rfl c).state

theorem Intact.told (h : c.Intact)
    (hspares : ∀ hook, hook? = some hook → ∀ c, (hook c).Spares c) : (c.told hook?).Intact := by
  have hstream := told_stream (c := c) fun hook hhook c => (hspares hook hhook c).stream
  refine ⟨fun hclosed => h.notClosed ((told_spared hspares).closed hclosed), ?_, ?_⟩
  · rw [hstream]
    exact h.notShutDown
  · rw [hstream]
    exact h.notDropped

/-- An activation concerns a connection that was accepted just now. -/
theorem activate_cases (c : Connection) :
    c.activate.2 = c ∨ c.state = .accepted ∧ c.activate.2 = c.withState .active := by
  unfold activate
  cases hstate : c.state with
  | accepted => exact .inr ⟨rfl, rfl⟩
  | active | closing | closed => exact .inl rfl

theorem beginClose_cases (c : Connection) :
    c.state.isOpen = false ∧ c.beginClose.2 = c ∨
      c.state.isOpen = true ∧ c.beginClose.2 = c.withState .closing := by
  unfold beginClose
  cases hopen : c.state.isOpen with
  | false => exact .inl ⟨rfl, rfl⟩
  | true => exact .inr ⟨rfl, rfl⟩

end Connection

namespace Step

/-- The connection that a step changes. -/
def target? : Step → Option Nat
  | activate k | notifyOpened k | beginClose k | shutdown k | markClosed k | notifyClosed k
  | drop k => some k
  | register _ | countOpened | watch _ | unwatch _ | unregister _ | countClosed | halt
  | closeListener | joinWorkers | drain _ => none

/-- What a step makes of the connection that it changes. -/
def change (table : HandlerTable) (c : Connection) : Step → Connection
  | activate _ => c.activate.2
  | notifyOpened _ => c.told table.onConnect
  | beginClose _ => c.beginClose.2
  | shutdown _ => c.shutdown
  | markClosed _ => c.markClosed
  | notifyClosed _ => c.told table.onClose
  | drop _ => { c with stream := c.stream.drop }
  | register _ | countOpened | watch _ | unwatch _ | unregister _ | countClosed | halt
  | closeListener | joinWorkers | drain _ => c

/-- What a step makes of the connection with a serial number. -/
def effect (table : HandlerTable) (k : Nat) (c : Connection) (step : Step) : Connection :=
  if step.target? = some k then step.change table c else c

/-- The step takes the socket away, or closes the connection for good. -/
def breaks : Step → Bool
  | shutdown _ | markClosed _ | drop _ => true
  | _ => false

/-- The step takes a connection out of service. -/
def ends : Step → Bool
  | beginClose _ | markClosed _ => true
  | _ => false

/-- Only the stop takes this step. -/
def isFinal : Step → Bool
  | halt | closeListener | joinWorkers | drain _ => true
  | _ => false

/-- The step is about one connection, or about their number, and adds nothing anywhere. -/
def Concerns (k : Nat) : Step → Prop
  | activate j | notifyOpened j | unwatch j | unregister j | beginClose j | shutdown j
  | markClosed j | notifyClosed j | drop j => j = k
  | countOpened | countClosed => True
  | register _ | watch _ | halt | closeListener | joinWorkers | drain _ => False

variable {table : HandlerTable} {k j : Nat} {c : Connection} {step : Step}

/-- A connection stays the one that it is. -/
theorem effect_ticket (table : HandlerTable) (k : Nat) (c : Connection) (step : Step) :
    (step.effect table k c).toTicket = c.toTicket := by
  unfold effect
  split_ifs
  · cases step with
    | activate j =>
        rcases c.activate_cases with heq | ⟨-, heq⟩
        · exact congrArg Connection.toTicket heq
        · exact (congrArg Connection.toTicket heq).trans rfl
    | beginClose j =>
        rcases c.beginClose_cases with ⟨-, heq⟩ | ⟨-, heq⟩
        · exact congrArg Connection.toTicket heq
        · exact (congrArg Connection.toTicket heq).trans rfl
    | notifyOpened j | notifyClosed j => exact c.told_ticket _
    | _ => rfl
  · rfl

/-- A connection that is on its way out does not come back. -/
theorem isOpen_of_effect (hharmless : table.Harmless)
    (hopen : (step.effect table k c).state.isOpen = true) :
    c.state.isOpen = true ∧ (step.target? = some k → step.ends = false) := by
  unfold effect at hopen
  split_ifs at hopen with htarget
  · cases step with
    | activate j =>
        rw [change] at hopen
        refine ⟨?_, fun _ => rfl⟩
        rcases c.activate_cases with heq | ⟨haccepted, -⟩
        · rwa [heq] at hopen
        · rw [haccepted]
          rfl
    | beginClose j =>
        rw [change] at hopen
        rcases c.beginClose_cases with ⟨hshut, heq⟩ | ⟨-, heq⟩
        · rw [heq, hshut] at hopen
          cases hopen
        · rw [heq] at hopen
          cases hopen
    | markClosed j => cases hopen
    | notifyOpened j => exact ⟨(Connection.told_spared hharmless.opens).opened hopen, fun _ => rfl⟩
    | notifyClosed j =>
        exact ⟨(Connection.told_spared hharmless.closes).opened hopen, fun _ => rfl⟩
    | _ => exact ⟨hopen, fun _ => rfl⟩
  · exact ⟨hopen, fun heq => absurd heq htarget⟩

/-- Up to the shutdown nothing happens to the socket. -/
theorem intact_effect (hharmless : table.Harmless) (hc : c.Intact) (hkeeps : step.breaks = false) :
    (step.effect table k c).Intact := by
  have hstate : ∀ state, state ≠ .closed → (c.withState state).Intact :=
    fun state hne => ⟨hne, hc.notShutDown, hc.notDropped⟩
  unfold effect
  split_ifs
  · cases step with
    | activate j =>
        rw [change]
        rcases c.activate_cases with heq | ⟨-, heq⟩
        · rwa [heq]
        · rw [heq]
          exact hstate _ nofun
    | beginClose j =>
        rw [change]
        rcases c.beginClose_cases with ⟨-, heq⟩ | ⟨-, heq⟩
        · rwa [heq]
        · rw [heq]
          exact hstate _ nofun
    | notifyOpened j => exact hc.told hharmless.opens
    | notifyClosed j => exact hc.told hharmless.closes
    | shutdown j | markClosed j | drop j => cases hkeeps
    | _ => exact hc
  · exact hc

theorem Concerns.ne_register (hstep : step.Concerns k) : ∀ o, step ≠ .register o := by
  rintro o rfl
  exact hstep

theorem Concerns.ne_watch (hstep : step.Concerns k) : ∀ j, step ≠ .watch j := by
  rintro j rfl
  exact hstep

theorem Concerns.isFinal_eq (hstep : step.Concerns k) : step.isFinal = false := by
  cases step with
  | halt | closeListener | joinWorkers | drain _ => exact hstep.elim
  | _ => rfl

theorem Concerns.target (hstep : step.Concerns k) {j : Nat} (hj : step.target? = some j) :
    j = k := by
  cases step with
  | activate i | notifyOpened i | beginClose i | shutdown i | markClosed i | notifyClosed i
  | drop i => exact (Option.some.inj hj).symm.trans hstep
  | _ => cases hj

theorem effect_of_ne (hstep : step.Concerns j) (hk : j ≠ k) : step.effect table k c = c :=
  if_neg fun htarget => hk (hstep.target htarget).symm

end Step

namespace Server

variable {s : Server} {k j : Nat} {c : Connection} {step : Step}

/-! ## Connections -/

theorem connection?_notify (s : Server) (phase : HookPhase) (hook? : Option Hook) (k j : Nat) :
    (s.notify phase hook? k).connection? j =
      (s.connection? j).map fun c => if some k = some j then c.told hook? else c := by
  cases hook? with
  | none =>
      simp only [notify, Connection.told, ite_self]
      exact Option.map_id'.symm
  | some hook =>
      cases hc : s.connection? k with
      | none =>
          simp only [notify, hc]
          cases hj : s.connection? j with
          | none => rfl
          | some c =>
              have hne : some k ≠ some j := by
                rintro ⟨⟩
                rw [hc] at hj
                cases hj
              rw [Option.map_some, if_neg hne]
      | some c =>
          rw [notify_eq hc]
          change (s.put k (c.treated (hook c))).connection? j = _
          rw [connection?_put hc]
          by_cases hk : k = j
          · subst hk
            rw [if_pos rfl, hc, Option.map_some, if_pos rfl]
            rfl
          · simp only [hk, Option.some.injEq, if_false]
            exact Option.map_id'.symm

/-- What a step makes of the connections that are there. -/
theorem connection?_apply (s : Server) (hstep : ∀ o, step ≠ .register o) (k : Nat) :
    (s.apply step).connection? k = (s.connection? k).map fun c => step.effect s.table k c := by
  have hupdate : ∀ j f, (s.updateConnection j f).connection? k =
      (s.connection? k).map fun c => if some j = some k then f c else c := by
    intro j f
    rw [connection?_updateConnection]
    by_cases hj : j = k
    · simp only [hj, if_true]
    · simp only [hj, Option.some.injEq, if_false]
      exact Option.map_id'.symm
  have hkept : (s.apply step).connections = s.connections →
      (∀ c, step.effect s.table k c = c) →
      (s.apply step).connection? k = (s.connection? k).map fun c => step.effect s.table k c := by
    intro hconnections heffect
    simp only [heffect, connection?, hconnections]
    exact Option.map_id'.symm
  cases step with
  | register o => exact absurd rfl (hstep o)
  | activate j | beginClose j | shutdown j | markClosed j | drop j => exact hupdate j _
  | notifyOpened j | notifyClosed j => exact connection?_notify s _ _ j k
  | watch j =>
      obtain ⟨watchlist, heq⟩ := s.apply_watch j
      exact hkept (by rw [heq]) fun _ => rfl
  | unregister j =>
      refine hkept ?_ fun _ => rfl
      simp only [apply]
      split <;> rfl
  | closeListener =>
      obtain ⟨listening, watchlist, heq⟩ := s.apply_closeListener
      exact hkept (by rw [heq]) fun _ => rfl
  | joinWorkers =>
      obtain ⟨latencies, reports, heq⟩ := s.apply_joinWorkers
      exact hkept (by rw [heq]) fun _ => rfl
  | countOpened | unwatch _ | countClosed | halt | drain _ => exact hkept rfl fun _ => rfl

/-- There are as many connections as before if each of them has become another one. -/
theorem size_eq_of_map {u : Server} {f : Nat → Connection → Connection}
    (h : ∀ k, u.connection? k = (s.connection? k).map (f k)) :
    u.connections.size = s.connections.size := by
  have hsize : ∀ k, u.connections.size ≤ k ↔ s.connections.size ≤ k := by
    intro k
    have hnone : u.connection? k = none ↔ s.connection? k = none := by
      rw [h, Option.map_eq_none_iff]
    exact Array.getElem?_eq_none_iff.symm.trans (hnone.trans Array.getElem?_eq_none_iff)
  exact Nat.le_antisymm ((hsize _).mpr (Nat.le_refl _)) ((hsize _).mp (Nat.le_refl _))

/-- A registration that succeeds puts a connection behind the others. -/
theorem apply_register {o : Opening} {r : Registry}
    (hregister : s.registry.register o = (.ok c, r)) :
    s.apply (.register o) = { s with registry := r, connections := s.connections.push c } := by
  simp only [apply, hregister]

/-! ## The registry -/

/-- The ids that a step makes the registry give up. -/
def givenUp (s : Server) : Step → List ConnectionId
  | .unregister k => ((s.connection? k).map (·.id)).toList
  | .drain ids => ids
  | .register _ | .activate _ | .notifyOpened _ | .countOpened | .watch _ | .unwatch _
  | .beginClose _ | .shutdown _ | .markClosed _ | .notifyClosed _ | .countClosed | .drop _ | .halt
  | .closeListener | .joinWorkers => []

/-- What a step adds to the history of the registry. -/
def events (s : Server) : Step → List RegistryEvent
  | .register o => s.registry.registration o
  | step => (s.registry.releaseAll (s.givenUp step)).1.map .released

/-- What steps add to the history of the registry, one after the other. -/
def history (s : Server) : List Step → List RegistryEvent
  | [] => []
  | step :: steps => s.events step ++ (s.apply step).history steps

theorem registry_apply (s : Server) (hstep : ∀ o, step ≠ .register o) :
    (s.apply step).registry = (s.registry.releaseAll (s.givenUp step)).2 := by
  cases step with
  | register o => exact absurd rfl (hstep o)
  | unregister k =>
      simp only [apply, givenUp]
      cases s.connection? k <;> rfl
  | notifyOpened k =>
      obtain ⟨connections, calls, heq⟩ := s.notify_frame .opened s.table.onConnect k
      rw [apply, heq]
      rfl
  | notifyClosed k =>
      obtain ⟨connections, calls, heq⟩ := s.notify_frame .closed s.table.onClose k
      rw [apply, heq]
      rfl
  | watch k =>
      obtain ⟨watchlist, heq⟩ := s.apply_watch k
      rw [heq]
      rfl
  | closeListener =>
      obtain ⟨listening, watchlist, heq⟩ := s.apply_closeListener
      rw [heq]
      rfl
  | joinWorkers =>
      obtain ⟨latencies, reports, heq⟩ := s.apply_joinWorkers
      rw [heq]
      rfl
  | activate _ | unwatch _ | beginClose _ | shutdown _ | markClosed _ | drop _ | countOpened
  | countClosed | halt | drain _ => rfl

theorem givenUp_of_concerns (s : Server) (hstep : step.Concerns k) {id : ConnectionId}
    (hid : id ∈ s.givenUp step) :
    step = .unregister k ∧ ∃ c, s.connection? k = some c ∧ c.id = id := by
  cases step with
  | unregister j =>
      obtain rfl : j = k := hstep
      rw [givenUp, Option.mem_toList, Option.map_eq_some_iff] at hid
      exact ⟨rfl, hid⟩
  | drain ids => exact hstep.elim
  | _ => cases hid

theorem moves_apply (h : s.registry.Sound) (step : Step) :
    s.registry.Moves (s.events step) (s.apply step).registry := by
  by_cases hregister : ∃ o, step = .register o
  · obtain ⟨o, rfl⟩ := hregister
    have hregistry : (s.apply (.register o)).registry = (s.registry.register o).2 := by
      simp only [apply]
      split <;> rfl
    rw [hregistry]
    exact h.moves_register o
  · have hstep : ∀ o, step ≠ .register o := fun o heq => hregister ⟨o, heq⟩
    have hevents : s.events step = (s.registry.releaseAll (s.givenUp step)).1.map .released := by
      cases step with
      | register o => exact absurd rfl (hstep o)
      | _ => rfl
    rw [hevents, s.registry_apply hstep]
    exact h.moves_releaseAll _

theorem moves_run (h : s.registry.Sound) (steps : List Step) :
    s.registry.Moves (s.history steps) (s.run steps).registry := by
  induction steps generalizing s with
  | nil => exact .refl _
  | cons step steps ih =>
      have hfirst := moves_apply h step
      exact hfirst.trans (ih (hfirst.sound h))

/-! ## The readiness queue -/

theorem unwatched_sublist (s : Server) (k : Nat) :
    (s.unwatched k).watches.Sublist s.watchlist.watches := by
  unfold unwatched
  split
  · exact .refl _
  · exact List.filter_sublist

/-- Only one step adds to the readiness queue. -/
theorem watches_apply (s : Server) (hstep : ∀ k, step ≠ .watch k) :
    (s.apply step).watchlist.watches.Sublist s.watchlist.watches := by
  cases step with
  | watch k => exact absurd rfl (hstep k)
  | unwatch k | drop k => exact s.unwatched_sublist k
  | closeListener =>
      simp only [apply]
      split
      · exact List.filter_sublist
      · exact .refl _
  | register o =>
      simp only [apply]
      split <;> exact .refl _
  | unregister k =>
      simp only [apply]
      split <;> exact .refl _
  | notifyOpened k =>
      obtain ⟨connections, calls, heq⟩ := s.notify_frame .opened s.table.onConnect k
      rw [apply, heq]
  | notifyClosed k =>
      obtain ⟨connections, calls, heq⟩ := s.notify_frame .closed s.table.onClose k
      rw [apply, heq]
  | joinWorkers =>
      obtain ⟨latencies, reports, heq⟩ := s.apply_joinWorkers
      rw [heq]
  | activate _ | beginClose _ | shutdown _ | markClosed _ | countOpened | countClosed | halt
  | drain _ => exact .refl _

/-! ## The phase -/

/-- Nothing was started or stopped. -/
structure SamePhase (s u : Server) : Prop where
  listening : u.listening = s.listening
  stopped : u.stopped = s.stopped
  running : u.running = s.running
  workers : u.workers = s.workers

theorem SamePhase.refl (s : Server) : s.SamePhase s :=
  ⟨rfl, rfl, rfl, rfl⟩

theorem SamePhase.trans {t u : Server} (h : s.SamePhase t) (h' : t.SamePhase u) : s.SamePhase u :=
  ⟨h'.listening.trans h.listening, h'.stopped.trans h.stopped, h'.running.trans h.running,
    h'.workers.trans h.workers⟩

/-- The phase is changed by the stop alone. -/
theorem phase_apply (s : Server) (hstep : step.isFinal = false) : s.SamePhase (s.apply step) := by
  cases step with
  | halt | closeListener | joinWorkers | drain _ => cases hstep
  | watch k =>
      obtain ⟨watchlist, heq⟩ := s.apply_watch k
      rw [heq]
      exact ⟨rfl, rfl, rfl, rfl⟩
  | notifyOpened k =>
      obtain ⟨connections, calls, heq⟩ := s.notify_frame .opened s.table.onConnect k
      rw [apply, heq]
      exact ⟨rfl, rfl, rfl, rfl⟩
  | notifyClosed k =>
      obtain ⟨connections, calls, heq⟩ := s.notify_frame .closed s.table.onClose k
      rw [apply, heq]
      exact ⟨rfl, rfl, rfl, rfl⟩
  | register o | unregister k =>
      simp only [apply]
      split <;> exact ⟨rfl, rfl, rfl, rfl⟩
  | activate _ | unwatch _ | beginClose _ | shutdown _ | markClosed _ | drop _ | countOpened
  | countClosed => exact ⟨rfl, rfl, rfl, rfl⟩

end Server

end MessageServer
