import MessageServer.Proofs.Registry.Generations
import MessageServer.Proofs.Server.Points
import MessageServer.Proofs.Server.Runs
import MessageServer.Proofs.Server.Sizing

/-!
# No event names a released descriptor

`Resting` is what holds of a server between its acts, and `Orderly` at all points inside them.

At any point an event of the readiness queue is an event of a connection whose socket is in use,
`Faithful`.  An event that was held back until its connection was torn down changes nothing, because
its token leads nowhere in the registry, however often the slot has been used again since, up to
where its generations have gone round.

`watches_name_connections` is the main statement.  Handlers and hooks have to be harmless for it:
`closed_while_watched` has a hook that closes a connection for good, and one that shuts its stream
down.  That a handler or a hook merely puts a connection on its way out does no harm.
-/

namespace MessageServer.Server

variable {s u s₀ : Server} {k : Nat} {c c' : Connection} {steps : List Step} {log : Log} {a : Act}
  {i : Incoming} {ids : List ConnectionId}

/-! ## Between the acts -/

/-- What holds between acts.  A server that was stopped watches nothing. -/
structure Resting (s : Server) : Prop extends Watchful (s.stopped = false) none s where
  silent : s.stopped = true → s.listening = false ∧ s.watchlist.watches = []

theorem resting_bound {config : Config} (hvalid : config.validate = .ok ()) (table : HandlerTable)
    (address : SocketAddress) (pools : Pools) : (bound config table address pools).Resting where
  sound := Registry.new_sound (Nat.lt_of_lt_pred (Config.bounds_of_valid hvalid).2.2)
  issued := rfl
  serial k c hc := by simp [connection?, bound] at hc
  once := List.nodup_singleton _
  owner w hw := .inl ⟨List.mem_singleton.mp hw, rfl⟩
  live _ k c hc := by simp [connection?, bound] at hc
  silent := nofun

namespace Resting

/-- Nothing that is watched has changed. -/
theorem beside (h : s.Resting) (hconnections : u.connections = s.connections)
    (hregistry : u.registry = s.registry) (hwatchlist : u.watchlist = s.watchlist)
    (hlistening : u.listening = s.listening) (hstopped : u.stopped = s.stopped) : u.Resting where
  toWatchful := h.toWatchful.beside hconnections hregistry hwatchlist hlistening
    fun hr => hstopped.symm.trans hr
  silent hs := by
    rw [hlistening, hwatchlist]
    exact h.silent (hstopped.symm.trans hs)

/-- A connection was worked on, and its socket is still in use. -/
theorem worked (h : s.Resting) (hwork : s.Worked k c c' u) (hstate : c.state.Spared c'.state)
    (hinUse : c'.stream.shutDown = c.stream.shutDown ∧ c'.stream.dropped = c.stream.dropped) :
    u.Resting := by
  have hfollows := Follows.worked hwork
  have hsame : ∀ j c₁, s.connection? j = some c₁ → k = j → c = c₁ := by
    rintro j c₁ hc₁ rfl
    rw [hwork.known, Option.some.injEq] at hc₁
    exact hc₁
  obtain ⟨pools, counters, latencies, rfl⟩ := hwork.frame
  refine ⟨h.toWatchful.mono hfollows h.sound id ?_ ?_ fun _ _ _ _ _ hlive => hlive, h.silent⟩
  · intro j c₁ hc₁ _ hintact
    split_ifs with hj
    · obtain rfl := hsame j c₁ hc₁ hj
      exact ⟨fun hclosed => hintact.notClosed (hstate.closed hclosed),
        hinUse.1.trans hintact.notShutDown, hinUse.2.trans hintact.notDropped⟩
    · exact hintact
  · intro j c₁ hc₁ _ hopen
    split_ifs at hopen with hj
    · rw [← hsame j c₁ hc₁ hj]
      exact hstate.opened hopen
    · exact hopen

theorem outset (h : s.Resting) (hharmless : s.table.Harmless) (hordinary : s.Ordinary a) :
    (s.outset a).Resting := by
  rcases s.outset_cases a with
    ⟨running, workers, latencies, reports, heq⟩ | ⟨k, c, c', hwork, -, hspared⟩
  · rw [heq]
    exact h.beside rfl rfl rfl rfl rfl
  · obtain ⟨hstate, hinUse⟩ := hspared hharmless hordinary
    exact h.worked hwork hstate hinUse

theorem accept (h : s.Resting) (hharmless : s.table.Harmless) (hlistening : s.listening = true)
    (hfresh : ∀ t ∈ s.registry.tickets, t.descriptor ≠ i.descriptor)
    (hinUse : i.stream.shutDown = false ∧ i.stream.dropped = false) :
    Throughout Orderly s (s.admissionSteps i) ∧ (s.run (s.admissionSteps i)).Resting := by
  have hrunning : s.stopped = false := by
    refine eq_false_of_ne_true fun hstopped => ?_
    rw [(h.silent hstopped).1] at hlistening
    cases hlistening
  have hother : ∀ t, s.registry.Live t → t.descriptor ≠ i.descriptor :=
    fun t hlive => hfresh t (h.sound.mem_tickets_iff.mpr hlive)
  obtain ⟨hpoints, hend⟩ := (h.toWatchful.imp fun _ => hrunning).admission hharmless hother hinUse
  have hfinal := s.isFinal_admissionSteps i
  refine ⟨hpoints.orderly hfinal fun _ => trivial, hend.imp fun _ => trivial, fun hstopped => ?_⟩
  rw [(s.phase_run hfinal).stopped, hrunning] at hstopped
  cases hstopped

theorem close (h : s.Resting) (hharmless : s.table.Harmless) (k : Nat) :
    Throughout Orderly s (s.closingSteps k) ∧ (s.run (s.closingSteps k)).Resting := by
  obtain ⟨hpoints, hend⟩ := h.toWatchful.closing hharmless k
  have hconcerns := s.concerns_closingSteps k
  have hfinal : ∀ step ∈ s.closingSteps k, step.isFinal = false :=
    fun step hstep => (hconcerns step hstep).isFinal_eq
  obtain ⟨hlistening, hstopped, -, -⟩ := s.phase_run hfinal
  refine ⟨hpoints.orderly hfinal id, hend.imp fun hr => hstopped.symm.trans hr, fun hs => ?_⟩
  obtain ⟨hdeaf, hempty⟩ := h.silent (hstopped.symm.trans hs)
  have hwatches := s.watches_run fun step hstep => (hconcerns step hstep).ne_watch
  rw [hempty, List.sublist_nil] at hwatches
  exact ⟨hlistening.trans hdeaf, hwatches⟩

theorem stop (h : s.Resting) (hharmless : s.table.Harmless)
    (hall : ids.Perm (s.registry.byDescriptor.map (·.2))) :
    Throughout Orderly s (s.stopStepsIn ids) ∧ (s.run (s.stopStepsIn ids)).Resting := by
  cases hstopped : s.stopped with
  | true =>
      rw [stopStepsIn, if_pos hstopped]
      exact ⟨.nil ⟨none, h.imp fun hserving => hserving.resolve_right List.not_mem_nil⟩, h⟩
  | false =>
      have hids : ∀ t, s.registry.Live t → t.id ∈ ids := fun t => h.sound.mem_of_live hall
      obtain ⟨hpoints, hend, hempty⟩ := h.toWatchful.stopping hstopped hharmless hstopped hids
      obtain ⟨hmarked, hdeaf⟩ := phase_stop hstopped ids
      refine ⟨hpoints, hend.imp fun hr => ?_, fun _ => ⟨hdeaf, hempty⟩⟩
      rw [hmarked] at hr
      cases hr

/-- Every act is orderly at all its points, and behind it the server is at rest. -/
theorem act (h : s.Resting) (hharmless : s.table.Harmless) (hpermitted : s.Permits a)
    (hordinary : s.Ordinary a) :
    Throughout Orderly (s.outset a) (s.stepsOf a) ∧ (s.perform a).Resting := by
  have houtset := h.outset hharmless hordinary
  have hnothing : Throughout Orderly (s.outset a) [] :=
    .nil ⟨none, houtset.imp fun hserving => hserving.resolve_right List.not_mem_nil⟩
  rw [perform_eq]
  cases a with
  | accept i => exact h.accept hharmless hordinary.1 hpermitted hordinary.2
  | close k => exact h.close hharmless k
  | stop ids => exact h.stop hharmless hpermitted
  | start spawnError? ids =>
      obtain ⟨htable, hregistry⟩ := s.outset_frame (.start spawnError? ids)
      rcases s.stepsOf_start spawnError? ids with hsteps | hsteps
      · rw [hsteps]
        exact ⟨hnothing, houtset⟩
      · rw [hsteps]
        exact houtset.stop (htable ▸ hharmless) (hregistry ▸ hpermitted)
  | peer k stream | drain worker clock k | housekeep elapsed => exact ⟨hnothing, houtset⟩

end Resting

/-- What a run keeps. -/
theorem Run.resting (hrun : s₀.Run log s) (hharmless : s₀.table.Harmless) (hresting : s₀.Resting)
    (hordinary : ∀ entry ∈ log, entry.1.Ordinary entry.2) :
    s.Resting ∧ s₀.registry.Moves log.history s.registry := by
  induction hrun with
  | bound => exact ⟨hresting, .refl _⟩
  | @act log s earlier a permitted ih =>
      obtain ⟨hbefore, hlast⟩ := List.forall_mem_append.mp hordinary
      obtain ⟨hrest, hmoves⟩ := ih hbefore
      have hnext := hrest.act (earlier.table_eq ▸ hharmless) permitted
        (hlast _ (List.mem_singleton_self _))
      rw [Log.history_concat]
      exact ⟨hnext.2, hmoves.trans (moves_perform hrest.sound a)⟩

/-! ## Events -/

/-- Whom an event can come from, at a point of an operation with these steps ahead. -/
structure Faithful (s : Server) (ahead : List Step) : Prop where
  once : (s.watchlist.watches.map (·.descriptor)).Nodup
  owner : ∀ w ∈ s.watchlist.watches, w ≠ listenerWatch →
    ∃ c, s.connection? c.serial = some c ∧ w.descriptor = c.descriptor ∧ w.token = c.id.toToken ∧
      c.stream.shutDown = false ∧ c.stream.dropped = false ∧
        (s.stopped = false ∨ .joinWorkers ∈ ahead →
          s.registry.get? (.ofToken w.token) = some c.toTicket ∧ c.state ≠ .closed)

theorem Orderly.faithful (h : s.Orderly steps) : s.Faithful steps := by
  obtain ⟨busy, h⟩ := h
  refine ⟨h.once, fun w hw hother => ?_⟩
  rcases h.owner w hw with ⟨hlistener, -⟩ | ⟨k, c, hc, rfl, hintact, hlive⟩
  · exact absurd hlistener hother
  · obtain rfl := h.serial k c hc
    refine ⟨c, hc, rfl, rfl, hintact.notShutDown, hintact.notDropped, fun hserving => ?_⟩
    refine ⟨?_, hintact.notClosed⟩
    rw [Ticket.watch, ConnectionId.ofToken_toToken]
    exact h.sound.get?_eq_some_iff.mpr ⟨hlive hserving, rfl⟩

/-- An event whose token leads nowhere changes nothing. -/
theorem service_of_unknown {e : Event} (hunknown : s.registry.get? (.ofToken e.token) = none)
    (worker : Nat) (clock : Nat → Readings) : s.service worker clock e = (none, s, []) := by
  refine service_of_unaddressed fun k c haddressed => ?_
  obtain ⟨t, ht, -⟩ := haddressed.token
  rw [hunknown] at ht
  cases ht

/-- Nor does an event of a connection that was released, less than a round of generations ago. -/
theorem service_of_released {r₀ : Registry} (hsound : r₀.Sound) {earlier later : List RegistryEvent}
    {t : Ticket} (hmoves : r₀.Moves (earlier ++ .opened t :: later) s.registry)
    (hreleased : .released t ∈ later)
    (hround : Registry.releases later t.id.index < UInt32.size) (worker : Nat)
    (clock : Nat → Readings) (flags : UInt32) :
    s.service worker clock ⟨t.id.toToken, flags⟩ = (none, s, []) := by
  obtain ⟨r, hr, hlive, hafter⟩ := hmoves.exists_live hsound
  have hround' : ∀ n, Registry.releases later t.id.index ≠ (n + 1) * UInt32.size := fun n =>
    Nat.ne_of_lt (Nat.lt_of_lt_of_le hround (Nat.le_mul_of_pos_left _ (Nat.succ_pos n)))
  refine service_of_unknown ?_ worker clock
  rw [ConnectionId.ofToken_toToken]
  exact (hafter.find_released hr hlive hreleased hround').1

/-- At every point of every act of every run, whatever the readiness queue watches, other than the
listening socket, is the descriptor of one connection under the token of this connection, whose
socket is neither shut down nor dropped; and until the stop has joined the workers, the token leads
to this connection, which is not closed.  Behind the stop nothing is watched.  An event of a
connection that was torn down, and whose slot was released less often than it has generations, does
nothing. -/
theorem watches_name_connections {host : Host} {config : Config} {table : HandlerTable}
    (hbind : bind host config table = .ok s₀) (hharmless : table.Harmless) (hrun : s₀.Run log s)
    (hordinary : ∀ entry ∈ log, entry.1.Ordinary entry.2) :
    (s.stopped = true → s.watchlist.watches = []) ∧
      (∀ ids, ids.Perm (s.registry.byDescriptor.map (·.2)) →
        (s.run (s.stopStepsIn ids)).stopped = true ∧
          (s.run (s.stopStepsIn ids)).watchlist.watches = []) ∧
      ∀ a, s.Permits a → s.Ordinary a → ∀ before after, s.stepsOf a = before ++ after →
        ((s.outset a).run before).Faithful after ∧
          ∀ earlier t later,
            log.history ++ (s.outset a).history before = earlier ++ .opened t :: later →
            .released t ∈ later → Registry.releases later t.id.index < UInt32.size →
              ∀ worker clock flags,
                ((s.outset a).run before).service worker clock ⟨t.id.toToken, flags⟩ =
                  (none, (s.outset a).run before, []) := by
  obtain ⟨hvalid, address, pools, rfl⟩ := eq_of_bind hbind
  have hbound := resting_bound hvalid table address pools
  obtain ⟨hrest, hmoves⟩ := hrun.resting hharmless hbound hordinary
  have hharmless : s.table.Harmless := hrun.table_eq ▸ hharmless
  refine ⟨fun hstopped => (hrest.silent hstopped).2, fun ids hall => ?_, ?_⟩
  · have hstopped := s.stopped_stop ids
    exact ⟨hstopped, ((hrest.stop hharmless hall).2.silent hstopped).2⟩
  · intro a hpermitted hordinary before after hsteps
    have hpoints := (hrest.act hharmless hpermitted hordinary).1
    refine ⟨(hpoints before after hsteps).faithful, ?_⟩
    intro earlier t later hpast hreleased hround worker clock flags
    have houtset := hrest.outset hharmless hordinary
    have hmoved := moves_run houtset.sound before
    rw [(s.outset_frame a).2] at hmoved
    have hpoint := hmoves.trans hmoved
    rw [hpast] at hpoint
    exact service_of_released hbound.sound hpoint hreleased hround worker clock flags

/-- The stop that goes through the descriptor map as it stands leaves nothing watched. -/
theorem Run.watches_stop {host : Host} {config : Config} {table : HandlerTable}
    (hbind : bind host config table = .ok s₀) (hharmless : table.Harmless) (hrun : s₀.Run log s)
    (hordinary : ∀ entry ∈ log, entry.1.Ordinary entry.2) :
    s.stop.stopped = true ∧ s.stop.listening = false ∧ s.stop.watchlist.watches = [] := by
  obtain ⟨hvalid, address, pools, rfl⟩ := eq_of_bind hbind
  have hbound := resting_bound hvalid table address pools
  obtain ⟨hrest, -⟩ := hrun.stop.resting hharmless hbound
    (List.forall_mem_append.mpr ⟨hordinary, List.forall_mem_singleton.mpr trivial⟩)
  have hstopped : s.stop.stopped = true := s.stopped_stop _
  exact ⟨hstopped, hrest.silent hstopped⟩

/-- A client connects on the descriptor and in the slot of one that has left, and begins to leave
itself: it is still watched, and the token of the first one does nothing. -/
theorem watches_name_second_connection :
    let table := HandlerTable.default
    let config : Config := { Config.default with workers := 1, poolSize := 1 }
    ∃ s₀ log s a before after, bind Host.loopback config table = .ok s₀ ∧ table.Harmless ∧
      s₀.Run log s ∧ (∀ entry ∈ log, entry.1.Ordinary entry.2) ∧ s.Permits a ∧ s.Ordinary a ∧
        s.stepsOf a = before ++ after ∧
        ((s.outset a).run before).watchlist.watches =
          [⟨5, (ConnectionId.mk 0 1).toToken, true⟩, listenerWatch] ∧
        ((s.outset a).run before).Faithful after ∧
          ∀ worker clock flags, ((s.outset a).run before).service worker clock
              ⟨(ConnectionId.mk 0 0).toToken, flags⟩ = (none, (s.outset a).run before, []) := by
  intro table config
  let socket : Incoming := ⟨5, .v4 .localhost 9000, 0, .fresh, none, none⟩
  let pool : Pool := ⟨#[⟨false, Record.zero⟩], 0⟩
  let s₀ := bound config table (.ofIp (.v4 .localhost) 8888) ⟨pool, pool⟩
  let s₁ := s₀.perform (.accept socket)
  let s₂ := s₁.perform (.close 0)
  let s₃ := s₂.perform (.accept socket)
  let log : Log := [(s₀, .accept socket), (s₁, .close 0), (s₂, .accept socket)]
  have hbind : bind Host.loopback config table = .ok s₀ := rfl
  have hharmless : table.Harmless := HandlerTable.harmless_of_default rfl rfl rfl
  have hfresh : ∀ t ∈ s₂.registry.tickets, t.descriptor ≠ socket.descriptor := by decide +kernel
  have hfirst : s₀.Run _ s₁ := Run.bound.act (.accept socket) nofun
  have hrun : s₀.Run log s₃ := (hfirst.act (.close 0) trivial).act (.accept socket) hfresh
  have hlistening : s₀.listening = true ∧ s₂.listening = true := by decide +kernel
  have hordinary : ∀ entry ∈ log, entry.1.Ordinary entry.2 :=
    List.forall_mem_cons.mpr ⟨⟨hlistening.1, rfl, rfl⟩, List.forall_mem_cons.mpr ⟨trivial,
      List.forall_mem_singleton.mpr ⟨hlistening.2, rfl, rfl⟩⟩⟩
  have hsteps : s₃.stepsOf (.close 1) = [.beginClose 1] ++ [.unwatch 1, .unregister 1,
      .shutdown 1, .markClosed 1, .notifyClosed 1, .countClosed, .drop 1] := by decide +kernel
  obtain ⟨hfaithful, hstale⟩ := (watches_name_connections hbind hharmless hrun hordinary).2.2
    (.close 1) trivial trivial _ _ hsteps
  let old : Ticket := ⟨⟨0, 0⟩, 0, 5⟩
  let young : Ticket := ⟨⟨0, 1⟩, 1, 5⟩
  refine ⟨s₀, log, s₃, .close 1, _, _, hbind, hharmless, hrun, hordinary, trivial, trivial, hsteps,
    by decide +kernel, hfaithful, ?_⟩
  refine hstale [] old [.released old, .opened young] ?_ (by decide) ?_
  · decide +kernel
  · decide +kernel

/-- A hook that closes every connection for good, and one that shuts its stream down: what it was
called on is watched, and is closed, or has its stream shut down, before any stop. -/
theorem closed_while_watched :
    let config : Config := { Config.default with workers := 1, poolSize := 1 }
    let closing : Hook := fun c => { standing := { c.standing with state := .closed } }
    let shutting : Hook := fun c => { standing := c.standing, shutsDown := true }
    let socket : Incoming := ⟨5, .v4 .localhost 9000, 0, .fresh, none, none⟩
    ∀ hook ∈ [closing, shutting], ∃ s₀ s c,
      bind Host.loopback config { HandlerTable.default with onConnect := some hook } = .ok s₀ ∧
        s₀.Run [(s₀, .accept socket)] s ∧ s₀.Ordinary (.accept socket) ∧ s.stopped = false ∧
          s.connection? 0 = some c ∧ c.toTicket.watch ∈ s.watchlist.watches ∧
            (c.state = .closed ∨ c.stream.shutDown = true) := by
  intro config closing shutting socket hook hhook
  let pool : Pool := ⟨#[⟨false, Record.zero⟩], 0⟩
  let s₀ := bound config { HandlerTable.default with onConnect := some hook }
    (.ofIp (.v4 .localhost) 8888) ⟨pool, pool⟩
  let c : Connection := Connection.treated
    ⟨⟨⟨0, 0⟩, 0, 5⟩, .v4 .localhost 9000, ⟨.active, 0, true⟩, .fresh⟩
    (hook ⟨⟨⟨0, 0⟩, 0, 5⟩, .v4 .localhost 9000, ⟨.active, 0, true⟩, .fresh⟩)
  have hrun : s₀.Run [(s₀, .accept socket)] (s₀.perform (.accept socket)) :=
    Run.bound.act (.accept socket) nofun
  refine ⟨s₀, _, c, rfl, hrun, ⟨rfl, rfl, rfl⟩, ?_⟩
  rcases List.mem_pair.mp hhook with rfl | rfl <;> decide +kernel

end MessageServer.Server
