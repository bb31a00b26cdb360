import MessageServer.Proofs.Registry.Registration
import MessageServer.Proofs.Server.Steps

/-!
# The books of a server

Between two operations of a server the registry, the connections it remembers, the counters and the
calls of the hooks agree.  `Server.Settled` says how: every connection is either active and live or
closed and not live, and each of the four numbers follows from the number of live connections and
the number of connections at all.

Three changes keep the books in order, and every operation consists of them.

* `Settled.enter`: a connection is let in.
* `Settled.retire`: an active connection is taken down.
* `Settled.worked`: a connection is worked on without a change of its state.

`Settled.stop` is the fold of `Settled.retire` over the connections that the stop finds.
-/

namespace MessageServer

/-- The hook was called for an opening. -/
def HookCall.isOpening (h : HookCall) : Bool :=
  h.phase == .opened

/-- The hook was called for a closing. -/
def HookCall.isClosing (h : HookCall) : Bool :=
  h.phase == .closed

/-- The connection was registered. -/
def Admission.isRegistered : Admission → Bool
  | admitted _ | unwatched _ => true
  | refused _ | unconfigured _ => false

def Connection.isClosed (c : Connection) : Bool :=
  c.state == .closed

namespace Counters

/-- A closing takes one off the active connections, unless there are none. -/
theorem active_connectionClosed (c : Counters) :
    c.connectionClosed.active.toNat = c.active.toNat - 1 := by
  unfold connectionClosed
  split_ifs with hnone
  · rw [hnone]
    rfl
  · have hone : (1 : UInt64) ≤ c.active := by
      rw [UInt64.le_iff_toNat_le]
      exact Nat.pos_of_ne_zero fun hzero => hnone (UInt64.toNat_inj.mp hzero)
    exact UInt64.toNat_sub_of_le _ _ hone

/-- A closing leaves the other counts of connections alone. -/
theorem others_connectionClosed (c : Counters) :
    c.connectionClosed.peak = c.peak ∧ c.connectionClosed.connections = c.connections := by
  unfold connectionClosed
  split_ifs
  · exact ⟨rfl, rfl⟩
  · exact ⟨rfl, rfl⟩

end Counters

namespace Server

variable {s : Server} {k : Nat} {c c' : Connection} {call : HookCall}

/-- What the parts of a server have to do with each other when no operation is under way. -/
structure Settled (s : Server) : Prop where
  sound : s.registry.Sound
  issued : s.registry.issued = s.connections.size
  serial : ∀ k c, s.connection? k = some c → c.serial = k
  standing : ∀ k c, s.connection? k = some c →
    c.state = .active ∧ s.registry.Live c.toTicket ∨
      c.state = .closed ∧ ¬ s.registry.Live c.toTicket
  known : ∀ t, s.registry.Live t → ∃ c, s.connection? t.serial = some c ∧ c.toTicket = t
  active : s.counters.active.toNat = s.registry.live
  total : s.counters.connections = UInt64.ofNat s.connections.size
  opened : s.calls.countP HookCall.isOpening = s.connections.size
  closed : s.calls.countP HookCall.isClosing + s.registry.live = s.connections.size

namespace Settled

theorem live_of_active (h : s.Settled) (hc : s.connection? k = some c)
    (hactive : c.state = .active) : s.registry.Live c.toTicket := by
  rcases h.standing k c hc with ⟨-, hlive⟩ | ⟨hclosed, -⟩
  · exact hlive
  · rw [hactive] at hclosed
    cases hclosed

theorem active_of_live (h : s.Settled) (hc : s.connection? k = some c)
    (hlive : s.registry.Live c.toTicket) : c.state = .active := by
  rcases h.standing k c hc with ⟨hactive, -⟩ | ⟨-, hdead⟩
  · exact hactive
  · exact absurd hlive hdead

theorem active_of_isOpen (h : s.Settled) (hc : s.connection? k = some c)
    (hopen : c.state.isOpen = true) : c.state = .active := by
  rcases h.standing k c hc with ⟨hactive, -⟩ | ⟨hclosed, -⟩
  · exact hactive
  · rw [hclosed] at hopen
    cases hopen

/-! ## Taking a connection down -/

theorem retire (h : s.Settled) (hc : s.connection? k = some c) (hactive : c.state = .active)
    (hticket : c'.toTicket = c.toTicket) (hclosed : c'.state = .closed)
    (hcall : call.phase = .closed) (watchlist : Watchlist) :
    Settled { s.put k c' with
      watchlist, registry := s.registry.without c.toTicket
      counters := s.counters.connectionClosed, calls := s.calls ++ [call] } := by
  have hlive := h.live_of_active hc hactive
  have hserial := h.serial k c hc
  have hplace : ∀ j c₁, (s.put k c').connection? j = some c₁ →
      k = j ∧ c₁ = c' ∨ k ≠ j ∧ s.connection? j = some c₁ := by
    intro j c₁ hc₁
    rw [connection?_put hc] at hc₁
    split_ifs at hc₁ with hj
    · exact .inl ⟨hj, (Option.some.inj hc₁).symm⟩
    · exact .inr ⟨hj, hc₁⟩
  refine
    { sound := h.sound.without hlive
      issued := h.issued.trans (size_put s k c').symm
      serial := fun j c₁ hc₁ => ?_
      standing := fun j c₁ hc₁ => ?_
      known := fun t ht => ?_
      active := ?_
      total := ?_
      opened := ?_
      closed := ?_ }
  · rcases hplace j c₁ hc₁ with ⟨rfl, rfl⟩ | ⟨-, hold⟩
    · rw [hticket]
      exact hserial
    · exact h.serial j c₁ hold
  · change _ ∧ (s.registry.without c.toTicket).Live c₁.toTicket ∨
      _ ∧ ¬ (s.registry.without c.toTicket).Live c₁.toTicket
    rw [Registry.live_without_iff hlive]
    rcases hplace j c₁ hc₁ with ⟨rfl, rfl⟩ | ⟨hj, hold⟩
    · exact .inr ⟨hclosed, fun hboth => hboth.2 hticket⟩
    · have hother : c₁.toTicket ≠ c.toTicket := by
        intro heq
        exact hj (hserial.symm.trans ((congrArg Ticket.serial heq).symm.trans (h.serial j c₁ hold)))
      rcases h.standing j c₁ hold with ⟨hstate, hlive₁⟩ | ⟨hstate, hdead⟩
      · exact .inl ⟨hstate, hlive₁, hother⟩
      · exact .inr ⟨hstate, fun hboth => hdead hboth.1⟩
  · obtain ⟨hlive₁, hother⟩ := (Registry.live_without_iff hlive).mp ht
    obtain ⟨c₁, hc₁, rfl⟩ := h.known t hlive₁
    have hj : k ≠ c₁.serial := by
      rintro rfl
      rw [hc, Option.some.injEq] at hc₁
      exact hother (hc₁ ▸ rfl)
    refine ⟨c₁, ?_, rfl⟩
    change (s.put k c').connection? c₁.serial = some c₁
    rw [connection?_put hc, if_neg hj]
    exact hc₁
  · exact s.counters.active_connectionClosed.trans (congrArg (· - 1) h.active)
  · rw [size_put, ← h.total]
    exact s.counters.others_connectionClosed.2
  · have hnot : call.isOpening = false := by
      rw [HookCall.isOpening, hcall]
      rfl
    change (s.calls ++ [call]).countP _ = _
    rw [List.countP_append, List.countP_singleton, hnot, size_put]
    exact h.opened
  · have hyes : call.isClosing = true := by
      rw [HookCall.isClosing, hcall]
      rfl
    have hpos := h.sound.live_pos hlive
    change (s.calls ++ [call]).countP _ + (s.registry.live - 1) = _
    rw [List.countP_append, List.countP_singleton, hyes, size_put, if_pos rfl, ← h.closed]
    omega

/-! ## Letting a connection in -/

theorem enter (h : s.Settled) {o : Opening} (hroom : s.registry.live < s.registry.capacity)
    (hunmapped : s.registry.mapped? o.descriptor = none)
    (hticket : c'.toTicket = (s.registry.enter o).1.toTicket) (hactive : c'.state = .active)
    (hcall : call.phase = .opened) (watchlist : Watchlist) :
    Settled { s with
      watchlist, registry := (s.registry.enter o).2, connections := s.connections.push c'
      counters := s.counters.connectionOpened, calls := s.calls ++ [call] } := by
  have hserial : c'.serial = s.connections.size := by
    rw [hticket, Registry.enter_serial, h.issued]
  refine
    { sound := h.sound.enter hroom hunmapped
      issued := ?_
      serial := fun j c₁ hc₁ => ?_
      standing := fun j c₁ hc₁ => ?_
      known := fun t ht => ?_
      active := ?_
      total := ?_
      opened := ?_
      closed := ?_ }
  · rw [Array.size_push, Registry.issued_enter, h.issued]
  · rcases connection?_push hc₁ with ⟨rfl, rfl⟩ | ⟨-, hold⟩
    · exact hserial
    · exact h.serial j c₁ hold
  · rw [h.sound.live_enter_iff hroom, ← hticket]
    rcases connection?_push hc₁ with ⟨rfl, rfl⟩ | ⟨hj, hold⟩
    · exact .inl ⟨hactive, .inl rfl⟩
    · have hother : c₁.toTicket ≠ c'.toTicket := by
        intro heq
        have hsame := congrArg Ticket.serial heq
        rw [h.serial j c₁ hold, hserial] at hsame
        exact absurd hsame (Nat.ne_of_lt hj)
      rcases h.standing j c₁ hold with ⟨hstate, hlive⟩ | ⟨hstate, hdead⟩
      · exact .inl ⟨hstate, .inr hlive⟩
      · exact .inr ⟨hstate, fun hnew => hnew.elim hother hdead⟩
  · rcases (h.sound.live_enter_iff hroom).mp ht with rfl | hlive
    · refine ⟨c', ?_, hticket⟩
      rw [← hticket, hserial]
      exact Array.getElem?_push_size
    · obtain ⟨c₁, hc₁, rfl⟩ := h.known t hlive
      exact ⟨c₁, connection?_push_of_lt hc₁, rfl⟩
  · -- the count of active connections is below the capacity, far from the end of the word
    have hcapacity := h.sound.capacity_lt
    rw [Registry.live_enter]
    change (s.counters.active + 1).toNat = _
    rw [UInt64.toNat_add, h.active]
    refine Nat.mod_eq_of_lt ?_
    simp only [UInt32.size, UInt64.toNat_one] at *
    omega
  · change s.counters.connections + 1 = UInt64.ofNat (s.connections.push c').size
    rw [Array.size_push, UInt64.ofNat_add, h.total]
    rfl
  · have hyes : call.isOpening = true := by
      rw [HookCall.isOpening, hcall]
      rfl
    rw [List.countP_append, List.countP_singleton, hyes, Array.size_push, h.opened]
    rfl
  · have hnot : call.isClosing = false := by
      rw [HookCall.isClosing, hcall]
      rfl
    rw [List.countP_append, List.countP_singleton, hnot, Array.size_push, Registry.live_enter,
      ← h.closed]
    simp only [Bool.false_eq_true, if_false]
    omega

/-! ## Everything else -/

/-- Nothing that the books are about has changed. -/
theorem congr {u : Server} (h : s.Settled) (hregistry : u.registry = s.registry)
    (hsize : u.connections.size = s.connections.size)
    (hconnections : ∀ j c', u.connection? j = some c' →
      ∃ c, s.connection? j = some c ∧ c'.toTicket = c.toTicket ∧ c'.state = c.state)
    (hcalls : u.calls = s.calls) (hactive : u.counters.active = s.counters.active)
    (htotal : u.counters.connections = s.counters.connections) : u.Settled where
  sound := hregistry ▸ h.sound
  issued := by rw [hregistry, hsize, h.issued]
  serial j c' hc' := by
    obtain ⟨c, hc, hticket, -⟩ := hconnections j c' hc'
    rw [hticket]
    exact h.serial j c hc
  standing j c' hc' := by
    obtain ⟨c, hc, hticket, hstate⟩ := hconnections j c' hc'
    rw [hregistry, hticket, hstate]
    exact h.standing j c hc
  known t ht := by
    rw [hregistry] at ht
    obtain ⟨c, hc, rfl⟩ := h.known t ht
    have hplace : c.serial < u.connections.size := hsize ▸ lt_size_of_connection? hc
    obtain ⟨c₁, hc₁, hticket, -⟩ := hconnections _ _ (Array.getElem?_eq_getElem hplace)
    rw [hc, Option.some.injEq] at hc₁
    exact ⟨_, Array.getElem?_eq_getElem hplace, hticket.trans (congrArg _ hc₁.symm)⟩
  active := by rw [hactive, hregistry, h.active]
  total := by rw [htotal, hsize, h.total]
  opened := by rw [hcalls, hsize, h.opened]
  closed := by rw [hcalls, hregistry, hsize, h.closed]

/-- A connection was worked on. -/
theorem worked {u : Server} (h : s.Settled) (hwork : s.Worked k c c' u)
    (hstate : c'.state = c.state) : u.Settled := by
  obtain ⟨pools, counters, latencies, rfl⟩ := hwork.frame
  refine h.congr rfl (size_put s k c') (fun j c₁ hc₁ => ?_) rfl hwork.active hwork.total
  have hput : (s.put k c').connection? j = some c₁ := hc₁
  rw [connection?_put hwork.known] at hput
  split_ifs at hput with hj
  · subst hj
    obtain rfl := Option.some.inj hput
    exact ⟨c, hwork.known, hwork.ticket, hstate⟩
  · exact ⟨c₁, hput, rfl, rfl⟩

/-! ## The stop -/

/-- How a connection is closed by the stop is up to this connection alone. -/
theorem abandonSteps_congr {u : Server} {t : Ticket}
    (hsame : u.connection? t.serial = s.connection? t.serial) :
    u.abandonSteps t = s.abandonSteps t := by
  simp only [abandonSteps, hsame]

/-- Behind a connection that was taken out of the registry, all live ones are others. -/
theorem serial_ne_of_live_without (h : s.Settled) (hc : s.connection? c.serial = some c)
    (hlive : s.registry.Live c.toTicket) {t : Ticket}
    (ht : (s.registry.without c.toTicket).Live t) : c.serial ≠ t.serial := by
  intro heq
  obtain ⟨hlive', hother⟩ := (Registry.live_without_iff hlive).mp ht
  obtain ⟨c', hc', rfl⟩ := h.known t hlive'
  rw [← heq, hc, Option.some.injEq] at hc'
  exact hother (congrArg Connection.toTicket hc'.symm)

/-- One of the connections that the registry let go of is closed.  What the registry is left with
makes no difference. -/
theorem abandon (h : s.Settled) (hooked : s.table.Hooked) (hc : s.connection? c.serial = some c)
    (hactive : c.state = .active) (left : Registry) :
    ∃ next : Server, next.Settled ∧ next.table = s.table ∧
      next.registry = s.registry.without c.toTicket ∧
      next.connections.size = s.connections.size ∧
      (∀ k, c.serial ≠ k → next.connection? k = s.connection? k) ∧
      run { s with registry := left } (s.abandonSteps c.toTicket) =
        { next with registry := left } := by
  have hopen : c.state.isOpen = true := by
    rw [hactive]
    rfl
  obtain ⟨c', watchlist, call, hrun, hticket, hclosed, hcall⟩ :=
    run_abandoning (s := { s with registry := left }) hooked hc hopen
  refine ⟨_, h.retire hc hactive hticket hclosed hcall watchlist, rfl, rfl, size_put s _ c',
    fun k hk => ?_, hrun⟩
  exact (connection?_put hc c' k).trans (if_neg hk)

/-- The registry lets go of the connections with these ids, and then each of them is closed. -/
theorem run_abandonAll (h : s.Settled) (hooked : s.table.Hooked) (ids : List ConnectionId) :
    let stopped := run { s with registry := (s.registry.releaseAll ids).2 }
      ((s.registry.releaseAll ids).1.flatMap s.abandonSteps)
    stopped.Settled ∧ stopped.connections.size = s.connections.size := by
  induction ids generalizing s with
  | nil => exact ⟨h, rfl⟩
  | cons id ids ih =>
      rcases h.sound.release_cases id with ⟨-, hrelease⟩ | ⟨t, hlive, -, hrelease⟩
      · have hall : s.registry.releaseAll (id :: ids) = s.registry.releaseAll ids := by
          rw [Registry.releaseAll, hrelease]
          rfl
        rw [hall]
        exact ih h hooked
      · obtain ⟨c, hc, rfl⟩ := h.known t hlive
        have hactive := h.active_of_live hc hlive
        let rest := (s.registry.without c.toTicket).releaseAll ids
        have hall : s.registry.releaseAll (id :: ids) = (c.toTicket :: rest.1, rest.2) := by
          rw [Registry.releaseAll, hrelease]
          rfl
        -- `next` is the server in which this connection was taken down, registry and all; the
        -- others are closed there as they would be closed here
        obtain ⟨next, hnext, htable, hregistry, hsize, hothers, hrun⟩ :=
          h.abandon hooked hc hactive rest.2
        have hsteps : rest.1.flatMap s.abandonSteps = rest.1.flatMap next.abandonSteps := by
          refine List.flatMap_congr fun t ht => (abandonSteps_congr ?_).symm
          have hrest := ((h.sound.without hlive).mem_releaseAll_iff.mp ht).1
          exact hothers t.serial (h.serial_ne_of_live_without hc hlive hrest)
        have hlater := ih hnext (htable ▸ hooked)
        rw [hregistry] at hlater
        rw [hall]
        dsimp only
        rw [List.flatMap_cons, run_append, hrun, hsteps]
        exact ⟨hlater.1, hlater.2.trans hsize⟩

theorem stop (h : s.Settled) (hooked : s.table.Hooked) (ids : List ConnectionId) :
    Settled (s.run (s.stopStepsIn ids)) ∧
      (s.run (s.stopStepsIn ids)).connections.size = s.connections.size := by
  unfold stopStepsIn
  split_ifs
  · exact ⟨h, rfl⟩
  · -- up to the drain, nothing happens that the books are about
    obtain ⟨listening, watchlist, latencies, reports, hhalting⟩ := s.run_halting
    let halted : Server := { s with
      running := false, stopped := true, listening, workers := 0, watchlist, latencies, reports }
    have hhalted : halted.Settled :=
      h.congr rfl rfl (fun _ c hc => ⟨c, hc, rfl, rfl⟩) rfl rfl rfl
    have hrun : s.run ([.halt, .closeListener, .joinWorkers, .drain ids] ++
        (s.registry.releaseAll ids).1.flatMap s.abandonSteps) =
          run { halted with registry := (halted.registry.releaseAll ids).2 }
            ((halted.registry.releaseAll ids).1.flatMap halted.abandonSteps) := by
      rw [run_append, show ([.halt, .closeListener, .joinWorkers, .drain ids] : List Step) =
        [.halt, .closeListener, .joinWorkers] ++ [.drain ids] from rfl, run_append, hhalting]
      rfl
    rw [hrun]
    exact hhalted.run_abandonAll hooked ids

/-! ## Closings and admissions -/

theorem close (h : s.Settled) (hooked : s.table.Hooked) (k : Nat) :
    Settled (s.run (s.closingSteps k)) ∧
      (s.run (s.closingSteps k)).connections.size = s.connections.size := by
  cases hc : s.connection? k with
  | none =>
      simp only [closingSteps, hc]
      exact ⟨h, rfl⟩
  | some c =>
      by_cases hopen : c.state.isOpen = true
      · have hactive := h.active_of_isOpen hc hopen
        obtain ⟨c', watchlist, call, hrun, hticket, hclosed, hcall⟩ := run_closing hooked hc hopen
        rw [h.sound.release_of_live (h.live_of_active hc hactive)] at hrun
        rw [hrun]
        exact ⟨h.retire hc hactive hticket hclosed hcall watchlist, size_put s k c'⟩
      · simp only [closingSteps, hc, if_neg hopen]
        exact ⟨h, rfl⟩

/-- A registration of a descriptor that no live connection has evicts nobody. -/
theorem register_cases (h : s.Settled) {o : Opening}
    (hfresh : ∀ t, s.registry.Live t → t.descriptor ≠ o.descriptor) :
    s.registry.mapped? o.descriptor = none ∧
      ((∃ e, s.registry.register o = (.error e, s.registry)) ∨
        s.registry.live < s.registry.capacity ∧
          s.registry.register o = (.ok (s.registry.enter o).1, (s.registry.enter o).2)) := by
  rcases h.sound.registration_cases o with
    ⟨hunmapped, -, heq⟩ | ⟨hunmapped, hroom, heq⟩ | ⟨t, hlive, hd, -⟩
  · exact ⟨hunmapped, .inl ⟨_, heq⟩⟩
  · exact ⟨hunmapped, .inr ⟨hroom, heq⟩⟩
  · exact absurd hd (hfresh t hlive)

/-- A connection that was registered is let in, up to where it is counted. -/
theorem opening (h : s.Settled) (hooked : s.table.Hooked) {i : Incoming}
    (hroom : s.registry.live < s.registry.capacity)
    (hunmapped : s.registry.mapped? i.descriptor = none)
    (hregistered : s.registry.register (s.openingOf i) =
      (.ok (s.registry.enter (s.openingOf i)).1, (s.registry.enter (s.openingOf i)).2)) :
    let k := (s.registry.enter (s.openingOf i)).1.serial
    let opened := s.run [.register (s.openingOf i), .activate k, .notifyOpened k, .countOpened]
    opened.Settled ∧ opened.connections.size = s.connections.size + 1 ∧
      ∃ c, opened.connection? k = some c ∧ c.state = .active := by
  have hserial : (s.registry.enter (s.openingOf i)).1.serial = s.connections.size := by
    rw [Registry.enter_serial, h.issued]
  obtain ⟨c, call, hopening, hticket, hactive, hcall⟩ :=
    run_opening hooked hregistered rfl hserial
  dsimp only
  rw [hopening]
  refine ⟨h.enter hroom hunmapped hticket hactive hcall s.watchlist, Array.size_push c, c, ?_,
    hactive⟩
  rw [hserial]
  exact Array.getElem?_push_size

/-- A connection that cannot be watched is taken down as it was let in. -/
theorem undo (h : s.Settled) (hooked : s.table.Hooked) (hc : s.connection? k = some c)
    (hactive : c.state = .active) :
    let undone := s.run [.unregister k, .beginClose k, .markClosed k, .notifyClosed k,
      .countClosed, .drop k]
    undone.Settled ∧ undone.connections.size = s.connections.size := by
  have hopen : c.state.isOpen = true := by
    rw [hactive]
    rfl
  obtain ⟨c', watchlist, call, hundo, hticket, hclosed, hcall⟩ := run_undoing hooked hc hopen
  rw [h.sound.release_of_live (h.live_of_active hc hactive)] at hundo
  dsimp only
  rw [hundo]
  exact ⟨h.retire hc hactive hticket hclosed hcall watchlist, size_put s k c'⟩

theorem watch (h : s.Settled) (k : Nat) :
    (s.apply (.watch k)).Settled ∧ (s.apply (.watch k)).connections.size = s.connections.size := by
  obtain ⟨watchlist, hwatch⟩ := s.apply_watch k
  rw [hwatch]
  exact ⟨h.congr rfl rfl (fun _ c hc => ⟨c, hc, rfl, rfl⟩) rfl rfl rfl, rfl⟩

theorem accept (h : s.Settled) (hooked : s.table.Hooked) {i : Incoming}
    (hfresh : ∀ t, s.registry.Live t → t.descriptor ≠ i.descriptor) :
    Settled (s.run (s.admissionSteps i)) ∧
      (s.run (s.admissionSteps i)).connections.size =
        s.connections.size + if (s.admissionOf i).isRegistered then 1 else 0 := by
  obtain ⟨hunmapped, hregister⟩ := h.register_cases (o := s.openingOf i) hfresh
  unfold admissionSteps admissionOf
  cases i.configureError? with
  | some e => exact ⟨h, rfl⟩
  | none =>
      rcases hregister with ⟨e, hrefused⟩ | ⟨hroom, hregistered⟩
      · -- a refusal leaves the registry as it was
        simp only [hrefused, run_cons, run_nil, apply]
        exact ⟨h, rfl⟩
      · let k := (s.registry.enter (s.openingOf i)).1.serial
        let opening : List Step :=
          [.register (s.openingOf i), .activate k, .notifyOpened k, .countOpened]
        obtain ⟨hopened, hsize, c, hc, hactive⟩ := h.opening hooked hroom hunmapped hregistered
        simp only [hregistered]
        by_cases hwatch : s.watchFails i = true
        · obtain ⟨hundone, hsame⟩ := hopened.undo (by rwa [table_run]) hc hactive
          let undoing : List Step := [.unregister k, .beginClose k, .markClosed k,
            .notifyClosed k, .countClosed, .drop k]
          rw [if_pos hwatch]
          change Settled (s.run (opening ++ undoing)) ∧
            (s.run (opening ++ undoing)).connections.size = s.connections.size + 1
          rw [run_append]
          exact ⟨hundone, hsame.trans hsize⟩
        · obtain ⟨hwatched, hsame⟩ := hopened.watch k
          rw [if_neg hwatch]
          change Settled (s.run (opening ++ [.watch k])) ∧
            (s.run (opening ++ [.watch k])).connections.size = s.connections.size + 1
          rw [run_append]
          exact ⟨hwatched, hsame.trans hsize⟩

end Settled

end Server

end MessageServer
