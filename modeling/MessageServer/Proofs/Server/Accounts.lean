import MessageServer.Proofs.Server.Runs
import MessageServer.Proofs.Server.Settled
import MessageServer.Proofs.Server.Sizing

/-!
# The accounts of a server

`accounts_balance` says what the counters of a server mean after any run: how many connections are
active, how many there ever were, how often the hooks were called, and which was the largest number
of active connections at any time, inside an operation too.  It follows from `Settled`, which every
act keeps, and from what a single step does to the peak, `peak_apply`.

* `Settled.outset` and `Settled.perform`: an act keeps the books in order.
* `Kept.act`: the same with what the log says, one act more.
-/

namespace MessageServer.Server

variable {s u s₀ : Server} {past : List Server} {log : Log} {a : Act}

/-! ## The peak -/

/-- The largest number of active connections in any of these states. -/
def PeakOf (past : List Server) (s : Server) : Prop :=
  (∀ u ∈ past, u.counters.active ≤ s.counters.peak) ∧
    ∃ u ∈ past, u.counters.active = s.counters.peak

/-- A step leaves the peak as it is, or raises it to the number of active connections. -/
theorem peak_apply (h : s.counters.active ≤ s.counters.peak) (step : Step) :
    (s.apply step).counters.active ≤ (s.apply step).counters.peak ∧
      s.counters.peak ≤ (s.apply step).counters.peak ∧
        ((s.apply step).counters.peak = s.counters.peak ∨
          (s.apply step).counters.peak = (s.apply step).counters.active) := by
  rcases (s.apply_cases step).2 with heq | heq | heq
  · rw [heq]
    exact ⟨h, UInt64.le_refl _, .inl rfl⟩
  · have hpeak : s.counters.connectionOpened.peak =
        if s.counters.peak ≤ s.counters.active + 1 then s.counters.active + 1
        else s.counters.peak := rfl
    have hactive : s.counters.connectionOpened.active = s.counters.active + 1 := rfl
    rw [heq, hpeak, hactive]
    -- the peak is raised if the new count reaches it
    split_ifs with hraised
    · exact ⟨UInt64.le_refl _, hraised, .inr rfl⟩
    · exact ⟨UInt64.le_of_lt (UInt64.not_le.mp hraised), UInt64.le_refl _, .inl rfl⟩
  · obtain ⟨hpeak, -⟩ := s.counters.others_connectionClosed
    have hless : s.counters.connectionClosed.active ≤ s.counters.active := by
      rw [UInt64.le_iff_toNat_le, Counters.active_connectionClosed]
      exact Nat.sub_le _ _
    rw [heq, hpeak]
    exact ⟨UInt64.le_trans hless h, UInt64.le_refl _, .inl rfl⟩

theorem PeakOf.push (h : PeakOf past s) (hpeak : s.counters.peak ≤ u.counters.peak)
    (hactive : u.counters.active ≤ u.counters.peak)
    (hcases : u.counters.peak = s.counters.peak ∨ u.counters.peak = u.counters.active) :
    PeakOf (past ++ [u]) u := by
  obtain ⟨hall, v, hv, hreached⟩ := h
  constructor
  · intro w hw
    rcases List.mem_append.mp hw with hold | hnew
    · exact UInt64.le_trans (hall w hold) hpeak
    · rw [List.mem_singleton.mp hnew]
      exact hactive
  · rcases hcases with hsame | hraised
    · exact ⟨v, List.mem_append_left _ hv, hreached.trans hsame.symm⟩
    · exact ⟨u, List.mem_append_right _ (List.mem_singleton_self u), hraised.symm⟩

/-- The peak through the steps of an operation. -/
theorem PeakOf.trace (h : PeakOf (past ++ [s]) s) (hactive : s.counters.active ≤ s.counters.peak)
    (steps : List Step) :
    PeakOf (past ++ s.trace steps) (s.run steps) ∧
      (s.run steps).counters.active ≤ (s.run steps).counters.peak := by
  induction steps generalizing s past with
  | nil => exact ⟨h, hactive⟩
  | cons step steps ih =>
      obtain ⟨hactive', hpeak, hcases⟩ := peak_apply hactive step
      have hlater := ih (h.push hpeak hactive' hcases) hactive'
      rw [List.append_assoc] at hlater
      exact hlater

/-! ## What every run keeps -/

/-- A server that was just bound has nothing in its books. -/
theorem settled_of_bind {host : Host} {config : Config} {table : HandlerTable}
    (hbind : bind host config table = .ok s₀) :
    s₀.Settled ∧ s₀.table = table ∧ s₀.connections = #[] ∧ s₀.counters = Counters.zero := by
  obtain ⟨hvalid, address, pools, rfl⟩ := eq_of_bind hbind
  have hconnections : config.maxConnections.toNat < UInt32.size :=
    Nat.lt_of_lt_pred (Config.bounds_of_valid hvalid).2.2
  refine ⟨?_, rfl, rfl, rfl⟩
  exact
    { sound := Registry.new_sound hconnections
      issued := rfl
      serial := fun k c hc => by simp [connection?, bound] at hc
      standing := fun k c hc => by simp [connection?, bound] at hc
      known := fun t ht => by
        simp [bound, Registry.Live, Registry.slotAt, Registry.new] at ht
      active := rfl
      total := rfl
      opened := rfl
      closed := rfl }

/-- Nothing is booked up to where the steps of an act begin. -/
theorem Settled.outset (h : s.Settled) (hkeeps : s.table.KeepsState) (a : Act) :
    (s.outset a).Settled ∧ (s.outset a).connections.size = s.connections.size ∧
      (s.outset a).counters.active = s.counters.active ∧
        (s.outset a).counters.peak = s.counters.peak := by
  rcases s.outset_cases a with
    ⟨running, workers, latencies, reports, heq⟩ | ⟨k, c, c', hwork, hstate, -⟩
  · rw [heq]
    exact ⟨h.congr rfl rfl (fun _ c hc => ⟨c, hc, rfl, rfl⟩) rfl rfl rfl, rfl, rfl, rfl⟩
  · refine ⟨h.worked hwork (hstate hkeeps), ?_, hwork.active, hwork.peak⟩
    obtain ⟨pools, counters, latencies, heq⟩ := hwork.frame
    rw [heq]
    exact size_put s k c'

/-- An act keeps the books in order, and adds a connection for each registration. -/
theorem Settled.perform (h : s.Settled) (hooked : s.table.Hooked) (hkeeps : s.table.KeepsState)
    (hpermitted : s.Permits a) :
    (s.perform a).Settled ∧ (s.perform a).connections.size =
      s.connections.size + (s.admission? a).toList.countP Admission.isRegistered := by
  obtain ⟨houtset, hsize, -⟩ := h.outset hkeeps a
  rw [perform_eq]
  cases a with
  | accept i =>
      have hfresh : ∀ t, s.registry.Live t → t.descriptor ≠ i.descriptor :=
        fun t hlive => hpermitted t (h.sound.mem_tickets_iff.mpr hlive)
      obtain ⟨hnext, hsize⟩ := h.accept hooked hfresh
      exact ⟨hnext, hsize.trans (congrArg _ List.countP_singleton.symm)⟩
  | close k => exact h.close hooked k
  | stop ids => exact h.stop hooked ids
  | start spawnError? ids =>
      rw [← hsize]
      rcases s.stepsOf_start spawnError? ids with hsteps | hsteps
      · rw [hsteps]
        exact ⟨houtset, rfl⟩
      · rw [hsteps]
        exact houtset.stop ((s.outset_frame _).1 ▸ hooked) ids
  | peer k stream | drain worker clock k | housekeep elapsed => exact ⟨houtset, hsize⟩

/-- What a run keeps: the handlers, the books, one connection for each registration, the peak. -/
structure Kept (s₀ : Server) (log : Log) (s : Server) : Prop where
  table : s.table = s₀.table
  settled : s.Settled
  registered : log.admissions.countP Admission.isRegistered = s.connections.size
  peak : PeakOf (log.states s₀) s
  active : s.counters.active ≤ s.counters.peak

theorem Kept.act (h : s₀.Kept log s) (hooked : s₀.table.Hooked) (hkeeps : s₀.table.KeepsState)
    (hpermitted : s.Permits a) : s₀.Kept (log ++ [(s, a)]) (s.perform a) := by
  rw [← h.table] at hooked hkeeps
  obtain ⟨hnext, hsize⟩ := h.settled.perform hooked hkeeps hpermitted
  obtain ⟨-, -, hactive, hpeak⟩ := h.settled.outset hkeeps a
  have hless : (s.outset a).counters.active ≤ (s.outset a).counters.peak := by
    rw [hactive, hpeak]
    exact h.active
  have houtset : PeakOf (log.states s₀ ++ [s.outset a]) (s.outset a) :=
    h.peak.push (hpeak ▸ UInt64.le_refl _) hless (.inl hpeak)
  obtain ⟨hraised, hless'⟩ := houtset.trace hless (s.stepsOf a)
  rw [← Log.states_concat, ← perform_eq] at hraised
  rw [← perform_eq] at hless'
  refine ⟨(table_perform s a).trans h.table, hnext, ?_, hraised, hless'⟩
  rw [Log.admissions_concat, List.countP_append, h.registered, hsize]

theorem Run.kept (hsettled : s₀.Settled) (hempty : s₀.connections = #[])
    (hzero : s₀.counters = Counters.zero) (hooked : s₀.table.Hooked)
    (hkeeps : s₀.table.KeepsState) (hrun : s₀.Run log s) : s₀.Kept log s := by
  induction hrun with
  | bound =>
      refine ⟨rfl, hsettled, ?_, ⟨fun u hu => ?_, s₀, List.mem_singleton_self s₀, ?_⟩, ?_⟩
      · rw [hempty]
        rfl
      · rw [List.mem_singleton.mp hu, hzero]
        exact UInt64.le_refl _
      · rw [hzero]
        rfl
      · rw [hzero]
        exact UInt64.le_refl _
  | act _ a permitted ih => exact ih.act hooked hkeeps permitted

/-! ## The accounts -/

namespace Settled

/-- The live connections are the active ones. -/
theorem tickets_perm (h : s.Settled) :
    s.registry.tickets.Perm
      ((s.connections.toList.filter Connection.isActive).map Connection.toTicket) := by
  have hall : (s.connections.toList.map Connection.toTicket).Nodup := by
    rw [List.Nodup, List.pairwise_map, List.pairwise_iff_getElem]
    intro i j hi hj hij heq
    -- the serial number of a connection is its place
    have hserial : ∀ n (hn : n < s.connections.toList.length),
        s.connections.toList[n].serial = n := by
      intro n hn
      refine h.serial n _ ?_
      rw [connection?, ← Array.getElem?_toList, List.getElem?_eq_getElem hn]
    have hsame := congrArg Ticket.serial heq
    rw [hserial i hi, hserial j hj] at hsame
    exact absurd hsame (Nat.ne_of_lt hij)
  have hactive : ((s.connections.toList.filter Connection.isActive).map
      Connection.toTicket).Nodup :=
    hall.sublist (List.filter_sublist.map Connection.toTicket)
  refine (List.perm_ext_iff_of_nodup h.sound.tickets_nodup hactive).mpr fun t => ?_
  rw [h.sound.mem_tickets_iff, List.mem_map]
  constructor
  · intro hlive
    obtain ⟨c, hc, rfl⟩ := h.known t hlive
    have hstate := h.active_of_live hc hlive
    rw [connection?, ← Array.getElem?_toList] at hc
    refine ⟨c, List.mem_filter.mpr ⟨List.mem_of_getElem? hc, ?_⟩, rfl⟩
    rw [Connection.isActive, hstate]
    rfl
  · rintro ⟨c, hmem, rfl⟩
    obtain ⟨hin, hstate⟩ := List.mem_filter.mp hmem
    obtain ⟨k, hk⟩ := List.mem_iff_getElem?.mp hin
    rw [Array.getElem?_toList] at hk
    exact h.live_of_active hk (eq_of_beq hstate)

theorem countP_active (h : s.Settled) : s.connections.countP (·.isActive) = s.registry.live := by
  rw [h.sound.live_eq, h.tickets_perm.length_eq, List.length_map, ← List.countP_eq_length_filter,
    Array.countP_toList]

theorem countP_closed (h : s.Settled) :
    s.connections.countP (·.isClosed) = s.calls.countP HookCall.isClosing := by
  have hcomplement : s.connections.toList.countP (·.isClosed) =
      s.connections.toList.countP fun c => decide ¬ c.isActive = true := by
    refine List.countP_congr fun c hc => ?_
    obtain ⟨k, hk⟩ := List.mem_iff_getElem?.mp hc
    rw [Array.getElem?_toList] at hk
    rcases h.standing k c hk with ⟨hstate, -⟩ | ⟨hstate, -⟩
    · simp [Connection.isClosed, Connection.isActive, hstate]
    · simp [Connection.isClosed, Connection.isActive, hstate]
  have hsum := List.length_eq_countP_add_countP (fun c : Connection => c.isActive)
    (l := s.connections.toList)
  have hclosed := h.closed
  rw [← hcomplement, Array.countP_toList, Array.countP_toList, h.countP_active,
    Array.length_toList] at hsum
  omega

end Settled

/-- What the counters of a server say about a run that made these admissions and went through these
states. -/
structure Balanced (s : Server) (admissions : List Admission) (past : List Server) : Prop where
  active_eq_live : s.counters.active.toNat = s.registry.live
  live_eq_active : s.registry.live = s.connections.countP (·.isActive)
  total_eq_registered : s.counters.connections.toNat = admissions.countP Admission.isRegistered
  total_eq_opened : s.counters.connections.toNat = s.calls.countP HookCall.isOpening
  /-- What is not active any more was closed. -/
  total_eq_sum : s.counters.connections.toNat =
    s.counters.active.toNat + s.calls.countP HookCall.isClosing
  closings_eq_closed : s.calls.countP HookCall.isClosing = s.connections.countP (·.isClosed)
  /-- The peak is the largest number of active connections at any time. -/
  peak : PeakOf past s

/-- The counters mean what they say after any run. -/
theorem accounts_balance {host : Host} {config : Config} {table : HandlerTable}
    (hbind : bind host config table = .ok s₀) (hooked : table.Hooked) (hkeeps : table.KeepsState)
    (hrun : s₀.Run log s) (hcount : log.admissions.length < UInt64.size) :
    s.Balanced log.admissions (log.states s₀) := by
  obtain ⟨hsettled, rfl, hempty, hzero⟩ := settled_of_bind hbind
  have hkept := hrun.kept hsettled hempty hzero hooked hkeeps
  have hbooks := hkept.settled
  have hsize : s.connections.size < UInt64.size := by
    rw [← hkept.registered]
    exact Nat.lt_of_le_of_lt List.countP_le_length hcount
  have htotal : s.counters.connections.toNat = s.connections.size := by
    rw [hbooks.total]
    exact UInt64.toNat_ofNat_of_lt' hsize
  exact
    { active_eq_live := hbooks.active
      live_eq_active := hbooks.countP_active.symm
      total_eq_registered := htotal.trans hkept.registered.symm
      total_eq_opened := htotal.trans hbooks.opened.symm
      total_eq_sum := by rw [htotal, hbooks.active, ← hbooks.closed, Nat.add_comm]
      closings_eq_closed := hbooks.countP_closed.symm
      peak := hkept.peak }

/-- A connection that could not be watched, and one that a worker closed twice. -/
theorem accounts_after_undoing :
    let hook : Option Hook := some Hook.idle
    let table : HandlerTable := { HandlerTable.default with onConnect := hook, onClose := hook }
    let config : Config := { Config.default with workers := 1, poolSize := 1 }
    ∃ s₀ log s, bind Host.loopback config table = .ok s₀ ∧ table.Hooked ∧ table.KeepsState ∧
      s₀.Run log s ∧ log.admissions = [.unwatched 0, .admitted 1] ∧
        log.admissions.length < UInt64.size ∧ s.Balanced log.admissions (log.states s₀) := by
  intro hook table config
  let socket (watchError? : Option SystemError) : Incoming :=
    ⟨5, .v4 .localhost 9000, 0, .fresh, none, watchError?⟩
  let pool : Pool := ⟨#[⟨false, Record.zero⟩], 0⟩
  let s₀ := bound config table (.ofIp (.v4 .localhost) 8888) ⟨pool, pool⟩
  let s₁ := s₀.perform (.accept (socket (some .fileExists)))
  let s₂ := s₁.perform (.accept (socket none))
  let s₃ := s₂.perform (.close 1)
  let log : Log := [(s₀, .accept (socket (some .fileExists))), (s₁, .accept (socket none)),
    (s₂, .close 1), (s₃, .close 1)]
  have hooked : table.Hooked := ⟨⟨_, rfl, fun _ => rfl⟩, ⟨_, rfl, fun _ => rfl⟩⟩
  have hkeeps : table.KeepsState := HandlerTable.keepsState_of_default rfl
  have hbind : bind Host.loopback config table = .ok s₀ := rfl
  have hfirst : (s₀.accept (socket (some .fileExists))).1 = .unwatched 0 := rfl
  have hfresh : ∀ t ∈ s₁.registry.tickets, t.descriptor ≠ (socket none).descriptor := by
    decide +kernel
  have hsecond : (s₁.accept (socket none)).1 = .admitted 1 := by decide +kernel
  have hundone : s₀.Run _ s₁ := Run.bound.act (.accept (socket (some .fileExists))) nofun
  have hadmitted : s₀.Run _ s₂ := hundone.act (.accept (socket none)) hfresh
  have hrun : s₀.Run log (s₃.perform (.close 1)) :=
    (hadmitted.act (.close 1) trivial).act (.close 1) trivial
  have hadmissions : log.admissions = [.unwatched 0, .admitted 1] :=
    congrArg₂ (fun first second => [first, second]) hfirst hsecond
  have hcount : log.admissions.length < UInt64.size := by
    rw [hadmissions]
    decide
  exact ⟨s₀, log, _, hbind, hooked, hkeeps, hrun, hadmissions, hcount,
    accounts_balance hbind hooked hkeeps hrun hcount⟩

end MessageServer.Server
