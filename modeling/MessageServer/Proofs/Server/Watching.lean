import MessageServer.Proofs.Registry.Registration
import MessageServer.Proofs.Server.Changes

/-!
# Whom the readiness queue watches

`Server.Watchful` says that every watch other than that of the listening socket belongs to a
connection whose socket is in use, under the token of this connection, and, as long as the registry
has its connections, that the connection is live.  It holds at every point of an operation, also
where the connection that the operation is about, the busy one, is half admitted or half closed.

* `Watchful.mono`: it is kept by whatever adds no watch, brings no connection back into service, and
  takes nothing from a connection that is watched.
* `Withdrawn`: the busy connection is not watched, and the registry knows no other connection by
  its id.  From there on every step that concerns the connection is harmless, `Withdrawn.apply`,
  in whichever order these steps are taken.
* `Shut`: a connection that is on its way out stays there, whatever steps follow.
-/

namespace MessageServer

/-- What the readiness queue keeps for a connection: its descriptor under its token. -/
def Ticket.watch (t : Ticket) : Watch :=
  ⟨t.descriptor, t.id.toToken, true⟩

/-- What the readiness queue keeps for the listening socket. -/
def listenerWatch : Watch :=
  ⟨listenerDescriptor, listenerToken, false⟩

namespace Server

variable {s u : Server} {R R' : Prop} {busy : Option Nat} {k : Nat} {c : Connection} {step : Step}
  {steps : List Step} {f : Nat → Connection → Connection}

/-- What the readiness queue has to do with the connections.  `R` says that the registry has its
connections; the busy connection is the one that an operation is about. -/
structure Watchful (R : Prop) (busy : Option Nat) (s : Server) : Prop where
  sound : s.registry.Sound
  issued : s.registry.issued = s.connections.size
  serial : ∀ k c, s.connection? k = some c → c.serial = k
  once : (s.watchlist.watches.map (·.descriptor)).Nodup
  owner : ∀ w ∈ s.watchlist.watches,
    w = listenerWatch ∧ s.listening = true ∨
      ∃ k c, s.connection? k = some c ∧ w = c.toTicket.watch ∧ c.Intact ∧
        (R → s.registry.Live c.toTicket)
  live : R → ∀ k c, s.connection? k = some c → c.state.isOpen = true → busy ≠ some k →
    s.registry.Live c.toTicket

/-- The connection with a serial number is on its way out, if there is one. -/
def Shut (s : Server) (k : Nat) : Prop :=
  ∀ c, s.connection? k = some c → c.state.isOpen = false

/-! ## Changes that keep it -/

/-- The connections of `u` are those of `s`, each changed by `f`, and nothing new is watched. -/
structure Follows (s u : Server) (f : Nat → Connection → Connection) : Prop where
  connections : ∀ k, u.connection? k = (s.connection? k).map (f k)
  ticket : ∀ k c, s.connection? k = some c → (f k c).toTicket = c.toTicket
  issued : u.registry.issued = s.registry.issued
  watches : u.watchlist.watches.Sublist s.watchlist.watches
  listening : listenerWatch ∈ u.watchlist.watches → s.listening = true → u.listening = true

namespace Follows

/-- Something else has changed. -/
theorem beside (hconnections : u.connections = s.connections)
    (hregistry : u.registry = s.registry) (hwatchlist : u.watchlist = s.watchlist)
    (hlistening : u.listening = s.listening) : s.Follows u fun _ c => c where
  connections k := by
    rw [connection?, hconnections]
    exact Option.map_id'.symm
  ticket _ _ _ := rfl
  issued := congrArg Registry.issued hregistry
  watches := by rw [hwatchlist]
  listening _ hl := hlistening.trans hl

/-- A connection was worked on. -/
theorem worked {c' : Connection} (hwork : s.Worked k c c' u) :
    s.Follows u fun j c => if k = j then c' else c := by
  obtain ⟨pools, counters, latencies, rfl⟩ := hwork.frame
  have hc := hwork.known
  refine ⟨fun j => ?_, fun j c₁ hc₁ => ?_, rfl, .refl _, fun _ hl => hl⟩
  · rw [show connection? { s.put k c' with pools, counters, latencies } j = _ from
      connection?_put hc c' j]
    by_cases hj : k = j
    · subst hj
      simp only [if_true, hc, Option.map_some]
    · simp only [hj, if_false]
      exact Option.map_id'.symm
  · split_ifs with hj
    · subst hj
      rw [hc, Option.some.injEq] at hc₁
      exact hwork.ticket.trans (congrArg _ hc₁)
    · rfl

/-- A step that neither registers a connection nor watches one. -/
theorem apply (s : Server) (hregister : ∀ o, step ≠ .register o) (hwatch : ∀ k, step ≠ .watch k) :
    s.Follows (s.apply step) fun k c => step.effect s.table k c where
  connections := s.connection?_apply hregister
  ticket k c _ := step.effect_ticket s.table k c
  issued := by rw [s.registry_apply hregister, Registry.issued_releaseAll]
  watches := s.watches_apply hwatch
  listening hw hl := by
    cases hfinal : step.isFinal with
    | false => exact (s.phase_apply hfinal).listening.trans hl
    | true =>
        cases step with
        | closeListener =>
            -- the listening socket is not watched any more
            simp only [Server.apply, hl, if_true, Watchlist.delete, List.mem_filter] at hw
            exact absurd hw.2 (by decide)
        | joinWorkers =>
            obtain ⟨latencies, reports, heq⟩ := s.apply_joinWorkers
            rw [heq]
            exact hl
        | halt | drain _ => exact hl
        | _ => cases hfinal

end Follows

namespace Watchful

/-- The registry has its connections at most as long as before. -/
theorem mono (h : s.Watchful R busy) (hfollows : s.Follows u f) (hsound : u.registry.Sound)
    (hR : R' → R)
    (hintact : ∀ k c, s.connection? k = some c → c.toTicket.watch ∈ u.watchlist.watches →
      c.Intact → (f k c).Intact)
    (hopen : ∀ k c, s.connection? k = some c → busy ≠ some k →
      (f k c).state.isOpen = true → c.state.isOpen = true)
    (hlive : R' → ∀ k c, s.connection? k = some c →
      busy ≠ some k ∨ c.toTicket.watch ∈ u.watchlist.watches →
        s.registry.Live c.toTicket → u.registry.Live c.toTicket) : u.Watchful R' busy where
  sound := hsound
  issued := hfollows.issued.trans (h.issued.trans (size_eq_of_map hfollows.connections).symm)
  serial k c' hc' := by
    rw [hfollows.connections] at hc'
    obtain ⟨c, hc, rfl⟩ := Option.map_eq_some_iff.mp hc'
    exact (congrArg Ticket.serial (hfollows.ticket k c hc)).trans (h.serial k c hc)
  once := h.once.sublist (hfollows.watches.map _)
  owner w hw := by
    rcases h.owner w (hfollows.watches.subset hw) with
      ⟨rfl, hlistening⟩ | ⟨k, c, hc, rfl, hc', hreg⟩
    · exact .inl ⟨rfl, hfollows.listening hw hlistening⟩
    · have hticket := hfollows.ticket k c hc
      refine .inr ⟨k, f k c, ?_, ?_, hintact k c hc hw hc', fun hr => ?_⟩
      · rw [hfollows.connections, hc, Option.map_some]
      · rw [hticket]
      · rw [hticket]
        exact hlive hr k c hc (.inr hw) (hreg (hR hr))
  live hr k c' hc' hop hne := by
    rw [hfollows.connections] at hc'
    obtain ⟨c, hc, rfl⟩ := Option.map_eq_some_iff.mp hc'
    rw [hfollows.ticket k c hc]
    exact hlive hr k c hc (.inl hne) (h.live (hR hr) k c hc (hopen k c hc hne hop) hne)

/-- Nothing that is watched has changed. -/
theorem beside (h : s.Watchful R busy) (hconnections : u.connections = s.connections)
    (hregistry : u.registry = s.registry) (hwatchlist : u.watchlist = s.watchlist)
    (hlistening : u.listening = s.listening) (hR : R' → R) : u.Watchful R' busy :=
  h.mono (.beside hconnections hregistry hwatchlist hlistening) (hregistry ▸ h.sound) hR
    (fun _ _ _ _ hc => hc) (fun _ _ _ _ hop => hop) (fun _ _ _ _ _ hlive => hregistry ▸ hlive)

theorem imp (h : s.Watchful R busy) (hR : R' → R) : s.Watchful R' busy :=
  h.beside rfl rfl rfl rfl hR

/-- A connection becomes busy. -/
theorem begin (h : s.Watchful R none) (k : Nat) : s.Watchful R (some k) :=
  { h with live := fun hr j c hc hop _ => h.live hr j c hc hop nofun }

/-- The busy connection is done with: it is live if it is open. -/
theorem settle (h : s.Watchful R (some k))
    (hlive : R → ∀ c, s.connection? k = some c → c.state.isOpen = true →
      s.registry.Live c.toTicket) : s.Watchful R none :=
  { h with
    live := fun hr j c hc hop _ => by
      by_cases hj : k = j
      · subst hj
        exact hlive hr c hc hop
      · exact h.live hr j c hc hop fun heq => hj (Option.some.inj heq) }

end Watchful

/-! ## The busy connection -/

/-- The registry knows no other connection by the id of this one. -/
def Unrivalled (s : Server) (k : Nat) : Prop :=
  ∀ c, s.connection? k = some c → ∀ t, s.registry.Live t → t.id = c.id → t = c.toTicket

/-- The busy connection is not watched, and has no rival while the registry has its connections. -/
structure Withdrawn (R : Prop) (k : Nat) (s : Server) : Prop extends Watchful R (some k) s where
  unwatched : ∀ c, s.connection? k = some c → c.toTicket.watch ∉ s.watchlist.watches
  unrivalled : R → s.Unrivalled k

theorem Unrivalled.apply (h : s.Unrivalled k) (hsound : s.registry.Sound)
    (hstep : step.Concerns k) : (s.apply step).Unrivalled k := by
  intro c' hc' t ht hid
  rw [s.connection?_apply hstep.ne_register] at hc'
  obtain ⟨c, hc, rfl⟩ := Option.map_eq_some_iff.mp hc'
  rw [s.registry_apply hstep.ne_register, hsound.live_releaseAll_iff] at ht
  rw [Step.effect_ticket] at hid ⊢
  exact h c hc t ht.1 hid

/-- A step that concerns the busy connection, which has to be withdrawn before its socket is taken
away and before the registry gives it up. -/
theorem Watchful.apply (h : s.Watchful R (some k)) (hharmless : s.table.Harmless)
    (hstep : step.Concerns k)
    (hwithdrawn : step.breaks = true ∨ step = .unregister k → s.Withdrawn R k) :
    (s.apply step).Watchful R (some k) := by
  have hfollows := Follows.apply s hstep.ne_register hstep.ne_watch
  refine h.mono hfollows ((moves_apply h.sound step).sound h.sound) id ?_ ?_ ?_
  · intro j c hc hw hintact
    by_cases htarget : step.target? = some j
    · obtain rfl := hstep.target htarget
      cases hbreaks : step.breaks with
      | false => exact Step.intact_effect hharmless hintact hbreaks
      | true =>
          have hnot := (hwithdrawn (.inl hbreaks)).unwatched c hc
          exact absurd (hfollows.watches.subset hw) hnot
    · rwa [Step.effect, if_neg htarget]
  · exact fun j c _ _ hop => (Step.isOpen_of_effect hharmless hop).1
  · intro hr j c hc hother hlive
    rw [s.registry_apply hstep.ne_register, h.sound.live_releaseAll_iff]
    refine ⟨hlive, fun hid => ?_⟩
    -- the only id that is given up is that of the busy connection
    obtain ⟨hunregister, c₀, hc₀, hid⟩ := s.givenUp_of_concerns hstep hid
    have hwithdrawn := hwithdrawn (.inr hunregister)
    have hticket := hwithdrawn.unrivalled hr c₀ hc₀ _ hlive hid.symm
    rcases hother with hne | hw
    · have hserial := congrArg Ticket.serial hticket
      rw [h.serial j c hc, h.serial k c₀ hc₀] at hserial
      exact hne (congrArg some hserial.symm)
    · rw [hticket] at hw
      exact hwithdrawn.unwatched c₀ hc₀ (hfollows.watches.subset hw)

namespace Withdrawn

/-- What concerns a connection that is withdrawn leaves it withdrawn. -/
theorem apply (h : s.Withdrawn R k) (hharmless : s.table.Harmless) (hstep : step.Concerns k) :
    (s.apply step).Withdrawn R k where
  toWatchful := h.toWatchful.apply hharmless hstep fun _ => h
  unwatched c' hc' := by
    rw [s.connection?_apply hstep.ne_register] at hc'
    obtain ⟨c, hc, rfl⟩ := Option.map_eq_some_iff.mp hc'
    rw [Step.effect_ticket]
    exact fun hw => h.unwatched c hc ((s.watches_apply hstep.ne_watch).subset hw)
  unrivalled hr := (h.unrivalled hr).apply h.sound hstep

theorem run (h : s.Withdrawn R k) (hharmless : s.table.Harmless)
    (hsteps : ∀ step ∈ steps, step.Concerns k) : (s.run steps).Withdrawn R k := by
  induction steps generalizing s with
  | nil => exact h
  | cons step steps ih =>
      obtain ⟨hstep, hrest⟩ := List.forall_mem_cons.mp hsteps
      refine ih (h.apply hharmless hstep) ?_ hrest
      rwa [(s.apply_cases step).1]

end Withdrawn

/-! ## Connections on their way out -/

theorem Shut.apply (h : s.Shut k) (hharmless : s.table.Harmless)
    (hstep : ∀ o, step ≠ .register o) : (s.apply step).Shut k := by
  intro c' hc'
  rw [s.connection?_apply hstep] at hc'
  obtain ⟨c, hc, rfl⟩ := Option.map_eq_some_iff.mp hc'
  refine eq_false_of_ne_true fun hopen => ?_
  exact Bool.false_ne_true ((h c hc).symm.trans (Step.isOpen_of_effect hharmless hopen).1)

theorem shut_beginClose (hharmless : s.table.Harmless) (k : Nat) :
    (s.apply (.beginClose k)).Shut k := by
  have hstep : (Step.beginClose k).Concerns k := rfl
  intro c' hc'
  rw [s.connection?_apply hstep.ne_register] at hc'
  obtain ⟨c, -, rfl⟩ := Option.map_eq_some_iff.mp hc'
  refine eq_false_of_ne_true fun hopen => ?_
  cases (Step.isOpen_of_effect hharmless hopen).2 rfl

theorem Shut.run (h : s.Shut k) (hharmless : s.table.Harmless)
    (hsteps : ∀ step ∈ steps, ∀ o, step ≠ .register o) : (s.run steps).Shut k := by
  induction steps generalizing s with
  | nil => exact h
  | cons step steps ih =>
      obtain ⟨hstep, hrest⟩ := List.forall_mem_cons.mp hsteps
      refine ih (h.apply hharmless hstep) ?_ hrest
      rwa [(s.apply_cases step).1]

/-- The steps shut a connection if one of them begins to close it. -/
theorem shut_run (hharmless : s.table.Harmless) (hsteps : ∀ step ∈ steps, ∀ o, step ≠ .register o)
    (hbegin : .beginClose k ∈ steps) : (s.run steps).Shut k := by
  obtain ⟨before, after, rfl⟩ := List.append_of_mem hbegin
  rw [run_append, run_cons]
  refine (shut_beginClose (by rwa [table_run]) k).run ?_ fun step hstep => ?_
  · rwa [(apply_cases _ _).1, table_run]
  · exact hsteps step (List.mem_append_right _ (List.mem_cons_of_mem _ hstep))

end Server

end MessageServer
