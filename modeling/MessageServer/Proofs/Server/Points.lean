import MessageServer.Proofs.Server.Watching

/-!
# The points of an operation

An admission, a closing and the stop are taken apart here.  `Throughout` speaks of every point of a
list of steps: the server there, and the steps that are still ahead.

A connection that is open is taken down in three different orders.  They have in common that the
connection is withdrawn before its socket is shut down or dropped: a closing and the stop stop
watching it first, `Watchful.teardown`, and an admission that is undone never watched it,
`Withdrawn.undo`.  A closing withdraws the connection before the registry gives it up; in the stop
the registry goes first, but by then there are no workers left that would ask it.

A connection that a handler or a hook has put on its way out is not taken down by anybody.  The stop
gives its descriptor back, and a descriptor that was given back is not watched any more,
`Watchful.drop`.

* `Watchful.closing`, `Watchful.admission` and `Watchful.stopping`: the three operations.
-/

namespace MessageServer.Server

variable {s u : Server} {R : Prop} {k : Nat} {c : Connection} {step : Step} {steps rest : List Step}
  {P Q : Server → List Step → Prop}

/-! ## Points -/

/-- It holds at every point of the steps, of the server there and the steps that are ahead. -/
def Throughout (P : Server → List Step → Prop) (s : Server) (steps : List Step) : Prop :=
  ∀ before after, steps = before ++ after → P (s.run before) after

namespace Throughout

theorem nil (h : P s []) : Throughout P s [] := by
  intro before after hsplit
  obtain ⟨rfl, rfl⟩ := List.append_eq_nil_iff.mp hsplit.symm
  exact h

theorem cons (h : P s (step :: steps)) (hrest : Throughout P (s.apply step) steps) :
    Throughout P s (step :: steps) := by
  intro before after hsplit
  cases before with
  | nil =>
      obtain rfl : step :: steps = after := hsplit
      exact h
  | cons first before =>
      obtain ⟨rfl, hrest'⟩ := List.cons.inj hsplit
      exact hrest before after hrest'

theorem append {first : List Step}
    (hfirst : Throughout (fun u after => P u (after ++ rest)) s first)
    (hrest : Throughout P (s.run first) rest) : Throughout P s (first ++ rest) := by
  induction first generalizing s with
  | nil => exact hrest
  | cons step first ih =>
      refine .cons (hfirst [] _ rfl) (ih (fun before after hsplit => ?_) hrest)
      exact hfirst (step :: before) after (congrArg (step :: ·) hsplit)

theorem mono (h : Throughout P s steps)
    (himp : ∀ before after, steps = before ++ after → P (s.run before) after →
      Q (s.run before) after) : Throughout Q s steps :=
  fun before after hsplit => himp before after hsplit (h before after hsplit)

end Throughout

/-- At some point of an operation, the registry has its connections until the workers have been
joined. -/
def Orderly (s : Server) (ahead : List Step) : Prop :=
  ∃ busy, s.Watchful (s.stopped = false ∨ .joinWorkers ∈ ahead) busy

theorem phase_run (s : Server) (hsteps : ∀ step ∈ steps, step.isFinal = false) :
    s.SamePhase (s.run steps) := by
  induction steps generalizing s with
  | nil => exact .refl s
  | cons step steps ih =>
      obtain ⟨hstep, hrest⟩ := List.forall_mem_cons.mp hsteps
      exact (s.phase_apply hstep).trans (ih (s.apply step) hrest)

theorem watches_run (s : Server) (hsteps : ∀ step ∈ steps, ∀ k, step ≠ .watch k) :
    (s.run steps).watchlist.watches.Sublist s.watchlist.watches := by
  induction steps generalizing s with
  | nil => exact .refl _
  | cons step steps ih =>
      obtain ⟨hstep, hrest⟩ := List.forall_mem_cons.mp hsteps
      exact (ih (s.apply step) hrest).trans (s.watches_apply hstep)

/-- What is left to be watched has another descriptor. -/
theorem ne_descriptor_of_unwatched (hc : s.connection? k = some c) {w : Watch}
    (hw : w ∈ (s.unwatched k).watches) : w.descriptor ≠ c.descriptor := by
  simp only [unwatched, hc, Watchlist.delete, List.mem_filter] at hw
  exact bne_iff_ne.mp hw.2

/-- A connection stays the one that it is. -/
theorem exists_connection_run (hc : s.connection? k = some c)
    (hsteps : ∀ step ∈ steps, ∀ o, step ≠ .register o) :
    ∃ c', (s.run steps).connection? k = some c' ∧ c'.toTicket = c.toTicket := by
  induction steps generalizing s c with
  | nil => exact ⟨c, hc, rfl⟩
  | cons step steps ih =>
      obtain ⟨hstep, hrest⟩ := List.forall_mem_cons.mp hsteps
      have hnext : (s.apply step).connection? k = some (step.effect s.table k c) := by
        rw [s.connection?_apply hstep, hc, Option.map_some]
      obtain ⟨c', hc', hticket⟩ := ih hnext hrest
      exact ⟨c', hc', hticket.trans (step.effect_ticket s.table k c)⟩

/-- A descriptor that was given back is not watched any more. -/
theorem descriptor_ne_of_drop (hregister : ∀ step ∈ steps, ∀ o, step ≠ .register o)
    (hwatch : ∀ step ∈ steps, ∀ k, step ≠ .watch k) (hc : s.connection? k = some c)
    (hdrop : .drop k ∈ steps) :
    ∀ w ∈ (s.run steps).watchlist.watches, w.descriptor ≠ c.descriptor := by
  intro w hw
  obtain ⟨before, after, rfl⟩ := List.append_of_mem hdrop
  obtain ⟨c', hc', hticket⟩ := exists_connection_run hc fun step hstep =>
    hregister step (List.mem_append_left _ hstep)
  rw [run_append, run_cons] at hw
  have hkept := watches_run ((s.run before).apply (.drop k)) fun step hstep =>
    hwatch step (List.mem_append_right _ (List.mem_cons_of_mem _ hstep))
  exact congrArg Ticket.descriptor hticket ▸ ne_descriptor_of_unwatched hc' (hkept.subset hw)

/-- Steps outside the stop are orderly at all points if the registry keeps its connections. -/
theorem Throughout.orderly (h : Throughout (fun u _ => ∃ busy, u.Watchful R busy) s steps)
    (hsteps : ∀ step ∈ steps, step.isFinal = false) (hR : s.stopped = false → R) :
    Throughout Orderly s steps := by
  refine h.mono fun before after hsplit hpoint => ?_
  obtain ⟨busy, hwatchful⟩ := hpoint
  refine ⟨busy, hwatchful.imp fun hserving => ?_⟩
  subst hsplit
  rcases hserving with hstopped | hjoin
  · have hsame := (s.phase_run fun step hstep => hsteps step (List.mem_append_left _ hstep)).stopped
    exact hR (hsame.symm.trans hstopped)
  · cases hsteps _ (List.mem_append_right _ hjoin)

/-! ## Taking a connection down -/

theorem Withdrawn.throughout (h : s.Withdrawn R k) (hharmless : s.table.Harmless)
    (hsteps : ∀ step ∈ steps, step.Concerns k) :
    Throughout (fun u _ => ∃ busy, u.Watchful R busy) s steps := by
  rintro before after rfl
  have hbefore := h.run hharmless fun step hstep => hsteps step (List.mem_append_left _ hstep)
  exact ⟨some k, hbefore.toWatchful⟩

/-- Behind its withdrawal, a connection is taken down in any order. -/
theorem Withdrawn.retire (h : s.Withdrawn R k) (hharmless : s.table.Harmless)
    (hsteps : ∀ step ∈ steps, step.Concerns k) (hshut : (s.run steps).Shut k) :
    Throughout (fun u _ => ∃ busy, u.Watchful R busy) s steps ∧ (s.run steps).Watchful R none := by
  refine ⟨h.throughout hharmless hsteps, ?_⟩
  have hend := h.run hharmless hsteps
  refine hend.toWatchful.settle fun _ c hc hopen => ?_
  rw [hshut c hc] at hopen
  cases hopen

/-- A connection that begins to close and is not watched any more is withdrawn. -/
theorem Watchful.withdraw (h : s.Watchful R none) (hharmless : s.table.Harmless)
    (hlive : R → ∀ c, s.connection? k = some c → s.registry.Live c.toTicket) :
    (s.apply (.beginClose k)).Watchful R (some k) ∧
      (s.run [.beginClose k, .unwatch k]).Withdrawn R k := by
  have hbegin : (Step.beginClose k).Concerns k := rfl
  have hunwatch : (Step.unwatch k).Concerns k := rfl
  have htable := (s.apply_cases (.beginClose k)).1
  have hbegun := (h.begin k).apply hharmless hbegin (by simp [Step.breaks])
  refine ⟨hbegun, hbegun.apply (htable ▸ hharmless) hunwatch (by simp [Step.breaks]), ?_, ?_⟩
  · intro c' hc' hw
    rw [run_cons, run_cons, run_nil, connection?_apply _ hunwatch.ne_register] at hc'
    obtain ⟨c, hc, rfl⟩ := Option.map_eq_some_iff.mp hc'
    rw [Step.effect_ticket, run_cons, run_cons, run_nil, apply_unwatch hc] at hw
    have hne := (List.mem_filter.mp hw).2
    exact bne_iff_ne.mp hne rfl
  · intro hr
    have hfirst : s.Unrivalled k := fun c hc t ht hid => ht.eq_of_id_eq (hlive hr c hc) hid
    exact (hfirst.apply h.sound hbegin).apply hbegun.sound hunwatch

/-- A connection that is not watched from the beginning of its closing on is taken down in any
order. -/
theorem Watchful.teardown (h : s.Watchful R none) (hharmless : s.table.Harmless)
    (hlive : R → ∀ c, s.connection? k = some c → s.registry.Live c.toTicket)
    (hrest : ∀ step ∈ rest, step.Concerns k) :
    Throughout (fun u _ => ∃ busy, u.Watchful R busy) s (.beginClose k :: .unwatch k :: rest) ∧
      (s.run (.beginClose k :: .unwatch k :: rest)).Watchful R none := by
  obtain ⟨hbegun, hwithdrawn⟩ := h.withdraw hharmless hlive
  have hshut : (s.run (.beginClose k :: .unwatch k :: rest)).Shut k := by
    refine shut_run hharmless (fun step hstep => ?_) List.mem_cons_self
    have hconcerns : step.Concerns k := by
      rcases List.mem_cons.mp hstep with rfl | hstep
      · rfl
      · rcases List.mem_cons.mp hstep with rfl | hstep
        · rfl
        · exact hrest step hstep
    exact hconcerns.ne_register
  have hharmless' : (s.run [.beginClose k, .unwatch k]).table.Harmless := by rwa [table_run]
  obtain ⟨hpoints, hend⟩ := hwithdrawn.retire hharmless' hrest hshut
  exact ⟨.cons ⟨none, h⟩ (.cons ⟨some k, hbegun⟩ hpoints), hend⟩

theorem Watchful.closing (h : s.Watchful R none) (hharmless : s.table.Harmless) (k : Nat) :
    Throughout (fun u _ => ∃ busy, u.Watchful R busy) s (s.closingSteps k) ∧
      (s.run (s.closingSteps k)).Watchful R none := by
  unfold closingSteps
  cases hc : s.connection? k with
  | none => exact ⟨.nil ⟨none, h⟩, h⟩
  | some c =>
      dsimp only
      split_ifs with hopen
      · refine h.teardown hharmless (fun hr c' hc' => ?_) (by simp [Step.Concerns])
        rw [hc, Option.some.injEq] at hc'
        exact hc' ▸ h.live hr k c hc hopen nofun
      · exact ⟨.nil ⟨none, h⟩, h⟩

theorem concerns_closingSteps (s : Server) (k : Nat) :
    ∀ step ∈ s.closingSteps k, step.Concerns k := by
  unfold closingSteps
  split
  · nofun
  · split_ifs
    · simp [Step.Concerns]
    · nofun

/-! ## The stop -/

/-- The last reference to a connection, which is not watched any more then. -/
theorem Watchful.drop (h : s.Watchful R none) (hharmless : s.table.Harmless) (k : Nat) :
    (s.apply (.drop k)).Watchful R none := by
  have hstep : (Step.drop k).Concerns k := rfl
  refine h.mono (.apply s hstep.ne_register hstep.ne_watch) h.sound id ?_ ?_ ?_
  · intro j c hc hw hintact
    by_cases hj : k = j
    · subst hj
      exact absurd rfl (ne_descriptor_of_unwatched hc hw)
    · rwa [Step.effect_of_ne hstep hj]
  · exact fun j c _ _ hopen => (Step.isOpen_of_effect hharmless hopen).1
  · exact fun _ _ _ _ _ hlive => hlive

theorem concerns_abandonSteps (s : Server) (t : Ticket) :
    ∀ step ∈ s.abandonSteps t, step.Concerns t.serial := by
  unfold abandonSteps
  split
  · nofun
  · split_ifs
    · simp [Step.Concerns]
    · simp [Step.Concerns]

/-- The stop closes a connection; what it has to do was decided when the stop began. -/
theorem Watchful.abandoning (h : u.Watchful False none) (hharmless : u.table.Harmless)
    (t : Ticket) :
    Throughout (fun u _ => ∃ busy, u.Watchful False busy) u (s.abandonSteps t) ∧
      (u.run (s.abandonSteps t)).Watchful False none := by
  unfold abandonSteps
  cases s.connection? t.serial with
  | none => exact ⟨.nil ⟨none, h⟩, h⟩
  | some c =>
      dsimp only
      split_ifs
      · exact h.teardown hharmless False.elim (by simp [Step.Concerns])
      · have hend := h.drop hharmless t.serial
        exact ⟨.cons ⟨none, h⟩ (.nil ⟨none, hend⟩), hend⟩

theorem Watchful.abandonAll (h : u.Watchful False none) (hharmless : u.table.Harmless)
    (ts : List Ticket) :
    Throughout (fun u _ => ∃ busy, u.Watchful False busy) u (ts.flatMap s.abandonSteps) ∧
      (u.run (ts.flatMap s.abandonSteps)).Watchful False none := by
  induction ts generalizing u with
  | nil => exact ⟨.nil ⟨none, h⟩, h⟩
  | cons t ts ih =>
      obtain ⟨hpoints, hnext⟩ := h.abandoning (s := s) hharmless t
      obtain ⟨hlater, hend⟩ := ih hnext (by rwa [table_run])
      rw [List.flatMap_cons, run_append]
      exact ⟨.append hpoints hlater, hend⟩

/-- One of the steps that only the stop takes. -/
theorem Watchful.final {R' : Prop} (h : s.Watchful R none) (step : Step)
    (hstep : step.isFinal = true) (hR : R' → R ∧ s.givenUp step = []) :
    (s.apply step).Watchful R' none := by
  have hregister : ∀ o, step ≠ .register o := by
    rintro o rfl
    cases hstep
  have hwatch : ∀ k, step ≠ .watch k := by
    rintro k rfl
    cases hstep
  have heffect : ∀ k c, step.effect s.table k c = c := by
    cases step with
    | halt | closeListener | joinWorkers | drain _ => exact fun _ _ => rfl
    | _ => cases hstep
  refine h.mono (.apply s hregister hwatch) ((moves_apply h.sound step).sound h.sound)
    (fun hr => (hR hr).1) ?_ ?_ ?_
  · intro k c _ _ hintact
    rwa [heffect]
  · intro k c _ _ hopen
    rwa [heffect] at hopen
  · intro hr k c _ _ hlive
    rw [s.registry_apply hregister, (hR hr).2]
    exact hlive

/-- A stop that has joined the workers is marked as such and does not listen any more. -/
theorem phase_halting (s : Server) (ids : List ConnectionId) :
    (s.run [.halt, .closeListener, .joinWorkers, .drain ids]).stopped = true ∧
      (s.run [.halt, .closeListener, .joinWorkers, .drain ids]).listening = false := by
  have hclosed : ∀ u : Server, (u.apply .closeListener).stopped = u.stopped ∧
      (u.apply .closeListener).listening = false := by
    intro u
    simp only [apply]
    split_ifs with hlistening
    · exact ⟨rfl, rfl⟩
    · exact ⟨rfl, eq_false_of_ne_true hlistening⟩
  obtain ⟨latencies, reports, hjoined⟩ := ((s.apply .halt).apply .closeListener).apply_joinWorkers
  rw [run_cons, run_cons, run_cons, hjoined]
  exact hclosed (s.apply .halt)

/-- A stop takes steps of its own, and then steps that concern one connection at a time. -/
theorem stopStepsIn_eq (hrunning : s.stopped = false) (ids : List ConnectionId) :
    s.stopStepsIn ids = [.halt, .closeListener, .joinWorkers, .drain ids] ++
      (s.registry.releaseAll ids).1.flatMap s.abandonSteps := by
  rw [stopStepsIn, hrunning]
  rfl

theorem concerns_abandonAll {ts : List Ticket} (hstep : step ∈ ts.flatMap s.abandonSteps) :
    ∃ k, step.Concerns k := by
  obtain ⟨t, -, hstep⟩ := List.mem_flatMap.mp hstep
  exact ⟨t.serial, s.concerns_abandonSteps t step hstep⟩

theorem isFinal_abandonAll (s : Server) (ts : List Ticket) :
    ∀ step ∈ ts.flatMap s.abandonSteps, step.isFinal = false := fun _ hstep =>
  (concerns_abandonAll hstep).elim fun _ hconcerns => hconcerns.isFinal_eq

theorem phase_stop (hrunning : s.stopped = false) (ids : List ConnectionId) :
    (s.run (s.stopStepsIn ids)).stopped = true ∧ (s.run (s.stopStepsIn ids)).listening = false := by
  obtain ⟨hstopped, hlistening⟩ := s.phase_halting ids
  rw [stopStepsIn_eq hrunning, run_append]
  have hphase := phase_run (s.run [.halt, .closeListener, .joinWorkers, .drain ids])
    (s.isFinal_abandonAll (s.registry.releaseAll ids).1)
  exact ⟨hphase.stopped.trans hstopped, hphase.listening.trans hlistening⟩

/-- The stop adds nothing to the registry or to the readiness queue. -/
theorem ne_adding_stopStepsIn (hrunning : s.stopped = false) (ids : List ConnectionId) :
    ∀ step ∈ s.stopStepsIn ids, (∀ o, step ≠ .register o) ∧ ∀ k, step ≠ .watch k := by
  intro step hstep
  rw [stopStepsIn_eq hrunning] at hstep
  rcases List.mem_append.mp hstep with hfirst | hrest
  · constructor
    · rintro o rfl
      simp at hfirst
    · rintro k rfl
      simp at hfirst
  · obtain ⟨k, hconcerns⟩ := concerns_abandonAll hrest
    exact ⟨hconcerns.ne_register, hconcerns.ne_watch⟩

theorem stopped_stop (s : Server) (ids : List ConnectionId) :
    (s.run (s.stopStepsIn ids)).stopped = true := by
  cases hstopped : s.stopped with
  | true => rwa [stopStepsIn, if_pos hstopped, run_nil]
  | false => exact (phase_stop hstopped ids).1

/-- The stop gives the descriptor of every connection back that the registry has. -/
theorem drop_mem_stopStepsIn (hrunning : s.stopped = false) {ids : List ConnectionId}
    (hdrained : c.toTicket ∈ (s.registry.releaseAll ids).1)
    (hc : s.connection? c.serial = some c) : .drop c.serial ∈ s.stopStepsIn ids := by
  rw [stopStepsIn_eq hrunning]
  refine List.mem_append_right _ (List.mem_flatMap.mpr ⟨c.toTicket, hdrained, ?_⟩)
  simp only [abandonSteps, hc]
  split_ifs
  · simp
  · exact List.mem_singleton_self _

/-- A stop is orderly at all points and leaves nothing watched. -/
theorem Watchful.stopping (h : s.Watchful R none) (hR : R) (hharmless : s.table.Harmless)
    (hrunning : s.stopped = false) {ids : List ConnectionId}
    (hids : ∀ t, s.registry.Live t → t.id ∈ ids) :
    Throughout Orderly s (s.stopStepsIn ids) ∧ (s.run (s.stopStepsIn ids)).Watchful False none ∧
      (s.run (s.stopStepsIn ids)).watchlist.watches = [] := by
  have hadds := ne_adding_stopStepsIn hrunning ids
  have hregister := fun step hstep => (hadds step hstep).1
  have hwatch := fun step hstep => (hadds step hstep).2
  have hdeaf := (phase_stop hrunning ids).2
  have hfinal := s.isFinal_abandonAll (s.registry.releaseAll ids).1
  let first : List Step := [.halt, .closeListener, .joinWorkers, .drain ids]
  -- the registry has its connections up to the drain
  have h₁ := h.final .halt rfl fun hr => ⟨hr, rfl⟩
  have h₂ := h₁.final .closeListener rfl fun hr => ⟨hr, rfl⟩
  have h₃ := h₂.final .joinWorkers rfl fun hr => ⟨hr, rfl⟩
  have h₄ : (s.run first).Watchful False none := h₃.final (.drain ids) rfl False.elim
  obtain ⟨hpoints, hend⟩ := h₄.abandonAll (s := s) (by rwa [table_run])
    (s.registry.releaseAll ids).1
  have hsteps : (s.run first).run ((s.registry.releaseAll ids).1.flatMap s.abandonSteps) =
      s.run (s.stopStepsIn ids) := by
    rw [stopStepsIn_eq hrunning, run_append]
  rw [hsteps] at hend
  refine ⟨?_, hend, ?_⟩
  · have hrest := hpoints.orderly hfinal fun hrunning => by
      rw [(s.phase_halting ids).1] at hrunning
      cases hrunning
    rw [stopStepsIn_eq hrunning]
    exact .cons ⟨none, h.imp fun _ => hR⟩ (.cons ⟨none, h₁.imp fun _ => hR⟩
      (.cons ⟨none, h₂.imp fun _ => hR⟩ (.cons ⟨none, h₃.imp fun _ => hR⟩ hrest)))
  · -- whoever was watched was live, and the descriptor was given back
    refine List.eq_nil_iff_forall_not_mem.mpr fun w hw => ?_
    rcases hend.owner w hw with ⟨-, hlistening⟩ | ⟨k, c, -, rfl, -⟩
    · rw [hdeaf] at hlistening
      cases hlistening
    · rcases h.owner _ ((s.watches_run hwatch).subset hw) with
        ⟨hlistener, -⟩ | ⟨j, c', hc', heq, -, hlive⟩
      · cases congrArg Watch.edgeTriggered hlistener
      · obtain rfl := h.serial j c' hc'
        have hdrained := h.sound.mem_releaseAll_iff.mpr ⟨hlive hR, hids _ (hlive hR)⟩
        have hdrop := drop_mem_stopStepsIn hrunning hdrained hc'
        exact descriptor_ne_of_drop hregister hwatch hc' hdrop _ hw (congrArg Watch.descriptor heq)

/-! ## Admissions -/

/-- The connection can be watched. -/
def Ready (s : Server) (k : Nat) : Prop :=
  ∃ c, s.connection? k = some c ∧ c.Intact ∧ s.registry.Live c.toTicket

theorem Ready.apply (h : s.Ready k) (hsound : s.registry.Sound) (hharmless : s.table.Harmless)
    (hstep : step.Concerns k)
    (hkeeps : step.breaks = false ∧ step ≠ .unregister k) : (s.apply step).Ready k := by
  obtain ⟨c, hc, hintact, hlive⟩ := h
  obtain ⟨hbreaks, hregistered⟩ := hkeeps
  refine ⟨step.effect s.table k c, ?_, Step.intact_effect hharmless hintact hbreaks, ?_⟩
  · rw [s.connection?_apply hstep.ne_register, hc, Option.map_some]
  · rw [s.registry_apply hstep.ne_register, Step.effect_ticket, hsound.live_releaseAll_iff]
    exact ⟨hlive, fun hid => hregistered (s.givenUp_of_concerns hstep hid).1⟩

/-- A connection stays ready until it is taken down. -/
theorem Ready.run (h : s.Ready k) (hsound : s.registry.Sound) (hharmless : s.table.Harmless)
    (hsteps : ∀ step ∈ steps, step.Concerns k)
    (hkeeps : ∀ step ∈ steps, step.breaks = false ∧ step ≠ .unregister k) :
    (s.run steps).Ready k := by
  induction steps generalizing s with
  | nil => exact h
  | cons step steps ih =>
      obtain ⟨hstep, hrest⟩ := List.forall_mem_cons.mp hsteps
      obtain ⟨hkeep, hkeeps⟩ := List.forall_mem_cons.mp hkeeps
      refine ih (h.apply hsound hharmless hstep hkeep) ?_ ?_ hrest hkeeps
      · exact (moves_apply hsound step).sound hsound
      · rwa [(s.apply_cases step).1]

theorem Watchful.settle_ready (h : s.Watchful R (some k)) (hready : s.Ready k) :
    s.Watchful R none := by
  obtain ⟨c, hc, -, hlive⟩ := hready
  refine h.settle fun _ c' hc' _ => ?_
  rw [hc, Option.some.injEq] at hc'
  exact hc' ▸ hlive

/-- A connection that was registered just now is withdrawn, and ready to be watched. -/
theorem Watchful.enter (h : s.Watchful True none) {o : Opening}
    (hroom : s.registry.live < s.registry.capacity)
    (hfresh : ∀ t, s.registry.Live t → t.descriptor ≠ o.descriptor)
    (hstream : o.stream.shutDown = false ∧ o.stream.dropped = false) :
    let c := (s.registry.enter o).1
    let entered : Server :=
      { s with registry := (s.registry.enter o).2, connections := s.connections.push c }
    entered.Withdrawn True c.serial ∧ entered.Ready c.serial := by
  intro c entered
  have hunmapped := h.sound.mapped?_eq_none_iff.mpr hfresh
  have hserial : c.serial = s.connections.size := by
    rw [← h.issued]
    exact Registry.enter_serial s.registry o
  have hold : ∀ {t}, s.registry.Live t → entered.registry.Live t :=
    fun hlive => (h.sound.live_enter_iff hroom).mpr (.inr hlive)
  have hnew : entered.registry.Live c.toTicket := (h.sound.live_enter_iff hroom).mpr (.inl rfl)
  have hplace : ∀ c', entered.connection? c.serial = some c' → c' = c := by
    intro c' hc'
    rcases connection?_push hc' with ⟨-, heq⟩ | ⟨hlt, -⟩
    · exact heq
    · rw [hserial] at hlt
      exact absurd hlt (Nat.lt_irrefl _)
  have hwatchful : entered.Watchful True (some c.serial) :=
    { sound := h.sound.enter hroom hunmapped
      issued := by rw [Array.size_push, Registry.issued_enter, h.issued]
      serial := fun j c' hc' => by
        rcases connection?_push hc' with ⟨rfl, rfl⟩ | ⟨-, hc'⟩
        · exact hserial
        · exact h.serial j c' hc'
      once := h.once
      owner := fun w hw => by
        rcases h.owner w hw with hlistener | ⟨j, c', hc', heq, hintact, hlive⟩
        · exact .inl hlistener
        · exact .inr ⟨j, c', connection?_push_of_lt hc', heq, hintact, fun hr => hold (hlive hr)⟩
      live := fun hr j c' hc' hopen hne => by
        rcases connection?_push hc' with ⟨rfl, -⟩ | ⟨-, hc'⟩
        · exact absurd (congrArg some hserial) hne
        · exact hold (h.live hr j c' hc' hopen nofun) }
  refine ⟨⟨hwatchful, fun c' hc' hw => ?_, fun _ c' hc' t ht hid => ?_⟩, c, ?_, ?_, hnew⟩
  · -- whoever is watched has another descriptor
    obtain rfl := hplace c' hc'
    rcases h.owner _ hw with ⟨hlistener, -⟩ | ⟨j, c', -, heq, -, hlive⟩
    · cases congrArg Watch.edgeTriggered hlistener
    · exact hfresh _ (hlive trivial) (congrArg Watch.descriptor heq).symm
  · obtain rfl := hplace c' hc'
    exact ht.eq_of_id_eq hnew hid
  · rw [hserial]
    exact Array.getElem?_push_size
  · exact ⟨nofun, hstream.1, hstream.2⟩

/-- A connection that is intact and live can be watched. -/
theorem Watchful.watch (h : s.Watchful R none) (hready : s.Ready k) :
    (s.apply (.watch k)).Watchful R none := by
  obtain ⟨c, hc, hintact, hlive⟩ := hready
  simp only [Server.apply, hc, Watchlist.add]
  cases hwatching : s.watchlist.watching c.descriptor with
  | true => exact h
  | false =>
      exact
        { sound := h.sound
          issued := h.issued
          serial := h.serial
          once := by
            refine List.nodup_cons.mpr ⟨fun hmem => ?_, h.once⟩
            obtain ⟨w, hw, heq⟩ := List.mem_map.mp hmem
            have hno := List.any_eq_false.mp hwatching w hw
            exact hno (beq_iff_eq.mpr heq)
          owner := fun w hw => by
            rcases List.mem_cons.mp hw with rfl | hw
            · exact .inr ⟨k, c, hc, rfl, hintact, fun _ => hlive⟩
            · exact h.owner w hw
          live := h.live }

/-- An admission behind the registration, where the connection cannot be watched.  It never was
watched, so that it can be taken down in this order. -/
theorem Withdrawn.undo (h : s.Withdrawn R k) (hharmless : s.table.Harmless) :
    Throughout (fun u _ => ∃ busy, u.Watchful R busy) s
        [.activate k, .notifyOpened k, .countOpened, .unregister k, .beginClose k, .markClosed k,
          .notifyClosed k, .countClosed, .drop k] ∧
      (s.run [.activate k, .notifyOpened k, .countOpened, .unregister k, .beginClose k,
        .markClosed k, .notifyClosed k, .countClosed, .drop k]).Watchful R none := by
  refine h.retire hharmless (by simp [Step.Concerns]) (shut_run hharmless (by simp) ?_)
  simp

/-- An admission behind the registration, where the connection can be watched. -/
theorem Withdrawn.admit (h : s.Withdrawn True k) (hharmless : s.table.Harmless)
    (hready : s.Ready k) :
    Throughout (fun u _ => ∃ busy, u.Watchful True busy) s
        [.activate k, .notifyOpened k, .countOpened, .watch k] ∧
      (s.run [.activate k, .notifyOpened k, .countOpened, .watch k]).Watchful True none := by
  let first : List Step := [.activate k, .notifyOpened k, .countOpened]
  have hfirst : ∀ step ∈ first, step.Concerns k := by simp [first, Step.Concerns]
  have hready := hready.run h.sound hharmless hfirst (by simp [first, Step.breaks])
  have hsettled := (h.run hharmless hfirst).toWatchful.settle_ready hready
  have hend := hsettled.watch hready
  change Throughout _ s (first ++ [.watch k]) ∧ (s.run (first ++ [.watch k])).Watchful True none
  rw [run_append]
  exact ⟨.append (h.throughout hharmless hfirst) (.cons ⟨none, hsettled⟩ (.nil ⟨none, hend⟩)), hend⟩

theorem Watchful.admission (h : s.Watchful True none) (hharmless : s.table.Harmless) {i : Incoming}
    (hfresh : ∀ t, s.registry.Live t → t.descriptor ≠ i.descriptor)
    (hstream : i.stream.shutDown = false ∧ i.stream.dropped = false) :
    Throughout (fun u _ => ∃ busy, u.Watchful True busy) s (s.admissionSteps i) ∧
      (s.run (s.admissionSteps i)).Watchful True none := by
  unfold admissionSteps admissionOf
  cases i.configureError? with
  | some e => exact ⟨.nil ⟨none, h⟩, h⟩
  | none =>
      rcases h.sound.registration_cases (s.openingOf i) with
        ⟨-, -, hrefused⟩ | ⟨-, hroom, hregistered⟩ | ⟨t, hlive, hdescriptor, -, -⟩
      · have hend : (s.apply (.register (s.openingOf i))).Watchful True none := by
          simp only [Server.apply, hrefused]
          exact h
        simp only [hrefused]
        exact ⟨.cons ⟨none, h⟩ (.nil ⟨none, hend⟩), hend⟩
      · obtain ⟨hwithdrawn, hready⟩ := h.enter (o := s.openingOf i) hroom hfresh hstream
        have hentered := apply_register hregistered
        rw [← hentered] at hwithdrawn hready
        have hharmless' : (s.apply (.register (s.openingOf i))).table.Harmless := by
          rwa [(s.apply_cases _).1]
        simp only [hregistered]
        by_cases hwatch : s.watchFails i = true
        · rw [if_pos hwatch]
          obtain ⟨hpoints, hend⟩ := hwithdrawn.undo hharmless'
          rw [run_cons]
          exact ⟨.cons ⟨none, h⟩ hpoints, hend⟩
        · rw [if_neg hwatch]
          obtain ⟨hpoints, hend⟩ := hwithdrawn.admit hharmless' hready
          rw [run_cons]
          exact ⟨.cons ⟨none, h⟩ hpoints, hend⟩
      · exact absurd hdescriptor (hfresh t hlive)

theorem isFinal_admissionSteps (s : Server) (i : Incoming) :
    ∀ step ∈ s.admissionSteps i, step.isFinal = false := by
  unfold admissionSteps
  split <;> simp [Step.isFinal]

end MessageServer.Server
