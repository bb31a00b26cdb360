import MessageServer.Proofs.Dispatch.Frame

/-!
# Where a dispatch sends a record

A dispatch drops a record or looks into a table of 256 places.  What comes out is what the check of
a receiver and the history of the table say.

* `HandlerTable.Made` is a table with the installations that made it, and `HandlerTable.Latest` the
  last of them for one message type.  `Follows.register` is the step: the table answers with the
  latest installation of every type, and one more keeps it so.  `Made.follows` is the run.
* `HandlerTable.noting` makes every handler of a table write a note when it is called.  What is
  written is the list of the calls: `Desk.Runs` says that it has one entry, and `Desk.Routes` that
  it is empty where a record is dropped.
* `dispatch_eq_dropped_iff`: nothing but a reason makes a dispatch drop its record.
  `dispatch_congr`: a table is looked at in one place at most.
* `routes_as_installed` is the main statement.
-/

namespace MessageServer

theorem MessageType.code_injective : Function.Injective MessageType.code := by
  intro type other h
  rw [← MessageType.ofCode?_eq_some_iff, MessageType.ofCode?_code, Option.some_inj] at h
  exact h.symm

namespace HandlerTable

variable {t : HandlerTable} {installs : List (MessageType × Handler)} {type : MessageType}
  {h : Handler}

/-! ## One place for each type -/

theorem place_injective : Function.Injective place := by
  intro type other hplace
  exact MessageType.code_injective (UInt8.toNat_inj.mp (Fin.mk.inj hplace))

theorem get_register (t : HandlerTable) (type other : MessageType) (h : Handler) :
    (t.register type h).2.get other = if other = type then some h else t.get other := by
  have hplace : (place type).val = (place other).val ↔ other = type := by
    rw [← Fin.ext_iff, place_injective.eq_iff, eq_comm]
  simp only [get, register, Fin.getElem_fin, Vector.getElem_set, hplace]

theorem get_empty (type : MessageType) : empty.get type = none := by
  simp [get, empty]

/-! ## Tables and what was installed in them -/

/-- The handlers of the default table. -/
def defaults : List (MessageType × Handler) :=
  [(.newOrder, Handler.order), (.cancel, Handler.order), (.replace, Handler.order),
    (.marketData, Handler.marketData), (.heartbeat, Handler.heartbeat)]

/-- The table came about by these installations, the last one at the end. -/
inductive Made : List (MessageType × Handler) → HandlerTable → Prop where
  | empty : Made [] HandlerTable.empty
  | default : Made defaults HandlerTable.default
  | register {installs : List (MessageType × Handler)} {t : HandlerTable} (made : Made installs t)
      (type : MessageType) (h : Handler) : Made (installs ++ [(type, h)]) (t.register type h).2

/-- The handler was installed for the type, and none was after it. -/
def Latest (installs : List (MessageType × Handler)) (type : MessageType) (h : Handler) : Prop :=
  ∃ before after, installs = before ++ (type, h) :: after ∧ ∀ p ∈ after, p.1 ≠ type

theorem lookup_reverse_eq_some_iff :
    installs.reverse.lookup type = some h ↔ Latest installs type h := by
  rw [List.lookup_eq_some_iff]
  constructor
  · rintro ⟨after, before, hinstalls, hafter⟩
    refine ⟨before.reverse, after.reverse, ?_, fun p hp => ?_⟩
    · rw [← List.reverse_reverse installs, hinstalls]
      simp
    · exact (bne_iff_ne.mp (hafter p (List.mem_reverse.mp hp))).symm
  · rintro ⟨before, after, rfl, hafter⟩
    refine ⟨after.reverse, before.reverse, by simp, fun p hp => ?_⟩
    exact bne_iff_ne.mpr (hafter p (List.mem_reverse.mp hp)).symm

theorem lookup_reverse_eq_none_iff :
    installs.reverse.lookup type = none ↔ ∀ p ∈ installs, p.1 ≠ type := by
  rw [List.lookup_eq_none_iff]
  simp only [List.mem_reverse, bne_iff_ne]
  exact forall₂_congr fun p _ => ne_comm

/-- The table has the latest handler of every type. -/
def Follows (t : HandlerTable) (installs : List (MessageType × Handler)) : Prop :=
  ∀ type, t.get type = installs.reverse.lookup type

theorem Follows.register (hfollows : t.Follows installs) (type : MessageType) (h : Handler) :
    (t.register type h).2.Follows (installs ++ [(type, h)]) := by
  intro other
  rw [get_register, List.reverse_append, List.reverse_singleton, List.singleton_append,
    List.lookup_cons, hfollows other]
  by_cases hsame : other = type
  · rw [if_pos hsame, beq_iff_eq.mpr hsame]
  · rw [if_neg hsame, beq_eq_false_iff_ne.mpr hsame]

theorem Follows.registerAll (hfollows : t.Follows installs) (hs : List (MessageType × Handler)) :
    (t.registerAll hs).Follows (installs ++ hs) := by
  induction hs generalizing t installs with
  | nil => rwa [List.append_nil]
  | cons p rest ih =>
      have hrest := ih (hfollows.register p.1 p.2)
      rwa [List.append_assoc] at hrest

theorem Made.follows (made : Made installs t) : t.Follows installs := by
  have hempty : HandlerTable.empty.Follows [] := get_empty
  induction made with
  | empty => exact hempty
  | default => exact hempty.registerAll defaults
  | register _ type h ih => exact ih.register type h

theorem Made.get_eq_some_iff (made : Made installs t) :
    t.get type = some h ↔ Latest installs type h := by
  rw [made.follows type, lookup_reverse_eq_some_iff]

theorem Made.get_eq_none_iff (made : Made installs t) :
    t.get type = none ↔ ∀ p ∈ installs, p.1 ≠ type := by
  rw [made.follows type, lookup_reverse_eq_none_iff]

end HandlerTable

/-! ## Handlers that take notes -/

/-- Decides like the handler, and writes a note first. -/
def Handler.noting (note : Request → List DispatchEvent) (h : Handler) : Handler :=
  fun q => { h q with events := note q ++ (h q).events }

/-- Every handler of the table writes a note when it is called, with its place on it. -/
def HandlerTable.noting (t : HandlerTable) (note : Fin 256 → Request → List DispatchEvent) :
    HandlerTable :=
  { t with handlers := Vector.ofFn fun i => t.handlers[i].map (Handler.noting (note i)) }

theorem HandlerTable.get_noting (t : HandlerTable)
    (note : Fin 256 → Request → List DispatchEvent) (type : MessageType) :
    (t.noting note).get type = (t.get type).map (Handler.noting (note (place type))) := by
  simp [get, noting]

namespace Desk

open HandlerTable

variable {d : Desk} {table table' : HandlerTable} {installs : List (MessageType × Handler)}
  {readings : Readings} {r : Record} {type : MessageType} {h : Handler}

/-! ## What a handler that runs comes to -/

theorem standing_sendAck (d : Desk) (request : Record) (ack : MessageType) (timestamp : UInt64) :
    (d.sendAck request ack timestamp).2.1.connection.standing = d.connection.standing := by
  obtain ⟨_, _, hsend⟩ := d.connection.send_cases (request.acknowledge ack timestamp)
  unfold sendAck
  split
  · rfl
  · dsimp only
    split
    · rw [hsend]
    · rw [hsend]

theorem length_sendAck (d : Desk) (request : Record) (ack : MessageType) (timestamp : UInt64) :
    (d.sendAck request ack timestamp).2.2.length = 1 := by
  unfold sendAck
  split
  · rfl
  · dsimp only
    split
    · rfl
    · rfl

theorem handle_ne_dropped (d : Desk) (readings : Readings) (h : Handler) (r : Record)
    (reason : DropReason) : (d.handle readings h r).1 ≠ .dropped reason := by
  rw [handle_eq]
  split
  · exact nofun
  · dsimp only
    split
    · exact nofun
    · exact nofun

/-- Of a handler it matters only what it decides on one request. -/
theorem handle_decision (d : Desk) (readings : Readings) (h : Handler) (r : Record) :
    d.handle readings (fun _ => d.decision readings h r) r = d.handle readings h r := by
  rw [handle_eq, handle_eq]
  rfl

theorem handle_noting (d : Desk) (readings : Readings) (h : Handler) (r : Record)
    (note : Request → List DispatchEvent) :
    d.handle readings (h.noting note) r =
      ((d.handle readings h r).1, (d.handle readings h r).2.1,
        note ⟨r, d.connection, readings.handled⟩ ++ (d.handle readings h r).2.2) := by
  -- apart from the note both handlers decide the same
  have hevents : (d.decision readings (h.noting note) r).events =
      note ⟨r, d.connection, readings.handled⟩ ++ (d.decision readings h r).events := rfl
  have hreply : (d.decision readings (h.noting note) r).reply = (d.decision readings h r).reply :=
    rfl
  have hdecided : d.decided readings (h.noting note) r = d.decided readings h r := rfl
  rw [handle_eq, handle_eq, hevents, hreply, hdecided]
  cases (d.decision readings h r).reply with
  | silent => simp only [List.append_assoc]
  | ack ack => simp only [List.append_assoc]

/-! ## Exactly the reasons to drop a record -/

/-- A dispatch looks at the handler for the type of a valid record, and at no other. -/
theorem dispatch_congr (hroute : ∀ type, r.validate = .ok type → table'.get type = table.get type) :
    d.dispatch table' readings r = d.dispatch table readings r := by
  cases hcheck : r.validate with
  | ok type => rw [dispatch_of_ok hcheck, dispatch_of_ok hcheck, hroute type hcheck]
  | error e =>
      rcases Record.validate_error_cases hcheck with rfl | rfl
      · rw [dispatch_of_unknown hcheck, dispatch_of_unknown hcheck]
      · obtain ⟨type, hdrop⟩ := dispatch_of_invalid d readings hcheck
        rw [hdrop, hdrop]

/-- Nothing else than a reason makes a dispatch drop its record. -/
theorem dispatch_eq_dropped_iff {reason : DropReason} :
    (d.dispatch table readings r).1 = .dropped reason ↔ reason.Applies table r := by
  constructor
  · intro hdropped
    rcases exists_applies_or_routed table r with ⟨other, happlies⟩ | ⟨type, h, hcheck, hroute⟩
    · obtain ⟨event, hdrop⟩ := dispatch_of_applies d readings happlies
      rw [hdrop] at hdropped
      cases hdropped
      exact happlies
    · rw [dispatch_of_routed hcheck hroute] at hdropped
      exact absurd hdropped (d.handle_ne_dropped readings h r reason)
  · intro happlies
    obtain ⟨event, hdrop⟩ := dispatch_of_applies d readings happlies
    rw [hdrop, drop]

/-! ## Exactly one call -/

/-- The handler runs once, on this record and this connection: a table that takes notes has one note
of it, and everything follows from what the handler decides on that request. -/
structure Runs (d : Desk) (table : HandlerTable) (readings : Readings) (r : Record)
    (type : MessageType) (h : Handler) : Prop where
  noted : ∀ note, d.dispatch (table.noting note) readings r =
    ((d.dispatch table readings r).1, (d.dispatch table readings r).2.1,
      note (place type) ⟨r, d.connection, readings.handled⟩ ++
        (d.dispatch table readings r).2.2)
  once : d.dispatch table readings r =
    d.handle readings (fun _ => h ⟨r, d.connection, readings.handled⟩) r
  standing : (d.dispatch table readings r).2.1.connection.standing =
    (h ⟨r, d.connection, readings.handled⟩).standing
  events : ∃ answer, (d.dispatch table readings r).2.2 =
    (h ⟨r, d.connection, readings.handled⟩).events ++ answer ∧ answer.length ≤ 1

theorem runs (hcheck : r.validate = .ok type) (hroute : table.get type = some h) :
    d.Runs table readings r type h := by
  have hdispatch : d.dispatch table readings r = d.handle readings h r :=
    dispatch_of_routed hcheck hroute
  constructor
  case noted =>
    intro note
    have hnoting : (table.noting note).get type = some (h.noting (note (place type))) := by
      rw [get_noting, hroute, Option.map_some]
    rw [dispatch_of_routed hcheck hnoting, hdispatch, handle_noting]
  case once =>
    rw [hdispatch]
    exact (d.handle_decision readings h r).symm
  case standing =>
    rw [hdispatch, handle_eq]
    split
    · rfl
    · next ack _ => exact standing_sendAck (d.decided readings h r) r ack readings.acknowledged
  case events =>
    rw [hdispatch, handle_eq]
    split
    · exact ⟨[], rfl, Nat.zero_le 1⟩
    · next ack _ =>
        have hlength := length_sendAck (d.decided readings h r) r ack readings.acknowledged
        exact ⟨_, rfl, Nat.le_of_eq hlength⟩

/-! ## What was installed decides -/

/-- A record is dropped for the reason that its check gives, or because nothing was installed for
its type; then no handler runs, and nothing changes but a counter.  Otherwise the latest handler for
its type runs. -/
structure Routes (d : Desk) (installs : List (MessageType × Handler)) (table : HandlerTable)
    (readings : Readings) (r : Record) : Prop where
  unknown_iff : ∀ code, (d.dispatch table readings r).1 = .dropped (.unknownType code) ↔
    r.validate = .error (.unknownType code)
  invalid_iff : (d.dispatch table readings r).1 = .dropped .invalid ↔
    r.validate = .error .invalidHeader
  noHandler_iff : ∀ type, (d.dispatch table readings r).1 = .dropped (.noHandler type) ↔
    r.validate = .ok type ∧ ∀ p ∈ installs, p.1 ≠ type
  dropped : ∀ reason, (d.dispatch table readings r).1 = .dropped reason →
    (∃ event, d.dispatch table readings r =
      (.dropped reason, { d with counters := d.counters.recordDrop }, [event])) ∧
    ∀ note, d.dispatch (table.noting note) readings r = d.dispatch table readings r
  otherwise : (∀ reason, (d.dispatch table readings r).1 ≠ .dropped reason) →
    ∃ type h, r.validate = .ok type ∧ Latest installs type h ∧ d.Runs table readings r type h

theorem routes (made : Made installs table) (d : Desk) (readings : Readings) (r : Record) :
    d.Routes installs table readings r where
  unknown_iff _ := dispatch_eq_dropped_iff
  invalid_iff := dispatch_eq_dropped_iff
  noHandler_iff type := by
    rw [dispatch_eq_dropped_iff, DropReason.Applies, made.get_eq_none_iff]
  dropped reason hdropped := by
    have happlies := dispatch_eq_dropped_iff.mp hdropped
    refine ⟨dispatch_of_applies d readings happlies, fun note => ?_⟩
    refine dispatch_congr fun type hcheck => ?_
    rw [get_noting, happlies.get_eq_none hcheck, Option.map_none]
  otherwise hhandled := by
    rcases exists_applies_or_routed table r with ⟨reason, happlies⟩ | ⟨type, h, hcheck, hroute⟩
    · exact absurd (dispatch_eq_dropped_iff.mpr happlies) (hhandled reason)
    · exact ⟨type, h, hcheck, made.get_eq_some_iff.mp hroute, runs hcheck hroute⟩

end Desk

/-- An installation answers with the one that it replaces, and no other type notices. -/
structure HandlerTable.Replaces (installs : List (MessageType × Handler)) (table : HandlerTable)
    (type : MessageType) (h : Handler) : Prop where
  answer_some : ∀ old, (table.register type h).1 = some old ↔ Latest installs type old
  answer_none : (table.register type h).1 = none ↔ ∀ p ∈ installs, p.1 ≠ type
  routed : (table.register type h).2.get type = some h
  others : ∀ other ≠ type, (table.register type h).2.get other = table.get other
  dispatch_others : ∀ (d : Desk) (readings : Readings) (r : Record), r.validate ≠ .ok type →
    d.dispatch (table.register type h).2 readings r = d.dispatch table readings r

theorem HandlerTable.Made.replaces {installs : List (MessageType × Handler)} {table : HandlerTable}
    (made : Made installs table) (type : MessageType) (h : Handler) :
    table.Replaces installs type h where
  answer_some _ := made.get_eq_some_iff
  answer_none := made.get_eq_none_iff
  routed := by rw [get_register, if_pos rfl]
  others other hother := by rw [get_register, if_neg hother]
  dispatch_others d readings r hcheck := by
    refine Desk.dispatch_congr fun other hother => ?_
    have hne : other ≠ type := fun hsame => hcheck (hsame ▸ hother)
    rw [get_register, if_neg hne]

/-- A dispatch routes exactly as the check of the record and the history of the table say. -/
theorem routes_as_installed {installs : List (MessageType × Handler)} {table : HandlerTable}
    (made : HandlerTable.Made installs table) :
    (∀ (d : Desk) (readings : Readings) (r : Record), d.Routes installs table readings r) ∧
      ∀ (type : MessageType) (h : Handler), table.Replaces installs type h :=
  ⟨Desk.routes made, made.replaces⟩

/-- The default table with another handler for new orders, which answers nothing.  A new order runs
that one, a login runs none, and the next installation for new orders gets it back. -/
theorem routes_after_reinstallation :
    let silent := Handler.replying .silent
    let table := (HandlerTable.default.register .newOrder silent).2
    let installs := HandlerTable.defaults ++ [(.newOrder, silent)]
    let pool : Pool := ⟨#[⟨false, Record.zero⟩], 0⟩
    let d : Desk :=
      { connection :=
          { id := ⟨0, 0⟩
            serial := 0
            descriptor := 5
            peer := .v4 .localhost 9000
            standing := ⟨.active, 0, false⟩
            stream := .fresh }
        pools := ⟨pool, pool⟩
        counters := .zero }
    let readings : Readings := ⟨1, 2, 3, 4⟩
    let order := Record.envelope 1 .newOrder 1
    let login := Record.envelope 2 .login 1
    HandlerTable.Made installs table ∧
      (∃ h, HandlerTable.Latest installs .newOrder h ∧ d.Runs table readings order .newOrder h) ∧
      (d.dispatch table readings login).1 = .dropped (.noHandler .login) ∧
      (table.register .newOrder Handler.order).1 = some silent := by
  intro silent table installs pool d readings order login
  have hmade : HandlerTable.Made installs table := .register .default .newOrder silent
  obtain ⟨hroutes, hreplaces⟩ := routes_as_installed hmade
  have hhandled : (d.dispatch table readings order).1 = .handled 4 false := rfl
  refine ⟨hmade, ?_, ?_, ?_⟩
  · have hnot : ∀ reason, (d.dispatch table readings order).1 ≠ .dropped reason := by
      intro reason
      rw [hhandled]
      exact nofun
    obtain ⟨type, h, hcheck, hlatest, hruns⟩ := (hroutes d readings order).otherwise hnot
    obtain rfl : MessageType.newOrder = type := Except.ok.inj hcheck
    exact ⟨h, hlatest, hruns⟩
  · exact ((hroutes d readings login).noHandler_iff .login).mpr ⟨rfl, by decide⟩
  · exact ((hreplaces .newOrder Handler.order).answer_some silent).mpr
      ⟨HandlerTable.defaults, [], rfl, by decide⟩

end MessageServer
