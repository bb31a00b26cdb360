import Mathlib.Algebra.Ring.Nat
import Mathlib.Data.List.Induction
import Mathlib.Order.Bounds.Basic
import MessageServer.Counters

/-!
# What the counters tell of the past

The counters start at zero, and each event is counted as it comes.  Most of what they show is a
matter of how often something happened.  The number of active connections is not: a close that finds
no connection active is lost, so the order of the opens and closes matters.

* `Counters.Tallied` says what the counts and the sums show: `tallied_after`.  None of it depends on
  the order: `Tallied.withoutOccupancy_eq`.
* `net` is how many more opens than closes there were.  As many connections are active as it lies
  above its lowest value so far, because each lost close is a new lowest value.
* `Counters.Occupied` says this, and what the peak is; `Occupied.concat` is the step and
  `occupied_after` the run.
* `events_counted` is the main statement.
-/

namespace MessageServer

/-! ## Events -/

namespace CounterEvent

def isMessage : CounterEvent → Bool
  | message _ => true
  | _ => false

def isWire : CounterEvent → Bool
  | wire _ => true
  | _ => false

/-- The time that handling a record took; nothing for other events. -/
def latency : CounterEvent → Nat
  | message latency => latency.toNat
  | _ => 0

/-- The time that a record was on its way; nothing for other events. -/
def wireLatency : CounterEvent → Nat
  | wire latency => latency.toNat
  | _ => 0

/-- By how much an event makes the opens more than the closes. -/
def change : CounterEvent → Int
  | opened => 1
  | closed => -1
  | _ => 0

theorem change_le (e : CounterEvent) : e.change ≤ if e == .opened then 1 else 0 := by
  cases e with
  | opened => exact Int.le_refl 1
  | closed => decide
  | message _ | wire _ | drop | shortRead | sendFailure => exact Int.le_refl 0

end CounterEvent

/-! ## Along the events -/

namespace Counters

/-- How many more opens than closes there were. -/
def net (events : List CounterEvent) : Int :=
  events.count .opened - events.count .closed

theorem net_concat (events : List CounterEvent) (e : CounterEvent) :
    net (events ++ [e]) = net events + e.change := by
  have hone : ([e].count .opened : Int) - [e].count .closed = e.change := by
    cases e <;> rfl
  rw [net, net, List.count_append, List.count_append]
  omega

/-- The values that `f` has had, from before the first event on. -/
def along {α : Type} (f : List CounterEvent → α) (events : List CounterEvent) : Set α :=
  {x | ∃ past, past <+: events ∧ f past = x}

section Along

variable {α : Type} {f : List CounterEvent → α}

@[simp] theorem along_nil : along f [] = {f []} := by
  ext x
  simp [along, eq_comm]

theorem along_concat (events : List CounterEvent) (e : CounterEvent) :
    along f (events ++ [e]) = insert (f (events ++ [e])) (along f events) := by
  ext x
  constructor
  · rintro ⟨past, hpast, rfl⟩
    rcases List.prefix_concat_iff.mp hpast with rfl | hpast
    · exact Set.mem_insert _ _
    · exact Set.mem_insert_of_mem _ ⟨past, hpast, rfl⟩
  · rintro (rfl | ⟨past, hpast, rfl⟩)
    · exact ⟨_, List.prefix_refl _, rfl⟩
    · exact ⟨past, hpast.trans (List.prefix_append _ _), rfl⟩

end Along

variable {c d : Counters} {events : List CounterEvent}

/-- The counters when these events have happened. -/
def after (events : List CounterEvent) : Counters :=
  events.foldl count zero

@[simp] theorem after_concat (events : List CounterEvent) (e : CounterEvent) :
    after (events ++ [e]) = (after events).count e :=
  List.foldl_append

/-! ## Counts and sums -/

/-- By how much an event raises the counts and the sums. -/
structure Raises (c : Counters) (e : CounterEvent) (d : Counters) : Prop where
  messages : d.messages = c.messages + if e.isMessage then 1 else 0
  latencySamples : d.latencySamples = c.latencySamples + if e.isMessage then 1 else 0
  latencySum : d.latencySum = c.latencySum + UInt64.ofNat e.latency
  wireLatencySamples : d.wireLatencySamples = c.wireLatencySamples + if e.isWire then 1 else 0
  wireLatencySum : d.wireLatencySum = c.wireLatencySum + UInt64.ofNat e.wireLatency
  dropped : d.dropped = c.dropped + if e == .drop then 1 else 0
  shortReads : d.shortReads = c.shortReads + if e == .shortRead then 1 else 0
  sendFailures : d.sendFailures = c.sendFailures + if e == .sendFailure then 1 else 0
  connections : d.connections = c.connections + if e == .opened then 1 else 0

theorem raises_count (c : Counters) (e : CounterEvent) : c.Raises e (c.count e) := by
  cases e with
  | closed =>
      rw [count, connectionClosed]
      split <;> constructor <;> simp [CounterEvent.isMessage, CounterEvent.isWire,
        CounterEvent.latency, CounterEvent.wireLatency]
  | message _ | wire _ | drop | shortRead | sendFailure | opened =>
      constructor <;> simp [count, recordMessage, recordWireLatency, recordDrop, recordShortRead,
        recordSendFailure, connectionOpened, CounterEvent.isMessage, CounterEvent.isWire,
        CounterEvent.latency, CounterEvent.wireLatency]

/-- A word that is only ever raised shows the sum of all raises, modulo the words. -/
theorem toNat_after {field : Counters → UInt64} {raise : CounterEvent → Nat}
    (start : field zero = 0) (step : ∀ c e, field (c.count e) = field c + UInt64.ofNat (raise e))
    (events : List CounterEvent) :
    (field (after events)).toNat = (events.map raise).sum % UInt64.size := by
  induction events using List.reverseRecOn with
  | nil => rw [after, List.foldl_nil, start]; rfl
  | append_singleton events e ih =>
      rw [after_concat, step, UInt64.toNat_add, ih, UInt64.toNat_ofNat', List.map_append,
        List.sum_append, List.map_singleton, List.sum_singleton, ← Nat.add_mod]

/-- A word that is raised by one shows how often that happened, modulo the words. -/
theorem toNat_after_of_one {field : Counters → UInt64} {p : CounterEvent → Bool}
    (start : field zero = 0) (step : ∀ c e, field (c.count e) = field c + if p e then 1 else 0)
    (events : List CounterEvent) :
    (field (after events)).toNat = events.countP p % UInt64.size := by
  have hone : ∀ c e, field (c.count e) = field c + UInt64.ofNat (if p e then 1 else 0) := by
    intro c e
    rw [step]
    split <;> rfl
  have hsum : events.countP p = (events.map fun e => if p e then 1 else 0).sum := by
    induction events with
    | nil => rfl
    | cons e events ih => rw [List.countP_cons, List.map_cons, List.sum_cons, ih, Nat.add_comm]
  rw [toNat_after start hone, hsum]

/-- What the counters show whatever the order of the events: how often each kind happened and how
long it took, modulo the words. -/
structure Tallied (events : List CounterEvent) (c : Counters) : Prop where
  messages : c.messages.toNat = events.countP CounterEvent.isMessage % UInt64.size
  latencySamples : c.latencySamples.toNat = events.countP CounterEvent.isMessage % UInt64.size
  latencySum : c.latencySum.toNat = (events.map CounterEvent.latency).sum % UInt64.size
  wireLatencySamples : c.wireLatencySamples.toNat = events.countP CounterEvent.isWire % UInt64.size
  wireLatencySum : c.wireLatencySum.toNat = (events.map CounterEvent.wireLatency).sum % UInt64.size
  dropped : c.dropped.toNat = events.count .drop % UInt64.size
  shortReads : c.shortReads.toNat = events.count .shortRead % UInt64.size
  sendFailures : c.sendFailures.toNat = events.count .sendFailure % UInt64.size
  connections : c.connections.toNat = events.count .opened % UInt64.size

theorem tallied_after (events : List CounterEvent) : Tallied events (after events) where
  messages := toNat_after_of_one rfl (fun c e => (c.raises_count e).messages) events
  latencySamples := toNat_after_of_one rfl (fun c e => (c.raises_count e).latencySamples) events
  latencySum := toNat_after rfl (fun c e => (c.raises_count e).latencySum) events
  wireLatencySamples :=
    toNat_after_of_one rfl (fun c e => (c.raises_count e).wireLatencySamples) events
  wireLatencySum := toNat_after rfl (fun c e => (c.raises_count e).wireLatencySum) events
  dropped := toNat_after_of_one rfl (fun c e => (c.raises_count e).dropped) events
  shortReads := toNat_after_of_one rfl (fun c e => (c.raises_count e).shortReads) events
  sendFailures := toNat_after_of_one rfl (fun c e => (c.raises_count e).sendFailures) events
  connections := toNat_after_of_one rfl (fun c e => (c.raises_count e).connections) events

theorem toNat_connections_after (hfew : events.count .opened < UInt64.size) :
    (after events).connections.toNat = events.count .opened :=
  (tallied_after events).connections.trans (Nat.mod_eq_of_lt hfew)

/-- Everything but how many connections are active, and were at most. -/
def withoutOccupancy (c : Counters) : Counters :=
  { c with active := 0, peak := 0 }

/-- The same events in another order leave the same counts and sums. -/
theorem Tallied.withoutOccupancy_eq {other : List CounterEvent} (hc : Tallied events c)
    (hd : Tallied other d) (hperm : events.Perm other) :
    c.withoutOccupancy = d.withoutOccupancy := by
  have hword : ∀ {v w : UInt64} {m n : Nat}, v.toNat = m % UInt64.size → w.toNat = n % UInt64.size →
      m = n → v = w := by
    intro v w m n hv hw hmn
    rw [← UInt64.toNat_inj, hv, hw, hmn]
  have hmessages := hperm.countP_eq CounterEvent.isMessage
  have hwires := hperm.countP_eq CounterEvent.isWire
  simp only [withoutOccupancy, Counters.mk.injEq, true_and]
  exact ⟨hword hc.messages hd.messages hmessages,
    hword hc.dropped hd.dropped (hperm.count_eq _),
    hword hc.shortReads hd.shortReads (hperm.count_eq _),
    hword hc.sendFailures hd.sendFailures (hperm.count_eq _),
    hword hc.connections hd.connections (hperm.count_eq _),
    hword hc.latencySum hd.latencySum (hperm.map _).sum_nat,
    hword hc.latencySamples hd.latencySamples hmessages,
    hword hc.wireLatencySum hd.wireLatencySum (hperm.map _).sum_nat,
    hword hc.wireLatencySamples hd.wireLatencySamples hwires⟩

/-! ## Active connections -/

/-- An open adds a connection, and a close takes one away, as long as there is one. -/
theorem toNat_active_count (c : Counters) (e : CounterEvent)
    (hroom : e = .opened → c.active.toNat + 1 < UInt64.size) :
    ((c.count e).active.toNat : Int) = max 0 (c.active.toNat + e.change) := by
  cases e with
  | opened =>
      have hactive : (c.count .opened).active.toNat = c.active.toNat + 1 :=
        (UInt64.toNat_add _ _).trans (Nat.mod_eq_of_lt (hroom rfl))
      rw [hactive, CounterEvent.change]
      omega
  | closed =>
      rw [count, connectionClosed, CounterEvent.change]
      split_ifs with hnone
      · rw [hnone]
        rfl
      · have hsome : 1 ≤ c.active := UInt64.le_iff_toNat_le.mpr
          (Nat.pos_of_ne_zero fun hzero => hnone (UInt64.toNat_inj.mp hzero))
        have hactive := UInt64.toNat_sub_of_le _ _ hsome
        rw [UInt64.le_iff_toNat_le, UInt64.toNat_one] at hsome
        rw [hactive, UInt64.toNat_one]
        omega
  | message _ | wire _ | drop | shortRead | sendFailure =>
      exact (max_eq_right (Int.natCast_nonneg _)).symm

/-- The peak goes up where the active connections surpass it. -/
theorem toNat_peak_count {c : Counters} (hle : c.active ≤ c.peak) (e : CounterEvent) :
    (c.count e).peak.toNat = max (c.count e).active.toNat c.peak.toNat := by
  rw [UInt64.le_iff_toNat_le] at hle
  cases e with
  | opened =>
      have hpeak : (c.count .opened).peak =
          if c.peak ≤ c.active + 1 then c.active + 1 else c.peak := rfl
      rw [hpeak]
      split_ifs with hnew
      · exact (max_eq_left (UInt64.le_iff_toNat_le.mp hnew)).symm
      · rw [UInt64.le_iff_toNat_le, Nat.not_le] at hnew
        exact (max_eq_right hnew.le).symm
  | closed =>
      have hpeak : (c.count .closed).peak = c.peak := by
        rw [count, connectionClosed]
        split <;> rfl
      have hactive := c.toNat_active_count .closed nofun
      rw [CounterEvent.change] at hactive
      rw [hpeak]
      omega
  | message _ | wire _ | drop | shortRead | sendFailure => exact (max_eq_right hle).symm

/-- What the counters show of connections: as many are active as `net` lies above its lowest value
so far, and the peak is the greatest number of them so far. -/
structure Occupied (events : List CounterEvent) (c : Counters) : Prop where
  active : ∃ low, IsLeast (along net events) low ∧ (c.active.toNat : Int) = net events - low
  peak : IsGreatest (along (fun past => (after past).active.toNat) events) c.peak.toNat
  active_le_peak : c.active ≤ c.peak
  peak_le_connections : c.peak ≤ c.connections

namespace Occupied

theorem nil : Occupied [] (after []) where
  active := ⟨0, by rw [along_nil]; exact isLeast_singleton, rfl⟩
  peak := by rw [along_nil]; exact isGreatest_singleton
  active_le_peak := UInt64.le_refl _
  peak_le_connections := UInt64.le_refl _

/-- One more event, as long as a word can count the connections that were opened. -/
theorem concat (h : Occupied events (after events)) (e : CounterEvent)
    (hfew : (events ++ [e]).count .opened < UInt64.size) :
    Occupied (events ++ [e]) (after (events ++ [e])) := by
  obtain ⟨low, hlow, hactive⟩ := h.active
  have hle := h.active_le_peak
  have hopened : (events ++ [e]).count .opened =
      events.count .opened + if e == .opened then 1 else 0 := by
    rw [List.count_append, List.count_singleton]
  have hconnections' := toNat_connections_after hfew
  have hconnections := toNat_connections_after (show events.count .opened < UInt64.size by omega)
  have htotal := h.peak_le_connections
  rw [UInt64.le_iff_toNat_le] at hle htotal
  have hroom : e = .opened → (after events).active.toNat + 1 < UInt64.size := by
    rintro rfl
    rw [beq_self_eq_true, if_pos rfl] at hopened
    omega
  have hactive' := (after events).toNat_active_count e hroom
  have hpeak' := toNat_peak_count h.active_le_peak e
  rw [← after_concat] at hactive' hpeak'
  -- a close that is lost takes `net` below its lowest value, which then goes down with it
  refine
    { active := ⟨min (net (events ++ [e])) low, ?_, ?_⟩
      peak := ?_
      active_le_peak := ?_
      peak_le_connections := ?_ }
  · rw [along_concat]
    exact hlow.insert _
  · rw [hactive', hactive, net_concat]
    omega
  · rw [along_concat, hpeak']
    exact h.peak.insert _
  · rw [UInt64.le_iff_toNat_le, hpeak']
    exact le_max_left _ _
  · have hchange := e.change_le
    rw [UInt64.le_iff_toNat_le, hpeak']
    split_ifs at hchange hopened <;> omega

end Occupied

theorem occupied_after (events : List CounterEvent) (hfew : events.count .opened < UInt64.size) :
    Occupied events (after events) := by
  induction events using List.reverseRecOn with
  | nil => exact .nil
  | append_singleton events e ih =>
      refine (ih ?_).concat e hfew
      exact ((List.prefix_append events [e]).sublist.count_le _).trans_lt hfew

/-! ## The main statement -/

/-- Whatever is counted, the counts and sums are those of the events, in whatever order they came.
As long as a word can count the connections that were opened, at every point as many are active as
there were more opens than closes, counted from the lowest point so far; the peak is the most that
were active at any point so far. -/
theorem events_counted (events : List CounterEvent) :
    Tallied events (after events) ∧
      (∀ other, events.Perm other →
        (after events).withoutOccupancy = (after other).withoutOccupancy ∧
          (after events).meanLatency = (after other).meanLatency ∧
          (after events).meanWireLatency = (after other).meanWireLatency) ∧
      (events.count .opened < UInt64.size →
        ∀ past, past <+: events → Occupied past (after past)) := by
  refine ⟨tallied_after events, fun other hperm => ?_, fun hfew past hpast => ?_⟩
  · have hsame := (tallied_after events).withoutOccupancy_eq (tallied_after other) hperm
    have hmean := congrArg meanLatency hsame
    have hwireMean := congrArg meanWireLatency hsame
    exact ⟨hsame, hmean, hwireMean⟩
  · exact occupied_after past ((hpast.sublist.count_le _).trans_lt hfew)

/-- Of four closes two find a connection, the first one and the last one do not.  The sum of the
latencies has gone round. -/
theorem events_counted_with_lost_closes :
    let events : List CounterEvent := [.closed, .opened, .opened, .message 18446744073709551615,
      .closed, .closed, .closed, .message 3, .opened]
    events.count .opened < UInt64.size ∧ Tallied events (after events) ∧
      Occupied events (after events) ∧ (after events).active = 1 ∧ (after events).peak = 2 ∧
      (after events).connections = 3 ∧ (after events).latencySum = 2 ∧
      IsLeast (along net events) (-2) := by
  intro events
  have hfew : events.count .opened < UInt64.size := by decide
  obtain ⟨htallied, -, hoccupied⟩ := events_counted events
  have hnow := hoccupied hfew events (List.prefix_refl _)
  obtain ⟨low, hlow, hactive⟩ := hnow.active
  have hvalue : low = -2 := by
    have hnet : net events = -1 := by decide
    have hone : (after events).active = 1 := by decide
    rw [hnet, hone, UInt64.toNat_one] at hactive
    omega
  exact ⟨hfew, htallied, hnow, by decide, by decide, by decide, by decide, hvalue ▸ hlow⟩

end Counters

end MessageServer
