import Mathlib.Data.List.Induction
import MessageServer.Proofs.Latency.Bins

/-!
# What a summary says of the samples

A summary is read off the bins: a walk over their counts finds the bin in which the sample of a rank
lies.  Here the counts are taken apart again.  `expand` writes down the start of each bin as often
as the bin was counted, and `Shows.expand_bins` says that these are the sorted samples, each of them
as the start of its bin; for the bins are in the order of the values in them.

* `Histogram.Shows` is what a histogram has to do with the samples, `Shows.record` the step, and
  `shows_after` the run.
* `Shows.quantile_eq`: the walk ends in the bin of the sample of that rank.
* `Shows.summary_eq`: nothing but the samples matters, and not their order.
* `summary_reports` is the main statement.

The ranks are computed in doubles.  That they are in order, and no rank is greater than the number
of samples, is what `RanksInOrder` says; the statement on accuracy takes it from there.
-/

namespace MessageServer

/-- What is done with a histogram. -/
inductive HistogramCall where
  | record (v : UInt64)
  | reset

namespace Histogram

variable {h g : Histogram} {vs ws : List UInt64}

/-- What one call leaves behind. -/
def call (h : Histogram) : HistogramCall → Histogram
  | .record v => h.record v
  | .reset => empty

/-- The histogram when these calls have been made. -/
def after (calls : List HistogramCall) : Histogram :=
  calls.foldl call empty

/-- What has been recorded since the last reset. -/
def samples (calls : List HistogramCall) : List UInt64 :=
  calls.foldl (fun vs call => match call with
    | .record v => vs ++ [v]
    | .reset => []) []

theorem after_concat (calls : List HistogramCall) (c : HistogramCall) :
    after (calls ++ [c]) = (after calls).call c :=
  List.foldl_append

theorem samples_concat (calls : List HistogramCall) (c : HistogramCall) :
    samples (calls ++ [c]) =
      match c with
      | .record v => samples calls ++ [v]
      | .reset => [] :=
  List.foldl_append

/-! ## The walk over the bins -/

/-- Every bin start as often as its bin was counted. -/
def expand (bins : List (Nat × Nat)) : List Nat :=
  bins.flatMap fun bin => List.replicate bin.2 bin.1

theorem expand_cons (start n : Nat) (bins : List (Nat × Nat)) :
    expand ((start, n) :: bins) = List.replicate n start ++ expand bins :=
  List.flatMap_cons

/-- The walk that subtracts the counts finds the bin of that rank. -/
theorem valueAtRank_eq {rank : Nat} (hrank : 0 < rank) (bins : List (Nat × Nat)) :
    valueAtRank rank bins = ((expand bins)[rank - 1]?.map Bin.last).getD 0 := by
  induction bins generalizing rank with
  | nil => rfl
  | cons bin bins ih =>
      obtain ⟨start, n⟩ := bin
      rw [valueAtRank, expand_cons]
      split_ifs with hfound
      · rw [List.getElem?_append_left (by rw [List.length_replicate]; omega),
          List.getElem?_replicate_of_lt (by omega)]
        rfl
      · rw [List.getElem?_append_right (by rw [List.length_replicate]; omega),
          List.length_replicate, ih (by omega)]
        congr 3
        omega

theorem count_expand_of_notMem {bins : List (Nat × Nat)} {start : Nat}
    (h : ∀ n, (start, n) ∉ bins) : (expand bins).count start = 0 := by
  refine List.count_eq_zero.mpr fun hmem => ?_
  obtain ⟨⟨s, n⟩, hbin, hs⟩ := List.mem_flatMap.mp hmem
  obtain rfl := (List.mem_replicate.mp hs).2
  exact h n hbin

theorem count_expand_of_mem {bins : List (Nat × Nat)} {start n : Nat}
    (hbins : bins.Pairwise fun a b => a.1 < b.1) (h : (start, n) ∈ bins) :
    (expand bins).count start = n := by
  induction bins with
  | nil => cases h
  | cons bin bins ih =>
      obtain ⟨s, m⟩ := bin
      obtain ⟨hfirst, hrest⟩ := List.pairwise_cons.mp hbins
      rw [expand_cons, List.count_append, List.count_replicate]
      rcases List.mem_cons.mp h with heq | hmem
      · obtain ⟨rfl, rfl⟩ := Prod.mk.inj heq
        have hnone : ∀ k, (start, k) ∉ bins := fun k hk => Nat.lt_irrefl _ (hfirst (start, k) hk)
        rw [count_expand_of_notMem hnone, if_pos (beq_self_eq_true start), Nat.add_zero]
      · have hother : ¬(s == start) = true := fun heq =>
          Nat.ne_of_lt (hfirst _ hmem) (beq_iff_eq.mp heq)
        rw [ih hrest hmem, if_neg hother, Nat.zero_add]

theorem pairwise_expand {bins : List (Nat × Nat)} (hbins : bins.Pairwise fun a b => a.1 < b.1) :
    (expand bins).Pairwise (· ≤ ·) := by
  refine List.pairwise_flatMap.mpr ⟨fun bin _ => ?_, hbins.imp fun {a b} hlt s hs t ht => ?_⟩
  · exact List.pairwise_replicate.mpr (.inr (Nat.le_refl _))
  · obtain rfl := (List.mem_replicate.mp hs).2
    obtain rfl := (List.mem_replicate.mp ht).2
    exact Nat.le_of_lt hlt

theorem pairwise_toList (bins : Std.TreeMap Nat Nat) :
    bins.toList.Pairwise fun a b => a.1 < b.1 :=
  Std.TreeMap.ordered_keys_toList.imp Nat.compare_eq_lt.mp

theorem count_expand_toList (bins : Std.TreeMap Nat Nat) (start : Nat) :
    (expand bins.toList).count start = bins.getD start 0 := by
  rw [Std.TreeMap.getD_eq_getD_getElem?]
  cases hbin : bins[start]? with
  | none =>
      refine count_expand_of_notMem fun n hmem => ?_
      rw [Std.TreeMap.mem_toList_iff_getElem?_eq_some, hbin] at hmem
      cases hmem
  | some n =>
      exact count_expand_of_mem (pairwise_toList bins)
        (Std.TreeMap.mem_toList_iff_getElem?_eq_some.mpr hbin)

/-! ## Samples in a histogram -/

/-- The start of the bin of a sample. -/
def binOf (v : UInt64) : Nat :=
  Bin.start v.toNat

/-- What a quantile shows of a sample: the end of its bin. -/
def binEnd (v : UInt64) : UInt64 :=
  (Bin.last (binOf v)).toUInt64

/-- The samples from the smallest to the largest. -/
def ascending (vs : List UInt64) : List UInt64 :=
  vs.mergeSort

theorem perm_ascending (vs : List UInt64) : (ascending vs).Perm vs :=
  List.mergeSort_perm vs _

theorem pairwise_ascending (vs : List UInt64) : (ascending vs).Pairwise (· ≤ ·) := by
  have hle : ∀ a b : UInt64, decide (a ≤ b) = true ↔ a ≤ b := fun _ _ => decide_eq_true_iff
  refine (List.pairwise_mergeSort (fun a b c => ?_) (fun a b => ?_) vs).imp (hle _ _).mp
  · simpa only [hle] using UInt64.le_trans
  · simpa only [Bool.or_eq_true, hle] using UInt64.le_total a b

/-- The sample of a rank.  The smallest sample has rank 1. -/
def ofRank? (vs : List UInt64) (rank : Nat) : Option UInt64 :=
  (ascending vs)[rank - 1]?

theorem ofRank?_le {m n : Nat} {u v : UInt64} (hu : ofRank? vs m = some u)
    (hv : ofRank? vs n = some v) (hmn : m ≤ n) : u ≤ v := by
  obtain ⟨hm, rfl⟩ := List.getElem?_eq_some_iff.mp hu
  obtain ⟨hn, rfl⟩ := List.getElem?_eq_some_iff.mp hv
  rcases Nat.lt_or_eq_of_le (Nat.sub_le_sub_right hmn 1) with hlt | heq
  · exact List.pairwise_iff_getElem.mp (pairwise_ascending vs) _ _ hm hn hlt
  · simp only [heq]
    exact UInt64.le_refl _

theorem exists_ofRank? {n : Nat} (hpos : 0 < n) (hle : n ≤ vs.length) :
    ∃ v ∈ vs, ofRank? vs n = some v := by
  have hlength : n - 1 < (ascending vs).length := by
    rw [(perm_ascending vs).length_eq]
    omega
  exact ⟨_, (perm_ascending vs).mem_iff.mp (List.getElem_mem hlength),
    List.getElem?_eq_getElem hlength⟩

/-- The histogram shows these samples. -/
structure Shows (h : Histogram) (vs : List UInt64) : Prop where
  bins : ∀ start, h.bins.getD start 0 = (vs.map binOf).count start
  count : h.count = vs.length
  le_largest : ∀ v ∈ vs, v.toNat ≤ h.largest
  largest_mem : h.largest = 0 ∨ ∃ v ∈ vs, v.toNat = h.largest

theorem shows_empty : empty.Shows [] where
  bins _ := Std.TreeMap.getD_emptyc
  count := rfl
  le_largest := nofun
  largest_mem := .inl rfl

theorem Shows.record (hshows : h.Shows vs) (v : UInt64) : (h.record v).Shows (vs ++ [v]) where
  bins start := by
    have hbins : (h.record v).bins = h.bins.alter (binOf v) fun n => some (n.getD 0 + 1) := rfl
    rw [hbins, Std.TreeMap.getD_alter, List.map_append, List.count_append, ← hshows.bins start,
      List.map_singleton, List.count_singleton]
    by_cases hbin : binOf v = start
    · subst hbin
      rw [if_pos (Nat.compare_eq_eq.mpr rfl), if_pos (beq_self_eq_true _),
        Std.TreeMap.getD_eq_getD_getElem?]
      rfl
    · rw [if_neg fun heq => hbin (Nat.compare_eq_eq.mp heq), if_neg (mt beq_iff_eq.mp hbin),
        Nat.add_zero]
  count := by
    rw [Histogram.record, List.length_append, hshows.count]
    rfl
  le_largest := by
    refine List.forall_mem_append.mpr ⟨fun u hu => ?_, List.forall_mem_singleton.mpr ?_⟩
    · exact Nat.le_trans (hshows.le_largest u hu) (Nat.le_max_left _ _)
    · exact Nat.le_max_right _ _
  largest_mem := by
    have hlargest : (h.record v).largest = max h.largest v.toNat := rfl
    rcases Nat.le_total h.largest v.toNat with hle | hge
    · exact .inr ⟨v, List.mem_append_right _ List.mem_cons_self, by
        rw [hlargest, Nat.max_eq_right hle]⟩
    · rw [hlargest, Nat.max_eq_left hge]
      exact hshows.largest_mem.imp_right fun ⟨u, hu, hn⟩ => ⟨u, List.mem_append_left _ hu, hn⟩

theorem shows_after (calls : List HistogramCall) : (after calls).Shows (samples calls) := by
  induction calls using List.reverseRecOn with
  | nil => exact shows_empty
  | append_singleton calls call ih =>
      rw [after_concat, samples_concat]
      cases call with
      | record v => exact ih.record v
      | reset => exact shows_empty

/-- Taken out of the bins again, the samples are in ascending order, each as the start of its
bin. -/
theorem Shows.expand_bins (hshows : h.Shows vs) :
    expand h.bins.toList = (ascending vs).map binOf := by
  -- both lists are in ascending order, so that it is enough to count
  refine List.Perm.eq_of_pairwise (fun a b _ _ => Nat.le_antisymm)
    (pairwise_expand (pairwise_toList h.bins)) ?_ ?_
  · refine List.pairwise_map.mpr ((pairwise_ascending vs).imp fun {u v} hle => ?_)
    exact Bin.start_mono (UInt64.le_iff_toNat_le.mp hle)
  · refine List.perm_iff_count.mpr fun start => ?_
    rw [count_expand_toList, hshows.bins, ((perm_ascending vs).map binOf).count_eq]

theorem rank_pos (q : Float) (count : Nat) : 0 < rank q count :=
  Nat.le_max_left _ _

/-- A quantile is the sample of its rank, shown by the end of its bin. -/
theorem Shows.quantile_eq (hshows : h.Shows vs) (q : Float) :
    (h.quantile q).toUInt64 = ((ofRank? vs (rank q vs.length)).map binEnd).getD 0 := by
  rw [quantile, hshows.count, valueAtRank_eq (rank_pos q _), hshows.expand_bins, List.getElem?_map,
    ofRank?]
  cases (ascending vs)[rank q vs.length - 1]? <;> rfl

/-- The maximum is the largest sample, shown by the end of its bin or, if nothing is above it, as it
is. -/
theorem maximum_eq (h : Histogram) : h.maximum = Bin.last h.largest := by
  rw [maximum]
  split_ifs with hzero
  · rw [hzero]
    rfl
  · rfl

theorem Shows.exists_largest (hshows : h.Shows vs) (hsome : vs ≠ []) :
    ∃ v ∈ vs, v.toNat = h.largest := by
  rcases hshows.largest_mem with hzero | hmem
  · obtain ⟨v, hv⟩ := List.exists_mem_of_ne_nil vs hsome
    have hle := hshows.le_largest v hv
    exact ⟨v, hv, by omega⟩
  · exact hmem

theorem Shows.largest_le (hshows : h.Shows vs) (hg : g.Shows ws)
    (hsub : ∀ v ∈ vs, v ∈ ws) : h.largest ≤ g.largest := by
  rcases hshows.largest_mem with hzero | ⟨v, hv, hn⟩
  · rw [hzero]
    exact Nat.zero_le _
  · rw [← hn]
    exact hg.le_largest v (hsub v hv)

/-! ## The same samples -/

/-- Two histograms that show the same samples, in whatever order these came, have one summary. -/
theorem Shows.summary_eq (hshows : h.Shows vs) (hg : g.Shows ws) (hperm : vs.Perm ws) :
    h.summary = g.summary := by
  have hlength := hperm.length_eq
  have hascending : ascending vs = ascending ws :=
    List.Perm.eq_of_pairwise (fun a b _ _ => UInt64.le_antisymm) (pairwise_ascending vs)
      (pairwise_ascending ws) ((perm_ascending vs).trans (hperm.trans (perm_ascending ws).symm))
  have hlargest : h.largest = g.largest :=
    Nat.le_antisymm (hshows.largest_le hg fun _ => hperm.mem_iff.mp)
      (hg.largest_le hshows fun _ => hperm.mem_iff.mpr)
  simp only [summary, hshows.quantile_eq, hg.quantile_eq, ofRank?, maximum_eq, hlargest,
    hshows.count, hg.count, hlength, hascending]

theorem Shows.summary_of_nil (hshows : h.Shows []) : h.summary = ⟨0, 0, 0, 0, 0⟩ :=
  hshows.summary_eq shows_empty (List.Perm.refl _)

/-! ## Accuracy -/

/-- What is reported is off by a thousandth and one nanosecond at the most. -/
def CloseTo (reported exact : UInt64) : Prop :=
  reported.toNat ≤ exact.toNat + (exact.toNat / 1000 + 1) ∧
    exact.toNat ≤ reported.toNat + (exact.toNat / 1000 + 1)

/-- The three ranks of a summary of so many samples are in order, and none is too large. -/
structure RanksInOrder (count : Nat) : Prop where
  p50_le_p99 : rank 0.50 count ≤ rank 0.99 count
  p99_le_p999 : rank 0.99 count ≤ rank 0.999 count
  p999_le_count : rank 0.999 count ≤ count

/-- A summary that shows these samples in order and each of them closely. -/
structure Reports (s : LatencySummary) (vs : List UInt64) : Prop where
  p50 : ∃ v, ofRank? vs (rank 0.50 vs.length) = some v ∧ CloseTo s.p50 v
  p99 : ∃ v, ofRank? vs (rank 0.99 vs.length) = some v ∧ CloseTo s.p99 v
  p999 : ∃ v, ofRank? vs (rank 0.999 vs.length) = some v ∧ CloseTo s.p999 v
  max : ∃ v ∈ vs, (∀ u ∈ vs, u ≤ v) ∧ CloseTo s.max v
  ordered : s.p50 ≤ s.p99 ∧ s.p99 ≤ s.p999 ∧ s.p999 ≤ s.max

theorem binOf_lt (v : UInt64) : binOf v < UInt64.size :=
  Nat.lt_of_le_of_lt (Bin.start_le _) v.toNat_lt

theorem toNat_last {n : Nat} (h : n < UInt64.size) :
    (Bin.last n).toUInt64.toNat = Bin.last n :=
  UInt64.toNat_ofNat_of_lt' (Bin.last_lt h)

theorem last_le_last {m n : Nat} (h : m ≤ n) (hn : n < UInt64.size) :
    (Bin.last m).toUInt64 ≤ (Bin.last n).toUInt64 := by
  rw [UInt64.le_iff_toNat_le, toNat_last hn, toNat_last (Nat.lt_of_le_of_lt h hn)]
  exact Bin.last_mono h hn

theorem binEnd_mono {u v : UInt64} (h : u ≤ v) : binEnd u ≤ binEnd v :=
  last_le_last (Bin.start_mono (UInt64.le_iff_toNat_le.mp h)) (binOf_lt v)

/-- No sample is shown above a larger one that is shown as a maximum. -/
theorem binEnd_le_last {u v : UInt64} (h : u ≤ v) : binEnd u ≤ (Bin.last v.toNat).toUInt64 :=
  last_le_last (Nat.le_trans (Bin.start_le _) (UInt64.le_iff_toNat_le.mp h)) v.toNat_lt

theorem closeTo_last (v : UInt64) : CloseTo (Bin.last v.toNat).toUInt64 v := by
  have hbelow := Bin.le_last v.toNat_lt
  have habove := Bin.last_le v.toNat_lt
  rw [CloseTo, toNat_last v.toNat_lt]
  omega

theorem closeTo_binEnd (v : UInt64) : CloseTo (binEnd v) v := by
  have hbelow := Bin.le_last_start v.toNat_lt
  have habove := Nat.le_trans (Bin.last_mono (Bin.start_le v.toNat) v.toNat_lt)
    (Bin.last_le v.toNat_lt)
  rw [CloseTo, binEnd, toNat_last (binOf_lt v), binOf]
  omega

theorem Shows.exists_quantile (hshows : h.Shows vs) {q : Float}
    (hrank : rank q vs.length ≤ vs.length) :
    ∃ v ∈ vs, ofRank? vs (rank q vs.length) = some v ∧ (h.quantile q).toUInt64 = binEnd v := by
  obtain ⟨v, hv, hof⟩ := exists_ofRank? (rank_pos q _) hrank
  refine ⟨v, hv, hof, ?_⟩
  rw [hshows.quantile_eq, hof]
  rfl

theorem Shows.reports (hshows : h.Shows vs) (hranks : RanksInOrder vs.length) :
    Reports h.summary vs := by
  have h999 := hranks.p999_le_count
  have h99 := Nat.le_trans hranks.p99_le_p999 h999
  have h50 := Nat.le_trans hranks.p50_le_p99 h99
  obtain ⟨u, -, hu, hp50⟩ := hshows.exists_quantile h50
  obtain ⟨v, -, hv, hp99⟩ := hshows.exists_quantile h99
  obtain ⟨w, hmem, hw, hp999⟩ := hshows.exists_quantile h999
  -- a rank is 1 at least, so that there is a sample, and with it a largest one
  obtain ⟨x, hx, hlargest⟩ := hshows.exists_largest (List.ne_nil_of_mem hmem)
  have hall : ∀ y ∈ vs, y ≤ x := fun y hy =>
    UInt64.le_iff_toNat_le.mpr (hlargest ▸ hshows.le_largest y hy)
  have hsummary : h.summary =
      ⟨h.count.toUInt64, binEnd u, binEnd v, binEnd w, (Bin.last x.toNat).toUInt64⟩ := by
    rw [summary, hp50, hp99, hp999, maximum_eq, hlargest]
  rw [hsummary]
  exact
    { p50 := ⟨u, hu, closeTo_binEnd u⟩
      p99 := ⟨v, hv, closeTo_binEnd v⟩
      p999 := ⟨w, hw, closeTo_binEnd w⟩
      max := ⟨x, hx, hall, closeTo_last x⟩
      ordered := ⟨binEnd_mono (ofRank?_le hu hv hranks.p50_le_p99),
        binEnd_mono (ofRank?_le hv hw hranks.p99_le_p999), binEnd_le_last (hall w hmem)⟩ }

/-! ## The main statement -/

/-- However a histogram is filled and emptied, its summary is one of the samples since it was last
emptied, whatever their order.  It counts them; it is all zero if there are none, which is so behind
a reset and on a new histogram; and if the ranks are in order, it shows the samples of these ranks
and the largest one in order, and each of them closely. -/
theorem summary_reports (calls : List HistogramCall) :
    (after calls).count = (samples calls).length ∧
      ((samples calls).length < UInt64.size →
        (after calls).summary.count.toNat = (samples calls).length) ∧
      (RanksInOrder (samples calls).length → Reports (after calls).summary (samples calls)) ∧
      (calls = [] ∨ calls.getLast? = some .reset → (after calls).summary = ⟨0, 0, 0, 0, 0⟩) ∧
      ∀ others, (samples others).Perm (samples calls) →
        (after others).summary = (after calls).summary := by
  have hshows := shows_after calls
  refine ⟨hshows.count, fun hfew => ?_, hshows.reports, fun hempty => ?_,
    fun others hperm => (shows_after others).summary_eq hshows hperm⟩
  · rw [summary, hshows.count]
    exact UInt64.toNat_ofNat_of_lt' hfew
  · have hnone : samples calls = [] := by
      rcases hempty with rfl | hreset
      · rfl
      · obtain ⟨before, rfl⟩ := List.getLast?_eq_some_iff.mp hreset
        rw [samples_concat]
    exact Shows.summary_of_nil (hnone ▸ hshows)

/-- Five samples behind a reset, among them the largest word.  Its bin ends one below it, and so do
the two upper quantiles, while the maximum names it as it is. -/
theorem summary_reports_largest_word :
    let calls : List HistogramCall := [.record 123456, .reset, .record 18446744073709551615,
      .record 2000, .record 80000, .record 2000, .record 18446744073709551614]
    let others : List HistogramCall := [.record 2000, .record 18446744073709551614,
      .record 18446744073709551615, .record 2000, .record 80000]
    let s : LatencySummary :=
      ⟨5, 80063, 18446744073709551614, 18446744073709551614, 18446744073709551615⟩
    RanksInOrder (samples calls).length ∧ (samples calls).length < UInt64.size ∧
      (after calls).summary = s ∧ Reports s (samples calls) ∧ s.count.toNat = 5 ∧
      (samples others).Perm (samples calls) ∧ (after others).summary = s ∧
      (after [.record 123456, .reset]).summary = ⟨0, 0, 0, 0, 0⟩ := by
  intro calls others s
  have hranks : RanksInOrder (samples calls).length :=
    ⟨by decide +kernel, by decide +kernel, by decide +kernel⟩
  have hfew : (samples calls).length < UInt64.size := by decide
  have hsummary : (after calls).summary = s := by decide +kernel
  have hperm : (samples others).Perm (samples calls) := by decide
  obtain ⟨-, hcount, hreports, -, hsame⟩ := summary_reports calls
  obtain ⟨-, -, -, hreset, -⟩ := summary_reports [.record 123456, .reset]
  rw [hsummary] at hcount hreports hsame
  exact ⟨hranks, hfew, hsummary, hreports hranks, hcount hfew, hperm, hsame others hperm,
    hreset (.inr rfl)⟩

end Histogram

end MessageServer
