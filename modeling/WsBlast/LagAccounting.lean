import WsBlast.IntervalRuns
import WsBlast.Outcome

/-!
# The account of the generator's lag

The probe takes its samples in the order of their due times, so the samples
of an interval are recorded one after the other. `LagRecord` sorts them when
the next one belongs to another interval, and once more at the end; then
every interval with a sample has its entry, and the entries add up to the
histogram (`Accounted`). `LagTotals.add` adds these accounts up over the phases
of a run.

The probe is a task that sleeps for a fixed time, over and over, and measures
how late it is woken. A late wake-up means that the generator itself was short
of processor time, so that its latencies are in doubt. The lag of an interval
is summarised by its maximum and by its p99, and an interval is over the
threshold when its p99 is and at least two of its wake-ups were later.
-/

namespace WsBlast

/-! ## Nearest ranks

A percentile is specified by how many samples are below it and how many are not
above it. -/

/-- The rank of a percentile among `n` samples, counted from 1. -/
def rankOf (percent n : ℕ) : ℕ := ⌈(percent : ℚ) / 100 * n⌉₊

/-- The nearest-rank percentile of some samples: of the samples in order, the
one at the rank. -/
structure IsNearestRank (percent : ℕ) (samples : List ℕ) (value : ℕ) : Prop where
  mem : value ∈ samples
  below : samples.countP (· < value) < rankOf percent samples.length
  upTo : rankOf percent samples.length ≤ samples.countP (· ≤ value)

/-- The largest of some samples. -/
structure IsLargest (samples : List ℕ) (value : ℕ) : Prop where
  mem : value ∈ samples
  le : ∀ sample ∈ samples, sample ≤ value

/-- Of a sorted list, no more samples are below an element than stand before
it, and it and those before it are up to it. -/
theorem countP_of_sorted {samples : List ℕ} (hsorted : samples.Pairwise (· ≤ ·)) {i : ℕ}
    (hi : i < samples.length) :
    samples.countP (· < samples[i]) ≤ i ∧ i + 1 ≤ samples.countP (· ≤ samples[i]) := by
  have hmono : ∀ j k : ℕ, (hk : k < samples.length) → j ≤ k → ∀ hj : j < samples.length,
      samples[j] ≤ samples[k] := by
    intro j k hk hjk hj
    rcases Nat.lt_or_eq_of_le hjk with hlt | rfl
    · exact List.pairwise_iff_getElem.mp hsorted j k hj hk hlt
    · exact le_rfl
  constructor
  · have hdrop : (samples.drop i).countP (· < samples[i]) = 0 := by
      rw [List.countP_eq_zero]
      intro sample hsample
      obtain ⟨k, hk, rfl⟩ := List.mem_iff_getElem.mp hsample
      rw [List.length_drop] at hk
      rw [List.getElem_drop]
      simpa using hmono i (i + k) (by omega) (Nat.le_add_right i k) hi
    calc samples.countP (· < samples[i])
        = (samples.take i).countP (· < samples[i]) + (samples.drop i).countP (· < samples[i]) := by
          rw [← List.countP_append, List.take_append_drop]
      _ ≤ i := by
          rw [hdrop, Nat.add_zero]
          exact List.countP_le_length.trans (List.length_take_le i samples)
  · have htake : (samples.take (i + 1)).countP (· ≤ samples[i]) = i + 1 := by
      have hlength : (samples.take (i + 1)).length = i + 1 := by
        rw [List.length_take]
        omega
      rw [List.countP_eq_length.mpr, hlength]
      intro sample hsample
      obtain ⟨k, hk, rfl⟩ := List.mem_iff_getElem.mp hsample
      rw [List.getElem_take]
      simpa using hmono k i hi (by omega) (by omega)
    calc i + 1 = (samples.take (i + 1)).countP (· ≤ samples[i]) := htake.symm
      _ ≤ samples.countP (· ≤ samples[i]) := (List.take_sublist _ _).countP_le

/-- A rank is one of the samples'. -/
theorem rankOf_pos {percent n : ℕ} (hpercent : 0 < percent) (hn : 0 < n) :
    0 < rankOf percent n := by
  rw [rankOf, Nat.ceil_pos]
  positivity

theorem rankOf_le {percent n : ℕ} (hpercent : percent ≤ 100) : rankOf percent n ≤ n := by
  rw [rankOf, Nat.ceil_le]
  have hshare : (percent : ℚ) / 100 ≤ 1 := by
    rw [div_le_one (by norm_num)]
    exact_mod_cast hpercent
  exact mul_le_of_le_one_left (Nat.cast_nonneg n) hshare

/-- The rank as it is computed. -/
theorem rankOf_eq (percent n : ℕ) : rankOf percent n = (n * percent + 99) / 100 := by
  refine eq_of_forall_ge_iff fun k => ?_
  rw [rankOf, Nat.ceil_le, div_mul_eq_mul_div, div_le_iff₀ (by norm_num)]
  have hcast : ((percent : ℚ) * n ≤ k * 100) ↔ percent * n ≤ k * 100 := by exact_mod_cast Iff.rfl
  rw [hcast, Nat.mul_comm percent n]
  omega

/-- **Sorting puts every percentile at its rank.** -/
theorem isNearestRank_mergeSort {percent : ℕ} (hpercent : 0 < percent) (hle : percent ≤ 100)
    {samples : List ℕ} (hne : samples ≠ []) :
    IsNearestRank percent samples (samples.mergeSort.getD (rankOf percent samples.length - 1) 0) := by
  have hperm := List.mergeSort_perm samples (· ≤ ·)
  have hsorted : samples.mergeSort.Pairwise (· ≤ ·) := List.pairwise_mergeSort' (· ≤ ·) samples
  have hpos := rankOf_pos hpercent (List.length_pos_of_ne_nil hne)
  have hrank := rankOf_le (n := samples.length) hle
  have hi : rankOf percent samples.length - 1 < samples.mergeSort.length := by
    rw [hperm.length_eq]
    omega
  obtain ⟨hbelow, hupTo⟩ := countP_of_sorted hsorted hi
  rw [List.getD_eq_getElem _ _ hi]
  refine ⟨hperm.mem_iff.mp (List.getElem_mem hi), ?_, ?_⟩
  · rw [← hperm.countP_eq]
    omega
  · rw [← hperm.countP_eq]
    omega

/-- The largest sample is the last in order. -/
theorem isLargest_mergeSort {samples : List ℕ} (hne : samples ≠ []) :
    IsLargest samples (samples.mergeSort.getD (samples.length - 1) 0) := by
  have hperm := List.mergeSort_perm samples (· ≤ ·)
  have hsorted : samples.mergeSort.Pairwise (· ≤ ·) := List.pairwise_mergeSort' (· ≤ ·) samples
  have hlength := List.length_pos_of_ne_nil hne
  have hi : samples.length - 1 < samples.mergeSort.length := by
    rw [hperm.length_eq]
    omega
  rw [List.getD_eq_getElem _ _ hi]
  refine ⟨hperm.mem_iff.mp (List.getElem_mem hi), fun sample hsample => ?_⟩
  obtain ⟨k, hk, rfl⟩ := List.mem_iff_getElem.mp (hperm.mem_iff.mpr hsample)
  rcases Nat.lt_or_ge k (samples.length - 1) with hlt | hge
  · exact List.pairwise_iff_getElem.mp hsorted k _ hk hi hlt
  · have hk' : k = samples.length - 1 := by
      rw [hperm.length_eq] at hk
      omega
    subst hk'
    exact le_rfl

/-! ## One record

The invariant speaks of the interval in progress and of those before it. -/

/-- A histogram of values within the bounds counts each of them. -/
theorem total_ofValues {values : Multiset ℕ} (h : ∀ micros ∈ values, micros ≤ highestUs) :
    (IntervalHistogram.ofValues values).total = values.card := by
  induction values using Multiset.induction_on with
  | empty => simp
  | cons micros values ih =>
    obtain ⟨hmicros, hvalues⟩ := Multiset.forall_mem_cons.mp h
    rw [← Multiset.singleton_add, add_comm, ← IntervalHistogram.record_ofValues _ hmicros,
      IntervalHistogram.total_record _ hmicros, ih hvalues, Multiset.card_add,
      Multiset.card_singleton]

/-- A wake-up of the probe: when its sleep was due, and how late it was. -/
structure LagSample where
  due : Instant
  lag : Duration
  deriving DecidableEq

/-- A wake-up's lag in microseconds, within the bounds of the histograms. -/
def LagSample.micros (sample : LagSample) : ℕ := clampUs sample.lag.asMicros

/-- The interval that a wake-up was due in; intervals are at least a
millisecond. -/
def LagSample.index (start : Instant) (interval : Duration) (sample : LagSample) : ℕ :=
  (sample.due - start) / max interval (Duration.ofMillis 1)

/-- The lags of an interval, in the order in which they were taken. -/
def lagsIn (start : Instant) (interval : Duration) (samples : List LagSample) (index : ℕ) :
    List ℕ :=
  (samples.filter fun sample => sample.index start interval = index).map LagSample.micros

/-- The intervals that have a sample. -/
def lagIndices (start : Instant) (interval : Duration) (samples : List LagSample) : Finset ℕ :=
  (samples.map (LagSample.index start interval)).toFinset

namespace IntervalLag

/-- What is kept of the lags of an interval. -/
def ofLags (lags : List ℕ) : IntervalLag where
  samples := lags.length
  p99Us := lags.mergeSort.getD (max ((lags.length * 99 + 99) / 100) 1 - 1) 0
  maxUs := lags.mergeSort.getD (lags.length - 1) 0

/-- Whether the lags of an interval are over the threshold. -/
def Over (lags : List ℕ) : Prop :=
  lagThresholdUs < (ofLags lags).p99Us ∧ minLateInInterval ≤ lags.countP (lagThresholdUs < ·)

instance (lags : List ℕ) : Decidable (Over lags) := inferInstanceAs (Decidable (_ ∧ _))

/-- The rank is at least 1 without being made so. -/
theorem p99Us_ofLags {lags : List ℕ} (hne : lags ≠ []) :
    (ofLags lags).p99Us = lags.mergeSort.getD (rankOf 99 lags.length - 1) 0 := by
  have hpos := @rankOf_pos 99 _ (by decide) (List.length_pos_of_ne_nil hne)
  show lags.mergeSort.getD (max ((lags.length * 99 + 99) / 100) 1 - 1) 0 = _
  rw [← rankOf_eq, max_eq_left (Nat.succ_le_of_lt hpos)]

theorem not_over_nil : ¬ Over [] := fun h => absurd h.2 (by decide)

end IntervalLag

namespace LagRecord

/-- The record of some wake-ups, ended. -/
def ofSamples (start : Instant) (interval : Duration) (samples : List LagSample) : LagRecord :=
  (samples.foldl (fun r sample => r.record sample.due sample.lag)
    (new start interval)).closeInterval

/-- Closing an interval with samples. -/
theorem closeInterval_of_ne_nil (r : LagRecord) (h : r.current ≠ []) :
    r.closeInterval = { r with
      intervalsOver := if IntervalLag.Over r.current then r.intervalsOver + 1 else r.intervalsOver
      intervals := r.intervals.insert r.currentIndex (IntervalLag.ofLags r.current)
      current := [] } := by
  have hperm := List.mergeSort_perm r.current (· ≤ ·)
  unfold closeInterval
  rw [if_neg h]
  dsimp only
  unfold IntervalLag.Over IntervalLag.ofLags
  rw [hperm.length_eq, hperm.countP_eq]
  rfl

variable {start : Instant} {interval : Duration}

/-- The record of `samples` while an interval is in progress: the intervals
before it have their entries, and its own lags are held. -/
structure InProgress (start : Instant) (interval : Duration) (samples : List LagSample)
    (r : LagRecord) : Prop where
  start_eq : r.start = start
  interval_eq : r.interval = max interval (Duration.ofMillis 1)
  reached : r.currentIndex = 0 ∨ ∃ sample ∈ samples, sample.index start interval = r.currentIndex
  bound : ∀ sample ∈ samples, sample.index start interval ≤ r.currentIndex
  current : r.current = lagsIn start interval samples r.currentIndex
  entries : ∀ i, r.intervals[i]? = if i < r.currentIndex ∧ lagsIn start interval samples i ≠ []
    then some (.ofLags (lagsIn start interval samples i)) else none
  intervalsOver : r.intervalsOver
    = ((Finset.range r.currentIndex).filter
        fun i => IntervalLag.Over (lagsIn start interval samples i)).card

/-- The record of `samples` when every interval below `below` is closed. -/
structure Closed (start : Instant) (interval : Duration) (samples : List LagSample)
    (below : ℕ) (r : LagRecord) : Prop where
  entries : ∀ i, r.intervals[i]? = if i < below ∧ lagsIn start interval samples i ≠ []
    then some (.ofLags (lagsIn start interval samples i)) else none
  intervalsOver : r.intervalsOver = ((Finset.range below).filter
    fun i => IntervalLag.Over (lagsIn start interval samples i)).card

theorem inProgress_new (start : Instant) (interval : Duration) :
    InProgress start interval [] (new start interval) where
  start_eq := rfl
  interval_eq := rfl
  reached := Or.inl rfl
  bound := by simp
  current := rfl
  entries i := by
    show (∅ : Std.ExtTreeMap ℕ IntervalLag compare)[i]? = _
    simp [lagsIn]
  intervalsOver := rfl

/-- Closing the interval in progress gives it its entry. -/
theorem InProgress.close {samples : List LagSample} {r : LagRecord}
    (h : InProgress start interval samples r) :
    Closed start interval samples (r.currentIndex + 1) r.closeInterval := by
  have hsplit (i : ℕ) : i < r.currentIndex + 1 ↔ i < r.currentIndex ∨ i = r.currentIndex :=
    Nat.lt_succ_iff_lt_or_eq
  have hcard : ((Finset.range (r.currentIndex + 1)).filter
      fun i => IntervalLag.Over (lagsIn start interval samples i)).card
      = r.intervalsOver + if IntervalLag.Over r.current then 1 else 0 := by
    rw [Finset.range_add_one, Finset.filter_insert, h.intervalsOver, h.current]
    split_ifs
    · rw [Finset.card_insert_of_notMem (by simp)]
    · rfl
  by_cases hempty : r.current = []
  · have hclose : r.closeInterval = r := if_pos hempty
    rw [hclose]
    refine ⟨fun i => ?_, ?_⟩
    · rw [h.entries]
      refine if_congr ?_ rfl rfl
      rw [hsplit]
      refine ⟨fun hi => ⟨Or.inl hi.1, hi.2⟩, fun ⟨hi, hne⟩ => ⟨hi.resolve_right ?_, hne⟩⟩
      rintro rfl
      exact hne (h.current ▸ hempty)
    · rw [hcard, hempty, if_neg IntervalLag.not_over_nil, Nat.add_zero]
  · rw [r.closeInterval_of_ne_nil hempty]
    refine ⟨fun i => ?_, ?_⟩
    · dsimp only
      rw [Std.ExtTreeMap.getElem?_insert, h.entries]
      by_cases hi : r.currentIndex = i
      · subst hi
        rw [if_pos (by simp), if_pos ⟨Nat.lt_succ_self _, h.current ▸ hempty⟩, ← h.current]
      · rw [if_neg (by simpa using hi)]
        refine if_congr (and_congr_left' ?_) rfl rfl
        rw [hsplit]
        exact ⟨Or.inl, fun hlt => hlt.resolve_right (Ne.symm hi)⟩
    · dsimp only
      rw [hcard]
      split_ifs <;> rfl

/-- The lags of an interval with one more sample. -/
theorem lagsIn_concat (samples : List LagSample) (sample : LagSample) (i : ℕ) :
    lagsIn start interval (samples ++ [sample]) i
      = lagsIn start interval samples i
        ++ if sample.index start interval = i then [sample.micros] else [] := by
  unfold lagsIn
  rw [List.filter_append, List.map_append]
  by_cases hi : sample.index start interval = i
  · rw [if_pos hi, List.filter_cons_of_pos (by simpa using hi)]
    rfl
  · rw [if_neg hi, List.filter_cons_of_neg (by simpa using hi)]
    rfl

/-- An interval behind all samples has none. -/
theorem lagsIn_eq_nil {samples : List LagSample} {i bound : ℕ}
    (hbound : ∀ sample ∈ samples, sample.index start interval ≤ bound) (hi : bound < i) :
    lagsIn start interval samples i = [] := by
  unfold lagsIn
  rw [List.map_eq_nil_iff, List.filter_eq_nil_iff]
  intro sample hsample
  have hle := hbound sample hsample
  simp only [decide_eq_true_eq]
  omega

theorem start_closeInterval (r : LagRecord) : r.closeInterval.start = r.start := by
  unfold closeInterval
  split_ifs <;> rfl

theorem interval_closeInterval (r : LagRecord) : r.closeInterval.interval = r.interval := by
  unfold closeInterval
  split_ifs <;> rfl

theorem hist_closeInterval (r : LagRecord) : r.closeInterval.hist = r.hist := by
  unfold closeInterval
  split_ifs <;> rfl

theorem current_closeInterval (r : LagRecord) : r.closeInterval.current = [] := by
  unfold closeInterval
  split_ifs with hempty
  · exact hempty
  · rfl

/-- A record that goes on in its interval. -/
theorem InProgress.stay {samples : List LagSample} {r : LagRecord}
    (h : InProgress start interval samples r) {sample : LagSample}
    (hindex : sample.index start interval = r.currentIndex) :
    InProgress start interval (samples ++ [sample])
      { r with current := r.current ++ [sample.micros] } := by
  have hbelow (i : ℕ) (hi : i < r.currentIndex) : lagsIn start interval (samples ++ [sample]) i
      = lagsIn start interval samples i := by
    rw [lagsIn_concat, if_neg (by omega), List.append_nil]
  refine ⟨h.start_eq, h.interval_eq, Or.inr ⟨sample, by simp, hindex⟩, ?_, ?_, fun i => ?_, ?_⟩
  · intro other hother
    rcases List.mem_append.mp hother with hold | hnew
    · exact h.bound other hold
    · rw [List.mem_singleton.mp hnew]
      exact hindex.le
  · show r.current ++ [sample.micros] = _
    rw [lagsIn_concat, if_pos hindex, h.current]
  · show r.intervals[i]? = _
    rw [h.entries]
    by_cases hi : i < r.currentIndex
    · rw [hbelow i hi]
    · rw [if_neg (fun hlt => hi hlt.1), if_neg (fun hlt => hi hlt.1)]
  · show r.intervalsOver = _
    rw [h.intervalsOver]
    refine congrArg Finset.card (Finset.filter_congr fun i hi => ?_)
    rw [hbelow i (Finset.mem_range.mp hi)]

/-- A record that turns to a later interval. -/
theorem InProgress.turn {samples : List LagSample} {r : LagRecord}
    (h : InProgress start interval samples r) {sample : LagSample}
    (hindex : r.currentIndex < sample.index start interval) :
    InProgress start interval (samples ++ [sample])
      { r.closeInterval with
        currentIndex := sample.index start interval
        current := r.closeInterval.current ++ [sample.micros] } := by
  -- the interval that is left gets its entry, and those between have no samples
  have hclosed := h.close
  have hbelow (i : ℕ) (hi : i < sample.index start interval) :
      lagsIn start interval (samples ++ [sample]) i = lagsIn start interval samples i := by
    rw [lagsIn_concat, if_neg (Nat.ne_of_gt hi), List.append_nil]
  have hbetween (i : ℕ) (hi : ¬ i < r.currentIndex + 1) : lagsIn start interval samples i = [] :=
    lagsIn_eq_nil h.bound (by omega)
  refine ⟨r.start_closeInterval.trans h.start_eq, r.interval_closeInterval.trans h.interval_eq,
    Or.inr ⟨sample, by simp, rfl⟩, ?_, ?_, fun i => ?_, ?_⟩
  · intro other hother
    rcases List.mem_append.mp hother with hold | hnew
    · exact (h.bound other hold).trans hindex.le
    · rw [List.mem_singleton.mp hnew]
  · show r.closeInterval.current ++ [sample.micros]
      = lagsIn start interval (samples ++ [sample]) (sample.index start interval)
    rw [current_closeInterval, lagsIn_concat, if_pos rfl, hbetween _ (by omega)]
  · show r.closeInterval.intervals[i]? = _
    rw [hclosed.entries]
    by_cases hi : i < r.currentIndex + 1
    · have hlt : i < sample.index start interval := by omega
      rw [hbelow i hlt]
      exact if_congr (and_congr_left' (iff_of_true hi hlt)) rfl rfl
    · rw [if_neg (fun hlt => hi hlt.1), if_neg]
      rintro ⟨hlt, hne⟩
      rw [hbelow i hlt, hbetween i hi] at hne
      exact hne rfl
  · show r.closeInterval.intervalsOver = _
    rw [hclosed.intervalsOver]
    refine congrArg Finset.card (Finset.ext fun i => ?_)
    simp only [Finset.mem_filter, Finset.mem_range]
    constructor
    · rintro ⟨hi, hover⟩
      have hlt : i < sample.index start interval := by omega
      exact ⟨hlt, by rwa [hbelow i hlt]⟩
    · rintro ⟨hlt, hover⟩
      rw [hbelow i hlt] at hover
      refine ⟨?_, hover⟩
      by_contra hi
      rw [hbetween i hi] at hover
      exact IntervalLag.not_over_nil hover

/-- **One wake-up more**, due no earlier than those before it. -/
theorem InProgress.record {samples : List LagSample} {r : LagRecord}
    (h : InProgress start interval samples r) {sample : LagSample}
    (hlate : ∀ earlier ∈ samples, earlier.due ≤ sample.due) :
    InProgress start interval (samples ++ [sample]) (r.record sample.due sample.lag) := by
  have hreached : r.currentIndex ≤ sample.index start interval := by
    rcases h.reached with hzero | ⟨earlier, hmem, hindex⟩
    · rw [hzero]
      exact Nat.zero_le _
    · rw [← hindex]
      exact Nat.div_le_div_right (Nat.sub_le_sub_right (hlate earlier hmem) start)
  -- the histogram plays no part in the account of the intervals
  have hcounted : InProgress start interval samples { r with hist := r.hist.record sample.micros } :=
    ⟨h.start_eq, h.interval_eq, h.reached, h.bound, h.current, h.entries, h.intervalsOver⟩
  have hindex : (sample.due - r.start) / r.interval = sample.index start interval := by
    rw [h.start_eq, h.interval_eq]
    rfl
  unfold LagRecord.record
  dsimp only
  rw [hindex]
  by_cases hsame : sample.index start interval = r.currentIndex
  · rw [if_neg (not_not.mpr hsame)]
    exact hcounted.stay hsame
  · rw [if_pos hsame]
    exact hcounted.turn (lt_of_le_of_ne hreached (Ne.symm hsame))

theorem hist_record (r : LagRecord) (sample : LagSample) :
    (r.record sample.due sample.lag).hist = r.hist.record sample.micros := by
  unfold LagRecord.record
  dsimp only
  split_ifs
  · exact hist_closeInterval _
  · rfl

/-- The samples of a run come in the order of their due times. -/
theorem inProgress_foldl {samples : List LagSample}
    (hsorted : samples.Pairwise fun a b => a.due ≤ b.due) :
    InProgress start interval samples
      (samples.foldl (fun r sample => r.record sample.due sample.lag) (new start interval)) := by
  induction samples using List.reverseRecOn with
  | nil => exact inProgress_new start interval
  | append_singleton samples sample ih =>
    obtain ⟨hbefore, -, hlate⟩ := List.pairwise_append.mp hsorted
    rw [List.foldl_append]
    exact (ih hbefore).record fun earlier hmem => hlate earlier hmem sample (by simp)

theorem micros_le (sample : LagSample) : sample.micros ≤ highestUs := Nat.min_le_right _ _

theorem hist_ofSamples (start : Instant) (interval : Duration) (samples : List LagSample) :
    (ofSamples start interval samples).hist
      = .ofValues (samples.map LagSample.micros : List ℕ) := by
  have hfold : (samples.foldl (fun r sample => r.record sample.due sample.lag)
      (new start interval)).hist = .ofValues (samples.map LagSample.micros : List ℕ) := by
    induction samples using List.reverseRecOn with
    | nil => simp [new]
    | append_singleton samples sample ih =>
      rw [List.foldl_append, List.foldl_cons, List.foldl_nil, hist_record, ih,
        IntervalHistogram.record_ofValues _ (micros_le sample), List.map_append]
      rfl
  rw [ofSamples, hist_closeInterval, hfold]

theorem total_hist_ofSamples (start : Instant) (interval : Duration) (samples : List LagSample) :
    (ofSamples start interval samples).hist.total = samples.length := by
  rw [hist_ofSamples, total_ofValues, Multiset.coe_card, List.length_map]
  intro micros hmicros
  obtain ⟨sample, -, rfl⟩ := List.mem_map.mp (Multiset.mem_coe.mp hmicros)
  exact micros_le sample

/-- The account of a record's wake-ups: an entry for every interval that has
one, and the entries add up. -/
structure Accounted (start : Instant) (interval : Duration) (samples : List LagSample)
    (r : LagRecord) : Prop where
  keys : ∀ i, (r.intervals[i]?).isSome ↔ i ∈ lagIndices start interval samples
  number : ∀ i lag, r.intervals[i]? = some lag →
    lag.samples = (lagsIn start interval samples i).length
  nearestRank : ∀ i lag, r.intervals[i]? = some lag →
    IsNearestRank 99 (lagsIn start interval samples i) lag.p99Us
  largest : ∀ i lag, r.intervals[i]? = some lag →
    IsLargest (lagsIn start interval samples i) lag.maxUs
  /-- The position the p99 is read at is one of the interval's. -/
  position : ∀ i ∈ lagIndices start interval samples,
    max (((lagsIn start interval samples i).length * 99 + 99) / 100) 1 - 1
      < (lagsIn start interval samples i).length
  intervalsOver : r.intervalsOver = ((lagIndices start interval samples).filter fun i =>
    ((r.intervals[i]?).any fun lag => lagThresholdUs < lag.p99Us) = true ∧
      minLateInInterval ≤ (lagsIn start interval samples i).countP (lagThresholdUs < ·)).card
  hist : r.hist = .ofValues (samples.map LagSample.micros : List ℕ)
  count : ∑ i ∈ lagIndices start interval samples, (r.intervals[i]?).elim 0 IntervalLag.samples
    = r.hist.total ∧ r.hist.total = samples.length

theorem mem_lagIndices {samples : List LagSample} {i : ℕ} :
    i ∈ lagIndices start interval samples ↔ lagsIn start interval samples i ≠ [] := by
  unfold lagIndices lagsIn
  rw [List.mem_toFinset, List.mem_map, Ne, List.map_eq_nil_iff, List.filter_eq_nil_iff]
  simp

/-- Every wake-up is in one interval. -/
theorem sum_length_lagsIn (start : Instant) (interval : Duration) (samples : List LagSample) :
    ∑ i ∈ lagIndices start interval samples, (lagsIn start interval samples i).length
      = samples.length := by
  have hcount (i : ℕ) : (lagsIn start interval samples i).length
      = (samples.map (LagSample.index start interval)).count i := by
    unfold lagsIn
    rw [List.length_map, ← List.countP_eq_length_filter, List.count, List.countP_map]
    refine List.countP_congr fun sample _ => ?_
    simp
  rw [Finset.sum_congr rfl fun i _ => hcount i, lagIndices, List.sum_toFinset_count_eq_length,
    List.length_map]

/-- The entry of an interval, all intervals being closed. -/
theorem intervals_ofSamples {samples : List LagSample}
    (hsorted : samples.Pairwise fun a b => a.due ≤ b.due) (i : ℕ) :
    (ofSamples start interval samples).intervals[i]?
      = if i ∈ lagIndices start interval samples
        then some (.ofLags (lagsIn start interval samples i)) else none := by
  have hopen : InProgress start interval samples _ := inProgress_foldl hsorted
  have hclosed := hopen.close
  rw [ofSamples, hclosed.entries]
  refine if_congr ?_ rfl rfl
  rw [mem_lagIndices]
  refine ⟨And.right, fun hne => ⟨?_, hne⟩⟩
  by_contra hi
  exact hne (lagsIn_eq_nil hopen.bound (by omega))

theorem intervalsOver_ofSamples {samples : List LagSample}
    (hsorted : samples.Pairwise fun a b => a.due ≤ b.due) :
    (ofSamples start interval samples).intervalsOver
      = ((lagIndices start interval samples).filter
          fun i => IntervalLag.Over (lagsIn start interval samples i)).card := by
  have hopen : InProgress start interval samples _ := inProgress_foldl hsorted
  rw [ofSamples, hopen.close.intervalsOver]
  refine congrArg Finset.card (Finset.ext fun i => ?_)
  simp only [Finset.mem_filter, Finset.mem_range, mem_lagIndices]
  refine and_congr_left fun hover => ⟨fun _ hnil => ?_, fun hne => ?_⟩
  · rw [hnil] at hover
    exact IntervalLag.not_over_nil hover
  · by_contra hi
    exact hne (lagsIn_eq_nil hopen.bound (by omega))

/-- **The account of a record**, for wake-ups in the order of their due
times. -/
theorem accounted_ofSamples (start : Instant) (interval : Duration) {samples : List LagSample}
    (hsorted : samples.Pairwise fun a b => a.due ≤ b.due) :
    Accounted start interval samples (ofSamples start interval samples) := by
  have hentry (i : ℕ) := @intervals_ofSamples start interval samples hsorted i
  have hsome {i : ℕ} {lag : IntervalLag}
      (h : (ofSamples start interval samples).intervals[i]? = some lag) :
      lagsIn start interval samples i ≠ []
        ∧ lag = .ofLags (lagsIn start interval samples i) := by
    rw [hentry] at h
    split_ifs at h with hmem
    exact ⟨mem_lagIndices.mp hmem, (Option.some.inj h).symm⟩
  refine ⟨fun i => ?_, fun i lag h => ?_, fun i lag h => ?_, fun i lag h => ?_, fun i hi => ?_, ?_,
    hist_ofSamples start interval samples, ?_, ?_⟩
  · rw [hentry]
    split_ifs with hmem <;> simp [hmem]
  · rw [(hsome h).2]
    rfl
  · obtain ⟨hne, rfl⟩ := hsome h
    rw [IntervalLag.p99Us_ofLags hne]
    exact isNearestRank_mergeSort (by decide) (by decide) hne
  · obtain ⟨hne, rfl⟩ := hsome h
    exact isLargest_mergeSort hne
  · have hlength := List.length_pos_of_ne_nil (mem_lagIndices.mp hi)
    omega
  · rw [intervalsOver_ofSamples hsorted]
    refine congrArg Finset.card (Finset.filter_congr fun i hi => ?_)
    rw [hentry, if_pos hi, Option.any_some, decide_eq_true_eq]
    rfl
  · rw [total_hist_ofSamples, ← sum_length_lagsIn start interval samples]
    refine Finset.sum_congr rfl fun i hi => ?_
    rw [hentry, if_pos hi]
    rfl
  · exact total_hist_ofSamples start interval samples

/-- The totals of a record, to summarise or to add to those of other
phases. -/
def totals (r : LagRecord) : LagTotals where
  hist := some r.hist
  intervals := r.intervals.size
  intervalsOver := r.intervalsOver
  thresholdUs := none

/-- A record has as many entries as intervals with a wake-up. -/
theorem size_intervals {samples : List LagSample} {r : LagRecord}
    (h : Accounted start interval samples r) :
    r.intervals.size = (lagIndices start interval samples).card := by
  have hkeys : r.intervals.keys.toFinset = lagIndices start interval samples := by
    ext i
    rw [List.mem_toFinset, Std.ExtTreeMap.mem_keys, Std.ExtTreeMap.mem_iff_isSome_getElem?, h.keys]
  rw [← hkeys, List.toFinset_card_of_nodup Std.ExtTreeMap.nodup_keys, Std.ExtTreeMap.length_keys]

end LagRecord

/-! ## The totals of several phases -/

namespace IntervalHistogram

/-- How many values have an index that satisfies a condition. -/
theorem sum_ofValues {values : Multiset ℕ} (h : ∀ micros ∈ values, micros ≤ highestUs)
    (p : ℕ → Prop) [DecidablePred p] :
    (∑ i : Fin intervalLayout.len, if p i then ofValues values i else 0)
      = values.countP fun micros => p (intervalLayout.index micros) := by
  induction values using Multiset.induction_on with
  | empty => simp
  | cons micros values ih =>
    obtain ⟨hmicros, hvalues⟩ := Multiset.forall_mem_cons.mp h
    have hone (i : Fin intervalLayout.len) :
        (if p i then ofValues (micros ::ₘ values) i else 0)
          = (if p i then ofValues values i else 0)
            + if ⟨intervalLayout.index micros, intervalIndex_lt hmicros⟩ = i
              then (if p (intervalLayout.index micros) then 1 else 0) else 0 := by
      unfold ofValues
      rw [Multiset.countP_cons]
      by_cases hi : intervalLayout.index micros = i
      · rw [if_pos hi, if_pos (Fin.ext hi), hi]
        split_ifs <;> rfl
      · rw [if_neg hi, if_neg (fun heq => hi (congrArg Fin.val heq)), Nat.add_zero, Nat.add_zero]
    rw [Multiset.countP_cons, ← ih hvalues, Finset.sum_congr rfl fun i _ => hone i,
      Finset.sum_add_distrib, Finset.sum_ite_eq, if_pos (Finset.mem_univ _)]

/-- The values later than `high`, by their index. -/
theorem late_ofValues {values : Multiset ℕ}
    (h : ∀ micros ∈ values, lowestUs ≤ micros ∧ micros ≤ highestUs) (high : ℕ) :
    (ofValues values).total - (ofValues values).countBetween 1 high
      = values.countP fun micros => intervalLayout.index high < intervalLayout.index micros := by
  have hbound : ∀ micros ∈ values, micros ≤ highestUs := fun micros hmicros => (h micros hmicros).2
  have hbetween : (ofValues values).countBetween 1 high
      = values.countP fun micros =>
        ¬ intervalLayout.index high < intervalLayout.index micros := by
    unfold Hdr.Hist.countBetween
    rw [sum_ofValues hbound (fun i => intervalLayout.index 1 ≤ i ∧ i ≤ intervalLayout.index high)]
    refine Multiset.countP_congr rfl fun micros hmicros => ?_
    rw [not_lt]
    exact propext (and_iff_right (intervalLayout.index_mono (h micros hmicros).1))
  rw [hbetween, total_ofValues hbound, Multiset.card_eq_countP_add_countP
    (fun micros => intervalLayout.index high < intervalLayout.index micros)]
  omega

end IntervalHistogram

namespace LagTotals

/-- Totals that are added up. -/
def sum (all : List LagTotals) : LagTotals := all.foldl add {}

theorem intervals_foldl_add (all : List LagTotals) (totals : LagTotals) :
    (all.foldl add totals).intervals = totals.intervals + (all.map LagTotals.intervals).sum := by
  induction all generalizing totals with
  | nil => rfl
  | cons first rest ih =>
    rw [List.foldl_cons, ih, List.map_cons, List.sum_cons, ← Nat.add_assoc]
    rfl

theorem intervalsOver_foldl_add (all : List LagTotals) (totals : LagTotals) :
    (all.foldl add totals).intervalsOver
      = totals.intervalsOver + (all.map LagTotals.intervalsOver).sum := by
  induction all generalizing totals with
  | nil => rfl
  | cons first rest ih =>
    rw [List.foldl_cons, ih, List.map_cons, List.sum_cons, ← Nat.add_assoc]
    rfl

/-- A histogram that is missing is empty. -/
theorem hist_foldl_add (all : List LagTotals) (totals : LagTotals) :
    ((all.foldl add totals).hist).getD 0
      = totals.hist.getD 0 + (all.map fun other => other.hist.getD 0).sum := by
  induction all generalizing totals with
  | nil => simp
  | cons first rest ih =>
    have hadd : ((totals.add first).hist).getD 0 = totals.hist.getD 0 + first.hist.getD 0 := by
      unfold add
      rcases totals.hist with _ | hist <;> rcases first.hist with _ | other <;> simp
    rw [List.foldl_cons, ih, hadd, List.map_cons, List.sum_cons, add_assoc]

theorem thresholdUs_foldl_add (all : List LagTotals) (totals : LagTotals) :
    (all.foldl add totals).thresholdUs
      = totals.thresholdUs.or (all.findSome? LagTotals.thresholdUs) := by
  induction all generalizing totals with
  | nil => simp
  | cons first rest ih =>
    rw [List.foldl_cons, ih]
    show (totals.thresholdUs.or first.thresholdUs).or _ = _
    rw [Option.or_assoc, List.findSome?_cons]
    rcases first.thresholdUs with _ | threshold <;> rfl

/-- There is no summary without a sample. -/
theorem summary_eq_none {totals : LagTotals} :
    totals.summary = none ↔ (totals.hist.getD 0).total = 0 := by
  unfold summary
  rcases totals.hist with _ | hist
  · simp
  · dsimp only
    rw [Option.getD_some]
    split_ifs with hpos
    · exact iff_of_false (by simp) (Nat.ne_of_gt hpos)
    · exact iff_of_true rfl (Nat.eq_zero_of_not_pos hpos)

/-- **What a summary says.** -/
theorem summary_eq_some {totals : LagTotals} {lag : GeneratorLag} (h : totals.summary = some lag) :
    lag.thresholdUs = totals.thresholdUs.getD lagThresholdUs ∧
      lag.samples = (totals.hist.getD 0).total ∧
      lag.p99Us = (totals.hist.getD 0).valueAtQuantile (99 / 100) ∧
      (lag.saturated = true ↔
        (lag.thresholdUs < lag.p99Us ∧
          minLateInRun ≤ (totals.hist.getD 0).total
            - (totals.hist.getD 0).countBetween 1 lag.thresholdUs) ∨
        (0 < totals.intervalsOver ∧ totals.intervals ≤ 10 * totals.intervalsOver)) := by
  unfold summary at h
  rcases hhist : totals.hist with _ | hist
  · rw [hhist] at h
    cases h
  · rw [hhist] at h
    dsimp only at h
    split_ifs at h
    rw [Option.getD_some, ← Option.some.inj h]
    dsimp only
    refine ⟨rfl, rfl, rfl, ?_⟩
    rw [Bool.or_eq_true, decide_eq_true_eq, decide_eq_true_eq]
    refine or_congr Iff.rfl (and_congr_right fun _ => ?_)
    unfold intervalSharePercent
    omega

end LagTotals

/-- The totals of one phase and the lags they are of, in microseconds: the
run's own record, an agent's, or the totals of a phase without a probe. -/
structure PhaseLag where
  totals : LagTotals
  lags : Multiset ℕ
  hist : totals.hist.getD 0 = .ofValues lags
  clamped : ∀ micros ∈ lags, lowestUs ≤ micros ∧ micros ≤ highestUs

namespace PhaseLag

/-- What the probe's wake-ups are recorded to. -/
def ofSamples (start : Instant) (interval : Duration) (samples : List LagSample) : PhaseLag where
  totals := (LagRecord.ofSamples start interval samples).totals
  lags := samples.map LagSample.micros
  hist := LagRecord.hist_ofSamples start interval samples
  clamped micros h := by
    obtain ⟨sample, -, rfl⟩ := List.mem_map.mp (Multiset.mem_coe.mp h)
    exact ⟨le_min (le_max_right _ _) (by decide), LagRecord.micros_le sample⟩

theorem mem_sum_lags {phases : List PhaseLag} {micros : ℕ} :
    micros ∈ (phases.map lags).sum ↔ ∃ phase ∈ phases, micros ∈ phase.lags := by
  induction phases with
  | nil => simp
  | cons phase rest ih => simp [Multiset.mem_add, ih]

/-- There is no lag without one of a phase. -/
theorem sum_lags_eq_zero {phases : List PhaseLag} :
    (phases.map lags).sum = 0 ↔ ∀ phase ∈ phases, phase.lags = 0 := by
  induction phases with
  | nil => simp
  | cons phase rest ih => simp [ih]

end PhaseLag

/-- The histogram of several lists of values. -/
theorem IntervalHistogram.ofValues_add (values more : Multiset ℕ) :
    ofValues (values + more) = ofValues values + ofValues more := by
  funext i
  simp [ofValues]

theorem IntervalHistogram.ofValues_sum (all : List (Multiset ℕ)) :
    ofValues all.sum = (all.map ofValues).sum := by
  induction all with
  | nil => simp
  | cons values rest ih => rw [List.sum_cons, ofValues_add, ih, List.map_cons, List.sum_cons]

/-- What the totals of phases, added up, say of all their samples. -/
structure SummedUp (phases : List PhaseLag) (total : LagTotals) : Prop where
  intervals : total.intervals = (phases.map fun phase => phase.totals.intervals).sum
  intervalsOver : total.intervalsOver = (phases.map fun phase => phase.totals.intervalsOver).sum
  hist : total.hist.getD 0 = .ofValues (phases.map PhaseLag.lags).sum
  thresholdUs : total.thresholdUs = phases.findSome? fun phase => phase.totals.thresholdUs
  summary_eq_none : total.summary = none ↔ ∀ phase ∈ phases, phase.lags = 0
  summary_eq_some : ∀ lag, total.summary = some lag →
    lag.thresholdUs = total.thresholdUs.getD lagThresholdUs ∧
      lag.p99Us = Hdr.Hist.valueAtQuantile
        (.ofValues (phases.map PhaseLag.lags).sum : IntervalHistogram) (99 / 100)
  /-- The run is flagged. A sample is later than the threshold when it is
  counted at a later index. -/
  saturated : ∀ lag, total.summary = some lag → (lag.saturated = true ↔
    (lag.thresholdUs < lag.p99Us ∧ 3 ≤ (phases.map PhaseLag.lags).sum.countP fun micros =>
        intervalLayout.index lag.thresholdUs < intervalLayout.index micros) ∨
    (0 < total.intervalsOver ∧ total.intervals ≤ 10 * total.intervalsOver))

theorem summedUp_sum (phases : List PhaseLag) :
    SummedUp phases (LagTotals.sum (phases.map PhaseLag.totals)) := by
  have hhist : (LagTotals.sum (phases.map PhaseLag.totals)).hist.getD 0
      = .ofValues (phases.map PhaseLag.lags).sum := by
    rw [LagTotals.sum, LagTotals.hist_foldl_add, IntervalHistogram.ofValues_sum, List.map_map,
      List.map_map, List.map_congr_left fun phase _ => phase.hist]
    exact zero_add _
  have hlags : ∀ micros ∈ (phases.map PhaseLag.lags).sum,
      lowestUs ≤ micros ∧ micros ≤ highestUs := fun micros hmicros => by
    obtain ⟨phase, -, hmem⟩ := PhaseLag.mem_sum_lags.mp hmicros
    exact phase.clamped micros hmem
  have htotal := total_ofValues fun micros hmicros => (hlags micros hmicros).2
  refine { intervals := ?_, intervalsOver := ?_, hist := hhist, thresholdUs := ?_,
           summary_eq_none := ?_, summary_eq_some := ?_, saturated := ?_ }
  · rw [LagTotals.sum, LagTotals.intervals_foldl_add, List.map_map]
    exact Nat.zero_add _
  · rw [LagTotals.sum, LagTotals.intervalsOver_foldl_add, List.map_map]
    exact Nat.zero_add _
  · rw [LagTotals.sum, LagTotals.thresholdUs_foldl_add, List.findSome?_map]
    rfl
  · rw [LagTotals.summary_eq_none, hhist, htotal, Multiset.card_eq_zero]
    exact PhaseLag.sum_lags_eq_zero
  · intro lag hlag
    obtain ⟨hthreshold, -, hp99, -⟩ := LagTotals.summary_eq_some hlag
    exact ⟨hthreshold, by rw [hp99, hhist]⟩
  · intro lag hlag
    rw [(LagTotals.summary_eq_some hlag).2.2.2, hhist, IntervalHistogram.late_ofValues hlags]
    rfl

/-- **Lag accounting.** A phase's record has an entry for exactly the intervals
with a wake-up, with the number of them, their largest lag and the
nearest-rank p99, and the histogram of all; the totals of phases, added up, are
those of all their samples. -/
theorem lag_accounting :
    (∀ (start : Instant) (interval : Duration) (samples : List LagSample),
        samples.Pairwise (fun a b => a.due ≤ b.due) →
        LagRecord.Accounted start interval samples (.ofSamples start interval samples) ∧
          (PhaseLag.ofSamples start interval samples).totals.intervals
            = (lagIndices start interval samples).card) ∧
      ∀ phases : List PhaseLag,
        SummedUp phases (LagTotals.sum (phases.map PhaseLag.totals)) := by
  refine ⟨fun start interval samples hsorted => ?_, summedUp_sum⟩
  have haccounted := LagRecord.accounted_ofSamples start interval hsorted
  exact ⟨haccounted, LagRecord.size_intervals haccounted⟩

/-- Two wake-ups in the first second and a late one in the third. -/
def threeWakeUps : List LagSample :=
  [⟨Duration.ofMillis 200, Duration.ofMillis 1⟩, ⟨Duration.ofMillis 700, Duration.ofMillis 3⟩,
    ⟨Duration.ofMillis 2100, Duration.ofMillis 20⟩]

/-- They are in two intervals, and a phase with them adds up with another. -/
theorem lag_accounting_threeWakeUps :
    LagRecord.Accounted 0 (.ofSecs 1) threeWakeUps (.ofSamples 0 (.ofSecs 1) threeWakeUps)
      ∧ (PhaseLag.ofSamples 0 (.ofSecs 1) threeWakeUps).totals.intervals = 2
      ∧ SummedUp [.ofSamples 0 (.ofSecs 1) threeWakeUps, .ofSamples 0 (.ofSecs 2) threeWakeUps]
        (.sum [(PhaseLag.ofSamples 0 (.ofSecs 1) threeWakeUps).totals,
          (PhaseLag.ofSamples 0 (.ofSecs 2) threeWakeUps).totals]) := by
  have hcard : (lagIndices 0 (.ofSecs 1) threeWakeUps).card = 2 := by decide +kernel
  obtain ⟨haccounted, hintervals⟩ := lag_accounting.1 0 (.ofSecs 1) threeWakeUps (by decide +kernel)
  exact ⟨haccounted, hintervals.trans hcard, lag_accounting.2 [_, _]⟩

end WsBlast
