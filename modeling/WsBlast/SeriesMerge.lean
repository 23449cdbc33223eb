import WsBlast.Lib.OrderedMap
import WsBlast.Lib.TallyMap
import WsBlast.TimeSeries

/-!
# What a parallel merge reports

Merging the series of machines that ran at the same time groups the points
of all machines by interval index, and the histograms by the index they are
stored under. `MergedPoint` says what the merge reports of an interval, in
terms of the points and histograms that the machines have of it, and
`MergedSeries` says it of the series.

A point's counters are sums, its start and duration the least and the
largest, and its latency that of the sum of the histograms, so none of them
depends on the order of the machines. The lag is that of the machine that
lagged most. Between machines that lagged equally the first one's is kept:
its p99 and its maximum are the same for every order, but the number of its
samples is not.

Points are grouped by the interval that their start is rounded to, and
histograms by the interval they are stored under. The two groupings are made
apart, and the merged point reads the histogram under its own index. That this
is right needs an argument only about the index: a machine's samples of an
interval are under the number of the interval, whatever the starts of its
points are.
-/

namespace WsBlast

namespace TimeSeries

attribute [ext] TimeSeriesPoint

/-! ## What the machines have of an interval

Points and samples of all machines, interval by interval, and what a merge is to
report of them. -/

/-- The points of all machines. -/
def allPoints (parts : List SeriesPart) : List TimeSeriesPoint :=
  parts.flatMap fun part => part.series.points

/-- The points that the machines have of an interval. -/
def pointsAt (interval : ℚ) (parts : List SeriesPart) (index : ℕ) : List TimeSeriesPoint :=
  (allPoints parts).filter fun point => mergeIndex interval point.startSecs = index

/-- The samples that the machines have of an interval. -/
def histogramAt (parts : List SeriesPart) (index : ℕ) : IntervalHistogram :=
  (parts.map fun part => part.buckets[index]?.getD 0).sum

/-- The fields of a point that are added up. -/
def counters : List (TimeSeriesPoint → ℕ) :=
  [TimeSeriesPoint.activeConnections, TimeSeriesPoint.messagesSent, TimeSeriesPoint.messagesRecv,
    TimeSeriesPoint.bytesSent, TimeSeriesPoint.bytesRecv, TimeSeriesPoint.errors]

/-- How bad a lag is: first by its p99, then by its maximum. -/
def severity (lag : IntervalLag) : ℕ ×ₗ ℕ := toLex (lag.p99Us, lag.maxUs)

/-- The first of the lags that no other exceeds. -/
def IsFirstWorst (lags : List IntervalLag) : Option IntervalLag → Prop
  | none => lags = []
  | some lag => ∃ before after, lags = before ++ lag :: after ∧
      (∀ other ∈ before, severity other < severity lag) ∧
      ∀ other ∈ after, severity other ≤ severity lag

/-- What merging some points makes of them, its latency and throughput aside. -/
structure AddedUp (points : List TimeSeriesPoint) (merged : TimeSeriesPoint) : Prop where
  /-- Counters and open connections are summed. -/
  sums : ∀ counter ∈ counters, counter merged = (points.map counter).sum
  /-- The start is the earliest. -/
  start : IsLeast (Set.image TimeSeriesPoint.startSecs {point | point ∈ points}) merged.startSecs
  /-- The duration is the longest, which is never below zero. -/
  duration : IsGreatest (insert 0 (Set.image TimeSeriesPoint.durationSecs
    {point | point ∈ points})) merged.durationSecs
  /-- The lag is the worst. -/
  lag : IsFirstWorst (points.filterMap TimeSeriesPoint.generatorLag) merged.generatorLag

/-- What a merge reports of an interval. -/
structure MergedPoint (interval : ℚ) (parts : List SeriesPart) (index : ℕ)
    (merged : TimeSeriesPoint) : Prop extends AddedUp (pointsAt interval parts index) merged where
  throughput : merged.throughputMsgPerSec
    = (max merged.messagesSent merged.messagesRecv : ℕ) / max merged.durationSecs (1 / 10000)
  latency : merged.latency = .fromHistogram (some (histogramAt parts index))

/-- What a merge reports of a run. -/
structure MergedSeries (interval : ℚ) (parts : List SeriesPart) (merged : TimeSeries) : Prop where
  intervalSecs : parts ≠ [] → merged.intervalSecs = interval
  /-- The latency basis is that of a machine with points. -/
  basis : merged.points ≠ [] →
    ∃ part ∈ parts, part.series.points ≠ [] ∧ part.series.latencyBasis = merged.latencyBasis
  /-- The points are in the order of their intervals, one for each. -/
  inOrder : (merged.points.map fun point => mergeIndex interval point.startSecs).Pairwise (· < ·)
  /-- An interval has a point when some machine has one of it. -/
  occurs : ∀ index, (∃ point ∈ merged.points, mergeIndex interval point.startSecs = index) ↔
    pointsAt interval parts index ≠ []
  points : ∀ point ∈ merged.points,
    MergedPoint interval parts (mergeIndex interval point.startSecs) point
  /-- Nothing is lost or counted twice. -/
  totals : ∀ counter ∈ counters,
    (merged.points.map counter).sum = ((allPoints parts).map counter).sum

/-! ## Adding a point -/

theorem worseLag_some (lag worst : IntervalLag) :
    worseLag lag (some worst) = true ↔ severity worst < severity lag := by
  unfold worseLag severity
  rw [decide_eq_true_iff, Prod.Lex.toLex_lt_toLex]

/-- The worst lag after one more. -/
theorem IsFirstWorst.snoc {lags : List IntervalLag} {worst : Option IntervalLag}
    (h : IsFirstWorst lags worst) (lag : IntervalLag) :
    IsFirstWorst (lags ++ [lag]) (if worseLag lag worst then some lag else worst) := by
  cases worst with
  | none =>
    rw [show lags = [] from h, if_pos (show worseLag lag none = true from rfl)]
    exact ⟨[], [], rfl, by simp, by simp⟩
  | some worst =>
    obtain ⟨before, after, hlags, hbefore, hafter⟩ := h
    by_cases hworse : worseLag lag (some worst) = true
    · rw [if_pos hworse]
      have hlt : severity worst < severity lag := (worseLag_some lag worst).mp hworse
      refine ⟨lags, [], rfl, fun other hother => ?_, by simp⟩
      rw [hlags, List.mem_append, List.mem_cons] at hother
      rcases hother with hin | rfl | hin
      · exact (hbefore other hin).trans hlt
      · exact hlt
      · exact (hafter other hin).trans_lt hlt
    · rw [if_neg hworse]
      have hle : severity lag ≤ severity worst := not_lt.mp (mt (worseLag_some lag worst).mpr hworse)
      refine ⟨before, after ++ [lag], by rw [hlags]; simp, hbefore, fun other hother => ?_⟩
      rcases List.mem_append.mp hother with hin | hin
      · exact hafter other hin
      · rw [List.mem_singleton.mp hin]
        exact hle

/-- The lag of a merged point. -/
theorem isFirstWorst_mergePoint {points : List TimeSeriesPoint} {held : Option TimeSeriesPoint}
    (hheld : IsFirstWorst (points.filterMap TimeSeriesPoint.generatorLag)
      (held.bind TimeSeriesPoint.generatorLag)) (point : TimeSeriesPoint) :
    IsFirstWorst ((points ++ [point]).filterMap TimeSeriesPoint.generatorLag)
      (mergePoint held point).generatorLag := by
  have hworst : (held.getD { startSecs := point.startSecs }).generatorLag
      = held.bind TimeSeriesPoint.generatorLag := by
    cases held <;> rfl
  unfold mergePoint
  rw [List.filterMap_append]
  cases hlag : point.generatorLag with
  | none =>
    simp only [hworst, List.filterMap_cons, List.filterMap_nil, hlag, List.append_nil]
    exact hheld
  | some lag =>
    simp only [hworst, List.filterMap_cons, List.filterMap_nil, hlag]
    exact hheld.snoc lag

theorem counter_mergePoint (held : Option TimeSeriesPoint) (point : TimeSeriesPoint) :
    ∀ counter ∈ counters,
      counter (mergePoint held point) = held.elim 0 counter + counter point := by
  cases held <;> simp [counters, mergePoint]

/-- The least of a set after one more element. -/
theorem isLeast_image_snoc {points : List TimeSeriesPoint} {least : ℚ}
    (h : IsLeast (Set.image TimeSeriesPoint.startSecs {point | point ∈ points}) least)
    (point : TimeSeriesPoint) :
    IsLeast (Set.image TimeSeriesPoint.startSecs {other | other ∈ points ++ [point]})
      (min least point.startSecs) := by
  have hset : {other | other ∈ points ++ [point]} = insert point {other | other ∈ points} := by
    ext other
    simp [or_comm]
  rw [hset, Set.image_insert_eq, min_comm]
  exact h.insert _

/-- One point more. -/
theorem AddedUp.snoc {points : List TimeSeriesPoint} {merged : TimeSeriesPoint}
    (h : AddedUp points merged) (point : TimeSeriesPoint) :
    AddedUp (points ++ [point]) (mergePoint (some merged) point) where
  sums counter hcounter := by
    rw [counter_mergePoint _ _ counter hcounter, List.map_append, List.sum_append]
    show counter merged + counter point = _
    rw [h.sums counter hcounter, List.map_singleton, List.sum_singleton]
  start := isLeast_image_snoc h.start point
  duration := by
    have hset : {other | other ∈ points ++ [point]} = insert point {other | other ∈ points} := by
      ext other
      simp [or_comm]
    rw [hset, Set.image_insert_eq, Set.insert_comm]
    show IsGreatest _ (max merged.durationSecs point.durationSecs)
    rw [max_comm]
    exact h.duration.insert _
  lag := isFirstWorst_mergePoint h.lag point

/-- The first point. -/
theorem addedUp_singleton (point : TimeSeriesPoint) :
    AddedUp [point] (mergePoint none point) where
  sums counter hcounter := by
    rw [counter_mergePoint _ _ counter hcounter, List.map_singleton, List.sum_singleton]
    exact zero_add _
  start := by
    show IsLeast _ (min point.startSecs point.startSecs)
    simp [min_self]
  duration := by
    show IsGreatest _ (max 0 point.durationSecs)
    simp [IsGreatest, upperBounds, le_total]
  lag := by
    have hnone : IsFirstWorst (List.filterMap TimeSeriesPoint.generatorLag [])
        ((none : Option TimeSeriesPoint).bind TimeSeriesPoint.generatorLag) := rfl
    exact isFirstWorst_mergePoint hnone point

/-- What the merge holds of an interval that occurs, before the latency is
read. -/
theorem addedUp_groupValue {points : List TimeSeriesPoint} (hpoints : points ≠ []) :
    ∃ merged, OrderedMap.groupValue (fun point held => mergePoint held point) points = some merged ∧
      AddedUp points merged := by
  induction points using List.reverseRecOn with
  | nil => exact absurd rfl hpoints
  | append_singleton points point ih =>
    unfold OrderedMap.groupValue at ih ⊢
    rw [List.foldl_append]
    cases points with
    | nil => exact ⟨_, rfl, addedUp_singleton point⟩
    | cons first rest =>
      obtain ⟨merged, heq, hadded⟩ := ih (List.cons_ne_nil _ _)
      rw [heq]
      exact ⟨_, rfl, hadded.snoc point⟩

/-! ## Adding a machine

The fold over the machines is a fold over all their points, grouped by interval
(`OrderedMap.group`), and one over their histograms. -/

/-- The point that the merge holds of an interval. -/
def heldAt (interval : ℚ) (parts : List SeriesPart) (index : ℕ) : TimeSeriesPoint :=
  (OrderedMap.groupValue (fun point held => mergePoint held point)
    (pointsAt interval parts index)).getD {}

/-- The point that the merge reports of an interval. -/
def mergedAt (interval : ℚ) (parts : List SeriesPart) (index : ℕ) : TimeSeriesPoint :=
  let point := heldAt interval parts index
  { point with
    throughputMsgPerSec := (max point.messagesSent point.messagesRecv : ℕ)
      / max point.durationSecs (1 / 10000)
    latency := .fromHistogram (some (histogramAt parts index)) }

/-- **What the merge reports of an interval that occurs.** -/
theorem mergedAt_spec {interval : ℚ} {parts : List SeriesPart} {index : ℕ}
    (hoccurs : pointsAt interval parts index ≠ []) :
    MergedPoint interval parts index (mergedAt interval parts index) := by
  obtain ⟨merged, heq, hadded⟩ := addedUp_groupValue hoccurs
  have hheld : heldAt interval parts index = merged := by
    unfold heldAt
    rw [heq, Option.getD_some]
  refine ⟨⟨fun counter hcounter => ?_, ?_, ?_, ?_⟩, by simp only [mergedAt], by
    simp only [mergedAt]⟩
  · have hsame : ∀ counter ∈ counters,
        counter (mergedAt interval parts index) = counter (heldAt interval parts index) := by
      simp [counters, mergedAt]
    rw [hsame counter hcounter, hheld]
    exact hadded.sums counter hcounter
  · show IsLeast _ (heldAt interval parts index).startSecs
    rw [hheld]
    exact hadded.start
  · show IsGreatest _ (heldAt interval parts index).durationSecs
    rw [hheld]
    exact hadded.duration
  · show IsFirstWorst _ (heldAt interval parts index).generatorLag
    rw [hheld]
    exact hadded.lag

/-- Adding a machine's histograms adds them up. -/
theorem histograms_mergePart (interval : ℚ)
    (merged : Std.ExtTreeMap ℕ TimeSeriesPoint compare ×
      Std.ExtTreeMap ℕ IntervalHistogram compare) (part : SeriesPart) :
    (mergePart interval merged part).2 = TallyMap.addAll merged.2 part.buckets := by
  show part.buckets.foldl _ merged.2 = part.buckets.foldl TallyMap.bump merged.2
  congr 1
  funext histograms bucket hist
  show histograms.alter bucket _ = histograms.alter bucket _
  congr 1
  funext held
  cases held with
  | none => exact congrArg some (zero_add hist).symm
  | some existing => rfl

/-- The histograms that a merge holds are the sums over the machines. -/
theorem histograms_foldl (interval : ℚ) (parts : List SeriesPart) (index : ℕ)
    (merged : Std.ExtTreeMap ℕ TimeSeriesPoint compare ×
      Std.ExtTreeMap ℕ IntervalHistogram compare) :
    (parts.foldl (mergePart interval) merged).2[index]?.getD 0
      = merged.2[index]?.getD 0 + histogramAt parts index := by
  induction parts generalizing merged with
  | nil => exact (add_zero _).symm
  | cons part rest ih =>
    have hpart : (mergePart interval merged part).2[index]?.getD 0
        = merged.2[index]?.getD 0 + part.buckets[index]?.getD 0 := by
      rw [histograms_mergePart]
      show TallyMap.value (TallyMap.lookup (TallyMap.addAll merged.2 part.buckets) index) = _
      rw [TallyMap.lookup_addAll, Pi.add_apply, TallyMap.value_add]
      rfl
    rw [List.foldl_cons, ih, hpart, add_assoc]
    rfl

/-- The points that a merge holds are those of all machines, grouped. -/
theorem points_foldl (interval : ℚ) (parts : List SeriesPart)
    (merged : Std.ExtTreeMap ℕ TimeSeriesPoint compare ×
      Std.ExtTreeMap ℕ IntervalHistogram compare) :
    (parts.foldl (mergePart interval) merged).1
      = (allPoints parts).foldl (fun points point =>
          points.alter (mergeIndex interval point.startSecs) fun held =>
            some (mergePoint held point)) merged.1 := by
  induction parts generalizing merged with
  | nil => rfl
  | cons part rest ih =>
    rw [List.foldl_cons, ih]
    show _ = (part.series.points ++ allPoints rest).foldl _ merged.1
    rw [List.foldl_append]
    rfl

/-- A histogram that nothing was recorded in reads as a missing one. -/
theorem fromHistogram_getD (hist : Option IntervalHistogram) :
    IntervalLatency.fromHistogram (some (hist.getD 0)) = .fromHistogram hist := by
  cases hist with
  | none =>
    rw [Option.getD_none]
    unfold IntervalLatency.fromHistogram
    exact if_pos Hdr.Hist.total_zero
  | some hist => rw [Option.getD_some]

/-- The intervals that some machine has a point of, in order. -/
def indices (interval : ℚ) (parts : List SeriesPart) : List ℕ :=
  (((allPoints parts).map fun point => mergeIndex interval point.startSecs).toFinset).sort (· ≤ ·)

theorem mem_indices {interval : ℚ} {parts : List SeriesPart} {index : ℕ} :
    index ∈ indices interval parts ↔ pointsAt interval parts index ≠ [] := by
  unfold indices pointsAt
  rw [Finset.mem_sort, List.mem_toFinset, List.mem_map, ne_eq, List.filter_eq_nil_iff]
  simp

/-- **The points of a merge**, interval by interval. -/
theorem points_mergeParallel {interval : ℚ} {parts : List SeriesPart}
    (hinterval : ∀ part ∈ parts, part.series.intervalSecs = interval) :
    (mergeParallel parts).points = (indices interval parts).map (mergedAt interval parts) := by
  unfold mergeParallel
  cases hfirst : parts.find? fun part => part.series.points ≠ [] with
  | none =>
    rw [List.find?_eq_none] at hfirst
    -- no machine has a point, so no interval occurs
    have hempty : ∀ part ∈ parts, part.series.points = [] := by
      intro part hpart
      simpa using hfirst part hpart
    have hall : allPoints parts = [] := List.flatMap_eq_nil_iff.mpr hempty
    have hnone : indices interval parts = [] := by
      unfold indices
      rw [hall, List.map_nil, List.toFinset_nil, Finset.sort_empty]
    rw [hnone]
    cases parts with
    | nil => rfl
    | cons part rest => exact hempty part List.mem_cons_self
  | some first =>
    obtain rfl := hinterval first (List.mem_of_find?_eq_some hfirst)
    generalize hsame : first.series.intervalSecs = interval
    have hgroup : (parts.foldl (mergePart interval) (∅, ∅)).1.toList
        = (indices interval parts).map fun index => (index, heldAt interval parts index) := by
      rw [points_foldl, OrderedMap.toList_foldl_alter
        (fun point : TimeSeriesPoint => mergeIndex interval point.startSecs)
        (fun point held => mergePoint held point)]
      refine OrderedMap.group_eq _ _ _ _ fun index hindex => ?_
      have hoccurs : pointsAt interval parts index ≠ [] := by
        rw [← mem_indices]
        exact (Finset.mem_sort _).mpr (List.mem_toFinset.mpr hindex)
      obtain ⟨merged, heq, -⟩ := addedUp_groupValue hoccurs
      unfold heldAt
      rw [heq, Option.getD_some]
      exact heq
    show (parts.foldl (mergePart first.series.intervalSecs) (∅, ∅)).1.toList.map _ = _
    rw [hsame, hgroup, List.map_map]
    refine List.map_congr_left fun index hindex => ?_
    have hhist := histograms_foldl interval parts index (∅, ∅)
    rw [show ((∅ : Std.ExtTreeMap ℕ IntervalHistogram compare)[index]?.getD 0) = 0 by simp,
      zero_add] at hhist
    unfold mergedAt
    rw [← hhist, fromHistogram_getD]
    rfl

/-- The merged point of an interval lies in that interval. -/
theorem mergeIndex_merged {interval : ℚ} {parts : List SeriesPart} {index : ℕ}
    {merged : TimeSeriesPoint} (h : MergedPoint interval parts index merged) :
    mergeIndex interval merged.startSecs = index := by
  obtain ⟨point, hpoint, hstart⟩ := h.start.1
  rw [← hstart]
  exact of_decide_eq_true (List.mem_filter.mp hpoint).2

/-- The counters of a merge add up to those of all points. -/
theorem sum_counter {interval : ℚ} {parts : List SeriesPart} {counter : TimeSeriesPoint → ℕ}
    (hcounter : counter ∈ counters) :
    (((indices interval parts).map (mergedAt interval parts)).map counter).sum
      = ((allPoints parts).map counter).sum := by
  rw [← OrderedMap.sum_groups (fun point : TimeSeriesPoint => mergeIndex interval point.startSecs)
    (allPoints parts) counter, List.map_map]
  refine congrArg List.sum (List.map_congr_left fun index hindex => ?_)
  exact (mergedAt_spec (mem_indices.mp hindex)).sums counter hcounter

/-- **A merge reports the run.** -/
theorem mergedSeries_mergeParallel {interval : ℚ} {parts : List SeriesPart}
    (hinterval : ∀ part ∈ parts, part.series.intervalSecs = interval) :
    MergedSeries interval parts (mergeParallel parts) := by
  have hpoints := points_mergeParallel hinterval
  have hindex : ∀ index ∈ indices interval parts,
      mergeIndex interval (mergedAt interval parts index).startSecs = index := fun index hindex =>
    mergeIndex_merged (mergedAt_spec (mem_indices.mp hindex))
  constructor
  · intro hparts
    unfold mergeParallel
    cases hfirst : parts.find? fun part => part.series.points ≠ [] with
    | none =>
      obtain ⟨part, rest, rfl⟩ := List.exists_cons_of_ne_nil hparts
      exact hinterval part List.mem_cons_self
    | some first => exact hinterval first (List.mem_of_find?_eq_some hfirst)
  · intro hsome
    cases hfirst : parts.find? fun part => part.series.points ≠ [] with
    | none =>
      refine absurd ?_ hsome
      rw [hpoints, List.map_eq_nil_iff, List.eq_nil_iff_forall_not_mem]
      intro index hmem
      obtain ⟨point, hpoint⟩ := List.exists_mem_of_ne_nil _ (mem_indices.mp hmem)
      obtain ⟨part, hpart, hin⟩ := List.mem_flatMap.mp (List.mem_filter.mp hpoint).1
      have hempty := List.find?_eq_none.mp hfirst part hpart
      exact hempty (decide_eq_true (List.ne_nil_of_mem hin))
    | some first =>
      refine ⟨first, List.mem_of_find?_eq_some hfirst, ?_, ?_⟩
      · simpa using List.find?_some hfirst
      · unfold mergeParallel
        rw [hfirst]
  · -- the points are in the order of their intervals
    have hsame : ((indices interval parts).map (mergedAt interval parts)).map
        (fun point => mergeIndex interval point.startSecs) = indices interval parts := by
      rw [List.map_map]
      exact (List.map_congr_left hindex).trans (List.map_id _)
    rw [hpoints, hsame]
    exact (Finset.sortedLT_sort _).pairwise
  · intro index
    rw [hpoints, ← mem_indices]
    constructor
    · rintro ⟨point, hpoint, rfl⟩
      obtain ⟨index, hmem, rfl⟩ := List.mem_map.mp hpoint
      rw [hindex index hmem]
      exact hmem
    · intro hmem
      exact ⟨_, List.mem_map_of_mem hmem, hindex index hmem⟩
  · intro point hpoint
    rw [hpoints] at hpoint
    obtain ⟨index, hmem, rfl⟩ := List.mem_map.mp hpoint
    rw [hindex index hmem]
    exact mergedAt_spec (mem_indices.mp hmem)
  · intro counter hcounter
    rw [hpoints]
    exact sum_counter hcounter

/-! ## The order of the machines

What a merge reports is determined by the points of each interval as a multiset,
up to ties of the lag. -/

/-- A point without the number of samples of its lag. -/
def forgetSamples (point : TimeSeriesPoint) : TimeSeriesPoint :=
  { point with generatorLag := point.generatorLag.map fun lag => { lag with samples := 0 } }

/-- Lags of one interval that are equally bad have as many samples. -/
def TiesAgree (interval : ℚ) (parts : List SeriesPart) : Prop :=
  ∀ index, ∀ lag ∈ (pointsAt interval parts index).filterMap TimeSeriesPoint.generatorLag,
    ∀ other ∈ (pointsAt interval parts index).filterMap TimeSeriesPoint.generatorLag,
      severity lag = severity other → lag.samples = other.samples

theorem pointsAt_perm {order parts : List SeriesPart} (hperm : order.Perm parts) (interval : ℚ)
    (index : ℕ) : (pointsAt interval order index).Perm (pointsAt interval parts index) :=
  (hperm.flatMap_right _).filter _

theorem indices_perm {order parts : List SeriesPart} (hperm : order.Perm parts) (interval : ℚ) :
    indices interval order = indices interval parts := by
  have hpoints : (allPoints order).Perm (allPoints parts) := hperm.flatMap_right _
  unfold indices
  rw [List.toFinset_eq_of_perm _ _ (hpoints.map _)]

/-- The first worst lag is one of them, and none exceeds it. -/
theorem IsFirstWorst.greatest {lags : List IntervalLag} {worst : IntervalLag}
    (h : IsFirstWorst lags (some worst)) :
    worst ∈ lags ∧ ∀ other ∈ lags, severity other ≤ severity worst := by
  obtain ⟨before, after, rfl, hbefore, hafter⟩ := h
  refine ⟨by simp, fun other hother => ?_⟩
  rw [List.mem_append, List.mem_cons] at hother
  rcases hother with hin | rfl | hin
  · exact (hbefore other hin).le
  · exact le_rfl
  · exact hafter other hin

/-- In another order the worst lag is as bad. -/
theorem IsFirstWorst.severity_eq {lags lags' : List IntervalLag} (hperm : lags.Perm lags')
    {worst worst' : Option IntervalLag} (h : IsFirstWorst lags worst)
    (h' : IsFirstWorst lags' worst') : worst.map severity = worst'.map severity := by
  cases worst with
  | none =>
    rw [show lags = [] from h, List.nil_perm] at hperm
    cases worst' with
    | none => rfl
    | some worst' =>
      have hmem := h'.greatest.1
      rw [hperm] at hmem
      exact absurd hmem List.not_mem_nil
  | some worst =>
    cases worst' with
    | none =>
      rw [show lags' = [] from h', List.perm_nil] at hperm
      have hmem := h.greatest.1
      rw [hperm] at hmem
      exact absurd hmem List.not_mem_nil
    | some worst' =>
      have hle : severity worst ≤ severity worst' := h'.greatest.2 _ (hperm.subset h.greatest.1)
      have hge : severity worst' ≤ severity worst :=
        h.greatest.2 _ (hperm.symm.subset h'.greatest.1)
      exact congrArg some (le_antisymm hle hge)

/-- In another order a merged point is the same but for its lag. -/
theorem MergedPoint.eq_withLag {order parts : List SeriesPart} (hperm : order.Perm parts)
    {interval : ℚ} {index : ℕ} {point point' : TimeSeriesPoint}
    (h : MergedPoint interval order index point) (h' : MergedPoint interval parts index point')
    (lag : Option IntervalLag) :
    { point with generatorLag := lag } = { point' with generatorLag := lag } := by
  have hpoints := pointsAt_perm hperm interval index
  have hmem : {point | point ∈ pointsAt interval order index}
      = {point | point ∈ pointsAt interval parts index} := Set.ext fun _ => hpoints.mem_iff
  have hsums : ∀ counter ∈ counters, counter point = counter point' := by
    intro counter hcounter
    rw [h.sums counter hcounter, h'.sums counter hcounter]
    exact (hpoints.map counter).sum_eq
  have hduration : point.durationSecs = point'.durationSecs := by
    have hgreatest := h.duration
    rw [hmem] at hgreatest
    exact hgreatest.unique h'.duration
  have hsent : point.messagesSent = point'.messagesSent := hsums _ (by simp [counters])
  have hrecv : point.messagesRecv = point'.messagesRecv := hsums _ (by simp [counters])
  ext
  · have hleast := h.start
    rw [hmem] at hleast
    exact hleast.unique h'.start
  · exact hduration
  · exact hsums TimeSeriesPoint.activeConnections (by simp [counters])
  · exact hsent
  · exact hrecv
  · exact hsums TimeSeriesPoint.bytesSent (by simp [counters])
  · exact hsums TimeSeriesPoint.bytesRecv (by simp [counters])
  · exact hsums TimeSeriesPoint.errors (by simp [counters])
  · show point.throughputMsgPerSec = point'.throughputMsgPerSec
    rw [h.throughput, h'.throughput, hsent, hrecv, hduration]
  · show point.latency = point'.latency
    have hhist : histogramAt order index = histogramAt parts index := (hperm.map _).sum_eq
    rw [h.latency, h'.latency, hhist]
  · rfl

/-- In another order a merged point has as bad a lag. -/
theorem MergedPoint.forgetSamples_eq {order parts : List SeriesPart} (hperm : order.Perm parts)
    {interval : ℚ} {index : ℕ} {point point' : TimeSeriesPoint}
    (h : MergedPoint interval order index point) (h' : MergedPoint interval parts index point') :
    forgetSamples point = forgetSamples point' := by
  have hsame : (point.generatorLag.map fun lag => ({ lag with samples := 0 } : IntervalLag))
      = point'.generatorLag.map fun lag => { lag with samples := 0 } := by
    have hseverity := h.lag.severity_eq ((pointsAt_perm hperm interval index).filterMap _) h'.lag
    have hforget : ∀ lag : Option IntervalLag,
        (lag.map fun lag => ({ lag with samples := 0 } : IntervalLag))
          = (lag.map severity).map fun worst => ⟨0, (ofLex worst).1, (ofLex worst).2⟩ := by
      intro lag
      rw [Option.map_map]
      rfl
    rw [hforget, hforget, hseverity]
  unfold forgetSamples
  rw [hsame]
  exact h.eq_withLag hperm h' _

/-- In another order a merged point is the same when ties agree. -/
theorem MergedPoint.eq_of_tiesAgree {order parts : List SeriesPart} (hperm : order.Perm parts)
    {interval : ℚ} (hties : TiesAgree interval parts) {index : ℕ} {point point' : TimeSeriesPoint}
    (h : MergedPoint interval order index point) (h' : MergedPoint interval parts index point') :
    point = point' := by
  have hlags := (pointsAt_perm hperm interval index).filterMap TimeSeriesPoint.generatorLag
  have hseverity := h.lag.severity_eq hlags h'.lag
  have hlag : point.generatorLag = point'.generatorLag := by
    cases hl : point.generatorLag with
    | none =>
      rw [hl] at hseverity
      exact (Option.map_eq_none_iff.mp hseverity.symm).symm
    | some lag =>
      rw [hl, Option.map_some, eq_comm, Option.map_eq_some_iff] at hseverity
      obtain ⟨lag', hl', heq⟩ := hseverity
      have hworst := h.lag
      rw [hl] at hworst
      have hworst' := h'.lag
      rw [hl'] at hworst'
      have hsamples := hties index lag' hworst'.greatest.1 lag
        (hlags.subset hworst.greatest.1) heq
      obtain ⟨hp99, hmax⟩ := Prod.mk.inj (toLex_inj.mp heq)
      rw [hl']
      cases lag
      cases lag'
      exact congrArg some (IntervalLag.mk.injEq .. |>.mpr ⟨hsamples.symm, hp99.symm, hmax.symm⟩)
  have hrest := h.eq_withLag hperm h' point.generatorLag
  rw [show point' = { point' with generatorLag := point.generatorLag } by rw [hlag]]
  exact hrest

/-- **A merge does not depend on the order of the machines**, but for the
number of samples of a lag that two machines tie for. -/
theorem mergeParallel_merges {interval : ℚ} {parts : List SeriesPart}
    (hinterval : ∀ part ∈ parts, part.series.intervalSecs = interval) :
    MergedSeries interval parts (mergeParallel parts) ∧
    ∀ order : List SeriesPart, order.Perm parts →
      (mergeParallel order).intervalSecs = (mergeParallel parts).intervalSecs ∧
      (mergeParallel order).points.map forgetSamples
        = (mergeParallel parts).points.map forgetSamples ∧
      (TiesAgree interval parts → (mergeParallel order).points = (mergeParallel parts).points) := by
  have hseries := mergedSeries_mergeParallel hinterval
  refine ⟨hseries, fun order hperm => ?_⟩
  have horder : ∀ part ∈ order, part.series.intervalSecs = interval := fun part hpart =>
    hinterval part (hperm.subset hpart)
  have hspec : ∀ index ∈ indices interval parts,
      MergedPoint interval order index (mergedAt interval order index) ∧
      MergedPoint interval parts index (mergedAt interval parts index) := by
    intro index hindex
    refine ⟨mergedAt_spec (mem_indices.mp ?_), mergedAt_spec (mem_indices.mp hindex)⟩
    rw [indices_perm hperm]
    exact hindex
  refine ⟨?_, ?_, fun hties => ?_⟩
  · by_cases hparts : parts = []
    · subst hparts
      rw [List.perm_nil.mp hperm]
    · have horder' : order ≠ [] := fun h => hparts (List.nil_perm.mp (h ▸ hperm))
      rw [hseries.intervalSecs hparts, (mergedSeries_mergeParallel horder).intervalSecs horder']
  · rw [points_mergeParallel horder, points_mergeParallel hinterval, indices_perm hperm,
      List.map_map, List.map_map]
    refine List.map_congr_left fun index hindex => ?_
    exact (hspec index hindex).1.forgetSamples_eq hperm (hspec index hindex).2
  · rw [points_mergeParallel horder, points_mergeParallel hinterval, indices_perm hperm]
    refine List.map_congr_left fun index hindex => ?_
    exact (hspec index hindex).1.eq_of_tiesAgree hperm hties (hspec index hindex).2

/-- A machine with one point, whose generator was late by as much as any
other's, in `samples` of its wake-ups. -/
def lateMachine (samples : ℕ) : SeriesPart :=
  { series :=
      { intervalSecs := 1
        latencyBasis := "rtt"
        points := [{ durationSecs := 1, messagesSent := 3, messagesRecv := 3
                     generatorLag := some ⟨samples, 900, 1800⟩ }] }
    buckets := ∅ }

/-- Two machines that tie for the lag of an interval. -/
theorem mergeParallel_merges_tie :
    MergedSeries 1 [lateMachine 100, lateMachine 90]
      (mergeParallel [lateMachine 100, lateMachine 90]) ∧
    ∀ order : List SeriesPart, order.Perm [lateMachine 100, lateMachine 90] →
      (mergeParallel order).intervalSecs
        = (mergeParallel [lateMachine 100, lateMachine 90]).intervalSecs ∧
      (mergeParallel order).points.map forgetSamples
        = (mergeParallel [lateMachine 100, lateMachine 90]).points.map forgetSamples ∧
      (TiesAgree 1 [lateMachine 100, lateMachine 90] → (mergeParallel order).points
        = (mergeParallel [lateMachine 100, lateMachine 90]).points) :=
  mergeParallel_merges (by simp [lateMachine])

/-- Machines with one point each that tie for the lag: the merge has as many
lag samples as the first of them. -/
theorem merged_lag_depends_on_order :
    ∃ parts order : List SeriesPart, order.Perm parts ∧
      (∀ part ∈ parts, part.series.intervalSecs = 1 ∧
        (part.series.points.map fun point => mergeIndex 1 point.startSecs).Nodup) ∧
      (mergeParallel order).points ≠ (mergeParallel parts).points := by
  refine ⟨[lateMachine 100, lateMachine 90], [lateMachine 90, lateMachine 100],
    List.Perm.swap _ _ _, by simp [lateMachine], fun heq => ?_⟩
  have hlags := congrArg (List.map TimeSeriesPoint.generatorLag) heq
  revert hlags
  decide +kernel

end TimeSeries

end WsBlast
