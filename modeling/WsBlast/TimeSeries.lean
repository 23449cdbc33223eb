import WsBlast.Metrics

/-!
# The run broken down by time

`TimeSeries.build` turns the counter samples of a run into points: a point
covers the time from one sample to the next and has the difference of the
two snapshots, and its latency is read from the histogram of the interval
that the earlier sample lies in. A sample with the time of the one before it
is skipped, and a last point shorter than a twentieth of the interval is
folded into the point before it.

`startTimes` says which times the points start at, in terms of the sample
times alone, and `build_points_start` that `build` starts its points there.
`mergeParallel` merges the series of machines that ran at the same time,
by interval index.

A point is a difference, so the points of a series add up to the difference of
its last and its first sample whatever the times in between were. Its latency is
not a difference: it is looked up, under the interval that the point's *start*
lies in.
-/

namespace WsBlast

/-- The most points a series holds. -/
def maxPoints : ℕ := 600

/-- The interval length for a run of `duration`. -/
def intervalFor (duration : Duration) : Duration :=
  let secs := duration / Duration.ofSecs 1
  Duration.ofSecs (max ((secs + maxPoints - 1) / maxPoints) 1)

/-- Latency percentiles of one interval. -/
structure IntervalLatency where
  count : ℕ := 0
  p50Us : ℕ := 0
  p90Us : ℕ := 0
  p99Us : ℕ := 0
  maxUs : ℕ := 0
  deriving DecidableEq, Repr

/-- The latency of an interval's histogram; all zero when there is none. -/
def IntervalLatency.fromHistogram {L : Hdr.Layout} : Option (Hdr.Hist L) → IntervalLatency
  | none => {}
  | some hist =>
    if hist.total = 0 then {}
    else
      { count := hist.total
        p50Us := hist.valueAtQuantile (1 / 2)
        p90Us := hist.valueAtQuantile (9 / 10)
        p99Us := hist.valueAtQuantile (99 / 100)
        maxUs := hist.maxValue }

@[simp] theorem IntervalLatency.count_fromHistogram {L : Hdr.Layout}
    (hist : Option (Hdr.Hist L)) :
    (fromHistogram hist).count = hist.elim 0 Hdr.Hist.total := by
  cases hist with
  | none => rfl
  | some hist =>
    simp only [fromHistogram, Option.elim_some]
    by_cases hz : hist.total = 0
    · rw [if_pos hz, hz]
    · rw [if_neg hz]

/-- The load generator's wake-up lag during one interval: how many wake-ups,
and how late the worst of them were. -/
structure IntervalLag where
  samples : ℕ
  p99Us : ℕ
  maxUs : ℕ
  deriving DecidableEq, Repr

/-- Metrics of one interval of a run. The counters are what was counted between
two samples, `activeConnections` what was open at the end. -/
structure TimeSeriesPoint where
  startSecs : ℚ := 0
  durationSecs : ℚ := 0
  activeConnections : ℕ := 0
  messagesSent : ℕ := 0
  messagesRecv : ℕ := 0
  bytesSent : ℕ := 0
  bytesRecv : ℕ := 0
  errors : ℕ := 0
  throughputMsgPerSec : ℚ := 0
  latency : IntervalLatency := {}
  generatorLag : Option IntervalLag := none

/-- Metrics of a run broken down by time. -/
structure TimeSeries where
  intervalSecs : ℚ := 0
  latencyBasis : String := ""
  points : List TimeSeriesPoint := []

/-- A counter sample: when it was taken, and the live counters then. -/
abbrev CounterSample := Duration × LiveSnapshot

namespace TimeSeries

/-! ## Building a series

The functions of the source, from the samples in the order they were taken. -/

/-- The interval whose histogram a point that starts at `start` reads. -/
def buildIndex (interval start : Duration) : ℕ := start / max interval 1

/-- The point from sample `previous` to sample `next`. -/
def pointOf (store : IntervalStore) (previous next : CounterSample) : TimeSeriesPoint :=
  let (prevAt, prev) := previous
  let (at', snap) := next
  let duration := at' - prevAt
  let messagesSent := snap.messagesSent - prev.messagesSent
  let messagesRecv := snap.messagesReceived - prev.messagesReceived
  let secs := max (Duration.asSecs duration) (1 / 10000)
  { startSecs := Duration.asSecs prevAt
    durationSecs := Duration.asSecs duration
    activeConnections := snap.activeConnections
    messagesSent
    messagesRecv
    bytesSent := snap.bytesSent - prev.bytesSent
    bytesRecv := snap.bytesReceived - prev.bytesReceived
    errors := snap.totalErrors - prev.totalErrors
    throughputMsgPerSec := (max messagesSent messagesRecv : ℕ) / secs
    latency := .fromHistogram store.buckets[buildIndex store.interval prevAt]?
    generatorLag := none }

/-- The points of the samples after `previous`. A sample that adds an empty
interval is skipped. -/
def pointsFrom (store : IntervalStore) (previous : CounterSample) :
    List CounterSample → List TimeSeriesPoint
  | [] => []
  | next :: rest =>
    if next.1 - previous.1 = 0 then pointsFrom store previous rest
    else pointOf store previous next :: pointsFrom store next rest

/-- Adds a last point that is too short to the point before it. -/
def absorbTail (last tail : TimeSeriesPoint) : TimeSeriesPoint :=
  let durationSecs := last.durationSecs + tail.durationSecs
  let messagesSent := last.messagesSent + tail.messagesSent
  let messagesRecv := last.messagesRecv + tail.messagesRecv
  { last with
    durationSecs
    activeConnections := tail.activeConnections
    messagesSent
    messagesRecv
    bytesSent := last.bytesSent + tail.bytesSent
    bytesRecv := last.bytesRecv + tail.bytesRecv
    errors := last.errors + tail.errors
    throughputMsgPerSec := (max messagesSent messagesRecv : ℕ) / max durationSecs (1 / 10000) }

/-- Folds a last point shorter than a twentieth of the interval into the
point before it. -/
def foldSliver (interval : Duration) : List TimeSeriesPoint → List TimeSeriesPoint
  | [] => []
  | [point] => [point]
  | [last, tail] =>
    if tail.durationSecs < Duration.asSecs interval / 20 then [absorbTail last tail]
    else [last, tail]
  | point :: next :: after :: rest => point :: foldSliver interval (next :: after :: rest)

/-- Builds the series from the counter samples and latency histograms of one
run. The first sample is the baseline taken when the run started. -/
def build (samples : List CounterSample) (store : IntervalStore) (latencyBasis : String) :
    TimeSeries :=
  match samples with
  | [] => {}
  | first :: rest =>
    { intervalSecs := Duration.asSecs store.interval
      latencyBasis
      points := foldSliver store.interval (pointsFrom store first rest) }

/-! ## Where the points start

Which samples start a point can be told from the times alone, and so what a
point takes from the time it starts at. -/

/-- The points that some distinct times in order delimit: each but the last
starts one, except that the last but one does not when the point it would
start is a sliver. -/
def dropSliver (interval : Duration) : List Duration → List Duration
  | [] => []
  | [_] => []
  | [start, _] => [start]
  | [start, sliver, last] =>
    if 20 * (last - sliver) < interval then [start] else [start, sliver]
  | start :: next :: after :: last :: rest =>
    start :: dropSliver interval (next :: after :: last :: rest)

/-- The times at which the points of a series start, given the times of its
counter samples. -/
def startTimes (interval : Duration) (times : List Duration) : List Duration :=
  dropSliver interval times.dedup

/-- The samples that end a point, after `previous`. -/
def kept (previous : CounterSample) : List CounterSample → List CounterSample
  | [] => []
  | next :: rest =>
    if next.1 - previous.1 = 0 then kept previous rest
    else next :: kept next rest

/-- Every point goes from one kept sample to the next. -/
theorem pointsFrom_eq_zipWith (store : IntervalStore) (previous : CounterSample)
    (rest : List CounterSample) :
    pointsFrom store previous rest
      = List.zipWith (pointOf store) (previous :: kept previous rest) (kept previous rest) := by
  induction rest generalizing previous with
  | nil => rfl
  | cons next rest ih =>
    unfold pointsFrom kept
    by_cases hzero : next.1 - previous.1 = 0
    · rw [if_pos hzero, if_pos hzero]
      exact ih previous
    · rw [if_neg hzero, if_neg hzero, List.zipWith_cons_cons, ih next]

/-- In time order, the kept samples have the distinct times. -/
theorem map_fst_kept {previous : CounterSample} {rest : List CounterSample}
    (hsorted : (previous :: rest).Pairwise fun a b => a.1 ≤ b.1) :
    (previous :: kept previous rest).map Prod.fst
      = ((previous :: rest).map Prod.fst).dedup := by
  induction rest generalizing previous with
  | nil => rfl
  | cons next rest ih =>
    obtain ⟨hprev, hrest⟩ := List.pairwise_cons.mp hsorted
    have hle : previous.1 ≤ next.1 := hprev next List.mem_cons_self
    unfold kept
    by_cases hzero : next.1 - previous.1 = 0
    · -- the sample is skipped, and its time is the previous one again
      have heq : previous.1 = next.1 := le_antisymm hle (Nat.le_of_sub_eq_zero hzero)
      rw [if_pos hzero, ih (List.pairwise_cons.mpr
        ⟨fun x hx => hprev x (List.mem_cons_of_mem _ hx), (List.pairwise_cons.mp hrest).2⟩)]
      rw [List.map_cons, List.map_cons, List.map_cons, heq]
      exact (List.dedup_cons_of_mem List.mem_cons_self).symm
    · have hlt : previous.1 < next.1 := Nat.lt_of_sub_ne_zero hzero
      have hnew : previous.1 ∉ (next :: rest).map Prod.fst := by
        intro hmem
        obtain ⟨sample, hsample, heq⟩ := List.mem_map.mp hmem
        have hge : next.1 ≤ sample.1 := by
          rcases List.mem_cons.mp hsample with rfl | hin
          · exact le_rfl
          · exact (List.pairwise_cons.mp hrest).1 sample hin
        exact absurd (hlt.trans_le hge) (heq ▸ lt_irrefl _)
      rw [if_neg hzero, List.map_cons, ih hrest]
      show _ = (previous.1 :: (next :: rest).map Prod.fst).dedup
      rw [List.dedup_cons_of_notMem hnew]

/-- What a point takes from the sample it starts at survives the fold of a
sliver. -/
theorem map_foldSliver (store : IntervalStore) {A : Type} (ofPoint : TimeSeriesPoint → A)
    (ofStart : Duration → A) (hpoint : ∀ a b, ofPoint (pointOf store a b) = ofStart a.1)
    (hfold : ∀ last tail, ofPoint (absorbTail last tail) = ofPoint last)
    (samples : List CounterSample) :
    (foldSliver store.interval (List.zipWith (pointOf store) samples samples.tail)).map ofPoint
      = (dropSliver store.interval (samples.map Prod.fst)).map ofStart := by
  have hsliver : ∀ a b : CounterSample,
      (pointOf store a b).durationSecs < Duration.asSecs store.interval / 20
        ↔ 20 * (b.1 - a.1) < store.interval := by
    intro a b
    show Duration.asSecs (b.1 - a.1) < Duration.asSecs store.interval / 20 ↔ _
    rw [lt_div_iff₀ (by norm_num), ← Duration.asSecs_lt_asSecs]
    unfold Duration.asSecs
    push_cast
    constructor <;> intro h <;> linarith
  match samples with
  | [] => rfl
  | [_] => rfl
  | [a, b] => exact congrArg (fun x => [x]) (hpoint a b)
  | [a, b, c] =>
    show (if (pointOf store b c).durationSecs < Duration.asSecs store.interval / 20 then _
      else _ : List TimeSeriesPoint).map ofPoint
      = (if 20 * (c.1 - b.1) < store.interval then _ else _ : List Duration).map ofStart
    by_cases hs : 20 * (c.1 - b.1) < store.interval
    · rw [if_pos hs, if_pos ((hsliver b c).mpr hs)]
      exact congrArg (fun x => [x]) ((hfold _ _).trans (hpoint a b))
    · rw [if_neg hs, if_neg (mt (hsliver b c).mp hs)]
      show [ofPoint _, ofPoint _] = _
      rw [hpoint, hpoint]
      rfl
  | a :: b :: c :: d :: rest =>
    have ih := map_foldSliver store ofPoint ofStart hpoint hfold (b :: c :: d :: rest)
    show ofPoint (pointOf store a b) :: (foldSliver store.interval
      (List.zipWith (pointOf store) (b :: c :: d :: rest) (c :: d :: rest))).map ofPoint = _
    rw [hpoint]
    exact congrArg _ ih

/-- **Where the points of a series start**, and what a point takes from the
time it starts at. -/
theorem map_build_points {first : CounterSample} {rest : List CounterSample}
    (hsorted : (first :: rest).Pairwise fun a b => a.1 ≤ b.1) (store : IntervalStore)
    (basis : String) {A : Type} (ofPoint : TimeSeriesPoint → A) (ofStart : Duration → A)
    (hpoint : ∀ a b, ofPoint (pointOf store a b) = ofStart a.1)
    (hfold : ∀ last tail, ofPoint (absorbTail last tail) = ofPoint last) :
    (build (first :: rest) store basis).points.map ofPoint
      = (startTimes store.interval ((first :: rest).map Prod.fst)).map ofStart := by
  unfold startTimes
  rw [← map_fst_kept hsorted, ← map_foldSliver store ofPoint ofStart hpoint hfold]
  -- both sides are computed from the kept samples, whose times are the distinct ones
  show (foldSliver store.interval (pointsFrom store first rest)).map ofPoint = _
  rw [pointsFrom_eq_zipWith]
  rfl

/-! ## Merging machines

The agents of a distributed run have a series each, from its own start. -/

/-- One machine's part of a distributed run: its series and the per-interval
latency histograms it was built from. -/
structure SeriesPart where
  series : TimeSeries
  buckets : Std.ExtTreeMap ℕ IntervalHistogram compare

/-- The interval a point is filed under. -/
def mergeIndex (intervalSecs startSecs : ℚ) : ℕ :=
  if intervalSecs > 0 then (max (round (startSecs / intervalSecs)) 0).toNat else 0

/-- Whether `lag` is worse than what an interval shows. -/
def worseLag (lag : IntervalLag) : Option IntervalLag → Bool
  | none => true
  | some worst => worst.p99Us < lag.p99Us ∨ worst.p99Us = lag.p99Us ∧ worst.maxUs < lag.maxUs

/-- Adds a point to what other machines have in its interval. -/
def mergePoint (held : Option TimeSeriesPoint) (point : TimeSeriesPoint) : TimeSeriesPoint :=
  let merged := held.getD { startSecs := point.startSecs }
  { merged with
    startSecs := min merged.startSecs point.startSecs
    durationSecs := max merged.durationSecs point.durationSecs
    activeConnections := merged.activeConnections + point.activeConnections
    messagesSent := merged.messagesSent + point.messagesSent
    messagesRecv := merged.messagesRecv + point.messagesRecv
    bytesSent := merged.bytesSent + point.bytesSent
    bytesRecv := merged.bytesRecv + point.bytesRecv
    errors := merged.errors + point.errors
    generatorLag :=
      match point.generatorLag with
      | some lag => if worseLag lag merged.generatorLag then some lag else merged.generatorLag
      | none => merged.generatorLag }

/-- Adds one machine's points and histograms. -/
def mergePart (intervalSecs : ℚ)
    (merged : Std.ExtTreeMap ℕ TimeSeriesPoint compare × Std.ExtTreeMap ℕ IntervalHistogram compare)
    (part : SeriesPart) :
    Std.ExtTreeMap ℕ TimeSeriesPoint compare × Std.ExtTreeMap ℕ IntervalHistogram compare :=
  (part.series.points.foldl (fun points point =>
      points.alter (mergeIndex intervalSecs point.startSecs) fun held =>
        some (mergePoint held point)) merged.1,
    part.buckets.foldl (fun histograms bucket hist =>
      histograms.alter bucket fun held =>
        match held with
        | some existing => some (existing + hist)
        | none => some hist) merged.2)

/-- Merges the series of machines that ran at the same time, each counted
from its own start: points with the same interval index are added up, and
the latency is read from the sum of the interval histograms. -/
def mergeParallel (parts : List SeriesPart) : TimeSeries :=
  match parts.find? fun part => part.series.points ≠ [] with
  | none => (parts.head?.map SeriesPart.series).getD {}
  | some first =>
    let (points, histograms) :=
      parts.foldl (mergePart first.series.intervalSecs) (∅, ∅)
    { intervalSecs := first.series.intervalSecs
      latencyBasis := first.series.latencyBasis
      points := points.toList.map fun (index, point) =>
        { point with
          throughputMsgPerSec := (max point.messagesSent point.messagesRecv : ℕ)
            / max point.durationSecs (1 / 10000)
          latency := .fromHistogram histograms[index]? } }

end TimeSeries

end WsBlast
