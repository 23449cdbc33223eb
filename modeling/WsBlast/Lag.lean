import WsBlast.TimeSeries

/-!
# The lag of the load generator

A probe task sleeps a fixed time and measures how late it wakes.
`LagRecord` keeps every sample in a histogram and summarises the samples of
each time-series interval, and `LagRecord.attach` gives every point of a
series the lag of its interval.

Three pieces of code number the interval of a point: `TimeSeries.build`
rounds the point's start down, `TimeSeries.mergeParallel` and
`LagRecord.attach` round it to the nearest. `interval_indices_agree_iff` says
when they agree and number every point differently.

The three functions were written for different inputs. `build` has durations in
nanoseconds and divides; the other two have the seconds of a finished point, as
it is in a report or came over the wire, and round, since a start that went
through `f64` may be a little less than what it was.
-/

namespace WsBlast

/-- The p99 lag above which a run's latency is flagged as unreliable, in
microseconds. -/
def lagThresholdUs : ℕ := 20000

/-- Wake-ups later than the threshold that an interval needs, besides a p99
above it, to count as over the threshold. -/
def minLateInInterval : ℕ := 2

/-- The lag measured during one run. -/
structure LagRecord where
  start : Instant
  interval : Duration
  hist : IntervalHistogram
  intervals : Std.ExtTreeMap ℕ IntervalLag compare
  /-- Intervals over the threshold. -/
  intervalsOver : ℕ
  /-- The samples of the interval in progress, in microseconds. -/
  current : List ℕ
  currentIndex : ℕ

namespace LagRecord

/-- A record with no samples. Its intervals are at least a millisecond. -/
def new (start : Instant) (interval : Duration) : LagRecord where
  start := start
  interval := max interval (Duration.ofMillis 1)
  hist := 0
  intervals := ∅
  intervalsOver := 0
  current := []
  currentIndex := 0

/-- Summarises the samples of the interval in progress. -/
def closeInterval (r : LagRecord) : LagRecord :=
  if r.current = [] then r
  else
    let current := r.current.mergeSort
    let n := current.length
    let p99 := current.getD (max ((n * 99 + 99) / 100) 1 - 1) 0
    let late := current.countP (lagThresholdUs < ·)
    { r with
      intervalsOver :=
        if lagThresholdUs < p99 ∧ minLateInInterval ≤ late then r.intervalsOver + 1
        else r.intervalsOver
      intervals := r.intervals.insert r.currentIndex ⟨n, p99, current.getD (n - 1) 0⟩
      current := [] }

/-- Records a wake-up `lag` after a sleep that was due at `due`. -/
def record (r : LagRecord) (due : Instant) (lag : Duration) : LagRecord :=
  let micros := clampUs lag.asMicros
  let r := { r with hist := r.hist.record micros }
  let index := (due - r.start) / r.interval
  let r := if index ≠ r.currentIndex then { r.closeInterval with currentIndex := index } else r
  { r with current := r.current ++ [micros] }

/-- The interval whose lag a point that starts at `startSecs` gets. -/
def attachIndex (interval : Duration) (startSecs : ℚ) : ℕ :=
  (max (round (startSecs / Duration.asSecs interval)) 0).toNat

/-- Gives every point of `series`, which starts at this probe's start, the
lag of its interval. -/
def attach (r : LagRecord) (series : TimeSeries) : TimeSeries :=
  { series with
    points := series.points.map fun point =>
      { point with
        generatorLag := r.intervals[attachIndex r.interval point.startSecs]? } }

end LagRecord

/-! ## One number for the interval of a point

In exact arithmetic the difference between rounding down and rounding to the
nearest is whether the remainder is less than half an interval. -/

namespace TimeSeries

/-- The interval that a point's start lies in, rounded down. -/
def readIndex (interval : Duration) (point : TimeSeriesPoint) : ℕ :=
  ⌊point.startSecs / Duration.asSecs interval⌋.toNat

/-- Seconds round down as nanoseconds do. -/
theorem floor_asSecs_div (interval start : Duration) :
    ⌊Duration.asSecs start / Duration.asSecs interval⌋.toNat = start / interval := by
  rw [Duration.asSecs_div_asSecs, Rat.floor_natCast_div_natCast]
  rfl

theorem readIndex_pointOf (store : IntervalStore) (previous next : CounterSample) :
    readIndex store.interval (pointOf store previous next) = previous.1 / store.interval :=
  floor_asSecs_div store.interval previous.1

/-- Dividing with the quotient rounded half up. -/
theorem div_half_up {n : ℕ} (hn : 0 < n) (m : ℕ) :
    (2 * m + n) / (2 * n) = m / n + if 2 * (m % n) < n then 0 else 1 := by
  have hmod : m % n < n := Nat.mod_lt _ hn
  have hdiv : n * (m / n) + m % n = m := Nat.div_add_mod _ _
  have hstep : ∀ k, (m / n + k) * (2 * n) = 2 * (n * (m / n)) + 2 * k * n := fun k => by ring
  split
  · refine Nat.div_eq_of_lt_le ?_ ?_
    · rw [hstep 0]
      omega
    · rw [Nat.add_zero, hstep 1]
      omega
  · refine Nat.div_eq_of_lt_le ?_ ?_
    · rw [hstep 1]
      omega
    · rw [Nat.add_assoc, hstep 2]
      omega

/-- The nearest interval to a time: the one it lies in for a time in the
first half, the next one otherwise. -/
theorem round_asSecs_div {interval : Duration} (hinterval : 0 < interval) (start : Duration) :
    (max (round (Duration.asSecs start / Duration.asSecs interval)) 0).toNat
      = start / interval + if 2 * (start % interval) < interval then 0 else 1 := by
  have hq : (0 : ℚ) < interval := Nat.cast_pos.mpr hinterval
  have hhalf : (start : ℚ) / interval + 1 / 2
      = ((2 * start + interval : ℕ) : ℚ) / ((2 * interval : ℕ) : ℚ) := by
    push_cast
    field_simp
  have hround : round (Duration.asSecs start / Duration.asSecs interval)
      = ((2 * start + interval) / (2 * interval) : ℕ) := by
    rw [Duration.asSecs_div_asSecs, round_eq, hhalf, Rat.floor_natCast_div_natCast]
    rfl
  rw [hround, div_half_up hinterval, max_eq_left (Int.natCast_nonneg _), Int.toNat_natCast]

/-- The three numbers of a point's interval are one. -/
def IndicesAgree (interval : Duration) (series : TimeSeries) (lag : LagRecord)
    (point : TimeSeriesPoint) : Prop :=
  mergeIndex series.intervalSecs point.startSecs = readIndex interval point
    ∧ LagRecord.attachIndex lag.interval point.startSecs = readIndex interval point

/-- Where the numbers agree, `attach` gives every point the lag of the interval
its start lies in. -/
theorem generatorLag_attach {interval : Duration} {series : TimeSeries} {lag : LagRecord}
    (h : ∀ point ∈ series.points, IndicesAgree interval series lag point) :
    (lag.attach series).points.map TimeSeriesPoint.generatorLag
      = series.points.map fun point => lag.intervals[readIndex interval point]? := by
  rw [LagRecord.attach, List.map_map]
  refine List.map_congr_left fun point hpoint => ?_
  show lag.intervals[LagRecord.attachIndex lag.interval point.startSecs]? = _
  rw [(h point hpoint).2]

/-- The numbers agree for a point that starts in the first half of its
interval, and only then. -/
theorem indicesAgree_iff {interval : Duration} (hinterval : Duration.ofMillis 1 ≤ interval)
    (start : Instant) {series : TimeSeries} (hseries : series.intervalSecs = Duration.asSecs interval)
    {point : TimeSeriesPoint} {t : Duration} (hpoint : point.startSecs = Duration.asSecs t) :
    IndicesAgree interval series (.new start interval) point ↔ 2 * (t % interval) < interval := by
  have hpos : 0 < interval := lt_of_lt_of_le (by decide) hinterval
  have hsecs : Duration.asSecs interval > 0 :=
    div_pos (Nat.cast_pos.mpr hpos) (by norm_num)
  have hlag : (LagRecord.new start interval).interval = interval := max_eq_left hinterval
  unfold IndicesAgree mergeIndex LagRecord.attachIndex readIndex
  rw [hseries, hpoint, hlag, if_pos hsecs, round_asSecs_div hpos, floor_asSecs_div, and_self]
  split
  · rename_i hlt
    exact ⟨fun _ => hlt, fun _ => rfl⟩
  · rename_i hge
    exact ⟨fun h => absurd h (Nat.succ_ne_self _), fun h => absurd h hge⟩

end TimeSeries

/-- **When every point has one interval number.** For every series built from
samples in time order: each point's latency is the histogram of the interval
its start lies in; and that interval is the one `mergeParallel` files the
point under and the one `attach` takes its lag from, for every point, with
no two points in one interval, if and only if every point starts in the
first half of an interval and no two start in the same one. -/
theorem interval_indices_agree_iff {first : CounterSample} {rest : List CounterSample}
    (hsorted : (first :: rest).Pairwise fun a b => a.1 ≤ b.1) (store : IntervalStore)
    (hinterval : Duration.ofMillis 1 ≤ store.interval) (basis : String) :
    (∀ point ∈ (TimeSeries.build (first :: rest) store basis).points,
      point.latency
        = .fromHistogram store.buckets[TimeSeries.readIndex store.interval point]?)
    ∧ (((∀ point ∈ (TimeSeries.build (first :: rest) store basis).points,
          TimeSeries.IndicesAgree store.interval (TimeSeries.build (first :: rest) store basis)
            (.new store.start store.interval) point)
        ∧ ((TimeSeries.build (first :: rest) store basis).points.map
            (TimeSeries.readIndex store.interval)).Nodup)
      ↔ ((∀ t ∈ TimeSeries.startTimes store.interval ((first :: rest).map Prod.fst),
            2 * (t % store.interval) < store.interval)
        ∧ ((TimeSeries.startTimes store.interval ((first :: rest).map Prod.fst)).map
            (· / store.interval)).Nodup)) := by
  have hpos : 0 < store.interval := lt_of_lt_of_le (by decide) hinterval
  -- the points start at the start times
  have hstarts := TimeSeries.map_build_points hsorted store basis TimeSeriesPoint.startSecs
    Duration.asSecs (fun _ _ => rfl) (fun _ _ => rfl)
  have hindices := TimeSeries.map_build_points hsorted store basis
    (TimeSeries.readIndex store.interval) (· / store.interval)
    (TimeSeries.readIndex_pointOf store) (fun _ _ => rfl)
  have hlatency := TimeSeries.map_build_points hsorted store basis
    (fun point => (point.latency, IntervalLatency.fromHistogram
      store.buckets[TimeSeries.readIndex store.interval point]?))
    (fun t => (IntervalLatency.fromHistogram store.buckets[t / store.interval]?,
      IntervalLatency.fromHistogram store.buckets[t / store.interval]?))
    (fun a b => by
      refine Prod.ext ?_ ?_
      · show IntervalLatency.fromHistogram
          store.buckets[TimeSeries.buildIndex store.interval a.1]? = _
        unfold TimeSeries.buildIndex
        rw [max_eq_left (show 1 ≤ store.interval from hpos)]
      · show IntervalLatency.fromHistogram
          store.buckets[TimeSeries.readIndex store.interval (TimeSeries.pointOf store a b)]? = _
        rw [TimeSeries.readIndex_pointOf])
    (fun _ _ => rfl)
  -- the latency is read under the interval of the start in any case; the numbers of the
  -- other two agree with it for the starts in a first half
  refine ⟨fun point hpoint => ?_, ?_⟩
  · have hmem := List.mem_map_of_mem (f := fun point : TimeSeriesPoint =>
      (point.latency, IntervalLatency.fromHistogram
        store.buckets[TimeSeries.readIndex store.interval point]?)) hpoint
    rw [hlatency] at hmem
    obtain ⟨t, -, heq⟩ := List.mem_map.mp hmem
    rw [Prod.mk.injEq] at heq
    rw [← heq.1, heq.2]
  · rw [hindices]
    refine and_congr_left' ?_
    -- every start time is the start of a point, and every point starts at one
    constructor
    · intro h t ht
      have hmem : Duration.asSecs t ∈ (TimeSeries.build (first :: rest) store basis).points.map
          TimeSeriesPoint.startSecs := by
        rw [hstarts]
        exact List.mem_map_of_mem ht
      obtain ⟨point, hpoint, heq⟩ := List.mem_map.mp hmem
      exact (TimeSeries.indicesAgree_iff hinterval store.start rfl heq).mp (h point hpoint)
    · intro h point hpoint
      have hmem := List.mem_map_of_mem (f := TimeSeriesPoint.startSecs) hpoint
      rw [hstarts] at hmem
      obtain ⟨t, ht, heq⟩ := List.mem_map.mp hmem
      exact (TimeSeries.indicesAgree_iff hinterval store.start rfl heq.symm).mpr (h t ht)

/-- Samples of a run of 1.5 s whose tick is a millisecond late. -/
def punctualSamples : List CounterSample :=
  [(0, {}), (Duration.ofMillis 1001, {}), (Duration.ofMillis 1500, {})]

/-- Its points have one interval number each. -/
theorem interval_indices_agree_punctual :
    (∀ point ∈ (TimeSeries.build punctualSamples (.new 0 (Duration.ofSecs 1)) "rtt").points,
      TimeSeries.IndicesAgree (Duration.ofSecs 1)
        (TimeSeries.build punctualSamples (.new 0 (Duration.ofSecs 1)) "rtt")
        (.new 0 (Duration.ofSecs 1)) point)
    ∧ ((TimeSeries.build punctualSamples (.new 0 (Duration.ofSecs 1)) "rtt").points.map
        (TimeSeries.readIndex (Duration.ofSecs 1))).Nodup :=
  (interval_indices_agree_iff (by decide) (.new 0 (Duration.ofSecs 1)) (by decide) "rtt").2.mpr
    (by decide)

/-- Samples of a run of 2.5 s whose first tick, due after 1 s, is taken after
1.6 s. -/
def lateTickSamples : List CounterSample :=
  [(0, {}), (Duration.ofMillis 1600, {}), (Duration.ofSecs 2, {}), (Duration.ofMillis 2500, {})]

/-- The point that starts at the late tick reads its latency from interval 1
and is filed under interval 2. -/
theorem lateTickSamples_indices_differ :
    ¬ ∀ point ∈ (TimeSeries.build lateTickSamples (.new 0 (Duration.ofSecs 1)) "rtt").points,
      TimeSeries.IndicesAgree (Duration.ofSecs 1)
        (TimeSeries.build lateTickSamples (.new 0 (Duration.ofSecs 1)) "rtt")
        (.new 0 (Duration.ofSecs 1)) point := by
  intro h
  have hstarts : (TimeSeries.build lateTickSamples (.new 0 (Duration.ofSecs 1)) "rtt").points.map
      TimeSeriesPoint.startSecs = _ :=
    TimeSeries.map_build_points (by decide) (.new 0 (Duration.ofSecs 1)) "rtt"
      TimeSeriesPoint.startSecs Duration.asSecs (fun _ _ => rfl) (fun _ _ => rfl)
  have hmem : Duration.asSecs (Duration.ofMillis 1600)
      ∈ (TimeSeries.build lateTickSamples (.new 0 (Duration.ofSecs 1)) "rtt").points.map
        TimeSeriesPoint.startSecs := by
    rw [hstarts]
    exact List.mem_map_of_mem (by decide)
  obtain ⟨point, hpoint, heq⟩ := List.mem_map.mp hmem
  have hfirst := (TimeSeries.indicesAgree_iff (by decide) 0 rfl heq).mp (h point hpoint)
  exact absurd hfirst (by decide)

end WsBlast
