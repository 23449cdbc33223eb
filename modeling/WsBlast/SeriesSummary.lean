import WsBlast.Summary
import WsBlast.TimeSeries

/-!
# The metrics of a report's time series

`--compare` summarises the points of a time series that lie in the
`--compare-window`: how much and how steadily the run sent, and how bad its
worst interval was. `SeriesSummary.of` computes the summary and `entries`
names what it defines. The square root of the coefficient of variation is
a parameter, so what is proved holds for the rounded one.

Which points count is a matter of edges. A point covers an interval of the run,
and it lies in a window when the whole interval does, up to a slack of a
twentieth of the interval: a sampler is never woken at exactly the right moment.
-/

namespace WsBlast

/-- Metrics by name. -/
abbrev MetricMap := Std.ExtTreeMap String ℚ compare

/-- Prefix of every metric derived from the time series. -/
def seriesPrefix : String := "series."

/-- The fraction of the interval by which edges and lengths may be off. -/
def edgeSlack : ℚ := 1 / 20

/-! ## The points in a window

The part of a run that is compared, and which of its points belong to it. -/

/-- The part of a run that the time-series metrics are computed over. `none`
on either side leaves it open. -/
structure CompareWindow where
  start : Option Duration
  finish : Option Duration
  deriving DecidableEq, Repr

namespace CompareWindow

/-- The start in seconds; `none` is the start of the run. -/
def startSecs (window : CompareWindow) : ℚ := window.start.elim 0 Duration.asSecs

/-- The end in seconds; `none` is infinity. -/
def endSecs (window : CompareWindow) : Option ℚ := window.finish.map Duration.asSecs

/-- Whether the whole interval of `point` lies inside the window. -/
def contains (window : CompareWindow) (point : TimeSeriesPoint) (slack : ℚ) : Bool :=
  decide (window.startSecs - slack ≤ point.startSecs)
    && window.endSecs.all fun endSecs => point.startSecs + point.durationSecs ≤ endSecs + slack

end CompareWindow

/-- The points of `series` that `window` keeps: every point without a
window. -/
def windowPoints (series : TimeSeries) (window : Option CompareWindow) : List TimeSeriesPoint :=
  let slack := max series.intervalSecs 0 * edgeSlack
  series.points.filter fun point => window.all fun window => window.contains point slack

/-! ## The summary

The rate, how steady it is, and the worst interval. -/

/-- The time-series metrics of one report. A metric that is undefined for the
points in the window is `none`. -/
structure SeriesSummary where
  /-- Points inside the window. -/
  points : ℕ
  throughputMean : Option ℚ
  throughputCv : Option ℚ
  p99MedianUs : Option ℚ
  p99WorstUs : Option ℚ
  errorIntervals : ℕ
  maxIntervalErrors : ℕ
  deriving DecidableEq, Repr

namespace SeriesSummary

variable (sqrt : ℚ → ℚ)

/-- The rates and lengths of the points that cover a whole interval. -/
def fullPoints (series : TimeSeries) (points : List TimeSeriesPoint) : List (ℚ × ℚ) :=
  let minFull := series.intervalSecs * (1 - edgeSlack)
  (points.filter fun point => minFull ≤ point.durationSecs ∧ 0 < point.durationSecs).map
    fun point => (point.throughputMsgPerSec, point.durationSecs)

/-- The middle of some sorted values, the mean of the two middle ones when
their number is even. -/
def medianOf (p99s : List ℕ) : Option ℚ :=
  let n := p99s.length
  if n = 0 then none
  else if n % 2 = 1 then some (p99s.getD (n / 2) 0)
  else some (((p99s.getD (n / 2 - 1) 0 : ℚ) + p99s.getD (n / 2) 0) / 2)

/-- The summary of the points of a series inside a window. -/
def of (series : TimeSeries) (window : Option CompareWindow) : SeriesSummary :=
  let points := windowPoints series window
  let full := fullPoints series points
  let totalSecs := (full.map Prod.snd).sum
  let throughputMean :=
    if 0 < totalSecs then some ((full.map fun point => point.1 * point.2).sum / totalSecs)
    else none
  let throughputCv :=
    (throughputMean.filter fun mean => 0 < mean ∧ 2 ≤ full.length).map fun mean =>
      let variance := (full.map fun point => point.2 * (point.1 - mean) ^ 2).sum / totalSecs
      sqrt variance / mean
  let p99s :=
    ((points.filter fun point => 0 < point.latency.count).map (·.latency.p99Us)).mergeSort
  { points := points.length
    throughputMean
    throughputCv
    p99MedianUs := medianOf p99s
    p99WorstUs := p99s.getLast?.map fun worst : ℕ => (worst : ℚ)
    errorIntervals := (points.filter fun point => 0 < point.errors).length
    maxIntervalErrors := ((points.map (·.errors)).max?).getD 0 }

/-- The defined metrics, under their `series.` names. A report without points
in the window has none. -/
def entries (summary : SeriesSummary) : List (String × ℚ) :=
  if summary.points = 0 then []
  else
    [("throughput_mean", summary.throughputMean),
      ("throughput_cv", summary.throughputCv),
      ("p99_median_us", summary.p99MedianUs),
      ("p99_worst_us", summary.p99WorstUs),
      ("error_intervals", some (summary.errorIntervals : ℚ)),
      ("max_interval_errors", some (summary.maxIntervalErrors : ℚ))].filterMap
      fun entry => entry.2.map fun value => (seriesPrefix ++ entry.1, value)

/-- Adds the defined metrics to a comparison map. -/
def insertInto (summary : SeriesSummary) (map : MetricMap) : MetricMap :=
  map.insertMany summary.entries

/-- Whether a higher value of the time-series metric `metric` is better. -/
def higherIsBetter (metric : String) : Bool := metric = "series.throughput_mean"

end SeriesSummary

/-! ## The metrics by name

A comparison knows metrics by their names alone. -/

/-- The time-series metrics. -/
inductive SeriesMetric where
  | throughputMean
  | throughputCv
  | p99MedianUs
  | p99WorstUs
  | errorIntervals
  | maxIntervalErrors
  deriving DecidableEq, Repr

namespace SeriesMetric

/-- The metrics, listed. -/
def all : List SeriesMetric :=
  [throughputMean, throughputCv, p99MedianUs, p99WorstUs, errorIntervals, maxIntervalErrors]

theorem mem_all (metric : SeriesMetric) : metric ∈ all := by
  cases metric <;> decide

/-- The name after the prefix. -/
def name : SeriesMetric → String
  | throughputMean => "throughput_mean"
  | throughputCv => "throughput_cv"
  | p99MedianUs => "p99_median_us"
  | p99WorstUs => "p99_worst_us"
  | errorIntervals => "error_intervals"
  | maxIntervalErrors => "max_interval_errors"

/-- The value in a summary; no metric of a summary without points is
defined. -/
def value (summary : SeriesSummary) (metric : SeriesMetric) : Option ℚ :=
  if summary.points = 0 then none
  else
    match metric with
    | throughputMean => summary.throughputMean
    | throughputCv => summary.throughputCv
    | p99MedianUs => summary.p99MedianUs
    | p99WorstUs => summary.p99WorstUs
    | errorIntervals => some summary.errorIntervals
    | maxIntervalErrors => some summary.maxIntervalErrors

end SeriesMetric

/-- **The entries of a summary are its defined metrics.** -/
theorem SeriesSummary.mem_entries {summary : SeriesSummary} {name : String} {v : ℚ} :
    (name, v) ∈ summary.entries
      ↔ ∃ metric : SeriesMetric, name = seriesPrefix ++ metric.name
        ∧ metric.value summary = some v := by
  by_cases hpoints : summary.points = 0
  · -- no metric without points
    simp [SeriesSummary.entries, SeriesMetric.value, hpoints]
  · rw [SeriesSummary.entries, if_neg hpoints]
    simp only [List.mem_filterMap, Option.map_eq_some_iff, Prod.mk.injEq, SeriesMetric.value,
      if_neg hpoints]
    constructor
    · rintro ⟨entry, hentry, value, hvalue, rfl, rfl⟩
      simp only [List.mem_cons, List.not_mem_nil, or_false] at hentry
      obtain rfl | rfl | rfl | rfl | rfl | rfl := hentry
      · exact ⟨.throughputMean, rfl, hvalue⟩
      · exact ⟨.throughputCv, rfl, hvalue⟩
      · exact ⟨.p99MedianUs, rfl, hvalue⟩
      · exact ⟨.p99WorstUs, rfl, hvalue⟩
      · exact ⟨.errorIntervals, rfl, hvalue⟩
      · exact ⟨.maxIntervalErrors, rfl, hvalue⟩
    · rintro ⟨metric, rfl, hvalue⟩
      cases metric with
      | throughputMean => exact ⟨("throughput_mean", _), by simp, v, hvalue, rfl, rfl⟩
      | throughputCv => exact ⟨("throughput_cv", _), by simp, v, hvalue, rfl, rfl⟩
      | p99MedianUs => exact ⟨("p99_median_us", _), by simp, v, hvalue, rfl, rfl⟩
      | p99WorstUs => exact ⟨("p99_worst_us", _), by simp, v, hvalue, rfl, rfl⟩
      | errorIntervals => exact ⟨("error_intervals", _), by simp, v, hvalue, rfl, rfl⟩
      | maxIntervalErrors => exact ⟨("max_interval_errors", _), by simp, v, hvalue, rfl, rfl⟩

end WsBlast
