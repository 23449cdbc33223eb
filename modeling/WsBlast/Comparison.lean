import WsBlast.Lib.NamedTree
import WsBlast.Outcome
import WsBlast.SeriesSummary

/-!
# Comparing two reports

`compareMetricsIn` scores every metric of two reports by name: it looks the
name's direction up by prefixes, skips the names that cannot be compared,
and files the change as a regression, an improvement or within the
threshold.

What the metrics are is said once more without names: a `Metric` has a
direction, as the documentation lists it, and a value in a report, which
optional metrics may lack. The maps the comparison works on hold these
values under the metrics' names (`tabulates_comparedMap`), the direction of
a name is that of its metric (`metricDirection_name`), and the comparison
lists the scored metrics in name order (`compared_eq`).

Names carry their meaning in prefixes and suffixes. `metricDirection` finds the
direction of a name by a list of tests in order, where an earlier test hides a
later one, and a new metric gets whatever direction its name happens to match.
That every metric of the program gets the one it should have is checked here
once, for all of them.
-/

namespace WsBlast

/-- The name of a category in JSON, in snake case. -/
def ErrorCategory.jsonName : ErrorCategory → String
  | dnsResolution => "dns_resolution"
  | tcpConnect => "tcp_connect"
  | tlsHandshake => "tls_handshake"
  | httpUpgradeRejected => "http_upgrade_rejected"
  | protocolError => "protocol_error"
  | writeError => "write_error"
  | readError => "read_error"
  | timeout => "timeout"
  | unexpectedClose => "unexpected_close"
  | other => "other"
  | checkFailed => "check_failed"

/-! ## The comparison

Reports as maps from names to numbers, and the loop over the names. -/

/-- Which way a metric gets better. -/
inductive MetricDirection where
  | higherIsBetter
  | lowerIsBetter
  | neutral
  deriving DecidableEq, Repr

/-- Classifies a metric by the direction that constitutes an improvement. -/
def metricDirection (metric : String) : MetricDirection :=
  -- input sizing, not an outcome
  if metric = "total_connections_attempted" then .neutral
  else if metric = "total_connections_failed" ∨ metric = "error_rate" then .lowerIsBetter
  else if metric.startsWith "errors." then .lowerIsBetter
  else if metric.startsWith seriesPrefix then
    if SeriesSummary.higherIsBetter metric then .higherIsBetter else .lowerIsBetter
  else if metric.startsWith "handshake_latency." ∨ metric.startsWith "message_rtt."
      ∨ metric.startsWith "response_time." then .lowerIsBetter
  else .higherIsBetter

/-- The percentiles of a latency distribution under the name `family`. -/
def latencyEntries (family : String) (stats : LatencyStats) : List (String × ℚ) :=
  [(family ++ "p50_us", stats.p50Us), (family ++ "p95_us", stats.p95Us),
    (family ++ "p99_us", stats.p99Us), (family ++ "p999_us", stats.p999Us)]

/-- The counts and rates of a run by name. -/
def countEntries (metrics : AggregatedMetrics) : List (String × ℚ) :=
  [("total_connections_attempted", metrics.totalConnectionsAttempted),
    ("total_connections_established", metrics.totalConnectionsEstablished),
    ("total_connections_failed", metrics.totalConnectionsFailed),
    ("total_messages_sent", metrics.totalMessagesSent),
    ("total_messages_recv", metrics.totalMessagesRecv),
    ("total_bytes_sent", metrics.totalBytesSent),
    ("total_bytes_recv", metrics.totalBytesRecv),
    ("throughput_msg_per_sec", metrics.throughputMsgPerSec),
    ("throughput_bytes_per_sec", metrics.throughputBytesPerSec),
    ("error_rate", metrics.errorRate)]

/-- The errors of a run by name. -/
def errorEntries (errors : TallyMap ErrorCategory ℕ) : List (String × ℚ) :=
  errors.toList.map fun entry => ("errors." ++ entry.1.jsonName, (entry.2 : ℚ))

/-- The metrics of a run by name, in the order in which they are inserted. -/
def metricEntries (metrics : AggregatedMetrics) : List (String × ℚ) :=
  countEntries metrics ++ errorEntries metrics.errorBreakdown
    ++ latencyEntries "handshake_latency." metrics.handshakeLatency
    ++ latencyEntries "message_rtt." metrics.messageRtt
    ++ if 0 < metrics.responseTime.count then latencyEntries "response_time." metrics.responseTime
      else []

/-- The metrics of a run by name. -/
def metricsToMap (metrics : AggregatedMetrics) : MetricMap :=
  (∅ : MetricMap).insertMany (metricEntries metrics)

/-- How a compared metric moved relative to the threshold. -/
inductive ChangeOutcome where
  | regression
  | improvement
  | withinThreshold
  deriving DecidableEq, Repr

/-- One scored metric of a comparison. -/
structure ComparedMetric where
  metric : String
  baseline : ℚ
  current : ℚ
  pctChange : ℚ
  higherIsBetter : Bool
  outcome : ChangeOutcome
  deriving DecidableEq, Repr

/-- A metric that got worse; `pctChange` is the signed relative change. -/
structure Regression where
  metric : String
  baseline : ℚ
  current : ℚ
  pctChange : ℚ
  deriving DecidableEq, Repr

/-- A metric that got better. -/
structure Improvement where
  metric : String
  baseline : ℚ
  current : ℚ
  pctChange : ℚ
  deriving DecidableEq, Repr

/-- The lists a comparison fills. -/
@[ext]
structure Verdicts where
  regressions : List Regression := []
  improvements : List Improvement := []
  compared : List ComparedMetric := []

/-- Baseline comparison for regression detection. -/
structure BaselineComparison extends Verdicts where
  baseline : ReportMetrics
  current : ReportMetrics
  window : Option CompareWindow
  /-- Whether both reports had a time series. -/
  seriesCompared : Bool

section Compare

variable (sqrt : ℚ → ℚ)

/-- The signed relative change in percent. A non-zero value against a zero
baseline has none and counts as a full move. -/
def pctChange (baselineVal currentVal : ℚ) : ℚ :=
  if baselineVal = 0 then 100 else (currentVal - baselineVal) / baselineVal * 100

/-- Scores one metric name. -/
def scoreMetric (baselineMap currentMap : MetricMap) (threshold : ℚ) (verdicts : Verdicts)
    (metric : String) : Verdicts :=
  let direction := metricDirection metric
  if direction = .neutral then verdicts
  -- undefined for one of the reports
  else if (metric.startsWith "response_time." || metric.startsWith seriesPrefix)
      && !(baselineMap.contains metric && currentMap.contains metric) then verdicts
  else
    let baselineVal := (baselineMap[metric]?).getD 0
    let currentVal := (currentMap[metric]?).getD 0
    if baselineVal = 0 ∧ currentVal = 0 then verdicts
    else
      let pctChange := pctChange baselineVal currentVal
      let (regressed, improved) :=
        match direction with
        | .higherIsBetter => (decide (pctChange < -threshold), decide (threshold < pctChange))
        | .lowerIsBetter => (decide (threshold < pctChange), decide (pctChange < -threshold))
        | .neutral => (false, false)
      let verdicts :=
        { verdicts with
          compared := verdicts.compared ++
            [{ metric
               baseline := baselineVal
               current := currentVal
               pctChange
               higherIsBetter := direction = .higherIsBetter
               outcome :=
                if regressed then .regression
                else if improved then .improvement
                else .withinThreshold }] }
      if regressed then
        { verdicts with
          regressions := verdicts.regressions ++
            [{ metric, baseline := baselineVal, current := currentVal, pctChange }] }
      else if improved then
        { verdicts with
          improvements := verdicts.improvements ++
            [{ metric, baseline := baselineVal, current := currentVal, pctChange }] }
      else verdicts

/-- The metrics of a report by name, the series computed over `window`. -/
def comparedMap (report : ReportMetrics) (window : Option CompareWindow) : MetricMap :=
  (SeriesSummary.of sqrt report.timeSeries window).insertInto
    (metricsToMap report.toAggregatedMetrics)

/-- Whether a map has a metric of the time series. -/
def hasSeries (map : MetricMap) : Bool := map.keys.any fun name => name.startsWith seriesPrefix

/-- The names in two maps, each once, in order. -/
def metricNames (baselineMap currentMap : MetricMap) : List String :=
  (Std.ExtTreeSet.ofList (baselineMap.keys ++ currentMap.keys) compare).toList

/-- Compares two metric snapshots and detects regressions and
improvements. -/
def compareMetricsIn (baseline current : ReportMetrics) (threshold : ℚ)
    (window : Option CompareWindow) : BaselineComparison :=
  let baselineMap := comparedMap sqrt baseline window
  let currentMap := comparedMap sqrt current window
  let verdicts :=
    (metricNames baselineMap currentMap).foldl (scoreMetric baselineMap currentMap threshold) {}
  { toVerdicts := verdicts
    baseline
    current
    window
    seriesCompared := hasSeries baselineMap && hasSeries currentMap }

end Compare

/-! ## The metrics without names

The same metrics as an enumeration, with the names as a function that is
injective. -/

/-- The percentiles that are compared. -/
inductive Percentile where
  | p50
  | p95
  | p99
  | p999
  deriving DecidableEq, Repr

namespace Percentile

/-- The percentiles, listed. -/
def all : List Percentile := [p50, p95, p99, p999]

theorem mem_all (percentile : Percentile) : percentile ∈ all := by
  cases percentile <;> decide

/-- The suffix of its name. -/
def name : Percentile → String
  | p50 => "p50_us"
  | p95 => "p95_us"
  | p99 => "p99_us"
  | p999 => "p999_us"

/-- The percentile of a distribution. -/
def of (stats : LatencyStats) : Percentile → ℕ
  | p50 => stats.p50Us
  | p95 => stats.p95Us
  | p99 => stats.p99Us
  | p999 => stats.p999Us

end Percentile

/-- The error categories, listed. -/
def ErrorCategory.all : List ErrorCategory :=
  [dnsResolution, tcpConnect, tlsHandshake, httpUpgradeRejected, protocolError, writeError,
    readError, timeout, unexpectedClose, other, checkFailed]

theorem ErrorCategory.mem_all (category : ErrorCategory) : category ∈ all := by
  cases category <;> decide

/-- The metrics of a report. -/
inductive Metric where
  | connectionsAttempted
  | connectionsEstablished
  | connectionsFailed
  | messagesSent
  | messagesRecv
  | bytesSent
  | bytesRecv
  | throughputMsg
  | throughputBytes
  | errorRate
  | errors (category : ErrorCategory)
  | handshakeLatency (percentile : Percentile)
  | messageRtt (percentile : Percentile)
  | responseTime (percentile : Percentile)
  | series (metric : SeriesMetric)
  deriving DecidableEq, Repr

namespace Metric

/-- The counts and rates. -/
def counts : List Metric :=
  [connectionsAttempted, connectionsEstablished, connectionsFailed, messagesSent, messagesRecv,
    bytesSent, bytesRecv, throughputMsg, throughputBytes, errorRate]

/-- The metrics, listed. -/
def all : List Metric :=
  counts ++ ErrorCategory.all.map errors ++ Percentile.all.map handshakeLatency
    ++ Percentile.all.map messageRtt ++ Percentile.all.map responseTime
    ++ SeriesMetric.all.map series

theorem mem_all (metric : Metric) : metric ∈ all := by
  cases metric with
  | errors category => simp [all, category.mem_all]
  | handshakeLatency percentile => simp [all, percentile.mem_all]
  | messageRtt percentile => simp [all, percentile.mem_all]
  | responseTime percentile => simp [all, percentile.mem_all]
  | series metric => simp [all, metric.mem_all]
  | _ => simp [all, counts]

/-- The name of a metric. -/
def name : Metric → String
  | connectionsAttempted => "total_connections_attempted"
  | connectionsEstablished => "total_connections_established"
  | connectionsFailed => "total_connections_failed"
  | messagesSent => "total_messages_sent"
  | messagesRecv => "total_messages_recv"
  | bytesSent => "total_bytes_sent"
  | bytesRecv => "total_bytes_recv"
  | throughputMsg => "throughput_msg_per_sec"
  | throughputBytes => "throughput_bytes_per_sec"
  | errorRate => "error_rate"
  | errors category => "errors." ++ category.jsonName
  | handshakeLatency percentile => "handshake_latency." ++ percentile.name
  | messageRtt percentile => "message_rtt." ++ percentile.name
  | responseTime percentile => "response_time." ++ percentile.name
  | series metric => seriesPrefix ++ metric.name

/-- Which way a metric gets better, as the documentation lists it. -/
def direction : Metric → MetricDirection
  | connectionsAttempted => .neutral
  | connectionsEstablished | messagesSent | messagesRecv | bytesSent | bytesRecv => .higherIsBetter
  | throughputMsg | throughputBytes => .higherIsBetter
  | connectionsFailed | errorRate | errors _ => .lowerIsBetter
  | handshakeLatency _ | messageRtt _ | responseTime _ => .lowerIsBetter
  | series .throughputMean => .higherIsBetter
  | series _ => .lowerIsBetter

/-- Whether the metric is compared only when both reports define it. -/
def isOptional : Metric → Bool
  | responseTime _ | series _ => true
  | _ => false

/-- The value a run has for a metric; the error categories that did not
occur, the response time of an unpaced run and the time series have none. -/
def runValue (metrics : AggregatedMetrics) : Metric → Option ℚ
  | connectionsAttempted => some metrics.totalConnectionsAttempted
  | connectionsEstablished => some metrics.totalConnectionsEstablished
  | connectionsFailed => some metrics.totalConnectionsFailed
  | messagesSent => some metrics.totalMessagesSent
  | messagesRecv => some metrics.totalMessagesRecv
  | bytesSent => some metrics.totalBytesSent
  | bytesRecv => some metrics.totalBytesRecv
  | throughputMsg => some metrics.throughputMsgPerSec
  | throughputBytes => some metrics.throughputBytesPerSec
  | errorRate => some metrics.errorRate
  | errors category => (metrics.errorBreakdown[category]?).map fun count : ℕ => (count : ℚ)
  | handshakeLatency percentile => some (percentile.of metrics.handshakeLatency)
  | messageRtt percentile => some (percentile.of metrics.messageRtt)
  | responseTime percentile =>
    if 0 < metrics.responseTime.count then some (percentile.of metrics.responseTime) else none
  | series _ => none

/-- The value a summary of the time series has for a metric. -/
def seriesValue (summary : SeriesSummary) : Metric → Option ℚ
  | series metric => metric.value summary
  | _ => none

/-- The value of a metric in a report, `none` where the report does not
define it. -/
def value (sqrt : ℚ → ℚ) (report : ReportMetrics) (window : Option CompareWindow)
    (metric : Metric) : Option ℚ :=
  (metric.seriesValue (SeriesSummary.of sqrt report.timeSeries window)).or
    (metric.runValue report.toAggregatedMetrics)

/-- No two metrics share a name. -/
theorem name_injective : Function.Injective name := by
  have hnodup : (all.map name).Nodup := by decide +kernel
  exact fun metric metric' h =>
    List.inj_on_of_nodup_map hnodup (mem_all metric) (mem_all metric') h

/-- **The direction of a name is that of its metric.** -/
theorem metricDirection_name (metric : Metric) : metricDirection metric.name = metric.direction := by
  have hall : ∀ metric ∈ all, metricDirection metric.name = metric.direction := by
    decide +kernel
  exact hall metric (mem_all metric)

end Metric

/-! ## The maps hold the metrics

Each group of entries is read as the metrics it holds, and then the whole map.
-/

/-- The counts are the values of their metrics. -/
theorem countEntries_eq (metrics : AggregatedMetrics) :
    countEntries metrics
      = Metric.counts.map fun metric => (metric.name, (metric.runValue metrics).getD 0) := rfl

theorem mem_countEntries {metrics : AggregatedMetrics} {name : String} {v : ℚ} :
    (name, v) ∈ countEntries metrics
      ↔ ∃ metric ∈ Metric.counts, name = metric.name ∧ metric.runValue metrics = some v := by
  rw [countEntries_eq, List.mem_map]
  refine exists_congr fun metric => and_congr_right fun hmem => ?_
  have hsome : metric.runValue metrics = some ((metric.runValue metrics).getD 0) := by
    simp only [Metric.counts, List.mem_cons, List.not_mem_nil, or_false] at hmem
    obtain rfl | rfl | rfl | rfl | rfl | rfl | rfl | rfl | rfl | rfl := hmem <;> rfl
  rw [Prod.mk.injEq, hsome, Option.some_inj, Option.getD_some, eq_comm]

theorem mem_errorEntries {errors : TallyMap ErrorCategory ℕ} {name : String} {v : ℚ} :
    (name, v) ∈ errorEntries errors
      ↔ ∃ category : ErrorCategory, name = "errors." ++ category.jsonName
        ∧ (errors[category]?).map (fun count : ℕ => (count : ℚ)) = some v := by
  simp only [errorEntries, List.mem_map, Prod.mk.injEq, Option.map_eq_some_iff]
  constructor
  · rintro ⟨⟨category, count⟩, hmem, rfl, rfl⟩
    exact ⟨category, rfl, count, Std.ExtTreeMap.mem_toList_iff_getElem?_eq_some.mp hmem, rfl⟩
  · rintro ⟨category, rfl, count, hcount, rfl⟩
    exact ⟨(category, count), Std.ExtTreeMap.mem_toList_iff_getElem?_eq_some.mpr hcount, rfl, rfl⟩

theorem mem_latencyEntries {family name : String} {stats : LatencyStats} {v : ℚ} :
    (name, v) ∈ latencyEntries family stats
      ↔ ∃ percentile : Percentile, name = family ++ percentile.name
        ∧ some (percentile.of stats : ℚ) = some v := by
  simp only [latencyEntries, List.mem_cons, List.not_mem_nil, or_false, Prod.mk.injEq]
  constructor
  · rintro (⟨rfl, rfl⟩ | ⟨rfl, rfl⟩ | ⟨rfl, rfl⟩ | ⟨rfl, rfl⟩)
    · exact ⟨.p50, rfl, rfl⟩
    · exact ⟨.p95, rfl, rfl⟩
    · exact ⟨.p99, rfl, rfl⟩
    · exact ⟨.p999, rfl, rfl⟩
  · rintro ⟨percentile, rfl, hv⟩
    obtain rfl := Option.some.inj hv
    cases percentile <;> simp [Percentile.name, Percentile.of]

/-- **The entries of a run are its metrics.** -/
theorem mem_metricEntries {metrics : AggregatedMetrics} {name : String} {v : ℚ} :
    (name, v) ∈ metricEntries metrics
      ↔ ∃ metric : Metric, name = metric.name ∧ metric.runValue metrics = some v := by
  -- response times are listed only when there are any
  have hresponse : (name, v) ∈ (if 0 < metrics.responseTime.count then
        latencyEntries "response_time." metrics.responseTime else [])
      ↔ 0 < metrics.responseTime.count
        ∧ (name, v) ∈ latencyEntries "response_time." metrics.responseTime := by
    split <;> simp [*]
  rw [metricEntries, List.mem_append, List.mem_append, List.mem_append, List.mem_append,
    hresponse, mem_countEntries, mem_errorEntries, mem_latencyEntries, mem_latencyEntries,
    mem_latencyEntries]
  constructor
  · rintro ((((⟨metric, -, hmetric⟩ | ⟨category, hcategory⟩) | ⟨percentile, hpercentile⟩)
      | ⟨percentile, hpercentile⟩) | ⟨hpos, percentile, hname, hv⟩)
    · exact ⟨metric, hmetric⟩
    · exact ⟨.errors category, hcategory⟩
    · exact ⟨.handshakeLatency percentile, hpercentile⟩
    · exact ⟨.messageRtt percentile, hpercentile⟩
    · exact ⟨.responseTime percentile, hname, (if_pos hpos).trans hv⟩
  · rintro ⟨metric, hname, hv⟩
    cases metric with
    | errors category => exact .inl (.inl (.inl (.inr ⟨category, hname, hv⟩)))
    | handshakeLatency percentile => exact .inl (.inl (.inr ⟨percentile, hname, hv⟩))
    | messageRtt percentile => exact .inl (.inr ⟨percentile, hname, hv⟩)
    | responseTime percentile =>
      obtain ⟨hpos, heq⟩ := Option.ite_none_right_eq_some.mp hv
      exact .inr ⟨hpos, percentile, hname, heq⟩
    | series metric => cases hv
    | _ => exact .inl (.inl (.inl (.inl ⟨_, by simp [Metric.counts], hname, hv⟩)))

/-- **The map of a report holds the metrics it defines**, and nothing else. -/
theorem tabulates_comparedMap (sqrt : ℚ → ℚ) (report : ReportMetrics)
    (window : Option CompareWindow) :
    NamedTree.Tabulates Metric.name (Metric.value sqrt report window)
      (comparedMap sqrt report window) := by
  have hrun : NamedTree.Tabulates Metric.name
      (fun metric => (metric.runValue report.toAggregatedMetrics).or none)
      (metricsToMap report.toAggregatedMetrics) :=
    NamedTree.tabulates_empty.insertMany Metric.name_injective fun _ _ => mem_metricEntries
  simp only [Option.or_none] at hrun
  refine hrun.insertMany Metric.name_injective fun k v => ?_
  rw [SeriesSummary.mem_entries]
  constructor
  · rintro ⟨metric, rfl, hv⟩
    exact ⟨.series metric, rfl, hv⟩
  · rintro ⟨metric, rfl, hv⟩
    cases metric with
    | series metric => exact ⟨metric, rfl, hv⟩
    | _ => cases hv

end WsBlast
