import WsBlast.Config
import WsBlast.Lag
import WsBlast.Summary

/-!
# What a run hands to its report

Besides its totals, a run has a time series, the lag of its generator, what
became of its arrivals and what compression did on its connections. The first
part is how each of these adds up, over the phases of a scenario and over the
agents of a distributed run; the second is `ReportMetrics`, the metrics a
report is made of, with the functions that attach them.

Sums are taken in the order in which phases ran and agents answered. Most of
them do not depend on it, and where one does the comment says so: the rate
shown of arrivals is that of the first phase, a compression summary appears
with the first phase that has one, and the seed is the first that injected
anything.
-/

namespace WsBlast

/-! ## The lag of the generator

Lag totals are sums of the histogram and of the counts of intervals, so adding
phases is adding each. -/

/-- How long the probe sleeps between two measurements, in microseconds. -/
def probePeriodUs : ℕ := 10000

/-- The share of intervals, in percent, that may be over the threshold before
the run is flagged. -/
def intervalSharePercent : ℕ := 10

/-- Wake-ups later than the threshold that a run needs, besides a p99 above
it, to be flagged. -/
def minLateInRun : ℕ := 3

/-- The lag of a run's generator. There is none without a sample. -/
structure GeneratorLag where
  probeIntervalUs : ℕ
  samples : ℕ
  sampled : 0 < samples
  p50Us : ℕ
  p99Us : ℕ
  maxUs : ℕ
  thresholdUs : ℕ
  intervals : ℕ
  intervalsOverThreshold : ℕ
  saturated : Bool
  deriving DecidableEq

/-- Lag totals that add up across scenario phases. -/
structure LagTotals where
  hist : Option IntervalHistogram := none
  intervals : ℕ := 0
  intervalsOver : ℕ := 0
  /-- The threshold of the machine the samples were taken on, when it is not
  this one. -/
  thresholdUs : Option ℕ := none

namespace LagTotals

/-- Adds the totals of another phase. -/
def add (totals other : LagTotals) : LagTotals where
  hist :=
    match totals.hist, other.hist with
    | some hist, some other => some (hist + other)
    | none, some other => some other
    | hist, none => hist
  intervals := totals.intervals + other.intervals
  intervalsOver := totals.intervalsOver + other.intervalsOver
  thresholdUs := totals.thresholdUs.or other.thresholdUs

/-- The report's summary; `none` without a single sample. -/
def summary (totals : LagTotals) : Option GeneratorLag :=
  match totals.hist with
  | none => none
  | some hist =>
    if h : 0 < hist.total then
      let thresholdUs := totals.thresholdUs.getD lagThresholdUs
      let p99Us := hist.valueAtQuantile (99 / 100)
      let late := hist.total - hist.countBetween 1 thresholdUs
      let p99Over : Bool := thresholdUs < p99Us ∧ minLateInRun ≤ late
      let shareOver : Bool := 0 < totals.intervalsOver
        ∧ totals.intervals * intervalSharePercent ≤ totals.intervalsOver * 100
      some
        { probeIntervalUs := probePeriodUs
          samples := hist.total
          sampled := h
          p50Us := hist.valueAtQuantile (50 / 100)
          p99Us
          maxUs := hist.maxValue
          thresholdUs
          intervals := totals.intervals
          intervalsOverThreshold := totals.intervalsOver
          saturated := p99Over || shareOver }
    else none

end LagTotals

/-- The process's limit on open files and what the run needs. -/
structure OpenFileLimit where
  softLimit : ℕ
  needed : ℕ
  sufficient : Bool
  deriving DecidableEq, Repr

/-- The generator health of one agent of a distributed run. -/
structure AgentGenerator where
  agent : String
  generatorLag : Option GeneratorLag
  openFileLimit : Option OpenFileLimit

/-- The agents of a distributed run. -/
structure DistributedSummary where
  agents : List String
  lostAgents : List String
  /-- The agent whose lag the run reports. -/
  generatorLagAgent : Option String
  /-- The agent whose open file limit the run reports. -/
  openFileLimitAgent : Option String
  generators : List AgentGenerator

/-! ## Arrivals

Counts of one machine, and the summary that a report shows of them. -/

/-- What an arrival-rate run did with its arrivals. -/
structure ArrivalCounts where
  started : ℕ := 0
  /-- Arrivals skipped because the most sessions allowed were open. -/
  skipped : ℕ := 0
  /-- The most sessions open at once. -/
  peakOpen : ℕ := 0
  /-- The most sessions open in each time-series interval. -/
  intervalPeaks : List ℕ := []
  deriving DecidableEq, Repr

namespace ArrivalCounts

/-- A list made at least `n` long with zeros. -/
def resize (peaks : List ℕ) (n : ℕ) : List ℕ := peaks ++ List.replicate (n - peaks.length) 0

/-- Adds the counts of another machine. The peak is the highest sum of the
machines' peaks in one interval; without intervals it is the sum of the
peaks. -/
def add (counts other : ArrivalCounts) : ArrivalCounts :=
  let all := resize counts.intervalPeaks other.intervalPeaks.length
  let intervalPeaks := List.zipWith (· + ·) all (resize other.intervalPeaks all.length)
  let peakOpen := counts.peakOpen + other.peakOpen
  { started := counts.started + other.started
    skipped := counts.skipped + other.skipped
    intervalPeaks
    peakOpen :=
      match intervalPeaks.max? with
      | some highest => min peakOpen highest
      | none => peakOpen }

end ArrivalCounts

/-- What the report shows of an arrival-rate run. -/
structure ArrivalSummary where
  rate : ℚ
  sessionDurationSecs : ℚ
  maxConnections : Option ℕ
  started : ℕ
  skipped : ℕ
  peakOpen : ℕ
  deriving DecidableEq

namespace ArrivalSummary

/-- The summary of a model and its counts. -/
def new (arrivals : Arrivals) (counts : ArrivalCounts) : ArrivalSummary where
  rate := arrivals.rate
  sessionDurationSecs := Duration.asSecs arrivals.sessionDuration
  maxConnections := arrivals.maxConnections
  started := counts.started
  skipped := counts.skipped
  peakOpen := counts.peakOpen

/-- Adds the counts of another phase of a scenario: started and skipped add
up, and the peak is the higher one. -/
def addPhase (summary other : ArrivalSummary) : ArrivalSummary :=
  { summary with
    started := summary.started + other.started
    skipped := summary.skipped + other.skipped
    peakOpen := max summary.peakOpen other.peakOpen }

end ArrivalSummary

/-! ## Compression

Everything in it adds up, over machines and over phases. -/

/-- The counts a run's connection layer kept. -/
@[ext]
structure CompressionCounts where
  offered : ℕ := 0
  negotiated : ℕ := 0
  bytesSent : ℕ := 0
  wireBytesSent : ℕ := 0
  bytesRecv : ℕ := 0
  wireBytesRecv : ℕ := 0
  deriving DecidableEq, Repr

/-- Adds another machine's counts. -/
def CompressionCounts.add (counts other : CompressionCounts) : CompressionCounts where
  offered := counts.offered + other.offered
  negotiated := counts.negotiated + other.negotiated
  bytesSent := counts.bytesSent + other.bytesSent
  wireBytesSent := counts.wireBytesSent + other.wireBytesSent
  bytesRecv := counts.bytesRecv + other.bytesRecv
  wireBytesRecv := counts.wireBytesRecv + other.wireBytesRecv

/-- What the report shows of compression. -/
@[ext]
structure CompressionSummary where
  connectionsOffered : ℕ := 0
  connectionsNegotiated : ℕ := 0
  bytesSent : ℕ := 0
  wireBytesSent : ℕ := 0
  bytesRecv : ℕ := 0
  wireBytesRecv : ℕ := 0
  deriving DecidableEq, Repr

namespace CompressionSummary

/-- The counts, under the names of the report. -/
def ofCounts (counts : CompressionCounts) : CompressionSummary where
  connectionsOffered := counts.offered
  connectionsNegotiated := counts.negotiated
  bytesSent := counts.bytesSent
  wireBytesSent := counts.wireBytesSent
  bytesRecv := counts.bytesRecv
  wireBytesRecv := counts.wireBytesRecv

/-- Adds another phase's counts. -/
def add (summary other : CompressionSummary) : CompressionSummary where
  connectionsOffered := summary.connectionsOffered + other.connectionsOffered
  connectionsNegotiated := summary.connectionsNegotiated + other.connectionsNegotiated
  bytesSent := summary.bytesSent + other.bytesSent
  wireBytesSent := summary.wireBytesSent + other.wireBytesSent
  bytesRecv := summary.bytesRecv + other.bytesRecv
  wireBytesRecv := summary.wireBytesRecv + other.wireBytesRecv

end CompressionSummary

/-! ## Series -/

/-- Appends the series of the next phase, which started `offset` after the
scenario. -/
def TimeSeries.append (series next : TimeSeries) (offset : Duration) : TimeSeries where
  intervalSecs := if series.points = [] then next.intervalSecs else series.intervalSecs
  latencyBasis :=
    if series.points = [] then next.latencyBasis
    else if series.latencyBasis ≠ next.latencyBasis then "mixed"
    else series.latencyBasis
  points := series.points ++ next.points.map fun point =>
    { point with startSecs := point.startSecs + Duration.asSecs offset }

/-! ## The metrics of a report

A report begins as the metrics of the totals and is completed step by step. -/

/-- Injected faults with another seed, when there are any and it is given. -/
def reseed (chaos : Option ChaosSummary) (seed : Option UInt64) : Option ChaosSummary :=
  match chaos, seed with
  | some chaos, some seed => some { chaos with seed }
  | chaos, _ => chaos

/-- The metrics a report is made of. -/
structure ReportMetrics extends AggregatedMetrics where
  timeSeries : TimeSeries := {}
  arrivals : Option ArrivalSummary := none
  compression : Option CompressionSummary := none
  generatorLag : Option GeneratorLag := none
  openFileLimit : Option OpenFileLimit := none
  distributed : Option DistributedSummary := none

namespace ReportMetrics

variable (metrics : ReportMetrics)

/-- Attaches the time series. -/
def withTimeSeries (timeSeries : TimeSeries) : ReportMetrics := { metrics with timeSeries }

/-- Attaches what an arrival-rate run did with its arrivals. -/
def withArrivals (arrivals : Option Arrivals) (counts : Option ArrivalCounts) : ReportMetrics :=
  { metrics with arrivals := Option.map₂ ArrivalSummary.new arrivals counts }

/-- Attaches what compression did on the run's connections. -/
def withCompression (counts : Option CompressionCounts) : ReportMetrics :=
  { metrics with compression := counts.map .ofCounts }

/-- Attaches the generator's lag and open file limit. -/
def withGenerator (lag : Option GeneratorLag) (openFileLimit : Option OpenFileLimit) :
    ReportMetrics :=
  { metrics with generatorLag := lag, openFileLimit }

/-- Attaches the agents of a distributed run. -/
def withDistributed (summary : DistributedSummary) : ReportMetrics :=
  { metrics with distributed := some summary }

/-- Sets the seed of the injected faults, when there are any. -/
def withChaosSeed (seed : Option UInt64) : ReportMetrics :=
  { metrics with chaos := reseed metrics.chaos seed }

end ReportMetrics

/-- The summary of a run, as the start of its report. -/
def MetricsTotals.report (totals : MetricsTotals) (elapsed : Duration)
    (attempted notStarted : ℕ) : ReportMetrics :=
  { (totals.finish elapsed attempted).withNotStarted notStarted with }

end WsBlast
