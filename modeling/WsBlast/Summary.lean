import WsBlast.Totals

/-!
# The summary of a run

`MetricsTotals.finish` turns totals into the numbers a report shows. The
connection counts are not stored anywhere: they are inferred from the length
of the handshake histogram, the reconnects and the interrupted slots, with
clamps against counts that do not fit together. The error rate is failed
operations over attempted ones, clamped at 1. Rates are exact rationals.

That the counts are inferred and not kept has a reason: a worker that is still
connecting when the run ends has recorded nothing that would say so, and a slot
that was never started has no metrics at all.
-/

namespace WsBlast

/-- Summary of one latency distribution, in microseconds. The percentiles are
the highest values of the ranges they fall in. -/
structure LatencyStats where
  count : ℕ
  minUs : ℕ
  meanUs : ℚ
  maxUs : ℕ
  p50Us : ℕ
  p75Us : ℕ
  p90Us : ℕ
  p95Us : ℕ
  p99Us : ℕ
  p999Us : ℕ
  p9999Us : ℕ
  deriving DecidableEq, Repr

/-- The summary of a histogram; all zero for an empty one. -/
def LatencyStats.fromHistogram (hist : Histogram) : LatencyStats :=
  if hist.total = 0 then ⟨0, 0, 0, 0, 0, 0, 0, 0, 0, 0, 0⟩
  else
    { count := hist.total
      minUs := hist.minValue
      meanUs := hist.mean
      maxUs := hist.maxValue
      p50Us := hist.valueAtQuantile (50 / 100)
      p75Us := hist.valueAtQuantile (75 / 100)
      p90Us := hist.valueAtQuantile (90 / 100)
      p95Us := hist.valueAtQuantile (95 / 100)
      p99Us := hist.valueAtQuantile (99 / 100)
      p999Us := hist.valueAtQuantile (999 / 1000)
      p9999Us := hist.valueAtQuantile (9999 / 10000) }

/-- Replies that took far longer than the run's median. -/
structure SlowReplies where
  thresholdUs : ℕ
  count : ℕ
  replyShare : ℚ
  waitShare : ℚ
  deriving DecidableEq, Repr

/-- The waiting time of some replies, given by their values and counts. -/
def totalWait (buckets : List (ℕ × ℕ)) : ℕ := (buckets.map fun bucket => bucket.1 * bucket.2).sum

/-- The slow replies of an RTT distribution; `none` when it has none. -/
def SlowReplies.of (rtt : Histogram) : Option SlowReplies :=
  if rtt.total = 0 then none
  else
    let thresholdUs := max (rtt.valueAtQuantile (1 / 2) * 10) 10000
    let slow := rtt.iterRecorded.filter fun bucket => thresholdUs < bucket.1
    let count := (slow.map Prod.snd).sum
    if 0 < count then
      some
        { thresholdUs
          count
          replyShare := (count : ℚ) / rtt.total
          waitShare := (totalWait slow : ℚ) / max (totalWait rtt.iterRecorded) 1 }
    else none

/-- Failed operations over attempted operations, at most 1. -/
def errorRate (errors attempted : ℕ) : ℚ :=
  if 0 < attempted then min ((errors : ℚ) / attempted) 1 else 0

/-- Every sent message, plus every failure that happened before a message
could be sent. -/
def attemptedOps (sent errors sentMessageErrors : ℕ) : ℕ := sent + (errors - sentMessageErrors)

/-- Metrics of one named action. -/
structure ActionMetrics where
  name : String
  messagesSent : ℕ
  errors : ℕ
  errorRate : ℚ
  messageRtt : LatencyStats
  responseTime : LatencyStats
  deriving DecidableEq, Repr

/-- The metrics of an action from its totals. -/
def ActionMetrics.of (name : String) (totals : ActionTotals) : ActionMetrics where
  name
  messagesSent := totals.counts.sent
  errors := totals.counts.errors
  errorRate := WsBlast.errorRate totals.counts.errors
    (attemptedOps totals.counts.sent totals.counts.errors totals.counts.sentMessageErrors)
  messageRtt := LatencyStats.fromHistogram totals.rtt
  responseTime := LatencyStats.fromHistogram totals.response

/-- The metrics of a whole run, as the report and the JSON output show them.
The four counts of connections add up to the attempted ones. -/
structure AggregatedMetrics where
  totalConnectionsAttempted : ℕ
  totalConnectionsEstablished : ℕ
  totalConnectionsFailed : ℕ
  totalConnectionsInterrupted : ℕ
  totalConnectionsNotStarted : ℕ
  totalReconnects : ℕ
  totalUnsolicitedFrames : ℕ
  totalMessagesSent : ℕ
  totalMessagesRecv : ℕ
  totalBytesSent : ℕ
  totalBytesRecv : ℕ
  elapsed : Duration
  throughputMsgPerSec : ℚ
  throughputBytesPerSec : ℚ
  errorRate : ℚ
  handshakeLatency : LatencyStats
  messageRtt : LatencyStats
  responseTime : LatencyStats
  slowReplies : Option SlowReplies
  actions : List ActionMetrics
  errorBreakdown : TallyMap ErrorCategory ℕ
  chaos : Option ChaosSummary

namespace MetricsTotals

/-- Slots that completed a handshake: the handshakes less the reconnects, at
most the attempted slots. -/
def established (totals : MetricsTotals) (attempted : ℕ) : ℕ :=
  min (totals.handshake.total - totals.reconnects) attempted

/-- Slots whose first handshake was in progress when the run ended. -/
def interruptedSlots (totals : MetricsTotals) (attempted : ℕ) : ℕ :=
  min totals.interrupted (attempted - totals.established attempted)

/-- The attempted operations of a run. -/
def attemptedOps (totals : MetricsTotals) : ℕ :=
  WsBlast.attemptedOps totals.messagesSent totals.errors.total totals.sentMessageErrors

/-- Summarises the totals of a run that lasted `elapsed` and was configured to
open `attempted` slots. -/
def finish (totals : MetricsTotals) (elapsed : Duration) (attempted : ℕ) : AggregatedMetrics :=
  let elapsedSecs : ℚ := max (Duration.asSecs elapsed) (1 / 10000)
  { totalConnectionsAttempted := attempted
    totalConnectionsEstablished := totals.established attempted
    totalConnectionsFailed :=
      attempted - totals.established attempted - totals.interruptedSlots attempted
    totalConnectionsInterrupted := totals.interruptedSlots attempted
    totalConnectionsNotStarted := 0
    totalReconnects := totals.reconnects
    totalUnsolicitedFrames := totals.unsolicitedFrames
    totalMessagesSent := totals.messagesSent
    totalMessagesRecv := totals.messagesRecv
    totalBytesSent := totals.bytesSent
    totalBytesRecv := totals.bytesRecv
    elapsed
    -- listen mode never sends, and stream mode may send without replies
    throughputMsgPerSec := (max totals.messagesSent totals.messagesRecv : ℕ) / elapsedSecs
    throughputBytesPerSec := (totals.bytesSent + totals.bytesRecv : ℕ) / elapsedSecs
    errorRate := errorRate totals.errors.total totals.attemptedOps
    handshakeLatency := LatencyStats.fromHistogram totals.handshake
    messageRtt := LatencyStats.fromHistogram totals.rtt
    responseTime := LatencyStats.fromHistogram totals.response
    slowReplies := if totals.response.total = 0 then SlowReplies.of totals.rtt else none
    actions := totals.actions.toList.map fun entry => ActionMetrics.of entry.1 entry.2
    errorBreakdown := totals.errors
    chaos := totals.chaos }

end MetricsTotals

/-- Reclassifies slots that have no worker metrics from failed to not
started. -/
def AggregatedMetrics.withNotStarted (metrics : AggregatedMetrics) (notStarted : ℕ) :
    AggregatedMetrics :=
  let notStarted := min notStarted metrics.totalConnectionsFailed
  { metrics with
    totalConnectionsFailed := metrics.totalConnectionsFailed - notStarted
    totalConnectionsNotStarted := notStarted }

/-! ## When the clamps do nothing -/

/-- Counts of which no part exceeds its whole keep the error rate below 1. -/
theorem errors_le_attemptedOps {sent errors sentMessageErrors : ℕ}
    (hsent : sentMessageErrors ≤ sent) : errors ≤ attemptedOps sent errors sentMessageErrors := by
  unfold attemptedOps
  omega

/-- The error rate is the plain quotient when no more operations failed than
were attempted. -/
theorem errorRate_eq_div {errors attempted : ℕ} (h : errors ≤ attempted) :
    errorRate errors attempted = (errors : ℚ) / attempted := by
  unfold errorRate
  by_cases hpos : 0 < attempted
  · rw [if_pos hpos, min_eq_left]
    exact div_le_one_of_le₀ (Nat.cast_le.mpr h) (Nat.cast_nonneg _)
  · rw [if_neg hpos, Nat.eq_zero_of_not_pos hpos, Nat.cast_zero, div_zero]

section Counts

variable {totals : MetricsTotals} {attempted established failed notStarted : ℕ}
  (hhandshakes : totals.handshake.total = established + totals.reconnects)
  (hattempted : attempted = established + failed + totals.interrupted + notStarted)

include hhandshakes hattempted

/-- Handshakes and slots that add up give the established slots. -/
theorem established_of_counts : totals.established attempted = established := by
  unfold MetricsTotals.established
  omega

/-- And the interrupted ones. -/
theorem interruptedSlots_of_counts : totals.interruptedSlots attempted = totals.interrupted := by
  unfold MetricsTotals.interruptedSlots
  rw [established_of_counts hhandshakes hattempted]
  omega

/-- What is left are the failed slots and those not started. -/
theorem failed_finish_of_counts (elapsed : Duration) :
    (totals.finish elapsed attempted).totalConnectionsFailed = failed + notStarted := by
  show attempted - totals.established attempted - totals.interruptedSlots attempted = _
  rw [established_of_counts hhandshakes hattempted,
    interruptedSlots_of_counts hhandshakes hattempted]
  omega

/-- **Counts that add up are reported as they are**: when the handshakes are
those of the established slots and the reconnects, and every attempted slot is
established, interrupted, failed or not started, the summary says so. -/
theorem finish_withNotStarted_of_counts (elapsed : Duration) :
    ((totals.finish elapsed attempted).withNotStarted notStarted).totalConnectionsEstablished
        = established
      ∧ ((totals.finish elapsed attempted).withNotStarted notStarted).totalConnectionsInterrupted
        = totals.interrupted
      ∧ ((totals.finish elapsed attempted).withNotStarted notStarted).totalConnectionsFailed
        = failed
      ∧ ((totals.finish elapsed attempted).withNotStarted notStarted).totalConnectionsNotStarted
        = notStarted := by
  have hfailed := failed_finish_of_counts hhandshakes hattempted elapsed
  refine ⟨established_of_counts hhandshakes hattempted,
    interruptedSlots_of_counts hhandshakes hattempted, ?_, ?_⟩
  · show (totals.finish elapsed attempted).totalConnectionsFailed
      - min notStarted (totals.finish elapsed attempted).totalConnectionsFailed = failed
    rw [hfailed, min_eq_left (Nat.le_add_left _ _), Nat.add_sub_cancel]
  · show min notStarted (totals.finish elapsed attempted).totalConnectionsFailed = notStarted
    rw [hfailed, min_eq_left (Nat.le_add_left _ _)]

end Counts

end WsBlast
