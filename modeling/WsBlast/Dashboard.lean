import WsBlast.LiveIntervals
import WsBlast.Slo

/-!
# The dashboard

On each refresh the dashboard reads a source for the live counters, the clocks
of the run and of the phase in progress, the plan of the phases and the
latency of the last interval that is over, and turns them into one frame
(`Dashboard.update`). Between refreshes it keeps the counters of the last few
seconds, from which it computes rates, and the points of two sparklines.

The texts of a frame are left out: a row of thresholds has its numbers, not
their format.

The dashboard asks its questions one after the other and answers none of them
itself. What it adds is memory, for two purposes. Rates are differences, so a
reading of the counters is kept until it is an interval old, and the rates of
a frame are those since the oldest one that is kept. Sparklines show the past,
so a point is kept for each second and for each interval.
-/

namespace WsBlast

/-! ## What the dashboard reads

The plan and the progress of the phases, the agents, and one source with
everything a refresh reads. -/

/-- The agents generating the load of a distributed run. -/
structure AgentsView where
  total : ℕ
  /-- The agents lost so far, in `--agents` order. -/
  lost : List String
  deriving DecidableEq, Repr

/-- What one run or scenario phase was configured to do. -/
structure PhasePlan where
  /-- Phase name; `none` for a single run. -/
  name : Option String := none
  /-- 0-based position of the phase in the run. -/
  index : ℕ := 0
  total : ℕ := 0
  /-- Configured connections; for a staged phase, the highest target. -/
  connections : ℕ := 0
  rampRate : ℕ := 0
  duration : Duration := 0
  stages : List Stage := []
  /-- The thresholds checked on this phase alone. -/
  slo : SloThresholds := {}
  /-- The thresholds checked on the whole scenario. -/
  runSlo : SloThresholds := {}
  deriving DecidableEq

namespace PhasePlan

/-- The plan of a single run of `config`. -/
def forRun (config : LoadTestConfig) (slo : SloThresholds) : PhasePlan where
  name := none
  index := 0
  total := 1
  connections := config.connections
  rampRate := config.rampRate
  duration := config.duration
  stages := config.stages
  slo
  runSlo := {}

/-- The plan of a scenario's phase. -/
def ofPhase (phases : List CompiledPhase) (slo : SloThresholds) (index : ℕ)
    (phase : CompiledPhase) : PhasePlan where
  name := some phase.name
  index
  total := phases.length
  connections := phase.connections
  rampRate := phase.rampRate
  duration := phase.duration
  stages := phase.stages
  slo := phase.slo
  runSlo := slo

end PhasePlan

/-- The SLO result of a finished phase. -/
structure FinishedPhase where
  name : String
  passed : Bool
  checks : ℕ
  /-- Names of the checks that failed. -/
  failed : List String
  deriving DecidableEq, Repr

/-- The phase in progress and the phases that have finished, in run order. -/
structure ProgressView where
  current : Option PhasePlan := none
  finished : List FinishedPhase := []
  deriving DecidableEq

namespace ProgressView

/-- Records that the phase `plan` describes is starting. -/
def beginPhase (progress : ProgressView) (plan : PhasePlan) : ProgressView :=
  { progress with current := some plan }

/-- Records the SLO result of the phase `name`, which has just finished. -/
def endPhase (progress : ProgressView) (name : String) (slo : SloEvaluation) : ProgressView :=
  { progress with
    finished := progress.finished ++
      [{ name
         passed := slo.passed
         checks := slo.checks.length
         failed := (slo.checks.filter fun check => !check.passed).map SloCheck.name }] }

end ProgressView

/-- The agents of a run and which of them are lost. -/
structure AgentBoard where
  names : List String
  lost : List Bool
  deriving DecidableEq, Repr

namespace AgentBoard

/-- All agents are there at first. -/
def new (names : List String) : AgentBoard := ⟨names, List.replicate names.length false⟩

/-- Records that agent `index` is lost. -/
def markLost (board : AgentBoard) (index : ℕ) : AgentBoard :=
  { board with lost := board.lost.set index true }

/-- How many there are, and which are lost. -/
def view (board : AgentBoard) : AgentsView where
  total := board.names.length
  lost := ((board.names.zip board.lost).filter Prod.snd).map Prod.fst

end AgentBoard

/-- What one refresh reads of a source, one after the other. -/
structure DashboardSource where
  counters : LiveSnapshot
  runElapsed : Duration
  phaseClock : Option PhaseClock
  progress : ProgressView
  lastInterval : Option CompletedInterval
  agents : Option AgentsView := none

/-! ## What a frame shows -/

/-- The phase in progress. -/
structure PhaseView where
  name : Option String
  /-- 1-based. -/
  number : ℕ
  total : ℕ
  /-- Time since the phase's clock started; zero while it is starting. -/
  elapsed : Duration
  duration : Duration
  /-- The phase was announced but its clock has not started yet, or the
  previous phase's clock is the one still registered. -/
  starting : Bool
  deriving DecidableEq, Repr

/-- The stage of a staged run that is in progress. -/
structure StageView where
  /-- 1-based. -/
  number : ℕ
  total : ℕ
  /-- Connections at the end of the stage. -/
  endTarget : ℕ
  /-- Time left in the stage. -/
  left : Duration
  deriving DecidableEq, Repr

/-- Latency of the most recently completed interval. -/
structure LatencyView where
  /-- `rtt` or `response_time`; `none` before the run's clock starts. -/
  basis : Option String := none
  /-- Samples in the interval; `none` while no interval has completed. -/
  samples : Option ℕ := none
  p50Us : ℕ := 0
  p90Us : ℕ := 0
  p99Us : ℕ := 0
  /-- Length of one interval. -/
  interval : Duration := 0
  deriving DecidableEq, Repr

/-- The latency of an interval. -/
def LatencyView.ofInterval (basis : String) (interval : Duration) (latency : IntervalLatency) :
    LatencyView where
  basis := some basis
  samples := some latency.count
  p50Us := latency.p50Us
  p90Us := latency.p90Us
  p99Us := latency.p99Us
  interval

/-- Whether the percentiles hold values. -/
def LatencyView.hasSamples (view : LatencyView) : Bool := view.samples.any (0 < ·)

/-- Counter rates over the trailing window of one interval. -/
structure WindowView where
  /-- Length of the window actually covered. -/
  secs : ℚ := 0
  errors : ℕ := 0
  /-- `none` when nothing was attempted. -/
  errorRate : Option ℚ := none
  /-- The larger of messages sent and received, per second. -/
  throughput : ℚ := 0
  deriving DecidableEq, Repr

/-- Which thresholds the SLO panel shows. -/
inductive SloScope where
  | run
  | phase
  | scenario
  deriving DecidableEq, Repr

/-- How a live value compares with its threshold. -/
inductive SloState where
  | ok
  | breaching
  | noData
  deriving DecidableEq, Repr

/-- A threshold: the live value must stay at or below a maximum, or at or
above a minimum. -/
inductive Limit where
  | max (limit : ℚ)
  | min (limit : ℚ)
  deriving DecidableEq, Repr

/-- Whether `live` breaches `limit`. -/
def sloState (limit : Limit) (live : Option ℚ) : SloState :=
  match live with
  | none => .noData
  | some live =>
    let breaching := match limit with
      | .max limit => decide (limit < live)
      | .min limit => decide (live < limit)
    if breaching then .breaching else .ok

/-- One configured threshold and its live counterpart. -/
structure SloRow where
  name : String
  threshold : Limit
  live : Option ℚ
  state : SloState
  deriving DecidableEq, Repr

/-- The values one frame of the dashboard shows. -/
structure DashboardView where
  runElapsed : Duration
  counters : LiveSnapshot
  /-- The phase in progress; `none` before the run starts. -/
  phase : Option PhaseView
  latency : LatencyView
  window : WindowView
  /-- Connections the run should have open now; `none` before it starts. -/
  targetConnections : Option ℕ
  /-- The current stage of a staged run or phase. -/
  stage : Option StageView
  throughputHistory : List ℕ
  p99History : List ℕ
  sloScope : SloScope
  slo : List SloRow
  /-- Finished scenario phases, in run order. -/
  finished : List FinishedPhase
  /-- The agents of a distributed run. -/
  agents : Option AgentsView

/-! ## The dashboard's memory

The pieces of `update`, in the order in which it needs them. -/

/-- Points kept for each sparkline. -/
def history : ℕ := 240

/-- How often a throughput point is added to its sparkline. -/
def throughputTick : Duration := Duration.ofMillis 500

/-- The dashboard's memory between refreshes. Its queues have the oldest
entry first. -/
structure Dashboard where
  /-- Counter snapshots of the last few seconds, by run time. -/
  samples : List (Duration × LiveSnapshot) := []
  throughput : List ℕ := []
  lastThroughput : Option (Duration × ℕ) := none
  /-- p99 per completed interval, keyed by (phase, interval index). -/
  p99 : List ((ℕ × ℕ) × ℕ) := []

/-- Adds a point to a sparkline, in place of the oldest one when it is
full. -/
def pushBounded {A : Type} (points : List A) (value : A) : List A :=
  (if history ≤ points.length then points.tail else points) ++ [value]

/-- Drops the samples before the newest one that is at least one interval
old. -/
def dropBefore (now : Duration) (interval : Duration) :
    List (Duration × LiveSnapshot) → List (Duration × LiveSnapshot)
  | first :: second :: third :: rest =>
    if second.1 + interval ≤ now then dropBefore now interval (second :: third :: rest)
    else first :: second :: third :: rest
  | samples => samples

/-- The rates from one reading of the counters to another. -/
def windowBetween (first : Duration × LiveSnapshot) (now : Duration) (counters : LiveSnapshot) :
    WindowView :=
  let secs := Duration.asSecs (now - first.1)
  if secs ≤ 0 then {}
  else
    let errors := counters.totalErrors - first.2.totalErrors
    let sent := counters.messagesSent - first.2.messagesSent
    let received := counters.messagesReceived - first.2.messagesReceived
    let attempted := sent + errors
    { secs
      errors
      errorRate := if 0 < attempted then some ((errors : ℚ) / attempted) else none
      throughput := (max sent received : ℕ) / secs }

/-- Connections the phase should have open `elapsed` after its clock started:
the stage target, the ramp's progress, or every connection. -/
def targetAt (plan : PhasePlan) (elapsed : Duration) : ℕ :=
  if plan.stages ≠ [] then Stage.targetAt plan.stages elapsed
  else if plan.rampRate = 0 then plan.connections
  else
    -- workers start at 0, 1/rate, 2/rate, ...
    min (⌊Duration.asSecs elapsed * plan.rampRate⌋₊ + 1) plan.connections

/-- The stage in progress, among those from number `index` on, of `total`,
which start at `start`. -/
def stageFrom (total : ℕ) (elapsed : Duration) (index : ℕ) (start : Duration) :
    List Stage → Option StageView
  | [] => none
  | stage :: rest =>
    let stop := start + stage.duration
    if elapsed < stop ∨ index + 1 = total then some
      { number := index + 1, total, endTarget := stage.target, left := stop - elapsed }
    else stageFrom total elapsed (index + 1) stop rest

/-- The stage in progress `elapsed` after the start; the last stage once every
stage has ended. -/
def stageAt (stages : List Stage) (elapsed : Duration) : Option StageView :=
  stageFrom stages.length elapsed 0 0 stages

example : stageAt [⟨10, 100⟩, ⟨20, 100⟩, ⟨10, 0⟩] 12 = some ⟨2, 3, 100, 18⟩ := by decide

/-- The row of a latency threshold; a percentile that no interval has is
compared at the end only. -/
def latencyRow (latency : LatencyView) (rttName rtName : String) (limit : Option Duration)
    (live : Option ℕ) : List SloRow :=
  match limit with
  | none => []
  | some limit =>
    let limit := Limit.max (Duration.asMicros limit : ℕ)
    let live : Option ℚ := if latency.hasSamples then live.map (↑) else none
    [{ name := if latency.basis = some "response_time" then rtName else rttName
       threshold := limit, live, state := sloState limit live }]

/-- The thresholds of a phase with their live values. -/
def sloRows (slo : SloThresholds) (latency : LatencyView) (window : WindowView) : List SloRow :=
  latencyRow latency "p50" "rt p50" slo.maxP50 (some latency.p50Us)
    ++ latencyRow latency "p95" "rt p95" slo.maxP95 none
    ++ latencyRow latency "p99" "rt p99" slo.maxP99 (some latency.p99Us)
    ++ latencyRow latency "p99.9" "rt p99.9" slo.maxP999 none
    ++ (slo.maxErrorRate.map fun limit =>
      { name := "errors", threshold := .max limit, live := window.errorRate
        state := sloState (.max limit) window.errorRate }).toList
    ++ (slo.minThroughput.map fun limit =>
      let live := if 0 < window.secs then some window.throughput else none
      { name := "msg/s", threshold := .min limit, live, state := sloState (.min limit) live }).toList

namespace Dashboard

variable (dashboard : Dashboard)

/-- Adds a throughput point when the last one is old enough. -/
def recordThroughput (now : Duration) (counters : LiveSnapshot) : Dashboard :=
  let messages := max counters.messagesSent counters.messagesReceived
  match dashboard.lastThroughput with
  | none => { dashboard with lastThroughput := some (now, messages) }
  | some (at', before) =>
    if at' + throughputTick ≤ now then
      let secs := Duration.asSecs (now - at')
      let rate := ((messages - before : ℕ) : ℚ) / secs
      { dashboard with
        throughput := pushBounded dashboard.throughput ⌊rate + 1 / 2⌋₊
        lastThroughput := some (now, messages) }
    else dashboard

/-- Keeps a reading of the counters, and the ones it is compared with. -/
def keepSample (now : Duration) (counters : LiveSnapshot) (interval : Duration) : Dashboard :=
  { dashboard with
    samples := dropBefore now interval (dashboard.samples ++ [(now, counters)]) }

/-- Counter rates from the oldest reading that is kept. -/
def window (now : Duration) (counters : LiveSnapshot) : WindowView :=
  match dashboard.samples.head? with
  | none => {}
  | some first => windowBetween first now counters

/-- Keeps the p99 of an interval. The interval's samples keep arriving for a
moment after it ends, so the newest point is refreshed until the next interval
ends. -/
def recordP99 (key : ℕ × ℕ) (latency : LatencyView) : Dashboard :=
  let p99 := if latency.hasSamples then latency.p99Us else 0
  match dashboard.p99.getLast? with
  | some (last, _) =>
    if last = key then { dashboard with p99 := dashboard.p99.dropLast ++ [(key, p99)] }
    else { dashboard with p99 := pushBounded dashboard.p99 (key, p99) }
  | none => { dashboard with p99 := pushBounded dashboard.p99 (key, p99) }

end Dashboard

/-- The thresholds that are shown with a phase: the flags of a single run, its
own, or those of the scenario. -/
def PhasePlan.thresholds (plan : PhasePlan) : SloScope × SloThresholds :=
  if plan.name = none then (.run, plan.slo)
  else if plan.slo ≠ {} then (.phase, plan.slo)
  else (.scenario, plan.runSlo)

namespace DashboardSource

variable (source : DashboardSource)

/-- The length of an interval of the phase whose clock is registered. -/
def interval : Duration := source.phaseClock.elim (Duration.ofSecs 1) PhaseClock.interval

/-- The clock of the phase that was announced: the one registered may still be
the previous phase's while the next one resolves its target. -/
def currentClock : Option PhaseClock :=
  source.phaseClock.filter fun clock =>
    source.progress.current.all fun plan => clock.seq = plan.index

/-- The phase in progress. -/
def phaseView : Option PhaseView :=
  source.progress.current.map fun plan =>
    { name := plan.name
      number := plan.index + 1
      total := plan.total
      elapsed := source.currentClock.elim 0 PhaseClock.elapsed
      duration := plan.duration
      starting := source.currentClock.isNone }

/-- The last interval that is over, when it is one of the phase shown. -/
def completed : Option CompletedInterval := do
  let clock ← source.currentClock
  source.lastInterval.filter fun completed => completed.phase = clock.seq

/-- The latency shown. -/
def latencyView : LatencyView :=
  match source.completed with
  | none => { basis := source.currentClock.map PhaseClock.basis, interval := source.interval }
  | some completed => .ofInterval completed.basis source.interval completed.latency

/-- How many connections the phase should have, and its stage. -/
def target : Option ℕ × Option StageView :=
  match source.progress.current, source.currentClock with
  | some plan, some clock =>
    if clock.ended then (none, none)
    else (some (targetAt plan clock.elapsed), stageAt plan.stages clock.elapsed)
  | _, _ => (none, none)

/-- Which thresholds are shown. -/
def thresholds : SloScope × SloThresholds :=
  source.progress.current.elim (.run, {}) PhasePlan.thresholds

end DashboardSource

/-- Reads `source` once: the frame to draw, and what is kept. -/
def Dashboard.update (dashboard : Dashboard) (source : DashboardSource) :
    DashboardView × Dashboard :=
  let dashboard := dashboard.recordThroughput source.runElapsed source.counters
  let dashboard := dashboard.keepSample source.runElapsed source.counters source.interval
  let window := dashboard.window source.runElapsed source.counters
  let latency := source.latencyView
  let dashboard := match source.completed with
    | none => dashboard
    | some completed => dashboard.recordP99 (completed.phase, completed.index) latency
  let (sloScope, thresholds) := source.thresholds
  ({ runElapsed := source.runElapsed
     counters := source.counters
     phase := source.phaseView
     latency
     window
     targetConnections := source.target.1
     stage := source.target.2
     throughputHistory := dashboard.throughput
     p99History := dashboard.p99.map Prod.snd
     sloScope
     slo := sloRows thresholds latency window
     finished := source.progress.finished
     agents := source.agents }, dashboard)

end WsBlast
