import WsBlast.Phase
import WsBlast.Slots

/-!
# A scenario on one machine and on several

`ScenarioExecutor.run` adds up the outcomes of the phases one machine ran.
`Coordinator.mergeScenario` does the same with the results of several agents:
it merges every phase over its agents and then the phases. The two loops are
written apart, and follow different rules for every field: totals, elapsed
times and slots are summed, arrivals keep the rate of the first phase and the
highest peak, compression appears with the first phase that has it, the seed
is the one of the first phase that injected faults.

The counts of slots that a run reports fit together (`Accounted`), which
`Slots` shows of every run that has ended; the outcome of a run and the result
of an agent carry that.

Both sides are given what was measured. `RunOutcome` is what the runner hands
over for one phase on one machine, `AgentResult` what an agent sends for its
part of a phase; they are equal to what was run, as far as this module knows,
and the theorems of `OneMachine` compare the two ways of adding them up. How an
outcome comes about is the subject of the modules on workers.
-/

namespace WsBlast

/-! ## Slots that add up

What every run is known to satisfy, stated for totals and two numbers. -/

/-- Slot counts that add up: the handshakes are those of the established slots
and the reconnects, and every slot of the run is established, failed,
interrupted or not started. -/
def AccountedCounts (handshakes reconnects interrupted connections notStarted : ℕ) : Prop :=
  ∃ established failed, handshakes = established + reconnects
    ∧ connections = established + failed + interrupted + notStarted

/-- Totals whose slots add up. -/
def Accounted (totals : MetricsTotals) (connections notStarted : ℕ) : Prop :=
  AccountedCounts totals.handshake.total totals.reconnects totals.interrupted connections
    notStarted

/-! ## Outcomes

The records of the source, with what their functions read. -/

/-- What was measured in a run, with its slots accounted for. -/
structure Measured where
  totals : MetricsTotals
  elapsed : Duration
  /-- Connection slots the run was to open. -/
  connections : ℕ
  /-- Slots the ramp had not reached when the run ended. -/
  notStarted : ℕ
  accounted : Accounted totals connections notStarted

/-- What one pass of the runner produced. -/
structure RunOutcome extends Measured where
  arrivals : Option ArrivalCounts
  compression : Option CompressionCounts
  startedAt : Instant
  timeSeries : TimeSeries
  lag : LagTotals

/-- One phase of a scenario's report. -/
structure PhaseResult where
  name : String
  targetUrl : String
  connections : ℕ
  stages : List Stage
  slo : SloEvaluation
  metrics : ReportMetrics

/-- What a scenario produced. -/
structure ScenarioOutcome where
  metrics : ReportMetrics
  /-- The target of each phase that ran, under the phase's name. -/
  phaseTargets : List (String × String)
  phases : List PhaseResult
  slo : SloEvaluation

/-- A compiled scenario: its phases, each with a target, and its
thresholds. -/
structure ScenarioPlan where
  phases : List CompiledPhase
  targets : List String
  resolved : targets.length = phases.length
  slo : SloThresholds
  actionSlos : List ActionSlo

namespace ScenarioPlan

/-- The phases with their targets. -/
def targeted (plan : ScenarioPlan) : List (CompiledPhase × String) := plan.phases.zip plan.targets

/-- The target of a phase. -/
def target (plan : ScenarioPlan) (index : Fin plan.phases.length) : String :=
  plan.targets.get (index.cast plan.resolved.symm)

end ScenarioPlan

/-- The open file limit against what some connections need: one descriptor
each and 64 more. There is none where the limit cannot be read. -/
def openFileLimit (softLimit : Option ℕ) (requiredConns : ℕ) : Option OpenFileLimit :=
  softLimit.map fun softLimit =>
    let needed := saturate (requiredConns + 64)
    { softLimit, needed, sufficient := needed ≤ softLimit }

/-- Adds the arrivals of a phase to the scenario's. -/
def addArrivals (all phase : Option ArrivalSummary) : Option ArrivalSummary :=
  match phase, all with
  | none, all => all
  | some phase, some all => some (all.addPhase phase)
  | some phase, none => some phase

/-- Adds what compression did in a phase to the scenario's. -/
def addCompression (all phase : Option CompressionSummary) : Option CompressionSummary :=
  match phase with
  | none => all
  | some phase => some ((all.getD {}).add phase)

/-! ## On one machine

The loop adds phase after phase and builds the results in passing; the metrics
of the scenario are made of the sums at the end. -/

/-- What the loop over the phases has added up. -/
structure ScenarioTotals where
  totals : MetricsTotals := .new
  phases : List PhaseResult := []
  elapsed : Duration := 0
  connections : ℕ := 0
  notStarted : ℕ := 0
  timeSeries : TimeSeries := {}
  lag : LagTotals := {}
  largestPhase : ℕ := 0
  arrivals : Option ArrivalSummary := none
  compression : Option CompressionSummary := none
  phaseTargets : List (String × String) := []

/-- The metrics of one phase. -/
def RunOutcome.phaseMetrics (outcome : RunOutcome) (softLimit : Option ℕ)
    (phase : CompiledPhase) : ReportMetrics :=
  outcome.totals.report outcome.elapsed outcome.connections outcome.notStarted
    |>.withTimeSeries outcome.timeSeries
    |>.withArrivals phase.arrivals outcome.arrivals
    |>.withCompression outcome.compression
    |>.withGenerator outcome.lag.summary (openFileLimit softLimit phase.connections)

/-- The executor of a scenario on one machine. -/
structure ScenarioExecutor where
  plan : ScenarioPlan
  /-- The thresholds of the command line. -/
  slo : SloThresholds
  /-- The process's soft limit on open files. -/
  softLimit : Option ℕ

namespace ScenarioExecutor

variable (executor : ScenarioExecutor)

/-- Adds a phase that ran, in a scenario that started at `start`. -/
def addPhase (start : Instant) (all : ScenarioTotals)
    (ran : (CompiledPhase × String) × RunOutcome) : ScenarioTotals :=
  let phase := ran.1.1
  let target := ran.1.2
  let outcome := ran.2
  let metrics := outcome.phaseMetrics executor.softLimit phase
  { totals := all.totals.add outcome.totals
    phases := all.phases ++
      [{ name := phase.name, targetUrl := target, connections := phase.connections,
         stages := phase.stages, slo := evaluateSlos phase.slo metrics, metrics }]
    elapsed := all.elapsed + outcome.elapsed
    connections := all.connections + outcome.connections
    notStarted := all.notStarted + outcome.notStarted
    timeSeries := all.timeSeries.append outcome.timeSeries (outcome.startedAt - start)
    lag := all.lag.add outcome.lag
    largestPhase := max all.largestPhase phase.connections
    arrivals := addArrivals all.arrivals metrics.arrivals
    compression := addCompression all.compression metrics.compression
    phaseTargets := all.phaseTargets ++ [(phase.name, target)] }

/-- The phases that ran: those that have an outcome. A cancelled scenario
skips the rest. -/
def ran (outcomes : List RunOutcome) : List ((CompiledPhase × String) × RunOutcome) :=
  executor.plan.targeted.zip outcomes

/-- The loop over the phases. -/
def runPhases (start : Instant) (outcomes : List RunOutcome) : ScenarioTotals :=
  (executor.ran outcomes).foldl (executor.addPhase start) {}

/-- **A scenario on one machine**, given the outcome of every phase that
ran. -/
def run (start : Instant) (outcomes : List RunOutcome) : ScenarioOutcome :=
  let all := executor.runPhases start outcomes
  let metrics := all.totals.report all.elapsed all.connections all.notStarted
    |>.withTimeSeries all.timeSeries
    |>.withGenerator all.lag.summary (openFileLimit executor.softLimit all.largestPhase)
  let metrics := { metrics with arrivals := all.arrivals, compression := all.compression }
  let overall := evaluateSlos (executor.slo.orFrom executor.plan.slo) metrics
  let slo := scenarioSloEvaluation overall (all.phases.map fun phase => (phase.name, phase.slo))
  let slo := withActionSlos slo executor.plan.actionSlos metrics
  { metrics, phaseTargets := all.phaseTargets, phases := all.phases, slo }

end ScenarioExecutor

/-! ## On several machines

The coordinator has two loops, one inside the other: agents of a phase, and
phases. -/

/-- An agent's result, decoded and ready to merge. -/
structure AgentResult extends Measured where
  startedAtUnixMs : ℕ
  series : TimeSeries.SeriesPart
  lag : LagTotals
  openFileLimit : Option OpenFileLimit
  arrivals : Option ArrivalCounts
  compression : Option CompressionCounts

/-- What became of one agent in a phase. -/
inductive AgentPart where
  /-- It was lost before the phase, or failed its barrier. -/
  | absent
  | finished (result : AgentResult)
  | lost (reason : String)

/-- The result of an agent that finished. -/
def AgentPart.result? : AgentPart → Option AgentResult
  | finished result => some result
  | _ => none

/-- A phase that ran on some number of agents: one part for each, and the time
of the last result when there is one. -/
structure PhaseRun (agents : ℕ) where
  start : Instant
  parts : List AgentPart
  onePart : parts.length = agents
  /-- When the last result arrived. -/
  lastResult : Option Instant
  arrived : lastResult.isSome = parts.any fun part => part.result?.isSome
  /-- The seed of the phase's chaos decisions; `none` without chaos. -/
  chaosSeed : Option UInt64
  /-- Agents inject faults only when the phase does. -/
  seeded : ∀ result ∈ parts.filterMap AgentPart.result?,
    result.totals.chaos.isSome → chaosSeed.isSome

namespace PhaseRun

variable {agents : ℕ} (run : PhaseRun agents)

/-- The results of the agents that finished. -/
def results : List AgentResult := run.parts.filterMap AgentPart.result?

/-- From the start of a phase to its last result. -/
def elapsed : Duration := run.lastResult.getD run.start - run.start

end PhaseRun

/-- One agent's part of a distributed run. -/
structure AgentOutcome where
  address : String
  /-- The agent's own metrics; `none` when it was lost. -/
  metrics : Option ReportMetrics
  /-- Why it was lost. -/
  error : Option String
  startedAtUnixMs : Option ℕ

/-- The generator health of a distributed run, from its agents'. -/
structure GeneratorHealth where
  /-- The highest lag, and the agent that has it. -/
  lag : Option (String × GeneratorLag) := none
  /-- The tightest limit on open files, and the agent that has it. -/
  files : Option (String × OpenFileLimit) := none

namespace GeneratorHealth

/-- The descriptors a limit leaves to spare. -/
def headroom (limit : OpenFileLimit) : ℤ := limit.softLimit - limit.needed

/-- Whether a lag is higher than the one held. -/
def worse (own : GeneratorLag) (held : Option (String × GeneratorLag)) : Bool :=
  match held with
  | none => true
  | some (_, worst) => worst.p99Us < own.p99Us || (worst.p99Us = own.p99Us && worst.maxUs < own.maxUs)

/-- Whether a limit is tighter than the one held. -/
def tighter (own : OpenFileLimit) (held : Option (String × OpenFileLimit)) : Bool :=
  match held with
  | none => true
  | some (_, tightest) => headroom own < headroom tightest

/-- Looks at the health of one more agent. -/
def look (health : GeneratorHealth) (agent : AgentGenerator) : GeneratorHealth where
  lag :=
    match agent.generatorLag with
    | some own => if worse own health.lag then some (agent.agent, own) else health.lag
    | none => health.lag
  files :=
    match agent.openFileLimit with
    | some own => if tighter own health.files then some (agent.agent, own) else health.files
    | none => health.files

/-- The health of a run: the agent with the highest p99 lag, flagged when any
agent's generator was, and the agent with the fewest descriptors to
spare. -/
def of (generators : List AgentGenerator) : GeneratorHealth :=
  let health := generators.foldl look {}
  let saturated := generators.any fun agent => agent.generatorLag.any (·.saturated)
  { health with lag := health.lag.map fun worst => (worst.1, { worst.2 with saturated }) }

/-- Attaches the run's lag and open file limit to its metrics. -/
def apply (health : GeneratorHealth) (metrics : ReportMetrics) : ReportMetrics :=
  metrics.withGenerator (health.lag.map Prod.snd) (health.files.map Prod.snd)

end GeneratorHealth

/-- The coordinator of a distributed scenario, on at least one agent. -/
structure Coordinator where
  /-- The agents as given. -/
  agents : List String
  someAgent : agents ≠ []
  plan : ScenarioPlan
  /-- The thresholds of the command line. -/
  slo : SloThresholds

/-- The agents of a run, the ones lost in it and the generator health of the
others, and the run's own generator health from theirs. -/
def distributedSummary (agents : List AgentOutcome) : DistributedSummary × GeneratorHealth :=
  let generators := agents.filterMap fun agent => agent.metrics.map fun metrics =>
    { agent := agent.address
      generatorLag := metrics.generatorLag
      openFileLimit := metrics.openFileLimit : AgentGenerator }
  let health := GeneratorHealth.of generators
  ({ agents := agents.map AgentOutcome.address
     lostAgents := (agents.filter fun agent => agent.metrics.isNone).map AgentOutcome.address
     generatorLagAgent := health.lag.map Prod.fst
     openFileLimitAgent := health.files.map Prod.fst
     generators }, health)

/-! ### One phase

The agents of a phase in the order in which they were given. -/

/-- What the loop over the agents of a phase has added up. -/
structure PhaseTotals where
  totals : MetricsTotals := .new
  arrivals : Option ArrivalCounts := none
  compression : Option CompressionCounts := none
  parts : List TimeSeries.SeriesPart := []
  connections : ℕ := 0
  notStarted : ℕ := 0
  agents : List AgentOutcome := []

/-- Adds the counts of one more agent, if it has any. -/
def addArrivalCounts (sum : Option ArrivalCounts) (counts : Option ArrivalCounts) :
    Option ArrivalCounts :=
  match counts with
  | none => sum
  | some counts => some ((sum.getD {}).add counts)

/-- Adds the counts of one more agent, if it has any. -/
def addCompressionCounts (sum : Option CompressionCounts) (counts : Option CompressionCounts) :
    Option CompressionCounts :=
  match counts with
  | none => sum
  | some counts => some ((sum.getD {}).add counts)

namespace Coordinator

/-- An agent's own metrics of a phase. -/
def ownMetrics (result : AgentResult) : ReportMetrics :=
  result.totals.report result.elapsed result.connections result.notStarted
    |>.withTimeSeries result.series.series
    |>.withGenerator result.lag.summary result.openFileLimit

/-- Adds one agent's part of a phase. -/
def addPart (sum : PhaseTotals) (part : String × AgentPart) : PhaseTotals :=
  match part with
  | (address, .finished result) =>
    { totals := sum.totals.add result.totals
      arrivals := addArrivalCounts sum.arrivals result.arrivals
      compression := addCompressionCounts sum.compression result.compression
      parts := sum.parts ++ [result.series]
      connections := sum.connections + result.connections
      notStarted := sum.notStarted + result.notStarted
      agents := sum.agents ++ [⟨address, some (ownMetrics result), none,
        some result.startedAtUnixMs⟩] }
  | (address, .lost reason) =>
    { sum with agents := sum.agents ++ [⟨address, none, some reason, none⟩] }
  | (address, .absent) =>
    { sum with agents := sum.agents ++ [⟨address, none, some "lost in an earlier phase", none⟩] }

variable (coordinator : Coordinator)

/-- A phase that ran on the coordinator's agents. -/
abbrev Ran : Type := PhaseRun coordinator.agents.length

/-- What the agents of a phase add up to. -/
def phaseTotals (run : coordinator.Ran) : PhaseTotals :=
  (coordinator.agents.zip run.parts).foldl addPart {}

/-- A phase's metrics, measured from its start to its last result, and every
agent's own. -/
def phaseOutcome (run : coordinator.Ran) (arrivals : Option Arrivals) (lastResult : Instant) :
    ReportMetrics × List AgentOutcome :=
  let sum := coordinator.phaseTotals run
  let metrics := sum.totals.report (lastResult - run.start) sum.connections sum.notStarted
    |>.withTimeSeries (TimeSeries.mergeParallel sum.parts)
    |>.withArrivals arrivals sum.arrivals
    |>.withCompression sum.compression
    -- the agents' seeds were derived from the run's, which is the one that
    -- repeats the run
    |>.withChaosSeed run.chaosSeed
  let summary := distributedSummary sum.agents
  ((summary.2.apply metrics).withDistributed summary.1, sum.agents)

/-- Merges the results of one phase. Without any there is nothing to
report. -/
def mergePhase (run : coordinator.Ran) (arrivals : Option Arrivals) :
    Except String (ReportMetrics × List AgentOutcome) :=
  match run.lastResult with
  | none =>
    let reasons := (coordinator.phaseTotals run).agents.map fun agent =>
      "agent " ++ agent.address ++ ": " ++ agent.error.getD "lost"
    .error ("every agent was lost, so there is nothing to report: " ++ "; ".intercalate reasons)
  | some lastResult => .ok (coordinator.phaseOutcome run arrivals lastResult)

end Coordinator

/-! ### All phases

Two sums are kept at once: the scenario's, and one for every agent over the
phases it ran. -/

/-- One agent's results added up over the phases of a scenario. -/
structure AgentTotals where
  totals : MetricsTotals := .new
  elapsed : Duration := 0
  connections : ℕ := 0
  notStarted : ℕ := 0
  series : TimeSeries := {}
  lag : LagTotals := {}
  /-- The limit of the agent's largest share of a phase. -/
  openFileLimit : Option OpenFileLimit := none

namespace AgentTotals

/-- The larger of the limit held and the one of a phase. -/
def larger (held limit : Option OpenFileLimit) : Option OpenFileLimit :=
  match limit with
  | none => held
  | some limit => if held.all fun largest => largest.needed < limit.needed then some limit else held

/-- Adds the agent's result of a phase that started `offset` after the
scenario. -/
def add (own : AgentTotals) (result : AgentResult) (offset : Duration) : AgentTotals where
  totals := own.totals.add result.totals
  elapsed := own.elapsed + result.elapsed
  connections := own.connections + result.connections
  notStarted := own.notStarted + result.notStarted
  series := own.series.append result.series.series offset
  lag := own.lag.add result.lag
  openFileLimit := larger own.openFileLimit result.openFileLimit

/-- The agent's own metrics over the whole scenario. -/
def metrics (own : AgentTotals) : ReportMetrics :=
  own.totals.report own.elapsed own.connections own.notStarted
    |>.withTimeSeries own.series
    |>.withGenerator own.lag.summary own.openFileLimit

end AgentTotals

/-- What the loop over the phases has added up; the last two lists have an
entry for each agent. -/
structure MergedPhases where
  totals : MetricsTotals := .new
  elapsed : Duration := 0
  connections : ℕ := 0
  notStarted : ℕ := 0
  timeSeries : TimeSeries := {}
  phases : List PhaseResult := []
  phaseTargets : List (String × String) := []
  phaseAgents : List (List AgentOutcome) := []
  firstChaosSeed : Option UInt64 := none
  arrivals : Option ArrivalSummary := none
  compression : Option CompressionSummary := none
  perAgent : List (Option AgentTotals)
  startedAt : List (Option ℕ)

/-- What a distributed scenario produced. -/
structure DistributedScenarioOutcome where
  scenario : ScenarioOutcome
  /-- Every agent over the whole scenario. -/
  agents : List AgentOutcome
  /-- Every agent's part of every phase. -/
  phases : List (List AgentOutcome)

namespace Coordinator

/-- Adds the part of the agent at `slot` to the scenario's totals and to the
agent's own. -/
def addAgentPart (offset : Duration) (all : MergedPhases) (part : AgentPart × ℕ) : MergedPhases :=
  match part with
  | (.finished result, slot) =>
    { all with
      totals := all.totals.add result.totals
      startedAt := all.startedAt.modify slot fun held => held.or (some result.startedAtUnixMs)
      perAgent := all.perAgent.modify slot fun own => some ((own.getD {}).add result offset) }
  | _ => all

variable (coordinator : Coordinator)

/-- A phase that ran, with its place in the scenario. -/
abbrev RanPhase : Type := Fin coordinator.plan.phases.length × coordinator.Ran

/-- Adds a merged phase, of a scenario that started at `start`. -/
def addMerged (start : Instant) (all : MergedPhases) (ran : coordinator.RanPhase)
    (merged : ReportMetrics × List AgentOutcome) : MergedPhases :=
  let phase := coordinator.plan.phases.get ran.1
  let target := coordinator.plan.target ran.1
  let run := ran.2
  let metrics := merged.1
  let offset := run.start - start
  let all := run.parts.zipIdx.foldl (addAgentPart offset) all
  { all with
    arrivals := addArrivals all.arrivals metrics.arrivals
    compression := addCompression all.compression metrics.compression
    firstChaosSeed := all.firstChaosSeed.or (metrics.chaos.map ChaosSummary.seed)
    elapsed := all.elapsed + metrics.elapsed
    connections := all.connections + metrics.totalConnectionsAttempted
    notStarted := all.notStarted + metrics.totalConnectionsNotStarted
    timeSeries := all.timeSeries.append metrics.timeSeries offset
    phaseTargets := all.phaseTargets ++ [(phase.name, target)]
    phases := all.phases ++
      [{ name := phase.name, targetUrl := target, connections := phase.connections,
         stages := phase.stages, slo := evaluateSlos phase.slo metrics, metrics }]
    phaseAgents := all.phaseAgents ++ [merged.2] }

/-- Merges one more phase. -/
def mergeNext (start : Instant) (all : MergedPhases) (ran : coordinator.RanPhase) :
    Except String MergedPhases := do
  let merged ← coordinator.mergePhase ran.2 (coordinator.plan.phases.get ran.1).arrivals
  pure (coordinator.addMerged start all ran merged)

/-- When the scenario started: with its first phase. -/
def scenarioStart (now : Instant) (runs : List coordinator.RanPhase) : Instant :=
  (runs.head?.map fun ran => ran.2.start).getD now

/-- The loop over the phases. -/
def mergePhases (now : Instant) (runs : List coordinator.RanPhase) :
    Except String MergedPhases :=
  runs.foldlM (coordinator.mergeNext (coordinator.scenarioStart now runs))
    { perAgent := List.replicate coordinator.agents.length none
      startedAt := List.replicate coordinator.agents.length none }

/-- An agent over the whole scenario. One lost in any phase is lost for all of
it. -/
def agentOutcome (all : MergedPhases) (lost : List (Option String)) (agent : String × ℕ) :
    AgentOutcome :=
  let startedAt := (all.startedAt[agent.2]?).join
  match (lost[agent.2]?).join, (all.perAgent[agent.2]?).join with
  | none, some own => ⟨agent.1, some own.metrics, none, startedAt⟩
  | reason, _ => ⟨agent.1, none, some (reason.getD "lost"), startedAt⟩

/-- The outcome of the phases merged in `all`. -/
def scenarioOutcome (all : MergedPhases) (lost : List (Option String)) :
    DistributedScenarioOutcome :=
  let agents := coordinator.agents.zipIdx.map (agentOutcome all lost)
  let summary := distributedSummary agents
  let metrics := summary.2.apply (all.totals.report all.elapsed all.connections all.notStarted
    |>.withTimeSeries all.timeSeries) |>.withDistributed summary.1
  let metrics := { metrics with arrivals := all.arrivals, compression := all.compression }
  let metrics := metrics.withChaosSeed all.firstChaosSeed
  let overall := evaluateSlos (coordinator.slo.orFrom coordinator.plan.slo) metrics
  let slo := scenarioSloEvaluation overall (all.phases.map fun phase => (phase.name, phase.slo))
  let slo := withActionSlos slo coordinator.plan.actionSlos metrics
  { scenario := { metrics, phaseTargets := all.phaseTargets, phases := all.phases, slo }
    agents
    phases := all.phaseAgents }

/-- **A scenario on several machines**: merges every phase that ran into the
scenario's outcome. `lost` says why each agent was lost, if it was. -/
def mergeScenario (now : Instant) (runs : List coordinator.RanPhase)
    (lost : List (Option String)) : Except String DistributedScenarioOutcome := do
  let all ← coordinator.mergePhases now runs
  pure (coordinator.scenarioOutcome all lost)

end Coordinator

end WsBlast
