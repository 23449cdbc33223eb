import WsBlast.Outcome

/-!
# SLO thresholds and their checks

A run is gated by thresholds on the command line, on the scenario, on each
phase and on named actions. `evaluateSlos` checks the thresholds of one level
on the metrics of that level, `scenarioSloEvaluation` adds the checks of the
phases and `withActionSlos` those of the actions.

Each of them adds checks one by one to an evaluation and keeps its verdict
(`SloEvaluation.push`). What comes out is described by the thresholds that are
set (`SloThresholds.toList`): one check for each of them, in their order, and
a verdict that is the conjunction of the checks.

The four levels follow the same rules with three exceptions, and the exceptions
are in the code on purpose. A phase without samples fails its latency budgets
instead of passing them. An action has no throughput and no generator of its
own, so only latency and error rate can be asked of it. And the error rate of
an action is checked only when the action did something; an action that sent
nothing and failed nothing fails.
-/

namespace WsBlast

/-! ## Texts

Durations and percentages as they stand in a check. -/

/-- A number, with zeros in front up to a width. -/
def padZeros (width n : ℕ) : String :=
  let digits := toString n
  String.ofList (List.replicate (width - digits.length) '0') ++ digits

/-- A whole part and a fraction of `width` digits, without the zeros at its
end. -/
def debugDecimal (whole fraction width : ℕ) (suffix : String) : String :=
  let digits := (padZeros width fraction).toList.reverse.dropWhile (· = '0')
  let fraction := if digits = [] then "" else "." ++ String.ofList digits.reverse
  toString whole ++ fraction ++ suffix

/-- A duration as Rust's `Debug` prints it: in the largest unit in which its
whole part is not zero. -/
def Duration.debug (d : Duration) : String :=
  if 1000000000 ≤ d then debugDecimal (d / 1000000000) (d % 1000000000) 9 "s"
  else if 1000000 ≤ d then debugDecimal (d / 1000000) (d % 1000000) 6 "ms"
  else if 1000 ≤ d then debugDecimal (d / 1000) (d % 1000) 3 "µs"
  else debugDecimal d 0 0 "ns"

example : Duration.debug (Duration.ofMillis 1500) = "1.5s" := by decide +kernel

/-- The nearest whole number, and the even one of two that are as near. -/
def roundHalfEven (q : ℚ) : ℕ :=
  let floor := ⌊q⌋.toNat
  let rest := q - floor
  if rest < 1 / 2 then floor
  else if 1 / 2 < rest then floor + 1
  else if floor % 2 = 0 then floor else floor + 1

/-- A number with a fixed number of digits after the point. -/
def toFixed (digits : ℕ) (q : ℚ) : String :=
  let n := roundHalfEven (|q| * 10 ^ digits)
  (if q < 0 then "-" else "") ++ toString (n / 10 ^ digits) ++ "."
    ++ padZeros digits (n % 10 ^ digits)

example : toFixed 2 (1 / 8) = "0.12" := by decide +kernel

/-! ## Thresholds -/

/-- The thresholds of one level; each may be missing. -/
@[ext]
structure SloThresholds where
  maxP50 : Option Duration := none
  maxP95 : Option Duration := none
  maxP99 : Option Duration := none
  maxP999 : Option Duration := none
  maxErrorRate : Option ℚ := none
  minThroughput : Option ℚ := none
  maxGeneratorLag : Option Duration := none
  deriving DecidableEq

/-- These thresholds, each one that is missing taken from `fallback`. -/
def SloThresholds.orFrom (slo fallback : SloThresholds) : SloThresholds where
  maxP50 := slo.maxP50.or fallback.maxP50
  maxP95 := slo.maxP95.or fallback.maxP95
  maxP99 := slo.maxP99.or fallback.maxP99
  maxP999 := slo.maxP999.or fallback.maxP999
  maxErrorRate := slo.maxErrorRate.or fallback.maxErrorRate
  minThroughput := slo.minThroughput.or fallback.minThroughput
  maxGeneratorLag := slo.maxGeneratorLag.or fallback.maxGeneratorLag

/-- The thresholds of a named action, which are on latency and errors only:
`ScenarioConfig::action_slos` rejects the others. -/
structure ActionSlo where
  name : String
  slo : SloThresholds
  noThroughput : slo.minThroughput = none
  noGeneratorLag : slo.maxGeneratorLag = none

/-! ## Checks

An evaluation grows by `push` and `pushIf`, which keep the verdict. -/

/-- One check of a threshold. -/
@[ext]
structure SloCheck where
  name : String
  target : String
  actual : String
  passed : Bool
  deriving DecidableEq, Repr

/-- The checks of a run, and whether it passes. -/
@[ext]
structure SloEvaluation where
  passed : Bool
  checks : List SloCheck
  deriving DecidableEq, Repr

namespace SloEvaluation

/-- An evaluation without a check. -/
def empty : SloEvaluation := ⟨true, []⟩

/-- Adds a check. -/
def push (evaluation : SloEvaluation) (check : SloCheck) : SloEvaluation where
  passed := evaluation.passed && check.passed
  checks := evaluation.checks ++ [check]

/-- Adds the check of a threshold, when it is set. -/
def pushIf {T : Type} (evaluation : SloEvaluation) (target : Option T) (check : T → SloCheck) :
    SloEvaluation :=
  match target with
  | none => evaluation
  | some target => evaluation.push (check target)

end SloEvaluation

/-- A latency check. A budget cannot pass without evidence: without a sample
it fails. -/
def latencyCheck (name : String) (target actual : Duration) (samples : ℕ) : SloCheck :=
  if samples = 0 then ⟨name, "<= " ++ target.debug, "no RTT samples", false⟩
  else ⟨name, "<= " ++ target.debug, actual.debug, decide (actual ≤ target)⟩

namespace LatencyStats

/-- A number of microseconds as a duration. -/
def ofMicros (micros : ℕ) : Duration := micros * 1000

variable (stats : LatencyStats)

/-- The median, -/
def p50Duration : Duration := ofMicros stats.p50Us
/-- the 95th percentile, -/
def p95Duration : Duration := ofMicros stats.p95Us
/-- the 99th -/
def p99Duration : Duration := ofMicros stats.p99Us
/-- and the 99.9th, as durations. -/
def p999Duration : Duration := ofMicros stats.p999Us

/-- The summary of no sample. -/
def empty : LatencyStats := fromHistogram 0

end LatencyStats

/-- The checks of the four latency thresholds, on `stats`. -/
def latencyChecks (evaluation : SloEvaluation) (slo : SloThresholds) (basis : String)
    (stats : LatencyStats) : SloEvaluation :=
  evaluation
    |>.pushIf slo.maxP50 (latencyCheck (basis ++ " p50") · stats.p50Duration stats.count)
    |>.pushIf slo.maxP95 (latencyCheck (basis ++ " p95") · stats.p95Duration stats.count)
    |>.pushIf slo.maxP99 (latencyCheck (basis ++ " p99") · stats.p99Duration stats.count)
    |>.pushIf slo.maxP999 (latencyCheck (basis ++ " p99.9") · stats.p999Duration stats.count)

namespace ReportMetrics

variable (metrics : ReportMetrics)

/-- The latency a run is gated on: response time when it was recorded, which
counts the time a request waited behind a slow reply, and RTT otherwise. -/
def gated : LatencyStats :=
  if 0 < metrics.responseTime.count then metrics.responseTime else metrics.messageRtt

/-- What a run's latency checks are called. -/
def basis : String := if 0 < metrics.responseTime.count then "Response time" else "Latency"

end ReportMetrics

/-- A percentage with two digits. -/
def percent (rate : ℚ) : String := toFixed 2 (rate * 100) ++ "%"

/-- A check of an error rate, with both sides as percentages. -/
def errorRateCheck (name : String) (max rate : ℚ) : SloCheck :=
  ⟨name, "<= " ++ percent max, percent rate, decide (rate ≤ max)⟩

/-- A check of the generator's lag; without a sample it fails, as a latency
check does. -/
def generatorLagCheck (lag : Option GeneratorLag) (max : Duration) : SloCheck :=
  match lag with
  | some lag => ⟨"Generator lag p99", "<= " ++ max.debug,
      (LatencyStats.ofMicros lag.p99Us).debug, decide (LatencyStats.ofMicros lag.p99Us ≤ max)⟩
  | none => ⟨"Generator lag p99", "<= " ++ max.debug, "no lag samples", false⟩

/-- A check of the throughput, the one check with a lower bound. -/
def throughputCheck (throughput min : ℚ) : SloCheck :=
  ⟨"Throughput (msg/s)", ">= " ++ toFixed 1 min, toFixed 1 throughput,
    decide (min ≤ throughput)⟩

/-- Checks the thresholds of one level on its metrics. -/
def evaluateSlos (slo : SloThresholds) (metrics : ReportMetrics) : SloEvaluation :=
  latencyChecks .empty slo metrics.basis metrics.gated
    |>.pushIf slo.maxErrorRate (errorRateCheck "Error Rate" · metrics.errorRate)
    |>.pushIf slo.maxGeneratorLag (generatorLagCheck metrics.generatorLag)
    |>.pushIf slo.minThroughput (throughputCheck metrics.throughputMsgPerSec)

/-- Combines the evaluation of the whole scenario with each phase's own, whose
check names are prefixed with the phase name. -/
def scenarioSloEvaluation (overall : SloEvaluation) (phases : List (String × SloEvaluation)) :
    SloEvaluation :=
  phases.foldl (fun combined phase =>
    { passed := combined.passed && phase.2.passed
      checks := combined.checks ++ phase.2.checks.map fun check =>
        { check with name := phase.1 ++ ": " ++ check.name } }) overall

namespace ActionMetrics

/-- The distribution SLOs use: response time when the action recorded it, RTT
otherwise. -/
def latency (action : ActionMetrics) : LatencyStats :=
  if 0 < action.responseTime.count then action.responseTime else action.messageRtt

/-- The latency an action's thresholds are checked on; empty for a name
without messages. -/
def gated (action : Option ActionMetrics) : LatencyStats :=
  match action with
  | some action => action.latency
  | none => .empty

/-- What the latency checks of an action are about. -/
def basis (action : Option ActionMetrics) : String :=
  if 0 < (gated action).count ∧ action.any fun action => 0 < action.responseTime.count then
    "response time"
  else "latency"

end ActionMetrics

/-- The check of an action's error rate. -/
def actionErrorCheck (name : String) (action : Option ActionMetrics) (max : ℚ) : SloCheck :=
  let name := "Action " ++ name ++ ": error rate"
  match action.filter fun action => 0 < action.messagesSent ∨ 0 < action.errors with
  | some action => errorRateCheck name max action.errorRate
  | none => ⟨name, "<= " ++ percent max, "no messages", false⟩

/-- The metrics of the action with a name. -/
def ReportMetrics.action (metrics : ReportMetrics) (name : String) : Option ActionMetrics :=
  metrics.actions.find? fun action => action.name = name

/-- Adds the checks of one named action. -/
def actionChecks (metrics : ReportMetrics) (evaluation : SloEvaluation) (slo : ActionSlo) :
    SloEvaluation :=
  let action := metrics.action slo.name
  latencyChecks evaluation slo.slo ("Action " ++ slo.name ++ ": " ++ ActionMetrics.basis action)
      (ActionMetrics.gated action)
    |>.pushIf slo.slo.maxErrorRate (actionErrorCheck slo.name action)

/-- Adds the checks of the named actions' SLOs to a scenario's evaluation. -/
def withActionSlos (evaluation : SloEvaluation) (slos : List ActionSlo)
    (metrics : ReportMetrics) : SloEvaluation :=
  slos.foldl (actionChecks metrics) evaluation

/-! ## One check per threshold

The specification: the list of thresholds that are set, in the order of their
checks, and for each of them one check. -/

/-- The latency quantiles that can be gated on. -/
inductive Quantile where
  | p50
  | p95
  | p99
  | p999
  deriving DecidableEq, Repr

namespace Quantile

/-- The name of a quantile in the name of its check. -/
def label : Quantile → String
  | p50 => "p50"
  | p95 => "p95"
  | p99 => "p99"
  | p999 => "p99.9"

/-- The quantile of some samples. -/
def of (stats : LatencyStats) : Quantile → Duration
  | p50 => stats.p50Duration
  | p95 => stats.p95Duration
  | p99 => stats.p99Duration
  | p999 => stats.p999Duration

end Quantile

/-- A threshold that is set. -/
inductive Threshold where
  | latency (quantile : Quantile) (max : Duration)
  | errorRate (max : ℚ)
  | generatorLag (max : Duration)
  | throughput (min : ℚ)
  deriving DecidableEq

namespace SloThresholds

/-- The latency thresholds that are set, in the order of their checks. -/
def latencies (slo : SloThresholds) : List Threshold :=
  (slo.maxP50.map (.latency .p50)).toList ++ (slo.maxP95.map (.latency .p95)).toList
    ++ (slo.maxP99.map (.latency .p99)).toList ++ (slo.maxP999.map (.latency .p999)).toList

/-- The thresholds that are set, in the order of their checks. -/
def toList (slo : SloThresholds) : List Threshold :=
  slo.latencies ++ (slo.maxErrorRate.map .errorRate).toList
    ++ (slo.maxGeneratorLag.map .generatorLag).toList
    ++ (slo.minThroughput.map .throughput).toList

end SloThresholds

namespace Threshold

/-- The check of a threshold on the metrics of a run or a phase. -/
def check (metrics : ReportMetrics) : Threshold → SloCheck
  | latency quantile max =>
    latencyCheck (metrics.basis ++ " " ++ quantile.label) max (quantile.of metrics.gated)
      metrics.gated.count
  | errorRate max => errorRateCheck "Error Rate" max metrics.errorRate
  | generatorLag max => generatorLagCheck metrics.generatorLag max
  | throughput min => throughputCheck metrics.throughputMsgPerSec min

/-- The check of a threshold on a named action, for those it may have. -/
def actionCheck (name : String) (action : Option ActionMetrics) : Threshold → SloCheck
  | latency quantile max =>
    latencyCheck ("Action " ++ name ++ ": " ++ ActionMetrics.basis action ++ " " ++ quantile.label)
      max (quantile.of (ActionMetrics.gated action)) (ActionMetrics.gated action).count
  | errorRate max => actionErrorCheck name action max
  | _ => ⟨name, "", "", false⟩

end Threshold

namespace SloEvaluation

/-- The verdict of an evaluation is the conjunction of its checks. -/
def Exact (evaluation : SloEvaluation) : Prop :=
  evaluation.passed = evaluation.checks.all (·.passed)

variable {evaluation : SloEvaluation}

theorem Exact.push (h : evaluation.Exact) (check : SloCheck) : (evaluation.push check).Exact := by
  unfold Exact SloEvaluation.push at *
  rw [h, List.all_append, List.all_cons, List.all_nil, Bool.and_true]

theorem Exact.pushIf {T : Type} (h : evaluation.Exact) (target : Option T)
    (check : T → SloCheck) : (evaluation.pushIf target check).Exact := by
  cases target with
  | none => exact h
  | some target => exact h.push _

theorem checks_pushIf {T : Type} (target : Option T) (check : T → SloCheck) :
    (evaluation.pushIf target check).checks = evaluation.checks ++ target.toList.map check := by
  cases target with
  | none => exact (List.append_nil _).symm
  | some target => rfl

theorem Exact.latencyChecks (h : evaluation.Exact) (slo : SloThresholds) (basis : String)
    (stats : LatencyStats) : (latencyChecks evaluation slo basis stats).Exact :=
  (((h.pushIf _ _).pushIf _ _).pushIf _ _).pushIf _ _

end SloEvaluation

/-- The checks of an optional threshold, seen as a list of thresholds. -/
theorem map_toList_map {T U V : Type} (target : Option T) (f : T → U) (g : U → V) :
    (target.map f).toList.map g = target.toList.map (g ∘ f) := by
  cases target with
  | none => rfl
  | some target => rfl

/-- The latency checks are those of the latency thresholds that are set. -/
theorem checks_latencyChecks (evaluation : SloEvaluation) (slo : SloThresholds) (basis : String)
    (stats : LatencyStats) (check : Threshold → SloCheck)
    (hcheck : ∀ quantile max, check (.latency quantile max)
      = latencyCheck (basis ++ " " ++ quantile.label) max (quantile.of stats) stats.count) :
    (latencyChecks evaluation slo basis stats).checks
      = evaluation.checks ++ slo.latencies.map check := by
  have hname : ∀ quantile : Quantile,
      (check ∘ Threshold.latency quantile) = fun max =>
        latencyCheck (basis ++ (" " ++ quantile.label)) max (quantile.of stats) stats.count := by
    intro quantile
    funext max
    rw [Function.comp_apply, hcheck, String.append_assoc]
  unfold latencyChecks SloThresholds.latencies
  simp only [SloEvaluation.checks_pushIf, List.map_append, map_toList_map, hname, List.append_assoc]
  rfl

/-- **One level: one check per threshold**, in order. -/
theorem checks_evaluateSlos (slo : SloThresholds) (metrics : ReportMetrics) :
    (evaluateSlos slo metrics).checks = slo.toList.map (Threshold.check metrics) := by
  have hlatency := checks_latencyChecks .empty slo metrics.basis metrics.gated
    (Threshold.check metrics) fun _ _ => rfl
  unfold evaluateSlos SloThresholds.toList
  rw [SloEvaluation.checks_pushIf, SloEvaluation.checks_pushIf, SloEvaluation.checks_pushIf,
    hlatency, List.map_append, List.map_append, List.map_append, map_toList_map, map_toList_map,
    map_toList_map]
  rfl

theorem exact_evaluateSlos (slo : SloThresholds) (metrics : ReportMetrics) :
    (evaluateSlos slo metrics).Exact := by
  have hempty : SloEvaluation.empty.Exact := rfl
  exact (((hempty.latencyChecks slo _ _).pushIf _ _).pushIf _ _).pushIf _ _

/-- The thresholds of an action that are set. -/
theorem ActionSlo.toList_eq (slo : ActionSlo) :
    slo.slo.toList = slo.slo.latencies ++ (slo.slo.maxErrorRate.map Threshold.errorRate).toList := by
  unfold SloThresholds.toList
  rw [slo.noThroughput, slo.noGeneratorLag]
  simp

/-- One action: one check per threshold, in order. -/
theorem checks_actionChecks (metrics : ReportMetrics) (evaluation : SloEvaluation)
    (slo : ActionSlo) :
    (actionChecks metrics evaluation slo).checks
      = evaluation.checks
        ++ slo.slo.toList.map (Threshold.actionCheck slo.name (metrics.action slo.name)) := by
  unfold actionChecks
  rw [SloEvaluation.checks_pushIf,
    checks_latencyChecks _ _ _ _ (Threshold.actionCheck slo.name (metrics.action slo.name))
      fun _ _ => rfl, slo.toList_eq,
    List.map_append, map_toList_map, List.append_assoc]
  rfl

/-- The checks of a phase, under its name. -/
def phaseChecks (name : String) (checks : List SloCheck) : List SloCheck :=
  checks.map fun check => { check with name := name ++ ": " ++ check.name }

/-- Every phase's checks follow those of the scenario. -/
theorem checks_scenarioSloEvaluation (overall : SloEvaluation)
    (phases : List (String × SloEvaluation)) :
    (scenarioSloEvaluation overall phases).checks
      = overall.checks ++ phases.flatMap fun phase => phaseChecks phase.1 phase.2.checks := by
  unfold scenarioSloEvaluation
  induction phases generalizing overall with
  | nil => exact (List.append_nil _).symm
  | cons phase rest ih =>
    rw [List.foldl_cons, ih, List.flatMap_cons, ← List.append_assoc]
    rfl

theorem exact_scenarioSloEvaluation {overall : SloEvaluation}
    {phases : List (String × SloEvaluation)} (h : overall.Exact)
    (hphases : ∀ phase ∈ phases, phase.2.Exact) :
    (scenarioSloEvaluation overall phases).Exact := by
  unfold scenarioSloEvaluation
  induction phases generalizing overall with
  | nil => exact h
  | cons phase rest ih =>
    refine ih ?_ fun phase hmem => hphases phase (List.mem_cons_of_mem _ hmem)
    have hphase := hphases phase List.mem_cons_self
    show (overall.passed && phase.2.passed) = List.all (_ ++ phaseChecks phase.1 phase.2.checks) _
    rw [h, hphase, List.all_append, phaseChecks, List.all_map]
    rfl

/-- The actions' checks come last, action by action. -/
theorem checks_withActionSlos (evaluation : SloEvaluation) (slos : List ActionSlo)
    (metrics : ReportMetrics) :
    (withActionSlos evaluation slos metrics).checks
      = evaluation.checks ++ slos.flatMap fun slo =>
          slo.slo.toList.map (Threshold.actionCheck slo.name (metrics.action slo.name)) := by
  unfold withActionSlos
  induction slos generalizing evaluation with
  | nil => exact (List.append_nil _).symm
  | cons slo rest ih =>
    rw [List.foldl_cons, ih, checks_actionChecks, List.flatMap_cons, List.append_assoc]

theorem exact_withActionSlos {evaluation : SloEvaluation} (slos : List ActionSlo)
    (metrics : ReportMetrics) (h : evaluation.Exact) :
    (withActionSlos evaluation slos metrics).Exact := by
  unfold withActionSlos
  induction slos generalizing evaluation with
  | nil => exact h
  | cons slo rest ih => exact ih ((h.latencyChecks _ _ _).pushIf _ _)

end WsBlast
