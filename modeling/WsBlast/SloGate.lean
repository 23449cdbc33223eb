import WsBlast.OneMachine

/-!
# The gate of a run

`sloEvaluation` is how both ways of running a scenario evaluate its
thresholds: those of the run on the merged metrics, the flags overriding the
scenario's one by one, then those of the phases, then those of the named
actions. `SloGate` says what such a gate is for. The verdict is the
conjunction of the checks, there is one check for every threshold that is set,
and no threshold passes without evidence.

All of it holds but for one case (`sloGate_iff`). An action that sent nothing
is to fail its checks, but its error rate is looked at as soon as it recorded
an error, and it may be within the threshold.

A gate is only worth something if it cannot pass by accident. `SloGate` collects
what that means: the verdict follows from the checks, the checks from the
thresholds, and a threshold on something that was never measured fails.
-/

namespace WsBlast

/-- The evaluation of a run, from the metrics of its phases and the merged
ones. -/
def sloEvaluation (flags : SloThresholds) (plan : ScenarioPlan)
    (phases : List (CompiledPhase × ReportMetrics)) (metrics : ReportMetrics) : SloEvaluation :=
  let overall := evaluateSlos (flags.orFrom plan.slo) metrics
  let slo := scenarioSloEvaluation overall
    (phases.map fun phase => (phase.1.name, evaluateSlos phase.1.slo phase.2))
  withActionSlos slo plan.actionSlos metrics

/-! ## Both ways evaluate the same

The executor and the coordinator call one function on metrics of their own. -/

/-- The phases that ran on one machine, with their metrics. -/
def ScenarioExecutor.evaluated (executor : ScenarioExecutor) (outcomes : List RunOutcome) :
    List (CompiledPhase × ReportMetrics) :=
  (executor.ran outcomes).map fun ran => (ran.1.1, ran.2.phaseMetrics executor.softLimit ran.1.1)

/-- One machine evaluates its metrics. -/
theorem ScenarioExecutor.slo_run (executor : ScenarioExecutor) (start : Instant)
    (outcomes : List RunOutcome) :
    (executor.run start outcomes).slo
      = sloEvaluation executor.slo executor.plan (executor.evaluated outcomes)
          (executor.run start outcomes).metrics := by
  show withActionSlos (scenarioSloEvaluation _
    ((executor.runPhases start outcomes).phases.map _)) _ _ = _
  rw [phases_runPhases, List.map_map]
  unfold sloEvaluation evaluated
  rw [List.map_map]
  rfl

namespace Coordinator

variable (coordinator : Coordinator)

/-- The phases that ran on several machines, with their merged metrics. -/
def evaluated (runs : List coordinator.RanPhase) : List (CompiledPhase × ReportMetrics) :=
  runs.map fun ran => (coordinator.plan.phases.get ran.1, (coordinator.merged ran).1)

/-- Phases that were merged have results. -/
theorem isSome_of_mergePhases {now : Instant} {runs : List coordinator.RanPhase}
    {all : MergedPhases} (h : coordinator.mergePhases now runs = .ok all) :
    ∀ ran ∈ runs, ran.2.lastResult.isSome := by
  unfold mergePhases at h
  generalize coordinator.scenarioStart now runs = start at h
  generalize ({ perAgent := _, startedAt := _ } : MergedPhases) = held at h
  induction runs generalizing held with
  | nil => exact fun _ hmem => absurd hmem List.not_mem_nil
  | cons ran rest ih =>
    rw [List.foldlM_cons] at h
    cases hlast : ran.2.lastResult with
    | none =>
      -- the loop stops at a phase without a result
      unfold mergeNext mergePhase at h
      rw [hlast] at h
      exact nomatch h
    | some lastResult =>
      have hnext : coordinator.mergeNext start held ran
          = .ok (coordinator.addMerged start held ran (coordinator.merged ran)) := by
        unfold mergeNext mergePhase merged
        rw [hlast]
        rfl
      rw [hnext] at h
      intro other hmem
      obtain rfl | hrest := List.mem_cons.mp hmem
      · rw [hlast]
        rfl
      · exact ih _ h other hrest

/-- Several machines evaluate their merged metrics. -/
theorem slo_mergeScenario {now : Instant} {runs : List coordinator.RanPhase}
    {lost : List (Option String)} {outcome : DistributedScenarioOutcome}
    (h : coordinator.mergeScenario now runs lost = .ok outcome) :
    outcome.scenario.slo
      = sloEvaluation coordinator.slo coordinator.plan (coordinator.evaluated runs)
          outcome.scenario.metrics := by
  unfold mergeScenario at h
  cases hall : coordinator.mergePhases now runs with
  | error message =>
    rw [hall] at h
    exact nomatch h
  | ok all =>
    have hmerged := coordinator.mergePhases_eq_ok now (coordinator.isSome_of_mergePhases hall)
    rw [hmerged] at h
    cases h
    show withActionSlos (scenarioSloEvaluation _
      ((coordinator.mergedPhases now runs).phases.map _)) _ _ = _
    rw [coordinator.phases_mergedPhases, List.map_map]
    unfold sloEvaluation evaluated
    rw [List.map_map]
    rfl

end Coordinator

/-! ## The gate

The purpose of a gate, as a structure, and the one condition it needs. -/

/-- **What the gate of a run is for.** -/
structure SloGate (flags : SloThresholds) (plan : ScenarioPlan)
    (phases : List (CompiledPhase × ReportMetrics)) (metrics : ReportMetrics) : Prop where
  /-- One machine gives this evaluation for these metrics. -/
  oneMachine : ∀ (executor : ScenarioExecutor) (start : Instant) (outcomes : List RunOutcome),
    executor.slo = flags → executor.plan = plan → executor.evaluated outcomes = phases →
    (executor.run start outcomes).metrics = metrics →
    (executor.run start outcomes).slo = sloEvaluation flags plan phases metrics
  /-- Several machines give this evaluation for these metrics. -/
  severalMachines : ∀ (coordinator : Coordinator) (now : Instant)
    (runs : List coordinator.RanPhase) (lost : List (Option String))
    (outcome : DistributedScenarioOutcome),
    coordinator.mergeScenario now runs lost = .ok outcome →
    coordinator.slo = flags → coordinator.plan = plan → coordinator.evaluated runs = phases →
    outcome.scenario.metrics = metrics →
    outcome.scenario.slo = sloEvaluation flags plan phases metrics
  /-- The verdict is the conjunction of the checks. -/
  verdict : (sloEvaluation flags plan phases metrics).passed = true
    ↔ ∀ check ∈ (sloEvaluation flags plan phases metrics).checks, check.passed = true
  /-- One check per threshold that is set, level by level. -/
  checks : (sloEvaluation flags plan phases metrics).checks
    = (flags.orFrom plan.slo).toList.map (Threshold.check metrics)
      ++ (phases.flatMap fun phase =>
          phaseChecks phase.1.name (phase.1.slo.toList.map (Threshold.check phase.2)))
      ++ plan.actionSlos.flatMap fun slo =>
          slo.slo.toList.map (Threshold.actionCheck slo.name (metrics.action slo.name))
  /-- No latency threshold passes without samples of the latency it gates
  on. -/
  latency : ∀ level ∈ metrics :: phases.map Prod.snd, level.gated.count = 0 →
    ∀ quantile max, (Threshold.check level (.latency quantile max)).passed = false
  /-- Nor does one of an action. -/
  actionLatency : ∀ slo ∈ plan.actionSlos,
    (ActionMetrics.gated (metrics.action slo.name)).count = 0 → ∀ quantile max,
      (Threshold.actionCheck slo.name (metrics.action slo.name)
        (.latency quantile max)).passed = false
  /-- No lag threshold passes without samples of the lag. -/
  generatorLag : ∀ level ∈ metrics :: phases.map Prod.snd, level.generatorLag = none →
    ∀ max, (Threshold.check level (.generatorLag max)).passed = false
  /-- No threshold of an action passes when no action of that name sent
  anything. -/
  idle : ∀ slo ∈ plan.actionSlos,
    (∀ action ∈ metrics.actions, action.name = slo.name → action.messagesSent = 0) →
    ∀ threshold ∈ slo.slo.toList,
      (Threshold.actionCheck slo.name (metrics.action slo.name) threshold).passed = false

/-- **When idle actions fail.** An action that sent nothing has no error within
its threshold on the error rate, and no sample within one on its latency. -/
def IdleActionsFail (slos : List ActionSlo) (metrics : ReportMetrics) : Prop :=
  ∀ slo ∈ slos, ∀ action, metrics.action slo.name = some action →
    (∀ action ∈ metrics.actions, action.name = slo.name → action.messagesSent = 0) →
    (0 < action.errors → ∀ max ∈ slo.slo.maxErrorRate, max < action.errorRate)
      ∧ (0 < action.latency.count → ∀ quantile max,
          Threshold.latency quantile max ∈ slo.slo.latencies → max < quantile.of action.latency)

/-! ## Each check

A check passes on evidence: a latency check needs a sample, and an error-rate
check of an action needs something that was attempted. -/

/-- A latency check passes on evidence only. -/
theorem passed_latencyCheck (name : String) (target actual : Duration) (samples : ℕ) :
    (latencyCheck name target actual samples).passed = false
      ↔ (0 < samples → target < actual) := by
  unfold latencyCheck
  by_cases hsamples : samples = 0
  · rw [if_pos hsamples, hsamples]
    exact iff_of_true rfl fun h => absurd h (Nat.lt_irrefl 0)
  · rw [if_neg hsamples, decide_eq_false_iff_not, Nat.not_le]
    exact ⟨fun h _ => h, fun h => h (Nat.pos_of_ne_zero hsamples)⟩

/-- The error rate of an action that sent nothing is looked at when it has
errors. -/
theorem passed_actionErrorCheck (name : String) {action : ActionMetrics}
    (hidle : action.messagesSent = 0) (max : ℚ) :
    (actionErrorCheck name (some action) max).passed = false
      ↔ (0 < action.errors → max < action.errorRate) := by
  unfold actionErrorCheck
  by_cases herrors : 0 < action.errors
  · have hlook : (some action).filter
        (fun action => decide (0 < action.messagesSent ∨ 0 < action.errors)) = some action := by
      simp [herrors]
    rw [hlook]
    show decide (action.errorRate ≤ max) = false ↔ _
    rw [decide_eq_false_iff_not, not_le]
    exact ⟨fun h _ => h, fun h => h herrors⟩
  · have hskip : (some action).filter
        (fun action => decide (0 < action.messagesSent ∨ 0 < action.errors)) = none := by
      simp [Nat.eq_zero_of_not_pos herrors, hidle]
    rw [hskip]
    exact iff_of_true rfl fun h => absurd h herrors

/-- The thresholds of an action, one by one. -/
theorem ActionSlo.forall_toList (slo : ActionSlo) (p : Threshold → Prop) :
    (∀ threshold ∈ slo.slo.toList, p threshold)
      ↔ (∀ quantile max, Threshold.latency quantile max ∈ slo.slo.latencies →
          p (.latency quantile max)) ∧ ∀ max ∈ slo.slo.maxErrorRate, p (.errorRate max) := by
  have hlatencies : ∀ threshold ∈ slo.slo.latencies,
      ∃ quantile max, threshold = .latency quantile max := by
    intro threshold hmem
    unfold SloThresholds.latencies at hmem
    simp only [List.mem_append, Option.mem_toList, Option.map_eq_some_iff] at hmem
    obtain ((⟨max, -, rfl⟩ | ⟨max, -, rfl⟩) | ⟨max, -, rfl⟩) | ⟨max, -, rfl⟩ := hmem
    all_goals exact ⟨_, _, rfl⟩
  rw [slo.toList_eq]
  constructor
  · intro h
    refine ⟨fun quantile max hmem => h _ (List.mem_append_left _ hmem), fun max hmax => ?_⟩
    refine h _ (List.mem_append_right _ ?_)
    rw [hmax]
    exact List.mem_singleton.mpr rfl
  · rintro ⟨hlatency, herror⟩ threshold hmem
    obtain hmem | hmem := List.mem_append.mp hmem
    · obtain ⟨quantile, max, rfl⟩ := hlatencies threshold hmem
      exact hlatency quantile max hmem
    · rw [Option.mem_toList, Option.map_eq_some_iff] at hmem
      obtain ⟨max, hmax, rfl⟩ := hmem
      exact herror max hmax

/-- The thresholds of a name that no action has fail. -/
theorem passed_actionCheck_none (slo : ActionSlo) :
    ∀ threshold ∈ slo.slo.toList, (Threshold.actionCheck slo.name none threshold).passed = false := by
  rw [slo.forall_toList]
  refine ⟨fun quantile max _ => ?_, fun max _ => rfl⟩
  have hempty : LatencyStats.empty.count = 0 := by
    unfold LatencyStats.empty LatencyStats.fromHistogram
    rw [if_pos Hdr.Hist.total_zero]
  show (latencyCheck _ max (quantile.of .empty) LatencyStats.empty.count).passed = false
  rw [hempty]
  rfl

/-- The thresholds of an action that sent nothing fail when what it recorded
exceeds them. -/
theorem passed_actionCheck_idle (slo : ActionSlo) {action : ActionMetrics}
    (hidle : action.messagesSent = 0) :
    (∀ threshold ∈ slo.slo.toList,
        (Threshold.actionCheck slo.name (some action) threshold).passed = false)
      ↔ (0 < action.errors → ∀ max ∈ slo.slo.maxErrorRate, max < action.errorRate)
        ∧ (0 < action.latency.count → ∀ quantile max,
            Threshold.latency quantile max ∈ slo.slo.latencies →
              max < quantile.of action.latency) := by
  have hlatency : ∀ quantile max,
      (Threshold.actionCheck slo.name (some action) (.latency quantile max)).passed = false
        ↔ (0 < action.latency.count → max < quantile.of action.latency) :=
    fun quantile max => passed_latencyCheck _ _ _ _
  have herror : ∀ max,
      (Threshold.actionCheck slo.name (some action) (.errorRate max)).passed = false
        ↔ (0 < action.errors → max < action.errorRate) :=
    fun max => passed_actionErrorCheck slo.name hidle max
  rw [slo.forall_toList]
  constructor
  · rintro ⟨hlatencies, herrors⟩
    exact ⟨fun hpos max hmax => (herror max).mp (herrors max hmax) hpos,
      fun hpos quantile max hmem => (hlatency quantile max).mp (hlatencies quantile max hmem) hpos⟩
  · rintro ⟨herrors, hlatencies⟩
    exact ⟨fun quantile max hmem => (hlatency quantile max).mpr fun hpos =>
        hlatencies hpos quantile max hmem,
      fun max hmax => (herror max).mpr fun hpos => herrors hpos max hmax⟩

/-! ## The whole gate -/

variable (flags : SloThresholds) (plan : ScenarioPlan)
  (phases : List (CompiledPhase × ReportMetrics)) (metrics : ReportMetrics)

/-- The verdict of a run is the conjunction of its checks. -/
theorem exact_sloEvaluation : (sloEvaluation flags plan phases metrics).Exact := by
  refine exact_withActionSlos _ _ (exact_scenarioSloEvaluation (exact_evaluateSlos _ _) ?_)
  intro phase hmem
  obtain ⟨phase, -, rfl⟩ := List.mem_map.mp hmem
  exact exact_evaluateSlos _ _

/-- The checks of a run, level by level. -/
theorem checks_sloEvaluation :
    (sloEvaluation flags plan phases metrics).checks
      = (flags.orFrom plan.slo).toList.map (Threshold.check metrics)
        ++ (phases.flatMap fun phase =>
            phaseChecks phase.1.name (phase.1.slo.toList.map (Threshold.check phase.2)))
        ++ plan.actionSlos.flatMap fun slo =>
            slo.slo.toList.map (Threshold.actionCheck slo.name (metrics.action slo.name)) := by
  unfold sloEvaluation
  rw [checks_withActionSlos, checks_scenarioSloEvaluation, checks_evaluateSlos, List.flatMap_map]
  simp only [checks_evaluateSlos]

/-- The action that is found for a name is one of that name. -/
theorem ReportMetrics.messagesSent_action {metrics : ReportMetrics} {name : String}
    {action : ActionMetrics} (hfound : metrics.action name = some action)
    (hidle : ∀ action ∈ metrics.actions, action.name = name → action.messagesSent = 0) :
    action.messagesSent = 0 := by
  unfold ReportMetrics.action at hfound
  have hname := List.find?_some hfound
  exact hidle action (List.mem_of_find?_eq_some hfound) (of_decide_eq_true hname)

/-- **The gate is exact, and evidence is needed, if and only if idle actions
fail.** -/
theorem sloGate_iff :
    SloGate flags plan phases metrics ↔ IdleActionsFail plan.actionSlos metrics := by
  constructor
  · intro h slo hslo action hfound hidle
    have hchecks := h.idle slo hslo hidle
    rw [hfound] at hchecks
    exact (passed_actionCheck_idle slo (ReportMetrics.messagesSent_action hfound hidle)).mp hchecks
  · intro h
    refine ⟨?_, ?_, ?_, checks_sloEvaluation flags plan phases metrics, ?_, ?_, ?_, ?_⟩
    · rintro executor start outcomes rfl rfl rfl rfl
      exact executor.slo_run start outcomes
    · rintro coordinator now runs lost outcome hok rfl rfl rfl rfl
      exact coordinator.slo_mergeScenario hok
    · rw [exact_sloEvaluation flags plan phases metrics, List.all_eq_true]
    · intro level _ hnone quantile max
      refine (passed_latencyCheck _ _ _ _).mpr fun hsamples => ?_
      exact absurd (hnone ▸ hsamples) (Nat.lt_irrefl 0)
    · intro slo _ hnone quantile max
      refine (passed_latencyCheck _ _ _ _).mpr fun hsamples => ?_
      exact absurd (hnone ▸ hsamples) (Nat.lt_irrefl 0)
    · intro level _ hnone max
      show (generatorLagCheck level.generatorLag max).passed = false
      rw [hnone]
      rfl
    · intro slo hslo hidle
      cases hfound : metrics.action slo.name with
      | none => exact passed_actionCheck_none slo
      | some action =>
        exact (passed_actionCheck_idle slo (ReportMetrics.messagesSent_action hfound hidle)).mpr
          (h slo hslo action hfound hidle)

/-- An action whose only message failed before it was sent. -/
def failedLogin : ActionMetrics := ActionMetrics.of "login" ⟨0, 0, ⟨0, 1, 0⟩⟩

/-- Metrics with that action alone. -/
def loginMetrics : ReportMetrics :=
  { MetricsTotals.new.report (Duration.ofSecs 1) 1 0 with actions := [failedLogin] }

/-- A phase that sends one named message on each connection. -/
def loginPhase : CompiledPhase :=
  { Coordinator.shortPhase "login" with
    actions := [.send none 1 none [] (some 0)]
    actionNames := ["login"] }

/-- A scenario that allows every login to fail. -/
def loginPlan : ScenarioPlan where
  phases := [loginPhase]
  targets := ["ws://localhost:9000/"]
  resolved := rfl
  slo := {}
  actionSlos := [⟨"login", { maxErrorRate := some 1 }, rfl, rfl⟩]

/-- The login sent nothing, and its check passes. -/
theorem failedLogin_passes :
    ¬ SloGate {} loginPlan [(loginPhase, loginMetrics)] loginMetrics := by
  intro h
  have hidle := h.idle ⟨"login", { maxErrorRate := some 1 }, rfl, rfl⟩ List.mem_cons_self
    (by
      intro action hmem _
      obtain rfl : action = failedLogin := List.mem_singleton.mp hmem
      rfl) (.errorRate 1) (by decide)
  have hrate : failedLogin.errorRate = 1 := by
    show errorRate 1 1 = 1
    norm_num [errorRate]
  have hpassed : (errorRateCheck "Action login: error rate" 1 failedLogin.errorRate).passed = false :=
    hidle
  rw [hrate] at hpassed
  exact absurd hpassed (by decide)

end WsBlast
