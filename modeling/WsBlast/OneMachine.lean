import WsBlast.ScenarioAgreement

/-!
# A distributed scenario reports what one machine would

The rules by which the phases of a scenario are merged are stated on the
metrics of the phases (`Merges`): counts and elapsed times are summed,
arrivals keep the rate of the first phase and the highest peak, the seed is
that of the first phase that injected faults.

Both loops follow them. Each of their accumulators moves on its own
(`foldl_field`), so what a loop returns is read off one accumulator at a
time. `mergeScenario_reports_one_machine` puts the two together: the
coordinator's report is the one of a machine whose phases measured what their
agents did together.

The theorem has to say what "the same run on one machine" is, when the run was
made on several. It does not take a particular run: any outcomes will do in
which every phase measured what its agents measured together
(`RunOutcome.SumOf`), and that such outcomes exist is a theorem too, so the
statement is not about nothing. The elapsed time of such a phase is the one the
coordinator measured, from the start to the last result, since agents do not
finish at the same moment.
-/

namespace WsBlast

/-! ## The rules -/

/-- The highest peak of some phases. -/
def peakOf (phases : List ArrivalSummary) : ℕ :=
  phases.foldr (fun phase peak => max phase.peakOpen peak) 0

/-- Arrivals of several phases: the rate, session and cap of the first, the
sum of the sessions started and skipped, and the highest peak. -/
def sumArrivals : List ArrivalSummary → Option ArrivalSummary
  | [] => none
  | first :: rest =>
    some { first with
      started := sumOf (first :: rest) ArrivalSummary.started
      skipped := sumOf (first :: rest) ArrivalSummary.skipped
      peakOpen := peakOf (first :: rest) }

/-- Compression over several phases, of which each count is the sum. -/
def sumCompression : List CompressionSummary → Option CompressionSummary
  | [] => none
  | first :: rest =>
    some
      { connectionsOffered := sumOf (first :: rest) CompressionSummary.connectionsOffered
        connectionsNegotiated := sumOf (first :: rest) CompressionSummary.connectionsNegotiated
        bytesSent := sumOf (first :: rest) CompressionSummary.bytesSent
        wireBytesSent := sumOf (first :: rest) CompressionSummary.wireBytesSent
        bytesRecv := sumOf (first :: rest) CompressionSummary.bytesRecv
        wireBytesRecv := sumOf (first :: rest) CompressionSummary.wireBytesRecv }

/-- What a report says whichever way the scenario ran: all but the time series
and the health of the generators, which are those of the machines. -/
structure CoreMetrics extends AggregatedMetrics where
  arrivals : Option ArrivalSummary
  compression : Option CompressionSummary

/-- That part of a report. -/
def ReportMetrics.core (metrics : ReportMetrics) : CoreMetrics where
  toAggregatedMetrics := metrics.toAggregatedMetrics
  arrivals := metrics.arrivals
  compression := metrics.compression

/-- **How the metrics of a scenario follow from those of its phases.** -/
structure Merges (metrics : CoreMetrics) (phases : List CoreMetrics) : Prop where
  counters : ∀ counter : Counter, counter.of metrics.toAggregatedMetrics
    = sumOf phases fun phase => counter.of phase.toAggregatedMetrics
  elapsed : metrics.elapsed = sumOf phases fun phase => phase.elapsed
  arrivals : metrics.arrivals = sumArrivals (phases.filterMap CoreMetrics.arrivals)
  compression : metrics.compression = sumCompression (phases.filterMap CoreMetrics.compression)
  seed : metrics.chaos.map ChaosSummary.seed
    = (phases.findSome? fun phase => phase.chaos).map ChaosSummary.seed

/-! ## Accumulators

General facts on left folds, and the two loops of the source that are not plain
sums. -/

section Folds

variable {A B : Type}

/-- An accumulator that moves on its own can be read off the loop. -/
theorem foldl_field {S F : Type} (field : S → F) {step : S → A → S} (next : F → A → F)
    (h : ∀ s x, field (step s x) = next (field s) x) (items : List A) (s : S) :
    field (items.foldl step s) = items.foldl next (field s) :=
  (List.foldl_hom field fun s x => (h s x).symm).symm

/-- A loop that sums. -/
theorem foldl_add_eq (items : List A) (f : A → ℕ) (n : ℕ) :
    items.foldl (fun n x => n + f x) n = n + sumOf items f := by
  induction items generalizing n with
  | nil => rfl
  | cons x rest ih => rw [List.foldl_cons, ih, sumOf_cons, Nat.add_assoc]

/-- A loop that collects. -/
theorem foldl_concat (items : List A) (f : A → B) (held : List B) :
    items.foldl (fun held x => held ++ [f x]) held = held ++ items.map f := by
  induction items generalizing held with
  | nil => exact (List.append_nil _).symm
  | cons x rest ih =>
    rw [List.foldl_cons, ih, List.append_assoc, List.map_cons, List.singleton_append]

/-- A loop that keeps the first value there is. -/
theorem foldl_or (items : List A) (f : A → Option B) (held : Option B) :
    items.foldl (fun held x => held.or (f x)) held = held.or (items.findSome? f) := by
  induction items generalizing held with
  | nil => exact (Option.or_none).symm
  | cons x rest ih =>
    rw [List.foldl_cons, ih, Option.or_assoc, List.findSome?_cons]
    cases f x with
    | none => rw [Option.none_or]
    | some y => rfl

/-- A loop that adds totals. -/
theorem tally_foldl (items : List A) (f : A → MetricsTotals) (totals : MetricsTotals) :
    (items.foldl (fun totals x => totals.add (f x)) totals).tally
      = totals.tally + (items.map fun x => (f x).tally).sum := by
  rw [← List.foldl_map, tally_foldl_add, List.map_map]
  rfl

/-- The loop over the arrivals of the phases, once there are some. -/
theorem foldl_addPhase (phases : List ArrivalSummary) (held : ArrivalSummary) :
    phases.foldl ArrivalSummary.addPhase held
      = { held with
          started := held.started + sumOf phases ArrivalSummary.started
          skipped := held.skipped + sumOf phases ArrivalSummary.skipped
          peakOpen := max held.peakOpen (peakOf phases) } := by
  induction phases generalizing held with
  | nil =>
    show held = { held with
      started := held.started + 0, skipped := held.skipped + 0, peakOpen := max held.peakOpen 0 }
    rw [Nat.add_zero, Nat.add_zero, Nat.max_zero]
  | cons phase rest ih =>
    rw [List.foldl_cons, ih]
    simp only [ArrivalSummary.addPhase, sumOf_cons, Nat.add_assoc, peakOf, List.foldr_cons,
      Nat.max_assoc]

/-- **The loop over the arrivals.** -/
theorem foldl_addArrivals (items : List A) (f : A → Option ArrivalSummary) :
    items.foldl (fun all x => addArrivals all (f x)) none = sumArrivals (items.filterMap f) := by
  have hsome : ∀ (items : List A) (held : ArrivalSummary),
      items.foldl (fun all x => addArrivals all (f x)) (some held)
        = some ((items.filterMap f).foldl ArrivalSummary.addPhase held) := by
    intro items
    induction items with
    | nil => exact fun _ => rfl
    | cons x rest ih =>
      intro held
      rw [List.foldl_cons, List.filterMap_cons]
      cases f x with
      | none => exact ih held
      | some phase => exact ih (held.addPhase phase)
  induction items with
  | nil => rfl
  | cons x rest ih =>
    rw [List.foldl_cons, List.filterMap_cons]
    cases f x with
    | none => exact ih
    | some first =>
      show rest.foldl _ (some first) = _
      rw [hsome, foldl_addPhase]
      rfl

/-- **The loop over what compression did.** -/
theorem foldl_addCompression (items : List A) (f : A → Option CompressionSummary) :
    items.foldl (fun all x => addCompression all (f x)) none
      = sumCompression (items.filterMap f) := by
  have hsome : ∀ (items : List A) (held : CompressionSummary),
      items.foldl (fun all x => addCompression all (f x)) (some held)
        = sumCompression (held :: items.filterMap f) := by
    intro items
    induction items with
    | nil => exact fun _ => rfl
    | cons x rest ih =>
      intro held
      rw [List.foldl_cons, List.filterMap_cons]
      cases f x with
      | none => exact ih held
      | some phase =>
        show rest.foldl _ (some (held.add phase)) = _
        rw [ih]
        simp only [sumCompression, sumOf_cons, CompressionSummary.add, Nat.add_assoc]
  induction items with
  | nil => rfl
  | cons x rest ih =>
    rw [List.foldl_cons, List.filterMap_cons]
    cases f x with
    | none => exact ih
    | some first =>
      have hfirst : ({} : CompressionSummary).add first = first := by
        simp only [CompressionSummary.add, Nat.zero_add]
      show rest.foldl _ (some (({} : CompressionSummary).add first)) = _
      rw [hfirst, hsome]

end Folds

/-- The seed of faults added to others is the first one. -/
theorem seed_addChaos (into other : Option ChaosSummary) :
    (addChaos into other).map ChaosSummary.seed
      = (into.map ChaosSummary.seed).or (other.map ChaosSummary.seed) := by
  cases into with
  | none =>
    cases other with
    | none => rfl
    | some other => rfl
  | some into =>
    cases other with
    | none => rfl
    | some other => rfl

/-- Totals that are added bring their faults. -/
theorem chaos_add (totals other : MetricsTotals) :
    (totals.add other).chaos = addChaos totals.chaos other.chaos := by
  unfold MetricsTotals.add
  rw [Std.ExtTreeMap.foldl_eq_foldl_toList]
  -- the loop over the actions leaves the faults alone
  have hactions : ∀ (entries : List (String × ActionTotals)) (totals : MetricsTotals),
      (entries.foldl (fun (totals : MetricsTotals) entry => totals.action entry.1 fun ours =>
        (⟨ours.rtt + entry.2.rtt, ours.response + entry.2.response, ours.counts⟩
          : ActionTotals).addCounts entry.2.counts) totals).chaos = totals.chaos := by
    intro entries
    induction entries with
    | nil => exact fun _ => rfl
    | cons entry rest ih => exact fun totals => ih _
  exact hactions _ _

/-- The seed of a loop that adds totals is the first one. -/
theorem seed_foldl {A : Type} (items : List A) (f : A → MetricsTotals) :
    (items.foldl (fun totals x => MetricsTotals.add totals (f x)) .new).chaos.map
        ChaosSummary.seed
      = (items.findSome? fun x => (f x).chaos).map ChaosSummary.seed := by
  have hseed : ∀ (totals : MetricsTotals) (x : A),
      (totals.add (f x)).chaos.map ChaosSummary.seed
        = (totals.chaos.map ChaosSummary.seed).or ((f x).chaos.map ChaosSummary.seed) := by
    intro totals x
    rw [chaos_add, seed_addChaos]
  rw [foldl_field (fun totals : MetricsTotals => totals.chaos.map ChaosSummary.seed)
    (fun held x => held.or ((f x).chaos.map ChaosSummary.seed)) hseed, foldl_or]
  show none.or _ = _
  rw [Option.none_or, List.map_findSome?]
  rfl

/-! ## On one machine

Each accumulator of the executor's loop, and then the rules, one after the
other. -/

namespace ScenarioExecutor

variable (executor : ScenarioExecutor) (start : Instant) (outcomes : List RunOutcome)

/-- The report of a phase that ran. -/
def phaseResult (ran : (CompiledPhase × String) × RunOutcome) : PhaseResult where
  name := ran.1.1.name
  targetUrl := ran.1.2
  connections := ran.1.1.connections
  stages := ran.1.1.stages
  slo := evaluateSlos ran.1.1.slo (ran.2.phaseMetrics executor.softLimit ran.1.1)
  metrics := ran.2.phaseMetrics executor.softLimit ran.1.1

theorem phases_runPhases :
    (executor.runPhases start outcomes).phases
      = (executor.ran outcomes).map executor.phaseResult := by
  unfold runPhases
  rw [foldl_field ScenarioTotals.phases (fun held ran => held ++ [executor.phaseResult ran])
    fun _ _ => rfl, foldl_concat]
  rfl

theorem totals_runPhases :
    (executor.runPhases start outcomes).totals
      = (executor.ran outcomes).foldl (fun totals ran => totals.add ran.2.totals) .new :=
  foldl_field ScenarioTotals.totals _ (fun _ _ => rfl) _ _

theorem elapsed_runPhases :
    (executor.runPhases start outcomes).elapsed
      = sumOf (executor.ran outcomes) fun ran => ran.2.elapsed := by
  unfold runPhases
  rw [foldl_field ScenarioTotals.elapsed (fun n ran => n + ran.2.elapsed) fun _ _ => rfl,
    foldl_add_eq]
  exact Nat.zero_add _

theorem connections_runPhases :
    (executor.runPhases start outcomes).connections
      = sumOf (executor.ran outcomes) fun ran => ran.2.connections := by
  unfold runPhases
  rw [foldl_field ScenarioTotals.connections (fun n ran => n + ran.2.connections) fun _ _ => rfl,
    foldl_add_eq]
  exact Nat.zero_add _

theorem notStarted_runPhases :
    (executor.runPhases start outcomes).notStarted
      = sumOf (executor.ran outcomes) fun ran => ran.2.notStarted := by
  unfold runPhases
  rw [foldl_field ScenarioTotals.notStarted (fun n ran => n + ran.2.notStarted) fun _ _ => rfl,
    foldl_add_eq]
  exact Nat.zero_add _

theorem arrivals_runPhases :
    (executor.runPhases start outcomes).arrivals
      = sumArrivals (((executor.ran outcomes).map executor.phaseResult).filterMap
          fun phase => phase.metrics.arrivals) := by
  unfold runPhases
  rw [foldl_field ScenarioTotals.arrivals
    (fun all ran => addArrivals all (executor.phaseResult ran).metrics.arrivals) fun _ _ => rfl]
  show List.foldl _ none _ = _
  rw [foldl_addArrivals, List.filterMap_map]
  rfl

theorem compression_runPhases :
    (executor.runPhases start outcomes).compression
      = sumCompression (((executor.ran outcomes).map executor.phaseResult).filterMap
          fun phase => phase.metrics.compression) := by
  unfold runPhases
  rw [foldl_field ScenarioTotals.compression
    (fun all ran => addCompression all (executor.phaseResult ran).metrics.compression)
    fun _ _ => rfl]
  show List.foldl _ none _ = _
  rw [foldl_addCompression, List.filterMap_map]
  rfl

/-- What was measured in every phase. -/
def parts : List Measured := (executor.ran outcomes).map fun ran => ran.2.toMeasured

theorem tally_runPhases :
    (executor.runPhases start outcomes).totals.tally
      = ((executor.parts outcomes).map fun part => part.totals.tally).sum := by
  rw [totals_runPhases, tally_foldl, show MetricsTotals.new.tally = 0 from rfl, zero_add]
  unfold parts
  rw [List.map_map]
  rfl

/-- What the whole scenario measured. -/
def measured : Measured where
  totals := (executor.runPhases start outcomes).totals
  elapsed := (executor.runPhases start outcomes).elapsed
  connections := (executor.runPhases start outcomes).connections
  notStarted := (executor.runPhases start outcomes).notStarted
  accounted := by
    have h := accounted_of_tally (executor.tally_runPhases start outcomes)
    unfold parts sumOf at h
    rw [List.map_map, List.map_map] at h
    rw [connections_runPhases, notStarted_runPhases]
    exact h

/-- **One machine sums its phases.** -/
theorem isSum_measured :
    IsSum (executor.measured start outcomes) (executor.parts outcomes) where
  tally := executor.tally_runPhases start outcomes
  elapsed := by
    unfold parts sumOf
    rw [List.map_map]
    exact executor.elapsed_runPhases start outcomes
  connections := by
    unfold parts sumOf
    rw [List.map_map]
    exact executor.connections_runPhases start outcomes
  notStarted := by
    unfold parts sumOf
    rw [List.map_map]
    exact executor.notStarted_runPhases start outcomes

/-- What the scenario reports. -/
theorem core_run :
    (executor.run start outcomes).metrics.core
      = { (executor.measured start outcomes).report with
          arrivals := (executor.runPhases start outcomes).arrivals
          compression := (executor.runPhases start outcomes).compression } := rfl

/-- The cores of the phases' reports. -/
def phaseCores : List CoreMetrics :=
  (executor.run start outcomes).phases.map fun phase => phase.metrics.core

theorem phaseCores_eq :
    executor.phaseCores start outcomes
      = (executor.ran outcomes).map fun ran => (executor.phaseResult ran).metrics.core := by
  unfold phaseCores
  show (executor.runPhases start outcomes).phases.map _ = _
  rw [phases_runPhases, List.map_map]
  rfl

/-- A number of all phases, from what they measured. -/
theorem sumOf_phaseCores (f : AggregatedMetrics → ℕ) :
    sumOf (executor.phaseCores start outcomes) (fun phase => f phase.toAggregatedMetrics)
      = sumOf (executor.parts outcomes) fun part => f part.report := by
  rw [phaseCores_eq]
  unfold sumOf parts
  rw [List.map_map, List.map_map]
  exact congrArg List.sum (List.map_congr_left fun ran _ => rfl)

/-- **One machine follows the rules.** -/
theorem merges_run :
    Merges (executor.run start outcomes).metrics.core (executor.phaseCores start outcomes) where
  counters counter := by
    rw [executor.sumOf_phaseCores start outcomes fun metrics => counter.of metrics]
    exact (executor.isSum_measured start outcomes).counter_of counter
  elapsed := by
    rw [executor.sumOf_phaseCores start outcomes fun metrics => metrics.elapsed]
    exact (executor.isSum_measured start outcomes).elapsed
  arrivals := by
    rw [core_run, phaseCores_eq, List.filterMap_map]
    show (executor.runPhases start outcomes).arrivals = _
    rw [arrivals_runPhases, List.filterMap_map]
    rfl
  compression := by
    rw [core_run, phaseCores_eq, List.filterMap_map]
    show (executor.runPhases start outcomes).compression = _
    rw [compression_runPhases, List.filterMap_map]
    rfl
  seed := by
    rw [core_run, phaseCores_eq, List.findSome?_map]
    show (executor.runPhases start outcomes).totals.chaos.map ChaosSummary.seed = _
    rw [totals_runPhases, seed_foldl]
    rfl

end ScenarioExecutor

/-! ## On several machines

The same for the coordinator, with one loop more. -/

/-- An accumulator that only results move, in a loop over parts. -/
theorem foldl_results {A S F : Type} (part : A → AgentPart) (field : S → F) {step : S → A → S}
    (next : F → AgentResult → F)
    (h : ∀ s x, field (step s x)
      = match (part x).result? with
        | some result => next (field s) result
        | none => field s) (items : List A) (s : S) :
    field (items.foldl step s)
      = ((items.map part).filterMap AgentPart.result?).foldl next (field s) := by
  rw [List.foldl_filterMap, List.foldl_map]
  refine foldl_field field _ (fun s x => ?_) items s
  rw [h]
  cases (part x).result? with
  | none => rfl
  | some result => rfl

namespace PhaseRun

variable {agents : ℕ} (run : PhaseRun agents)

/-- What the agents that finished measured. -/
def measurements : List Measured := run.results.map AgentResult.toMeasured

/-- The arrivals of the agents together. -/
def arrivals : Option ArrivalCounts :=
  run.results.foldl (fun sum result => addArrivalCounts sum result.arrivals) none

/-- What compression did on the agents together. -/
def compression : Option CompressionCounts :=
  run.results.foldl (fun sum result => addCompressionCounts sum result.compression) none

end PhaseRun

namespace Coordinator

variable (coordinator : Coordinator)

section Phase

variable (run : coordinator.Ran)

theorem map_snd_zip_parts : (coordinator.agents.zip run.parts).map Prod.snd = run.parts :=
  List.map_snd_zip (le_of_eq run.onePart)

/-- A number, or a list, that the results of a phase add up to. -/
theorem phaseTotals_field {F : Type} (field : PhaseTotals → F) (next : F → AgentResult → F)
    (hfinished : ∀ sum address result,
      field (addPart sum (address, .finished result)) = next (field sum) result)
    (hother : ∀ (sum : PhaseTotals) (agents : List AgentOutcome),
      field { sum with agents } = field sum) :
    field (coordinator.phaseTotals run) = run.results.foldl next (field {}) := by
  unfold phaseTotals
  rw [foldl_results Prod.snd field next, map_snd_zip_parts]
  · rfl
  · rintro sum ⟨address, part⟩
    cases part with
    | absent => exact hother sum _
    | finished result => exact hfinished sum address result
    | lost reason => exact hother sum _

theorem totals_phaseTotals :
    (coordinator.phaseTotals run).totals
      = run.results.foldl (fun totals result => totals.add result.totals) .new :=
  coordinator.phaseTotals_field run PhaseTotals.totals _ (fun _ _ _ => rfl) fun _ _ => rfl

theorem arrivals_phaseTotals : (coordinator.phaseTotals run).arrivals = run.arrivals :=
  coordinator.phaseTotals_field run PhaseTotals.arrivals _ (fun _ _ _ => rfl) fun _ _ => rfl

theorem compression_phaseTotals : (coordinator.phaseTotals run).compression = run.compression :=
  coordinator.phaseTotals_field run PhaseTotals.compression _ (fun _ _ _ => rfl) fun _ _ => rfl

theorem connections_phaseTotals :
    (coordinator.phaseTotals run).connections = sumOf run.measurements Measured.connections := by
  rw [coordinator.phaseTotals_field run PhaseTotals.connections
    (fun n result => n + result.connections) (fun _ _ _ => rfl) fun _ _ => rfl, foldl_add_eq]
  unfold PhaseRun.measurements sumOf
  rw [List.map_map]
  exact Nat.zero_add _

theorem notStarted_phaseTotals :
    (coordinator.phaseTotals run).notStarted = sumOf run.measurements Measured.notStarted := by
  rw [coordinator.phaseTotals_field run PhaseTotals.notStarted
    (fun n result => n + result.notStarted) (fun _ _ _ => rfl) fun _ _ => rfl, foldl_add_eq]
  unfold PhaseRun.measurements sumOf
  rw [List.map_map]
  exact Nat.zero_add _

theorem tally_phaseTotals :
    (coordinator.phaseTotals run).totals.tally
      = (run.measurements.map fun part => part.totals.tally).sum := by
  rw [totals_phaseTotals, tally_foldl, show MetricsTotals.new.tally = 0 from rfl, zero_add]
  unfold PhaseRun.measurements
  rw [List.map_map]
  rfl

end Phase

end Coordinator

/-- Faults with the counts and the seed of others are those. -/
theorem reseed_eq {a b : Option ChaosSummary} {seed : Option UInt64}
    (hcounts : a.map ChaosSummary.counts = b.map ChaosSummary.counts)
    (hseed : ∀ chaos ∈ b, seed = some chaos.seed) : reseed a seed = b := by
  cases a with
  | none =>
    cases b with
    | none => rfl
    | some b => exact nomatch hcounts
  | some a =>
    cases b with
    | none => exact nomatch hcounts
    | some b =>
      rw [hseed b rfl]
      exact chaos_ext hcounts rfl

/-- **An outcome of one machine that measured what the agents of a phase did
together**: the sums behind its totals, its slots, arrivals and compression
are theirs, it lasted as long, and it drew its faults from the phase's
seed. -/
structure RunOutcome.SumOf (outcome : RunOutcome) {agents : ℕ} (run : PhaseRun agents) :
    Prop where
  tally : outcome.totals.tally = (run.measurements.map fun part => part.totals.tally).sum
  elapsed : outcome.elapsed = run.elapsed
  connections : outcome.connections = sumOf run.measurements Measured.connections
  notStarted : outcome.notStarted = sumOf run.measurements Measured.notStarted
  arrivals : outcome.arrivals = run.arrivals
  compression : outcome.compression = run.compression
  seed : ∀ chaos ∈ outcome.totals.chaos, run.chaosSeed = some chaos.seed

namespace Coordinator

variable (coordinator : Coordinator)

/-- What a merged phase reports. -/
theorem core_phaseOutcome (run : coordinator.Ran) (arrivals : Option Arrivals)
    (lastResult : Instant) :
    (coordinator.phaseOutcome run arrivals lastResult).1.core
      = { ((coordinator.phaseTotals run).totals.report (lastResult - run.start)
            (coordinator.phaseTotals run).connections
            (coordinator.phaseTotals run).notStarted).toAggregatedMetrics with
          chaos := reseed (coordinator.phaseTotals run).totals.chaos run.chaosSeed
          arrivals := Option.map₂ ArrivalSummary.new arrivals (coordinator.phaseTotals run).arrivals
          compression := (coordinator.phaseTotals run).compression.map .ofCounts } := rfl

/-- What a phase reports on one machine. -/
theorem core_phaseMetrics (outcome : RunOutcome) (softLimit : Option ℕ) (phase : CompiledPhase) :
    (outcome.phaseMetrics softLimit phase).core
      = { (outcome.totals.report outcome.elapsed outcome.connections
            outcome.notStarted).toAggregatedMetrics with
          arrivals := Option.map₂ ArrivalSummary.new phase.arrivals outcome.arrivals
          compression := outcome.compression.map .ofCounts } := rfl

/-- **A phase reports what one machine would.** -/
theorem core_phase {run : coordinator.Ran} {outcome : RunOutcome} (h : outcome.SumOf run)
    {lastResult : Instant} (hlast : run.lastResult = some lastResult) (softLimit : Option ℕ)
    (phase : CompiledPhase) :
    (coordinator.phaseOutcome run phase.arrivals lastResult).1.core
      = (outcome.phaseMetrics softLimit phase).core := by
  have hsame : SameTotals (coordinator.phaseTotals run).totals outcome.totals :=
    .of_tally ((coordinator.tally_phaseTotals run).trans h.tally.symm)
  have helapsed : lastResult - run.start = outcome.elapsed := by
    rw [h.elapsed]
    unfold PhaseRun.elapsed
    rw [hlast]
    rfl
  have hchaos : reseed (coordinator.phaseTotals run).totals.chaos run.chaosSeed
      = outcome.totals.chaos := reseed_eq hsame.chaos h.seed
  have harrivals : (coordinator.phaseTotals run).arrivals = outcome.arrivals :=
    (coordinator.arrivals_phaseTotals run).trans h.arrivals.symm
  have hcompression : (coordinator.phaseTotals run).compression = outcome.compression :=
    (coordinator.compression_phaseTotals run).trans h.compression.symm
  have hconnections : (coordinator.phaseTotals run).connections = outcome.connections :=
    (coordinator.connections_phaseTotals run).trans h.connections.symm
  have hnotStarted : (coordinator.phaseTotals run).notStarted = outcome.notStarted :=
    (coordinator.notStarted_phaseTotals run).trans h.notStarted.symm
  rw [core_phaseOutcome, core_phaseMetrics, helapsed, hchaos, harrivals, hcompression,
    hconnections, hnotStarted]
  exact congrArg (fun metrics : AggregatedMetrics => ({ metrics with
    arrivals := Option.map₂ ArrivalSummary.new phase.arrivals outcome.arrivals
    compression := outcome.compression.map .ofCounts } : CoreMetrics))
    (hsame.report_eq outcome.elapsed outcome.connections outcome.notStarted)

/-- The parts of a phase move the totals, the agents' own and the times they
started, and nothing else. -/
theorem foldl_addAgentPart {F : Type} (field : MergedPhases → F)
    (h : ∀ (all : MergedPhases) totals perAgent startedAt,
      field { all with totals, perAgent, startedAt } = field all)
    (offset : Duration) (parts : List (AgentPart × ℕ)) (all : MergedPhases) :
    field (parts.foldl (addAgentPart offset) all) = field all := by
  induction parts generalizing all with
  | nil => rfl
  | cons part rest ih =>
    obtain ⟨part, slot⟩ := part
    rw [List.foldl_cons, ih]
    cases part with
    | absent => rfl
    | finished result => exact h all _ _ _
    | lost reason => rfl

/-- The parts of a phase add their totals. -/
theorem totals_foldl_addAgentPart (offset : Duration) (parts : List AgentPart)
    (all : MergedPhases) :
    (parts.zipIdx.foldl (addAgentPart offset) all).totals
      = (parts.filterMap AgentPart.result?).foldl
          (fun totals result => totals.add result.totals) all.totals := by
  rw [foldl_results Prod.fst MergedPhases.totals
    (fun totals result => totals.add result.totals), List.zipIdx_map_fst]
  rintro all ⟨part, slot⟩
  cases part with
  | absent => rfl
  | finished result => rfl
  | lost reason => rfl

/-- A phase that ran, merged. -/
def merged (ran : coordinator.RanPhase) : ReportMetrics × List AgentOutcome :=
  coordinator.phaseOutcome ran.2 (coordinator.plan.phases.get ran.1).arrivals
    (ran.2.lastResult.getD ran.2.start)

/-- The report of a phase that ran. -/
def phaseResult (ran : coordinator.RanPhase) : PhaseResult where
  name := (coordinator.plan.phases.get ran.1).name
  targetUrl := coordinator.plan.target ran.1
  connections := (coordinator.plan.phases.get ran.1).connections
  stages := (coordinator.plan.phases.get ran.1).stages
  slo := evaluateSlos (coordinator.plan.phases.get ran.1).slo (coordinator.merged ran).1
  metrics := (coordinator.merged ran).1

/-- The loop over the phases, when every phase has a result. -/
def mergedPhases (now : Instant) (runs : List coordinator.RanPhase) : MergedPhases :=
  runs.foldl (fun all ran =>
      coordinator.addMerged (coordinator.scenarioStart now runs) all ran (coordinator.merged ran))
    { perAgent := List.replicate coordinator.agents.length none
      startedAt := List.replicate coordinator.agents.length none }

/-- Phases with a result are merged without an error. -/
theorem mergePhases_eq_ok (now : Instant) {runs : List coordinator.RanPhase}
    (hlast : ∀ ran ∈ runs, ran.2.lastResult.isSome) :
    coordinator.mergePhases now runs = .ok (coordinator.mergedPhases now runs) := by
  unfold mergePhases mergedPhases
  generalize coordinator.scenarioStart now runs = start
  generalize ({ perAgent := _, startedAt := _ } : MergedPhases) = all
  induction runs generalizing all with
  | nil => rfl
  | cons ran rest ih =>
    obtain ⟨lastResult, hran⟩ := Option.isSome_iff_exists.mp (hlast ran List.mem_cons_self)
    have hnext : coordinator.mergeNext start all ran
        = .ok (coordinator.addMerged start all ran (coordinator.merged ran)) := by
      unfold mergeNext mergePhase merged
      rw [hran]
      rfl
    rw [List.foldlM_cons, hnext, List.foldl_cons]
    exact ih (fun ran hmem => hlast ran (List.mem_cons_of_mem _ hmem)) _

section Fields

variable (now : Instant) (runs : List coordinator.RanPhase)

/-- An accumulator of the loop over the phases that the parts do not move. -/
theorem mergedPhases_field {F : Type} (field : MergedPhases → F)
    (next : F → coordinator.RanPhase → F)
    (h : ∀ start all ran, field (coordinator.addMerged start all ran (coordinator.merged ran))
      = next (field all) ran) :
    field (coordinator.mergedPhases now runs)
      = runs.foldl next (field { perAgent := List.replicate coordinator.agents.length none
                                 startedAt := List.replicate coordinator.agents.length none }) :=
  foldl_field field next (fun _ _ => h _ _ _) _ _

theorem phases_mergedPhases :
    (coordinator.mergedPhases now runs).phases = runs.map coordinator.phaseResult := by
  rw [coordinator.mergedPhases_field now runs MergedPhases.phases
    fun held ran => held ++ [coordinator.phaseResult ran]]
  · exact foldl_concat _ _ _
  · intro start all ran
    show (List.foldl _ all _).phases ++ [_] = _
    rw [foldl_addAgentPart MergedPhases.phases fun _ _ _ _ => rfl]
    rfl

theorem arrivals_mergedPhases :
    (coordinator.mergedPhases now runs).arrivals
      = sumArrivals ((runs.map fun ran => (coordinator.merged ran).1.core).filterMap
          CoreMetrics.arrivals) := by
  rw [coordinator.mergedPhases_field now runs MergedPhases.arrivals
    fun all ran => addArrivals all (coordinator.merged ran).1.arrivals]
  · rw [List.filterMap_map]
    exact foldl_addArrivals _ _
  · intro start all ran
    show addArrivals (List.foldl _ all _).arrivals _ = _
    rw [foldl_addAgentPart MergedPhases.arrivals fun _ _ _ _ => rfl]

theorem compression_mergedPhases :
    (coordinator.mergedPhases now runs).compression
      = sumCompression ((runs.map fun ran => (coordinator.merged ran).1.core).filterMap
          CoreMetrics.compression) := by
  rw [coordinator.mergedPhases_field now runs MergedPhases.compression
    fun all ran => addCompression all (coordinator.merged ran).1.compression]
  · rw [List.filterMap_map]
    exact foldl_addCompression _ _
  · intro start all ran
    show addCompression (List.foldl _ all _).compression _ = _
    rw [foldl_addAgentPart MergedPhases.compression fun _ _ _ _ => rfl]

theorem firstChaosSeed_mergedPhases :
    (coordinator.mergedPhases now runs).firstChaosSeed
      = ((runs.map fun ran => (coordinator.merged ran).1.core).findSome? fun phase =>
          phase.chaos).map ChaosSummary.seed := by
  rw [coordinator.mergedPhases_field now runs MergedPhases.firstChaosSeed
    fun held ran => held.or ((coordinator.merged ran).1.chaos.map ChaosSummary.seed)]
  · rw [foldl_or, List.findSome?_map, List.map_findSome?]
    exact Option.none_or
  · intro start all ran
    show (List.foldl _ all _).firstChaosSeed.or _ = _
    rw [foldl_addAgentPart MergedPhases.firstChaosSeed fun _ _ _ _ => rfl]

/-- A number that is summed over the phases. -/
theorem sum_mergedPhases (field : MergedPhases → ℕ) (f : CoreMetrics → ℕ)
    (hzero : ∀ perAgent startedAt, field { perAgent, startedAt } = 0)
    (h : ∀ start all ran, field (coordinator.addMerged start all ran (coordinator.merged ran))
      = field all + f (coordinator.merged ran).1.core) :
    field (coordinator.mergedPhases now runs)
      = sumOf (runs.map fun ran => (coordinator.merged ran).1.core) f := by
  rw [coordinator.mergedPhases_field now runs field
    (fun n ran => n + f (coordinator.merged ran).1.core) h, foldl_add_eq, hzero, Nat.zero_add]
  unfold sumOf
  rw [List.map_map]
  rfl

theorem elapsed_mergedPhases :
    (coordinator.mergedPhases now runs).elapsed
      = sumOf (runs.map fun ran => (coordinator.merged ran).1.core) fun phase => phase.elapsed :=
  coordinator.sum_mergedPhases now runs MergedPhases.elapsed _ (fun _ _ => rfl)
    fun _ all _ => congrArg (· + _)
      (foldl_addAgentPart MergedPhases.elapsed (fun _ _ _ _ => rfl) _ _ all)

theorem connections_mergedPhases :
    (coordinator.mergedPhases now runs).connections
      = sumOf (runs.map fun ran => (coordinator.merged ran).1.core) fun phase =>
          phase.totalConnectionsAttempted :=
  coordinator.sum_mergedPhases now runs MergedPhases.connections _ (fun _ _ => rfl)
    fun _ all _ => congrArg (· + _)
      (foldl_addAgentPart MergedPhases.connections (fun _ _ _ _ => rfl) _ _ all)

theorem notStarted_mergedPhases :
    (coordinator.mergedPhases now runs).notStarted
      = sumOf (runs.map fun ran => (coordinator.merged ran).1.core) fun phase =>
          phase.totalConnectionsNotStarted :=
  coordinator.sum_mergedPhases now runs MergedPhases.notStarted _ (fun _ _ => rfl)
    fun _ all _ => congrArg (· + _)
      (foldl_addAgentPart MergedPhases.notStarted (fun _ _ _ _ => rfl) _ _ all)

theorem tally_mergedPhases :
    (coordinator.mergedPhases now runs).totals.tally
      = (runs.map fun ran => (ran.2.measurements.map fun part => part.totals.tally).sum).sum := by
  have hfold : (coordinator.mergedPhases now runs).totals.tally
      = runs.foldl (fun tally ran =>
          tally + (ran.2.measurements.map fun part => part.totals.tally).sum) 0 := by
    refine coordinator.mergedPhases_field now runs (fun all => all.totals.tally) _ ?_
    intro start all ran
    show (List.foldl _ all ran.2.parts.zipIdx).totals.tally = _
    rw [totals_foldl_addAgentPart, tally_foldl]
    unfold PhaseRun.measurements PhaseRun.results
    rw [List.map_map]
    rfl
  rw [hfold, ← List.foldl_map, ← List.sum_eq_foldl]

end Fields

/-- The same scenario on one machine. -/
def onOneMachine (softLimit : Option ℕ) : ScenarioExecutor where
  plan := coordinator.plan
  slo := coordinator.slo
  softLimit := softLimit

section Runs

variable {runs : List coordinator.RanPhase} {outcomes : List RunOutcome}

/-- Phases that ran in order are the first ones of the scenario. -/
theorem targeted_of_inOrder (hinOrder : (runs.map fun ran => ran.1.val) = List.range runs.length)
    (hlength : outcomes.length = runs.length) :
    coordinator.plan.targeted.zip outcomes
      = (runs.map fun ran => (coordinator.plan.phases.get ran.1, coordinator.plan.target ran.1)).zip
          outcomes := by
  have hindex : ∀ (i : ℕ) (hi : i < runs.length), runs[i].1.val = i := by
    intro i hi
    have hget := congrArg (fun l => l[i]?) hinOrder
    simpa [hi] using hget
  have hle : runs.length ≤ coordinator.plan.phases.length := by
    refine Nat.le_of_not_lt fun hlt => ?_
    have hi : runs.length - 1 < runs.length := by omega
    have hval := hindex _ hi
    have hbound := runs[runs.length - 1].1.isLt
    omega
  unfold ScenarioPlan.targeted
  refine List.ext_getElem ?_ fun i hi hi' => ?_
  · simp only [List.length_zip, List.length_map, coordinator.plan.resolved]
    omega
  · have hlt : i < runs.length := by
      simp only [List.length_zip, List.length_map] at hi'
      omega
    simp only [List.getElem_zip, List.getElem_map, ScenarioPlan.target, List.get_eq_getElem,
      Fin.val_cast, hindex i hlt]

variable (h : List.Forall₂ (fun outcome ran => RunOutcome.SumOf outcome ran.2) outcomes runs)

include h

/-- Phase by phase, the two ways report the same. -/
theorem map_core_merged (hlast : ∀ ran ∈ runs, ran.2.lastResult.isSome) (softLimit : Option ℕ) :
    (((runs.map fun ran =>
        (coordinator.plan.phases.get ran.1, coordinator.plan.target ran.1)).zip outcomes).map
        fun ran => ((coordinator.onOneMachine softLimit).phaseResult ran).metrics.core)
      = runs.map fun ran => (coordinator.merged ran).1.core := by
  induction h with
  | nil => rfl
  | @cons outcome ran outcomes runs hphase _ ih =>
    obtain ⟨lastResult, hran⟩ := Option.isSome_iff_exists.mp (hlast ran List.mem_cons_self)
    rw [List.map_cons, List.zip_cons_cons, List.map_cons, List.map_cons,
      ih fun ran hmem => hlast ran (List.mem_cons_of_mem _ hmem)]
    refine congrArg (· :: _) ?_
    have hcore := coordinator.core_phase hphase hran softLimit
      (coordinator.plan.phases.get ran.1)
    unfold merged
    rw [hran]
    exact hcore.symm

/-- The totals of the two ways have the same sum behind them. -/
theorem sum_tally_outcomes :
    (outcomes.map fun outcome => outcome.totals.tally).sum
      = (runs.map fun ran => (ran.2.measurements.map fun part => part.totals.tally).sum).sum := by
  induction h with
  | nil => rfl
  | cons hphase _ ih =>
    rw [List.map_cons, List.sum_cons, List.map_cons, List.sum_cons, ih, hphase.tally]

end Runs

end Coordinator

/-- Faults that another seed is put on keep their counts. -/
theorem chaosTally_reseed (chaos : Option ChaosSummary) (seed : Option UInt64) :
    MetricsTotals.chaosTally (reseed chaos seed) = MetricsTotals.chaosTally chaos := by
  cases chaos with
  | none => rfl
  | some chaos =>
    cases seed with
    | none => rfl
    | some seed => rfl

/-- **Every phase has an outcome of one machine** that measured what its agents
did together. -/
theorem Coordinator.exists_sumOf (coordinator : Coordinator) (run : coordinator.Ran) :
    ∃ outcome : RunOutcome, outcome.SumOf run := by
  let sum := (coordinator.phaseTotals run).totals
  let totals : MetricsTotals := { sum with chaos := reseed sum.chaos run.chaosSeed }
  have htally : totals.tally = (run.measurements.map fun part => part.totals.tally).sum := by
    rw [← coordinator.tally_phaseTotals run]
    show (_, _, _, _, _, MetricsTotals.chaosTally (reseed _ _), _) = _
    rw [chaosTally_reseed]
    rfl
  have hseed : ∀ chaos ∈ totals.chaos, run.chaosSeed = some chaos.seed := by
    intro chaos hchaos
    have hreseed : reseed sum.chaos run.chaosSeed = some chaos := hchaos
    cases hsum : sum.chaos with
    | none =>
      rw [hsum] at hreseed
      exact nomatch hreseed
    | some held =>
      -- some agent injected faults, so the phase has a seed
      have hfirst := seed_foldl run.results fun result => result.totals
      rw [← coordinator.totals_phaseTotals run] at hfirst
      have hsome : (run.results.findSome? fun result => result.totals.chaos).isSome := by
        rw [← Option.isSome_map, ← hfirst]
        show (sum.chaos.map _).isSome
        rw [hsum]
        rfl
      obtain ⟨result, hmem, hresult⟩ := List.findSome?_isSome_iff.mp hsome
      obtain ⟨seed, hrun⟩ := Option.isSome_iff_exists.mp (run.seeded result hmem hresult)
      rw [hsum, hrun] at hreseed
      cases hreseed
      exact hrun
  exact ⟨{ totals, elapsed := run.elapsed
           connections := sumOf run.measurements Measured.connections
           notStarted := sumOf run.measurements Measured.notStarted
           accounted := accounted_of_tally htally
           arrivals := run.arrivals, compression := run.compression
           startedAt := run.start, timeSeries := {}, lag := {} },
    htally, rfl, rfl, rfl, rfl, rfl, hseed⟩

/-- A phase on which no agent was lost has a result. -/
theorem Coordinator.isSome_lastResult (coordinator : Coordinator) (run : coordinator.Ran)
    (hfinished : ∀ part ∈ run.parts, part.result?.isSome) : run.lastResult.isSome := by
  obtain ⟨part, hpart⟩ : ∃ part, part ∈ run.parts := by
    refine List.exists_mem_of_length_pos ?_
    rw [run.onePart]
    exact List.length_pos_iff.mpr coordinator.someAgent
  rw [run.arrived, List.any_eq_true]
  exact ⟨part, hpart, hfinished part hpart⟩

namespace Coordinator

variable (coordinator : Coordinator)

/-- What a merged scenario reports. -/
theorem core_scenarioOutcome (all : MergedPhases) (lost : List (Option String)) :
    (coordinator.scenarioOutcome all lost).scenario.metrics.core
      = { (all.totals.report all.elapsed all.connections all.notStarted).toAggregatedMetrics with
          chaos := reseed all.totals.chaos all.firstChaosSeed
          arrivals := all.arrivals
          compression := all.compression } := rfl

section Agreement

variable {runs : List coordinator.RanPhase} {outcomes : List RunOutcome}
  (hinOrder : (runs.map fun ran => ran.1.val) = List.range runs.length)
  (hlast : ∀ ran ∈ runs, ran.2.lastResult.isSome)
  (h : List.Forall₂ (fun outcome ran => RunOutcome.SumOf outcome ran.2) outcomes runs)
  (now start : Instant) (softLimit : Option ℕ)

include hinOrder h

/-- The phases that ran on one machine. -/
theorem ran_onOneMachine :
    (coordinator.onOneMachine softLimit).ran outcomes
      = (runs.map fun ran => (coordinator.plan.phases.get ran.1, coordinator.plan.target ran.1)).zip
          outcomes :=
  coordinator.targeted_of_inOrder hinOrder h.length_eq

/-- The totals of the two ways report the same. -/
theorem sameTotals_mergedPhases :
    SameTotals (coordinator.mergedPhases now runs).totals
      ((coordinator.onOneMachine softLimit).runPhases start outcomes).totals := by
  refine .of_tally ?_
  rw [coordinator.tally_mergedPhases, ScenarioExecutor.tally_runPhases, ← sum_tally_outcomes _ h]
  unfold ScenarioExecutor.parts
  rw [coordinator.ran_onOneMachine hinOrder h, List.map_map]
  refine congrArg List.sum ?_
  calc outcomes.map (fun outcome => outcome.totals.tally)
      = (((runs.map fun ran => (coordinator.plan.phases.get ran.1,
          coordinator.plan.target ran.1)).zip outcomes).map Prod.snd).map
          fun outcome => outcome.totals.tally := by
        rw [List.map_snd_zip (by rw [List.length_map, h.length_eq])]
    _ = _ := List.map_map

include hlast

/-- The phases of the two ways report the same. -/
theorem phaseCores_onOneMachine :
    (coordinator.onOneMachine softLimit).phaseCores start outcomes
      = runs.map fun ran => (coordinator.merged ran).1.core := by
  rw [ScenarioExecutor.phaseCores_eq, coordinator.ran_onOneMachine hinOrder h]
  exact coordinator.map_core_merged h hlast softLimit

/-- **The scenario of the two ways reports the same.** -/
theorem core_mergedPhases (lost : List (Option String)) :
    (coordinator.scenarioOutcome (coordinator.mergedPhases now runs) lost).scenario.metrics.core
      = ((coordinator.onOneMachine softLimit).run start outcomes).metrics.core := by
  have hsame := coordinator.sameTotals_mergedPhases hinOrder h now start softLimit
  have hcores := coordinator.phaseCores_onOneMachine hinOrder hlast h start softLimit
  have hrules := (coordinator.onOneMachine softLimit).merges_run start outcomes
  rw [hcores] at hrules
  rw [core_scenarioOutcome, coordinator.arrivals_mergedPhases, coordinator.compression_mergedPhases,
    coordinator.firstChaosSeed_mergedPhases, ← hrules.arrivals, ← hrules.compression,
    ← hrules.seed, coordinator.elapsed_mergedPhases, ← hrules.elapsed,
    coordinator.connections_mergedPhases, coordinator.notStarted_mergedPhases,
    ScenarioExecutor.core_run]
  set m := (coordinator.onOneMachine softLimit).measured start outcomes with hm
  -- the slots the coordinator adds up are clamped ones, which are all of them
  have hconnections : (sumOf (runs.map fun ran => (coordinator.merged ran).1.core)
      fun phase => phase.totalConnectionsAttempted) = m.connections :=
    (hrules.counters (.slots .attempted)).symm
  have hnotStarted : (sumOf (runs.map fun ran => (coordinator.merged ran).1.core)
      fun phase => phase.totalConnectionsNotStarted) = m.notStarted :=
    (hrules.counters (.slots .notStarted)).symm.trans m.slots.2.2.2
  have hchaos : reseed (coordinator.mergedPhases now runs).totals.chaos
      (m.report.chaos.map ChaosSummary.seed) = m.totals.chaos := by
    refine reseed_eq hsame.chaos fun chaos hmem => ?_
    show m.totals.chaos.map ChaosSummary.seed = _
    rw [hmem]
    rfl
  rw [hconnections, hnotStarted, hchaos]
  exact congrArg (fun metrics : AggregatedMetrics => ({ metrics with
    arrivals := ((coordinator.onOneMachine softLimit).runPhases start outcomes).arrivals
    compression := ((coordinator.onOneMachine softLimit).runPhases start outcomes).compression }
    : CoreMetrics)) (hsame.report_eq m.elapsed m.connections m.notStarted)

end Agreement

/-- **A distributed scenario reports what one machine would.** However many
phases ran and whatever their agents measured, when no agent was lost the
coordinator reports the scenario; the report follows the rules; and it is the
report of one machine, whatever outcomes that machine had in its phases, as
long as they measured what the agents did together. Such outcomes exist. -/
theorem mergeScenario_reports_one_machine (now start : Instant) (softLimit : Option ℕ)
    (lost : List (Option String)) (runs : List coordinator.RanPhase)
    (hinOrder : (runs.map fun ran => ran.1.val) = List.range runs.length)
    (hfinished : ∀ ran ∈ runs, ∀ part ∈ ran.2.parts, part.result?.isSome) :
    ∃ all outcome, coordinator.mergePhases now runs = .ok all
      ∧ coordinator.mergeScenario now runs lost = .ok outcome
      ∧ outcome = coordinator.scenarioOutcome all lost
      ∧ Merges outcome.scenario.metrics.core
          (outcome.scenario.phases.map fun phase => phase.metrics.core)
      ∧ (∃ outcomes, List.Forall₂ (fun outcome ran => RunOutcome.SumOf outcome ran.2) outcomes runs)
      ∧ ∀ outcomes,
        List.Forall₂ (fun outcome ran => RunOutcome.SumOf outcome ran.2) outcomes runs →
          let single := (coordinator.onOneMachine softLimit).run start outcomes
          SameTotals all.totals
              ((coordinator.onOneMachine softLimit).runPhases start outcomes).totals
            ∧ outcome.scenario.metrics.core = single.metrics.core
            ∧ (outcome.scenario.phases.map fun phase => phase.metrics.core)
              = single.phases.map (fun phase => phase.metrics.core)
            ∧ Merges single.metrics.core (single.phases.map fun phase => phase.metrics.core) := by
  have hlast : ∀ ran ∈ runs, ran.2.lastResult.isSome :=
    fun ran hmem => coordinator.isSome_lastResult ran.2 (hfinished ran hmem)
  have hmerge : coordinator.mergeScenario now runs lost
      = .ok (coordinator.scenarioOutcome (coordinator.mergedPhases now runs) lost) := by
    unfold mergeScenario
    rw [coordinator.mergePhases_eq_ok now hlast]
    rfl
  have hexists : ∃ outcomes,
      List.Forall₂ (fun outcome ran => RunOutcome.SumOf outcome ran.2) outcomes runs := by
    choose outcomeOf hsum using fun ran : coordinator.RanPhase => coordinator.exists_sumOf ran.2
    exact ⟨runs.map outcomeOf,
      List.forall₂_map_left_iff.mpr (List.forall₂_same.mpr fun ran _ => hsum ran)⟩
  have hphases : (((coordinator.scenarioOutcome (coordinator.mergedPhases now runs)
      lost).scenario.phases).map fun phase => phase.metrics.core)
        = runs.map fun ran => (coordinator.merged ran).1.core := by
    show (coordinator.mergedPhases now runs).phases.map _ = _
    rw [coordinator.phases_mergedPhases, List.map_map]
    rfl
  refine ⟨_, _, coordinator.mergePhases_eq_ok now hlast, hmerge, rfl, ?_, hexists, ?_⟩
  · -- the rules, from one machine that measured the same
    obtain ⟨outcomes, hsum⟩ := hexists
    have hrules := (coordinator.onOneMachine softLimit).merges_run start outcomes
    rw [coordinator.phaseCores_onOneMachine hinOrder hlast hsum,
      ← coordinator.core_mergedPhases hinOrder hlast hsum now start softLimit lost] at hrules
    rw [hphases]
    exact hrules
  · intro outcomes hsum
    refine ⟨coordinator.sameTotals_mergedPhases hinOrder hsum now start softLimit,
      coordinator.core_mergedPhases hinOrder hlast hsum now start softLimit lost, ?_,
      (coordinator.onOneMachine softLimit).merges_run start outcomes⟩
    rw [hphases]
    exact (coordinator.phaseCores_onOneMachine hinOrder hlast hsum start softLimit).symm

/-- A phase of some name that holds two connections for a second. -/
def shortPhase (name : String) : CompiledPhase where
  name := name
  thinkTime := 0
  actions := []
  vars := []
  duration := Duration.ofSecs 1
  connections := 2
  rampRate := 0
  ratePerConn := 0
  payload := none
  actionNames := []
  slo := {}
  stages := []
  arrivals := none
  chaos := none

/-- Two agents that run a scenario of two phases. -/
def twoAgents : Coordinator where
  agents := ["10.0.0.1:7000", "10.0.0.2:7000"]
  someAgent := List.cons_ne_nil _ _
  plan :=
    { phases := [shortPhase "warm up", shortPhase "steady"]
      targets := ["ws://localhost:9000/", "ws://localhost:9000/"]
      resolved := rfl
      slo := {}
      actionSlos := [] }
  slo := {}

/-- The result of an agent whose one connection shook hands in 100 µs and sent
some messages. -/
def oneSlot (sent : ℕ) : AgentResult where
  totals := { handshake := Pi.single (clampedIndex 100) 1, messagesSent := sent }
  elapsed := Duration.ofSecs 1
  connections := 1
  notStarted := 0
  accounted := ⟨1, 0, Hdr.Hist.total_single _ _, rfl⟩
  startedAtUnixMs := 0
  series := ⟨{}, ∅⟩
  lag := {}
  openFileLimit := none
  arrivals := none
  compression := none

/-- A phase in which two agents sent some messages. -/
def sentPhase (first second : ℕ) : twoAgents.Ran where
  start := 0
  parts := [.finished (oneSlot first), .finished (oneSlot second)]
  onePart := rfl
  lastResult := some (Duration.ofSecs 1)
  arrived := rfl
  chaosSeed := none
  seeded := by
    intro result hmem hchaos
    simp only [AgentPart.result?, List.filterMap_cons, List.filterMap_nil, List.mem_cons,
      List.not_mem_nil, or_false] at hmem
    obtain rfl | rfl := hmem
    · exact nomatch hchaos
    · exact nomatch hchaos

/-- Two agents and two phases: the messages of the report are those of its
phases. -/
theorem mergeScenario_two_agents :
    ∃ outcome, twoAgents.mergeScenario 0 [(⟨0, by decide⟩, sentPhase 3 4),
        (⟨1, by decide⟩, sentPhase 5 6)] [none, none] = .ok outcome
      ∧ outcome.scenario.metrics.totalMessagesSent
        = sumOf outcome.scenario.phases fun phase => phase.metrics.totalMessagesSent := by
  obtain ⟨all, outcome, -, hok, -, hrules, -⟩ :=
    twoAgents.mergeScenario_reports_one_machine 0 0 none [none, none]
      [(⟨0, by decide⟩, sentPhase 3 4), (⟨1, by decide⟩, sentPhase 5 6)] rfl
      (by
        intro ran hran part hpart
        simp only [List.mem_cons, List.not_mem_nil, or_false] at hran
        obtain rfl | rfl := hran
        · simp only [sentPhase, List.mem_cons, List.not_mem_nil, or_false] at hpart
          obtain rfl | rfl := hpart <;> rfl
        · simp only [sentPhase, List.mem_cons, List.not_mem_nil, or_false] at hpart
          obtain rfl | rfl := hpart <;> rfl)
  refine ⟨outcome, hok, ?_⟩
  have hsent := hrules.counters (.events .messagesSent)
  unfold sumOf at hsent ⊢
  rw [List.map_map] at hsent
  exact hsent

end Coordinator

end WsBlast
