import WsBlast.ChaosState
import WsBlast.CommandLine

/-!
# The seed of a scenario's faults

`--chaos-seed N` is to make the faults of a scenario repeat: a phase that
injects faults draws them from its own seed, or else from `N`. The seed
travels through the builder, which keeps fault settings only when a knob is
set, into the base configuration, and from there, as the fallback, into each
phase's own faults (`phaseChaos`).

So `N` reaches a phase with faults of its own exactly when the flags also set
a knob: `repeatsFaults_iff`. A command line with `--chaos-seed` alone builds a
base configuration without faults, the phase finds no fallback and reads the
clock, and two runs of the same file and flags inject different faults
(`seedOnly_reads_clock`).

The condition is on the flags and the phase, not on the clock: the seed is lost
when the flags hold nothing but the seed, since the builder keeps fault
settings that are on and drops the others, with everything in them. A phase
that has its own faults and no seed of its own then finds nothing to fall back
on.
-/

namespace WsBlast

/-! ## What a run gives its slots

A run reads the clock three times, and only what it reads when nothing gave it a
seed makes a difference. -/

/-- When a run of the program reads the clock for a seed: as the base
configuration is built, as a phase starts, and as a slot's generator is
created, in nanoseconds, and the number of its process. -/
structure RunClock where
  pid : UInt32
  built : UInt64
  started : UInt64
  created : UInt64

namespace RunClock

variable (clock : RunClock)

/-- The seed the clock gives as the base configuration is built. -/
def builtSeed : UInt64 := timeSeed clock.built clock.pid

/-- The seed the clock gives as a phase starts. -/
def startedSeed : UInt64 := timeSeed clock.started clock.pid

/-- The seed the clock gives as a slot's generator is created. -/
def createdSeed : UInt64 := timeSeed clock.created clock.pid

end RunClock

variable (host : Host) (scenario : ScenarioConfig) (cli : Cli)

/-- The faults phase `index` of a run injects, if it injects any. -/
def phaseFaults (clock : RunClock) (index : ℕ) : Except ConfigError (Option ChaosConfig) := do
  let prepared ← prepareScenario host clock.builtSeed scenario cli
  return (prepared.phaseRun host clock.startedSeed index).bind LoadTestConfig.chaos

/-- What slot `slot` of phase `index` of a run decides when its worker draws
`draws`. -/
def slotDecisions (clock : RunClock) (index slot : ℕ) (draws : List ChaosDraw) :
    Except ConfigError (Option (List ChaosDecision)) := do
  let faults ← phaseFaults host scenario cli clock index
  return faults.map (fun chaos => (ChaosState.new clock.createdSeed chaos slot).decisions draws)

/-- **The faults of a phase repeat**: whatever the clock says, its slots'
generators are seeded with the phase's own seed, or else with `seed`, and two
runs make the same decisions on every slot. -/
structure RepeatsFaults (seed : UInt64) (index : ℕ) (phase : CompiledPhase) : Prop where
  seeded : ∀ clock chaos, phaseFaults host scenario cli clock index = .ok (some chaos) →
    chaos.seed = some ((phase.chaos.bind ChaosConfig.seed).getD seed)
  repeats : ∀ clock clock' slot draws,
    slotDecisions host scenario cli clock index slot draws
      = slotDecisions host scenario cli clock' index slot draws

/-- The command line's seed reaches a phase that needs it: the phase has no
faults of its own, or none that are on, or a seed for them, or the flags set
a knob. -/
def SeedReaches (flags : ChaosConfig) (phase : CompiledPhase) : Prop :=
  ∀ own, phase.chaos = some own →
    own.isActive = true → own.seed = none → flags.isActive = true

/-! ## The base configuration

What becomes of the flags' faults in the builder, and that nothing else in the
base depends on the clock. -/

/-- The faults a builder keeps: those with a knob set, seeded. -/
def keptChaos (timeSeed : UInt64) (flags : ChaosConfig) : Option ChaosConfig :=
  if flags.isActive then some (flags.seeded timeSeed) else none

/-- Whether a builder accepts some faults does not depend on the clock. -/
theorem buildChaos_eq_ok {t : UInt64} {mode : TestMode} {flags : ChaosConfig}
    {kept : Option ChaosConfig} (h : buildChaos t mode (some flags) = .ok kept) (t' : UInt64) :
    buildChaos t' mode (some flags) = .ok (keptChaos t' flags) := by
  unfold buildChaos at h ⊢
  dsimp only at h ⊢
  obtain ⟨hvalid, h⟩ := Checked.check_bind_eq_ok.mp h
  unfold keptChaos
  rw [hvalid, Checked.ok_bind]
  by_cases hactive : flags.isActive = true
  · rw [if_pos hactive] at h ⊢
    obtain ⟨hmode, -⟩ := Checked.check_bind_eq_ok.mp h
    rw [hmode, if_pos hactive]
    rfl
  · rw [if_neg hactive, if_neg hactive]
    rfl

variable {host scenario cli}

/-- The faults of a command line are those of its builder. -/
theorem builderFromCli_chaos {cli : Cli} {target : Option String}
    {builder : LoadTestConfigBuilder}
    (h : LoadTestConfig.builderFromCli host cli target = .ok builder) :
    chaosFromCli cli = .ok builder.chaos := by
  unfold LoadTestConfig.builderFromCli at h
  simp only [Checked.bind_eq_ok, Checked.pure_eq_ok] at h
  obtain ⟨rawUrl, -, url, -, _, -, _, -, times, -, replyMatch, -, graphql, -, payload, -, _, -,
    headers, -, slo, -, stages, -, arrivals, -, chaos, hchaos, rfl⟩ := h
  exact hchaos

/-- The flags that a command line's faults are read from do not depend on
where its data comes from. -/
theorem chaosFromCli_withData (cli : Cli) (data : Option String) :
    chaosFromCli { cli with data } = chaosFromCli cli := rfl

theorem chaosFromCli_eq_ok {cli : Cli} {chaos : Option ChaosConfig}
    (h : chaosFromCli cli = .ok chaos) :
    ∃ flags, chaos = some flags ∧ flags.seed = cli.chaosSeed := by
  unfold chaosFromCli at h
  simp only [Checked.bind_eq_ok, Checked.pure_eq_ok] at h
  obtain ⟨delay, -, readPause, -, rfl⟩ := h
  exact ⟨_, rfl, rfl⟩

/-- **A configuration built at another time** differs in its faults' seed
only. -/
theorem fromCliWithTarget_eq_ok {t : UInt64} {cli : Cli} {target : Option String}
    {config : LoadTestConfig} {flags : ChaosConfig} (hflags : chaosFromCli cli = .ok (some flags))
    (h : LoadTestConfig.fromCliWithTarget host t cli target = .ok config) (t' : UInt64) :
    LoadTestConfig.fromCliWithTarget host t' cli target
      = .ok { config with chaos := keptChaos t' flags } := by
  unfold LoadTestConfig.fromCliWithTarget at h ⊢
  -- the builder reads the clock for the seed of its faults, which it checks last
  obtain ⟨builder, hbuilder, h⟩ := Checked.bind_eq_ok.mp h
  have hchaos : builder.chaos = some flags := by
    have := builderFromCli_chaos hbuilder
    rw [hflags] at this
    exact (Except.ok.inj this).symm
  rw [hbuilder, Checked.ok_bind]
  unfold LoadTestConfigBuilder.build at h ⊢
  obtain ⟨calm, hcalm, h⟩ := Checked.bind_eq_ok.mp h
  obtain ⟨chaos, hbuilt, h⟩ := Checked.bind_eq_ok.mp h
  rw [hchaos] at hbuilt
  cases Checked.pure_eq_ok.mp h
  rw [hcalm, Checked.ok_bind, hchaos, buildChaos_eq_ok hbuilt t']
  rfl

/-- A scenario's base configuration built at another time differs in its
faults' seed only. -/
theorem fromScenarioConfig_eq_ok {t : UInt64} {base : LoadTestConfig} {flags : ChaosConfig}
    (hflags : chaosFromCli cli = .ok (some flags))
    (h : LoadTestConfig.fromScenarioConfig host t scenario cli = .ok base) (t' : UInt64) :
    LoadTestConfig.fromScenarioConfig host t' scenario cli
      = .ok { base with chaos := keptChaos t' flags } := by
  unfold LoadTestConfig.fromScenarioConfig at h ⊢
  simp only [Checked.bind_eq_ok, Checked.pure_eq_ok] at h
  obtain ⟨_, hstages, selected, hselected, phase, hphase, targets, htargets, config, hconfig, _,
    hmode, phases, hphases, _, hvalid, rfl⟩ := h
  rw [hstages, Checked.ok_bind, hselected, Checked.ok_bind, hphase, Checked.ok_bind, htargets,
    Checked.ok_bind, fromCliWithTarget_eq_ok (chaosFromCli_withData cli _ ▸ hflags) hconfig t',
    Checked.ok_bind]
  -- the checks read other settings than the faults
  dsimp only
  rw [hmode, Checked.ok_bind, hphases, Checked.ok_bind]
  exact congrArg (· >>= _) hvalid

/-! ## The phases

A phase is compiled from the file, without a look at the base; the base is its
fallback. -/

/-- The scenario's data file does not depend on the faults. -/
theorem withScenarioData_chaos {base config : LoadTestConfig}
    (h : withScenarioData host scenario base = .ok config) (chaos : Option ChaosConfig) :
    withScenarioData host scenario { base with chaos } = .ok { config with chaos } := by
  unfold withScenarioData at h ⊢
  dsimp only at h ⊢
  split at h
  · obtain ⟨data, hdata, h⟩ := Checked.bind_eq_ok.mp h
    cases Checked.pure_eq_ok.mp h
    rw [hdata]
    rfl
  · cases h
    rfl

/-- **What a run at another time runs**: the same phases and targets, on a
base configuration that differs in its faults' seed only. -/
theorem prepareScenario_eq_ok {t : UInt64} {prepared : PreparedScenario} {flags : ChaosConfig}
    (hflags : chaosFromCli cli = .ok (some flags))
    (h : prepareScenario host t scenario cli = .ok prepared) (t' : UInt64) :
    prepareScenario host t' scenario cli
      = .ok { prepared with base := { prepared.base with chaos := keptChaos t' flags } } := by
  unfold prepareScenario ScenarioExecutor.new at h ⊢
  simp only [Checked.bind_eq_ok, Checked.pure_eq_ok] at h
  obtain ⟨base, hbase, _, hvalidate, _, hmode, config, hconfig, phases, hphases, _, hvalid, slo,
    hslo, slos, hslos, targets, htargets, rfl⟩ := h
  rw [fromScenarioConfig_eq_ok hflags hbase t', Checked.ok_bind, hvalidate, Checked.ok_bind]
  dsimp only
  rw [hmode, Checked.ok_bind, withScenarioData_chaos hconfig, Checked.ok_bind, hphases,
    Checked.ok_bind]
  have hagain : validatePhases phases { config with chaos := keptChaos t' flags } = .ok _ := hvalid
  rw [hagain, Checked.ok_bind, hslo, Checked.ok_bind, hslos, Checked.ok_bind, htargets]
  rfl

/-- The faults of a phase of a run. -/
theorem phaseFaults_eq {t : UInt64} {prepared : PreparedScenario} {flags : ChaosConfig}
    (hflags : chaosFromCli cli = .ok (some flags))
    (h : prepareScenario host t scenario cli = .ok prepared) {index : ℕ} {phase : CompiledPhase}
    (hphase : prepared.phases[index]? = some phase) (clock : RunClock) :
    phaseFaults host scenario cli clock index
      = .ok (phaseChaos clock.startedSeed (keptChaos clock.builtSeed flags) phase.chaos) := by
  have hlen : index < prepared.targets.length := by
    rw [(prepareScenario_phases h).2]
    exact (List.getElem?_eq_some_iff.mp hphase).1
  unfold phaseFaults
  rw [prepareScenario_eq_ok hflags h, Checked.ok_bind]
  show Except.ok _ = _
  unfold PreparedScenario.phaseRun
  simp only [hphase, List.getElem?_eq_getElem hlen, Option.bind_eq_bind, Option.bind_some,
    Option.pure_def]
  rfl

/-! ## The seed

By cases on whether the phase has faults of its own, whether they are on, and
whether they have a seed. -/

/-- **The faults of a phase**: the phase's own, or the flags', when a knob of
theirs is set. Their seed is the phase's own; else that of the flags, unless
the flags set no knob and the builder dropped it with them; else the
clock's. -/
theorem phaseChaos_keptChaos {t t' seed : UInt64} {flags : ChaosConfig}
    (hseed : flags.seed = some seed) (own : Option ChaosConfig) :
    phaseChaos t (keptChaos t' flags) own =
      if (own.getD flags).isActive then
        some { own.getD flags with
          seed := some ((own.bind ChaosConfig.seed).getD
            (if own.isSome ∧ flags.isActive = false then t else seed)) }
      else none := by
  unfold phaseChaos keptChaos
  cases own with
  | none => simp [ChaosConfig.seeded, hseed]
  | some own =>
    by_cases hactive : flags.isActive = true
    · cases hs : own.seed <;> simp [ChaosConfig.seeded, hactive, hseed]
    · cases hs : own.seed <;> simp [ChaosConfig.seeded, hactive]

/-- Some moment gives another seed than `seed`. -/
theorem exists_timeSeed_ne (seed : UInt64) : ∃ nanos, timeSeed nanos 0 ≠ seed := by
  by_contra hall
  push Not at hall
  have h : timeSeed 0 0 = timeSeed 1 0 := (hall 0).trans (hall 1).symm
  exact absurd h (by decide)

section Repeats

variable {t seed : UInt64} {flags : ChaosConfig} {prepared : PreparedScenario} {index : ℕ}
  {phase : CompiledPhase}

/-- The faults of a phase when the flags have a seed. -/
theorem phaseFaults_seeded (hseed : cli.chaosSeed = some seed)
    (hflags : chaosFromCli cli = .ok (some flags))
    (h : prepareScenario host t scenario cli = .ok prepared)
    (hphase : prepared.phases[index]? = some phase) (clock : RunClock) :
    phaseFaults host scenario cli clock index =
      .ok (if (phase.chaos.getD flags).isActive then
        some { phase.chaos.getD flags with
          seed := some ((phase.chaos.bind ChaosConfig.seed).getD
            (if phase.chaos.isSome ∧ flags.isActive = false then clock.startedSeed else seed)) }
      else none) := by
  obtain ⟨_, hsome, hcli⟩ := chaosFromCli_eq_ok hflags
  cases hsome
  rw [phaseFaults_eq hflags h hphase clock,
    phaseChaos_keptChaos (hcli.trans hseed) phase.chaos]

/-- A phase whose faults repeat gets the command line's seed when it needs
it. -/
theorem seedReaches_of_repeatsFaults (hseed : cli.chaosSeed = some seed)
    (hflags : chaosFromCli cli = .ok (some flags))
    (h : prepareScenario host t scenario cli = .ok prepared)
    (hphase : prepared.phases[index]? = some phase)
    (hrepeats : RepeatsFaults host scenario cli seed index phase) : SeedReaches flags phase := by
  intro own hown hactive hnone
  by_contra hidle
  -- a phase that starts at this moment is not seeded with `seed`
  obtain ⟨nanos, hne⟩ := exists_timeSeed_ne seed
  have hclock := phaseFaults_seeded hseed hflags h hphase ⟨0, 0, nanos, 0⟩
  simp only [hown, Option.getD_some, hactive, if_true] at hclock
  have hgiven := hrepeats.seeded _ _ hclock
  simp only [hown, Option.bind_some, hnone, Option.isSome_some, Bool.not_eq_true] at hgiven hidle
  simp only [hidle, and_self, if_true, Option.getD_none, Option.some.injEq] at hgiven
  exact hne hgiven

/-- A phase the seed reaches has the same faults whatever the clock says. -/
theorem phaseFaults_of_seedReaches (hseed : cli.chaosSeed = some seed)
    (hflags : chaosFromCli cli = .ok (some flags))
    (h : prepareScenario host t scenario cli = .ok prepared)
    (hphase : prepared.phases[index]? = some phase) (hreaches : SeedReaches flags phase)
    (clock : RunClock) :
    phaseFaults host scenario cli clock index =
      .ok (if (phase.chaos.getD flags).isActive then
        some { phase.chaos.getD flags with
          seed := some ((phase.chaos.bind ChaosConfig.seed).getD seed) }
      else none) := by
  rw [phaseFaults_seeded hseed hflags h hphase clock]
  cases hown : phase.chaos with
  | none => simp
  | some own =>
    cases hs : own.seed with
    | some given => simp [hs]
    | none =>
      by_cases hactive : own.isActive = true
      · simp [hs, hactive, hreaches own hown hactive hs]
      · simp [hactive]

end Repeats

variable (host scenario cli)

/-- **When a seeded scenario repeats its faults.** The faults of a phase
repeat exactly when the command line's seed reaches it: unless the phase has
faults that are on and no seed of its own, while the flags set no knob. -/
theorem repeatsFaults_iff (t seed : UInt64) (flags : ChaosConfig) (prepared : PreparedScenario)
    (index : ℕ) (phase : CompiledPhase) (hseed : cli.chaosSeed = some seed)
    (hflags : chaosFromCli cli = .ok (some flags))
    (h : prepareScenario host t scenario cli = .ok prepared)
    (hphase : prepared.phases[index]? = some phase) :
    RepeatsFaults host scenario cli seed index phase ↔ SeedReaches flags phase := by
  refine ⟨seedReaches_of_repeatsFaults hseed hflags h hphase, fun hreaches => ?_⟩
  have hsame := phaseFaults_of_seedReaches hseed hflags h hphase hreaches
  refine ⟨fun clock chaos hchaos => ?_, fun clock clock' slot draws => ?_⟩
  · rw [hsame clock] at hchaos
    obtain ⟨-, hchaos⟩ := Option.ite_none_right_eq_some.mp (Except.ok.inj hchaos)
    rw [← Option.some.inj hchaos]
  · unfold slotDecisions
    rw [hsame clock, hsame clock', Checked.ok_bind, Checked.ok_bind]
    by_cases hactive : (phase.chaos.getD flags).isActive = true
    · rw [if_pos hactive, Option.map_some, Option.map_some,
        ChaosState.new_eq rfl clock.createdSeed clock'.createdSeed]
    · rw [if_neg hactive, Option.map_none, Option.map_none]

/-! ## A seed alone

The shortest command line on which the seed is lost, and the same with one knob
beside it. -/

/-- A scenario of one phase that drops a hundredth of its sends. -/
def flakyScenario : ScenarioConfig where
  version := "1.0"
  name := "flaky clients"
  phases :=
    [{ name := "flaky", duration := some "60s", connections := some 10,
       chaos := some { drop := some 1 } }]

/-- `--chaos-seed 42` and no other fault flag. -/
def seedOnly : Cli where
  url := some "ws://127.0.0.1:9001/"
  chaosSeed := some 42

/-- `--chaos-seed 42 --chaos-close 5`. -/
def seedAndClose : Cli := { seedOnly with chaosClose := some 5 }

/-- The flaky scenario is accepted, and its phase has faults without a
seed. -/
theorem flaky_prepared (cli : Cli)
    (h : (prepareScenario plainHost 0 flakyScenario cli).toOption.map
      (fun prepared => prepared.phases.map CompiledPhase.chaos)
        = some [some { dropPercent := 1 }]) :
    ∃ prepared phase, prepareScenario plainHost 0 flakyScenario cli = .ok prepared
      ∧ prepared.phases[0]? = some phase ∧ phase.chaos = some { dropPercent := 1 } := by
  obtain ⟨prepared, hprepared, hchaos⟩ := Option.map_eq_some_iff.mp h
  obtain ⟨phase, rest, hphases, hphase, -⟩ := List.map_eq_cons_iff.mp hchaos
  refine ⟨prepared, phase, ?_, by rw [hphases]; rfl, hphase⟩
  cases hp : prepareScenario plainHost 0 flakyScenario cli with
  | error err => rw [hp] at hprepared; cases hprepared
  | ok other => rw [hp] at hprepared; cases hprepared; rfl

/-- **A seed alone reads the clock.** With `--chaos-seed 42` and no other
fault flag, the faults of the flaky scenario's phase do not repeat. -/
theorem seedOnly_reads_clock :
    ∃ prepared phase, prepareScenario plainHost 0 flakyScenario seedOnly = .ok prepared
      ∧ prepared.phases[0]? = some phase
      ∧ ¬RepeatsFaults plainHost flakyScenario seedOnly 42 0 phase := by
  obtain ⟨prepared, phase, h, hphase, hchaos⟩ := flaky_prepared seedOnly (by decide +kernel)
  refine ⟨prepared, phase, h, hphase, fun hrepeats => ?_⟩
  have hflags : chaosFromCli seedOnly = .ok (some { seed := some 42 }) := rfl
  have hreaches := seedReaches_of_repeatsFaults rfl hflags h hphase hrepeats
  exact absurd (hreaches _ hchaos (by decide +kernel) rfl) (by decide +kernel)

/-- With `--chaos-close 5` beside the seed, they do. -/
theorem seedAndClose_repeats :
    ∃ prepared phase, prepareScenario plainHost 0 flakyScenario seedAndClose = .ok prepared
      ∧ prepared.phases[0]? = some phase
      ∧ RepeatsFaults plainHost flakyScenario seedAndClose 42 0 phase := by
  obtain ⟨prepared, phase, h, hphase, -⟩ := flaky_prepared seedAndClose (by decide +kernel)
  refine ⟨prepared, phase, h, hphase, ?_⟩
  have hflags : chaosFromCli seedAndClose = .ok (some { closePercent := 5, seed := some 42 }) := rfl
  refine (repeatsFaults_iff plainHost flakyScenario seedAndClose 0 42 _ prepared 0 phase rfl hflags
    h hphase).mpr fun _ _ _ _ => ?_
  decide +kernel

end WsBlast
