import WsBlast.CommandLine

/-!
# The payload of a phase

A phase is to send its own payload, read with its own variables, or the
default payload when it has none; another phase's payload is not to matter.
The base configuration a scenario's phases fall back on is built from the
flags and *the selected phase* (`LoadTestConfig.fromScenarioConfig`), whose
payload it keeps, so a phase without a payload sends that of the selected
phase: the first one, or the one `--phase` names.

`sendsOwnPayload_iff` says when a phase's payload is its own, and that two
files which agree on a phase then give it the same payload. The phase of
`idle_signs_in` has none and sends the first phase's.

The documentation has the payload of an action first, then that of its phase,
then the default. Between the last two the program has one step more, the
payload of the base configuration, and the base has it from the phase that was
selected to build it. As long as that phase has no payload, there is no
difference.
-/

namespace WsBlast

variable (host : Host) (cli : Cli)

/-! ## What a phase is to send

From the file, by the documented rule, and from the program, as what the
configuration of the phase holds. -/

/-- The payload a phase of the file is to send: its own, read with the
variables it captures, or the default. -/
def documentedPayload (phase : PhaseConfig) : Except ConfigError PayloadConfig := do
  let vars ← phaseVars phase.name phase.actions
  return match phase.payload with
    | some text => PayloadConfig.fromTextWithVars text vars
    | none => cli.defaultPayload

/-- The payload phase `index` of a run sends, when there is such a phase. -/
def sentPayload (scenario : ScenarioConfig) (builtSeed startedSeed : UInt64) (index : ℕ) :
    Except ConfigError (Option PayloadConfig) := do
  let prepared ← prepareScenario host builtSeed scenario cli
  return (prepared.phaseRun host startedSeed index).map LoadTestConfig.payload

/-- **A phase sends its own payload** in the runs of a configuration built
when the clock gave `builtSeed`. -/
def SendsOwnPayload (scenario : ScenarioConfig) (builtSeed : UInt64) (index : ℕ)
    (phase : PhaseConfig) : Prop :=
  ∀ startedSeed payload, documentedPayload cli phase = .ok payload →
    sentPayload host cli scenario builtSeed startedSeed index = .ok (some payload)

/-- The payload of the selected phase, which the base configuration keeps. -/
def selectedPayload (scenario : ScenarioConfig) : Except ConfigError (Option PayloadConfig) := do
  let phase ← CompiledPhase.compile host (← scenario.selectedPhase cli.phase)
  return phase.payload

/-- The phase has a payload, or the selected phase has none but the
default. -/
def BaseFits (scenario : ScenarioConfig) (phase : PhaseConfig) : Prop :=
  phase.payload = none →
    (selectedPayload host cli scenario).map (·.getD cli.defaultPayload) = .ok cli.defaultPayload

variable {host cli}

/-- The phase a compiled phase comes from. -/
theorem CompiledPhase.payload_of_compile {phase : PhaseConfig} {compiled : CompiledPhase}
    (h : CompiledPhase.compile host phase = .ok compiled) :
    phaseVars phase.name phase.actions = .ok compiled.vars
      ∧ compiled.payload
        = phase.payload.map (fun text => PayloadConfig.fromTextWithVars text compiled.vars) := by
  unfold CompiledPhase.compile at h
  simp only [Checked.bind_eq_ok, Checked.pure_eq_ok] at h
  obtain ⟨arrivals, -, size, -, thinkTime, -, vars, hvars, actionNames, -, actions, -, target, -,
    slo, -, chaos, -, rfl⟩ := h
  exact ⟨hvars, rfl⟩

/-- Without a payload flag, a command line's payload is the default. -/
theorem payload_of_fromCliWithTarget {t : UInt64} {cli : Cli} {target : Option String}
    {config : LoadTestConfig}
    (h : LoadTestConfig.fromCliWithTarget host t cli target = .ok config)
    (hfile : cli.payloadFile = none) (htext : cli.payload = none) :
    config.payload = cli.defaultPayload := by
  unfold LoadTestConfig.fromCliWithTarget at h
  obtain ⟨builder, hbuilder, h⟩ := Checked.bind_eq_ok.mp h
  obtain ⟨parts, chaos, -, -, rfl⟩ := LoadTestConfigBuilder.build_eq_ok_iff.mp h
  unfold LoadTestConfig.builderFromCli at hbuilder
  simp only [Checked.bind_eq_ok, Checked.pure_eq_ok] at hbuilder
  obtain ⟨rawUrl, -, url, -, _, -, _, -, times, -, replyMatch, -, graphql, -, payload, hpayload,
    _, -, headers, -, slo, -, stages, -, arrivals, -, chaos, -, rfl⟩ := hbuilder
  unfold payloadFromCli at hpayload
  rw [hfile, htext] at hpayload
  exact (Except.ok.inj hpayload).symm

/-- The default payload does not depend on where the data comes from. -/
theorem defaultPayload_withData (cli : Cli) (data : Option String) :
    { cli with data }.defaultPayload = cli.defaultPayload := by
  unfold Cli.defaultPayload
  rfl

section Prepared

variable {scenario : ScenarioConfig} {t : UInt64}

/-- **The base payload is the selected phase's**, or else the default. -/
theorem fromScenarioConfig_payload {base : LoadTestConfig} (hadmits : cli.AdmitsScenario)
    (h : LoadTestConfig.fromScenarioConfig host t scenario cli = .ok base) :
    ∃ selected, selectedPayload host cli scenario = .ok selected
      ∧ base.payload = selected.getD cli.defaultPayload := by
  unfold LoadTestConfig.fromScenarioConfig at h
  simp only [Checked.bind_eq_ok, Checked.pure_eq_ok] at h
  obtain ⟨_, -, file, hfile, phase, hphase, targets, -, config, hconfig, _, -, phases, -, _, -,
    rfl⟩ := h
  refine ⟨phase.payload, ?_, ?_⟩
  · unfold selectedPayload
    rw [hfile, Checked.ok_bind, hphase]
    rfl
  · have hpayload := payload_of_fromCliWithTarget hconfig hadmits.2.1 hadmits.1
    rw [defaultPayload_withData] at hpayload
    show phase.payload.getD config.payload = _
    rw [hpayload]

variable {prepared : PreparedScenario}

/-- What a prepared scenario runs with: the base payload and the compiled
phases, each with a target. -/
theorem prepareScenario_payload (hadmits : cli.AdmitsScenario)
    (h : prepareScenario host t scenario cli = .ok prepared) :
    ∃ selected, selectedPayload host cli scenario = .ok selected
      ∧ prepared.base.payload = selected.getD cli.defaultPayload := by
  obtain ⟨base, hbase, h⟩ := Checked.bind_eq_ok.mp h
  obtain ⟨selected, hselected, hpayload⟩ := fromScenarioConfig_payload hadmits hbase
  refine ⟨selected, hselected, ?_⟩
  rw [withScenarioData_eq_ok (ScenarioExecutor.new_eq_ok h).1]
  exact hpayload

/-- The payload phase `index` of a run sends: its own, or the selected
phase's, or the default. -/
theorem sentPayload_eq (hadmits : cli.AdmitsScenario)
    (h : prepareScenario host t scenario cli = .ok prepared) {index : ℕ} {phase : CompiledPhase}
    (hphase : prepared.phases[index]? = some phase) {selected : Option PayloadConfig}
    (hselected : selectedPayload host cli scenario = .ok selected) (startedSeed : UInt64) :
    sentPayload host cli scenario t startedSeed index
      = .ok (some (phase.payload.getD (selected.getD cli.defaultPayload))) := by
  -- the phase's own payload, or what the base has
  obtain ⟨selected', hselected', hbase⟩ := prepareScenario_payload hadmits h
  cases Except.ok.inj (hselected.symm.trans hselected')
  obtain ⟨target, hrun⟩ :=
    PreparedScenario.phaseRun_eq (prepareScenario_phases h).2 hphase host startedSeed
  unfold sentPayload
  rw [h, Checked.ok_bind, hrun, ← hbase]
  rfl

/-- What a phase sends and what it is to send. -/
theorem sentPayload_of_run (hadmits : cli.AdmitsScenario)
    (h : prepareScenario host t scenario cli = .ok prepared) {run : List PhaseConfig}
    (hrun : scenario.runPhases cli.phase = .ok run) {index : ℕ} {phase : PhaseConfig}
    (hphase : run[index]? = some phase) :
    ∃ own base, documentedPayload cli phase = .ok (own.getD cli.defaultPayload)
      ∧ (own = none ↔ phase.payload = none)
      ∧ selectedPayload host cli scenario = .ok base
      ∧ ∀ startedSeed, sentPayload host cli scenario t startedSeed index
        = .ok (some (own.getD (base.getD cli.defaultPayload))) := by
  obtain ⟨⟨run', hrun', hcompiled⟩, -⟩ := prepareScenario_phases h
  cases Except.ok.inj (hrun.symm.trans hrun')
  obtain ⟨compiled, hget, hcompile⟩ := Checked.exists_getElem?_mapM hcompiled hphase
  obtain ⟨hvars, hpayload⟩ := CompiledPhase.payload_of_compile hcompile
  obtain ⟨base, hbase, -⟩ := prepareScenario_payload hadmits h
  refine ⟨compiled.payload, base, ?_, ?_, hbase, sentPayload_eq hadmits h hget hbase⟩
  · unfold documentedPayload
    rw [hvars, hpayload, Checked.ok_bind]
    cases phase.payload <;> rfl
  · rw [hpayload, Option.map_eq_none_iff]

/-- A phase sends its own payload when it has one, or the selected phase has
none but the default, and only then. -/
theorem sendsOwnPayload_iff_baseFits (hadmits : cli.AdmitsScenario)
    (h : prepareScenario host t scenario cli = .ok prepared) {run : List PhaseConfig}
    (hrun : scenario.runPhases cli.phase = .ok run) {index : ℕ} {phase : PhaseConfig}
    (hphase : run[index]? = some phase) :
    SendsOwnPayload host cli scenario t index phase ↔ BaseFits host cli scenario phase := by
  obtain ⟨own, base, hown, hnone, hbase, hsent⟩ := sentPayload_of_run hadmits h hrun hphase
  have hsends : SendsOwnPayload host cli scenario t index phase ↔
      own.getD (base.getD cli.defaultPayload) = own.getD cli.defaultPayload := by
    unfold SendsOwnPayload
    simp only [hsent, hown, Except.ok.injEq, Option.some.injEq, forall_eq', forall_const]
  have hfits : BaseFits host cli scenario phase ↔
      (own = none → base.getD cli.defaultPayload = cli.defaultPayload) := by
    unfold BaseFits
    rw [hbase, hnone]
    show (_ → Except.ok _ = Except.ok _) ↔ _
    rw [Except.ok.injEq]
  rw [hsends, hfits]
  cases own <;> simp

end Prepared

/-- **When phases send their own payloads.** For two scenario files that
agree on a phase, it sends its own payload in both runs, and the same one,
exactly when in each file it has a payload or the selected phase has none but
the default. -/
theorem sendsOwnPayload_iff (host : Host) (cli : Cli) (scenario scenario' : ScenarioConfig)
    (t t' : UInt64) (prepared prepared' : PreparedScenario) (run run' : List PhaseConfig)
    (index : ℕ) (phase : PhaseConfig) (hadmits : cli.AdmitsScenario)
    (h : prepareScenario host t scenario cli = .ok prepared)
    (h' : prepareScenario host t' scenario' cli = .ok prepared')
    (hrun : scenario.runPhases cli.phase = .ok run)
    (hrun' : scenario'.runPhases cli.phase = .ok run')
    (hphase : run[index]? = some phase) (hphase' : run'[index]? = some phase) :
    (SendsOwnPayload host cli scenario t index phase
        ∧ SendsOwnPayload host cli scenario' t' index phase
        ∧ ∀ startedSeed startedSeed', sentPayload host cli scenario t startedSeed index
          = sentPayload host cli scenario' t' startedSeed' index)
      ↔ BaseFits host cli scenario phase ∧ BaseFits host cli scenario' phase := by
  rw [sendsOwnPayload_iff_baseFits hadmits h hrun hphase,
    sendsOwnPayload_iff_baseFits hadmits h' hrun' hphase']
  refine ⟨fun hall => ⟨hall.1, hall.2.1⟩, fun ⟨hfits, hfits'⟩ => ⟨hfits, hfits', ?_⟩⟩
  intro startedSeed startedSeed'
  obtain ⟨own, base, hown, -⟩ := sentPayload_of_run hadmits h hrun hphase
  rw [(sendsOwnPayload_iff_baseFits hadmits h hrun hphase).mpr hfits startedSeed _ hown,
    (sendsOwnPayload_iff_baseFits hadmits h' hrun' hphase').mpr hfits' startedSeed' _ hown]

/-! ## A phase without a payload after one with

A scenario whose first phase signs in and whose second is meant to be idle. -/

/-- A phase that signs in. -/
def signInPhase : PhaseConfig where
  name := "sign in"
  duration := some "10s"
  connections := some 5
  payload := some "sign in \x7b\x7bseq\x7d\x7d"

/-- A phase without a payload. -/
def idlePhase : PhaseConfig where
  name := "idle"
  duration := some "10s"
  connections := some 5

/-- A scenario of some phases. -/
def scenarioOf (phases : List PhaseConfig) : ScenarioConfig where
  version := "1.0"
  name := "sign in, then idle"
  phases := phases

/-- A command line with a target only. -/
def targetOnly : Cli where
  url := some "ws://127.0.0.1:9001/"

/-- The scenarios are accepted. -/
theorem scenarioOf_prepared (phases : List PhaseConfig)
    (h : (prepareScenario plainHost 0 (scenarioOf phases) targetOnly).isOk = true) :
    ∃ prepared, prepareScenario plainHost 0 (scenarioOf phases) targetOnly = .ok prepared := by
  cases hp : prepareScenario plainHost 0 (scenarioOf phases) targetOnly with
  | error err => rw [hp] at h; cases h
  | ok prepared => exact ⟨prepared, rfl⟩

/-- **The idle phase signs in**: it has no payload, and sends the first
phase's in place of the default. -/
theorem idle_signs_in :
    (∃ prepared, prepareScenario plainHost 0 (scenarioOf [signInPhase, idlePhase]) targetOnly
        = .ok prepared)
      ∧ ¬SendsOwnPayload plainHost targetOnly (scenarioOf [signInPhase, idlePhase]) 0 1 idlePhase := by
  refine ⟨scenarioOf_prepared _ (by decide +kernel), fun hsends => ?_⟩
  have hsignIn : sentPayload plainHost targetOnly (scenarioOf [signInPhase, idlePhase]) 0 0 1
      = .ok (some (PayloadConfig.fromText "sign in \x7b\x7bseq\x7d\x7d")) := by decide +kernel
  have hdefault := hsignIn.symm.trans (hsends 0 defaultTextPayload (by decide +kernel))
  exact absurd hdefault (by decide +kernel)

/-- The sign-in phase sends its own payload, whether the idle phase follows or
not. -/
theorem signIn_signs_in :
    SendsOwnPayload plainHost targetOnly (scenarioOf [signInPhase, idlePhase]) 0 0 signInPhase
      ∧ SendsOwnPayload plainHost targetOnly (scenarioOf [signInPhase]) 0 0 signInPhase
      ∧ ∀ startedSeed startedSeed',
        sentPayload plainHost targetOnly (scenarioOf [signInPhase, idlePhase]) 0 startedSeed 0
          = sentPayload plainHost targetOnly (scenarioOf [signInPhase]) 0 startedSeed' 0 := by
  obtain ⟨prepared, h⟩ := scenarioOf_prepared [signInPhase, idlePhase] (by decide +kernel)
  obtain ⟨prepared', h'⟩ := scenarioOf_prepared [signInPhase] (by decide +kernel)
  exact (sendsOwnPayload_iff plainHost targetOnly _ _ 0 0 prepared prepared' _ _ 0 signInPhase
    ⟨rfl, rfl, rfl⟩ h h' rfl rfl rfl rfl).mpr ⟨nofun, nofun⟩

end WsBlast
