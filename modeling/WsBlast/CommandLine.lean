import WsBlast.ScenarioFile

/-!
# From the command line to the phases' configurations

`LoadTestConfig.fromCliWithTarget` turns the flags into a builder and builds
it. For a scenario, `LoadTestConfig.fromScenarioConfig` builds the base
configuration from the flags and the selected phase, and
`ScenarioExecutor.new` checks the phases against it; every phase then runs
with `PreparedScenario.phaseRun`, the base configuration with the phase's
settings and target in it.

Two configurations are built one after the other, and the difference between
them is where the surprises are. The base configuration comes from the flags,
completed with the sizing, pace and payload of one phase; it is checked as a
run of its own. A phase then runs with the base, its own settings put in their
places. Whatever the base took from its one phase is what the other phases fall
back on.
-/

namespace WsBlast

open Checked (reject)

/-! ## Flags

The flags in the order in which the builder reads them. -/

/-- The flags a configuration is built from. -/
structure Cli where
  /-- The target, as an argument or with `--url`. -/
  url : Option String := none
  connections : ℕ := 50
  rampRate : ℕ := 0
  duration : String := "10s"
  stages : Option String := none
  arrivalRate : Option ℚ := none
  sessionDuration : Option String := none
  maxConnections : Option ℕ := none
  requests : Option ℕ := none
  rate : ℕ := 0
  mode : TestMode := .echo
  payload : Option String := none
  payloadFile : Option String := none
  binary : Bool := false
  headers : List String := []
  data : Option String := none
  subprotocol : Option String := none
  sourceIp : List String := []
  compression : Bool := false
  connectTimeout : String := "5s"
  messageTimeout : String := "5s"
  pingInterval : String := "0s"
  replyMatch : String := "first"
  expect : Option String := none
  noReconnect : Bool := false
  maxP50 : Option String := none
  maxP95 : Option String := none
  maxP99 : Option String := none
  maxP999 : Option String := none
  maxErrorRate : Option ℚ := none
  minThroughput : Option ℚ := none
  maxGeneratorLag : Option String := none
  graphqlWsOperation : Option String := none
  graphqlWsOperationName : Option String := none
  graphqlWsVariables : Option String := none
  graphqlWsExtensions : Option String := none
  sioEvent : Option String := none
  sioNamespace : Option String := none
  sioAuth : Option String := none
  sioVersion : Option ℕ := none
  chaosDelay : Option String := none
  chaosDrop : Option ℚ := none
  chaosCorrupt : Option ℚ := none
  chaosClose : Option ℚ := none
  chaosCloseMode : ChaosCloseMode := .abrupt
  chaosReadPause : Option String := none
  chaosSeed : Option UInt64 := none
  /-- The one phase of the scenario that is run. -/
  phase : Option String := none

/-- The flags that can be given with `--scenario`: the others that size a run
or set its payload exclude it. -/
def Cli.AdmitsScenario (cli : Cli) : Prop :=
  cli.payload = none ∧ cli.payloadFile = none ∧ cli.arrivalRate = none

/-- The faults the `--chaos-*` flags ask for, checked by the builder. -/
def chaosFromCli (cli : Cli) : Except ConfigError (Option ChaosConfig) := do
  let (delay, jitter) ← optionalDelay cli.chaosDelay
  let (readPause, readJitter) ← optionalDelay cli.chaosReadPause
  return some
    { delay
      jitter
      dropPercent := cli.chaosDrop.getD 0
      corruptPercent := cli.chaosCorrupt.getD 0
      closePercent := cli.chaosClose.getD 0
      closeMode := cli.chaosCloseMode
      readPause
      readJitter
      seed := cli.chaosSeed }

/-- The JSON object of a GraphQL flag. -/
def parseGraphqlJsonObject (host : Host) (flag : String) (raw : Option String) :
    Except ConfigError (Option Json) :=
  match raw with
  | none => .ok none
  | some raw =>
    match host.serde.fromStr raw with
    | none =>
      let message := host.jsonError raw
      .error (.invalidOption s!"{flag} must contain valid JSON: {message}")
    | some value =>
      if value.isObject then .ok (some value)
      else .error (.invalidOption s!"{flag} must contain a JSON object")

/-- The GraphQL settings of the flags, rejected outside `graphql-ws`
mode. -/
def buildGraphqlConfig (host : Host) (cli : Cli) :
    Except ConfigError (Option GraphQLWSConfig) :=
  if cli.mode ≠ .graphQLWS then do
    reject (cli.graphqlWsOperation.isSome ∨ cli.graphqlWsOperationName.isSome
        ∨ cli.graphqlWsVariables.isSome ∨ cli.graphqlWsExtensions.isSome)
      (.unsupportedOption "GraphQL WS options require --mode graphql-ws")
    return none
  else
    match cli.graphqlWsOperation.filter (fun operation => !isBlank operation) with
    | none => .error (.invalidOption "--mode graphql-ws requires --graphql-ws-operation <QUERY>")
    | some operation => do
      return some
        { operationName := cli.graphqlWsOperationName
          operation
          «variables» :=
            ← parseGraphqlJsonObject host "--graphql-ws-variables" cli.graphqlWsVariables
          extensions :=
            ← parseGraphqlJsonObject host "--graphql-ws-extensions" cli.graphqlWsExtensions }

/-- The default binary payload. -/
def defaultBinaryPayload : PayloadConfig := .binary "wsblast-payload".toUTF8.data.toList

/-- The payload when no flag gives one. -/
def Cli.defaultPayload (cli : Cli) : PayloadConfig :=
  if cli.binary then defaultBinaryPayload else defaultTextPayload

/-- The payload the flags give. -/
def payloadFromCli (host : Host) (cli : Cli) : Except ConfigError PayloadConfig :=
  match cli.payloadFile, cli.payload with
  | some path, _ => do
    let bytes ← (host.readBytes path).mapError (.payloadFile path)
    if cli.binary then return .binary bytes
    else match String.fromUTF8? ⟨bytes.toArray⟩ with
      | some text => return PayloadConfig.fromText text
      | none => throw (.payloadFile path (host.utf8Error bytes))
  | none, some text =>
    if cli.binary then .ok (.binary text.toUTF8.data.toList)
    else .ok (PayloadConfig.fromText text)
  | none, none => .ok cli.defaultPayload

/-- Parses a `-H` header. -/
def parseHeaderPair (header : String) : Except ConfigError Header :=
  match splitOnce ':' header with
  | none => .error (.invalidHeader header)
  | some (name, value) =>
    match headerName (trim name), headerValue (trim value) with
    | none, _ => .error (.invalidHeader s!"Invalid header name '{name}'")
    | some _, none => .error (.invalidHeader s!"Invalid header value '{value}'")
    | some name, some value => .ok ⟨name, value⟩

/-- An optional duration. -/
def optionalDuration (raw : Option String) : Except ConfigError (Option Duration) :=
  raw.mapM parseHumanDuration

/-- The durations of the flags. -/
structure CliTimes where
  duration : Duration
  connectTimeout : Duration
  messageTimeout : Duration
  pingInterval : Duration

/-- The durations of the flags, each of which has a default. -/
def timesFromCli (cli : Cli) : Except ConfigError CliTimes := do
  return {
    duration := ← parseHumanDuration cli.duration
    connectTimeout := ← parseHumanDuration cli.connectTimeout
    messageTimeout := ← parseHumanDuration cli.messageTimeout
    pingInterval := ← parseHumanDuration cli.pingInterval }

/-- The thresholds of the flags. -/
def sloFromCli (cli : Cli) : Except ConfigError SloThresholds := do
  return {
    maxP50 := ← optionalDuration cli.maxP50
    maxP95 := ← optionalDuration cli.maxP95
    maxP99 := ← optionalDuration cli.maxP99
    maxP999 := ← optionalDuration cli.maxP999
    maxErrorRate := cli.maxErrorRate
    minThroughput := cli.minThroughput
    maxGeneratorLag := ← optionalDuration cli.maxGeneratorLag }

/-- The arrival-rate model of the flags. -/
def arrivalsFromCli (cli : Cli) : Except ConfigError (Option Arrivals) :=
  match cli.arrivalRate, cli.sessionDuration with
  | some rate, some session => do
    return some ⟨rate, ← parseHumanDuration session, cli.maxConnections⟩
  | _, _ => .ok none

/-- The staged profile of the flags. -/
def stagesFromCli (cli : Cli) : Except ConfigError (List Stage) :=
  match cli.stages with
  | some spec => Stage.parseList spec
  | none => .ok []

/-- The target, which some source must give. -/
def requireUrl : Option String → Except ConfigError String
  | some url => .ok url
  | none => .error (.invalidUrl ""
      "No target URL provided. Specify target as argument or --url <URL>")

namespace LoadTestConfig

/-- The builder the flags are converted into, with the target of a scenario
file in place of the flags' when there is one. -/
def builderFromCli (host : Host) (cli : Cli) (targetOverride : Option String) :
    Except ConfigError LoadTestConfigBuilder := do
  let rawUrl ← requireUrl (targetOverride.or cli.url)
  let _ ← parseTargetUrl host rawUrl
  validateConnections cli.connections
  validateMaxRequests cli.requests
  let times ← timesFromCli cli
  let replyMatch ← ReplyMatch.fromStr cli.replyMatch
  let graphql ← buildGraphqlConfig host cli
  let payload ← payloadFromCli host cli
  validateReplyMatch replyMatch cli.mode [payload]
  let headers ← cli.headers.mapM parseHeaderPair
  let slo ← sloFromCli cli
  let stages ← stagesFromCli cli
  let arrivals ← arrivalsFromCli cli
  let chaos ← chaosFromCli cli
  return {
    target := rawUrl
    connections := cli.connections
    rampRate := cli.rampRate
    duration := times.duration
    stages
    arrivals
    maxRequests := cli.requests
    ratePerConn := cli.rate
    payload
    headers := headers.foldl appendHeader []
    data := cli.data.map .file
    subprotocol := cli.subprotocol
    sourceIps := cli.sourceIp
    compression := cli.compression
    mode := cli.mode
    connectTimeout := times.connectTimeout
    messageTimeout := times.messageTimeout
    pingInterval := times.pingInterval
    graphql := match graphql with
      | some graphql => ⟨some graphql.operation, graphql.operationName, graphql.variables,
          graphql.extensions⟩
      | none => {}
    socketio := ⟨cli.sioEvent, cli.sioNamespace, cli.sioAuth, cli.sioVersion⟩
    slo
    reconnect := !cli.noReconnect
    replyMatch
    expect := cli.expect
    chaos }

/-- Builds the configuration of the flags. -/
def fromCliWithTarget (host : Host) (timeSeed : UInt64) (cli : Cli)
    (targetOverride : Option String) : Except ConfigError LoadTestConfig := do
  (← builderFromCli host cli targetOverride).build host timeSeed

/-- Points the run at a scenario phase's target, with the Socket.IO path and
query added in socketio mode. -/
def setTarget (host : Host) (config : LoadTestConfig) (url : String) : LoadTestConfig :=
  { config with targetUrl := sessionUrl host.urls config.socketio url }

end LoadTestConfig

/-! ## Scenarios

How the configuration of a phase comes about, from the file and the flags. -/

/-- Checks a phase against the configuration it runs with: `expect` and
`capture` need replies, every column its payloads read is one of the data
file, and its payloads can be matched. -/
def validatePhase (config : LoadTestConfig) (phase : CompiledPhase) : Except ConfigError Unit := do
  let checksReplies := phase.actions.any (fun action => match action with
    | .send _ _ expect captures _ => expect.isSome || captures ≠ []
    | _ => false)
  reject (checksReplies = true ∧ config.mode.awaitsReplies = false) (invalidPhase phase.name
    s!"expect and capture need --mode echo or socketio; {config.mode.debug} mode does not wait for replies")
  let phasePayload := phase.payload.getD config.payload
  let payloads := phasePayload :: phase.actions.filterMap (fun action => match action with
    | .send payload _ _ _ _ => some (payload.getD phasePayload)
    | _ => none)
  (payloads.filterMap PayloadConfig.template).forM fun template =>
    (template.checkData config.data).mapError (fun message =>
      invalidPhase phase.name s!"payload: {message}")
  validateReplyMatch config.replyMatch config.mode payloads

/-- Checks a scenario's phases against the configuration they run with. -/
def validatePhases (phases : List CompiledPhase) (config : LoadTestConfig) :
    Except ConfigError Unit :=
  phases.forM (validatePhase config)

/-- Builds the base configuration of a scenario: the flags', with the sizing,
the pace and the payload of the selected phase. -/
def LoadTestConfig.fromScenarioConfig (host : Host) (timeSeed : UInt64)
    (scenario : ScenarioConfig) (cli : Cli) : Except ConfigError LoadTestConfig := do
  reject (cli.stages.isSome = true) (.unsupportedOption
    "--stages cannot be used with --scenario; give each scenario phase its own connections and ramp_rate, or its own stages")
  let phase ← CompiledPhase.compile host (← scenario.selectedPhase cli.phase)
  let targets ← scenario.resolvePhaseTargets host cli.url cli.phase
  let config ← LoadTestConfig.fromCliWithTarget host timeSeed
    { cli with data := cli.data.or scenario.data } targets.head?
  scenario.validateSloMode host config.mode cli.phase
  let config : LoadTestConfig :=
    { config with
      connections := phase.connections
      duration := phase.duration
      rampRate := phase.rampRate
      arrivals := phase.arrivals
      ratePerConn := phase.ratePerConn
      payload := phase.payload.getD config.payload }
  validatePhases (← scenario.compile host cli.phase) config
  return config

/-- A scenario that is ready to run: the base configuration, and the phases
with their targets. -/
structure PreparedScenario where
  base : LoadTestConfig
  phases : List CompiledPhase
  targets : List String

/-- The configuration phase `index` runs with; `timeSeed` is what the clock
gives for a seed when the phase starts. -/
def PreparedScenario.phaseRun (prepared : PreparedScenario) (host : Host) (timeSeed : UInt64)
    (index : ℕ) : Option LoadTestConfig := do
  let phase ← prepared.phases[index]?
  let target ← prepared.targets[index]?
  return phaseConfig timeSeed (prepared.base.setTarget host target) phase

/-- The scenario's data file, unless the configuration has one. -/
def withScenarioData (host : Host) (scenario : ScenarioConfig) (base : LoadTestConfig) :
    Except ConfigError LoadTestConfig :=
  match base.data, scenario.data with
  | none, some path => do
    let data ← (DataSet.load host path).mapError .dataFile
    return { base with data := some data }
  | _, _ => .ok base

/-- Checks a scenario against the base configuration it runs with. -/
def ScenarioExecutor.new (host : Host) (scenario : ScenarioConfig) (base : LoadTestConfig)
    (phase targetOverride : Option String) : Except ConfigError PreparedScenario := do
  scenario.validate host
  scenario.validateSloMode host base.mode phase
  let base ← withScenarioData host scenario base
  let phases ← scenario.compile host phase
  validatePhases phases base
  let _ ← compileSlo scenario.slo "slo"
  let _ ← scenario.actionSlos host phase
  let targets ← scenario.resolvePhaseTargets host targetOverride phase
  return { base, phases, targets }

/-- What a scenario that was accepted is. -/
theorem ScenarioExecutor.new_eq_ok {host : Host} {scenario : ScenarioConfig}
    {base : LoadTestConfig} {phase targetOverride : Option String} {prepared : PreparedScenario}
    (h : ScenarioExecutor.new host scenario base phase targetOverride = .ok prepared) :
    withScenarioData host scenario base = .ok prepared.base
      ∧ scenario.compile host phase = .ok prepared.phases
      ∧ scenario.resolvePhaseTargets host targetOverride phase = .ok prepared.targets := by
  unfold ScenarioExecutor.new at h
  simp only [Checked.bind_eq_ok, Checked.pure_eq_ok] at h
  obtain ⟨_, -, _, -, config, hconfig, phases, hphases, _, -, slo, -, slos, -, targets, htargets,
    rfl⟩ := h
  exact ⟨hconfig, hphases, htargets⟩

/-- The scenario's data file is all that is added to the base. -/
theorem withScenarioData_eq_ok {host : Host} {scenario : ScenarioConfig}
    {base config : LoadTestConfig} (h : withScenarioData host scenario base = .ok config) :
    config = { base with data := config.data } := by
  unfold withScenarioData at h
  split at h
  · obtain ⟨data, -, h⟩ := Checked.bind_eq_ok.mp h
    cases Checked.pure_eq_ok.mp h
    rfl
  · cases h
    rfl

/-- What `--scenario FILE` runs on one machine: the base configuration built
from the flags, and the phases checked against it. -/
def prepareScenario (host : Host) (timeSeed : UInt64) (scenario : ScenarioConfig) (cli : Cli) :
    Except ConfigError PreparedScenario := do
  let base ← LoadTestConfig.fromScenarioConfig host timeSeed scenario cli
  ScenarioExecutor.new host scenario base cli.phase cli.url

/-- The phases of a prepared scenario are compiled from those that run, and
each has a target. -/
theorem prepareScenario_phases {host : Host} {t : UInt64} {scenario : ScenarioConfig} {cli : Cli}
    {prepared : PreparedScenario} (h : prepareScenario host t scenario cli = .ok prepared) :
    (∃ run, scenario.runPhases cli.phase = .ok run
      ∧ run.mapM (CompiledPhase.compile host) = .ok prepared.phases)
      ∧ prepared.targets.length = prepared.phases.length := by
  obtain ⟨base, -, h⟩ := Checked.bind_eq_ok.mp h
  obtain ⟨-, hphases, htargets⟩ := ScenarioExecutor.new_eq_ok h
  obtain ⟨run, hrun, hphases⟩ := Checked.bind_eq_ok.mp hphases
  obtain ⟨run', hrun', htargets⟩ := Checked.bind_eq_ok.mp htargets
  cases Except.ok.inj (hrun.symm.trans hrun')
  refine ⟨⟨run, hrun, hphases⟩, ?_⟩
  rw [← (Checked.mapM_eq_ok.mp hphases).length_eq, ← (Checked.mapM_eq_ok.mp htargets).length_eq]

/-- The configuration of a phase that runs. -/
theorem PreparedScenario.phaseRun_eq {prepared : PreparedScenario}
    (hlen : prepared.targets.length = prepared.phases.length) {index : ℕ} {phase : CompiledPhase}
    (hphase : prepared.phases[index]? = some phase) (host : Host) (t : UInt64) :
    ∃ target, prepared.phaseRun host t index
      = some (phaseConfig t (prepared.base.setTarget host target) phase) := by
  have hindex : index < prepared.targets.length := by
    rw [hlen]
    exact (List.getElem?_eq_some_iff.mp hphase).1
  refine ⟨prepared.targets[index], ?_⟩
  unfold PreparedScenario.phaseRun
  simp only [hphase, List.getElem?_eq_getElem hindex, Option.bind_eq_bind, Option.bind_some,
    Option.pure_def]

end WsBlast
