import WsBlast.AgentRules
import WsBlast.CommandLine

/-!
# The configuration an agent builds

An agent turns its share of a run back into a configuration, with the builder
the command line uses (`WireConfig.intoConfig`), and the script of a scenario's
phase with checks of its own (`WirePhase.intoPhase`). The coordinator does not
build anything for an agent: it checks the undivided run and its phases
(`Coordinator.scenario`), and divides what it checked.

The message between the two is `WireConfig`, a record of texts, numbers and
durations that has no invariants. Everything that a configuration promises is
checked again when it is built on the agent, since an agent does not trust its
coordinator to be of the same version: modes, close modes, templates, headers,
URLs, sizes.
-/

namespace WsBlast

open Checked (reject)

/-! ## Spellings -/

/-- The mode a `--mode` value spells. -/
def TestMode.fromStr (text : String) : Option TestMode :=
  if text = "echo" then some .echo
  else if text = "stream" then some .stream
  else if text = "listen" then some .listen
  else if text = "graphql-ws" ∨ text = "graph-qlws" then some .graphQLWS
  else if text = "socketio" ∨ text = "socket.io" then some .socketIo
  else none

/-- The mode a `--chaos-close-mode` value spells. -/
def ChaosCloseMode.fromStr (text : String) : Option ChaosCloseMode :=
  if text = "abrupt" then some .abrupt
  else if text = "graceful" then some .graceful
  else none

@[simp] theorem TestMode.fromStr_modeName (mode : TestMode) :
    TestMode.fromStr mode.modeName = some mode := by
  cases mode <;> decide

@[simp] theorem ChaosCloseMode.fromStr_name (mode : ChaosCloseMode) :
    ChaosCloseMode.fromStr mode.name = some mode := by
  cases mode <;> decide

/-! ## What arrives

The texts, numbers and durations of a message arrive as they were sent. An
optional JSON value that is `null` arrives as one that is not given. -/

/-- A JSON value, unless it is `null`. -/
def Json.given : Json → Option Json
  | .null => none
  | value => some value

/-- GraphQL settings as they arrive. -/
def GraphQLWSConfig.arrived (graphql : GraphQLWSConfig) : GraphQLWSConfig :=
  { graphql with
    «variables» := graphql.variables.bind Json.given
    extensions := graphql.extensions.bind Json.given }

/-- An action as it arrives. -/
def WireAction.arrived : WireAction → WireAction
  | .send payload count expect captures name =>
    .send payload count (expect.map Check.arrived) captures name
  | action => action

/-- A phase as it arrives. -/
def WirePhase.arrived (phase : WirePhase) : WirePhase :=
  { phase with actions := phase.actions.map WireAction.arrived }

/-- A share as it arrives. -/
def WireConfig.arrived (wire : WireConfig) : WireConfig :=
  { wire with
    expect := wire.expect.map Check.arrived
    graphql := wire.graphql.map GraphQLWSConfig.arrived
    phase := wire.phase.map WirePhase.arrived }

/-! ## Building the share

Field by field, in the order of the source; the first field that is not accepted
ends the build with its error. -/

/-- Adds a handshake header to the settings; the first one that is not valid is
kept for `build` to report. -/
def LoadTestConfigBuilder.header (builder : LoadTestConfigBuilder) (name value : String) :
    LoadTestConfigBuilder :=
  match headerName (trim name), headerValue (trim value) with
  | some name, some value => { builder with headers := appendHeader builder.headers ⟨name, value⟩ }
  | none, _ =>
    { builder with invalidHeader := builder.invalidHeader.or (some s!"Invalid header name '{name}'") }
  | some _, none =>
    { builder with
      invalidHeader := builder.invalidHeader.or (some s!"Invalid header value '{value}'") }

/-- The payload of a share. -/
def WirePayload.intoConfig : WirePayload → Except ConfigError PayloadConfig
  | .text source => .ok (PayloadConfig.fromText source)
  | .binary base64 =>
    match Base64.decode base64 with
    | some bytes => .ok (.binary bytes)
    | none => .error (.invalidOption "the binary payload is not valid base64")

/-- Rejects a place among the agents that is not one. -/
def Share.validate (share : Share) (what : String) : Except ConfigError Unit :=
  reject (share.agents = 0 ∨ share.agents ≤ share.index)
    (.invalidOption s!"invalid {what} share {share.index} of {share.agents}")

/-- The data file of a share. -/
def WireData.intoDataSet (data : WireData) : Except ConfigError DataSet := do
  let set ← (DataSet.fromParts data.path data.columns data.rows).mapError .dataFile
  match data.share with
  | none => return set
  | some share =>
    share.validate "data"
    return set.withShare share.index share.agents

/-- A header that is not part of an error message. -/
def WireHeader.parse (header : WireHeader) : Except ConfigError Header :=
  match headerName header.name, headerValue header.value with
  | none, _ => .error (.invalidHeader s!"invalid header name '{header.name}'")
  | some _, none => .error (.invalidHeader
      "the refreshed authentication header value is not a valid header value")
  | some name, some value => .ok ⟨name, value⟩

/-- The faults an agent injects, checked as the command line checks them. A
phase with actions sends data frames in any mode. -/
def WireChaos.intoConfig (chaos : WireChaos) (mode : TestMode) (scripted : Bool) :
    Except ConfigError ChaosConfig :=
  match ChaosCloseMode.fromStr chaos.closeMode with
  | none => .error (.unsupportedOption s!"unknown chaos close mode '{chaos.closeMode}'")
  | some closeMode => do
    let config : ChaosConfig :=
      { delay := chaos.delay
        jitter := chaos.jitter
        dropPercent := chaos.dropPercent
        corruptPercent := chaos.corruptPercent
        closePercent := chaos.closePercent
        closeMode
        readPause := chaos.readPause
        readJitter := chaos.readJitter
        seed := some chaos.seed }
    config.validate
    validateChaosMode config mode scripted ""
    return config

/-- The GraphQL settings of a share. -/
def GraphQLOptions.ofWire : Option GraphQLWSConfig → GraphQLOptions
  | some graphql => ⟨some graphql.operation, graphql.operationName, graphql.variables,
      graphql.extensions⟩
  | none => {}

/-- The Socket.IO settings of a share. -/
def SocketIoOptions.ofWire : Option WireSocketIo → SocketIoOptions
  | some sio => ⟨some sio.event, some sio.namespace, sio.auth, some sio.version⟩
  | none => {}

namespace WireConfig

variable (wire : WireConfig)

/-- The settings of a share, before its headers. -/
def settings (serde : Serde) (mode : TestMode) (replyMatch : ReplyMatch) (payload : PayloadConfig)
    (data : Option DataSet) : LoadTestConfigBuilder where
  target := wire.target
  connections := wire.connections
  rampRate := wire.rampRate
  duration := wire.duration
  stages := wire.stages.map (fun stage => ⟨stage.duration, stage.target⟩)
  arrivals := wire.arrivals.map
    (fun arrivals => ⟨arrivals.rate, arrivals.sessionDuration, arrivals.maxConnections⟩)
  maxRequests := wire.maxRequests
  ratePerConn := wire.ratePerConn
  payload
  data := data.map .loaded
  subprotocol := wire.subprotocol
  compression := wire.compression
  mode
  connectTimeout := wire.connectTimeout
  messageTimeout := wire.messageTimeout
  pingInterval := wire.pingInterval
  graphql := .ofWire wire.graphql
  socketio := .ofWire wire.socketio
  reconnect := wire.reconnect
  replyMatch
  expect := wire.expect.map (Check.flagValue serde)

/-- The mode of a share. -/
def testMode : Except ConfigError TestMode :=
  match TestMode.fromStr wire.mode with
  | some mode => .ok mode
  | none => .error (.unsupportedOption
      s!"mode '{wire.mode}' is not supported by this agent's build of wsblast")

/-- The builder of the agent's configuration. -/
def builder (serde : Serde) : Except ConfigError LoadTestConfigBuilder := do
  let mode ← wire.testMode
  let replyMatch ← ReplyMatch.fromStr wire.replyMatch
  let payload ← wire.payload.intoConfig
  let data ← wire.data.mapM WireData.intoDataSet
  return wire.headers.foldl (fun builder header => builder.header header.name header.value)
    (wire.settings serde mode replyMatch payload data)

/-- Whether the share's phase has an action script. -/
def scripted : Bool := wire.phase.any (fun phase => phase.actions ≠ [])

/-- Takes the agent's place in a staged profile. -/
def takeStages (config : LoadTestConfig) : Except ConfigError LoadTestConfig :=
  match wire.stageShare with
  | none => .ok config
  | some share => do
    share.validate "stage"
    reject (config.stages = []) (.invalidOption "a stage share needs stages")
    return { config with
      connections := share.of config.connections
      stageShare := some share }

/-- Builds the agent's configuration with the same validation as the command
line. -/
def intoConfig (host : Host) (timeSeed : UInt64) : Except ConfigError LoadTestConfig := do
  let builder ← wire.builder host.serde
  let config ← builder.build host timeSeed
  let liveAuth ← wire.liveAuth.mapM WireHeader.parse
  let chaos ← wire.chaos.mapM (fun chaos => chaos.intoConfig builder.mode wire.scripted)
  let config ← wire.takeStages
    { config with
      liveAuth := liveAuth.or config.liveAuth
      chaos := chaos.or config.chaos }
  reject (config.connections = 0) (.zeroConcurrency 0)
  return config

end WireConfig

/-! ## Scripts

What a phase needs besides its share: its actions, their payloads, checks and
captures. -/

/-- The payload of a script's action. -/
def payloadFromWire (vars : List String) : WirePayload → Except ConfigError PayloadConfig
  | .text text => .ok (PayloadConfig.fromTextWithVars text vars)
  | .binary base64 =>
    match Base64.decode base64 with
    | some bytes => .ok (.binary bytes)
    | none => .error (.invalidOption "a binary payload is not valid base64")

/-- An action for the wire. -/
def wireAction : ScenarioAction → WireAction
  | .send payload count expect captures name =>
    .send (payload.map wirePayload) count expect captures name
  | .wait duration => .wait duration
  | .ping interval => .ping interval
  | .close code reason => .close code reason

namespace WirePhase

/-- The parts of a phase an agent needs besides its share. -/
def fromPhase (phase : CompiledPhase) : WirePhase where
  name := phase.name
  thinkTime := phase.thinkTime
  actions := phase.actions.map wireAction
  vars := phase.vars
  actionNames := phase.actionNames

variable (phase : WirePhase)

/-- Parses and checks an action. -/
def intoAction : WireAction → Except ConfigError ScenarioAction
  | .send payload count expect captures name => do
    reject (name.any (phase.actionNames.length ≤ ·) = true)
      (invalidPhase phase.name "an action names an unknown action name")
    reject (count = 0) (invalidPhase phase.name "send action count must be greater than zero")
    expect.forM (fun check =>
      check.validate.mapError (fun message => invalidPhase phase.name s!"expect: {message}"))
    match captures.find? (fun capture => phase.vars.length ≤ capture.var) with
    | some capture => throw (invalidPhase phase.name
        s!"capture into variable {capture.var} of {phase.vars.length}")
    | none =>
      let payload ← payload.mapM (payloadFromWire phase.vars)
      return .send payload count expect captures name
  | .wait duration => do
    reject (duration = 0)
      (invalidPhase phase.name "wait action duration must be greater than zero")
    return .wait duration
  | .ping interval => do
    reject (interval = 0)
      (invalidPhase phase.name "ping action interval must be greater than zero")
    return .ping interval
  | .close code reason => do
    return .close (← validateCloseCode code) reason

/-- The payload of the share, parsed again with the variables of the phase. -/
def withVars (vars : List String) : PayloadConfig → PayloadConfig
  | .staticText text =>
    if vars = [] then .staticText text else PayloadConfig.fromTextWithVars text vars
  | .dynamicText template =>
    if vars = [] then .dynamicText template
    else PayloadConfig.fromTextWithVars template.source vars
  | .binary bytes => .binary bytes

/-- The phase an agent runs with `config`, its share. -/
def intoPhase (config : LoadTestConfig) : Except ConfigError CompiledPhase := do
  phase.vars.forM (fun name => (checkVarName name).mapError (fun message =>
    invalidPhase phase.name s!"capture: {message}"))
  let actions ← phase.actions.mapM phase.intoAction
  return {
    thinkTime := phase.thinkTime
    actions
    vars := phase.vars
    name := phase.name
    duration := config.duration
    connections := config.connections
    rampRate := config.rampRate
    ratePerConn := config.ratePerConn
    payload := some (withVars phase.vars config.payload)
    actionNames := phase.actionNames
    slo := {}
    stages := config.stages
    arrivals := config.arrivals
    chaos := some (config.chaos.getD {}) }

end WirePhase

/-! ## Accepting a scenario

The coordinator compiles every phase and plans it, so that a phase that cannot
be divided is named before anything runs. -/

/-- Names the phase that cannot be split. -/
def planPhase (host : Host) (timeSeed : UInt64) (base : LoadTestConfig) (agents : ℕ)
    (run : CompiledPhase × String) : Except ConfigError (List WireConfig) :=
  (plan ((phaseConfig timeSeed base run.1).setTarget host run.2) agents).mapError fun err =>
    match err with
    | .invalidOption reason => .invalidOption s!"phase '{run.1.name}': {reason}"
    | err => err

/-- Checks a scenario for `agents` agents: against the base configuration it
runs with, and that each of its phases can be split. The token and the
addresses of the agents are checked before. -/
def Coordinator.scenario (host : Host) (timeSeed : UInt64) (scenario : ScenarioConfig)
    (base : LoadTestConfig) (phase targetOverride : Option String) (agents : ℕ) :
    Except ConfigError PreparedScenario := do
  scenario.validate host
  scenario.validateSloMode host base.mode phase
  let base ← withScenarioData host scenario base
  let _ ← compileSlo scenario.slo "slo"
  let _ ← scenario.actionSlos host phase
  let targets ← scenario.resolvePhaseTargets host targetOverride phase
  let phases ← scenario.compile host phase
  validatePhases phases base
  (phases.zip targets).forM (fun run => do
    let _ ← planPhase host timeSeed base agents run)
  return { base, phases, targets }

end WsBlast
