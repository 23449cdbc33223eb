import WsBlast.DataFile
import WsBlast.Plan
import WsBlast.Slo

/-!
# Building a configuration

`LoadTestConfigBuilder` collects the settings of a load test and `build`
checks them, in the order the program does: the URL, the sizing, the reply
rule, the GraphQL and Socket.IO settings, the headers, the data file with
every template that reads it, the source addresses, `--expect` and the
faults. The command line and a distributed agent both go through it.

The order of the checks decides which of several mistakes is reported, and in a
few places it decides more: the data file is read before the templates that use
it are checked, and the faults are looked at last, when it is known which mode
and which actions there are. So the model keeps one sequence, as the source has
it, and cuts it only in front of the faults.
-/

namespace WsBlast

open Checked (reject)

/-! ## Settings that are checked together

Option groups as they come from flags and files, with everything optional. -/

/-- Where the builder's data file comes from. -/
inductive DataSource where
  | file (path : String)
  /-- Rows a distributed agent received from the coordinator. -/
  | loaded (data : DataSet)

/-- GraphQL WS settings, unchecked. -/
structure GraphQLOptions where
  operation : Option String := none
  operationName : Option String := none
  «variables» : Option Json := none
  extensions : Option Json := none

/-- The `--sio-*` settings, unchecked. -/
structure SocketIoOptions where
  event : Option String := none
  «namespace» : Option String := none
  auth : Option String := none
  version : Option ℕ := none

/-- The settings of a load test, unchecked. -/
structure LoadTestConfigBuilder where
  target : String
  connections : ℕ := 50
  rampRate : ℕ := 0
  duration : Duration := Duration.ofSecs 10
  stages : List Stage := []
  arrivals : Option Arrivals := none
  maxRequests : Option ℕ := none
  ratePerConn : ℕ := 0
  payload : PayloadConfig := defaultTextPayload
  headers : List Header := []
  invalidHeader : Option String := none
  data : Option DataSource := none
  subprotocol : Option String := none
  sourceIps : List String := []
  compression : Bool := false
  mode : TestMode := .echo
  connectTimeout : Duration := Duration.ofSecs 5
  messageTimeout : Duration := Duration.ofSecs 5
  pingInterval : Duration := 0
  graphql : GraphQLOptions := {}
  socketio : SocketIoOptions := {}
  slo : SloThresholds := {}
  reconnect : Bool := true
  replyMatch : ReplyMatch := .first
  expect : Option String := none
  chaos : Option ChaosConfig := none

/-- A number as `f64` prints it: its digits, without zeros at the end. -/
def displayDecimal (q : ℚ) : String :=
  let digits := ((List.range 18).find? (fun k => (|q| * 10 ^ k).den = 1)).getD 17
  if digits = 0 then (if q < 0 then "-" else "") ++ toString ⌊|q|⌋.toNat else toFixed digits q

/-! ## Load profiles

A run has connections, stages or arrivals, and not two of them. -/

namespace Arrivals

/-- The highest arrival rate accepted, in sessions per second. -/
def maxArrivalRate : ℚ := 1000000

variable (arrivals : Arrivals)

/-- The number of sessions open at once once the run is steady: the rate
times the session duration, rounded up, at most `maxConnections`, and at
least 1. -/
def expectedConnections : ℕ :=
  let sessions := ⌈arrivals.rate * Duration.asSecs arrivals.sessionDuration⌉
  let sessions := if 1 ≤ sessions then min sessions.toNat usizeMax else 1
  max (match arrivals.maxConnections with
    | some cap => min sessions cap
    | none => sessions) 1

/-- Checks the values, naming them as the flags or the scenario keys do. -/
def checkValues (rate session cap : String) : Except String Unit := do
  let received := displayDecimal arrivals.rate
  reject (¬(0 < arrivals.rate ∧ arrivals.rate ≤ maxArrivalRate))
    s!"{rate} must be greater than zero and at most 1000000 sessions per second, received {received}"
  reject (arrivals.sessionDuration = 0) s!"{session} must be greater than zero"
  reject (arrivals.maxConnections = some 0) s!"{cap} must be greater than zero"

/-- Checks the values, and that no other load profile is set. -/
def validate (stages : List Stage) (rampRate : ℕ) : Except ConfigError Unit := do
  (arrivals.checkValues "--arrival-rate" "--session-duration" "--max-connections").mapError
    .invalidOption
  let conflict (flag : String) : ConfigError := .unsupportedOption
    s!"--arrival-rate starts sessions at its own rate and cannot be combined with {flag}"
  reject (stages ≠ []) (conflict "--stages")
  reject (0 < rampRate) (conflict "--ramp-rate")

end Arrivals

/-- Checks a staged profile: no other ramp, and no stage without a
duration. -/
def validateStages (stages : List Stage) (rampRate : ℕ) : Except ConfigError Unit := do
  reject (0 < rampRate) (.unsupportedOption
    "--stages sets the connection ramp itself and cannot be combined with --ramp-rate")
  match stages.findIdx? (fun stage => stage.duration = 0) with
  | some index => throw (.invalidOption
      s!"stage {index + 1} has a zero duration; every stage needs a duration greater than zero")
  | none => return ()

/-- The highest target of a profile. -/
def Stage.highest (stages : List Stage) : ℕ := (stages.map Stage.target).foldl max 0

/-- How long a profile lasts. -/
def Stage.total (stages : List Stage) : Duration := (stages.map Stage.duration).sum

/-- A run has at least one connection. -/
def validateConnections (connections : ℕ) : Except ConfigError Unit :=
  reject (connections = 0) (.zeroConcurrency 0)

/-- A limit of no request at all is a mistake. -/
def validateMaxRequests (maxRequests : Option ℕ) : Except ConfigError Unit :=
  reject (maxRequests = some 0) (.invalidOption "requests limit (-n) must be greater than zero")

/-! ## Thresholds and replies

Budgets are checked against the mode: a mode that waits for no reply has no
latency to gate on. -/

/-- Whether a latency threshold is set. -/
def SloThresholds.hasLatency (slo : SloThresholds) : Bool :=
  slo.maxP50.isSome || slo.maxP95.isSome || slo.maxP99.isSome || slo.maxP999.isSome

/-- Rejects an error budget outside 0.0 to 1.0. -/
def validateErrorRate (slo : SloThresholds) : Except ConfigError Unit :=
  match slo.maxErrorRate with
  | some rate =>
    let received := displayDecimal rate
    reject (¬(0 ≤ rate ∧ rate ≤ 1)) (.invalidThreshold
      s!"max_error_rate must be between 0.0 and 1.0, received {received}")
  | none => .ok ()

/-- Rejects latency budgets in modes that do not measure round-trip time. -/
def validateLatencyMode (slo : SloThresholds) (mode : TestMode) (context keys : String) :
    Except ConfigError Unit :=
  reject (slo.hasLatency = true ∧ mode.awaitsReplies = false) (.unsupportedOption
    s!"{context}latency SLOs ({keys}) require --mode echo; {mode.debug} mode does not measure round-trip time")

/-- The thresholds of the command line. -/
def validateSlo (slo : SloThresholds) (mode : TestMode) : Except ConfigError Unit := do
  validateErrorRate slo
  validateLatencyMode slo mode "" "--max-p50/--max-p95/--max-p99/--max-p999"

/-- Rejects a JSON pointer that is not one. -/
def validatePointer : ReplyMatch → Except ConfigError Unit
  | .jsonPointer pointer =>
    reject (isJsonPointer pointer = false) (invalidJsonPointer pointer)
  | _ => .ok ()

/-- Whether a payload carries the sequence number. -/
def PayloadConfig.carriesSeq : PayloadConfig → Bool
  | .dynamicText template => template.hasSeq
  | .staticText _ => false
  | .binary _ => false

/-- Rejects reply matching that the mode or the payloads cannot honour: a
JSON pointer is compared with the request's sequence number, which every
payload must carry. -/
def validateReplyMatch (rule : ReplyMatch) (mode : TestMode) (payloads : List PayloadConfig) :
    Except ConfigError Unit :=
  if rule = .first then .ok ()
  else do
    reject (mode ≠ .echo) (.unsupportedOption
      s!"--match {rule.flagValue} requires --mode echo; {mode.debug} mode does not wait for replies")
    match rule with
    | .jsonPointer _ =>
      reject (payloads.all PayloadConfig.carriesSeq = false) (.unsupportedOption
        (s!"--match {rule.flagValue} needs a text payload containing the "
          ++ "\x7b\x7bseq\x7d\x7d placeholder to compare replies against"))
    | _ => return ()

/-! ## GraphQL and Socket.IO

Options of another mode are rejected instead of ignored. -/

/-- Whether a JSON value is an object. -/
def Json.isObject : Json → Bool
  | .object _ => true
  | _ => false

/-- Rejects GraphQL options outside `graphql-ws` mode, and a missing
operation or non-object variables and extensions inside it. -/
def validateGraphql (mode : TestMode) (options : GraphQLOptions) :
    Except ConfigError (Option GraphQLWSConfig) :=
  if mode ≠ .graphQLWS then do
    reject (options.operation.isSome ∨ options.operationName.isSome ∨ options.variables.isSome
        ∨ options.extensions.isSome)
      (.unsupportedOption "GraphQL WS options require --mode graphql-ws")
    return none
  else
    match options.operation.filter (fun operation => !isBlank operation) with
    | none => .error (.invalidOption "--mode graphql-ws requires --graphql-ws-operation <QUERY>")
    | some operation => do
      let checkObject (flag : String) (value : Option Json) : Except ConfigError Unit :=
        reject (value.any (fun value => !value.isObject) = true)
          (.invalidOption s!"{flag} must contain a JSON object")
      checkObject "--graphql-ws-variables" options.variables
      checkObject "--graphql-ws-extensions" options.extensions
      return some
        { operationName := options.operationName
          operation
          «variables» := options.variables
          extensions := options.extensions }

/-- Whether a text is a JSON object. -/
def isJsonObject (serde : Serde) (text : String) : Bool :=
  (serde.fromStr text).any Json.isObject

/-- Event names the Socket.IO client reserves. -/
def reservedEvents : List String :=
  ["connect", "connect_error", "disconnect", "disconnecting", "newListener", "removeListener"]

/-- Checks the Socket.IO settings, naming them as the flags do. -/
def SocketIoConfig.validate (serde : Serde) (sio : SocketIoConfig) : Except String Unit := do
  reject (sio.namespace.toList.head? ≠ some '/' ∨ ',' ∈ sio.namespace.toList)
    s!"--sio-namespace '{sio.namespace}' must start with '/' and hold no ',', such as /chat"
  reject (sio.event = "") "--sio-event must not be empty"
  reject (sio.event ∈ reservedEvents)
    s!"--sio-event '{sio.event}' is reserved by Socket.IO; choose another event name"
  -- a template is checked once it is filled in, by `checkAuth`
  reject (sio.auth.any (fun auth => !auth.isDynamic && !isJsonObject serde auth.source) = true)
    "--sio-auth must be a JSON object, such as \x7b\"token\":\"abc\"\x7d"

/-- The Socket.IO settings of a run: none outside socketio mode, where the
options are rejected. -/
def SocketIoOptions.compile (host : Host) (options : SocketIoOptions) (mode : TestMode)
    (target : String) : Except ConfigError (Option SocketIoConfig) :=
  if mode ≠ .socketIo then do
    reject (options.event.isSome ∨ options.namespace.isSome ∨ options.auth.isSome
        ∨ options.version.isSome)
      (.unsupportedOption
        "--sio-event, --sio-namespace, --sio-auth and --sio-version require --mode socketio")
    return none
  else
    let version := options.version.getD 4
    match EngineIo.fromVersion version with
    | none => .error (.invalidOption s!"--sio-version must be 2, 3 or 4, received {version}")
    | some engine => do
      (checkUrl host.urls target engine).mapError .invalidOption
      let sio : SocketIoConfig :=
        { «namespace» := options.namespace.getD "/"
          event := options.event.getD "message"
          auth := options.auth.map Template.parse
          engine }
      (sio.validate host.serde).mapError .invalidOption
      return some sio

/-- The URL a session connects to: in socketio mode, with the Socket.IO path
and query. -/
def sessionUrl (urls : Urls) (socketio : Option SocketIoConfig) (url : String) : String :=
  match socketio with
  | some sio => socketioUrl urls url sio.engine
  | none => url

/-! ## Templates that read the data file

A template is tried on every row before the run begins, since a row that gives
no valid header would otherwise fail a connection in the middle of it. -/

/-- The values a template is checked with for one row. -/
def rowValues (host : Host) (data : Option DataSet) (row : ℕ) : Values where
  seq := 0
  workerId := row
  data := data.map (fun data => (data, row))
  vars := []
  nowMs := host.nowMs

/-- The rows a template is checked with: those of the data file, or one. -/
def rowCount (data : Option DataSet) : ℕ := (data.map (fun data => data.rows.length)).getD 1

/-- Which row of which file a value came from. -/
def rowSource (data : Option DataSet) (row : ℕ) : String :=
  match data with
  | some data => s!" with row {row + 1} of {data.path}"
  | none => ""

/-- Checks a `--sio-auth` template against the data file: its columns exist,
and filled in with every row it is a JSON object. -/
def checkAuth (host : Host) (auth : Template) (data : Option DataSet) : Except String Unit :=
  if auth.isDynamic = false then .ok ()
  else do
    (auth.checkData data).mapError (fun message => s!"--sio-auth: {message}")
    (List.range (rowCount data)).forM fun row =>
      let rendered := auth.render (rowValues host data row)
      let source := rowSource data row
      reject (isJsonObject host.serde rendered = false)
        (s!"--sio-auth must give a JSON object{source}, but gives {rendered}; values are inserted as they are, so quote them in the template (\""
          ++ "\x7b\x7bdata.token\x7d\x7d\") and keep quotes out of the data")

/-- Checks the `--sio-auth` template of a run, if there is one. -/
def checkSocketIoAuth (host : Host) (socketio : Option SocketIoConfig) (data : Option DataSet) :
    Except ConfigError Unit :=
  match socketio.bind SocketIoConfig.auth with
  | some auth => (checkAuth host auth data).mapError .invalidOption
  | none => .ok ()

/-- Checks that the columns a payload reads are there. -/
def checkPayloadData (payload : PayloadConfig) (data : Option DataSet) :
    Except ConfigError Unit :=
  match payload.template with
  | some template =>
    (template.checkData data).mapError (fun message => .invalidOption s!"payload: {message}")
  | none => .ok ()

/-- The template a header's value is, when it has placeholders. -/
def headerTemplate (value : Bytes) : Option Template :=
  ((headerText value).map Template.parse).filter Template.isDynamic

/-- Checks a header template against the data file: its columns exist, and
filled in with every row it is a header value. -/
def checkHeaderTemplate (host : Host) (data : Option DataSet) (name : String)
    (template : Template) : Except ConfigError Unit := do
  (template.checkData data).mapError (fun message => .invalidOption s!"header {name}: {message}")
  (List.range (rowCount data)).forM fun row =>
    let source := rowSource data row
    reject (headerValue (template.render (rowValues host data row)) = none)
      (.invalidOption
        s!"header {name}: the value is not a valid HTTP header value{source}")

/-- The error of a header that was not one. -/
def checkInvalidHeader : Option String → Except ConfigError Unit
  | some message => .error (.invalidHeader message)
  | none => .ok ()

/-- Moves the headers whose values are templates out of `headers`, and checks
them against the data file. -/
def splitHeaderTemplates (host : Host) (headers : List Header) (data : Option DataSet) :
    Except ConfigError (List Header × List (String × Template)) := do
  let parts ← headers.mapM fun header =>
    match headerTemplate header.value with
    | none => .ok (.inl header)
    | some template => do
      checkHeaderTemplate host data header.name template
      return Sum.inr (header.name, template)
  return (parts.filterMap Sum.getLeft?, parts.filterMap Sum.getRight?)

/-! ## Addresses and faults

Addresses are kept in the order given, each once. -/

/-- The distinct addresses of `--source-ip`, each usable. -/
def checkSourceIps (host : Host) (ips : List String) : Except ConfigError (List String) :=
  ips.foldlM (fun kept ip =>
    if ip ∈ kept then .ok kept
    else do
      (host.checkSourceIp ip).mapError .invalidOption
      return kept ++ [ip]) []

/-- Checks the percentages of the faults. -/
def ChaosConfig.validate (chaos : ChaosConfig) : Except ConfigError Unit := do
  let checkPercent (name : String) (value : ℚ) : Except ConfigError Unit :=
    let received := displayDecimal value
    reject (¬(0 ≤ value ∧ value ≤ 100)) (.invalidOption
      s!"chaos {name} percentage must be between 0 and 100, received {received}")
  checkPercent "drop" chaos.dropPercent
  checkPercent "corrupt" chaos.corruptPercent
  checkPercent "close" chaos.closePercent
  let sum := displayDecimal (chaos.dropPercent + chaos.corruptPercent)
  reject (100 < chaos.dropPercent + chaos.corruptPercent) (.invalidOption
    s!"chaos drop and corrupt percentages add up to {sum}; a send is either dropped or corrupted, so they can add up to at most 100")

/-- Rejects chaos in a mode that sends no data frames, unless an action
script sends them. -/
def validateChaosMode (chaos : ChaosConfig) (mode : TestMode) (hasActions : Bool)
    (context : String) : Except ConfigError Unit :=
  let sendsData := hasActions || mode.awaitsReplies || mode = .stream
  reject (chaos.actsOnSends = true ∧ sendsData = false) (.unsupportedOption
    s!"{context}chaos injection needs data sends to act on; {mode.debug} mode sends none, use --mode echo or stream, or an action script (--chaos-read-pause works in every mode)")

/-- The faults of a run: none unless a knob is set, and seeded. -/
def buildChaos (timeSeed : UInt64) (mode : TestMode) (chaos : Option ChaosConfig) :
    Except ConfigError (Option ChaosConfig) :=
  match chaos with
  | none => .ok none
  | some chaos => do
    chaos.validate
    if chaos.isActive then
      validateChaosMode chaos mode false ""
      return some (chaos.seeded timeSeed)
    else return none

/-! ## The builder

The sequence of checks, and the values computed on the way. -/

namespace LoadTestConfigBuilder

variable (builder : LoadTestConfigBuilder)

/-- Checks the load profile. -/
def validateProfile : Except ConfigError Unit := do
  builder.arrivals.forM (fun arrivals => arrivals.validate builder.stages builder.rampRate)
  if builder.stages = [] then return ()
  else validateStages builder.stages builder.rampRate

/-- The connections of the run: the highest target of its stages, those its
arrivals are expected to keep open, or those that were set. -/
def sizedConnections : ℕ :=
  if builder.stages = [] then
    (builder.arrivals.map Arrivals.expectedConnections).getD builder.connections
  else Stage.highest builder.stages

/-- How long the run lasts: as long as its stages, or as was set. -/
def sizedDuration : Duration :=
  if builder.stages = [] then builder.duration else Stage.total builder.stages

/-- The data file of the builder. -/
def loadData (host : Host) (source : Option DataSource) : Except ConfigError (Option DataSet) :=
  match source with
  | none => .ok none
  | some (.loaded data) => .ok (some data)
  | some (.file path) => some <$> (DataSet.load host path).mapError .dataFile

/-- The check of `--expect`. -/
def parseExpect (host : Host) (spec : Option String) : Except ConfigError (Option Check) :=
  spec.mapM (fun spec => (Check.parseFlag host.serde spec).mapError .invalidOption)

/-- Checks the settings but the faults, which are checked last, and builds the
configuration without them. -/
def buildCalm (host : Host) : Except ConfigError LoadTestConfig := do
  let targetUrl ← parseTargetUrl host builder.target
  builder.validateProfile
  validateConnections builder.sizedConnections
  validateMaxRequests builder.maxRequests
  validatePointer builder.replyMatch
  let graphqlWs ← validateGraphql builder.mode builder.graphql
  let socketio ← builder.socketio.compile host builder.mode targetUrl
  validateReplyMatch builder.replyMatch builder.mode [builder.payload]
  checkInvalidHeader builder.invalidHeader
  validateSlo builder.slo builder.mode
  let data ← loadData host builder.data
  checkPayloadData builder.payload data
  let (headers, headerTemplates) ← splitHeaderTemplates host builder.headers data
  checkSocketIoAuth host socketio data
  let sourceIps ← checkSourceIps host builder.sourceIps
  let expect ← parseExpect host builder.expect
  reject (expect.isSome ∧ builder.mode.awaitsReplies = false) (.unsupportedOption
    s!"--expect requires --mode echo or socketio; {builder.mode.debug} mode does not wait for replies")
  return {
    targetUrl := sessionUrl host.urls socketio targetUrl
    connections := builder.sizedConnections
    rampRate := builder.rampRate
    duration := builder.sizedDuration
    stages := builder.stages
    arrivals := builder.arrivals
    maxRequests := builder.maxRequests
    ratePerConn := builder.ratePerConn
    payload := builder.payload
    headers
    headerTemplates
    data
    subprotocol := builder.subprotocol
    sourceIps
    compression := builder.compression
    mode := builder.mode
    connectTimeout := builder.connectTimeout
    messageTimeout := builder.messageTimeout
    pingInterval := builder.pingInterval
    liveAuth := none
    graphqlWs
    socketio
    noReconnect := !builder.reconnect
    replyMatch := builder.replyMatch
    expect
    stageShare := none
    chaos := none }

/-- Checks the settings and builds the configuration. `timeSeed` is what the
clock gives for a seed. -/
def build (host : Host) (timeSeed : UInt64) : Except ConfigError LoadTestConfig := do
  let config ← builder.buildCalm host
  let chaos ← buildChaos timeSeed builder.mode builder.chaos
  return { config with chaos }

/-! ## What a build that succeeds has checked

One structure with a field for each check, and a build is equivalent to it. -/

/-- What `buildCalm` computes from the settings. -/
structure Parts where
  targetUrl : String
  graphqlWs : Option GraphQLWSConfig
  socketio : Option SocketIoConfig
  data : Option DataSet
  headers : List Header
  headerTemplates : List (String × Template)
  sourceIps : List String
  expect : Option Check

/-- The configuration of a builder and what was computed from it, without
faults. -/
def calm (host : Host) (parts : Parts) : LoadTestConfig where
  targetUrl := sessionUrl host.urls parts.socketio parts.targetUrl
  connections := builder.sizedConnections
  rampRate := builder.rampRate
  duration := builder.sizedDuration
  stages := builder.stages
  arrivals := builder.arrivals
  maxRequests := builder.maxRequests
  ratePerConn := builder.ratePerConn
  payload := builder.payload
  headers := parts.headers
  headerTemplates := parts.headerTemplates
  data := parts.data
  subprotocol := builder.subprotocol
  sourceIps := parts.sourceIps
  compression := builder.compression
  mode := builder.mode
  connectTimeout := builder.connectTimeout
  messageTimeout := builder.messageTimeout
  pingInterval := builder.pingInterval
  liveAuth := none
  graphqlWs := parts.graphqlWs
  socketio := parts.socketio
  noReconnect := !builder.reconnect
  replyMatch := builder.replyMatch
  expect := parts.expect
  stageShare := none
  chaos := none

/-- Every check of `buildCalm` passes, and computes `parts`. -/
structure Passes (host : Host) (parts : Parts) : Prop where
  url : parseTargetUrl host builder.target = .ok parts.targetUrl
  profile : builder.validateProfile = .ok ()
  connections : validateConnections builder.sizedConnections = .ok ()
  maxRequests : validateMaxRequests builder.maxRequests = .ok ()
  pointer : validatePointer builder.replyMatch = .ok ()
  graphql : validateGraphql builder.mode builder.graphql = .ok parts.graphqlWs
  socketio : builder.socketio.compile host builder.mode parts.targetUrl = .ok parts.socketio
  replyMatch : validateReplyMatch builder.replyMatch builder.mode [builder.payload] = .ok ()
  header : checkInvalidHeader builder.invalidHeader = .ok ()
  slo : validateSlo builder.slo builder.mode = .ok ()
  data : loadData host builder.data = .ok parts.data
  payload : checkPayloadData builder.payload parts.data = .ok ()
  headers : splitHeaderTemplates host builder.headers parts.data
    = .ok (parts.headers, parts.headerTemplates)
  auth : checkSocketIoAuth host parts.socketio parts.data = .ok ()
  sourceIps : checkSourceIps host builder.sourceIps = .ok parts.sourceIps
  expect : parseExpect host builder.expect = .ok parts.expect
  replies : ¬(parts.expect.isSome = true ∧ builder.mode.awaitsReplies = false)

variable {builder} {host : Host} {config : LoadTestConfig}

/-- **A build succeeds exactly when every check passes.** -/
theorem buildCalm_eq_ok_iff :
    builder.buildCalm host = .ok config ↔
      ∃ parts, builder.Passes host parts ∧ config = builder.calm host parts := by
  unfold buildCalm
  constructor
  · intro h
    simp only [Checked.bind_eq_ok, Checked.pure_eq_ok] at h
    obtain ⟨targetUrl, url, _, profile, _, connections, _, maxRequests, _, pointer, graphqlWs,
      graphql, sio, socketio, _, replyMatch, _, header, _, slo, rows, data, _, payload,
      ⟨fixed, templates⟩, headers, _, auth, ips, sourceIps, check, expect, _, replies, rfl⟩ := h
    exact ⟨⟨targetUrl, graphqlWs, sio, rows, fixed, templates, ips, check⟩,
      { url, profile, connections, maxRequests, pointer, graphql, socketio, replyMatch, header,
        slo, data, payload, headers, auth, sourceIps, expect,
        replies := Checked.reject_eq_ok.mp replies }, rfl⟩
  · rintro ⟨parts, h, rfl⟩
    rw [h.url, Checked.ok_bind, h.profile, Checked.ok_bind, h.connections, Checked.ok_bind,
      h.maxRequests, Checked.ok_bind, h.pointer, Checked.ok_bind, h.graphql, Checked.ok_bind,
      h.socketio, Checked.ok_bind, h.replyMatch, Checked.ok_bind, h.header, Checked.ok_bind, h.slo,
      Checked.ok_bind, h.data, Checked.ok_bind, h.payload, Checked.ok_bind, h.headers,
      Checked.ok_bind, h.auth]
    dsimp only
    rw [Checked.ok_bind, h.sourceIps, Checked.ok_bind, h.expect, Checked.ok_bind,
      (Checked.reject_eq_ok (u := ())).mpr h.replies]
    rfl

/-- What a configuration that was built is. -/
theorem build_eq_ok_iff {timeSeed : UInt64} :
    builder.build host timeSeed = .ok config ↔
      ∃ parts chaos, builder.Passes host parts
        ∧ buildChaos timeSeed builder.mode builder.chaos = .ok chaos
        ∧ config = { builder.calm host parts with chaos } := by
  unfold build
  simp only [Checked.bind_eq_ok, Checked.pure_eq_ok, buildCalm_eq_ok_iff]
  constructor
  · rintro ⟨_, ⟨parts, hparts, rfl⟩, chaos, hchaos, rfl⟩
    exact ⟨parts, chaos, hparts, hchaos, rfl⟩
  · rintro ⟨parts, chaos, hparts, hchaos, rfl⟩
    exact ⟨_, ⟨parts, hparts, rfl⟩, chaos, hchaos, rfl⟩

end LoadTestConfigBuilder

end WsBlast
