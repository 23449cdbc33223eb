import WsBlast.Base64
import WsBlast.Config

/-!
# Splitting a run between agents

The coordinator sends every agent a `WireConfig`, its share of the run.
`WireConfig.fromConfig` takes the settings agents need, unsplit, and `plan`
divides them: connections, the ramp rate, the request cap and the session
cap with `split`, the stages by sending every agent the whole profile and
its `Share` of each target. A share of zero is refused before anything is
sent.

The main result is `plan_preserves_load`: whatever `plan` returns adds up
to the configured load, quantity by quantity and, for a staged run, at
every moment.

The settings come in two kinds. Those that every agent needs in full go into the
unsplit `WireConfig` as they are: the target, the mode, the payload, the
durations, the headers. Those that are a quantity of the whole run are divided:
each agent gets its part of `split`, which gives the first `total % agents`
agents one more than the others.
-/

namespace WsBlast

/-! ## The share on the wire

The types of the protocol, field by field as the source sends them, without the
options that no function of this development reads. -/

/-- The Socket.IO settings on the wire. -/
structure WireSocketIo where
  «namespace» : String
  event : String
  auth : Option String
  /-- The `--sio-version`: 2, or 4 for Engine.IO 4. -/
  version : ℕ

/-- An arrival-rate model on the wire. -/
structure WireArrivals where
  rate : ℚ
  sessionDuration : Duration
  maxConnections : Option ℕ

/-- A stage on the wire. -/
structure WireStage where
  duration : Duration
  target : ℕ

/-- A payload on the wire. -/
inductive WirePayload where
  /-- A text payload, possibly a template with placeholders. -/
  | text (text : String)
  /-- A binary payload, standard base64 with padding. -/
  | binary (base64 : String)

/-- An action of a scenario phase on the wire. -/
inductive WireAction where
  | send (payload : Option WirePayload) (count : ℕ) (expect : Option Check)
      (captures : List Capture) (name : Option ℕ)
  | wait (duration : Duration)
  | ping (interval : Duration)
  | close (code : ℕ) (reason : String)

/-- What a scenario phase adds to a run. -/
structure WirePhase where
  name : String
  thinkTime : Duration
  actions : List WireAction
  vars : List String
  actionNames : List String

/-- Capture settings of an agent's share. -/
structure WireCapture where
  /-- Records this agent may still queue; `none` for no limit. The
  coordinator's limit is for the whole run, so each agent's is a part of it. -/
  limit : Option ℕ

/-- Chaos settings on the wire, with the seed of this agent. -/
structure WireChaos where
  delay : Duration
  jitter : Duration
  dropPercent : ℚ
  corruptPercent : ℚ
  closePercent : ℚ
  closeMode : String
  readPause : Duration
  readJitter : Duration
  seed : UInt64

/-- The settings of `chaos`, with `seed` in place of its own. -/
def WireChaos.new (chaos : ChaosConfig) (seed : UInt64) : WireChaos where
  delay := chaos.delay
  jitter := chaos.jitter
  dropPercent := chaos.dropPercent
  corruptPercent := chaos.corruptPercent
  closePercent := chaos.closePercent
  closeMode := chaos.closeMode.name
  readPause := chaos.readPause
  readJitter := chaos.readJitter
  seed := seed

/-- A header on the wire: name and value. -/
structure WireHeader where
  name : String
  value : String

/-- A data file on the wire, with the agent's place among the agents. -/
structure WireData where
  path : String
  columns : List String
  rows : List (List String)
  share : Option Share

/-- One agent's share of a run, as the coordinator sends it. -/
structure WireConfig where
  target : String
  mode : String
  connections : ℕ
  rampRate : ℕ
  duration : Duration
  /-- The stages of the whole run; the agent opens `stageShare` of each
  target. -/
  stages : List WireStage
  stageShare : Option Share
  arrivals : Option WireArrivals
  maxRequests : Option ℕ
  ratePerConn : ℕ
  payload : WirePayload
  headers : List WireHeader
  subprotocol : Option String
  connectTimeout : Duration
  messageTimeout : Duration
  pingInterval : Duration
  replyMatch : String
  expect : Option Check
  reconnect : Bool
  compression : Bool
  graphql : Option GraphQLWSConfig
  socketio : Option WireSocketIo
  phase : Option WirePhase
  capture : Option WireCapture
  liveAuth : Option WireHeader
  chaos : Option WireChaos
  data : Option WireData

/-- A header for the wire. -/
def wireHeader (header : Header) : Except ConfigError WireHeader :=
  match headerText header.value with
  | some value => .ok ⟨header.name, value⟩
  | none => .error (.invalidHeader
      s!"the value of header '{header.name}' is not visible ASCII and cannot be sent to agents")

/-- A payload for the wire. -/
def wirePayload : PayloadConfig → WirePayload
  | .staticText text => .text text
  | .dynamicText template => .text template.source
  | .binary bytes => .binary (Base64.encode bytes)

/-- The Socket.IO settings for the wire. -/
def wireSocketIo (sio : SocketIoConfig) : WireSocketIo where
  «namespace» := sio.namespace
  event := sio.event
  auth := sio.auth.map Template.source
  version := match sio.engine with
    | .v3 => 2
    | .v4 => 4

namespace WireConfig

/-- The settings of `config` that agents need, unsplit. -/
def fromConfig (config : LoadTestConfig) : Except ConfigError WireConfig := do
  let fixed ← config.headers.mapM wireHeader
  let templated := config.headerTemplates.map (fun t => WireHeader.mk t.1 t.2.source)
  let liveAuth ← config.liveAuth.mapM wireHeader
  return {
    target := config.targetUrl
    mode := config.mode.modeName
    connections := config.connections
    rampRate := config.rampRate
    duration := config.duration
    stages := config.stages.map (fun stage => ⟨stage.duration, stage.target⟩)
    stageShare := none
    arrivals := config.arrivals.map
      (fun arrivals => ⟨arrivals.rate, arrivals.sessionDuration, arrivals.maxConnections⟩)
    maxRequests := config.maxRequests
    ratePerConn := config.ratePerConn
    payload := wirePayload config.payload
    headers := fixed ++ templated
    subprotocol := config.subprotocol
    connectTimeout := config.connectTimeout
    messageTimeout := config.messageTimeout
    pingInterval := config.pingInterval
    replyMatch := config.replyMatch.flagValue
    expect := config.expect
    reconnect := !config.noReconnect
    compression := config.compression
    graphql := config.graphqlWs
    socketio := config.socketio.map wireSocketIo
    phase := none
    capture := none
    liveAuth := liveAuth
    chaos := none
    data := config.data.map (fun data => ⟨data.path, data.columns, data.rows, none⟩) }

/-- What the share takes of the run's profile when the agent builds its
configuration: the stages, and the agent's place in them. These are the
settings `LoadTestConfig.stageTarget` reads. -/
def withStages (wire : WireConfig) (config : LoadTestConfig) : LoadTestConfig :=
  { config with
    stages := wire.stages.map (fun stage => ⟨stage.duration, stage.target⟩)
    stageShare := wire.stageShare }

end WireConfig

/-! ## The plan

`planError` is the chain of checks in the order of the source, which decides the
message a user sees when several of them fail. -/

/-- The share of agent `index` of `agents`, from the unsplit settings. -/
def shareOf (config : LoadTestConfig) (base : WireConfig) (agents index : ℕ) :
    WireConfig :=
  let share : Share := ⟨index, agents⟩
  { base with
    connections := share.of config.connections
    rampRate := split config.rampRate index agents
    maxRequests := config.maxRequests.map (fun requests => split requests index agents)
    stageShare := if config.stages = [] then none else some share
    arrivals := base.arrivals.map (fun arrivals =>
      { arrivals with
        rate := arrivals.rate / agents
        maxConnections := arrivals.maxConnections.map share.of })
    data := base.data.map (fun data => { data with share := some share })
    chaos := match config.chaos with
      | some chaos => some (WireChaos.new chaos (agentSeed (chaos.seed.getD 0) index))
      | none => base.chaos }

/-- The first reason not to split `config` between `agents` agents, if there
is one: a setting that stays on this machine, or a share that would be
zero. -/
def planError (config : LoadTestConfig) (agents : ℕ) : Option ConfigError :=
  let sessionCap := config.arrivals.bind Arrivals.maxConnections
  if agents = 0 then
    some (.invalidOption "--agents lists no agent")
  else if config.sourceIps ≠ [] then
    some (.unsupportedOption
      "--source-ip binds addresses of this machine and cannot be used with --agents; start each agent with `wsblast agent --source-ip ...` to bind that machine's addresses")
  else if sessionCap.any (· < agents) then
    some (.invalidOption
      s!"{agents} agents cannot share --max-connections {sessionCap.getD 0}: every agent needs room for at least one session")
  else if config.arrivals = none ∧ config.connections < agents then
    let what := if config.stages = [] then s!"{config.connections} connections"
      else s!"a highest stage target of {config.connections}"
    some (.invalidOption
      s!"{agents} agents cannot share {what}: every agent needs at least one connection; use fewer agents or more connections")
  else if config.maxRequests.any (· < agents) then
    some (.invalidOption
      s!"{agents} agents cannot share -n {config.maxRequests.getD 0}: every agent needs at least one request")
  else if 0 < config.rampRate ∧ config.rampRate < agents then
    some (.invalidOption
      s!"{agents} agents cannot share --ramp-rate {config.rampRate}: every agent needs a ramp rate of at least 1 per second")
  else
    none

/-- Splits `config` between `agents` agents, in `--agents` order. -/
def plan (config : LoadTestConfig) (agents : ℕ) : Except ConfigError (List WireConfig) :=
  match planError config agents with
  | some err => .error err
  | none => do
    let base ← WireConfig.fromConfig config
    return (List.range agents).map (shareOf config base agents)

/-! ## What a plan adds up to

Each quantity is read off the shares as a list, and the list is the even parts
of the total. -/

/-- What `planError` checks, when it finds nothing wrong. -/
structure Splittable (config : LoadTestConfig) (agents : ℕ) : Prop where
  agents_pos : 0 < agents
  sourceIps_nil : config.sourceIps = []
  cap_le : ∀ arrivals cap, config.arrivals = some arrivals →
    arrivals.maxConnections = some cap → agents ≤ cap
  connections_le : config.arrivals = none → agents ≤ config.connections
  requests_le : ∀ requests, config.maxRequests = some requests → agents ≤ requests
  ramp_le : 0 < config.rampRate → agents ≤ config.rampRate

theorem splittable_of_planError {config : LoadTestConfig} {agents : ℕ}
    (h : planError config agents = none) : Splittable config agents := by
  -- one branch of the chain after the other, each a refusal that did not happen
  unfold planError at h
  dsimp only at h
  split at h
  · cases h
  rename_i hzero
  split at h
  · cases h
  rename_i hips
  split at h
  · cases h
  rename_i hcap
  split at h
  · cases h
  rename_i hconn
  split at h
  · cases h
  rename_i hreq
  split at h
  · cases h
  rename_i hramp
  refine ⟨Nat.pos_of_ne_zero hzero, not_not.mp hips, ?_, ?_, ?_, ?_⟩
  · intro arrivals cap ha hc
    simpa [ha, hc] using hcap
  · intro ha
    exact not_lt.mp (fun hlt => hconn ⟨ha, hlt⟩)
  · intro requests hr
    simpa [hr] using hreq
  · intro hpos
    exact not_lt.mp (fun hlt => hramp ⟨hpos, hlt⟩)

/-- The unsplit settings keep the run's profile: its stages and its arrival
model. -/
theorem WireConfig.fromConfig_profile {config : LoadTestConfig} {base : WireConfig}
    (h : WireConfig.fromConfig config = .ok base) :
    base.stages = config.stages.map (fun stage => ⟨stage.duration, stage.target⟩)
      ∧ base.arrivals = config.arrivals.map (fun arrivals =>
          ⟨arrivals.rate, arrivals.sessionDuration, arrivals.maxConnections⟩) := by
  unfold WireConfig.fromConfig at h
  cases hf : config.headers.mapM wireHeader with
  | error err => rw [hf] at h; cases h
  | ok fixed =>
    cases hl : config.liveAuth.mapM wireHeader with
    | error err => rw [hf, hl] at h; cases h
    | ok liveAuth =>
      rw [hf, hl] at h
      cases h
      exact ⟨rfl, rfl⟩

/-- **What a plan is**: the checks passed, and every agent has its share of
the same unsplit settings. -/
theorem plan_eq_ok {config : LoadTestConfig} {agents : ℕ} {shares : List WireConfig}
    (h : plan config agents = .ok shares) :
    Splittable config agents ∧ ∃ base, WireConfig.fromConfig config = .ok base ∧
      shares = (List.range agents).map (shareOf config base agents) := by
  unfold plan at h
  cases he : planError config agents with
  | some err => rw [he] at h; cases h
  | none =>
    rw [he] at h
    refine ⟨splittable_of_planError he, ?_⟩
    cases hb : WireConfig.fromConfig config with
    | error err => rw [hb] at h; cases h
    | ok base =>
      rw [hb] at h
      cases h
      exact ⟨base, rfl, rfl⟩

/-- Reading one divided quantity off every share gives the even parts of
it. -/
theorem map_split_eq_parts (total : ℕ) {agents : ℕ} (h : 0 < agents) :
    (List.range agents).map (fun index => split total index agents)
      = EvenSplit.parts total agents := by
  unfold EvenSplit.parts
  exact List.map_congr_left (fun index _ => split_eq_part total index h)

section Shares

variable {config : LoadTestConfig} {agents : ℕ} {shares : List WireConfig}

theorem plan_connections (h : plan config agents = .ok shares) :
    shares.map WireConfig.connections = EvenSplit.parts config.connections agents := by
  obtain ⟨hok, base, -, rfl⟩ := plan_eq_ok h
  rw [List.map_map]
  exact map_split_eq_parts config.connections hok.agents_pos

theorem plan_rampRate (h : plan config agents = .ok shares) :
    shares.map WireConfig.rampRate = EvenSplit.parts config.rampRate agents := by
  obtain ⟨hok, base, -, rfl⟩ := plan_eq_ok h
  rw [List.map_map]
  exact map_split_eq_parts config.rampRate hok.agents_pos

theorem plan_maxRequests (h : plan config agents = .ok shares) {requests : ℕ}
    (hr : config.maxRequests = some requests) :
    shares.map WireConfig.maxRequests
      = (EvenSplit.parts requests agents).map some := by
  obtain ⟨hok, base, -, rfl⟩ := plan_eq_ok h
  rw [List.map_map, ← map_split_eq_parts requests hok.agents_pos, List.map_map]
  refine List.map_congr_left (fun index _ => ?_)
  show config.maxRequests.map _ = _
  rw [hr]
  rfl

theorem plan_sessionCap (h : plan config agents = .ok shares) {arrivals : Arrivals}
    {cap : ℕ} (ha : config.arrivals = some arrivals)
    (hc : arrivals.maxConnections = some cap) :
    shares.map (fun share => share.arrivals.bind WireArrivals.maxConnections)
      = (EvenSplit.parts cap agents).map some := by
  obtain ⟨hok, base, hb, rfl⟩ := plan_eq_ok h
  obtain ⟨-, hbase⟩ := WireConfig.fromConfig_profile hb
  rw [List.map_map, ← map_split_eq_parts cap hok.agents_pos, List.map_map]
  refine List.map_congr_left (fun index _ => ?_)
  show (Option.map _ base.arrivals).bind WireArrivals.maxConnections = _
  rw [hbase, ha]
  show Option.map _ arrivals.maxConnections = _
  rw [hc]
  rfl

/-- Every agent's own target, read from its share of the profile, is its
part of the profile's target at that moment. -/
theorem plan_stageTarget (h : plan config agents = .ok shares)
    (hs : config.stages ≠ []) (built : LoadTestConfig) (elapsed : Duration) :
    shares.map (fun share => (share.withStages built).stageTarget elapsed)
      = EvenSplit.parts (Stage.targetAt config.stages elapsed) agents := by
  obtain ⟨hok, base, hb, rfl⟩ := plan_eq_ok h
  obtain ⟨hbase, -⟩ := WireConfig.fromConfig_profile hb
  have hstages : base.stages.map (fun stage => (⟨stage.duration, stage.target⟩ : Stage))
      = config.stages := by
    rw [hbase, List.map_map]
    exact List.map_id _
  rw [List.map_map, ← map_split_eq_parts _ hok.agents_pos]
  refine List.map_congr_left (fun index _ => ?_)
  show LoadTestConfig.stageTarget
    ((shareOf config base agents index).withStages built) elapsed = _
  unfold LoadTestConfig.stageTarget WireConfig.withStages shareOf
  simp only [hstages, if_neg hs]
  rfl

end Shares

/-- **Splitting preserves the configured load.** Whatever `plan` returns has
one share per agent; the connections, the ramp rate, the request cap and the
session cap are divided evenly and add up to the run's; no share is without
connections (arrival runs aside), requests, ramp rate or room for a session
when the run has them; and the agents of a staged run open together, at
every moment, what the undivided profile asks for. -/
theorem plan_preserves_load (config : LoadTestConfig) (agents : ℕ)
    (shares : List WireConfig) (h : plan config agents = .ok shares) :
    shares.length = agents
    ∧ SplitsEvenly (shares.map WireConfig.connections) config.connections
    ∧ (config.arrivals = none → ∀ share ∈ shares, share.connections ≠ 0)
    ∧ SplitsEvenly (shares.map WireConfig.rampRate) config.rampRate
    ∧ (config.rampRate ≠ 0 → ∀ share ∈ shares, share.rampRate ≠ 0)
    ∧ (∀ requests, config.maxRequests = some requests →
        ∃ parts, shares.map WireConfig.maxRequests = parts.map some
          ∧ SplitsEvenly parts requests ∧ 0 ∉ parts)
    ∧ (∀ arrivals cap, config.arrivals = some arrivals →
        arrivals.maxConnections = some cap →
        ∃ parts, shares.map (fun share => share.arrivals.bind WireArrivals.maxConnections)
            = parts.map some
          ∧ SplitsEvenly parts cap ∧ 0 ∉ parts)
    ∧ (config.stages ≠ [] → ∀ (built : LoadTestConfig) (elapsed : Duration),
        (shares.map (fun share => (share.withStages built).stageTarget elapsed)).sum
          = Stage.targetAt config.stages elapsed) := by
  obtain ⟨hok, -⟩ := plan_eq_ok h
  have hpos := hok.agents_pos
  -- the parts of a total no smaller than the number of agents are positive
  have hzero : ∀ total, agents ≤ total → 0 ∉ EvenSplit.parts total agents :=
    fun total hle hmem => (EvenSplit.pos_of_mem_parts hpos hle 0 hmem).ne rfl
  refine ⟨?_, ?_, ?_, ?_, ?_, ?_, ?_, ?_⟩
  · have := congrArg List.length (plan_connections h)
    rwa [List.length_map, EvenSplit.length_parts] at this
  · rw [plan_connections h]
    exact splitsEvenly_parts _ hpos
  · intro ha share hmem hz
    refine hzero _ (hok.connections_le ha) ?_
    rw [← plan_connections h, ← hz]
    exact List.mem_map_of_mem hmem
  · rw [plan_rampRate h]
    exact splitsEvenly_parts _ hpos
  · intro hr share hmem hz
    refine hzero _ (hok.ramp_le (Nat.pos_of_ne_zero hr)) ?_
    rw [← plan_rampRate h, ← hz]
    exact List.mem_map_of_mem hmem
  · intro requests hr
    exact ⟨_, plan_maxRequests h hr, splitsEvenly_parts _ hpos,
      hzero _ (hok.requests_le requests hr)⟩
  · intro arrivals cap ha hc
    exact ⟨_, plan_sessionCap h ha hc, splitsEvenly_parts _ hpos,
      hzero _ (hok.cap_le arrivals cap ha hc)⟩
  · intro hs built elapsed
    rw [plan_stageTarget h hs built elapsed]
    exact EvenSplit.sum_parts _ hpos

/-- A run of 10 connections and 7 requests that is half-way up its profile
after 5 seconds. -/
def stagedRun : LoadTestConfig :=
  { LoadTestConfig.defaults "ws://127.0.0.1:9001" with
    connections := 10
    maxRequests := some 7
    stages := [⟨Duration.ofSecs 10, 10⟩] }

/-- Three agents share the staged run. -/
theorem plan_preserves_load_three :
    ∃ shares, plan stagedRun 3 = .ok shares
      ∧ shares.map WireConfig.connections = [4, 3, 3]
      ∧ (∃ parts, shares.map WireConfig.maxRequests = parts.map some
          ∧ SplitsEvenly parts 7 ∧ 0 ∉ parts)
      ∧ (shares.map (fun share =>
          (share.withStages stagedRun).stageTarget (Duration.ofSecs 5))).sum
        = Stage.targetAt stagedRun.stages (Duration.ofSecs 5) := by
  refine ⟨_, rfl, rfl, ?_, ?_⟩
  · exact (plan_preserves_load stagedRun 3 _ rfl).2.2.2.2.2.1 7 rfl
  · exact (plan_preserves_load stagedRun 3 _ rfl).2.2.2.2.2.2.2 (by simp [stagedRun]) _ _

end WsBlast
