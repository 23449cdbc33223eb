import WsBlast.Chaos
import WsBlast.Template
import WsBlast.Lib.EvenSplit

/-!
# The configuration of a load test

`LoadTestConfig` with the settings the runner, the workers and the
distributed coordinator read, and the stage profile of a staged run.
`Stage.targetAt` interpolates between the targets of successive stages and
rounds to the nearest connection; a distributed agent opens its `Share` of
that target (`LoadTestConfig.stageTarget`), the total divided with `split`.

The configuration is the product of the command line or a scenario file, and
nothing that runs changes it. It is checked once, when it is built (`Builder`),
and what a run relies on was checked there: at least one connection, targets
that are not all zero, columns that exist.
-/

namespace WsBlast

/-- What a worker does on its connection. Echo and Socket.IO wait for a reply
to each message; stream only sends, listen only reads, and GraphQL subscribes
and reads. -/
inductive TestMode where
  | echo
  | stream
  | listen
  | graphQLWS
  | socketIo
  deriving DecidableEq, Repr

namespace TestMode

/-- Whether every message waits for its reply and records its round-trip
time. -/
def awaitsReplies : TestMode → Bool
  | .echo => true
  | .socketIo => true
  | _ => false

/-- The `--mode` spelling. -/
def modeName : TestMode → String
  | .echo => "echo"
  | .stream => "stream"
  | .listen => "listen"
  | .graphQLWS => "graphql-ws"
  | .socketIo => "socketio"

/-- The name Rust's `Debug` prints. -/
def debug : TestMode → String
  | .echo => "Echo"
  | .stream => "Stream"
  | .listen => "Listen"
  | .graphQLWS => "GraphQLWS"
  | .socketIo => "SocketIo"

end TestMode

/-- Why a configuration is rejected, with the texts that go into the message. -/
inductive ConfigError where
  | invalidUrl (raw message : String)
  | unsupportedScheme (scheme : String)
  | invalidDuration (text : String)
  | invalidHeader (message : String)
  | zeroConcurrency (connections : ℕ)
  | invalidThreshold (message : String)
  | invalidOption (message : String)
  | invalidScenario (message : String)
  | unsupportedOption (message : String)
  | dataFile (message : String)
  | payloadFile (path source : String)
  deriving DecidableEq, Repr

/-- The error as it is shown, inside the one the program returns. -/
def ConfigError.display : ConfigError → String
  | .invalidUrl raw message => s!"Configuration error: Invalid target URL '{raw}': {message}"
  | .unsupportedScheme scheme =>
    s!"Configuration error: Unsupported WebSocket scheme '{scheme}': only 'ws://' and 'wss://' are supported"
  | .invalidDuration text =>
    s!"Configuration error: Invalid duration '{text}': expected a non-negative number with a unit of ns, us, ms, s, m or h (e.g. '500ms', '1.5s', '2m'), or bare integer seconds"
  | .invalidHeader message =>
    s!"Configuration error: Invalid header format '{message}': expected 'Header-Name: value'"
  | .zeroConcurrency connections =>
    s!"Configuration error: Concurrency must be greater than zero, received {connections}"
  | .invalidThreshold message =>
    s!"Configuration error: Invalid threshold specification: {message}"
  | .invalidOption message => s!"Configuration error: Invalid option: {message}"
  | .invalidScenario message => s!"Configuration error: Invalid scenario: {message}"
  | .unsupportedOption message =>
    s!"Configuration error: Unsupported option combination: {message}"
  | .dataFile message => s!"Configuration error: Data file error: {message}"
  | .payloadFile path source =>
    s!"Configuration error: Payload file error at '{path}': {source}"

/-! ## Shares of a total

The coordinator and every agent compute a share from the same three numbers, so
nothing but the position of the agent has to be sent for them to agree. -/

/-- The part of a total that agent `index` of `agents` takes: the total
divided as evenly as possible, with the remainder going to the first
agents, one each. -/
def split (total index agents : ℕ) : ℕ :=
  let agents := max agents 1
  total / agents + if index < total % agents then 1 else 0

/-- `split` is the even division over the agents. -/
theorem split_eq_part (total index : ℕ) {agents : ℕ} (h : 0 < agents) :
    split total index agents = EvenSplit.part total agents index := by
  unfold split EvenSplit.part
  rw [max_eq_left h]

/-- Which share of every stage target an agent opens. -/
structure Share where
  /-- Position of the agent in `--agents`, from 0. -/
  index : ℕ
  /-- Number of agents. -/
  agents : ℕ
  deriving DecidableEq, Repr

/-- This agent's part of `total` connections. -/
def Share.of (share : Share) (total : ℕ) : ℕ :=
  split total share.index share.agents

/-! ## Load profiles

A run holds a number of connections, moves between targets in stages, or starts
sessions at a rate. -/

/-- One stage of a staged load profile: over `duration`, the number of open
connections moves linearly from the previous stage's target to
`target`. -/
structure Stage where
  duration : Duration
  target : ℕ
  deriving DecidableEq, Repr

namespace Stage

/-- The target within a stage that starts at `start` from `previous`
connections, `elapsed` after the run started: the point of the straight
line, rounded to the nearest connection. -/
def interpolate (previous : ℕ) (start : Duration) (stage : Stage)
    (elapsed : Duration) : ℕ :=
  let progress : ℚ := Duration.asSecs (elapsed - start) / Duration.asSecs stage.duration
  (round ((previous : ℚ) + ((stage.target : ℚ) - previous) * progress)).toNat

/-- The target `elapsed` after the start, over the stages left when the
next one starts at `start` from `previous` connections. -/
def targetFrom (previous : ℕ) (start : Duration) (elapsed : Duration) :
    List Stage → ℕ
  | [] => previous
  | stage :: rest =>
    if elapsed < start + stage.duration then
      interpolate previous start stage elapsed
    else
      targetFrom stage.target (start + stage.duration) elapsed rest

/-- The number of connections a staged run should have open `elapsed` after
it started, rounded to the nearest connection. -/
def targetAt (stages : List Stage) (elapsed : Duration) : ℕ :=
  targetFrom 0 0 elapsed stages

example : targetAt [⟨Duration.ofSecs 10, 100⟩, ⟨Duration.ofSecs 5, 100⟩]
    (Duration.ofSecs 5) = 50 := by decide +kernel

end Stage

/-- An arrival-rate load model: new sessions start at a fixed rate, and each
one lasts `sessionDuration`. -/
structure Arrivals where
  /-- New sessions per second. -/
  rate : ℚ
  sessionDuration : Duration
  /-- The most sessions open at once; `none` for no cap. -/
  maxConnections : Option ℕ
  deriving DecidableEq

/-! ## Replies, headers and subprotocols

The smaller settings a session reads: how a reply is recognised, what it must
hold, what is taken from it, and what the handshake offers. -/

/-- The rule an echo wait uses to recognise the reply to its request: any data
frame, a frame equal to what was sent, or one that has the sequence number at a
JSON pointer. -/
inductive ReplyMatch where
  | first
  | exact
  | jsonPointer (pointer : String)
  deriving DecidableEq, Repr

/-- The rule as it is spelled on the command line. -/
def ReplyMatch.flagValue : ReplyMatch → String
  | .first => "first"
  | .exact => "exact"
  | .jsonPointer pointer => "json:" ++ pointer

/-- What a reply must hold. -/
inductive Check where
  /-- The reply is JSON with a value at the pointer, equal to `equals` when
  it is given. -/
  | json (pointer : String) (equals : Option Json)
  /-- The reply's text contains this. -/
  | contains (text : String)

/-- A variable a reply sets: the value at `pointer`, stored at position
`var` of the phase's variables. -/
structure Capture where
  var : ℕ
  pointer : String
  deriving DecidableEq, Repr

/-- A handshake header. -/
structure Header where
  name : String
  value : Bytes
  deriving DecidableEq, Repr

/-- The GraphQL operation of a `graphql-ws` run, as it is put into the
subscription message. -/
structure GraphQLWSConfig where
  operationName : Option String
  operation : String
  «variables» : Option Json
  extensions : Option Json

/-- The Engine.IO protocol a Socket.IO session speaks. -/
inductive EngineIo where
  | v3
  | v4
  deriving DecidableEq, Repr

/-- What a Socket.IO session connects to and emits. -/
structure SocketIoConfig where
  «namespace» : String
  event : String
  auth : Option Template
  engine : EngineIo
  deriving DecidableEq, Repr

/-! ## The configuration -/

/-- A validated load test configuration: the settings the runner, its
workers and the distributed coordinator read. -/
structure LoadTestConfig where
  targetUrl : String
  connections : ℕ
  rampRate : ℕ
  duration : Duration
  /-- A staged load profile; empty for a constant connection count. -/
  stages : List Stage
  /-- An arrival-rate load model, in place of a connection count. -/
  arrivals : Option Arrivals
  maxRequests : Option ℕ
  ratePerConn : ℕ
  payload : PayloadConfig
  headers : List Header
  /-- Handshake headers whose values are templates. -/
  headerTemplates : List (String × Template)
  data : Option DataSet
  subprotocol : Option String
  /-- Local addresses connections bind in turn (`--source-ip`). -/
  sourceIps : List String
  compression : Bool
  mode : TestMode
  connectTimeout : Duration
  messageTimeout : Duration
  pingInterval : Duration
  /-- The current value of an authentication header refreshed during the
  run. -/
  liveAuth : Option Header
  graphqlWs : Option GraphQLWSConfig
  socketio : Option SocketIoConfig
  /-- Ends a worker on its first connection loss instead of reconnecting. -/
  noReconnect : Bool
  replyMatch : ReplyMatch
  /-- What every echo reply must hold (`--expect`). -/
  expect : Option Check
  /-- On a distributed agent, which share of every stage target this
  machine opens. -/
  stageShare : Option Share
  /-- The faults workers inject; `none` when no knob is set. -/
  chaos : Option ChaosConfig

/-- The default text payload: a JSON object with the time and the sequence
number of the frame. -/
def defaultTextPayload : PayloadConfig := .dynamicText
  { source := "\x7b\"source\":\"wsblast\",\"ts\":\"\x7b\x7btimestamp\x7d\x7d\",\"seq\":\x7b\x7bseq\x7d\x7d\x7d"
    parts := [.text "\x7b\"source\":\"wsblast\",\"ts\":\"", .timestamp,
      .text "\",\"seq\":", .seq, .text "\x7d"] }

/-- The settings of a builder that nothing was set on: 50 connections for
10 seconds in echo mode, no ramp and no rate limit, 5 second connect and
message timeouts, no keepalive pings, reconnects enabled. -/
def LoadTestConfig.defaults (targetUrl : String) : LoadTestConfig where
  targetUrl := targetUrl
  connections := 50
  rampRate := 0
  duration := Duration.ofSecs 10
  stages := []
  arrivals := none
  maxRequests := none
  ratePerConn := 0
  payload := defaultTextPayload
  headers := []
  headerTemplates := []
  data := none
  subprotocol := none
  sourceIps := []
  compression := false
  mode := .echo
  connectTimeout := Duration.ofSecs 5
  messageTimeout := Duration.ofSecs 5
  pingInterval := 0
  liveAuth := none
  graphqlWs := none
  socketio := none
  noReconnect := false
  replyMatch := .first
  expect := none
  stageShare := none
  chaos := none

/-- The number of connections a staged run should have open `elapsed` after
it started: the stage target, or this agent's share of it. -/
def LoadTestConfig.stageTarget (config : LoadTestConfig) (elapsed : Duration) : ℕ :=
  let target := Stage.targetAt config.stages elapsed
  match config.stageShare with
  | some share => share.of target
  | none => target

end WsBlast
