import WsBlast.Session

/-!
# The stream, listen, script and graphql-ws loops

The other loops a worker can run on its connection. They share the pieces of
`Session`; what differs is what they wait for and what they do with a frame.

The stream and the listen loop never wait for a reply, so there is no request
that could fail: an error of theirs is an error of an attempt, and every data
frame they read is counted as received.
-/

namespace WsBlast

section Modes

variable (serde : Serde) (config : LoadTestConfig) (workerId : ℕ) (scenario : Option ScenarioPhase)

/-! ## Stream and listen -/

/-- When reads go on after a data frame: at once, or after chaos's pause. -/
def resumeAfterPause : Session (Option Instant) := do
  match ← chaosReadPause config with
  | none => pure none
  | some pause => do
    let now ← Ask.now
    pure (some (now + pause))

/-- Counts a data frame that answers no request; without a round-trip time no
sample is taken, so the time does not matter. -/
def receiveFrame (bytes : ℕ) : Session (Option Instant) := do
  Ask.record (.messageRecv 0 bytes none)
  resumeAfterPause config

/-- What the stream and the listen loop do with what they read; the end of the
read pause it starts, if any. -/
def readFrame : Item → Round (Option Instant)
  | some (.ok (.text text)) => receiveFrame config text.utf8ByteSize
  | some (.ok (.binary bytes)) => receiveFrame config bytes.length
  | some (.ok (.ping bytes)) => do
    Ask.sendIgnored (.pong bytes)
    pure none
  | some (.ok (.close _)) => breakSession
  | none => breakSession
  | some (.error err) => do
    recordError (categorizeSessionError err .read) .attempt
    breakSession
  | _ => pure none

/-- What a stream session keeps from one turn to the next. -/
structure StreamState where
  seq : ℕ
  /-- The end of the read pause in progress. -/
  readResume : Option Instant

/-- The time between two sends. -/
def pacingDuration : Duration :=
  if 0 < config.ratePerConn then ratePeriod config.ratePerConn else 10000

/-- The send of one tick. -/
def streamSend (state : StreamState) : Round StreamState := do
  claimOrBreak config
  let plan ← chaosPlan config
  if plan.drop then do
    Ask.record .chaosDropped
    pure { state with seq := state.seq + 1 }
  else do
    let _ ← delaySend plan.delay none none
    let nowMs ← Ask.wallClock
    let message := renderMessage config workerId [] config.payload state.seq nowMs
    let (message, _) ← chaosCorrupt config message plan.corrupt
    match ← Ask.send message with
    | .error err => failWrite err
    | .ok () => do
      Ask.record (.messageSent (messageByteLen message))
      chaosClose config
      if ← applyThinkTime scenario then pure { state with seq := state.seq + 1 }
      else closeAndBreak

/-- One turn of the stream loop. -/
def streamRound (state : StreamState) : Round StreamState := do
  match ← Ask.select (.stream (pacingDuration config) state.readResume.isSome) with
  | .due => streamSend config workerId scenario state
  | .keepalive => do
    sendKeepalive config
    pure state
  | .resume => pure { state with readResume := none }
  | .read item =>
    if state.readResume.isSome then pure state
    else do
      let readResume ← readFrame config item
      pure { state with readResume }
  | .cancelled => closeAndBreak
  | .timedOut => pure state

/-- A stream session: turns until one of them leaves. Its sequence numbers
start at zero. -/
def runStreamLoop : Session SessionEnd :=
  Proc.forever (streamRound config workerId scenario) ⟨0, none⟩

/-- One turn of the listen loop; its state is the end of the read pause in
progress. -/
def listenRound (readResume : Option Instant) : Round (Option Instant) := do
  match ← Ask.select (.listen readResume.isSome) with
  | .keepalive => do
    sendKeepalive config
    pure readResume
  | .resume => pure none
  | .read item => if readResume.isSome then pure readResume else readFrame config item
  | .cancelled => closeAndBreak
  | _ => pure readResume

/-- A listen session: turns until one of them leaves. -/
def runListenLoop : Session SessionEnd := Proc.forever (listenRound config) none

/-! ## Action scripts

A `send` action is a burst of sends; `wait`, `ping` and `close` act once. -/

/-- What a script keeps from one action to the next. -/
structure ScriptState where
  seq : ℕ
  schedule : Option SendSchedule
  /-- Values captured from replies. -/
  vars : List String

/-- The interval that paces the sends of a script that awaits no replies. -/
def scriptTick : Option Duration :=
  if !config.mode.awaitsReplies ∧ 0 < config.ratePerConn then
    some (ratePeriod config.ratePerConn)
  else none

/-- Sleeps, and leaves the loop when cancellation comes first. -/
def sleepOrBreak (timer : Timer) : Round Unit := do
  if ← Ask.sleep timer then pure () else closeAndBreak

/-- The wait before a send of a script. -/
def paceScript (due : Option Instant) : Round Unit :=
  match due with
  | some due => sleepOrBreak (.until due)
  | none =>
    match scriptTick config with
    | some period => sleepOrBreak (.tick period)
    | none => pure ()

/-- Sends one message of a script. -/
def sendScript (payload : Option PayloadConfig) (state : ScriptState) (plan : SendPlan)
    (due : Option Instant) : Round Request := do
  let nowMs ← Ask.wallClock
  let message := renderMessage config workerId state.vars (payload.getD config.payload) state.seq
    nowMs
  let (message, corrupted) ← chaosCorrupt config message plan.corrupt
  let startTime ← Ask.now
  match ← Ask.send message with
  | .error err => failWrite err
  | .ok () => do
    Ask.record (.messageSent (messageByteLen message))
    pure ⟨state.seq, retainForExactMatch config message, corrupted, due, startTime⟩

/-- In a mode that awaits replies, waits for the reply to a request and takes
the pause after it; the schedule and the variables afterwards. -/
def settleScript (request : Request) (expect : Option Check) (captures : List Capture)
    (schedule : Option SendSchedule) (vars : List String) :
    Round (Option SendSchedule × List String) :=
  if config.mode.awaitsReplies then do
    let vars ← settleReply serde config request true expect captures vars
    let schedule ← pauseReads config schedule
    pure (schedule, vars)
  else pure (schedule, vars)

/-- One send of a burst. -/
def sendOnce (payload : Option PayloadConfig) (expect : Option Check) (captures : List Capture)
    (state : ScriptState) : Round ScriptState := do
  if ← Ask.isCancelled then closeAndBreak
  else do
    let due := state.schedule.map (·.nextDue)
    paceScript config due
    claimOrBreak config
    let plan ← chaosPlan config
    if plan.drop then do
      Ask.record .chaosDropped
      pure ⟨state.seq + 1, state.schedule.map (·.advance), state.vars⟩
    else do
      let (schedule, due) ← delaySend plan.delay state.schedule due
      let request ← sendScript config workerId payload state plan due
      let (schedule, vars) ← settleScript serde config request expect captures schedule state.vars
      chaosClose config
      pure ⟨state.seq + 1, schedule.map (·.advance), vars⟩

/-- The sends of a burst. -/
def sendBurst (payload : Option PayloadConfig) (expect : Option Check) (captures : List Capture) :
    ℕ → ScriptState → Round ScriptState
  | 0, state => pure state
  | count + 1, state => do
    let state ← sendOnce serde config workerId payload expect captures state
    sendBurst payload expect captures count state

/-- The schedule of a script after a deliberate pause. -/
def restartScript (state : ScriptState) : Session ScriptState := do
  let schedule ← restartAfterPause state.schedule
  pure { state with schedule }

/-- One action of a script. -/
def runAction (state : ScriptState) : ScenarioAction → Round ScriptState
  | .send payload count expect captures name => do
    -- sends, latencies and errors until the burst ends also count for the action's name
    Ask.record (.currentAction name)
    let state ← sendBurst serde config workerId payload expect captures count state
    Ask.record (.currentAction none)
    if ← applyThinkTime scenario then
      if scenario.all (·.thinkTime = 0) then pure state else restartScript state
    else closeAndBreak
  | .wait duration => do
    sleepOrBreak (.after duration)
    restartScript state
  | .ping interval => do
    match ← Ask.send keepalive with
    | .error err => failWrite err
    | .ok () => do
      sleepOrBreak (.after interval)
      restartScript state
  | .close code reason => do
    Ask.sendIgnored (.close (some ⟨code, reason⟩))
    throw .finished

/-- Whether the script stops before its next action. -/
def scriptStops : Session Bool := do
  if ← Ask.isCancelled then pure true else maxRequestsReached config

/-- The actions of a script, one after the other. -/
def runActions : List ScenarioAction → ScriptState → Round ScriptState
  | [], state => pure state
  | action :: rest, state => do
    if ← scriptStops config then
      if ← maxRequestsReached config then do
        Ask.cancel
        closeAndBreak
      else closeAndBreak
    else do
      let state ← runAction serde config workerId scenario state action
      runActions rest state

/-- One pass over the script. -/
def scriptRound (phase : ScenarioPhase) (state : ScriptState) : Round ScriptState := do
  if ← Ask.isCancelled then closeAndBreak
  else runActions serde config workerId (some phase) phase.actions state

/-- Executes a phase's actions, over and over, until the phase ends, the
server closes, cancellation fires or a Close action runs. -/
def runActionLoop (phase : ScenarioPhase) : Session SessionEnd := do
  let now ← Ask.now
  let schedule :=
    if config.mode.awaitsReplies then SendSchedule.new config.ratePerConn now else none
  Ask.record (.intervalUsesResponse schedule.isSome)
  Proc.forever (scriptRound serde config workerId phase)
    ⟨0, schedule, List.replicate phase.vars.length ""⟩

/-! ## graphql-ws

The messages of both protocols that go by that name, the older `graphql-ws` and
the newer `graphql-transport-ws`, which differ in what the start and the end of
a subscription are called. -/

/-- The operation of a `start` or `subscribe` message. -/
structure GraphQLWSStartPayload where
  query : String
  operationName : Option String
  «variables» : Option Json
  extensions : Option Json

/-- A message of the graphql-ws protocols. The constructors that only one of
them has are received in either; what is sent depends on the subprotocol. -/
inductive GraphQLWSMessage where
  | connectionInit (payload : Option Json)
  | connectionAck
  | connectionError (payload : Option Json)
  | connectionKeepAlive
  | connectionTerminate
  | ping
  | pong
  | start (id : String) (payload : GraphQLWSStartPayload)
  | stop (id : String)
  | subscribe (id : String) (payload : GraphQLWSStartPayload)
  | data (id : String) (payload : Json)
  | next (id : String) (payload : Json)
  | error (id : String) (payload : List Json)
  | complete (id : String)

/-- The JSON texts of graphql-ws messages, as `serde` derives them. -/
structure GraphQLCodec where
  toText : GraphQLWSMessage → Option String
  fromText : String → Option GraphQLWSMessage

variable (codec : GraphQLCodec)

/-- Sends a graphql-ws message that is counted as sent. -/
def sendGraphQL (message : GraphQLWSMessage) : Round Unit :=
  match codec.toText message with
  | none => do
    recordError .protocolError .attempt
    throw .finished
  | some json => do
    match ← Ask.send (.text json) with
    | .error err => failWrite err
    | .ok () => Ask.record (.messageSent json.utf8ByteSize)

/-- Answers a graphql-ws ping. -/
def sendGraphQLPong : Session Unit :=
  match codec.toText .pong with
  | none => pure ()
  | some json => Ask.sendIgnored (.text json)

/-- Ends the session with one error for the message that was sent. -/
def failSent {R : Type} (category : ErrorCategory) : Round R := do
  recordError category .sentMessage
  breakSession

/-- What the wait for `connection_ack` does with a text frame. -/
def readAck (text : String) : Round (Unit ⊕ Unit) :=
  match codec.fromText text with
  | some .connectionAck => pure (.inr ())
  | some (.connectionError _) => failSent .protocolError
  | some .ping => do
    sendGraphQLPong codec
    pure (.inl ())
  | _ => pure (.inl ())

/-- One turn of the wait for `connection_ack`, done with the ack. -/
def ackRound (_ : Unit) : Round (Unit ⊕ Unit) := do
  match ← Ask.select (.ack config.messageTimeout) with
  | .cancelled => closeAndBreak
  | .timedOut => failSent .timeout
  | .keepalive => do
    sendKeepalive config
    pure (.inl ())
  | .read (some (.ok (.text text))) => readAck codec text
  | .read (some (.ok (.close _))) => failSent .unexpectedClose
  | .read none => failSent .unexpectedClose
  | .read (some (.error err)) => failSent (categorizeSessionError err .read)
  | _ => pure (.inl ())

/-- How the subscription loop was left. -/
inductive SubscriptionEnd where
  | cancelled
  | complete
  /-- The server closed, or the connection failed. -/
  | closed
  deriving DecidableEq, Repr

/-- What the subscription loop does with a graphql-ws message of `bytes`
bytes. -/
def readSubscription (bytes : ℕ) : GraphQLWSMessage → Session (Option Instant ⊕ SubscriptionEnd)
  | .data _ _ => do
    let readResume ← receiveFrame config bytes
    pure (.inl readResume)
  | .next _ _ => do
    let readResume ← receiveFrame config bytes
    pure (.inl readResume)
  | .error _ _ => do
    recordError .protocolError .attempt
    pure (.inl none)
  | .connectionError _ => do
    recordError .protocolError .attempt
    pure (.inl none)
  | .complete _ => pure (.inr .complete)
  | .ping => do
    sendGraphQLPong codec
    pure (.inl none)
  | _ => pure (.inl none)

/-- What the subscription loop does with a text frame. -/
def readSubscriptionText (text : String) : Session (Option Instant ⊕ SubscriptionEnd) :=
  match codec.fromText text with
  | some message => readSubscription config codec text.utf8ByteSize message
  | none => pure (.inl none)

/-- What the subscription loop does with what it reads. -/
def readSubscriptionItem : Item → Session (Option Instant ⊕ SubscriptionEnd)
  | some (.ok (.text text)) => readSubscriptionText config codec text
  | some (.ok (.close _)) => pure (.inr .closed)
  | none => pure (.inr .closed)
  | some (.error err) => do
    recordError (categorizeSessionError err .read) .attempt
    pure (.inr .closed)
  | _ => pure (.inl none)

/-- One turn of the subscription loop; its state is the end of the read pause
in progress. -/
def subscriptionRound (readResume : Option Instant) :
    Session (Option Instant ⊕ SubscriptionEnd) := do
  match ← Ask.select (.subscription readResume.isSome) with
  | .cancelled => pure (.inr .cancelled)
  | .keepalive => do
    sendKeepalive config
    pure (.inl readResume)
  | .resume => pure (.inl none)
  | .read item =>
    if readResume.isSome then pure (.inl readResume) else readSubscriptionItem config codec item
  | _ => pure (.inl readResume)

/-- The end of a subscription: it is stopped, and one that neither completed
nor was cancelled counts as closed unexpectedly. -/
def endSubscription (stop : GraphQLWSMessage) (ended : SubscriptionEnd) : Session SessionEnd :=
  match codec.toText stop with
  | none => do
    recordError .protocolError .attempt
    pure .finished
  | some json => do
    Ask.sendIgnored (.text json)
    match ended with
    | .cancelled => do
      Ask.sendIgnored (.close none)
      pure .finished
    | .closed => do
      recordError .unexpectedClose .attempt
      sessionEnd
    | .complete => pure .finished

/-- Whether the session speaks the legacy `graphql-ws` subprotocol. -/
def legacyProtocol : Bool := config.subprotocol.any fun value => value.toLower == "graphql-ws"

/-- The messages that start and stop the subscription. -/
def subscriptionMessages (graphql : GraphQLWSConfig) : GraphQLWSMessage × GraphQLWSMessage :=
  let id := "wsblast-sub-" ++ toString workerId
  let payload : GraphQLWSStartPayload :=
    ⟨graphql.operation, graphql.operationName, graphql.variables, graphql.extensions⟩
  if legacyProtocol config then (.start id payload, .stop id)
  else (.subscribe id payload, .complete id)

/-- The handshake of a graphql-ws session, up to the subscription: the
message that stops it. -/
def openSubscription : Round GraphQLWSMessage :=
  match config.graphqlWs with
  | none => do
    recordError .protocolError .attempt
    throw .finished
  | some graphql => do
    sendGraphQL codec (.connectionInit none)
    Proc.repeatUntil (ackRound config codec) ()
    let (start, stop) := subscriptionMessages config workerId graphql
    sendGraphQL codec start
    pure stop

/-- A graphql-ws session: the handshake up to the subscription, the loop that
reads its results, and the message that stops it. -/
def runGraphQLWsLoop : Session SessionEnd := do
  match ← (openSubscription config workerId codec).run with
  | .error ended => pure ended
  | .ok stop => do
    let ended ← Proc.loop (subscriptionRound config codec) none
    endSubscription codec stop ended

end Modes

end WsBlast
