import WsBlast.Lib.Proc
import WsBlast.Message

/-!
# The session loops of a worker

A worker's session is a program (`Proc`) over the questions of `Eff`: what a
send or a wait gave, what the clock and the cancellation token say, what
chaos draws, and what is recorded in the worker's metrics. The questions are
the points where the program awaits or reads something it shares, so the
runs of a session are all the ways the server, the network, the other
workers and the scheduler can treat it.

A wait of several branches (`tokio::select!`) is one question, `select`,
whose answer names the branch that was ready. A branch that the wait does
not have, or that is switched off, is never ready; an answer that names one
is read as a wake-up for nothing, and the wait starts again.

Each loop is cut into the pieces its source has: the wait for a slot, the
send, the wait for the reply, what is done with the reply. A piece either
goes on or leaves the loop with a `SessionEnd`.

What the answers are allowed to be is not decided here. A send may fail
whenever it likes, a clock may stand still, a reply may come before it was
asked for: the program has to do something in each case, and it does what the
source does. Assumptions about the environment enter only where a result needs
them, as the `Admits` of a monitor, so that a reader can see what each result
rests on.
-/

namespace WsBlast

/-! ## What a session records

The source updates the metrics in place through `record_*` functions. -/

/-- A call of one of the `record_*` functions, or an assignment to a field of
the worker's metrics. Each carries the arguments of the call. -/
inductive Record where
  | handshake (duration : Duration)
  | reconnect (duration : Duration)
  | connectionFailed (err : ErrorCategory)
  | connectionClosed
  | messageSent (bytes : ℕ)
  | messageRecv (now : Instant) (bytes : ℕ) (rtt : Option Duration)
  | responseTime (now : Instant) (duration : Duration)
  | unsolicitedFrames (count : ℕ)
  | error (err : ErrorCategory) (scope : ErrorScope)
  | chaosDelayed
  | chaosDropped
  | chaosCorrupted
  | chaosReadPause
  | chaosClose
  | interrupted
  | currentAction (action : Option ℕ)
  | intervalUsesResponse (uses : Bool)
  deriving DecidableEq, Repr

namespace WorkerMetrics

/-- Carries out a record. -/
def apply (w : WorkerMetrics) (heap : Heap) : Record → WorkerMetrics × Heap
  | .handshake duration => w.recordHandshake heap duration
  | .reconnect duration => w.recordReconnect heap duration
  | .connectionFailed err => w.recordConnectionFailed heap err
  | .connectionClosed => w.recordConnectionClosed heap
  | .messageSent bytes => w.recordMessageSent heap bytes
  | .messageRecv now bytes rtt => w.recordMessageRecv heap now bytes rtt
  | .responseTime now duration => w.recordResponseTime heap now duration
  | .unsolicitedFrames count => w.recordUnsolicitedFrames heap count
  | .error err scope => w.recordError heap err scope
  | .chaosDelayed => (w.recordChaosDelayed, heap)
  | .chaosDropped => (w.recordChaosDropped, heap)
  | .chaosCorrupted => (w.recordChaosCorrupted, heap)
  | .chaosReadPause => (w.recordChaosReadPause, heap)
  | .chaosClose => (w.recordChaosClose, heap)
  | .interrupted => ({ w with interrupted := true }, heap)
  | .currentAction action => ({ w with currentAction := action }, heap)
  | .intervalUsesResponse uses => ({ w with intervalUsesResponse := uses }, heap)

end WorkerMetrics

/-! ## Questions

One constructor for every point at which a loop awaits, reads the clock, draws
from chaos or looks at what other workers change. -/

/-- What a sleep waits for. -/
inductive Timer where
  /-- `sleep_until` of a send slot. -/
  | until (due : Instant)
  /-- `sleep` of a given length. -/
  | after (duration : Duration)
  /-- The next tick of an interval. -/
  | tick (period : Duration)
  deriving DecidableEq, Repr

/-- The waits of several branches, with what decides which branches they
have. -/
inductive Wait where
  /-- For a send slot, with keepalives meanwhile. -/
  | slot (due : Instant)
  /-- For the next frame while a reply is awaited, for at most `timeout`. -/
  | reply (timeout : Duration)
  /-- The stream loop's; `paused` while a read pause lasts. -/
  | stream (period : Duration) (paused : Bool)
  /-- The listen loop's. -/
  | listen (paused : Bool)
  /-- For the `connection_ack` of a graphql-ws session. -/
  | ack (timeout : Duration)
  /-- The subscription loop's of a graphql-ws session. -/
  | subscription (paused : Bool)
  /-- For the next frame while a Socket.IO session opens. -/
  | opening (timeout : Duration)
  deriving DecidableEq, Repr

/-- What the stream of a session yields: a frame, an error, or nothing once
it has ended. -/
abbrev Item := Option (Except WsError Message)

/-- The branch of a wait that was ready. -/
inductive Woken where
  /-- The send slot or tick. -/
  | due
  /-- The keepalive tick. -/
  | keepalive
  /-- The end of a read pause. -/
  | resume
  | timedOut
  | cancelled
  | read (item : Item)

/-- How a send under a timeout and the cancellation token came out. -/
inductive SendOutcome where
  | cancelled
  | timedOut
  | done (result : Except WsError Unit)

/-- How one attempt to connect came out. -/
inductive ConnectOutcome where
  /-- The run was cancelled before the attempt was over. -/
  | cancelled
  | timedOut
  | opened
  /-- A failure that every retry would repeat. -/
  | static (category : ErrorCategory)
  | failed (err : WsError)

/-- A handshake request. -/
structure HandshakeRequest where
  url : String
  headers : List Header
  deriving DecidableEq, Repr

/-- What a worker asks its environment. -/
inductive Eff where
  | isCancelled
  /-- Cancel the run. -/
  | cancel
  | now
  /-- Milliseconds of the wall clock. -/
  | wallClock
  | claimRequest (max : ℕ)
  | requestsExhausted (max : ℕ)
  /-- Whether this worker has recorded no error. -/
  | errorsEmpty
  | record (record : Record)
  /-- Sleep, or be cancelled. -/
  | sleep (timer : Timer)
  /-- Whether the keepalive ticker is due, without waiting. -/
  | keepaliveDue
  /-- A send whose result is looked at. -/
  | send (message : Message)
  /-- A send whose result is looked at, or be cancelled. -/
  | sendOrCancelled (message : Message)
  /-- A send under the timeout of an opening Socket.IO session. -/
  | sendOpening (message : Message)
  /-- A send whose result is ignored. -/
  | sendIgnored (message : Message)
  | select (wait : Wait)
  /-- A Socket.IO session goes over to its channel; the pump takes the
  socket and pings the server every `pingEvery`. -/
  | openChannel (pingEvery : Option Duration)
  /-- The frames the pump counted as unsolicited, once both have ended. -/
  | pumpUnsolicited
  | chaosPlan
  | chaosCorrupt (message : Message)
  | chaosReadPause
  | chaosCloseNow
  /-- Connect, under the connect timeout and the cancellation token. -/
  | connect (request : HandshakeRequest)
  deriving DecidableEq

/-- What each question is answered with. -/
def Eff.Answer : Eff → Type
  | .isCancelled => Bool
  | .cancel => Unit
  | .now => Instant
  | .wallClock => ℕ
  | .claimRequest _ => Bool
  | .requestsExhausted _ => Bool
  | .errorsEmpty => Bool
  | .record _ => Unit
  | .sleep _ => Bool
  | .keepaliveDue => Bool
  | .send _ => Except WsError Unit
  | .sendOrCancelled _ => Option (Except WsError Unit)
  | .sendOpening _ => SendOutcome
  | .sendIgnored _ => Unit
  | .select _ => Woken
  | .openChannel _ => Unit
  | .pumpUnsolicited => ℕ
  | .chaosPlan => SendPlan
  | .chaosCorrupt _ => Message × Bool
  | .chaosReadPause => Option Duration
  | .chaosCloseNow => Option Bool
  | .connect _ => ConnectOutcome

/-- A program of a worker. -/
abbrev Session (R : Type) : Type 1 := Proc Eff Eff.Answer R

/-- How a session loop ended, deciding whether the worker reconnects. -/
inductive SessionEnd where
  /-- The run was cancelled or the script or subscription completed. -/
  | finished
  /-- The connection failed or the server closed it while the run
  continued. -/
  | lost
  deriving DecidableEq, Repr

/-- A piece of a session loop: it goes on, or ends the session. -/
abbrev Round (R : Type) : Type 1 := Proc.Step Eff Eff.Answer SessionEnd R

/-- One event of a worker's trace. -/
abbrev Event : Type := Proc.Event Eff Eff.Answer

/-! ## The questions as programs

The question as a program that asks it and returns the answer. -/

namespace Ask

/-- Asks whether the run has been cancelled. -/
def isCancelled : Session Bool := Proc.ask Eff.isCancelled
/-- Cancels the run, for every worker of it. -/
def cancel : Session Unit := Proc.ask Eff.cancel
/-- Reads the monotonic clock. -/
def now : Session Instant := Proc.ask Eff.now
/-- Reads the wall clock, in milliseconds. -/
def wallClock : Session ℕ := Proc.ask Eff.wallClock
/-- Claims one send against the limit of the run. -/
def claimRequest (max : ℕ) : Session Bool := Proc.ask (Eff.claimRequest max)
/-- Asks whether all sends of the run have been claimed. -/
def requestsExhausted (max : ℕ) : Session Bool := Proc.ask (Eff.requestsExhausted max)
/-- Asks whether this worker has recorded no error so far. -/
def errorsEmpty : Session Bool := Proc.ask Eff.errorsEmpty
/-- Records something in the worker's metrics. -/
def record (record : Record) : Session Unit := Proc.ask (Eff.record record)
/-- Sleeps; false when the run was cancelled meanwhile. -/
def sleep (timer : Timer) : Session Bool := Proc.ask (Eff.sleep timer)
/-- Asks whether the keepalive ticker is due, without waiting for it. -/
def keepaliveDue : Session Bool := Proc.ask Eff.keepaliveDue
/-- Sends a message and looks at the result. -/
def send (message : Message) : Session (Except WsError Unit) := Proc.ask (Eff.send message)
/-- Sends a message unless the run is cancelled first, which gives `none`. -/
def sendOrCancelled (message : Message) : Session (Option (Except WsError Unit)) :=
  Proc.ask (Eff.sendOrCancelled message)
/-- Sends a message of the Socket.IO handshake, under a timeout and the
cancellation token. -/
def sendOpening (message : Message) : Session SendOutcome := Proc.ask (Eff.sendOpening message)
/-- Sends a message whose result nobody looks at, such as a pong. -/
def sendIgnored (message : Message) : Session Unit := Proc.ask (Eff.sendIgnored message)
/-- Waits for the first of several branches. -/
def select (wait : Wait) : Session Woken := Proc.ask (Eff.select wait)
/-- Hands the connection over to the task that answers pings. -/
def openChannel (pingEvery : Option Duration) : Session Unit :=
  Proc.ask (Eff.openChannel pingEvery)
/-- Takes the number of frames that the pump could not match to an event. -/
def pumpUnsolicited : Session ℕ := Proc.ask Eff.pumpUnsolicited
/-- Draws what chaos does to the next send. -/
def chaosPlan : Session SendPlan := Proc.ask Eff.chaosPlan
/-- Draws how chaos changes a frame, and whether it did. -/
def chaosCorrupt (message : Message) : Session (Message × Bool) :=
  Proc.ask (Eff.chaosCorrupt message)
/-- Draws the pause after a received frame. -/
def chaosReadPause : Session (Option Duration) := Proc.ask Eff.chaosReadPause
/-- Draws whether chaos closes the connection. -/
def chaosCloseNow : Session (Option Bool) := Proc.ask Eff.chaosCloseNow
/-- Connects with a handshake request. -/
def connect (request : HandshakeRequest) : Session ConnectOutcome :=
  Proc.ask (Eff.connect request)

end Ask

/-! ## What the loops share

The small steps that echo, stream, listen and the scripted loop have in common.
-/

section Sessions

variable (serde : Serde) (config : LoadTestConfig) (workerId : ℕ) (scenario : Option ScenarioPhase)

/-- A session that ended on its own: cancellation means the work is done,
anything else means the connection was lost. -/
def sessionEnd : Session SessionEnd := do
  if ← Ask.isCancelled then pure .finished else pure .lost

/-- Leaves the loop. -/
def breakSession {R : Type} : Round R := do
  throw (← sessionEnd)

/-- Sends a Close frame and leaves the loop. -/
def closeAndBreak {R : Type} : Round R := do
  Ask.sendIgnored (.close none)
  breakSession

/-- Claims the next send against `--requests`; always true without a
limit. -/
def claimSend : Session Bool :=
  match config.maxRequests with
  | none => pure true
  | some max => Ask.claimRequest max

/-- Whether the request limit is used up. -/
def maxRequestsReached : Session Bool :=
  match config.maxRequests with
  | none => pure false
  | some max => Ask.requestsExhausted max

/-- Claims the next send; a worker that comes too late cancels the run. -/
def claimOrBreak : Round Unit := do
  if ← claimSend config then pure ()
  else do
    Ask.cancel
    closeAndBreak

/-- Counts an error, and for which messages it counts. -/
def recordError (err : ErrorCategory) (scope : ErrorScope) : Session Unit :=
  Ask.record (.error err scope)

/-- Sends a keepalive ping, when the session has a keepalive ticker. -/
def sendKeepalive : Session Unit :=
  if 0 < config.pingInterval then Ask.sendIgnored keepalive else pure ()

/-- Pauses for the phase's think time; false when cancellation came
first. -/
def applyThinkTime : Session Bool :=
  match scenario with
  | none => pure true
  | some phase =>
    if phase.thinkTime = 0 then pure true else Ask.sleep (.after phase.thinkTime)

/-- What chaos does to the next data send; nothing without chaos. -/
def chaosPlan : Session SendPlan :=
  if config.chaos.isSome then Ask.chaosPlan else pure {}

/-- Waits out a chaos delay before a send; false when the run was cancelled
meanwhile. -/
def chaosDelay (delay : Duration) : Session Bool := do
  Ask.record .chaosDelayed
  Ask.sleep (.after delay)

/-- The pause chaos takes after a received data frame, counted. -/
def chaosReadPause : Session (Option Duration) :=
  if config.chaos.isSome then do
    match ← Ask.chaosReadPause with
    | none => pure none
    | some pause => do
      Ask.record .chaosReadPause
      pure (some pause)
  else pure none

/-- Corrupts a frame when the plan says so; the frame to send and whether
chaos changed it. -/
def chaosCorrupt (message : Message) (corrupt : Bool) : Session (Message × Bool) :=
  if corrupt ∧ config.chaos.isSome then do
    let (message, changed) ← Ask.chaosCorrupt message
    if changed then do
      Ask.record .chaosCorrupted
      pure (message, changed)
    else pure (message, changed)
  else pure (message, false)

/-- Whether chaos closes the connection now; `some graceful` when it does. -/
def chaosCloseNow : Session (Option Bool) :=
  if config.chaos.isSome then Ask.chaosCloseNow else pure none

/-- The Close frame of a graceful chaos close. -/
def chaosCloseMessage : Message := .close (some ⟨1001, "wsblast chaos close"⟩)

/-- Ends the session when chaos closes the connection now. The connection
counts as lost; it is not an error. -/
def chaosClose : Round Unit := do
  match ← chaosCloseNow config with
  | none => pure ()
  | some graceful => do
    Ask.record .chaosClose
    if graceful then do
      Ask.sendIgnored chaosCloseMessage
      breakSession
    else breakSession

/-- The values the connection fills templates with for frame `seq`. -/
def templateValues (vars : List String) (seq nowMs : ℕ) : Values where
  seq
  workerId
  data := config.data.map fun data => (data, data.rowFor workerId)
  vars
  nowMs

/-- The frame of a payload. -/
def renderMessage (vars : List String) (payload : PayloadConfig) (seq nowMs : ℕ) : Message :=
  match payload with
  | .binary bytes => .binary bytes
  | .staticText text => .text text
  | .dynamicText template => .text (template.render (templateValues config workerId vars seq nowMs))

/-- Keeps the outgoing frame when the reply must equal it. -/
def retainForExactMatch (message : Message) : Option Message :=
  if config.replyMatch = .exact then some message else none

/-! ## Waiting for a reply

A request is over when its reply has come, when something else ended the wait,
or when the session did. -/

/-- How the wait for a reply ended. Each way is recorded differently by
`settleReply`. -/
inductive Reply where
  | cancelled
  | timedOut
  | received (reply : Message)
  /-- The server sent a Close frame. -/
  | closed
  | failed (category : ErrorCategory)

/-- The rule a data frame is matched with: the reply to a request that chaos
corrupted may have lost the value a JSON pointer looks for. -/
def matchRule (corrupted : Bool) : ReplyMatch :=
  match config.replyMatch with
  | .jsonPointer pointer => if corrupted then .first else .jsonPointer pointer
  | rule => rule

/-- What the wait for a reply does with a frame: pings are answered, and data
frames that do not match are counted. -/
def readReply (sent : Option Message) (seq : ℕ) (corrupted : Bool) (unsolicited : ℕ) :
    Message → Session (ℕ ⊕ (Reply × ℕ))
  | .close _ => pure (.inr (.closed, unsolicited))
  | .ping bytes => do
    Ask.sendIgnored (.pong bytes)
    pure (.inl unsolicited)
  | .pong _ => pure (.inl unsolicited)
  | .frame => pure (.inl unsolicited)
  | reply =>
    if replyMatches serde (matchRule config corrupted) reply sent seq then
      pure (.inr (.received reply, unsolicited))
    else pure (.inl (unsolicited + 1))

/-- Reads frames until one matches. The timeout and the cancellation end it
too. -/
def awaitReply (sent : Option Message) (seq : ℕ) (corrupted : Bool) : Session (Reply × ℕ) :=
  Proc.loop (fun unsolicited => do
    match ← Ask.select (.reply config.messageTimeout) with
    | .cancelled => pure (.inr (.cancelled, unsolicited))
    | .timedOut => pure (.inr (.timedOut, unsolicited))
    | .read none => pure (.inr (.failed .unexpectedClose, unsolicited))
    | .read (some (.error err)) =>
      pure (.inr (.failed (categorizeSessionError err .read), unsolicited))
    | .read (some (.ok message)) => readReply serde config sent seq corrupted unsolicited message
    | _ => pure (.inl unsolicited)) 0

/-- Applies `--expect`, the action's `expect` and its captures to a reply, and
counts one error when any of them fails. The variables afterwards. -/
def checkReply (reply : Message) (expect : Option Check) (captures : List Capture)
    (vars : List String) : Session (List String) :=
  if config.expect.isNone ∧ expect.isNone ∧ captures = [] then pure vars
  else
    let (vars, captured) := applyCaptures serde reply captures vars
    if config.expect.all (·.passes serde reply) ∧ expect.all (·.passes serde reply) ∧ captured then
      pure vars
    else do
      recordError .checkFailed .sentMessage
      pure vars

/-- What a request that has been sent waits with. -/
structure Request where
  seq : ℕ
  sent : Option Message
  corrupted : Bool
  /-- When the request was due, in a paced session. -/
  due : Option Instant
  /-- When it was sent. -/
  startTime : Instant

/-- The checks of a reply. A corrupted request may well get a reply that fails
them; that is the fault, not the server. -/
def checkAnswer (request : Request) (reply : Message) (expect : Option Check)
    (captures : List Capture) (vars : List String) : Session (List String) :=
  if request.corrupted then pure vars else checkReply serde config reply expect captures vars

/-- Records the response time of a paced request. -/
def recordPaced (request : Request) (recordResponse : Bool) (rtt : Duration) : Session Unit :=
  match request.due with
  | none => pure ()
  | some due =>
    if recordResponse then do
      let recordedAt ← Ask.now
      Ask.record (.responseTime recordedAt
        (SendSchedule.responseTime due request.startTime rtt))
    else pure ()

/-- Waits for the reply to a request and records how the wait ended: the
reply, with its checks and captures, or one error for the request. Only a
reply lets the session go on. -/
def settleReply (request : Request) (recordResponse : Bool) (expect : Option Check)
    (captures : List Capture) (vars : List String) : Round (List String) := do
  let (reply, unsolicited) ← awaitReply serde config request.sent request.seq request.corrupted
  Ask.record (.unsolicitedFrames unsolicited)
  match reply with
  | .cancelled => closeAndBreak
  | .timedOut => do
    recordError .timeout .sentMessage
    breakSession
  | .failed category => do
    recordError category .sentMessage
    breakSession
  -- a server Close ends the session; it is not the reply
  | .closed => breakSession
  | .received reply => do
    let receivedAt ← Ask.now
    let rtt := receivedAt - request.startTime
    let recordedAt ← Ask.now
    Ask.record (.messageRecv recordedAt (messageByteLen reply) (some rtt))
    let vars ← checkAnswer serde config request reply expect captures vars
    recordPaced request recordResponse rtt
    pure vars

/-- Records a failed write and leaves the loop. -/
def failWrite {R : Type} (err : WsError) : Round R := do
  recordError (categorizeSessionError err .write) .attempt
  breakSession

/-- A chaos delay before a send: the schedule and the due time it moves. -/
def delaySend (delay : Duration) (schedule : Option SendSchedule) (due : Option Instant) :
    Round (Option SendSchedule × Option Instant) :=
  if delay = 0 then pure (schedule, due)
  else do
    if ← chaosDelay delay then
      pure (schedule.map (·.shift delay), due.map (· + delay))
    else closeAndBreak

/-- A chaos read pause between a reply and the next send: the schedule it
moves. -/
def pauseReads (schedule : Option SendSchedule) : Round (Option SendSchedule) := do
  match ← chaosReadPause config with
  | none => pure schedule
  | some pause =>
    if ← Ask.sleep (.after pause) then pure (schedule.map (·.shift pause))
    else closeAndBreak

/-! ## The echo loop -/

/-- What an echo session keeps from one request to the next: the number of the
next request, and its schedule when the session is paced. -/
structure EchoState where
  seq : ℕ
  schedule : Option SendSchedule

/-- Waits for the slot of the next send; false when cancellation came first.
Keepalive ticks that land meanwhile only send a ping. -/
def waitForSlot (due : Instant) : Session Bool :=
  Proc.loop (fun (_ : Unit) => do
    match ← Ask.select (.slot due) with
    | .due => pure (.inr true)
    | .cancelled => pure (.inr false)
    | .keepalive => do
      sendKeepalive config
      pure (.inl ())
    | _ => pure (.inl ())) ()

/-- The wait before an echo send: for its slot, or without pacing only one
look at the keepalive ticker. -/
def paceEcho (due : Option Instant) : Round Unit :=
  match due with
  | some due => do
    if ← waitForSlot config due then pure () else closeAndBreak
  | none =>
    if 0 < config.pingInterval then do
      if ← Ask.keepaliveDue then Ask.sendIgnored keepalive else pure ()
    else pure ()

/-- Sends one echo request, unless the run is cancelled meanwhile. -/
def sendEcho (seq : ℕ) (plan : SendPlan) (due : Option Instant) : Round Request := do
  let nowMs ← Ask.wallClock
  let message := renderMessage config workerId [] config.payload seq nowMs
  let (message, corrupted) ← chaosCorrupt config message plan.corrupt
  let startTime ← Ask.now
  match ← Ask.sendOrCancelled message with
  | none => closeAndBreak
  | some (.error err) => failWrite err
  | some (.ok ()) => do
    Ask.record (.messageSent (messageByteLen message))
    pure ⟨seq, retainForExactMatch config message, corrupted, due, startTime⟩

/-- Whether a session records response time: think time is a deliberate pause
after each reply, not queueing. -/
def recordsResponseTime : Bool := scenario.all (·.thinkTime = 0)

/-- The schedule after a deliberate pause. -/
def restartAfterPause (schedule : Option SendSchedule) : Session (Option SendSchedule) :=
  match schedule with
  | none => pure none
  | some schedule => do
    let now ← Ask.now
    pure (some (schedule.restartAfterPause now))

/-- The pauses after a reply, and the schedule after them. -/
def pauseAfterReply (schedule : Option SendSchedule) : Round (Option SendSchedule) := do
  let schedule ← pauseReads config schedule
  if ← applyThinkTime scenario then
    if recordsResponseTime scenario then pure schedule
    else restartAfterPause schedule
  else closeAndBreak

/-- One turn of the echo loop. -/
def echoRound (state : EchoState) : Round EchoState := do
  if ← Ask.isCancelled then closeAndBreak
  else do
    let due := state.schedule.map (·.nextDue)
    paceEcho config due
    claimOrBreak config
    let plan ← chaosPlan config
    if plan.drop then do
      -- the slot is used up; nothing is sent and no reply awaited
      Ask.record .chaosDropped
      pure ⟨state.seq + 1, state.schedule.map (·.advance)⟩
    else do
      let (schedule, due) ← delaySend plan.delay state.schedule due
      let request ← sendEcho config workerId state.seq plan due
      let _ ← settleReply serde config request (recordsResponseTime scenario) none [] []
      chaosClose config
      let schedule ← pauseAfterReply config scenario (schedule.map (·.advance))
      pure ⟨state.seq + 1, schedule⟩

/-- An echo session: rounds until one of them leaves. The schedule starts when
the session does. -/
def runEchoLoop : Session SessionEnd := do
  let now ← Ask.now
  let schedule := SendSchedule.new config.ratePerConn now
  Ask.record (.intervalUsesResponse (schedule.isSome && recordsResponseTime scenario))
  Proc.forever (echoRound serde config workerId scenario) ⟨0, schedule⟩

end Sessions

end WsBlast
