import WsBlast.ChaosState
import WsBlast.MockRules
import WsBlast.Replay
import WsBlast.SocketIoServer

/-!
# A connection of the mock server

`runSession` is what `wsblast mock` does with an upgraded connection: one loop
that waits for a frame to read or a frame to send, whichever comes first. What
is received is echoed, answered as a rules file says or acknowledged as
Socket.IO does; a replay sends recorded frames instead. Everything to be sent
goes through one queue, and may be held back by a delay, by jitter and by the
server's stalls.

The session asks its environment the questions of `MockEff`: the clock, its
wait, what becomes of a send.

The mock is the server that the tests of wsblast, and its users, run against.
Three modes share the loop. Without a file it echoes; with rules it answers as
they say; with a capture it replays what a server once sent, in the recorded
rhythm, and ignores what it receives. On top of each, replies can be late,
jittered and stalled.
-/

namespace WsBlast

/-! ## Settings -/

/-- A server-wide stall of `length` at every multiple of `every`. -/
structure Stall where
  every : Duration
  length : Duration
  positive : 0 < length
  shorter : length < every

namespace Stall

variable (stall : Stall)

/-- When a reply that is ready at `now` may be sent, if not at once: the end
of the stall `now` falls in. Stalls are counted from the server's start. -/
def release (epoch now : Instant) : Option Instant :=
  let elapsed := now - epoch
  let cycles := elapsed / stall.every
  let intoCycle := elapsed % stall.every
  if cycles = 0 then none
  else if intoCycle < stall.length then some (now + min (stall.length - intoCycle) (2 ^ 64 - 1))
  else none

end Stall

/-- What a mock server was told to do with its connections. -/
structure MockConfig where
  delay : Duration
  jitter : Duration
  closeAfter : Option ℕ
  stall : Option Stall
  replay : Option ReplayScript
  rules : Option Rules
  /-- Engine.IO ping interval and timeout, when the mock speaks Socket.IO. -/
  socketio : Option (Duration × Duration)
  closes : closeAfter ≠ some 0
  noRulesOrReplay : socketio.isSome → replay = none ∧ rules = none
  noRules : replay.isSome → rules = none

/-- A delay plus jitter for one reply. -/
def MockConfig.replyDelayFrom (config : MockConfig) (base : Duration) (rng : XorShift64) :
    Duration × XorShift64 :=
  if config.jitter = 0 then (base, rng)
  else
    let (extra, rng) := rng.atMost (jitterBound config.jitter)
    (base + extra.toNat, rng)

/-! ## What a session sends

The queue in its two forms: replies of a session, or the frames of a recording
with the moments they are due. -/

/-- An entry of a session's reply queue. -/
inductive Queued where
  | frame (message : Message)
  /-- A protocol frame that is not a reply. -/
  | control (message : Message)
  | close (frame : CloseFrame)
  deriving DecidableEq

/-- What a session sends next. -/
inductive Outgoing where
  /-- Replies waiting for their send time, in the order their frames
  arrived. -/
  | echo (queue : List (Instant × Queued))
  /-- A recorded connection's frames that are still to be sent, and when the
  first of them is due, drawn once per frame. -/
  | replay (frames : List ReplayFrame) (start : Instant) (due : Option Instant)

namespace Outgoing

/-- When the next entry is due. -/
def nextDue (config : MockConfig) (rng : XorShift64) :
    Outgoing → Option Instant × Outgoing × XorShift64
  | .echo queue => (queue.head?.map Prod.fst, .echo queue, rng)
  | .replay [] start due => (none, .replay [] start due, rng)
  | .replay frames start (some due) => (some due, .replay frames start (some due), rng)
  | .replay (frame :: rest) start none =>
    let (delay, rng) := config.replyDelayFrom config.delay rng
    let due := start + frame.offset + delay
    (some due, .replay (frame :: rest) start (some due), rng)

/-- Takes the next entry out. -/
def pop : Outgoing → Option (Queued × Outgoing)
  | .echo [] => none
  | .echo ((_, item) :: rest) => some (item, .echo rest)
  | .replay [] _ _ => none
  | .replay (frame :: rest) start _ => some (.frame frame.message, .replay rest start none)

/-- Puts entries at the end of the queue of replies. -/
def push (entries : List (Instant × Queued)) : Outgoing → Outgoing
  | .echo queue => .echo (queue ++ entries)
  | .replay frames start due => .replay frames start due

/-- Whether received frames are answered. -/
def answers : Outgoing → Bool
  | .echo _ => true
  | .replay .. => false

end Outgoing

/-- What a session decides about a frame, the `seq`-th data frame it
received. -/
def MockConfig.decision (serde : Serde) (config : MockConfig) (message : Message) (seq : ℕ) :
    Decision :=
  match config.rules with
  | some rules => rules.decide serde message seq
  | none => .echo

/-- What a decision puts into the queue, without its due time. -/
def Decision.entries (message : Message) : Decision → List Queued
  | .echo => [.frame message]
  | .ignore => []
  | .reply frames _ close => frames.map .frame ++ (close.map Queued.close).toList

/-! ## Questions

A question for each thing a session asks: the clock, what woke it, whether a
send succeeded, and the counters it tells. -/

/-- What woke a session up. -/
inductive MockWoken where
  | cancelled
  /-- A Socket.IO ping is due, or the pong to the last one is late. -/
  | ping
  /-- The next outgoing frame is due. -/
  | due
  | received (item : Item)

/-- What a session of the mock asks its environment. -/
inductive MockEff where
  | now
  | isCancelled
  /-- The wait for the end of the run, a ping's time, an entry's time or a
  frame. -/
  | select (ping due : Option Instant)
  /-- The wait for the end of a stall; false when the server stops. -/
  | sleepUntil (release : Instant)
  /-- A send; false when it fails. -/
  | send (message : Message)
  /-- A Close frame, whose result is ignored. -/
  | close (frame : CloseFrame)
  /-- Completes a close handshake the client started. -/
  | finishClose
  /-- A read while the connection closes; false at its end. -/
  | discard
  | countReceived
  | countSent

/-- What each question of a session is answered with. -/
def MockEff.Answer : MockEff → Type
  | .now => Instant
  | .isCancelled => Bool
  | .select _ _ => MockWoken
  | .sleepUntil _ => Bool
  | .send _ => Bool
  | .close _ => Unit
  | .finishClose => Unit
  | .discard => Bool
  | .countReceived => Unit
  | .countSent => Unit

/-- A program of a session. -/
abbrev Mock (R : Type) : Type 1 := Proc MockEff MockEff.Answer R

/-- A piece of a session's loop, which may end the session. -/
abbrev MockStep (R : Type) : Type 1 := Proc.Step MockEff MockEff.Answer Unit R

/-- A question of a session with its answer. -/
abbrev MockEvent := Proc.Event MockEff MockEff.Answer

namespace MockAsk

/-- The clock is read. -/
def now : Mock Instant := Proc.ask MockEff.now
/-- Whether the server is stopping. -/
def isCancelled : Mock Bool := Proc.ask MockEff.isCancelled
/-- Waits for a frame, the next ping, the next due reply or the end. -/
def select (ping due : Option Instant) : Mock MockWoken := Proc.ask (MockEff.select ping due)
/-- Sleeps, unless the server stops. -/
def sleepUntil (release : Instant) : Mock Bool := Proc.ask (MockEff.sleepUntil release)
/-- Sends a frame; whether it went out. -/
def send (message : Message) : Mock Bool := Proc.ask (MockEff.send message)
/-- Sends a Close frame. -/
def close (code : ℕ) (reason : String) : Mock Unit := Proc.ask (MockEff.close ⟨code, reason⟩)
/-- Ends the stream. -/
def finishClose : Mock Unit := Proc.ask MockEff.finishClose
/-- Reads and discards one frame; whether there was one. -/
def discard : Mock Bool := Proc.ask MockEff.discard
/-- Counts a frame that was received, -/
def countReceived : Mock Unit := Proc.ask MockEff.countReceived
/-- or one that was sent. -/
def countSent : Mock Unit := Proc.ask MockEff.countSent

end MockAsk

/-! ## The session

The loop, part by part, each as the piece of the source that it is. -/

/-- What the loop of a session keeps. -/
structure MockState where
  outgoing : Outgoing
  rng : XorShift64
  replies : ℕ := 0
  /-- Data frames received on this connection. -/
  received : ℕ := 0
  sio : MockSession
  /-- Engine.IO 4: when the next ping is due. -/
  pingAt : Option Instant := none
  /-- The deadline of the pong, or of an Engine.IO 3 client's next ping. -/
  pongBy : Option Instant := none

/-- Reads until the client finishes the close handshake or the grace passes,
discarding what arrives. -/
def drain : Mock Unit :=
  Proc.loop (fun _ => do
    if ← MockAsk.discard then pure (.inl ()) else pure (.inr ())) ()

/-- Closes the connection and ends the session. -/
def closeSession {R : Type} (code : ℕ) (reason : String) : MockStep R := do
  MockAsk.close code reason
  drain
  throw ()

/-- Closes a session because the server is stopping. -/
def shutDown {R : Type} : MockStep R := closeSession 1001 "server shutting down"

section Session

variable (serde : Serde) (config : MockConfig) (epoch : Instant) (engineIo3 : Bool) (sid : String)

/-- What a session does next. A reply that is already due goes out at once. -/
def nextEvent (ping due : Option Instant) : Mock MockWoken :=
  match due with
  | none => MockAsk.select ping none
  | some due => do
    if due ≤ (← MockAsk.now) then
      if ← MockAsk.isCancelled then pure .cancelled else pure .due
    else MockAsk.select ping (some due)

/-- Pings the client, or drops it when it missed a ping. -/
def sendPing (state : MockState) : MockStep MockState := do
  let now ← MockAsk.now
  if state.pongBy.any (· ≤ now) then closeSession 1000 "ping timeout"
  else
    match config.socketio, state.pingAt with
    | some (interval, timeout), some due =>
      if due ≤ now then do
        if ← MockAsk.send (.text "2") then
          pure { state with pongBy := some (now + timeout), pingAt := some (now + interval) }
        else throw ()
      else pure state
    | _, _ => pure state

/-- Waits for the end of a stall. -/
def awaitRelease : MockStep Unit := do
  match config.stall.bind (·.release epoch (← MockAsk.now)) with
  | none => pure ()
  | some release => if ← MockAsk.sleepUntil release then pure () else shutDown

/-- Sends an entry that is due. -/
def sendQueued (state : MockState) : Queued → MockStep MockState
  | .control message => do
    if ← MockAsk.send message then pure state else throw ()
  | .close frame => closeSession frame.code frame.reason
  | .frame message => do
    if ← MockAsk.send message then
      MockAsk.countSent
      let state := { state with replies := state.replies + 1 }
      if config.closeAfter = some state.replies then closeSession 1000 "close-after"
      else pure state
    else throw ()

/-- Sends the next entry, once no stall holds it back. -/
def sendDue (state : MockState) : MockStep MockState := do
  awaitRelease config epoch
  match state.outgoing.pop with
  | none => pure state
  | some (item, outgoing) => sendQueued config { state with outgoing } item

/-- Queues what the server sends for a frame. Every frame of one decision is
due at the same time. -/
def queueReplies (state : MockState) (message : Message) : Mock MockState :=
  let decision := config.decision serde message state.received
  let queue (base : Duration) : Mock MockState := do
    let now ← MockAsk.now
    let (delay, rng) := config.replyDelayFrom base state.rng
    let entries := (decision.entries message).map fun item => (now + delay, item)
    pure { state with rng, outgoing := state.outgoing.push entries }
  match decision with
  | .echo => queue config.delay
  | .ignore => pure state
  | .reply _ delay _ => queue (delay.getD config.delay)

/-- What the mock does with a data frame of a Socket.IO client. -/
def receiveSocketIo (interval timeout : Duration) (state : MockState) (message : Message) :
    Mock MockState := do
  if message = .text "3" then pure { state with pongBy := none }
  else
    let state ← if engineIo3 = true ∧ message = .text "2" then do
        pure { state with pongBy := some ((← MockAsk.now) + interval + timeout) }
      else pure state
    match state.sio.receive serde message sid with
    | (none, sio) => pure { state with sio }
    | (some answer, sio) =>
      let state := { state with sio }
      -- the attachments of an event's reply go out with it and are not counted
      let items := match answer.event, answer.frames with
        | true, reply :: rest => Queued.frame reply :: rest.map .control
        | _, frames => frames.map .control
      if answer.event then do
        MockAsk.countReceived
        let state := { state with received := state.received + 1 }
        if state.outgoing.answers then do
          let now ← MockAsk.now
          let (delay, rng) := config.replyDelayFrom config.delay state.rng
          pure { state with
            rng, outgoing := state.outgoing.push (items.map fun item => (now + delay, item)) }
        else pure state
      else if state.outgoing.answers then do
        let now ← MockAsk.now
        pure { state with outgoing := state.outgoing.push (items.map fun item => (now, item)) }
      else pure state

/-- What the mock does with a data frame. -/
def receiveData (state : MockState) (message : Message) : Mock MockState :=
  match config.socketio with
  | some (interval, timeout) =>
    receiveSocketIo serde config engineIo3 sid interval timeout state message
  | none => do
    MockAsk.countReceived
    let state := { state with received := state.received + 1 }
    if state.outgoing.answers then queueReplies serde config state message else pure state

/-- What the mock does with what it reads. -/
def receiveItem (state : MockState) : Item → MockStep MockState
  | some (.ok (.text text)) => receiveData serde config engineIo3 sid state (.text text)
  | some (.ok (.binary bytes)) => receiveData serde config engineIo3 sid state (.binary bytes)
  | some (.ok (.close _)) => do
    MockAsk.finishClose
    throw ()
  | some (.ok _) => pure state
  | some (.error _) => throw ()
  | none => throw ()

/-- One turn of the loop. -/
def mockRound (state : MockState) : MockStep MockState := do
  let (due, outgoing, rng) := state.outgoing.nextDue config state.rng
  let state := { state with outgoing, rng }
  match ← nextEvent (state.pongBy <|> state.pingAt) due with
  | .ping => sendPing config state
  | .cancelled => shutDown
  | .due => sendDue config epoch state
  | .received item => receiveItem serde config engineIo3 sid state item

/-- Where the loop starts. A Socket.IO session sends its open packet first; a
Socket.IO 2 server also joins the client to the default namespace without
being asked. -/
def startSession (seed : UInt64) (index : ℕ) : Mock MockState := do
  let engine := if engineIo3 then EngineIo.v3 else EngineIo.v4
  let start (outgoing : Outgoing) : MockState :=
    { outgoing, rng := .new seed, sio := { engine } }
  match config.replay with
  | some script => do
    pure (start (.replay (script.framesFor index) (← MockAsk.now) none))
  | none =>
    match config.socketio with
    | none => pure (start (.echo []))
    | some (interval, timeout) => do
      let open' := mockOpen sid (interval / 1000000) (timeout / 1000000) engine
      let opened ← MockAsk.now
      if engineIo3 then do
        let joined ← MockAsk.now
        let by' ← MockAsk.now
        pure { start (.echo [(opened, .control (.text open')), (joined, .control (.text "40"))])
          with pongBy := some (by' + interval + timeout) }
      else do
        let pinged ← MockAsk.now
        pure { start (.echo [(opened, .control (.text open'))])
          with pingAt := some (pinged + interval) }

/-- Serves the `index`-th accepted connection until it ends. -/
def runSession (seed : UInt64) (index : ℕ) : Mock Unit := do
  let sid := "wsblast-mock-" ++ toString index
  let state ← startSession config engineIo3 sid seed index
  Proc.forever (mockRound serde config epoch engineIo3 sid) state

end Session

end WsBlast
