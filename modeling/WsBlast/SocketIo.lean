import WsBlast.Modes

/-!
# Socket.IO sessions

A Socket.IO session opens like a Socket.IO client: it reads the Engine.IO
open packet, connects to the namespace and waits for the server's connect
packet. It then runs the echo loop, or the phase's actions, through a channel
of two bounded queues. The other ends belong to a pump: every data frame the
loop sends becomes an event with an acknowledgement id, and the server's
acknowledgement of that id is the reply.

The loop sees only the channel. What the socket does is seen by the pump, a
program of its own (`pump`) over the questions of `PumpEff`.

Two layers of packets share a text frame. The outer one is Engine.IO: a digit
for open, close, ping, pong and message. The inner one is Socket.IO, in a
message: its kind, a namespace, an acknowledgement id and JSON. Version 3
differs from version 4 in who pings, in the byte in front of a binary frame,
and in where the authentication goes.
-/

namespace WsBlast

/-! ## Packets

Parsing and encoding are translated character by character. -/

namespace EngineIo

/-- A binary frame as Engine.IO sends it: as is in version 4, after the
message type byte in version 3. -/
def wrapBinary (engine : EngineIo) (bytes : Bytes) : Bytes :=
  match engine with
  | .v3 => 4 :: bytes
  | .v4 => bytes

/-- The bytes of a binary frame Engine.IO sent; in version 3 a frame that does
not start with the message type is not a message. -/
def unwrapBinary (engine : EngineIo) (bytes : Bytes) : Option Bytes :=
  match engine, bytes with
  | .v3, 4 :: rest => some rest
  | .v3, _ => none
  | .v4, bytes => some bytes

end EngineIo

/-- The argument that stands for a binary event's single attachment. -/
def placeholder : String := "\x7b\"_placeholder\":true,\"num\":0\x7d"

/-- The most attachments a binary packet may announce. -/
def maxAttachments : ℕ := 1024

/-- A Socket.IO packet. The namespace is `/` when the packet names none. -/
structure Packet where
  /-- `0` connect, `1` disconnect, `2` event, `3` ack, `4` connect error, `5`
  binary event, `6` binary ack. -/
  kind : Char
  /-- How many binary frames follow a binary packet. -/
  attachments : ℕ
  «namespace» : String
  /-- The acknowledgement id, where there is one. -/
  id : Option ℕ
  /-- The JSON behind the head, unparsed. -/
  data : String
  deriving DecidableEq, Repr

namespace Packet

/-- Whether a packet of this kind announces attachments. -/
def isBinary (kind : Char) : Bool := kind == '5' || kind == '6'

/-- The attachment count of a binary packet and what follows its `-`. -/
def parseAttachments (rest : List Char) : Option (ℕ × List Char) :=
  let digits := rest.takeWhile Char.isDigit
  match rest.dropWhile Char.isDigit with
  | '-' :: after =>
    match parseU64 (String.ofList digits) with
    | some count => if count ≤ maxAttachments then some (count, after) else none
    | none => none
  | _ => none

/-- The namespace of a packet, `/` when it names none, and what follows it. -/
def parseNamespace (rest : List Char) : String × List Char :=
  match rest with
  | '/' :: _ => (String.ofList (rest.takeWhile (· != ',')), (rest.dropWhile (· != ',')).drop 1)
  | _ => ("/", rest)

/-- The packet from its kind, its attachment count and the text after them. -/
def parseRest (kind : Char) (attachments : ℕ) (rest : List Char) : Packet :=
  let (ns, rest) := parseNamespace rest
  let digits := rest.takeWhile Char.isDigit
  { kind, attachments, «namespace» := ns
    id := if digits = [] then none else parseU64 (String.ofList digits)
    data := String.ofList (rest.dropWhile Char.isDigit) }

/-- Parses an Engine.IO message packet's text; `none` for any other Engine.IO
packet or a malformed one. -/
def parse (text : String) : Option Packet :=
  match text.toList with
  | '4' :: kind :: rest =>
    if '0' ≤ kind ∧ kind ≤ '6' then
      if isBinary kind then
        (parseAttachments rest).map fun (attachments, rest) => parseRest kind attachments rest
      else some (parseRest kind 0 rest)
    else none
  | _ => none

/-- The Engine.IO message packet text. -/
def encode (packet : Packet) : String :=
  "4" ++ packet.kind.toString
    ++ (if isBinary packet.kind then toString packet.attachments ++ "-" else "")
    ++ (if packet.namespace ≠ "/" then packet.namespace ++ "," else "")
    ++ (packet.id.map toString).getD ""
    ++ packet.data

end Packet

section SocketIo

variable (serde : Serde) (sio : SocketIoConfig)

/-- The event packet for one data frame: the payload is the event's argument,
as JSON when it is valid JSON and as a string otherwise. -/
def eventPacket (id : ℕ) (payload : String) : String :=
  let event := serde.toText (.string sio.event)
  let argument := if serde.isJson payload then payload else serde.toText (.string payload)
  Packet.encode ⟨'2', 0, sio.namespace, some id, "[" ++ event ++ "," ++ argument ++ "]"⟩

/-- The packet of a binary event whose one argument is the attachment sent
after it. -/
def binaryEventPacket (id : ℕ) : String :=
  let event := serde.toText (.string sio.event)
  Packet.encode ⟨'5', 1, sio.namespace, some id, "[" ++ event ++ "," ++ placeholder ++ "]"⟩

/-- The reply a binary ack gives: the attachment's bytes when its only
argument is the one attachment, and otherwise its arguments as text. -/
def binaryReply (data : String) (attachments : List Bytes) : Message :=
  match attachments with
  | [bytes] =>
    if serde.fromStr data == serde.fromStr ("[" ++ placeholder ++ "]") then .binary bytes
    else .text data
  | _ => .text data

/-! ## Opening a session

The handshake is a loop of its own with a timeout over all of it. -/

/-- The wait for a session to open ends with the interval an Engine.IO 3
session must ping the server at, or with the category of a failure, or with
nothing when the run is cancelled. -/
abbrev Opened := Option (Except ErrorCategory (Option Duration))

/-- What an opening session has seen. -/
structure OpenState where
  /-- The open packet was read. -/
  opened : Bool
  /-- The interval that an Engine.IO 3 client pings at. -/
  pingEvery : Option Duration

/-- A piece of the opening. -/
abbrev Opening (R : Type) : Type 1 := Proc.Step Eff Eff.Answer Opened R

/-- The opening fails. -/
def failOpening {R : Type} (category : ErrorCategory) : Opening R :=
  throw (some (.error category))

/-- A send while the session opens. -/
def sendOpening (message : Message) : Opening Unit := do
  match ← Ask.sendOpening message with
  | .cancelled => throw none
  | .timedOut => failOpening .timeout
  | .done (.error _) => failOpening .writeError
  | .done (.ok ()) => pure ()

/-- The packet that connects to the namespace. -/
def connectPacket (auth : Option String) : String :=
  let auth := match sio.engine with
    | .v3 => ""
    | .v4 => auth.getD ""
  Packet.encode ⟨'0', 0, sio.namespace, none, auth⟩

/-- The `pingInterval` of an Engine.IO open packet. -/
def pingInterval (packet : Json) : Option ℕ :=
  ((packet.member "pingInterval").bind Json.asU64).filter (0 < ·)

/-- The open packet: `0` and a JSON object. -/
def readOpen (auth : Option String) (text : String) : Opening OpenState :=
  match text.toList with
  | '0' :: rest =>
    match serde.fromStr (String.ofList rest) with
    | none => failOpening .protocolError
    | some packet =>
      match sio.engine with
      | .v4 => do
        sendOpening (.text (connectPacket sio auth))
        pure ⟨true, none⟩
      | .v3 =>
        -- an Engine.IO 3 client pings; without an interval it cannot keep the session
        match pingInterval packet with
        | none => failOpening .protocolError
        | some millis =>
          -- the server joins the default namespace on its own
          if sio.namespace = "/" then pure ⟨true, some (Duration.ofMillis millis)⟩
          else do
            sendOpening (.text (connectPacket sio auth))
            pure ⟨true, some (Duration.ofMillis millis)⟩
  | _ => failOpening .protocolError

/-- A text frame after the open packet. -/
def readConnect (state : OpenState) (text : String) : Opening OpenState :=
  if text = "2" then do
    sendOpening (.text "3")
    pure state
  else if text = "1" then failOpening .unexpectedClose
  else
    match Packet.parse text with
    | none => pure state
    | some packet =>
      if packet.namespace = sio.namespace then
        match packet.kind with
        | '0' => throw (some (.ok state.pingEvery))
        | '4' => failOpening .protocolError
        | '1' => failOpening .protocolError
        | _ => pure state
      else pure state

/-- What an opening session does with what it reads. -/
def readOpening (auth : Option String) (state : OpenState) : Item → Opening OpenState
  | some (.ok (.text text)) =>
    if state.opened then readConnect sio state text else readOpen serde sio auth text
  | some (.ok (.ping bytes)) => do
    Ask.sendIgnored (.pong bytes)
    pure state
  | some (.ok (.close _)) => failOpening .unexpectedClose
  | none => failOpening .unexpectedClose
  -- before the open packet, a binary frame is not Engine.IO
  | some (.ok (.binary _)) => if state.opened then pure state else failOpening .protocolError
  | some (.ok _) => pure state
  | some (.error _) => failOpening .readError

/-- One turn of the opening. -/
def openRound (timeout : Duration) (auth : Option String) (state : OpenState) :
    Opening OpenState := do
  match ← Ask.select (.opening timeout) with
  | .cancelled => throw none
  | .timedOut => failOpening .timeout
  | .read item => readOpening serde sio auth state item
  | _ => pure state

/-- Opens the Socket.IO session. -/
def openSocketIo (timeout : Duration) (auth : Option String) : Session Opened :=
  Proc.forever (openRound serde sio timeout auth) ⟨false, none⟩

/-! ## The pump

One turn waits for three things at once: the next ping, a frame from the loop, a
frame from the socket. -/

/-- The branch of the pump's wait that was ready. -/
inductive PumpWoken where
  /-- The tick of an Engine.IO 3 client's ping. -/
  | ping
  /-- What the loop sent; nothing once its end of the channel is dropped. -/
  | out (message : Option Message)
  | received (item : Item)

/-- What the pump asks its environment. -/
inductive PumpEff where
  | select
  /-- A send whose result is looked at. -/
  | send (message : Message)
  | feed (message : Message)
  | flush
  /-- A send whose result is ignored. -/
  | sendIgnored (message : Message)
  /-- Passes something to the loop; false once the loop has ended. -/
  | deliver (item : Except WsError Message)

/-- What each question of the pump is answered with. -/
def PumpEff.Answer : PumpEff → Type
  | .select => PumpWoken
  | .send _ => Except WsError Unit
  | .feed _ => Except WsError Unit
  | .flush => Except WsError Unit
  | .sendIgnored _ => Unit
  | .deliver _ => Bool

/-- A program of the pump. -/
abbrev Pump (R : Type) : Type 1 := Proc PumpEff PumpEff.Answer R

namespace PumpAsk

/-- Waits for a frame of the worker or of the server, or for the tick of a
ping. -/
def select : Pump PumpWoken := Proc.ask PumpEff.select
/-- Sends a frame to the server. -/
def send (message : Message) : Pump (Except WsError Unit) := Proc.ask (PumpEff.send message)
/-- Puts a frame into the sink. -/
def feed (message : Message) : Pump (Except WsError Unit) := Proc.ask (PumpEff.feed message)
/-- Flushes the sink. -/
def flush : Pump (Except WsError Unit) := Proc.ask PumpEff.flush
/-- Sends a frame, whatever becomes of it. -/
def sendIgnored (message : Message) : Pump Unit := Proc.ask (PumpEff.sendIgnored message)
/-- Hands something to the worker; whether it took it. -/
def deliver (item : Except WsError Message) : Pump Bool := Proc.ask (PumpEff.deliver item)

end PumpAsk

/-- A binary packet from the server whose attachments are still arriving. -/
structure Pending where
  /-- Whether it is an ack on this session's namespace. -/
  ack : Bool
  /-- The id that the packet acknowledges, where it does. -/
  id : Option ℕ
  /-- Its text, in which placeholders stand for the attachments. -/
  data : String
  /-- How many attachments it announced. -/
  needed : ℕ
  /-- Those that have arrived, in order. -/
  attachments : List Bytes

/-- What the pump keeps. -/
structure PumpState where
  /-- The id of the next event. -/
  nextId : ℕ := 0
  /-- The id of the latest event, until its reply was handed over. -/
  awaited : Option ℕ := none
  /-- A binary packet whose attachments are still arriving. -/
  pending : Option Pending := none
  /-- Data frames that answered no event. -/
  unsolicited : ℕ := 0

namespace PumpState

/-- Counts a data frame that answers no event. -/
def countUnsolicited (state : PumpState) : PumpState :=
  { state with unsolicited := state.unsolicited + 1 }

/-- Whether an ack of this id answers the latest event. -/
def awaits (state : PumpState) (id : Option ℕ) : Bool := id.isSome && id == state.awaited

end PumpState

/-- One turn of the pump: it goes on, or ends with the unsolicited frames it
counted. -/
abbrev Turn := PumpState ⊕ ℕ

/-- Passes on what ended the connection and ends. -/
def endPump (state : PumpState) (item : Except WsError Message) : Pump Turn := do
  let _ ← PumpAsk.deliver item
  pure (.inr state.unsolicited)

/-- Passes a reply to the loop, or ends when the loop has. -/
def deliverReply (state : PumpState) (reply : Message) : Pump Turn := do
  if ← PumpAsk.deliver (.ok reply) then pure (.inl { state with awaited := none })
  else pure (.inr state.unsolicited)

/-- Closes for the loop: leaves the namespace, then closes. -/
def disconnect (state : PumpState) (frame : Option CloseFrame) : Pump Turn := do
  PumpAsk.sendIgnored (.text (Packet.encode ⟨'1', 0, sio.namespace, none, ""⟩))
  PumpAsk.sendIgnored (.close frame)
  pure (.inr state.unsolicited)

/-- Writes an event, with its attachment if it has one. -/
def writeEvent (packet : String) (attachment : Option Bytes) : Pump (Except WsError Unit) := do
  let fed ← PumpAsk.feed (.text packet)
  let sent ← match fed, attachment with
    | .ok (), some bytes => PumpAsk.feed (.binary bytes)
    | fed, _ => pure fed
  let flushed ← PumpAsk.flush
  match sent with
  | .ok () => pure flushed
  | .error err => pure (.error err)

/-- Sends an event and awaits its ack from then on. -/
def pumpEvent (state : PumpState) (packet : String) (attachment : Option Bytes) : Pump Turn := do
  let state := { state with awaited := some state.nextId, nextId := state.nextId + 1 }
  match ← writeEvent packet attachment with
  | .ok () => pure (.inl state)
  | .error err => endPump state (.error err)

/-- What the pump does with what the loop sent. -/
def pumpOut (state : PumpState) : Option Message → Pump Turn
  | none => disconnect sio state none
  | some (.close frame) => disconnect sio state frame
  | some (.text text) => pumpEvent state (eventPacket serde sio state.nextId text) none
  | some (.binary bytes) =>
    pumpEvent state (binaryEventPacket serde sio state.nextId) (some (sio.engine.wrapBinary bytes))
  | some other => do
    PumpAsk.sendIgnored other
    pure (.inl state)

/-- What the pump does with a binary frame: the next attachment of the packet
that waits for it. -/
def pumpBinary (state : PumpState) (bytes : Bytes) : Pump Turn :=
  let cleared := { state with pending := none }
  match state.pending, sio.engine.unwrapBinary bytes with
  | some packet, some bytes =>
    let attachments := packet.attachments ++ [bytes]
    if attachments.length < packet.needed then
      pure (.inl { state with pending := some { packet with attachments } })
    else if packet.ack ∧ state.awaits packet.id then
      deliverReply cleared (binaryReply serde packet.data attachments)
    else pure (.inl cleared.countUnsolicited)
  | _, _ => pure (.inl cleared.countUnsolicited)

/-- What the pump does with a Socket.IO packet. -/
def pumpPacket (state : PumpState) (packet : Packet) : Pump Turn :=
  if 0 < packet.attachments then
    pure (.inl { state with
      pending := some
        { ack := packet.kind = '6' ∧ packet.namespace = sio.namespace
          id := packet.id
          data := packet.data
          needed := packet.attachments
          attachments := [] } })
  else if packet.namespace = sio.namespace then
    if (packet.kind = '3' ∨ packet.kind = '6') ∧ state.awaits packet.id then
      deliverReply state (.text packet.data)
    -- the server left the namespace
    else if packet.kind = '1' ∨ packet.kind = '4' then endPump state (.ok (.close none))
    else pure (.inl state.countUnsolicited)
  else pure (.inl state.countUnsolicited)

/-- What the pump does with a text frame. It ends a binary packet still
waiting for its attachments, which is counted as it came. -/
def pumpText (state : PumpState) (text : String) : Pump Turn :=
  let state := if state.pending.isSome then { state with pending := none }.countUnsolicited
    else state
  if text = "2" then do
    PumpAsk.sendIgnored (.text "3")
    pure (.inl state)
  -- the server closed the Engine.IO session
  else if text = "1" then endPump state (.ok (.close none))
  else if text = "3" ∨ text = "6" then pure (.inl state)
  else
    match Packet.parse text with
    | none => pure (.inl state.countUnsolicited)
    | some packet => pumpPacket sio state packet

/-- What the pump does with what it reads from the socket. -/
def pumpReceived (state : PumpState) : Item → Pump Turn
  | none => pure (.inr state.unsolicited)
  | some (.error err) => endPump state (.error err)
  | some (.ok (.text text)) => pumpText sio state text
  | some (.ok (.ping bytes)) => do
    PumpAsk.sendIgnored (.pong bytes)
    pure (.inl state)
  | some (.ok (.close frame)) => endPump state (.ok (.close frame))
  | some (.ok (.binary bytes)) => pumpBinary serde sio state bytes
  | some (.ok _) => pure (.inl state)

/-- One turn of the pump. -/
def pumpRound (pingEvery : Option Duration) (state : PumpState) : Pump Turn := do
  match ← PumpAsk.select with
  | .ping =>
    if pingEvery.isSome then do
      match ← PumpAsk.send (.text "2") with
      | .ok () => pure (.inl state)
      | .error err => endPump state (.error err)
    else pure (.inl state)
  | .out message => pumpOut serde sio state message
  | .received item => pumpReceived serde sio state item

/-- Moves frames between the channel and the socket until either side ends;
returns the unsolicited frames. -/
def pump (pingEvery : Option Duration) : Pump ℕ :=
  Proc.loop (pumpRound serde sio pingEvery) {}

end SocketIo

/-! ## The session

A Socket.IO session is an opening and then a loop, on a channel. -/

section Session

variable (serde : Serde) (config : LoadTestConfig) (workerId : ℕ) (scenario : Option ScenarioPhase)

/-- The loop a Socket.IO session runs on its channel, and any other session
with a script on its socket. -/
def runScriptOr (loop : Session SessionEnd) : Session SessionEnd :=
  match scenario with
  | none => loop
  | some phase => if phase.actions = [] then loop else runActionLoop serde config workerId phase

/-- A Socket.IO session: opens the namespace, then runs the echo loop, or the
phase's actions, through the pump. A failed open is one error before any
message. -/
def runSocketIo : Session SessionEnd :=
  match config.socketio with
  | none => pure .lost
  | some sio => do
    let nowMs ← Ask.wallClock
    let auth := sio.auth.map (·.render (templateValues config workerId [] 0 nowMs))
    match ← openSocketIo serde sio config.messageTimeout auth with
    | none => do
      Ask.sendIgnored (.close none)
      pure .finished
    | some (.error category) => do
      recordError category .attempt
      Ask.sendIgnored (.close none)
      sessionEnd
    | some (.ok pingEvery) => do
      Ask.openChannel pingEvery
      let ended ← runScriptOr serde config workerId scenario
        (runEchoLoop serde config workerId scenario)
      let unsolicited ← Ask.pumpUnsolicited
      Ask.record (.unsolicitedFrames unsolicited)
      pure ended

variable (codec : GraphQLCodec)

/-- The session loop of a mode. -/
def modeLoop : Session SessionEnd :=
  match config.mode with
  | .socketIo => runSocketIo serde config workerId scenario
  | .echo => runScriptOr serde config workerId scenario (runEchoLoop serde config workerId scenario)
  | .stream => runScriptOr serde config workerId scenario (runStreamLoop config workerId scenario)
  | .listen => runScriptOr serde config workerId scenario (runListenLoop config)
  | .graphQLWS =>
    runScriptOr serde config workerId scenario (runGraphQLWsLoop config workerId codec)

end Session

/-- Whether a worker runs the graphql-ws loop: its mode is graphql-ws and it
has no script. -/
def runsGraphQL (config : LoadTestConfig) (scenario : Option ScenarioPhase) : Bool :=
  config.mode = .graphQLWS ∧ scenario.all (·.actions = [])

end WsBlast
