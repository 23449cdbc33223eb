import WsBlast.SocketIo

/-!
# The Socket.IO side of the mock server

What `wsblast mock --socketio` answers to a client's frames, one connection at
a time (`MockSession.receive`): the connect packet for a connect, the ack for
an event that asks for one, the event itself for one that does not, and a pong
for a ping. A binary event is answered once its attachments have arrived.

The mock does not parse payloads. It takes the arguments of an event as a JSON
array without its first element and sends the rest back, and its answer to data
that is no array is an empty one. It keeps no namespaces and no ids: whatever a
packet names is named in the answer.
-/

namespace WsBlast

/-- A binary event whose attachments are still arriving. -/
structure AwaitedEvent where
  /-- The text of its packet. -/
  header : String
  needed : ℕ
  attachments : List Bytes
  deriving DecidableEq

/-- One connection's Socket.IO state. -/
structure MockSession where
  /-- The Engine.IO version the client asked for. -/
  engine : EngineIo
  pending : Option AwaitedEvent := none
  deriving DecidableEq

/-- What the mock answers to a frame. -/
structure MockAnswer where
  /-- A packet and its attachments. -/
  frames : List Message
  /-- Whether they answer an event; otherwise they are protocol frames. -/
  event : Bool
  deriving DecidableEq

/-- A protocol frame. -/
def MockAnswer.control (text : String) : MockAnswer := ⟨[.text text], false⟩

section Answers

variable (serde : Serde)

/-- The arguments of an event's data, without its name. -/
def eventArguments (data : String) : String :=
  match serde.fromStr data with
  | some (.array (_ :: values)) => serde.toText (.array values)
  | _ => "[]"

/-- The ack of an event, or the event itself when it asks for none. -/
def eventReply (packet : Packet) (text : String) (kind : Char) (attachments : ℕ) : String :=
  match packet.id with
  | some id => Packet.encode
      ⟨kind, attachments, packet.namespace, some id, eventArguments serde packet.data⟩
  | none => text

/-- The packet that accepts a connect. A Socket.IO 2 client appends its query
to the namespace it connects to. -/
def connectReply (packet : Packet) (sid : String) : String :=
  Packet.encode
    ⟨'0', 0, String.ofList (packet.namespace.toList.takeWhile (· != '?')), none,
      "\x7b\"sid\":\"" ++ sid ++ "\"\x7d"⟩

namespace MockSession

/-- What the mock answers to a binary frame: the event it completes. -/
def receiveBinary (session : MockSession) (bytes : Bytes) : Option MockAnswer × MockSession :=
  let cleared := { session with pending := none }
  match session.pending, session.engine.unwrapBinary bytes with
  | some event, some bytes =>
    let attachments := event.attachments ++ [bytes]
    if attachments.length < event.needed then
      (none, { session with pending := some { event with attachments } })
    else
      let answer := (Packet.parse event.header).map fun packet =>
        { frames := .text (eventReply serde packet event.header '6' packet.attachments)
            :: attachments.map fun bytes => .binary (session.engine.wrapBinary bytes)
          event := true }
      (answer, cleared)
  | _, _ => (none, cleared)

/-- What the mock answers to a Socket.IO packet. -/
def receivePacket (session : MockSession) (packet : Packet) (text sid : String) :
    Option MockAnswer × MockSession :=
  if packet.kind = '0' then (some (.control (connectReply packet sid)), session)
  else if packet.kind = '5' ∧ 0 < packet.attachments then
    (none, { session with pending := some ⟨text, packet.attachments, []⟩ })
  else if packet.kind = '2' then
    (some ⟨[.text (eventReply serde packet text '3' 0)], true⟩, session)
  else if packet.kind = '5' then
    (some ⟨[.text (eventReply serde packet text '6' 0)], true⟩, session)
  else (none, session)

/-- What the mock answers to a text frame, which ends a binary event still
waiting for its attachments. -/
def receiveText (session : MockSession) (text sid : String) : Option MockAnswer × MockSession :=
  let session := { session with pending := none }
  if text = "2" then (some (.control "3"), session)
  else
    match Packet.parse text with
    | none => (none, session)
    | some packet => receivePacket serde session packet text sid

/-- What the mock answers to a frame the client sent. -/
def receive (session : MockSession) (message : Message) (sid : String) :
    Option MockAnswer × MockSession :=
  match message with
  | .text text => session.receiveText serde text sid
  | .binary bytes => session.receiveBinary serde bytes
  | _ => (none, session)

end MockSession

end Answers

/-- The Engine.IO open packet the mock sends first; version 3 has no
`maxPayload`. -/
def mockOpen (sid : String) (pingIntervalMs pingTimeoutMs : ℕ) (engine : EngineIo) : String :=
  let maxPayload := match engine with
    | .v3 => ""
    | .v4 => ",\"maxPayload\":1000000"
  "0\x7b\"sid\":\"" ++ sid ++ "\",\"upgrades\":[],\"pingInterval\":" ++ toString pingIntervalMs
    ++ ",\"pingTimeout\":" ++ toString pingTimeoutMs ++ maxPayload ++ "\x7d"

end WsBlast
