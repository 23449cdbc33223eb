import WsBlast.Lib.Checker
import WsBlast.SocketIoRuns
import WsBlast.SocketIoWire

/-!
# The client and the mock talk Socket.IO

The pump writes an event for each payload of the loop, the mock answers it, and
what it answers goes back into the pump. A `Conversation` keeps both ends: the
mock's session, the frames on their way back, the payloads sent and the replies
passed on. The loop sends its next payload once it has the reply to the last.

Between two turns of the pump the conversation rests, or one event is being
answered (`Exchange`). So every payload gets one reply, what the mock read of
its event (`holds_pump`).

A checker is the form for this because the environment of the pump has a state
of its own, the mock. Its answers are admissible when they are what the mock
sends, in order; and what is checked of the pump is what it does with them.
-/

namespace WsBlast

open Proc (Checker)
open Proc.Checker (Holds)

/-! ## The conversation -/

/-- A pump and a mock that talk to each other. -/
structure Conversation where
  server : MockSession
  /-- Frames of the mock that the pump has not read. -/
  inbox : List Message := []
  /-- What the loop sent as data, and what was passed back to it. -/
  payloads : List Message := []
  replies : List Message := []
  deriving DecidableEq

/-- Both ends after the namespace is open. -/
def Conversation.opened (sio : SocketIoConfig) : Conversation :=
  { server := { engine := sio.engine } }

section Talk

variable (serde : Serde) (sio : SocketIoConfig) (sid : String)

namespace Conversation

variable (s : Conversation)

/-- A frame reaches the mock. -/
def send (message : Message) : Conversation :=
  let (answer, server) := s.server.receive serde message sid
  { s with server, inbox := s.inbox ++ answer.elim [] MockAnswer.frames }

/-- What an event of the pump changes. -/
def change : PumpEvent → Conversation
  | ⟨.select, .out (some (.text text))⟩ => { s with payloads := s.payloads ++ [.text text] }
  | ⟨.select, .out (some (.binary bytes))⟩ => { s with payloads := s.payloads ++ [.binary bytes] }
  | ⟨.select, .received _⟩ => { s with inbox := s.inbox.tail }
  | ⟨.send message, _⟩ => s.send serde sid message
  | ⟨.feed message, _⟩ => s.send serde sid message
  | ⟨.sendIgnored message, _⟩ => s.send serde sid message
  | ⟨.deliver (.ok reply), _⟩ => { s with replies := s.replies ++ [reply] }
  | _ => s

/-- Every payload has its reply. -/
def Answered : Prop := s.replies.length = s.payloads.length

/-- The answers of a connection that holds, to a loop that sends one payload
after the reply to the other; event ids are 64-bit numbers. -/
def Admits : PumpEvent → Prop
  | ⟨.select, .out (some (.text _))⟩ => s.Answered ∧ s.payloads.length < 2 ^ 64
  | ⟨.select, .out (some (.binary _))⟩ => s.Answered ∧ s.payloads.length < 2 ^ 64
  | ⟨.select, .out (some (.close _))⟩ => s.Answered
  | ⟨.select, .out none⟩ => s.Answered
  | ⟨.select, .received item⟩ => ∃ message ∈ s.inbox.head?, item = some (.ok message)
  | ⟨.send _, result⟩ => result = .ok ()
  | ⟨.feed _, result⟩ => result = .ok ()
  | ⟨.flush, result⟩ => result = .ok ()
  | ⟨.deliver _, taken⟩ => taken = true
  | _ => True

instance decidableAdmits : ∀ event : PumpEvent, Decidable (s.Admits event)
  | ⟨.select, .out (some (.text _))⟩ =>
    inferInstanceAs (Decidable (s.replies.length = s.payloads.length ∧ s.payloads.length < 2 ^ 64))
  | ⟨.select, .out (some (.binary _))⟩ =>
    inferInstanceAs (Decidable (s.replies.length = s.payloads.length ∧ s.payloads.length < 2 ^ 64))
  | ⟨.select, .out (some (.close _))⟩ =>
    inferInstanceAs (Decidable (s.replies.length = s.payloads.length))
  | ⟨.select, .out none⟩ => inferInstanceAs (Decidable (s.replies.length = s.payloads.length))
  | ⟨.select, .received item⟩ =>
    inferInstanceAs (Decidable (∃ message ∈ s.inbox.head?, item = some (.ok message)))
  | ⟨.send _, result⟩ => (inferInstance : DecidableEq (Except WsError Unit)) result (.ok ())
  | ⟨.feed _, result⟩ => (inferInstance : DecidableEq (Except WsError Unit)) result (.ok ())
  | ⟨.flush, result⟩ => (inferInstance : DecidableEq (Except WsError Unit)) result (.ok ())
  | ⟨.deliver _, taken⟩ => (inferInstance : DecidableEq Bool) taken true
  | ⟨.select, .out (some (.ping _))⟩ => isTrue trivial
  | ⟨.select, .out (some (.pong _))⟩ => isTrue trivial
  | ⟨.select, .out (some .frame)⟩ => isTrue trivial
  | ⟨.select, .ping⟩ => isTrue trivial
  | ⟨.sendIgnored _, _⟩ => isTrue trivial

end Conversation

/-- The data of an event. -/
def eventData (text : String) : String := (eventOf serde sio none text).data

/-- The reply to a payload: of a text, what the mock reads of the event. -/
def replyTo : Message → Message
  | .text text => .text (eventArguments serde (eventData serde sio text))
  | other => other

/-- The replies are those to the payloads, up to some of the last. -/
def Conversation.Replied (s : Conversation) (payloads : List Message) : Prop :=
  s.replies = payloads.map (replyTo serde sio)

/-- What the pump may do: it waits for more than the mock's frames only when
every payload has its reply, and it passes on a reply only to the last one. -/
def Conversation.Fine (s : Conversation) : PumpEvent → Prop
  | ⟨.select, _⟩ => s.inbox = [] → s.Replied serde sio s.payloads
  | ⟨.deliver item, _⟩ => ∃ earlier payload, s.payloads = earlier ++ [payload] ∧
    s.Replied serde sio earlier ∧ item = .ok (replyTo serde sio payload)
  | _ => True

/-- The conversation as a checker of the pump's traces. -/
def talk : Checker PumpEff PumpEff.Answer Conversation where
  change := Conversation.change serde sid
  Admits := Conversation.Admits
  Fine := Conversation.Fine serde sio

instance (s : Conversation) (event : PumpEvent) :
    Decidable ((talk serde sio sid).Admits s event) :=
  inferInstanceAs (Decidable (s.Admits event))

/-! ## What the mock answers

Computed for the three frames that the pump writes: a text event, the header of
a binary event, and its attachment. -/

/-- The packet that acknowledges a text event. -/
def ackOf (n : ℕ) (text : String) : Packet :=
  ⟨'3', 0, sio.namespace, some n, eventArguments serde (eventData serde sio text)⟩

/-- The packet that acknowledges a binary event. -/
def binaryAckOf (n : ℕ) : Packet :=
  ⟨'6', 1, sio.namespace, some n, eventArguments serde (binaryEventOf serde sio none).data⟩

/-- The frames that answer the `n`-th event. -/
def answerFrames (n : ℕ) : Message → List Message
  | .text text => [.text (ackOf serde sio n text).encode]
  | .binary bytes =>
    [.text (binaryAckOf serde sio n).encode, .binary (sio.engine.wrapBinary bytes)]
  | _ => []

variable {serde sio sid}

/-- What is wrapped is unwrapped. -/
theorem EngineIo.unwrapBinary_wrapBinary (engine : EngineIo) (bytes : Bytes) :
    engine.unwrapBinary (engine.wrapBinary bytes) = some bytes := by
  cases engine <;> rfl

/-- A packet's text is none of Engine.IO's own. -/
theorem Packet.encode_ne {packet : Packet} {c : Char} (h : c ≠ '4') :
    packet.encode ≠ String.ofList [c] := by
  intro heq
  have hlist := congrArg String.toList heq
  rw [toList_encode, String.toList_ofList] at hlist
  exact h (List.cons.inj hlist).1.symm

section Server

variable {session : MockSession} {text : String} {packet : Packet}

/-- A packet is answered as it was meant. -/
theorem receive_encode (hlegal : packet.Legal) :
    session.receive serde (.text packet.encode) sid
      = MockSession.receivePacket serde { session with pending := none } packet packet.encode
        sid := by
  have hne : packet.encode ≠ "2" := Packet.encode_ne (by decide)
  unfold MockSession.receive MockSession.receiveText
  dsimp only
  rw [if_neg hne, Packet.parse_encode hlegal]

variable (hns : Packet.Named sio.namespace) {n : ℕ} (hn : n < 2 ^ 64)
include hns hn

theorem receive_event (text : String) :
    session.receive serde (.text (eventPacket serde sio n text)) sid
      = (some ⟨answerFrames serde sio n (.text text), true⟩, { session with pending := none }) := by
  have hlegal : (eventOf serde sio (some n) text).Legal :=
    legal_eventOf hns (fun _ h => Option.some.inj h ▸ hn) text
  exact receive_encode hlegal

theorem receive_binaryEvent :
    session.receive serde (.text (binaryEventPacket serde sio n)) sid
      = (none, { session with pending := some ⟨binaryEventPacket serde sio n, 1, []⟩ }) := by
  have hlegal : (binaryEventOf serde sio (some n)).Legal :=
    legal_binaryEventOf hns fun _ h => Option.some.inj h ▸ hn
  exact receive_encode hlegal

theorem receive_attachment (bytes : Bytes) (hengine : session.engine = sio.engine) :
    MockSession.receive serde
        { session with pending := some ⟨binaryEventPacket serde sio n, 1, []⟩ }
        (.binary (sio.engine.wrapBinary bytes)) sid
      = (some ⟨answerFrames serde sio n (.binary bytes), true⟩,
        { session with pending := none }) := by
  have hlegal : (binaryEventOf serde sio (some n)).Legal :=
    legal_binaryEventOf hns fun _ h => Option.some.inj h ▸ hn
  have hread : Packet.parse (binaryEventPacket serde sio n)
      = some (binaryEventOf serde sio (some n)) := Packet.parse_encode hlegal
  unfold MockSession.receive MockSession.receiveBinary
  dsimp only
  rw [hengine, EngineIo.unwrapBinary_wrapBinary]
  dsimp only
  rw [hread]
  rfl

end Server

/-! ## Between two turns

The invariant of the conversation, in four cases, and what follows from it when
the pump waits or is waited for. -/

/-- Nothing but the mock's pongs. -/
def Pongs (frames : List Message) : Prop := ∀ message ∈ frames, message = .text "3"

theorem Pongs.snoc {frames : List Message} (h : Pongs frames) : Pongs (frames ++ [.text "3"]) := by
  intro message hmessage
  rcases List.mem_append.mp hmessage with hold | hnew
  · exact h message hold
  · exact List.mem_singleton.mp hnew

variable (serde sio)

/-- What the two ends keep. -/
structure Ends (state : PumpState) (s : Conversation) : Prop where
  server : s.server = { engine := sio.engine }
  nextId : state.nextId = s.payloads.length
  bound : s.payloads.length ≤ 2 ^ 64
  unsolicited : state.unsolicited = 0

/-- What is on its way. -/
inductive Exchange (state : PumpState) (s : Conversation) : Prop
  /-- Every payload has its reply. -/
  | rests (hpending : state.pending = none) (hinbox : Pongs s.inbox)
      (hreplied : s.Replied serde sio s.payloads)
  /-- The mock has answered the last event. -/
  | answered (earlier : List Message) (payload : Message) (before later : List Message)
      (hpending : state.pending = none) (hawaited : state.awaited = some earlier.length)
      (hdata : payload.isData = true) (hpayloads : s.payloads = earlier ++ [payload])
      (hreplied : s.Replied serde sio earlier) (hbefore : Pongs before) (hlater : Pongs later)
      (hinbox : s.inbox = before ++ answerFrames serde sio earlier.length payload ++ later)
  /-- The ack of a binary event has been read, the attachment has not. -/
  | attached (earlier : List Message) (bytes : Bytes) (later : List Message)
      (hpending : state.pending
        = some ⟨true, some earlier.length, (binaryAckOf serde sio 0).data, 1, []⟩)
      (hawaited : state.awaited = some earlier.length)
      (hpayloads : s.payloads = earlier ++ [.binary bytes])
      (hreplied : s.Replied serde sio earlier) (hlater : Pongs later)
      (hinbox : s.inbox = .binary (sio.engine.wrapBinary bytes) :: later)

/-- The conversation between two turns of the pump. -/
structure Talking (state : PumpState) (s : Conversation) : Prop extends Ends sio state s where
  exchange : Exchange serde sio state s

/-- The reply to the last payload is about to be passed on. -/
structure Arriving (state : PumpState) (payload : Message) (s : Conversation) : Prop
    extends Ends sio state s where
  pending : state.pending = none
  last : ∃ earlier, s.payloads = earlier ++ [payload] ∧ s.Replied serde sio earlier
  inbox : Pongs s.inbox

/-- What a turn leaves behind. -/
def TurnStands : Turn → Conversation → Prop :=
  Sum.elim (Talking serde sio) fun unsolicited s =>
    unsolicited = 0 ∧ s.Replied serde sio s.payloads

variable {serde sio}

theorem length_replies {s : Conversation} {earlier : List Message}
    (h : s.Replied serde sio earlier) : s.replies.length = earlier.length := by
  rw [h, List.length_map]

/-- With every reply there, nothing is on its way. -/
theorem Exchange.rests_of_answered {state : PumpState} {s : Conversation}
    (h : Exchange serde sio state s) (hanswered : s.Answered) :
    state.pending = none ∧ Pongs s.inbox ∧ s.Replied serde sio s.payloads := by
  unfold Conversation.Answered at hanswered
  cases h with
  | rests hpending hinbox hreplied => exact ⟨hpending, hinbox, hreplied⟩
  | answered earlier payload before later hpending hawaited hdata hpayloads hreplied =>
    rw [length_replies hreplied, hpayloads, List.length_append, List.length_singleton] at hanswered
    omega
  | attached earlier bytes later hpending hawaited hpayloads hreplied =>
    rw [length_replies hreplied, hpayloads, List.length_append, List.length_singleton] at hanswered
    omega

/-- With nothing to read, every payload has its reply. -/
theorem Exchange.replied_of_empty {state : PumpState} {s : Conversation}
    (h : Exchange serde sio state s) (hempty : s.inbox = []) : s.Replied serde sio s.payloads := by
  cases h with
  | rests hpending hinbox hreplied => exact hreplied
  | answered earlier payload before later hpending hawaited hdata hpayloads hreplied hbefore hlater
      hinbox =>
    have hnone : answerFrames serde sio earlier.length payload = [] := by
      rw [hempty] at hinbox
      exact (List.append_eq_nil_iff.mp (List.append_eq_nil_iff.mp hinbox.symm).1).2
    cases payload with
    | text text => cases hnone
    | binary bytes => cases hnone
    | _ => cases hdata
  | attached earlier bytes later hpending hawaited hpayloads hreplied hlater hinbox =>
    rw [hempty] at hinbox
    cases hinbox

/-- A pong more changes nothing. -/
theorem Talking.pong {state : PumpState} {s : Conversation} (h : Talking serde sio state s) :
    Talking serde sio state { s with inbox := s.inbox ++ [.text "3"] } where
  server := h.server
  nextId := h.nextId
  bound := h.bound
  unsolicited := h.unsolicited
  exchange := by
    cases h.exchange with
    | rests hpending hinbox hreplied => exact .rests hpending hinbox.snoc hreplied
    | answered earlier payload before later hpending hawaited hdata hpayloads hreplied hbefore
        hlater hinbox =>
      refine .answered earlier payload before (later ++ [.text "3"]) hpending hawaited hdata
        hpayloads hreplied hbefore hlater.snoc ?_
      show s.inbox ++ _ = _
      rw [hinbox, List.append_assoc]
    | attached earlier bytes later hpending hawaited hpayloads hreplied hlater hinbox =>
      refine .attached earlier bytes (later ++ [.text "3"]) hpending hawaited hpayloads hreplied
        hlater.snoc ?_
      show s.inbox ++ _ = _
      rw [hinbox]
      rfl

/-! ## The turns of the pump -/

variable {state : PumpState}

/-- What the wait of a turn leaves behind. -/
def Waited (serde : Serde) (sio : SocketIoConfig) (sid : String) (state : PumpState)
    (woken : PumpWoken) (s : Conversation) : Prop :=
  ∃ s₀, Talking serde sio state s₀ ∧ s₀.Admits ⟨.select, woken⟩
    ∧ s = s₀.change serde sid ⟨.select, woken⟩

theorem holds_select : (talk serde sio sid).Holds (Talking serde sio state) PumpAsk.select
    (Waited serde sio sid state) :=
  Holds.ask fun s _ h hadmits => ⟨h.exchange.replied_of_empty, s, h, hadmits, rfl⟩

/-- A frame the mock does not answer. -/
theorem holds_unanswered {pre : Conversation → Prop} {message : Message}
    (h : ∀ s, pre s → pre (s.send serde sid message)) :
    (talk serde sio sid).Holds pre (PumpAsk.sendIgnored message) fun _ => pre :=
  Holds.ask fun s _ hs _ => ⟨trivial, h s hs⟩

/-- The pump's ping. -/
theorem Talking.sendPing {s : Conversation} (h : Talking serde sio state s) :
    Talking serde sio state (s.send serde sid (.text "2")) := by
  have hsend : s.send serde sid (.text "2") = { s with inbox := s.inbox ++ [.text "3"] } := by
    unfold Conversation.send
    rw [h.server]
    show ({ s with server := { engine := sio.engine }, inbox := s.inbox ++ [.text "3"] } :
      Conversation) = _
    rw [← h.server]
  rw [hsend]
  exact h.pong

theorem holds_ping (pingEvery : Option Duration) :
    (talk serde sio sid).Holds (Waited serde sio sid state .ping)
      (if pingEvery.isSome then do
        match ← PumpAsk.send (.text "2") with
        | .ok () => pure (.inl state)
        | .error err => endPump state (.error err)
      else pure (.inl state)) (TurnStands serde sio) := by
  have hwoken : ∀ s, Waited serde sio sid state .ping s → Talking serde sio state s := by
    rintro _ ⟨s, h, -, rfl⟩
    exact h
  refine Holds.ite (fun _ => ?_) fun _ => Holds.pure hwoken
  have hsend : (talk serde sio sid).Holds (Waited serde sio sid state .ping)
      (PumpAsk.send (.text "2")) fun result s => result = .ok () ∧ Talking serde sio state s :=
    Holds.ask fun s _ hs hadmits =>
      have hping : Talking serde sio state (s.send serde sid (.text "2")) := (hwoken s hs).sendPing
      ⟨trivial, hadmits, hping⟩
  refine Holds.bind hsend fun result => ?_
  cases result with
  | ok => exact Holds.pure fun s hs => hs.2
  | error err => exact Holds.absurd fun s hs => nomatch hs.1

theorem replied_send {s : Conversation} (message : Message)
    (h : s.Replied serde sio s.payloads) :
    (s.send serde sid message).Replied serde sio (s.send serde sid message).payloads := h

/-- The loop ends with the last reply. -/
theorem holds_disconnect (frame : Option CloseFrame) :
    (talk serde sio sid).Holds
      (fun s => state.unsolicited = 0 ∧ s.Replied serde sio s.payloads)
      (disconnect sio state frame) (TurnStands serde sio) := by
  have hsend (message : Message) : (talk serde sio sid).Holds
      (fun s => state.unsolicited = 0 ∧ s.Replied serde sio s.payloads)
      (PumpAsk.sendIgnored message)
      fun _ s => state.unsolicited = 0 ∧ s.Replied serde sio s.payloads :=
    holds_unanswered fun s hs => ⟨hs.1, replied_send message hs.2⟩
  exact Holds.bind (hsend _) fun _ => Holds.bind (hsend _) fun _ => Holds.pure fun s hs => hs

/-- A reply is passed on. -/
theorem holds_deliverReply {payload : Message} {reply : Message}
    (hreply : reply = replyTo serde sio payload) :
    (talk serde sio sid).Holds (Arriving serde sio state payload) (deliverReply state reply)
      (TurnStands serde sio) := by
  have hdeliver : (talk serde sio sid).Holds (Arriving serde sio state payload)
      (PumpAsk.deliver (.ok reply)) fun taken s => taken = true ∧
        Talking serde sio { state with awaited := none } s := by
    refine Holds.ask fun s taken h hadmits => ?_
    obtain ⟨earlier, hpayloads, hreplied⟩ := h.last
    refine ⟨⟨earlier, payload, hpayloads, hreplied, congrArg Except.ok hreply⟩, hadmits,
      ⟨h.server, h.nextId, h.bound, h.unsolicited⟩, .rests h.pending h.inbox ?_⟩
    show s.replies ++ [reply] = s.payloads.map (replyTo serde sio)
    rw [hreplied, hpayloads, hreply, List.map_append]
    rfl
  refine Holds.bind hdeliver fun taken => ?_
  cases taken with
  | false => exact Holds.absurd fun s hs => Bool.false_ne_true hs.1
  | true => exact Holds.pure fun s hs => hs.2

/-! ### An event is sent

The frames of an event reach the mock one after the other, and its answer is in
the inbox when the turn ends. -/

/-- The last payload is sent and its event answered. -/
theorem talking_answered {s : Conversation} {payload : Message} (h : Talking serde sio state s)
    (hanswered : s.Answered) (hroom : s.payloads.length < 2 ^ 64) (hdata : payload.isData = true) :
    Talking serde sio
      { state with awaited := some state.nextId, nextId := state.nextId + 1 }
      { s with
        payloads := s.payloads ++ [payload]
        inbox := s.inbox ++ answerFrames serde sio state.nextId payload } := by
  obtain ⟨hpending, hinbox, hreplied⟩ := h.exchange.rests_of_answered hanswered
  refine ⟨⟨h.server, ?_, ?_, h.unsolicited⟩,
    .answered s.payloads payload s.inbox [] hpending (congrArg some h.nextId) hdata rfl hreplied
      hinbox (fun _ hnone => absurd hnone List.not_mem_nil) ?_⟩
  · show state.nextId + 1 = (s.payloads ++ [payload]).length
    rw [h.nextId, List.length_append]
    rfl
  · show (s.payloads ++ [payload]).length ≤ 2 ^ 64
    rw [List.length_append]
    exact hroom
  · show s.inbox ++ _ = s.inbox ++ _ ++ []
    rw [h.nextId, List.append_nil]

/-- The conversation after the frames of an event are written. -/
def Conversation.sendEvent (serde : Serde) (sid : String) (s : Conversation) (packet : String) :
    Option Bytes → Conversation
  | none => s.send serde sid (.text packet)
  | some bytes => (s.send serde sid (.text packet)).send serde sid (.binary bytes)

/-- The frames of an event are written. -/
theorem holds_writeEvent {pre : Conversation → Prop} {packet : String}
    {attachment : Option Bytes} :
    (talk serde sio sid).Holds pre (writeEvent packet attachment) fun result s =>
      result = .ok () ∧ ∃ s₀, pre s₀ ∧ s = s₀.sendEvent serde sid packet attachment := by
  have hfeed (message : Message) (pre : Conversation → Prop) : (talk serde sio sid).Holds pre
      (PumpAsk.feed message) fun result s => result = .ok () ∧
        ∃ s₀, pre s₀ ∧ s = s₀.send serde sid message :=
    Holds.ask fun s _ hs hadmits => ⟨trivial, hadmits, s, hs, rfl⟩
  have hflush (pre : Conversation → Prop) : (talk serde sio sid).Holds pre PumpAsk.flush
      fun result s => result = .ok () ∧ pre s :=
    Holds.ask fun s _ hs hadmits => ⟨trivial, hadmits, hs⟩
  have hrest (sent : Except WsError Unit) : (talk serde sio sid).Holds
      (fun s => sent = .ok () ∧ ∃ s₀, pre s₀ ∧ s = s₀.sendEvent serde sid packet attachment)
      (PumpAsk.flush >>= fun flushed => match sent with
        | .ok () => pure flushed
        | .error err => pure (.error err))
      fun result s => result = .ok () ∧
        ∃ s₀, pre s₀ ∧ s = s₀.sendEvent serde sid packet attachment := by
    refine Holds.bind (hflush _) fun flushed => ?_
    cases sent with
    | error err => exact Holds.absurd fun s hs => nomatch hs.2.1
    | ok => exact Holds.pure fun s hs => ⟨hs.1, hs.2.2⟩
  refine Holds.bind (hfeed (.text packet) pre) fun fed => ?_
  cases fed with
  | error err => exact Holds.absurd fun s hs => nomatch hs.1
  | ok =>
    cases attachment with
    | none => exact Holds.bind (Holds.pure fun s hs => hs) hrest
    | some bytes =>
      refine Holds.bind (hfeed (.binary bytes) _) fun sent => (hrest sent).weaken ?_ fun _ _ h => h
      rintro _ ⟨hresult, _, ⟨-, s, hs, rfl⟩, rfl⟩
      exact ⟨hresult, s, hs, rfl⟩

theorem holds_pumpEvent {pre : Conversation → Prop} {packet : String} {attachment : Option Bytes}
    (hsent : ∀ s, pre s → Talking serde sio
      { state with awaited := some state.nextId, nextId := state.nextId + 1 }
      (s.sendEvent serde sid packet attachment)) :
    (talk serde sio sid).Holds pre (pumpEvent state packet attachment) (TurnStands serde sio) := by
  refine Holds.bind holds_writeEvent fun written => ?_
  cases written with
  | error err => exact Holds.absurd fun s hs => nomatch hs.1
  | ok =>
    refine Holds.pure ?_
    rintro _ ⟨-, s, hs, rfl⟩
    exact hsent s hs

/-- Any other frame of the loop goes to the mock, which ignores it. -/
theorem holds_forwarded {message : Message}
    (hout : ∀ s : Conversation, s.change serde sid ⟨.select, .out (some message)⟩ = s)
    (hsend : ∀ s : Conversation, s.send serde sid message = { s with inbox := s.inbox ++ [] }) :
    (talk serde sio sid).Holds (Waited serde sio sid state (.out (some message)))
      (do
        PumpAsk.sendIgnored message
        pure (.inl state)) (TurnStands serde sio) := by
  have hignored : (talk serde sio sid).Holds (Talking serde sio state)
      (PumpAsk.sendIgnored message) fun _ => Talking serde sio state := by
    refine holds_unanswered fun s h => ?_
    rw [hsend, List.append_nil]
    exact h
  refine Holds.bind (hignored.weaken ?_ fun _ _ h => h) fun _ => Holds.pure fun _ h => h
  rintro _ ⟨s, h, -, rfl⟩
  rw [hout]
  exact h

/-- What the pump does with what the loop sent. -/
theorem holds_pumpOut (hns : Packet.Named sio.namespace) (message : Option Message) :
    (talk serde sio sid).Holds (Waited serde sio sid state (.out message))
      (pumpOut serde sio state message) (TurnStands serde sio) := by
  have hends : ∀ s, Talking serde sio state s → s.Answered →
      state.unsolicited = 0 ∧ s.Replied serde sio s.payloads := fun s h hanswered =>
    ⟨h.unsolicited, (h.exchange.rests_of_answered hanswered).2.2⟩
  -- a text is one frame and a binary payload two; other frames the mock ignores
  cases message with
  | none =>
    refine (holds_disconnect none).weaken ?_ fun _ _ h => h
    rintro s ⟨_, h, hanswered, rfl⟩
    exact hends s h hanswered
  | some message =>
    cases message with
    | text text =>
      refine holds_pumpEvent ?_
      rintro _ ⟨s, h, ⟨hanswered, hroom⟩, rfl⟩
      have hsend : Conversation.sendEvent serde sid
          { s with payloads := s.payloads ++ [.text text] }
          (eventPacket serde sio state.nextId text) none
          = { s with
              payloads := s.payloads ++ [.text text]
              inbox := s.inbox ++ answerFrames serde sio state.nextId (.text text) } := by
        unfold Conversation.sendEvent Conversation.send
        dsimp only
        rw [receive_event hns (h.nextId ▸ hroom)]
        show ({ s with server := _, payloads := _, inbox := _ } : Conversation) = _
        rw [h.server]
        rfl
      show Talking serde sio _ (Conversation.sendEvent serde sid
        { s with payloads := s.payloads ++ [.text text] } _ none)
      rw [hsend]
      exact talking_answered h hanswered hroom rfl
    | binary bytes =>
      refine holds_pumpEvent ?_
      rintro _ ⟨s, h, ⟨hanswered, hroom⟩, rfl⟩
      have hengine : s.server.engine = sio.engine := by rw [h.server]
      have hsend : Conversation.sendEvent serde sid
          { s with payloads := s.payloads ++ [.binary bytes] }
          (binaryEventPacket serde sio state.nextId) (some (sio.engine.wrapBinary bytes))
          = { s with
              payloads := s.payloads ++ [.binary bytes]
              inbox := s.inbox ++ answerFrames serde sio state.nextId (.binary bytes) } := by
        unfold Conversation.sendEvent Conversation.send
        dsimp only
        rw [receive_binaryEvent hns (h.nextId ▸ hroom)]
        dsimp only
        rw [receive_attachment hns (h.nextId ▸ hroom) bytes hengine]
        show ({ s with server := _, payloads := _, inbox := s.inbox ++ [] ++ _ } : Conversation) = _
        rw [h.server, List.append_nil]
        rfl
      show Talking serde sio _ (Conversation.sendEvent serde sid
        { s with payloads := s.payloads ++ [.binary bytes] } _ _)
      rw [hsend]
      exact talking_answered h hanswered hroom rfl
    | close frame =>
      refine (holds_disconnect frame).weaken ?_ fun _ _ h => h
      rintro s ⟨_, h, hanswered, rfl⟩
      exact hends s h hanswered
    | ping bytes => exact holds_forwarded (fun _ => rfl) fun _ => rfl
    | pong bytes => exact holds_forwarded (fun _ => rfl) fun _ => rfl
    | frame => exact holds_forwarded (fun _ => rfl) fun _ => rfl

/-! ### A frame is read

The frame is the first of the inbox, and the case of the exchange says what it
is. -/

/-- An event whose argument is the placeholder, and what the mock makes of it. -/
structure Serde.PlaceholderTexts (serde : Serde) (event : String) (value : Json) : Prop where
  event : serde.fromStr ("[" ++ serde.toText (.string event) ++ "," ++ placeholder ++ "]")
    = some (.array [.string event, value])
  arguments : serde.fromStr (serde.toText (.array [value])) = some (.array [value])
  only : serde.fromStr ("[" ++ placeholder ++ "]") = some (.array [value])

theorem pumpText_pong (h : state.pending = none) :
    pumpText sio state "3" = pure (.inl state) := by
  unfold pumpText
  dsimp only
  rw [h]
  rfl

theorem pumpText_encode {packet : Packet} (hlegal : packet.Legal) (h : state.pending = none) :
    pumpText sio state packet.encode = pumpPacket sio state packet := by
  have hne {c : Char} (hc : c ≠ '4') : packet.encode ≠ String.ofList [c] := Packet.encode_ne hc
  unfold pumpText
  rw [h, if_neg (show packet.encode ≠ "2" from hne (by decide)),
    if_neg (show packet.encode ≠ "1" from hne (by decide)),
    if_neg (not_or.mpr ⟨show packet.encode ≠ "3" from hne (by decide),
      show packet.encode ≠ "6" from hne (by decide)⟩), Packet.parse_encode hlegal]
  rfl

theorem awaits_self {n : ℕ} (h : state.awaited = some n) : state.awaits (some n) = true := by
  unfold PumpState.awaits
  rw [h]
  exact beq_self_eq_true _

/-- The ack of a text event is its reply. -/
theorem pumpPacket_ackOf {n : ℕ} (hawaited : state.awaited = some n) (text : String) :
    pumpPacket sio state (ackOf serde sio n text)
      = deliverReply state (replyTo serde sio (.text text)) := by
  unfold pumpPacket
  rw [if_neg (show ¬0 < (ackOf serde sio n text).attachments from Nat.lt_irrefl 0)]
  exact (if_pos rfl).trans (if_pos ⟨.inl rfl, awaits_self hawaited⟩)

/-- The ack of a binary event waits for its attachment. -/
theorem pumpPacket_binaryAckOf (n : ℕ) :
    pumpPacket sio state (binaryAckOf serde sio n) = pure (.inl { state with
      pending := some ⟨true, some n, (binaryAckOf serde sio 0).data, 1, []⟩ }) := by
  unfold pumpPacket
  rw [if_pos (show 0 < (binaryAckOf serde sio n).attachments from Nat.one_pos)]
  have hack : decide ((binaryAckOf serde sio n).kind = '6'
      ∧ (binaryAckOf serde sio n).namespace = sio.namespace) = true := decide_eq_true ⟨rfl, rfl⟩
  rw [hack]
  rfl

/-- The attachment is the reply. -/
theorem binaryReply_arguments {value : Json} (hserde : serde.PlaceholderTexts sio.event value)
    (bytes : Bytes) :
    binaryReply serde (binaryAckOf serde sio 0).data [bytes] = .binary bytes := by
  have hdata : (binaryAckOf serde sio 0).data = serde.toText (.array [value]) := by
    show eventArguments serde ("[" ++ serde.toText (.string sio.event) ++ "," ++ placeholder ++ "]")
      = _
    unfold eventArguments
    rw [hserde.event]
  unfold binaryReply
  dsimp only
  rw [hdata, hserde.arguments, hserde.only]
  exact if_pos (Json.beq_self _)

theorem pumpBinary_attachment {n : ℕ} {data : String}
    (hpending : state.pending = some ⟨true, some n, data, 1, []⟩)
    (hawaited : state.awaited = some n) (bytes : Bytes) :
    pumpBinary serde sio state (sio.engine.wrapBinary bytes)
      = deliverReply { state with pending := none } (binaryReply serde data [bytes]) := by
  unfold pumpBinary
  rw [hpending, EngineIo.unwrapBinary_wrapBinary]
  exact (if_neg (Nat.lt_irrefl 1)).trans (if_pos ⟨rfl, awaits_self hawaited⟩)

section Legal

variable (hns : Packet.Named sio.namespace) (hserde : serde.JsonTexts) {n : ℕ} (hn : n < 2 ^ 64)
include hns hserde hn

theorem legal_ackOf (text : String) : (ackOf serde sio n text).Legal :=
  Packet.legal_of_array (by decide) rfl hns (fun _ h => Option.some.inj h ▸ hn)
    (head_eventArguments hserde _)

theorem legal_binaryAckOf : (binaryAckOf serde sio n).Legal :=
  Packet.legal_of_array (by decide) (by decide : 1 ≤ maxAttachments) hns
    (fun _ h => Option.some.inj h ▸ hn) (head_eventArguments hserde _)

end Legal

/-- A frame of the mock reaches the pump. -/
theorem holds_pumpReceived (hns : Packet.Named sio.namespace) (hserde : serde.JsonTexts)
    {value : Json} (hplaceholder : serde.PlaceholderTexts sio.event value) (item : Item) :
    (talk serde sio sid).Holds (Waited serde sio sid state (.received item))
      (pumpReceived serde sio state item) (TurnStands serde sio) := by
  refine Holds.of_forall ?_
  rintro _ ⟨s, h, ⟨message, hmessage, rfl⟩, rfl⟩
  obtain ⟨rest, hrest⟩ := List.head?_eq_some_iff.mp hmessage
  have hread : s.change serde sid ⟨.select, .received (some (.ok message))⟩
      = { s with inbox := rest } := by
    show ({ s with inbox := s.inbox.tail } : Conversation) = _
    rw [hrest]
    rfl
  rw [hread]
  have hpong (hpending : state.pending = none) (hmessage : message = .text "3")
      (hkept : Exchange serde sio state { s with inbox := rest }) :
      (talk serde sio sid).Holds (fun s' => s' = { s with inbox := rest })
        (pumpReceived serde sio state (some (.ok message))) (TurnStands serde sio) := by
    rw [hmessage]
    show (talk serde sio sid).Holds _ (pumpText sio state "3") _
    rw [pumpText_pong hpending]
    refine Holds.pure ?_
    rintro _ rfl
    exact ⟨⟨h.server, h.nextId, h.bound, h.unsolicited⟩, hkept⟩
  -- by what the exchange has on its way
  cases h.exchange with
  | rests hpending hinbox hreplied =>
    rw [hrest] at hinbox
    exact hpong hpending (hinbox message List.mem_cons_self)
      (.rests hpending (fun m hm => hinbox m (List.mem_cons_of_mem _ hm)) hreplied)
  | answered earlier payload before later hpending hawaited hdata hpayloads hreplied hbefore hlater
      hinbox =>
    rw [hrest] at hinbox
    have hn : earlier.length < 2 ^ 64 := by
      have hbound := h.bound
      rw [hpayloads, List.length_append] at hbound
      exact hbound
    cases before with
    | cons pong before =>
      obtain ⟨rfl, rfl⟩ := List.cons.inj hinbox
      exact hpong hpending (hbefore message List.mem_cons_self)
        (.answered earlier payload before later hpending hawaited hdata hpayloads hreplied
          (fun m hm => hbefore m (List.mem_cons_of_mem _ hm)) hlater rfl)
    | nil =>
      cases payload with
      | text text =>
        obtain ⟨rfl, rfl⟩ := List.cons.inj hinbox
        show (talk serde sio sid).Holds _
          (pumpText sio state (ackOf serde sio earlier.length text).encode) _
        rw [pumpText_encode (legal_ackOf hns hserde hn text) hpending, pumpPacket_ackOf hawaited]
        refine (holds_deliverReply rfl).weaken ?_ fun _ _ h => h
        rintro _ rfl
        exact ⟨⟨h.server, h.nextId, h.bound, h.unsolicited⟩, hpending,
          ⟨earlier, hpayloads, hreplied⟩, hlater⟩
      | binary bytes =>
        obtain ⟨rfl, rfl⟩ := List.cons.inj hinbox
        show (talk serde sio sid).Holds _
          (pumpText sio state (binaryAckOf serde sio earlier.length).encode) _
        rw [pumpText_encode (legal_binaryAckOf hns hserde hn) hpending, pumpPacket_binaryAckOf]
        refine Holds.pure ?_
        rintro _ rfl
        exact ⟨⟨h.server, h.nextId, h.bound, h.unsolicited⟩,
          .attached earlier bytes later rfl hawaited hpayloads hreplied hlater rfl⟩
      | _ => cases hdata
  | attached earlier bytes later hpending hawaited hpayloads hreplied hlater hinbox =>
    obtain ⟨rfl, rfl⟩ := List.cons.inj (hrest.symm.trans hinbox)
    show (talk serde sio sid).Holds _ (pumpBinary serde sio state _) _
    rw [pumpBinary_attachment hpending hawaited]
    have hreply : binaryReply serde (binaryAckOf serde sio 0).data [bytes]
        = replyTo serde sio (.binary bytes) := binaryReply_arguments hplaceholder bytes
    refine (holds_deliverReply hreply).weaken ?_ fun _ _ h => h
    rintro _ rfl
    exact ⟨⟨h.server, h.nextId, h.bound, h.unsolicited⟩, rfl, ⟨earlier, hpayloads, hreplied⟩,
      hlater⟩

/-- **One turn of the pump.** -/
theorem holds_pumpRound (hns : Packet.Named sio.namespace) (hserde : serde.JsonTexts)
    {value : Json} (hplaceholder : serde.PlaceholderTexts sio.event value)
    (pingEvery : Option Duration) (state : PumpState) :
    (talk serde sio sid).Holds (Talking serde sio state) (pumpRound serde sio pingEvery state)
      (TurnStands serde sio) := by
  refine Holds.bind holds_select fun woken => ?_
  cases woken with
  | ping => exact holds_ping pingEvery
  | out message => exact holds_pumpOut hns message
  | received item => exact holds_pumpReceived hns hserde hplaceholder item

/-- **The pump and the mock keep talking.** -/
theorem holds_pump (hns : Packet.Named sio.namespace) (hserde : serde.JsonTexts)
    {value : Json} (hplaceholder : serde.PlaceholderTexts sio.event value)
    (pingEvery : Option Duration) :
    (talk serde sio sid).Holds (Talking serde sio {}) (pump serde sio pingEvery)
      fun unsolicited s => unsolicited = 0 ∧ s.Replied serde sio s.payloads :=
  Holds.loop (Talking serde sio) fun state =>
    holds_pumpRound hns hserde hplaceholder pingEvery state

end Talk

end WsBlast
