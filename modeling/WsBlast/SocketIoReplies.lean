import WsBlast.SocketIoPackets
import WsBlast.SocketIoRuns

/-!
# The replies of a Socket.IO session

The pump passes one kind of frame on as a reply: the ack of the latest event.
What that means is said of the trace of a run, without the pump's state
(`IsReply`): the frame completes an ack of this namespace under the id of the
last event written, all the attachments the ack announced came after it with no
text frame between them, and nothing was passed on since that event.

`Follows` ties the pump's state to the trace. Each turn keeps it, and where the
pump passes a reply on it gives `IsReply`.

A client that measures round trips depends on replies being replies. If the pump
took the ack of an earlier event for that of the latest, the time would be
wrong; if it took an event of the server for an ack, a request would be settled
that was not answered.
-/

namespace WsBlast

open Proc.Monitor (Triple filterMap_snoc)

/-! ## What a trace shows

Everything is a fold over the events: the ids of the events written, the packet
that was last read with its attachments, the replies since the latest event. -/

/-- The packet text of an event that is written. -/
def writtenEvent : PumpEvent → Option String
  | ⟨.feed (.text text), _⟩ => some text
  | _ => none

/-- The data frame that is read. -/
def dataFrame : PumpEvent → Option Message
  | ⟨.select, .received (some (.ok (.text text)))⟩ => some (.text text)
  | ⟨.select, .received (some (.ok (.binary bytes)))⟩ => some (.binary bytes)
  | _ => none

/-- The frame that is passed on as a reply; what closes the connection is
passed on as a Close. -/
def passedReply : PumpEvent → Option Message
  | ⟨.deliver (.ok (.close _)), _⟩ => none
  | ⟨.deliver (.ok message), _⟩ => some message
  | _ => none

/-- The ids of the events written, in order. -/
def eventIds (past : List PumpEvent) : List (Option ℕ) :=
  past.filterMap fun event => (writtenEvent event).map Packet.idOf

/-- The replies passed on since an event, with one more event of the trace. -/
def countReply (replies : ℕ) (event : PumpEvent) : ℕ :=
  match writtenEvent event, passedReply event with
  | some _, _ => 0
  | none, some _ => replies + 1
  | none, none => replies

/-- How many replies were passed on since the last event was written. -/
def repliesToLatest (past : List PumpEvent) : ℕ := past.foldl countReply 0

/-- What was read, with one more data frame: a text frame starts over. -/
def gather (read : Option (Packet × List Bytes)) : Message → Option (Packet × List Bytes)
  | .text text => (Packet.parse text).map fun packet => (packet, [])
  | .binary bytes => read.map fun (packet, frames) => (packet, frames ++ [bytes])
  | _ => read

/-- The packet of the last text frame that was read, with the binary frames
read since. -/
def gathered (past : List PumpEvent) : Option (Packet × List Bytes) :=
  (past.filterMap dataFrame).foldl gather none

section Replies

variable (serde : Serde) (sio : SocketIoConfig)

/-- A data frame has just been read. -/
def JustRead (past : List PumpEvent) : Prop :=
  ∃ before item, past = before ++ [⟨.select, .received item⟩]
    ∧ (dataFrame ⟨.select, .received item⟩).isSome

/-- What makes a frame the reply to the latest event, after `past`: the last
text frame was `ack`, and the binary frames read since carry its
attachments. -/
structure IsReply (past : List PumpEvent) (ack : Packet) (frames attachments : List Bytes)
    (reply : Message) : Prop where
  read : gathered past = some (ack, frames)
  kind : ack.kind = '3' ∨ ack.kind = '6'
  ns : ack.namespace = sio.namespace
  /-- Its id is that of the last event written, and of no event before it. -/
  latest : ∃ id earlier, ack.id = some id ∧ eventIds past = earlier ++ [some id]
    ∧ some id ∉ earlier
  /-- Each frame is a message of the Engine.IO version. -/
  unwrapped : frames.mapM sio.engine.unwrapBinary = some attachments
  /-- All the attachments it announced are there. -/
  complete : attachments.length = ack.attachments
  /-- Its data is passed on, or its single attachment. -/
  data : reply = .text ack.data ∨ ∃ bytes, attachments = [bytes] ∧ reply = .binary bytes
  /-- The attachment where it is the ack's only argument. -/
  chosen : reply = binaryReply serde ack.data attachments
  /-- Nothing answered that event before. -/
  first : repliesToLatest past = 0
  /-- It is passed on when its last frame is read. -/
  now : JustRead past

/-- A frame is passed on as a reply only if it is one. -/
def RepliesOnly (past : List PumpEvent) (event : PumpEvent) : Prop :=
  ∀ reply ∈ passedReply event, ∃ ack frames attachments,
    IsReply serde sio past ack frames attachments reply

/-! ## One event more

How each of them changes with one more event of the trace. -/

theorem eventIds_snoc (past : List PumpEvent) (event : PumpEvent) :
    eventIds (past ++ [event])
      = eventIds past ++ ((writtenEvent event).map Packet.idOf).toList := by
  unfold eventIds
  rw [filterMap_snoc]

theorem repliesToLatest_snoc (past : List PumpEvent) (event : PumpEvent) :
    repliesToLatest (past ++ [event]) = countReply (repliesToLatest past) event :=
  List.foldl_append

theorem gathered_snoc (past : List PumpEvent) (event : PumpEvent) :
    gathered (past ++ [event])
      = (dataFrame event).elim (gathered past) (gather (gathered past)) := by
  unfold gathered
  rw [filterMap_snoc, List.foldl_append]
  cases dataFrame event with
  | none => rfl
  | some message => rfl

/-- The packet that was gathered was read from a text. -/
theorem exists_parse_of_gathered {past : List PumpEvent} {ack : Packet} {frames : List Bytes}
    (h : gathered past = some (ack, frames)) : ∃ text, Packet.parse text = some ack := by
  induction past using List.reverseRecOn generalizing frames with
  | nil => exact absurd h (Option.some_ne_none (ack, frames)).symm
  | append_singleton past event ih =>
    rw [gathered_snoc] at h
    cases hframe : dataFrame event with
    | none =>
      rw [hframe] at h
      exact ih h
    | some message =>
      rw [hframe] at h
      cases message with
      | text text =>
        obtain ⟨packet, hparse, heq⟩ := Option.map_eq_some_iff.mp h
        obtain rfl := congrArg Prod.fst heq
        exact ⟨text, hparse⟩
      | binary bytes =>
        obtain ⟨⟨packet, read⟩, hread, heq⟩ := Option.map_eq_some_iff.mp h
        obtain rfl := congrArg Prod.fst heq
        exact ih hread
      | ping bytes => exact ih h
      | pong bytes => exact ih h
      | close reason => exact ih h
      | frame => exact ih h

/-- An event of the trace that writes no event, reads no data frame and passes
no reply on. -/
structure Quiet (event : PumpEvent) : Prop where
  written : writtenEvent event = none
  frame : dataFrame event = none
  reply : passedReply event = none

variable {serde sio}

theorem Quiet.repliesOnly {event : PumpEvent} (h : Quiet event) (past : List PumpEvent) :
    RepliesOnly serde sio past event := by
  intro reply hreply
  rw [h.reply] at hreply
  exact absurd hreply (Option.not_mem_none reply)

/-! ## The pump's state and the trace -/

/-- A packet that an event is sent as. -/
structure IsEvent (sio : SocketIoConfig) (packet : Packet) : Prop where
  kind : packet.kind = '2' ∧ packet.attachments = 0 ∨ packet.kind = '5' ∧ packet.attachments = 1
  ns : packet.namespace = sio.namespace
  data : packet.data.toList.head? = some '['

theorem IsEvent.wellFormed {packet : Packet} (h : IsEvent sio packet)
    (hns : Packet.Named sio.namespace) (hid : ∀ id ∈ packet.id, id < 2 ^ 64) :
    packet.WellFormed where
  kind := by
    rcases h.kind with ⟨hkind, -⟩ | ⟨hkind, -⟩
    · rw [hkind]; decide
    · rw [hkind]; decide
  attachments := by
    rcases h.kind with ⟨hkind, hcount⟩ | ⟨hkind, hcount⟩
    · rw [hkind, hcount]; decide
    · rw [hkind, hcount]; decide
  ns := h.ns ▸ hns
  id := hid
  data := by
    intro c hc
    rw [h.data] at hc
    obtain rfl := Option.some.inj hc
    decide

/-- The packet a pump holds back is the last that was read, with the
attachments read since, some of them still missing. -/
structure IsPending (sio : SocketIoConfig) (past : List PumpEvent) (packet : Pending)
    (ack : Packet) (frames : List Bytes) : Prop where
  read : gathered past = some (ack, frames)
  unwrapped : frames.mapM sio.engine.unwrapBinary = some packet.attachments
  acks : packet.ack = true → ack.kind = '6' ∧ ack.namespace = sio.namespace
  id : packet.id = ack.id
  data : packet.data = ack.data
  needed : packet.needed = ack.attachments
  missing : packet.attachments.length < packet.needed

/-- The pump's state says what the trace shows. -/
structure Follows (sio : SocketIoConfig) (state : PumpState) (past : List PumpEvent) : Prop where
  /-- The events carry the ids from 0 up to the next one. -/
  events : ∃ packets : List Packet,
    eventIds past = packets.map (fun packet => Packet.idOf packet.encode)
      ∧ packets.map (·.id) = (List.range state.nextId).map some
      ∧ ∀ packet ∈ packets, IsEvent sio packet
  /-- The awaited event is the last one, and no reply to it was passed on. -/
  awaited : ∀ id ∈ state.awaited, id + 1 = state.nextId ∧ repliesToLatest past = 0
  pending : ∀ packet ∈ state.pending, ∃ ack frames, IsPending sio past packet ack frames

namespace Follows

variable {state : PumpState} {past : List PumpEvent}

theorem init : Follows sio {} [] where
  events := ⟨[], rfl, rfl, nofun⟩
  awaited := nofun
  pending := nofun

/-- What the trace shows is the same after a quiet event. -/
theorem quiet (h : Follows sio state past) {event : PumpEvent} (hquiet : Quiet event) :
    Follows sio state (past ++ [event]) where
  events := by
    rw [eventIds_snoc, hquiet.written]
    simpa using h.events
  awaited := by
    intro id hid
    rw [repliesToLatest_snoc, countReply, hquiet.written, hquiet.reply]
    exact h.awaited id hid
  pending := by
    intro packet hpacket
    obtain ⟨ack, frames, hpending⟩ := h.pending packet hpacket
    refine ⟨ack, frames, { hpending with read := ?_ }⟩
    rw [gathered_snoc, hquiet.frame]
    exact hpending.read

/-- An event that is written is the latest from then on. -/
theorem wrote (h : Follows sio state past) {packet : Packet} (hpacket : IsEvent sio packet)
    (hid : packet.id = some state.nextId) (result : Except WsError Unit) :
    Follows sio { state with awaited := some state.nextId, nextId := state.nextId + 1 }
      (past ++ [⟨.feed (.text packet.encode), result⟩]) where
  events := by
    obtain ⟨packets, hids, hrange, hevents⟩ := h.events
    refine ⟨packets ++ [packet], ?_, ?_, ?_⟩
    · rw [eventIds_snoc, hids, List.map_append]
      rfl
    · rw [List.map_append, hrange, List.range_succ, List.map_append]
      simp [hid]
    · intro other hother
      rcases List.mem_append.mp hother with hold | hnew
      · exact hevents other hold
      · exact List.mem_singleton.mp hnew ▸ hpacket
  awaited := by
    intro id hawaited
    obtain rfl := Option.some.inj hawaited
    rw [repliesToLatest_snoc]
    exact ⟨rfl, rfl⟩
  pending := by
    intro other hother
    obtain ⟨ack, frames, hpending⟩ := h.pending other hother
    refine ⟨ack, frames, { hpending with read := ?_ }⟩
    rw [gathered_snoc]
    exact hpending.read

/-- After a reply nothing is awaited. -/
theorem replied (h : Follows sio state past) (reply : Message) (passed : Bool) :
    Follows sio { state with awaited := none } (past ++ [⟨.deliver (.ok reply), passed⟩]) where
  events := by
    rw [eventIds_snoc]
    simpa [writtenEvent] using h.events
  awaited := nofun
  pending := by
    intro packet hpacket
    obtain ⟨ack, frames, hpending⟩ := h.pending packet hpacket
    refine ⟨ack, frames, { hpending with read := ?_ }⟩
    rw [gathered_snoc]
    exact hpending.read

/-- A read moves on nothing but what is held back. -/
theorem received (h : Follows sio state past) (item : Item) {state' : PumpState}
    (hnext : state'.nextId = state.nextId) (hawaited : state'.awaited = state.awaited)
    (hpending : ∀ packet ∈ state'.pending, ∃ ack frames,
      IsPending sio (past ++ [⟨.select, .received item⟩]) packet ack frames) :
    Follows sio state' (past ++ [⟨.select, .received item⟩]) where
  events := by
    rw [eventIds_snoc, hnext]
    simpa [writtenEvent] using h.events
  awaited := by
    rw [repliesToLatest_snoc, hnext, hawaited]
    exact h.awaited
  pending := hpending

/-- Of the state, the count of frames that answer nothing does not show. -/
theorem cleared (h : Follows sio state past) :
    Follows sio ({ state with pending := none } : PumpState).countUnsolicited past :=
  ⟨h.events, h.awaited, nofun⟩

/-- **The id that is awaited is the latest event's alone**, where it is one
that a packet of this namespace can carry. -/
theorem latest (h : Follows sio state past) {ack : Packet} {text : String}
    (hparse : Packet.parse text = some ack) (hns : ack.namespace = sio.namespace)
    (hawaits : state.awaits ack.id = true) :
    ∃ id earlier, ack.id = some id ∧ eventIds past = earlier ++ [some id]
      ∧ some id ∉ earlier := by
  obtain ⟨hsome, heq⟩ := Bool.and_eq_true_iff.mp hawaits
  obtain ⟨id, hid⟩ := Option.isSome_iff_exists.mp hsome
  have hmem : id ∈ state.awaited := (eq_of_beq heq).symm.trans hid
  have hlast : id + 1 = state.nextId := (h.awaited id hmem).1
  have hfits : id < 2 ^ 64 := Packet.id_lt_of_parse hparse hid
  have hnamed : Packet.Named sio.namespace := hns ▸ Packet.named_of_parse hparse
  obtain ⟨packets, hids, hrange, hevents⟩ := h.events
  have hread : packets.map (fun packet => Packet.idOf packet.encode) = packets.map (·.id) := by
    refine List.map_congr_left fun packet hpacket => ?_
    refine Packet.idOf_encode ((hevents packet hpacket).wellFormed hnamed fun n hn => ?_)
    have hmem : some n ∈ (List.range state.nextId).map some :=
      hrange ▸ List.mem_map.mpr ⟨packet, hpacket, hn⟩
    have hlt : n < state.nextId := by simpa using hmem
    omega
  refine ⟨id, (List.range id).map some, hid, ?_, by simp⟩
  rw [hids, hread, hrange, ← hlast, List.range_succ, List.map_append]
  rfl

end Follows

/-! ## The turns of the pump -/

variable (serde sio)

/-- A program of the pump, read as a history that passes replies on only. -/
abbrev Replies {R : Type} (pre : List PumpEvent → Prop) (p : Pump R)
    (post : R → List PumpEvent → Prop) : Prop :=
  Triple (Proc.Monitor.history (RepliesOnly serde sio)) pre p post

/-- What one turn leaves behind. -/
def TurnFollows : Turn → List PumpEvent → Prop :=
  Sum.elim (fun state => Follows sio state) fun _ _ => True

variable {serde sio}

theorem replies_inl {pre : List PumpEvent → Prop} {state : PumpState}
    (h : ∀ past, pre past → Follows sio state past) :
    Replies serde sio pre (pure (.inl state)) (TurnFollows sio) :=
  Triple.pure h

theorem replies_inr {pre : List PumpEvent → Prop} (unsolicited : ℕ) :
    Replies serde sio pre (pure (.inr unsolicited)) (TurnFollows sio) :=
  Triple.pure fun _ _ => trivial

/-- A question that the trace shows nothing of. -/
theorem replies_quiet {e : PumpEff} (h : ∀ answer, Quiet ⟨e, answer⟩) (state : PumpState) :
    Replies serde sio (Follows sio state) (Proc.ask e) fun _ => Follows sio state :=
  Triple.ask_history fun past answer hfollows =>
    ⟨(h answer).repliesOnly past, hfollows.quiet (h answer)⟩

theorem replies_sendIgnored (message : Message) (state : PumpState) :
    Replies serde sio (Follows sio state) (PumpAsk.sendIgnored message)
      fun _ => Follows sio state :=
  replies_quiet (fun _ => ⟨rfl, rfl, rfl⟩) state

/-- An answer of the protocol, and the pump goes on. -/
theorem replies_answered (message : Message) (state : PumpState) :
    Replies serde sio (Follows sio state)
      (PumpAsk.sendIgnored message >>= fun _ => pure (.inl state)) (TurnFollows sio) :=
  Triple.bind (replies_sendIgnored message state) fun _ => replies_inl fun _ h => h

/-- What ended the connection is no reply. -/
theorem replies_endPump {item : Except WsError Message}
    (hquiet : ∀ passed, Quiet ⟨.deliver item, passed⟩) (state : PumpState) {past : PumpState} :
    Replies serde sio (Follows sio past) (endPump state item) (TurnFollows sio) :=
  Triple.bind (replies_quiet hquiet past) fun _ => replies_inr _

theorem quiet_deliver_error (err : WsError) (passed : Bool) :
    Quiet ⟨.deliver (.error err), passed⟩ := ⟨rfl, rfl, rfl⟩

theorem quiet_deliver_close (reason : Option CloseFrame) (passed : Bool) :
    Quiet ⟨.deliver (.ok (.close reason)), passed⟩ := ⟨rfl, rfl, rfl⟩

/-- **A reply is passed on where it is one**, and from then on nothing is
awaited. -/
theorem replies_deliverReply (state : PumpState) (reply : Message) :
    Replies serde sio (fun past => Follows sio state past
        ∧ ∃ ack frames attachments, IsReply serde sio past ack frames attachments reply)
      (deliverReply state reply) (TurnFollows sio) := by
  have hdeliver : Replies serde sio (fun past => Follows sio state past
        ∧ ∃ ack frames attachments, IsReply serde sio past ack frames attachments reply)
      (PumpAsk.deliver (.ok reply)) fun _ => Follows sio { state with awaited := none } := by
    refine Triple.ask_history fun past passed hpre => ⟨?_, hpre.1.replied reply passed⟩
    intro other hother
    have heq : other = reply := by
      cases reply with
      | close reason => exact absurd hother (Option.not_mem_none other)
      | text text => exact (Option.some.inj hother).symm
      | binary bytes => exact (Option.some.inj hother).symm
      | ping bytes => exact (Option.some.inj hother).symm
      | pong bytes => exact (Option.some.inj hother).symm
      | frame => exact (Option.some.inj hother).symm
    rw [heq]
    exact hpre.2
  refine Triple.bind hdeliver fun delivered => ?_
  exact Triple.ite (fun _ => replies_inl fun _ h => h) fun _ => replies_inr _

theorem replies_disconnect (state : PumpState) (reason : Option CloseFrame) :
    Replies serde sio (Follows sio state) (disconnect sio state reason) (TurnFollows sio) :=
  Triple.bind (replies_sendIgnored _ state) fun _ =>
    Triple.bind (replies_sendIgnored _ state) fun _ => replies_inr _

/-- **An event is written under the next id.** -/
theorem replies_pumpEvent (state : PumpState) {packet : Packet} (hpacket : IsEvent sio packet)
    (hid : packet.id = some state.nextId) (attachment : Option Bytes) :
    Replies serde sio (Follows sio state) (pumpEvent state packet.encode attachment)
      (TurnFollows sio) := by
  let written : PumpState :=
    { state with awaited := some state.nextId, nextId := state.nextId + 1 }
  have hfeed : Replies serde sio (Follows sio state) (PumpAsk.feed (.text packet.encode))
      fun _ => Follows sio written :=
    Triple.ask_history fun past result hfollows =>
      ⟨fun reply hreply => absurd hreply (Option.not_mem_none reply),
        hfollows.wrote hpacket hid result⟩
  have hwrite : Replies serde sio (Follows sio state) (writeEvent packet.encode attachment)
      fun _ => Follows sio written :=
    triple_writeEvent hfeed (fun _ _ => replies_quiet (fun _ => ⟨rfl, rfl, rfl⟩) written)
      fun _ => replies_quiet (fun _ => ⟨rfl, rfl, rfl⟩) written
  refine Triple.bind hwrite fun result => ?_
  cases result with
  | ok _ => exact replies_inl fun _ h => h
  | error err => exact replies_endPump (quiet_deliver_error err) _

theorem replies_pumpOut (state : PumpState) (message : Option Message) :
    Replies serde sio (Follows sio state) (pumpOut serde sio state message) (TurnFollows sio) := by
  cases message with
  | none => exact replies_disconnect state none
  | some message =>
    cases message with
    | close reason => exact replies_disconnect state reason
    | text text =>
      exact replies_pumpEvent state
        ⟨.inl ⟨rfl, rfl⟩, rfl, by simp [String.toList_append]⟩ rfl none
    | binary bytes =>
      exact replies_pumpEvent state
        ⟨.inr ⟨rfl, rfl⟩, rfl, by simp [String.toList_append]⟩ rfl (some _)
    | ping bytes => exact replies_answered _ state
    | pong bytes => exact replies_answered _ state
    | frame => exact replies_answered _ state

/-! ## What is read

Where replies come from: an ack of one text frame, or the last attachment of a
binary ack. -/

/-- A reply is the data of its ack, or its single attachment. -/
theorem binaryReply_unchanged (serde : Serde) (data : String) (attachments : List Bytes) :
    binaryReply serde data attachments = .text data
      ∨ ∃ bytes, attachments = [bytes] ∧ binaryReply serde data attachments = .binary bytes := by
  unfold binaryReply
  split
  · split
    · exact .inr ⟨_, rfl, rfl⟩
    · exact .inl rfl
  · exact .inl rfl

/-- **An ack that is complete and awaited is a reply.** -/
theorem Follows.isReply {state : PumpState} {past : List PumpEvent}
    (h : Follows sio state past) {ack : Packet} {frames attachments : List Bytes}
    (hread : gathered past = some (ack, frames)) (hkind : ack.kind = '3' ∨ ack.kind = '6')
    (hns : ack.namespace = sio.namespace) (hawaits : state.awaits ack.id = true)
    (hunwrapped : frames.mapM sio.engine.unwrapBinary = some attachments)
    (hcomplete : attachments.length = ack.attachments) (hnow : JustRead past) :
    IsReply serde sio past ack frames attachments (binaryReply serde ack.data attachments) where
  read := hread
  kind := hkind
  ns := hns
  latest := by
    obtain ⟨text, hparse⟩ := exists_parse_of_gathered hread
    exact h.latest hparse hns hawaits
  unwrapped := hunwrapped
  complete := hcomplete
  data := binaryReply_unchanged serde ack.data attachments
  chosen := rfl
  first := by
    obtain ⟨hsome, heq⟩ := Bool.and_eq_true_iff.mp hawaits
    obtain ⟨id, hid⟩ := Option.isSome_iff_exists.mp hsome
    have hmem : id ∈ state.awaited := (eq_of_beq heq).symm.trans hid
    exact (h.awaited id hmem).2
  now := hnow

variable (sio) in
/-- The pump has just read an item. -/
def Heard (state : PumpState) (item : Item) (past : List PumpEvent) : Prop :=
  ∃ before, past = before ++ [⟨.select, .received item⟩] ∧ Follows sio state before

/-- What shows nothing of a data frame leaves the state as it was. -/
theorem Heard.quiet {state : PumpState} {item : Item} {past : List PumpEvent}
    (h : Heard sio state item past) (hframe : dataFrame ⟨.select, .received item⟩ = none) :
    Follows sio state past := by
  obtain ⟨before, rfl, hfollows⟩ := h
  exact hfollows.quiet ⟨rfl, hframe, rfl⟩

/-- A Socket.IO packet, read while no packet is held back. -/
theorem replies_pumpPacket {state : PumpState} (packet : Packet) :
    Replies serde sio (fun past => Follows sio state past
        ∧ gathered past = some (packet, []) ∧ JustRead past)
      (pumpPacket sio state packet) (TurnFollows sio) := by
  refine Triple.ite (fun hbinary => ?_) fun hplain => ?_
  · refine replies_inl fun past hpast => ⟨hpast.1.events, hpast.1.awaited, ?_⟩
    intro held hheld
    obtain rfl := Option.some.inj hheld
    exact ⟨packet, [], {
      read := hpast.2.1
      unwrapped := rfl
      acks := fun hack => of_decide_eq_true hack
      id := rfl
      data := rfl
      needed := rfl
      missing := hbinary }⟩
  · have hcounted : Replies serde sio (fun past => Follows sio state past
        ∧ gathered past = some (packet, []) ∧ JustRead past)
        (pure (.inl state.countUnsolicited)) (TurnFollows sio) :=
      replies_inl fun past hpast => ⟨hpast.1.events, hpast.1.awaited, hpast.1.pending⟩
    refine Triple.ite (fun hns => ?_) fun _ => hcounted
    refine Triple.ite (fun hack => ?_) fun _ => ?_
    · intro past hpast
      refine replies_deliverReply state _ past ⟨hpast.1, packet, [], [], ?_⟩
      exact hpast.1.isReply hpast.2.1 hack.1 hns hack.2 rfl
        (Nat.eq_zero_of_not_pos hplain).symm hpast.2.2
    · refine Triple.ite (fun _ => ?_) fun _ => hcounted
      exact Triple.weaken (replies_endPump (quiet_deliver_close none) state)
        (fun past hpast => hpast.1) fun _ _ h => h

theorem replies_pumpText (state : PumpState) (text : String) :
    Replies serde sio (Heard sio state (some (.ok (.text text)))) (pumpText sio state text)
      (TurnFollows sio) := by
  let after : PumpState :=
    if state.pending.isSome then ({ state with pending := none } : PumpState).countUnsolicited
    else state
  have hafter : after.nextId = state.nextId ∧ after.awaited = state.awaited
      ∧ after.pending = none := by
    by_cases hpending : state.pending.isSome = true
    · simp [after, hpending, PumpState.countUnsolicited]
    · simp [after, Option.not_isSome_iff_eq_none.mp hpending]
  intro past hheard
  obtain ⟨before, rfl, hfollows⟩ := hheard
  have hread : Follows sio after (before ++ [⟨.select, .received (some (.ok (.text text)))⟩])
      ∧ gathered (before ++ [⟨.select, .received (some (.ok (.text text)))⟩])
        = (Packet.parse text).map fun packet => (packet, []) := by
    refine ⟨hfollows.received _ hafter.1 hafter.2.1 ?_, by rw [gathered_snoc]; rfl⟩
    rw [hafter.2.2]
    exact nofun
  have hjust : JustRead (before ++ [⟨.select, .received (some (.ok (.text text)))⟩]) :=
    ⟨before, _, rfl, rfl⟩
  have hturn : Replies serde sio (fun past => Follows sio after past
      ∧ gathered past = ((Packet.parse text).map fun packet => (packet, [])) ∧ JustRead past)
      (pumpText sio state text) (TurnFollows sio) := by
    refine Triple.ite (fun _ => ?_) fun _ => ?_
    · exact Triple.weaken (replies_answered _ after) (fun past h => h.1) fun _ _ h => h
    refine Triple.ite (fun _ => ?_) fun _ => ?_
    · exact Triple.weaken (replies_endPump (quiet_deliver_close none) after)
        (fun past h => h.1) fun _ _ h => h
    refine Triple.ite (fun _ => replies_inl fun past h => h.1) fun _ => ?_
    cases Packet.parse text with
    | none => exact replies_inl fun past h => ⟨h.1.events, h.1.awaited, h.1.pending⟩
    | some packet => exact replies_pumpPacket packet
  exact hturn _ ⟨hread.1, hread.2, hjust⟩

theorem replies_pumpBinary (state : PumpState) (bytes : Bytes) :
    Replies serde sio (Heard sio state (some (.ok (.binary bytes))))
      (pumpBinary serde sio state bytes) (TurnFollows sio) := by
  intro past hheard
  obtain ⟨before, rfl, hfollows⟩ := hheard
  have hcleared : Follows sio { state with pending := none }
      (before ++ [⟨.select, .received (some (.ok (.binary bytes)))⟩]) :=
    hfollows.received _ rfl rfl nofun
  have hcounted : Proc.Monitor.wp (Proc.Monitor.history (RepliesOnly serde sio))
      (pure (.inl ({ state with pending := none } : PumpState).countUnsolicited))
      (TurnFollows sio) (before ++ [⟨.select, .received (some (.ok (.binary bytes)))⟩]) :=
    hcleared.cleared
  unfold pumpBinary
  dsimp only
  split
  · rename_i held attachment hheld hunwrap
    obtain ⟨ack, frames, hpending⟩ := hfollows.pending held hheld
    have hread : gathered (before ++ [⟨.select, .received (some (.ok (.binary bytes)))⟩])
        = some (ack, frames ++ [bytes]) := by
      rw [gathered_snoc, hpending.read]
      rfl
    have hframes : (frames ++ [bytes]).mapM sio.engine.unwrapBinary
        = some (held.attachments ++ [attachment]) := by
      rw [List.mapM_append, hpending.unwrapped]
      simp [hunwrap]
    have hlength : (held.attachments ++ [attachment]).length = held.attachments.length + 1 :=
      List.length_append
    split
    · rename_i hmissing
      refine hfollows.received _ rfl rfl fun other hother => ?_
      obtain rfl := Option.some.inj hother
      exact ⟨ack, frames ++ [bytes],
        { hpending with read := hread, unwrapped := hframes, missing := hmissing }⟩
    · rename_i hcomplete
      split
      · rename_i hack
        have hmissing := hpending.missing
        refine replies_deliverReply _ _ _
          ⟨hcleared, ack, frames ++ [bytes], held.attachments ++ [attachment], ?_⟩
        rw [hpending.data]
        refine hcleared.isReply hread (.inr (hpending.acks hack.1).1) (hpending.acks hack.1).2
          (hpending.id ▸ hack.2) hframes ?_ ⟨before, _, rfl, rfl⟩
        rw [← hpending.needed]
        omega
      · exact hcounted
  · exact hcounted

theorem replies_pumpReceived (state : PumpState) (item : Item) :
    Replies serde sio (Heard sio state item) (pumpReceived serde sio state item)
      (TurnFollows sio) := by
  cases item with
  | none => exact replies_inr _
  | some result =>
    cases result with
    | error err =>
      exact Triple.weaken (replies_endPump (quiet_deliver_error err) state)
        (fun past h => h.quiet rfl) fun _ _ h => h
    | ok message =>
      cases message with
      | text text => exact replies_pumpText state text
      | binary bytes => exact replies_pumpBinary state bytes
      | ping bytes =>
        exact Triple.weaken (replies_answered _ state) (fun past h => h.quiet rfl) fun _ _ h => h
      | close reason =>
        exact Triple.weaken (replies_endPump (quiet_deliver_close reason) state)
          (fun past h => h.quiet rfl) fun _ _ h => h
      | pong bytes => exact replies_inl fun past h => h.quiet rfl
      | frame => exact replies_inl fun past h => h.quiet rfl

/-- **One turn of the pump.** -/
theorem replies_pumpRound (pingEvery : Option Duration) (state : PumpState) :
    Replies serde sio (Follows sio state) (pumpRound serde sio pingEvery state)
      (TurnFollows sio) := by
  have hselect : Replies serde sio (Follows sio state) PumpAsk.select fun woken past =>
      match woken with
      | .received item => Heard sio state item past
      | _ => Follows sio state past := by
    refine Triple.ask_history fun past woken hfollows => ⟨?_, ?_⟩
    · exact fun reply hreply => absurd hreply (Option.not_mem_none reply)
    · cases woken with
      | ping => exact hfollows.quiet ⟨rfl, rfl, rfl⟩
      | out message => exact hfollows.quiet ⟨rfl, rfl, rfl⟩
      | received item => exact ⟨past, rfl, hfollows⟩
  refine Triple.bind hselect fun woken => ?_
  cases woken with
  | ping =>
    refine Triple.ite (fun _ => ?_) fun _ => replies_inl fun _ h => h
    refine Triple.bind (replies_quiet (fun _ => ⟨rfl, rfl, rfl⟩) state) fun result => ?_
    cases result with
    | ok _ => exact replies_inl fun _ h => h
    | error err => exact replies_endPump (quiet_deliver_error err) state
  | out message => exact replies_pumpOut state message
  | received item => exact replies_pumpReceived state item

theorem replies_pump (pingEvery : Option Duration) :
    Replies serde sio (Follows sio {}) (pump serde sio pingEvery) fun _ _ => True :=
  Triple.loop (Follows sio) fun state => replies_pumpRound pingEvery state

end Replies

/-- What answers no event that is awaited: an ack of an earlier event, a packet
of another namespace, another ack of an event that was answered, and a binary
event. -/
inductive AnswersNothing (sio : SocketIoConfig) (past : List PumpEvent) (packet : Packet) :
    Prop where
  | earlier (h : packet.id ∈ (eventIds past).dropLast)
  | elsewhere (h : packet.namespace ≠ sio.namespace)
  | again (h : repliesToLatest past ≠ 0)
  | binaryEvent (h : packet.kind = '5')

/-- A reply answers something. -/
theorem IsReply.not_answersNothing {serde : Serde} {sio : SocketIoConfig}
    {past : List PumpEvent} {ack : Packet} {frames attachments : List Bytes} {reply : Message}
    (h : IsReply serde sio past ack frames attachments reply) : ¬AnswersNothing sio past ack := by
  intro hnothing
  cases hnothing with
  | earlier hmem =>
    obtain ⟨id, earlier, hid, hids, hfresh⟩ := h.latest
    rw [hids, List.dropLast_concat, hid] at hmem
    exact hfresh hmem
  | elsewhere hns => exact hns h.ns
  | again hreplies => exact hreplies h.first
  | binaryEvent hkind =>
    rcases h.kind with hack | hack
    · exact absurd (hack.symm.trans hkind) (by decide)
    · exact absurd (hack.symm.trans hkind) (by decide)

/-- **The replies of a Socket.IO session are sound.** In every run of the pump,
a frame is passed on as a reply only where it is one, and what answers nothing
is never followed by a reply. -/
theorem socketIo_replies_sound (serde : Serde) (sio : SocketIoConfig)
    (pingEvery : Option Duration) {trace : List PumpEvent} {result : Option ℕ}
    (hrun : Proc.Runs (pump serde sio pingEvery) trace result) {before after : List PumpEvent}
    {event : PumpEvent} (htrace : trace = before ++ event :: after) :
    (∀ reply, passedReply event = some reply →
      ∃ ack frames attachments, IsReply serde sio before ack frames attachments reply)
    ∧ ∀ packet frames, gathered before = some (packet, frames) →
      AnswersNothing sio before packet → passedReply event = none := by
  have hsound : RepliesOnly serde sio before event :=
    Proc.Monitor.history_sound (replies_pump pingEvery) Follows.init hrun htrace
  refine ⟨hsound, fun packet frames hread hnothing => ?_⟩
  refine Option.eq_none_iff_forall_ne_some.mpr fun reply hreply => ?_
  obtain ⟨ack, frames', attachments, hreply⟩ := hsound reply hreply
  obtain rfl := congrArg Prod.fst (Option.some.inj (hread.symm.trans hreply.read))
  exact hreply.not_answersNothing hnothing

/-- JSON texts as a pump needs them, none of which is read. -/
def plainSerde : Serde where
  fromStr _ := none
  toText _ := "\"echo\""

/-- The default namespace, in version 4. -/
def plainSio : SocketIoConfig := ⟨"/", "echo", none, .v4⟩

/-- The loop sends a text, and the server acknowledges its event. -/
def ackAnswers (n : ℕ) : (e : PumpEff) → e.Answer
  | .select => if n = 0 then .out (some (.text "hi")) else .received (some (.ok (.text "430[1]")))
  | .send _ => .ok ()
  | .feed _ => .ok ()
  | .flush => .ok ()
  | .sendIgnored _ => ()
  | .deliver _ => true

theorem acked_reply_sound :
    ∃ ack frames attachments, IsReply plainSerde plainSio
      (((pump plainSerde plainSio none).run ackAnswers 20 0).1.take 4) ack frames attachments
      (.text "[1]") := by
  have hrun := Proc.runs_run ackAnswers 20 0 (pump plainSerde plainSio none)
  have hevent : ((pump plainSerde plainSio none).run ackAnswers 20 0).1
      = ((pump plainSerde plainSio none).run ackAnswers 20 0).1.take 4
        ++ ⟨.deliver (.ok (.text "[1]")), true⟩
        :: ((pump plainSerde plainSio none).run ackAnswers 20 0).1.drop 5 := by
    rfl
  exact (socketIo_replies_sound plainSerde plainSio none hrun hevent).1 _ rfl

end WsBlast
