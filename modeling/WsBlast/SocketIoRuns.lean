import WsBlast.Lib.Interleave
import WsBlast.ModesLedger

/-!
# A Socket.IO session and its pump

The loop of a Socket.IO session reads and writes a channel, and the pump moves
frames between the channel and the socket. The two run side by side
(`SocketIoRun`), and the channel decides what the loop can see: a send into it
fails once the pump has ended, and a read gives what the pump passed on, or
nothing once the pump has ended and all of it was read.

What the pump's last read or write came to is its `PumpLedger.cause`. An error
that the loop reads is one the pump met and then ended with
(`SocketIoRun.cause_of_read_error`).

The session and its pump have opposite views of a failure. When the socket
fails, the pump knows; it passes the error on and ends. The loop reads the
error if it happens to read, and if it writes instead, its write fails because
the channel is gone, which says nothing about why. So the error that a session
counts can stand for what it did not see, and the two ledgers are needed side
by side.
-/

namespace WsBlast

open Proc.Monitor (Triple)

/-! ## What ends a pump

The pump's own ledger, much smaller than a worker's: what its last read or write
came to, and whether it passed an error on. -/

/-- One event of a pump's trace. -/
abbrev PumpEvent : Type := Proc.Event PumpEff PumpEff.Answer

/-- An event is written in up to three steps: its packet, its attachment and a
flush, which comes also after a write that failed. -/
theorem triple_writeEvent {M : Type} {m : Proc.Monitor PumpEff PumpEff.Answer M} {pre : M → Prop}
    {mid post : Except WsError Unit → M → Prop} {packet : String} {attachment : Option Bytes}
    (hpacket : Triple m pre (PumpAsk.feed (.text packet)) mid)
    (hbytes : ∀ bytes ∈ attachment, Triple m (mid (.ok ())) (PumpAsk.feed (.binary bytes)) mid)
    (hflush : ∀ sent, Triple m (mid sent) PumpAsk.flush fun flushed =>
      post (sent.bind fun _ => flushed)) :
    Triple m pre (writeEvent packet attachment) post := by
  have hrest : ∀ sent : Except WsError Unit, Triple m (mid sent)
      (PumpAsk.flush >>= fun flushed => pure (sent.bind fun _ => flushed)) post := fun sent =>
    Triple.bind (hflush sent) fun _ => Triple.pure fun _ h => h
  refine Triple.bind hpacket fun fed => ?_
  cases fed with
  | error err => exact hrest (.error err)
  | ok _ =>
    cases attachment with
    | none => exact hrest (.ok ())
    | some bytes =>
      refine Triple.bind (hbytes bytes rfl) fun sent => ?_
      cases sent with
      | ok _ => exact hrest (.ok ())
      | error err => exact hrest (.error err)

/-- What a pump's trace adds up to. -/
structure PumpLedger where
  /-- What its last read or write came to, when that gave it nothing to go on
  with. -/
  cause : Option Ending := none
  /-- It passed an error to the loop. -/
  failed : Bool := false
  deriving DecidableEq, Repr

namespace PumpLedger

/-- What a read from the socket says about the connection. -/
def itemEnding : Item → Option Ending
  | none => some .ended
  | some (.error _) => some .failure
  | some (.ok (.close _)) => some .close
  | some (.ok _) => none

/-- A write that goes through leaves the account as it is: the flush after a
failed write does not undo the failure. -/
def wrote (s : PumpLedger) : Except WsError Unit → PumpLedger
  | .ok _ => s
  | .error _ => { s with cause := some .failure }

/-- What an event changes. -/
def step (s : PumpLedger) : PumpEvent → PumpLedger
  | ⟨.select, .received item⟩ => { s with cause := itemEnding item }
  | ⟨.select, .ping⟩ => { s with cause := none }
  | ⟨.select, .out _⟩ => { s with cause := none }
  | ⟨.send _, result⟩ => s.wrote result
  | ⟨.feed _, result⟩ => s.wrote result
  | ⟨.flush, result⟩ => s.wrote result
  | ⟨.sendIgnored _, _⟩ => s
  | ⟨.deliver (.error _), _⟩ => { s with failed := true }
  | ⟨.deliver (.ok _), _⟩ => s

/-- The account as a reader of traces. -/
def monitor : Proc.Monitor PumpEff PumpEff.Answer PumpLedger where
  step := step
  Admits := fun _ _ => True
  Safe := fun _ => True

/-- The pump has passed on no error. -/
def Going (s : PumpLedger) : Prop := s.failed = false

/-- An error that was passed on is what ended the pump. -/
def Over (s : PumpLedger) : Prop := s.failed = true → s.cause = some .failure

theorem Going.over {s : PumpLedger} (h : Going s) : Over s :=
  fun hfailed => absurd (h.symm.trans hfailed) Bool.false_ne_true

/-- A failed read or write is about to be passed on. -/
def Failing (s : PumpLedger) : Prop := s.failed = false ∧ s.cause = some .failure

/-- What one turn leaves behind. -/
def AfterTurn : Turn → PumpLedger → Prop := Sum.elim (fun _ => Going) fun _ => Over

/-- A program of the pump. -/
abbrev Pumps {R : Type} (pre : PumpLedger → Prop) (p : Pump R) (post : R → PumpLedger → Prop) :
    Prop :=
  Triple monitor pre p post

/-- Going on, or ending without an error. -/
theorem pumps_pure {turn : Turn} : Pumps Going (pure turn : Pump Turn) AfterTurn := by
  refine Triple.pure fun s hs => ?_
  cases turn with
  | inl state => exact hs
  | inr unsolicited => exact hs.over

/-- Questions that keep the pump going. -/
theorem pumps_ask {e : PumpEff} (hstep : ∀ s answer, (step s ⟨e, answer⟩).failed = s.failed) :
    Pumps Going (Proc.ask e) fun _ => Going :=
  Triple.ask fun s answer hs _ => ⟨trivial, (hstep s answer).trans hs⟩

theorem failed_wrote (s : PumpLedger) (result : Except WsError Unit) :
    (s.wrote result).failed = s.failed := by
  cases result with
  | ok _ => rfl
  | error _ => rfl

theorem pumps_sendIgnored (message : Message) :
    Pumps Going (PumpAsk.sendIgnored message) fun _ => Going := pumps_ask fun _ _ => rfl

/-- What ended the connection is passed on. -/
theorem pumps_endPump_ok (state : PumpState) (message : Message) :
    Pumps Going (endPump state (.ok message)) AfterTurn :=
  Triple.bind (pumps_ask fun _ _ => rfl) fun _ => pumps_pure

/-- So is what went wrong. -/
theorem pumps_endPump_error (state : PumpState) (err : WsError) :
    Pumps Failing (endPump state (.error err)) AfterTurn := by
  refine Triple.bind (Triple.ask fun s _ hs _ => ⟨trivial, ?_⟩) fun _ => Triple.pure fun _ h => h
  exact fun _ => hs.2

theorem pumps_deliverReply (state : PumpState) (reply : Message) :
    Pumps Going (deliverReply state reply) AfterTurn := by
  refine Triple.bind (pumps_ask fun _ _ => rfl) fun delivered => ?_
  exact Triple.ite (fun _ => pumps_pure) fun _ => pumps_pure

theorem pumps_disconnect (sio : SocketIoConfig) (state : PumpState) (frame : Option CloseFrame) :
    Pumps Going (disconnect sio state frame) AfterTurn :=
  Triple.bind (pumps_sendIgnored _) fun _ => Triple.bind (pumps_sendIgnored _) fun _ => pumps_pure

/-- After a write: it went through, or its failure is on record. -/
def Wrote : Except WsError Unit → PumpLedger → Prop
  | .ok _ => Going
  | .error _ => Failing

theorem going_wrote {s : PumpLedger} (h : Going s) (result : Except WsError Unit) :
    Wrote result (s.wrote result) := by
  cases result with
  | ok _ => exact h
  | error _ => exact ⟨h, rfl⟩

theorem pumps_feed (message : Message) : Pumps Going (PumpAsk.feed message) Wrote :=
  Triple.ask fun _ result hs _ => ⟨trivial, going_wrote hs result⟩

theorem pumps_send (message : Message) : Pumps Going (PumpAsk.send message) Wrote :=
  Triple.ask fun _ result hs _ => ⟨trivial, going_wrote hs result⟩

/-- The flush after a failed write keeps the failure on record. -/
theorem pumps_flush (sent : Except WsError Unit) :
    Pumps (Wrote sent) PumpAsk.flush fun flushed => Wrote (sent.bind fun _ => flushed) := by
  refine Triple.ask fun s flushed hs _ => ⟨trivial, ?_⟩
  cases sent with
  | ok _ => exact going_wrote hs flushed
  | error err =>
    cases flushed with
    | ok _ => exact hs
    | error _ => exact ⟨hs.1, rfl⟩

/-- An event that is written, with its attachment. -/
theorem pumps_writeEvent (packet : String) (attachment : Option Bytes) :
    Pumps Going (writeEvent packet attachment) Wrote :=
  triple_writeEvent (pumps_feed _) (fun _ _ => pumps_feed _) pumps_flush

theorem pumps_pumpEvent (state : PumpState) (packet : String) (attachment : Option Bytes) :
    Pumps Going (pumpEvent state packet attachment) AfterTurn := by
  refine Triple.bind (pumps_writeEvent packet attachment) fun result => ?_
  cases result with
  | ok _ => exact pumps_pure
  | error err => exact pumps_endPump_error _ err

variable (serde : Serde) (sio : SocketIoConfig)

theorem pumps_pumpOut (state : PumpState) (message : Option Message) :
    Pumps Going (pumpOut serde sio state message) AfterTurn := by
  cases message with
  | none => exact pumps_disconnect sio state none
  | some message =>
    cases message with
    | close frame => exact pumps_disconnect sio state frame
    | text text => exact pumps_pumpEvent _ _ _
    | binary bytes => exact pumps_pumpEvent _ _ _
    | ping bytes => exact Triple.bind (pumps_sendIgnored _) fun _ => pumps_pure
    | pong bytes => exact Triple.bind (pumps_sendIgnored _) fun _ => pumps_pure
    | frame => exact Triple.bind (pumps_sendIgnored _) fun _ => pumps_pure

theorem pumps_pumpBinary (state : PumpState) (bytes : Bytes) :
    Pumps Going (pumpBinary serde sio state bytes) AfterTurn := by
  unfold pumpBinary
  dsimp only
  split
  · refine Triple.ite (fun _ => pumps_pure) fun _ => ?_
    exact Triple.ite (fun _ => pumps_deliverReply _ _) fun _ => pumps_pure
  · exact pumps_pure

theorem pumps_pumpPacket (state : PumpState) (packet : Packet) :
    Pumps Going (pumpPacket sio state packet) AfterTurn := by
  refine Triple.ite (fun _ => pumps_pure) fun _ => ?_
  refine Triple.ite (fun _ => ?_) fun _ => pumps_pure
  refine Triple.ite (fun _ => pumps_deliverReply _ _) fun _ => ?_
  exact Triple.ite (fun _ => pumps_endPump_ok _ _) fun _ => pumps_pure

theorem pumps_pumpText (state : PumpState) (text : String) :
    Pumps Going (pumpText sio state text) AfterTurn := by
  refine Triple.ite (fun _ => Triple.bind (pumps_sendIgnored _) fun _ => pumps_pure) fun _ => ?_
  refine Triple.ite (fun _ => pumps_endPump_ok _ _) fun _ => ?_
  refine Triple.ite (fun _ => pumps_pure) fun _ => ?_
  cases Packet.parse text with
  | none => exact pumps_pure
  | some packet => exact pumps_pumpPacket sio _ packet

/-- What was read, with the account it leaves. -/
theorem pumps_pumpReceived (state : PumpState) (item : Item) :
    Pumps (fun s => Going s ∧ s.cause = itemEnding item) (pumpReceived serde sio state item)
      AfterTurn := by
  have hgoing : ∀ {p : Pump Turn}, Pumps Going p AfterTurn →
      Pumps (fun s => Going s ∧ s.cause = itemEnding item) p AfterTurn :=
    fun hp => Triple.weaken hp (fun _ h => h.1) fun _ _ h => h
  cases item with
  | none => exact hgoing pumps_pure
  | some result =>
    cases result with
    | error err => exact pumps_endPump_error state err
    | ok message =>
      cases message with
      | text text => exact hgoing (pumps_pumpText sio state text)
      | ping bytes =>
        exact hgoing (Triple.bind (pumps_sendIgnored _) fun _ => pumps_pure)
      | close frame => exact hgoing (pumps_endPump_ok state _)
      | binary bytes => exact hgoing (pumps_pumpBinary serde sio state bytes)
      | pong bytes => exact hgoing pumps_pure
      | frame => exact hgoing pumps_pure

/-- After the pump's wait: what it read is on record. -/
def AfterWait : PumpWoken → PumpLedger → Prop
  | .ping => Going
  | .out _ => Going
  | .received item => fun s => Going s ∧ s.cause = itemEnding item

theorem pumps_select : Pumps Going PumpAsk.select AfterWait := by
  refine Triple.ask fun s woken hs _ => ⟨trivial, ?_⟩
  cases woken with
  | ping => exact hs
  | out message => exact hs
  | received item => exact ⟨hs, rfl⟩

/-- **One turn of the pump.** -/
theorem pumps_pumpRound (pingEvery : Option Duration) (state : PumpState) :
    Pumps Going (pumpRound serde sio pingEvery state) AfterTurn := by
  refine Triple.bind pumps_select fun woken => ?_
  cases woken with
  | ping =>
    refine Triple.ite (fun _ => ?_) fun _ => pumps_pure
    refine Triple.bind (pumps_send _) fun result => ?_
    cases result with
    | ok _ => exact pumps_pure
    | error err => exact pumps_endPump_error state err
  | out message => exact pumps_pumpOut serde sio state message
  | received item => exact pumps_pumpReceived serde sio state item

/-- **An error that the pump passes on is what ends it.** -/
theorem pumps_pump (pingEvery : Option Duration) :
    Pumps Going (pump serde sio pingEvery) fun _ => Over :=
  Triple.loop (fun _ => Going) fun state => pumps_pumpRound serde sio pingEvery state

end PumpLedger

/-! ## The loop and the pump side by side -/

/-- An event of a Socket.IO session: one of the loop, one of the pump, or one
of them has ended and dropped its end of the channel. -/
inductive JointEvent where
  | loop (event : Event)
  | pump (event : PumpEvent)
  | loopDone
  | pumpDone (unsolicited : ℕ)

/-- The channel between the loop and the pump. -/
structure Channel where
  opened : Bool := false
  outgoing : List Message := []
  incoming : List (Except WsError Message) := []
  loopDone : Bool := false
  /-- The frames the pump counted, once it has ended. -/
  pumpDone : Option ℕ := none

namespace Channel

/-- The frames each direction of the channel holds. -/
def capacity : ℕ := 8

/-- Puts a frame into the channel. -/
def push (c : Channel) (message : Message) : Channel :=
  { c with outgoing := c.outgoing ++ [message] }

/-- What an event changes. -/
def step (c : Channel) : JointEvent → Channel
  | .loop ⟨.openChannel _, _⟩ => { c with opened := true }
  | .loop ⟨.send message, .ok _⟩ => c.push message
  | .loop ⟨.sendOrCancelled message, some (.ok _)⟩ => c.push message
  | .loop ⟨.sendIgnored message, _⟩ =>
    if c.opened && !c.loopDone && c.pumpDone.isNone then c.push message else c
  | .loop ⟨.select (.opening _), _⟩ => c
  | .loop ⟨.select _, .read (some _)⟩ => { c with incoming := c.incoming.tail }
  | .pump ⟨.select, .out (some _)⟩ => { c with outgoing := c.outgoing.tail }
  | .pump ⟨.deliver item, true⟩ => { c with incoming := c.incoming ++ [item] }
  | .loopDone => { c with loopDone := true }
  | .pumpDone unsolicited => { c with pumpDone := some unsolicited }
  | _ => c

/-- A send into the channel goes through while the pump is there and has room,
and fails once the pump has ended. -/
def sends (c : Channel) : Except WsError Unit → Bool
  | .ok _ => c.opened && !c.loopDone && c.pumpDone.isNone && c.outgoing.length < capacity
  | .error err => !c.loopDone && c.pumpDone.isSome && err = .connectionClosed

/-- A read from the channel gives what the pump passed on, and nothing once the
pump has ended and all of it was read. -/
def reads (c : Channel) : Item → Bool
  | none => !c.loopDone && c.incoming.isEmpty && c.pumpDone.isSome
  | some item => !c.loopDone && c.incoming.head? = some item

/-- Whether the channel lets an event happen. -/
def admits (c : Channel) : JointEvent → Bool
  | .loop ⟨.send _, result⟩ => c.sends result
  | .loop ⟨.sendOrCancelled _, none⟩ => true
  | .loop ⟨.sendOrCancelled _, some result⟩ => c.sends result
  | .loop ⟨.sendIgnored _, _⟩ =>
    !c.opened || c.loopDone || c.pumpDone.isSome || c.outgoing.length < capacity
  | .loop ⟨.select (.opening timeout), woken⟩ => (Wait.opening timeout).has woken
  | .loop ⟨.select wait, .read item⟩ => wait.has (.read item) && c.reads item
  | .loop ⟨.select wait, woken⟩ => wait.has woken
  | .loop ⟨.pumpUnsolicited, unsolicited⟩ => c.loopDone && c.pumpDone == some unsolicited
  | .loop _ => true
  | .pump ⟨.select, .out none⟩ => c.opened && c.pumpDone.isNone && c.loopDone && c.outgoing.isEmpty
  | .pump ⟨.select, .out (some message)⟩ =>
    c.opened && c.pumpDone.isNone && c.outgoing.head? = some message
  | .pump ⟨.deliver _, true⟩ =>
    c.opened && c.pumpDone.isNone && !c.loopDone && c.incoming.length < capacity
  | .pump ⟨.deliver _, false⟩ => c.opened && c.pumpDone.isNone && c.loopDone
  | .pump _ => c.opened && c.pumpDone.isNone
  | .loopDone => c.opened && !c.loopDone
  | .pumpDone _ => c.opened && c.pumpDone.isNone

/-- The channel after some events. -/
def after (c : Channel) (trace : List JointEvent) : Channel := trace.foldl step c

/-- The channel lets all events happen. -/
def accepts (c : Channel) : List JointEvent → Bool
  | [] => true
  | event :: rest => c.admits event && (c.step event).accepts rest

end Channel

/-- The events of the loop. -/
def loopEvents (trace : List JointEvent) : List Event :=
  trace.filterMap fun event => match event with
    | .loop event => some event
    | _ => none

/-- The events of the pump. -/
def pumpEvents (trace : List JointEvent) : List PumpEvent :=
  trace.filterMap fun event => match event with
    | .pump event => some event
    | _ => none

section Events

variable (trace rest : List JointEvent)

@[simp] theorem loopEvents_append :
    loopEvents (trace ++ rest) = loopEvents trace ++ loopEvents rest :=
  List.filterMap_append

@[simp] theorem pumpEvents_append :
    pumpEvents (trace ++ rest) = pumpEvents trace ++ pumpEvents rest :=
  List.filterMap_append

@[simp] theorem loopEvents_map_loop (events : List Event) :
    loopEvents (events.map .loop) = events := by
  unfold loopEvents
  rw [List.filterMap_map]
  exact List.filterMap_some

@[simp] theorem loopEvents_map_pump (events : List PumpEvent) :
    loopEvents (events.map .pump) = [] := by
  unfold loopEvents
  rw [List.filterMap_map]
  exact List.filterMap_none events

@[simp] theorem pumpEvents_map_pump (events : List PumpEvent) :
    pumpEvents (events.map .pump) = events := by
  unfold pumpEvents
  rw [List.filterMap_map]
  exact List.filterMap_some

@[simp] theorem pumpEvents_map_loop (events : List Event) : pumpEvents (events.map .loop) = [] := by
  unfold pumpEvents
  rw [List.filterMap_map]
  exact List.filterMap_none events

@[simp] theorem loopEvents_loopDone : loopEvents [.loopDone] = [] := rfl

@[simp] theorem loopEvents_pumpDone (unsolicited : ℕ) : loopEvents [.pumpDone unsolicited] = [] :=
  rfl

@[simp] theorem pumpEvents_loopDone : pumpEvents [.loopDone] = [] := rfl

@[simp] theorem pumpEvents_pumpDone (unsolicited : ℕ) : pumpEvents [.pumpDone unsolicited] = [] :=
  rfl

end Events

/-- A Socket.IO session that has ended: the channel lets everything happen, the
loop ran to its end and, if the session was opened, so did the pump. -/
structure SocketIoRun where
  serde : Serde
  config : LoadTestConfig
  workerId : ℕ
  scenario : Option ScenarioPhase
  sio : SocketIoConfig
  socketio : config.socketio = some sio
  trace : List JointEvent
  ended : SessionEnd
  pingEvery : Option Duration
  unsolicited : Option ℕ
  accepted : Channel.accepts {} trace = true
  answers : (Ledger.monitor none).Accepts {} (loopEvents trace)
  loopRuns : Proc.Runs (runSocketIo serde config workerId scenario) (loopEvents trace) (some ended)
  pumpRuns : Proc.Runs (pump serde sio pingEvery) (pumpEvents trace) unsolicited
  /-- The pump has ended exactly when the session was opened. -/
  pumpEnded : unsolicited.isSome = (Channel.after {} trace).opened
  reported : (Channel.after {} trace).pumpDone = unsolicited

namespace SocketIoRun

variable (run : SocketIoRun)

/-- The loop's ledger at the end. -/
def ledger : Ledger := (Ledger.monitor none).after {} (loopEvents run.trace)

/-- The pump's account at the end. -/
def pumpLedger : PumpLedger := PumpLedger.monitor.after {} (pumpEvents run.trace)

end SocketIoRun

/-! ## Errors that the loop reads

An error in the channel was put there by the pump, and the pump had ended by
then. -/

section Reads

/-- What the pump has passed on stays on record. -/
theorem PumpLedger.failed_step {pumped : PumpLedger} (event : PumpEvent)
    (h : pumped.failed = true) : (pumped.step event).failed = true := by
  obtain ⟨e, answer⟩ := event
  cases e with
  | select =>
    cases answer with
    | ping => exact h
    | out message => exact h
    | received item => exact h
  | send message => exact (PumpLedger.failed_wrote pumped answer).trans h
  | feed message => exact (PumpLedger.failed_wrote pumped answer).trans h
  | flush => exact (PumpLedger.failed_wrote pumped answer).trans h
  | sendIgnored message => exact h
  | deliver item =>
    cases item with
    | ok message => exact h
    | error err => rfl

theorem PumpLedger.failed_after {pumped : PumpLedger} (events : List PumpEvent)
    (h : pumped.failed = true) : (monitor.after pumped events).failed = true := by
  induction events generalizing pumped with
  | nil => exact h
  | cons event rest ih => exact ih (failed_step event h)

namespace Channel

/-- The channel gains nothing but what the pump passes on. -/
theorem mem_incoming_step {c : Channel} {event : JointEvent} {item : Except WsError Message}
    (h : item ∈ (c.step event).incoming) :
    item ∈ c.incoming ∨ event = .pump ⟨.deliver item, true⟩ := by
  unfold step at h
  split at h
  · exact .inl h
  · exact .inl h
  · exact .inl h
  · split_ifs at h
    · exact .inl h
    · exact .inl h
  · exact .inl h
  · exact .inl (List.mem_of_mem_tail h)
  · exact .inl h
  · obtain h | h := List.mem_append.mp h
    · exact .inl h
    · rw [List.mem_singleton.mp h]
      exact .inr rfl
  · exact .inl h
  · exact .inl h
  · exact .inl h

/-- A channel that is open stays open. -/
theorem opened_step {c : Channel} (event : JointEvent) (h : c.opened = true) :
    (c.step event).opened = true := by
  unfold step
  split
  · rfl
  · exact h
  · exact h
  · split_ifs
    · exact h
    · exact h
  · exact h
  · exact h
  · exact h
  · exact h
  · exact h
  · exact h
  · exact h

theorem opened_after {c : Channel} (trace : List JointEvent) (h : c.opened = true) :
    (c.after trace).opened = true := by
  induction trace generalizing c with
  | nil => exact h
  | cons event rest ih => exact ih (opened_step event h)

theorem after_append (c : Channel) (trace rest : List JointEvent) :
    c.after (trace ++ rest) = (c.after trace).after rest := List.foldl_append

theorem accepts_append (c : Channel) (trace rest : List JointEvent) :
    c.accepts (trace ++ rest) = (c.accepts trace && (c.after trace).accepts rest) := by
  induction trace generalizing c with
  | nil => rfl
  | cons event trace ih =>
    show (c.admits event && (c.step event).accepts (trace ++ rest))
      = (c.admits event && (c.step event).accepts trace && _)
    rw [ih, Bool.and_assoc]
    rfl

/-- A read of the loop, once the session is open, is a read from the
channel. -/
theorem reads_of_admits {c : Channel} {wait : Wait} {item : Item}
    (hwait : ∀ timeout, wait ≠ .opening timeout)
    (h : c.admits (.loop ⟨.select wait, .read item⟩) = true) : c.reads item = true := by
  have hboth : (wait.has (.read item) && c.reads item) = true := by
    cases wait with
    | opening timeout => exact absurd rfl (hwait timeout)
    | slot due => exact h
    | reply timeout => exact h
    | stream period paused => exact h
    | listen paused => exact h
    | ack timeout => exact h
    | subscription paused => exact h
  exact (Bool.and_eq_true_iff.mp hboth).2

/-- Every error in the channel was passed on by the pump of an open
session. -/
def Passed (c : Channel) (pumped : PumpLedger) : Prop :=
  ∀ err, .error err ∈ c.incoming → pumped.failed = true ∧ c.opened = true

/-- The pump's account after an event of the session. -/
def pumpedBy (pumped : PumpLedger) : JointEvent → PumpLedger
  | .pump event => pumped.step event
  | _ => pumped

theorem after_pumpEvents_cons (pumped : PumpLedger) (event : JointEvent) (rest : List JointEvent) :
    PumpLedger.monitor.after pumped (pumpEvents (event :: rest))
      = PumpLedger.monitor.after (pumpedBy pumped event) (pumpEvents rest) := by
  cases event with
  | pump event => rfl
  | loop event => rfl
  | loopDone => rfl
  | pumpDone unsolicited => rfl

theorem passed_step {c : Channel} {pumped : PumpLedger} {event : JointEvent} (h : Passed c pumped)
    (hadmits : c.admits event = true) : Passed (c.step event) (pumpedBy pumped event) := by
  intro err hmem
  obtain hold | rfl := mem_incoming_step hmem
  · obtain ⟨hfailed, hopened⟩ := h err hold
    refine ⟨?_, opened_step event hopened⟩
    cases event with
    | pump event => exact PumpLedger.failed_step event hfailed
    | loop event => exact hfailed
    | loopDone => exact hfailed
    | pumpDone unsolicited => exact hfailed
  · refine ⟨rfl, opened_step _ ?_⟩
    have hopen : (c.opened && c.pumpDone.isNone && !c.loopDone && _) = true := hadmits
    rw [Bool.and_eq_true, Bool.and_eq_true, Bool.and_eq_true] at hopen
    exact hopen.1.1.1

theorem passed_after {c : Channel} {pumped : PumpLedger} (trace : List JointEvent)
    (h : Passed c pumped) (haccepts : c.accepts trace = true) :
    Passed (c.after trace) (PumpLedger.monitor.after pumped (pumpEvents trace)) := by
  induction trace generalizing c pumped with
  | nil => exact h
  | cons event rest ih =>
    obtain ⟨hadmits, hrest⟩ := Bool.and_eq_true_iff.mp haccepts
    rw [after_pumpEvents_cons]
    exact ih (passed_step h hadmits) hrest

end Channel

namespace SocketIoRun

variable (run : SocketIoRun)

/-- **An error that the loop reads is what ended the pump.** -/
theorem cause_of_read_error {before rest : List JointEvent} {wait : Wait} {err : WsError}
    (htrace : run.trace = before ++ .loop ⟨.select wait, .read (some (.error err))⟩ :: rest)
    (hwait : ∀ timeout, wait ≠ .opening timeout) : run.pumpLedger.cause = some .failure := by
  have haccepted := run.accepted
  rw [htrace, Channel.accepts_append] at haccepted
  obtain ⟨hbefore, hrest⟩ := Bool.and_eq_true_iff.mp haccepted
  obtain ⟨hadmits, -⟩ := Bool.and_eq_true_iff.mp hrest
  have hpassed := @Channel.passed_after {} {} before nofun hbefore
  -- the error was at the head of the channel
  have hreads := Channel.reads_of_admits hwait hadmits
  have hhead : (Channel.after {} before).incoming.head? = some (.error err) :=
    of_decide_eq_true (Bool.and_eq_true_iff.mp hreads).2
  obtain ⟨hfailed, hopened⟩ := hpassed err (List.mem_of_head? hhead)
  -- so the pump had passed it on, and ended with it
  have hends : run.unsolicited.isSome = true := by
    rw [run.pumpEnded, htrace, Channel.after_append]
    exact Channel.opened_after _ hopened
  obtain ⟨unsolicited, hsome⟩ := Option.isSome_iff_exists.mp hends
  have hover := (PumpLedger.monitor.wp_sound run.pumpRuns (s := {}) trivial
    (PumpLedger.pumps_pump run.serde run.sio run.pingEvery {} rfl) ?_).2 unsolicited hsome
  · refine hover ?_
    rw [htrace, pumpEvents_append, Proc.Monitor.after_append]
    exact PumpLedger.failed_after _ hfailed
  · generalize ({} : PumpLedger) = s
    induction pumpEvents run.trace generalizing s with
    | nil => exact trivial
    | cons event rest ih => exact ⟨trivial, ih _⟩

end SocketIoRun

end Reads

end WsBlast
