import WsBlast.SocketIoReplies

/-!
# The frames of a Socket.IO session that answer nothing

Each packet that a server sends is a reply, ends the session or is counted as
unsolicited, and so is each binary frame that belongs to no packet.
`FrameTally` says from the trace what there was to count: the packets, the
binary frames on their own, the replies and the packets that ended the session.

The count falls short by the packets that were cut short without a text frame
(`FrameTally.balance_pump`): by a binary frame that is no Engine.IO message,
which is counted in the place of the packet, and by the end of the pump.

Unsolicited frames are what a user looks at when a server seems to answer too
much or too little, so the count should leave nothing out and count nothing
twice.
-/

namespace WsBlast

open Proc.Monitor (Triple)

/-! ## What there is to count

The tally is read off the trace and does not look at the pump's state. -/

/-- What the trace of a pump shows of the packets the server sent. -/
structure FrameTally where
  /-- The packet whose attachments are still arriving: how many it announced
  and how many are there. -/
  held : Option (ℕ × ℕ) := none
  /-- Packets, complete or not. -/
  packets : ℕ := 0
  /-- Binary frames that belong to no packet. -/
  orphans : ℕ := 0
  /-- Packets passed on as replies. -/
  replies : ℕ := 0
  /-- Packets that ended the session. -/
  endings : ℕ := 0
  /-- Packets that a binary frame cut short which is no Engine.IO message. -/
  cut : ℕ := 0
  deriving DecidableEq, Repr

/-- An Engine.IO packet that carries no Socket.IO packet: a ping, a Close, a
pong or a noop. -/
def isEngineControl (text : String) : Bool := text = "2" ∨ text = "1" ∨ text = "3" ∨ text = "6"

namespace FrameTally

variable (sio : SocketIoConfig)

/-- One more packet, of which nothing is still to come. -/
def addPacket (s : FrameTally) : FrameTally := { s with held := none, packets := s.packets + 1 }

/-- A packet is read, in its text frame. -/
def readPacket (s : FrameTally) (packet : Packet) : FrameTally :=
  if 0 < packet.attachments then { s.addPacket with held := some (packet.attachments, 0) }
  else if packet.namespace = sio.namespace ∧ (packet.kind = '1' ∨ packet.kind = '4') then
    { s.addPacket with endings := s.endings + 1 }
  else s.addPacket

/-- A text frame ends the packet that was held. Unless it is Engine.IO's own it
is a packet, of which a malformed one carries nothing. -/
def readText (s : FrameTally) (text : String) : FrameTally :=
  if isEngineControl text then { s with held := none }
  else (Packet.parse text).elim s.addPacket (s.readPacket sio)

/-- A binary frame is an attachment of the packet that is held, or belongs to no
packet. -/
def readBinary (s : FrameTally) (bytes : Bytes) : FrameTally :=
  match s.held, sio.engine.unwrapBinary bytes with
  | some (announced, arrived), some _ =>
    { s with held := if arrived + 1 < announced then some (announced, arrived + 1) else none }
  | some _, none => { s with held := none, orphans := s.orphans + 1, cut := s.cut + 1 }
  | none, _ => { s with orphans := s.orphans + 1 }

/-- What an event of the trace adds. -/
def step (s : FrameTally) (event : PumpEvent) : FrameTally :=
  match dataFrame event, passedReply event with
  | some (.text text), _ => s.readText sio text
  | some (.binary bytes), _ => s.readBinary sio bytes
  | _, some _ => { s with replies := s.replies + 1 }
  | _, none => s

/-- The tally of a trace. -/
def ofTrace (trace : List PumpEvent) : FrameTally := trace.foldl (step sio) {}

/-- The count of unsolicited frames that leaves nothing out: each packet is a
reply, ended the session or is counted once, and so is each binary frame that
belongs to no packet. -/
def CountedOnce (s : FrameTally) (unsolicited : ℕ) : Prop :=
  unsolicited + s.replies + s.endings = s.packets + s.orphans

instance (s : FrameTally) (unsolicited : ℕ) : Decidable (s.CountedOnce unsolicited) :=
  inferInstanceAs (Decidable (_ = _))

/-- No packet was cut short but by a text frame. -/
def NoneCutShort (s : FrameTally) : Prop := s.cut = 0 ∧ s.held = none

instance (s : FrameTally) : Decidable s.NoneCutShort := inferInstanceAs (Decidable (_ ∧ _))

/-! ## The pump's count

`Balance` says that the count and the tally fit, up to what is cut short or
still held. -/

/-- The packets of the trace that the pump has not counted. -/
def uncounted (s : FrameTally) : ℕ := s.cut + s.held.isSome.toNat

/-- With `count` frames counted, nothing else is left out. -/
def Balance (s : FrameTally) (count : ℕ) : Prop :=
  count + s.replies + s.endings + s.uncounted = s.packets + s.orphans

/-- **Nothing is left out exactly when no packet was cut short.** -/
theorem Balance.countedOnce_iff {s : FrameTally} {count : ℕ} (h : s.Balance count) :
    s.CountedOnce count ↔ s.NoneCutShort := by
  have hbalance : count + s.replies + s.endings + (s.cut + s.held.isSome.toNat)
      = s.packets + s.orphans := h
  have hheld : s.held.isSome.toNat = 0 ↔ s.held = none := by
    cases s.held with
    | none => simp
    | some held => simp
  unfold CountedOnce NoneCutShort
  rw [← hheld]
  omega

variable (serde : Serde)

/-- The tally as a reader of traces. -/
def monitor : Proc.Monitor PumpEff PumpEff.Answer FrameTally where
  step := step sio
  Admits := fun _ _ => True
  Safe := fun _ => True

theorem monitor_accepts (s : FrameTally) (trace : List PumpEvent) :
    (monitor sio).Accepts s trace := by
  induction trace generalizing s with
  | nil => trivial
  | cons event rest ih => exact ⟨trivial, ih _⟩

/-- The packet a pump holds back, as the trace shows it. -/
def heldOf (state : PumpState) : Option (ℕ × ℕ) :=
  state.pending.map fun packet => (packet.needed, packet.attachments.length)

/-- The pump's state says what is held, and `more` of what the trace shows is
still to be counted. -/
structure Counts (state : PumpState) (more : ℕ) (s : FrameTally) : Prop where
  held : s.held = heldOf state
  balance : s.Balance (state.unsolicited + more)

/-- What a turn leaves behind. -/
def TurnCounts : Turn → FrameTally → Prop :=
  Sum.elim (fun state => Counts state 0) fun unsolicited s => s.Balance unsolicited

variable {sio} {serde}

/-- A program of the pump, read as a tally. -/
abbrev Tallies {R : Type} (sio : SocketIoConfig) (pre : FrameTally → Prop) (p : Pump R)
    (post : R → FrameTally → Prop) : Prop :=
  Triple (monitor sio) pre p post

theorem step_quiet (s : FrameTally) {event : PumpEvent} (h : Quiet event) :
    s.step sio event = s := by
  unfold step
  rw [h.frame, h.reply]

theorem tallies_inl {pre : FrameTally → Prop} {state : PumpState}
    (h : ∀ s, pre s → Counts state 0 s) : Tallies sio pre (pure (.inl state)) TurnCounts :=
  Triple.pure h

theorem tallies_inr {pre : FrameTally → Prop} {unsolicited : ℕ}
    (h : ∀ s, pre s → s.Balance unsolicited) :
    Tallies sio pre (pure (.inr unsolicited)) TurnCounts :=
  Triple.pure h

/-- A question that the tally takes no notice of. -/
theorem tallies_quiet {e : PumpEff} (h : ∀ answer, Quiet ⟨e, answer⟩) (pre : FrameTally → Prop) :
    Tallies sio pre (Proc.ask e) fun _ => pre :=
  Triple.ask_of_silent (fun _ _ => trivial) fun s answer => step_quiet s (h answer)

theorem tallies_sendIgnored (message : Message) (pre : FrameTally → Prop) :
    Tallies sio pre (PumpAsk.sendIgnored message) fun _ => pre :=
  tallies_quiet (fun _ => ⟨rfl, rfl, rfl⟩) pre

/-- An answer of the protocol, and the pump goes on. -/
theorem tallies_answered (message : Message) (state : PumpState) :
    Tallies sio (Counts state 0) (PumpAsk.sendIgnored message >>= fun _ => pure (.inl state))
      TurnCounts :=
  Triple.bind (tallies_sendIgnored message _) fun _ => tallies_inl fun _ h => h

theorem tallies_endPump {item : Except WsError Message}
    (hquiet : ∀ passed, Quiet ⟨.deliver item, passed⟩) (state : PumpState) :
    Tallies sio (Counts state 0) (endPump state item) TurnCounts :=
  Triple.bind (tallies_quiet hquiet _) fun _ => tallies_inr fun _ h => h.balance

/-- A packet that is passed on is not counted. -/
theorem tallies_deliverReply (state : PumpState) {reply : Message}
    (hreply : ∀ passed, passedReply ⟨.deliver (.ok reply), passed⟩ = some reply) :
    Tallies sio (Counts state 1) (deliverReply state reply) TurnCounts := by
  have hdeliver : Tallies sio (Counts state 1) (PumpAsk.deliver (.ok reply))
      fun _ => Counts { state with awaited := none } 0 := by
    refine Triple.ask fun s passed hcounts _ => ⟨trivial, ?_⟩
    have hstep : s.step sio ⟨.deliver (.ok reply), passed⟩
        = { s with replies := s.replies + 1 } := by
      unfold step
      rw [hreply]
      rfl
    have hbalance : state.unsolicited + 1 + s.replies + s.endings + s.uncounted
        = s.packets + s.orphans := hcounts.balance
    show Counts _ 0 (s.step sio ⟨.deliver (.ok reply), passed⟩)
    rw [hstep]
    refine ⟨hcounts.held, ?_⟩
    show state.unsolicited + 0 + (s.replies + 1) + s.endings + s.uncounted = s.packets + s.orphans
    omega
  refine Triple.bind hdeliver fun delivered => ?_
  exact Triple.ite (fun _ => tallies_inl fun _ h => h) fun _ => tallies_inr fun _ h => h.balance

theorem tallies_disconnect (state : PumpState) (reason : Option CloseFrame) :
    Tallies sio (Counts state 0) (disconnect sio state reason) TurnCounts :=
  Triple.bind (tallies_sendIgnored _ _) fun _ =>
    Triple.bind (tallies_sendIgnored _ _) fun _ => tallies_inr fun _ h => h.balance

theorem tallies_pumpEvent (state : PumpState) (packet : String) (attachment : Option Bytes) :
    Tallies sio (Counts state 0) (pumpEvent state packet attachment) TurnCounts := by
  have hfeed : ∀ message, Tallies sio (Counts state 0) (PumpAsk.feed message)
      fun _ => Counts state 0 := fun message =>
    Triple.ask_of_silent (fun _ _ => trivial) fun _ _ => rfl
  have hwrite : Tallies sio (Counts state 0) (writeEvent packet attachment)
      fun _ => Counts state 0 :=
    triple_writeEvent (hfeed _) (fun _ _ => hfeed _) fun _ =>
      tallies_quiet (fun _ => ⟨rfl, rfl, rfl⟩) _
  refine Triple.bind hwrite fun result => ?_
  cases result with
  | ok _ => exact tallies_inl fun _ h => ⟨h.held, h.balance⟩
  | error err =>
    refine Triple.bind (tallies_quiet (e := .deliver (.error err)) (quiet_deliver_error err) _)
      fun _ => tallies_inr fun _ h => h.balance

theorem tallies_pumpOut (state : PumpState) (message : Option Message) :
    Tallies sio (Counts state 0) (pumpOut serde sio state message) TurnCounts := by
  cases message with
  | none => exact tallies_disconnect state none
  | some message =>
    cases message with
    | close reason => exact tallies_disconnect state reason
    | text text => exact tallies_pumpEvent state _ _
    | binary bytes => exact tallies_pumpEvent state _ _
    | ping bytes => exact tallies_answered _ state
    | pong bytes => exact tallies_answered _ state
    | frame => exact tallies_answered _ state

/-! ## What is read

Packets, text frames and binary frames, with the tally of what was read on one
side and the turn of the pump on the other. -/

/-- One more to count, as the pump counts it. -/
theorem Counts.countUnsolicited {state : PumpState} {s : FrameTally} (h : Counts state 1 s) :
    Counts state.countUnsolicited 0 s := ⟨h.held, h.balance⟩

theorem tallies_pumpPacket {state : PumpState} (hpending : state.pending = none)
    (packet : Packet) :
    Tallies sio (fun s => ∃ s₀ : FrameTally, Counts state 0 { s₀ with held := none }
        ∧ s = s₀.readPacket sio packet)
      (pumpPacket sio state packet) TurnCounts := by
  rintro s ⟨s₀, hcounts, rfl⟩
  have hbalance : state.unsolicited + s₀.replies + s₀.endings + s₀.cut
      = s₀.packets + s₀.orphans := hcounts.balance
  have hheld : heldOf state = none := by rw [heldOf, hpending]; rfl
  -- a packet that is neither held, nor a reply, nor an end is counted
  have hcounted : Counts state 1 s₀.addPacket := by
    refine ⟨hheld.symm, ?_⟩
    show state.unsolicited + 1 + s₀.replies + s₀.endings + s₀.cut = s₀.packets + 1 + s₀.orphans
    omega
  unfold readPacket pumpPacket
  by_cases hbinary : 0 < packet.attachments
  · rw [if_pos hbinary, if_pos hbinary]
    refine ⟨rfl, ?_⟩
    show state.unsolicited + s₀.replies + s₀.endings + (s₀.cut + 1) = s₀.packets + 1 + s₀.orphans
    omega
  rw [if_neg hbinary, if_neg hbinary]
  by_cases hns : packet.namespace = sio.namespace
  · rw [if_pos hns]
    by_cases hack : (packet.kind = '3' ∨ packet.kind = '6') ∧ state.awaits packet.id = true
    · have hkind : ¬(packet.kind = '1' ∨ packet.kind = '4') := by
        rcases hack.1 with hkind | hkind
        · rw [hkind]; decide
        · rw [hkind]; decide
      rw [if_pos hack, if_neg fun h => hkind h.2]
      exact tallies_deliverReply state (fun _ => rfl) _ hcounted
    rw [if_neg hack]
    by_cases hkind : packet.kind = '1' ∨ packet.kind = '4'
    · rw [if_pos hkind, if_pos ⟨hns, hkind⟩]
      refine tallies_endPump (quiet_deliver_close none) state _ ⟨hheld.symm, ?_⟩
      show state.unsolicited + s₀.replies + (s₀.endings + 1) + s₀.cut
        = s₀.packets + 1 + s₀.orphans
      omega
    · rw [if_neg hkind, if_neg fun h => hkind h.2]
      exact hcounted.countUnsolicited
  · rw [if_neg hns, if_neg fun h => hns h.1]
    exact hcounted.countUnsolicited

/-- What the pump keeps after a text frame has ended the packet it held. -/
theorem Counts.readText {state : PumpState} {s : FrameTally} (h : Counts state 0 s) :
    Counts (if state.pending.isSome then
        ({ state with pending := none } : PumpState).countUnsolicited else state) 0
      { s with held := none } := by
  have hbalance : state.unsolicited + s.replies + s.endings + (s.cut + s.held.isSome.toNat)
      = s.packets + s.orphans := h.balance
  rw [h.held, heldOf] at hbalance
  cases hpending : state.pending with
  | none =>
    rw [hpending] at hbalance
    refine ⟨by simp [heldOf, hpending], ?_⟩
    show state.unsolicited + s.replies + s.endings + s.cut = s.packets + s.orphans
    exact hbalance
  | some packet =>
    rw [hpending] at hbalance
    refine ⟨rfl, ?_⟩
    show state.unsolicited + 1 + s.replies + s.endings + s.cut = s.packets + s.orphans
    have hone : state.unsolicited + s.replies + s.endings + (s.cut + 1) = s.packets + s.orphans :=
      hbalance
    omega

theorem tallies_pumpText (state : PumpState) (text : String) :
    Tallies sio (fun s => ∃ s₀ : FrameTally, Counts state 0 s₀ ∧ s = s₀.readText sio text)
      (pumpText sio state text) TurnCounts := by
  -- what the pump holds is counted before it looks at the text
  let after : PumpState :=
    if state.pending.isSome then ({ state with pending := none } : PumpState).countUnsolicited
    else state
  have hafter : after.pending = none := by
    cases hpending : state.pending with
    | none => simp [after, hpending]
    | some packet => simp [after, hpending, PumpState.countUnsolicited]
  -- Engine.IO's own texts end the packet that was held and carry none
  have hcontrol : ∀ {p : Pump Turn}, isEngineControl text = true →
      Tallies sio (Counts after 0) p TurnCounts →
      Tallies sio (fun s => ∃ s₀ : FrameTally, Counts state 0 s₀ ∧ s = s₀.readText sio text) p
        TurnCounts := by
    rintro p htext hp s ⟨s₀, hcounts, rfl⟩
    rw [FrameTally.readText, if_pos htext]
    exact hp _ hcounts.readText
  refine Triple.ite (fun htwo => ?_) fun htwo => ?_
  · exact hcontrol (by simp [isEngineControl, htwo]) (tallies_answered _ after)
  refine Triple.ite (fun hone => ?_) fun hone => ?_
  · exact hcontrol (by simp [isEngineControl, hone])
      (tallies_endPump (quiet_deliver_close none) after)
  refine Triple.ite (fun hnoop => ?_) fun hnoop => ?_
  · refine hcontrol ?_ (tallies_inl fun _ h => h)
    rcases hnoop with hnoop | hnoop
    · simp [isEngineControl, hnoop]
    · simp [isEngineControl, hnoop]
  have hpacket : ¬isEngineControl text = true := by
    rw [not_or] at hnoop
    simp [isEngineControl, htwo, hone, hnoop.1, hnoop.2]
  rintro s ⟨s₀, hcounts, rfl⟩
  rw [FrameTally.readText, if_neg hpacket]
  cases Packet.parse text with
  | none =>
    have hbalance : after.unsolicited + s₀.replies + s₀.endings + s₀.cut
        = s₀.packets + s₀.orphans := hcounts.readText.balance
    refine ⟨hcounts.readText.held, ?_⟩
    show after.unsolicited + 1 + s₀.replies + s₀.endings + s₀.cut = s₀.packets + 1 + s₀.orphans
    omega
  | some packet => exact tallies_pumpPacket hafter packet _ ⟨s₀, hcounts.readText, rfl⟩

theorem tallies_pumpBinary (state : PumpState) (bytes : Bytes) :
    Tallies sio (fun s => ∃ s₀ : FrameTally, Counts state 0 s₀ ∧ s = s₀.readBinary sio bytes)
      (pumpBinary serde sio state bytes) TurnCounts := by
  rintro s ⟨s₀, hcounts, rfl⟩
  have hbalance : state.unsolicited + s₀.replies + s₀.endings + (s₀.cut + s₀.held.isSome.toNat)
      = s₀.packets + s₀.orphans := hcounts.balance
  have hheld : s₀.held = heldOf state := hcounts.held
  -- without a packet the frame is an orphan; with one it is an attachment, or cuts it
  -- short
  cases hpending : state.pending with
  | none =>
    rw [heldOf, hpending, Option.map_none] at hheld
    rw [hheld] at hbalance
    have hread : s₀.readBinary sio bytes = { s₀ with orphans := s₀.orphans + 1 } := by
      unfold readBinary
      rw [hheld]
    have hpump : pumpBinary serde sio state bytes
        = pure (.inl ({ state with pending := none } : PumpState).countUnsolicited) := by
      unfold pumpBinary
      rw [hpending]
    rw [hread, hpump]
    refine ⟨hheld, ?_⟩
    show state.unsolicited + 1 + s₀.replies + s₀.endings + (s₀.cut + s₀.held.isSome.toNat)
      = s₀.packets + (s₀.orphans + 1)
    have hnone : s₀.held.isSome.toNat = 0 := by rw [hheld]; rfl
    have hone : state.unsolicited + s₀.replies + s₀.endings + s₀.cut = s₀.packets + s₀.orphans :=
      hbalance
    omega
  | some packet =>
    rw [heldOf, hpending] at hheld
    unfold readBinary pumpBinary
    rw [hheld] at hbalance
    rw [hheld, hpending]
    have hone : state.unsolicited + s₀.replies + s₀.endings + (s₀.cut + 1)
        = s₀.packets + s₀.orphans := hbalance
    have hcleared : Counts { state with pending := none } 1 { s₀ with held := none } := by
      refine ⟨rfl, ?_⟩
      show state.unsolicited + 1 + s₀.replies + s₀.endings + s₀.cut = s₀.packets + s₀.orphans
      omega
    cases sio.engine.unwrapBinary bytes with
    | none =>
      refine ⟨rfl, ?_⟩
      show state.unsolicited + 1 + s₀.replies + s₀.endings + (s₀.cut + 1)
        = s₀.packets + (s₀.orphans + 1)
      omega
    | some attachment =>
      have hlength : (packet.attachments ++ [attachment]).length = packet.attachments.length + 1 :=
        List.length_append
      dsimp only [Option.map_some]
      rw [hlength]
      by_cases hmissing : packet.attachments.length + 1 < packet.needed
      · rw [if_pos hmissing, if_pos hmissing]
        refine ⟨?_, ?_⟩
        · show some (packet.needed, packet.attachments.length + 1)
            = some (packet.needed, (packet.attachments ++ [attachment]).length)
          rw [hlength]
        · show state.unsolicited + s₀.replies + s₀.endings + (s₀.cut + 1)
            = s₀.packets + s₀.orphans
          exact hone
      · rw [if_neg hmissing, if_neg hmissing]
        by_cases hack : packet.ack = true ∧ state.awaits packet.id = true
        · rw [if_pos hack]
          refine tallies_deliverReply _ (fun passed => ?_) _ hcleared
          rcases binaryReply_unchanged serde packet.data (packet.attachments ++ [attachment])
            with htext | ⟨reply, -, hbinary⟩
          · rw [htext]; rfl
          · rw [hbinary]; rfl
        · rw [if_neg hack]
          exact hcleared.countUnsolicited

theorem tallies_pumpReceived (state : PumpState) (item : Item) :
    Tallies sio (fun s => ∃ s₀ : FrameTally, Counts state 0 s₀
        ∧ s = s₀.step sio ⟨.select, .received item⟩)
      (pumpReceived serde sio state item) TurnCounts := by
  have hquiet : ∀ {p : Pump Turn}, Quiet ⟨.select, .received item⟩ →
      Tallies sio (Counts state 0) p TurnCounts →
      Tallies sio (fun s => ∃ s₀ : FrameTally, Counts state 0 s₀
        ∧ s = s₀.step sio ⟨.select, .received item⟩) p TurnCounts := by
    rintro p hitem hp s ⟨s₀, hcounts, rfl⟩
    rw [step_quiet s₀ hitem]
    exact hp s₀ hcounts
  cases item with
  | none => exact hquiet ⟨rfl, rfl, rfl⟩ (tallies_inr fun _ h => h.balance)
  | some result =>
    cases result with
    | error err =>
      exact hquiet ⟨rfl, rfl, rfl⟩ (tallies_endPump (quiet_deliver_error err) state)
    | ok message =>
      cases message with
      | text text => exact tallies_pumpText state text
      | binary bytes => exact tallies_pumpBinary state bytes
      | ping bytes => exact hquiet ⟨rfl, rfl, rfl⟩ (tallies_answered _ state)
      | close reason =>
        exact hquiet ⟨rfl, rfl, rfl⟩ (tallies_endPump (quiet_deliver_close reason) state)
      | pong bytes => exact hquiet ⟨rfl, rfl, rfl⟩ (tallies_inl fun _ h => h)
      | frame => exact hquiet ⟨rfl, rfl, rfl⟩ (tallies_inl fun _ h => h)

/-- **One turn of the pump.** -/
theorem tallies_pumpRound (pingEvery : Option Duration) (state : PumpState) :
    Tallies sio (Counts state 0) (pumpRound serde sio pingEvery state) TurnCounts := by
  have hselect : Tallies sio (Counts state 0) PumpAsk.select fun woken s =>
      ∃ s₀ : FrameTally, Counts state 0 s₀ ∧ s = s₀.step sio ⟨.select, woken⟩ :=
    Triple.ask fun s _ hcounts _ => ⟨trivial, s, hcounts, rfl⟩
  refine Triple.bind hselect fun woken => ?_
  have hquiet : ∀ {p : Pump Turn}, Quiet ⟨.select, woken⟩ →
      Tallies sio (Counts state 0) p TurnCounts →
      Tallies sio (fun s => ∃ s₀ : FrameTally, Counts state 0 s₀
        ∧ s = s₀.step sio ⟨.select, woken⟩) p TurnCounts := by
    rintro p hwoken hp s ⟨s₀, hcounts, rfl⟩
    rw [step_quiet s₀ hwoken]
    exact hp s₀ hcounts
  cases woken with
  | ping =>
    refine hquiet ⟨rfl, rfl, rfl⟩ (Triple.ite (fun _ => ?_) fun _ => tallies_inl fun _ h => h)
    refine Triple.bind (tallies_quiet (fun _ => ⟨rfl, rfl, rfl⟩) _) fun result => ?_
    cases result with
    | ok _ => exact tallies_inl fun _ h => h
    | error err => exact tallies_endPump (quiet_deliver_error err) state
  | out message => exact hquiet ⟨rfl, rfl, rfl⟩ (tallies_pumpOut state message)
  | received item => exact tallies_pumpReceived state item

/-- **What the pump leaves out** are the packets that were cut short. -/
theorem balance_pump (pingEvery : Option Duration) {trace : List PumpEvent} {unsolicited : ℕ}
    (hrun : Proc.Runs (pump serde sio pingEvery) trace (some unsolicited)) :
    (ofTrace sio trace).Balance unsolicited := by
  have hpump : Tallies sio (Counts {} 0) (pump serde sio pingEvery) fun count s =>
      s.Balance count :=
    Triple.loop (fun state => Counts state 0) fun state => tallies_pumpRound pingEvery state
  exact (Proc.Monitor.wp_sound (monitor sio) hrun trivial (hpump {} ⟨rfl, rfl⟩)
    (monitor_accepts sio {} trace)).2 unsolicited rfl

end FrameTally

/-- **Every packet that is no reply is counted once, exactly when no packet is
cut short without a text frame**: by a binary frame that is no Engine.IO
message, or by the end of the pump. -/
theorem unsolicited_counted_once_iff (serde : Serde) (sio : SocketIoConfig)
    (pingEvery : Option Duration) {trace : List PumpEvent} {unsolicited : ℕ}
    (hrun : Proc.Runs (pump serde sio pingEvery) trace (some unsolicited)) :
    (FrameTally.ofTrace sio trace).CountedOnce unsolicited
      ↔ (FrameTally.ofTrace sio trace).NoneCutShort :=
  (FrameTally.balance_pump pingEvery hrun).countedOnce_iff

/-- What a server sends to a pump, one frame to a read, before its stream ends. -/
def readAnswers (frames : List Message) (n : ℕ) : (e : PumpEff) → e.Answer
  | .select => .received (frames[n]?.map .ok)
  | .send _ => .ok ()
  | .feed _ => .ok ()
  | .flush => .ok ()
  | .sendIgnored _ => ()
  | .deliver _ => true

/-- A session of version 3. -/
def oldSio : SocketIoConfig := ⟨"/", "echo", none, .v3⟩

/-- A binary event, with its attachment. -/
def binaryEventFrames : List Message := [.text "451-[]", .binary [4, 7]]

theorem binaryEvent_counted_once :
    (FrameTally.ofTrace oldSio
      ((pump plainSerde oldSio none).run (readAnswers binaryEventFrames) 20 0).1).CountedOnce 1 := by
  have hrun := Proc.runs_run (readAnswers binaryEventFrames) 20 0 (pump plainSerde oldSio none)
  have hresult : ((pump plainSerde oldSio none).run (readAnswers binaryEventFrames) 20 0).2
      = some 1 := by decide +kernel
  rw [hresult] at hrun
  exact (unsolicited_counted_once_iff plainSerde oldSio none hrun).mpr (by decide +kernel)

/-- **Packets that are lost**: a binary event is cut short by a frame that is no
Engine.IO 3 message, and only one of the two is counted; and one whose
attachment never comes is not counted when the stream ends. -/
theorem cut_packet_not_counted :
    (∃ trace unsolicited, Proc.Runs (pump plainSerde oldSio none) trace (some unsolicited)
      ∧ ¬(FrameTally.ofTrace oldSio trace).CountedOnce unsolicited
      ∧ unsolicited = 1 ∧ (FrameTally.ofTrace oldSio trace).packets = 1
      ∧ (FrameTally.ofTrace oldSio trace).orphans = 1)
    ∧ ∃ trace unsolicited, Proc.Runs (pump plainSerde plainSio none) trace (some unsolicited)
      ∧ ¬(FrameTally.ofTrace plainSio trace).CountedOnce unsolicited
      ∧ unsolicited = 0 ∧ (FrameTally.ofTrace plainSio trace).packets = 1 := by
  have hcut := Proc.runs_run (readAnswers [.text "451-[]", .binary [5, 7]]) 20 0
    (pump plainSerde oldSio none)
  have hended := Proc.runs_run (readAnswers [.text "451-[]"]) 20 0 (pump plainSerde plainSio none)
  rw [show ((pump plainSerde oldSio none).run
    (readAnswers [.text "451-[]", .binary [5, 7]]) 20 0).2 = some 1 by decide +kernel] at hcut
  rw [show ((pump plainSerde plainSio none).run (readAnswers [.text "451-[]"]) 20 0).2 = some 0
    by decide +kernel] at hended
  refine ⟨⟨_, 1, hcut, ?_, rfl, ?_, ?_⟩, _, 0, hended, ?_, rfl, ?_⟩
  · decide +kernel
  · decide +kernel
  · decide +kernel
  · decide +kernel
  · decide +kernel

end WsBlast
