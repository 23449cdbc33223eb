import WsBlast.Lib.Checker
import WsBlast.MockReplies
import WsBlast.MockRulesFile

/-!
# What every session of the mock server keeps to

`orderly` reads a session, of whatever mode, event by event: it closes its
connection once, with a frame that it may close with, and then only reads; and
unless it speaks Socket.IO, it counts every frame that it receives or sends
right after it did.

* What a rule closes with was checked when the rules file was read, so every
  Close frame is one that can be sent (`mock_closes_sendable`).
* Once a session is over, what it has counted is what has passed
  (`allCounted_of_runs`).

A session may end in many places: the client goes away, misses a ping, closes;
the server stops; a rule or the end of a replay closes. In all of them the same
two things hold, and they are independent of the mode.
-/

namespace WsBlast

open Proc (Within StepWithin Checker)
open Proc.Checker (Holds Keeps)

/-! ## What is read off a session

The frames a session may close with, and the record a reader keeps. -/

/-- A Close frame that a session may send. -/
def MockConfig.Closes (config : MockConfig) (frame : CloseFrame) : Prop :=
  frame = ⟨1001, "server shutting down"⟩ ∨ frame = ⟨1000, "ping timeout"⟩
    ∨ frame = ⟨1000, "close-after"⟩
    ∨ ∃ rules ∈ config.rules, ∃ rule ∈ rules.rules, rule.close = some frame

/-- What a session has still to count. -/
inductive Owes where
  | nothing
  | received
  | sent
  deriving DecidableEq

/-- What a session has to count after an event. -/
def owesAfter (event : MockEvent) : Owes :=
  if (arrival event).isSome then .received
  else if (sentFrame event).isSome then .sent
  else .nothing

/-- What is known of a session. -/
structure SessionRecord where
  closed : Bool := false
  owes : Owes := .nothing

/-- The connection is closed once, with a frame it may be closed with, and then
only read. -/
def SessionRecord.ClosesOnce (config : MockConfig) (record : SessionRecord) (event : MockEvent) :
    Prop :=
  match event.1 with
  | .close frame => record.closed = false ∧ config.Closes frame
  | .discard => record.closed = true
  | _ => record.closed = false

/-- What has to be counted is, and nothing else. -/
def SessionRecord.CountsAtOnce (record : SessionRecord) (event : MockEvent) : Prop :=
  (record.owes = .received ↔ countsReceived event = true)
    ∧ (record.owes = .sent ↔ countsSent event = true)

/-- Reads of a session whether it has closed, and what it has to count. -/
def orderly (config : MockConfig) : Checker MockEff MockEff.Answer SessionRecord where
  change record event :=
    { closed := match event.1 with
        | .close _ => true
        | _ => record.closed
      owes := owesAfter event }
  Admits := fun _ _ => True
  Fine record event :=
    record.ClosesOnce config event ∧ (config.socketio = none → record.CountsAtOnce event)

/-- A question that neither passes nor counts a frame, nor closes. -/
def MockEff.Quiet : MockEff → Prop
  | .now => True
  | .isCancelled => True
  | .sleepUntil _ => True
  | .finishClose => True
  | _ => False

/-- What is owed once this woke the session up. -/
def MockWoken.owes : MockWoken → Owes
  | .received (some (.ok message)) => if message.isData then .received else .nothing
  | _ => .nothing

/-- What a session may put into its queue: protocol frames only when it speaks
Socket.IO. -/
def MockConfig.Queues (config : MockConfig) : Queued → Prop
  | .frame _ => True
  | .control _ => config.socketio.isSome
  | .close frame => config.Closes frame

/-- Every entry of the queue is one that the session may send. -/
def Outgoing.Fits (config : MockConfig) (outgoing : Outgoing) : Prop :=
  match outgoing with
  | .echo queue => ∀ time item, (time, item) ∈ queue → config.Queues item
  | .replay .. => True

/-- The connection is open, with `owes` to count. -/
def StillOpen (config : MockConfig) (owes : Owes) (record : SessionRecord) : Prop :=
  record.closed = false ∧ (config.socketio = none → record.owes = owes)

/-- A session that goes on, with a queue it may send. -/
def Going (config : MockConfig) (owes : Owes) (state : MockState) (record : SessionRecord) : Prop :=
  StillOpen config owes record ∧ state.outgoing.Fits config

/-- A session with nothing to count that goes on. -/
abbrev Ready (config : MockConfig) (state : MockState) (record : SessionRecord) : Prop :=
  Going config .nothing state record

/-- A session that may end here. -/
def Settled (config : MockConfig) (record : SessionRecord) : Prop :=
  config.socketio = none → record.owes = .nothing

section Sessions

variable {serde : Serde} {config : MockConfig} {epoch : Instant} {engineIo3 : Bool} {sid : String}
  {R : Type}

/-! ## Questions -/

theorem SessionRecord.countsAtOnce_of_nothing {record : SessionRecord} {event : MockEvent}
    (h : record.owes = .nothing) (hreceived : countsReceived event = false)
    (hsent : countsSent event = false) : record.CountsAtOnce event := by
  simp [CountsAtOnce, h, hreceived, hsent]

theorem holds_quiet {p : Mock R} (hp : Within MockEff.Quiet p) :
    (orderly config).Holds (StillOpen config .nothing) p fun _ => StillOpen config .nothing := by
  refine Proc.Monitor.Triple.of_within hp ?_
  rintro ⟨record, ok⟩ e a he ⟨hok, hopen, howes⟩ -
  have hcounts : ∀ event, countsReceived event = false → countsSent event = false →
      config.socketio = none → record.CountsAtOnce event :=
    fun event hreceived hsent h => SessionRecord.countsAtOnce_of_nothing (howes h) hreceived hsent
  cases e with
  | now | isCancelled | sleepUntil _ | finishClose =>
    exact ⟨⟨hok, hopen, hcounts _ rfl rfl⟩, ⟨hok, hopen, hcounts _ rfl rfl⟩, hopen, fun _ => rfl⟩
  | _ => exact absurd he not_false

theorem holds_mockSelect (ping due : Option Instant) :
    (orderly config).Holds (StillOpen config .nothing) (MockAsk.select ping due)
      fun woken => StillOpen config woken.owes := by
  refine Holds.ask fun record woken h _ => ⟨⟨h.1, fun hnone =>
    SessionRecord.countsAtOnce_of_nothing (h.2 hnone) rfl rfl⟩, h.1, fun _ => ?_⟩
  cases woken with
  | received item =>
    rcases item with _ | _ | message
    · rfl
    · rfl
    · by_cases hdata : message.isData = true
      · simp [orderly, owesAfter, arrival, MockWoken.owes, hdata]
      · simp [orderly, owesAfter, arrival, sentFrame, MockWoken.owes, hdata]
  | _ => rfl

theorem holds_send (message : Message) :
    (orderly config).Holds (StillOpen config .nothing) (MockAsk.send message)
      fun sent => StillOpen config (if sent then .sent else .nothing) := by
  refine Holds.ask fun record sent h _ => ⟨⟨h.1, fun hnone =>
    SessionRecord.countsAtOnce_of_nothing (h.2 hnone) rfl rfl⟩, h.1, fun _ => ?_⟩
  cases sent <;> rfl

theorem holds_countReceived :
    (orderly config).Holds (StillOpen config .received) MockAsk.countReceived
      fun _ => StillOpen config .nothing :=
  Holds.ask fun record _ h _ => ⟨⟨h.1, fun hnone => by
    simp [SessionRecord.CountsAtOnce, h.2 hnone, countsReceived, countsSent]⟩, h.1, fun _ => rfl⟩

theorem holds_countSent :
    (orderly config).Holds (StillOpen config .sent) MockAsk.countSent
      fun _ => StillOpen config .nothing :=
  Holds.ask fun record _ h _ => ⟨⟨h.1, fun hnone => by
    simp [SessionRecord.CountsAtOnce, h.2 hnone, countsReceived, countsSent]⟩, h.1, fun _ => rfl⟩

theorem keeps_closeSession {code : ℕ} {reason : String} (h : config.Closes ⟨code, reason⟩)
    {post : R → SessionRecord → Prop} :
    (orderly config).Keeps (StillOpen config .nothing) (closeSession code reason) post
      fun _ => Settled config := by
  let shut (record : SessionRecord) : Prop := record.closed = true ∧ Settled config record
  have hclose : (orderly config).Holds (StillOpen config .nothing) (MockAsk.close code reason)
      fun _ => shut :=
    Holds.ask fun record _ hopen _ => ⟨⟨⟨hopen.1, h⟩, fun hnone =>
      SessionRecord.countsAtOnce_of_nothing (hopen.2 hnone) rfl rfl⟩, rfl, fun _ => rfl⟩
  have hdiscard : (orderly config).Holds shut MockAsk.discard fun _ => shut :=
    Holds.ask fun record _ hshut _ => ⟨⟨hshut.1, fun hnone =>
      SessionRecord.countsAtOnce_of_nothing (hshut.2 hnone) rfl rfl⟩, hshut.1, fun _ => rfl⟩
  have hdrain : (orderly config).Holds shut drain fun _ => shut :=
    Holds.loop (fun _ => shut) fun _ => Holds.bind hdiscard fun more =>
      Holds.ite (fun _ => Holds.pure fun _ h => h) fun _ => Holds.pure fun _ h => h
  exact Keeps.bind (Keeps.lift hclose) fun _ => Keeps.bind (Keeps.lift hdrain) fun _ =>
    Keeps.throw fun _ hshut => hshut.2

/-! ## Parts of the loop

The same about pieces that carry the state of the loop with them. -/

/-- What is said of the record goes through parts that leave the queue
alone. -/
theorem holds_going {owes : Owes} {state : MockState} {p : Mock R} {post : R → Owes}
    (hp : (orderly config).Holds (StillOpen config owes) p fun r => StillOpen config (post r)) :
    (orderly config).Holds (Going config owes state) p fun r => Going config (post r) state := by
  intro s hs
  refine (orderly config).monitor.wp_mono ?_ (hp s ⟨hs.1, hs.2.1⟩)
  exact fun r s' hs' => ⟨hs'.1, hs'.2, hs.2.2⟩

theorem holds_ready {state : MockState} {p : Mock R} (hp : Within MockEff.Quiet p) :
    (orderly config).Holds (Ready config state) p fun _ => Ready config state :=
  holds_going (holds_quiet hp)

theorem keeps_close {code : ℕ} {reason : String} (h : config.Closes ⟨code, reason⟩)
    {state : MockState} {post : R → SessionRecord → Prop} :
    (orderly config).Keeps (Ready config state) (closeSession code reason) post
      fun _ => Settled config :=
  Keeps.weaken (keeps_closeSession h) (fun _ h => h.1) fun _ _ h => h

/-- With Socket.IO, it does not matter what there is to count. -/
theorem Going.any {owes : Owes} {state : MockState} {record : SessionRecord}
    (h : config.socketio.isSome) (hgoing : Going config owes state record) (owes' : Owes) :
    Going config owes' state record :=
  ⟨⟨hgoing.1.1, fun hnone => by simp [hnone] at h⟩, hgoing.2⟩

theorem Going.settled {state : MockState} {record : SessionRecord} (h : Ready config state record) :
    Settled config record := h.1.2

/-! ## The queue

Only frames that the session may send get into the queue. -/

theorem Outgoing.Fits.nextDue {outgoing : Outgoing} (h : outgoing.Fits config)
    (rng : XorShift64) : (outgoing.nextDue config rng).2.1.Fits config := by
  cases outgoing with
  | echo queue => exact h
  | replay frames start due =>
    cases frames with
    | nil => trivial
    | cons frame rest => cases due <;> trivial

theorem Outgoing.Fits.pop {outgoing next : Outgoing} {item : Queued} (h : outgoing.Fits config)
    (hpop : outgoing.pop = some (item, next)) : config.Queues item ∧ next.Fits config := by
  cases outgoing with
  | echo queue =>
    cases queue with
    | nil => cases hpop
    | cons entry rest =>
      obtain ⟨time, first⟩ := entry
      obtain ⟨rfl, rfl⟩ := Prod.mk.inj (Option.some.inj hpop)
      exact ⟨h time first List.mem_cons_self,
        fun time item hmem => h time item (List.mem_cons_of_mem _ hmem)⟩
  | replay frames start due =>
    cases frames with
    | nil => cases hpop
    | cons frame rest =>
      obtain ⟨rfl, rfl⟩ := Prod.mk.inj (Option.some.inj hpop)
      exact ⟨trivial, trivial⟩

theorem Outgoing.Fits.push {outgoing : Outgoing} (h : outgoing.Fits config)
    {items : List Queued} (hitems : ∀ item ∈ items, config.Queues item) (due : Instant) :
    (outgoing.push (items.map fun item => (due, item))).Fits config := by
  cases outgoing with
  | replay frames start due => trivial
  | echo queue =>
    rintro time item hmem
    rcases List.mem_append.mp hmem with hmem | hmem
    · exact h time item hmem
    · obtain ⟨item, hitem, heq⟩ := List.mem_map.mp hmem
      obtain ⟨-, rfl⟩ := Prod.mk.inj heq
      exact hitems item hitem

/-- A decision closes with the frame of a rule. -/
theorem queues_of_mem_entries {message : Message} {seq : ℕ} :
    ∀ item ∈ (config.decision serde message seq).entries message, config.Queues item := by
  unfold MockConfig.decision
  cases hrules : config.rules with
  | none => simp [Decision.entries, MockConfig.Queues]
  | some rules =>
    dsimp only
    rw [Rules.decide_eq]
    cases hrule : rules.rules.find? fun rule => rule.Fits serde message seq with
    | none => cases rules.unmatched <;> simp [Decision.entries, MockConfig.Queues]
    | some rule =>
      rintro item hitem
      rcases List.mem_append.mp hitem with hframe | hclose
      · obtain ⟨reply, -, rfl⟩ := List.mem_map.mp hframe
        trivial
      · obtain ⟨frame, hframe, rfl⟩ := Option.map_eq_some_iff.mp (Option.mem_toList.mp hclose)
        exact .inr (.inr (.inr ⟨rules, hrules, rule, List.mem_of_find?_eq_some hrule, hframe⟩))

/-! ## The loop

From the next event to a whole turn, part by part. -/

theorem keeps_nextEvent (state : MockState) (ping due : Option Instant) :
    (orderly config).Holds (Ready config state) (nextEvent ping due)
      fun woken => Going config woken.owes state := by
  have hselect : ∀ due, (orderly config).Holds (Ready config state) (MockAsk.select ping due)
      fun woken => Going config woken.owes state :=
    fun due => holds_going (holds_mockSelect ping due)
  cases due with
  | none => exact hselect none
  | some due =>
    refine Holds.bind (holds_ready (Within.ask trivial)) fun now => Holds.ite (fun _ => ?_) fun _ =>
      hselect (some due)
    exact Holds.bind (holds_ready (Within.ask trivial)) fun cancelled =>
      Holds.ite (fun _ => Holds.pure fun _ h => h) fun _ => Holds.pure fun _ h => h

theorem keeps_sendPing (state : MockState) :
    (orderly config).Keeps (Ready config state) (sendPing config state) (Ready config)
      fun _ => Settled config := by
  refine Keeps.bind (Keeps.lift (holds_ready (Within.ask trivial))) fun now =>
    Keeps.ite (fun _ => keeps_close (.inr (.inl rfl))) fun _ => ?_
  cases hsocketio : config.socketio with
  | none => exact Keeps.pure fun _ h => h
  | some times =>
    have hspeaks : config.socketio.isSome := Option.isSome_of_mem hsocketio
    cases state.pingAt with
    | none => exact Keeps.pure fun _ h => h
    | some due =>
      refine Keeps.ite (fun _ => ?_) fun _ => Keeps.pure fun _ h => h
      refine Keeps.bind (Keeps.lift (holds_going (holds_send _))) fun sent =>
        Keeps.ite (fun _ => Keeps.pure fun _ h => ?_) fun _ => Keeps.throw fun _ h => ?_
      · exact h.any hspeaks .nothing
      · exact (h.any hspeaks .nothing).settled

theorem keeps_awaitRelease (state : MockState) :
    (orderly config).Keeps (Ready config state) (awaitRelease config epoch)
      (fun _ => Ready config state) fun _ => Settled config := by
  refine Keeps.bind (Keeps.lift (holds_ready (Within.ask trivial))) fun now => ?_
  cases config.stall.bind (·.release epoch now) with
  | none => exact Keeps.pure fun _ h => h
  | some release =>
    exact Keeps.bind (Keeps.lift (holds_ready (Within.ask trivial))) fun going =>
      Keeps.ite (fun _ => Keeps.pure fun _ h => h) fun _ => keeps_close (.inl rfl)

theorem keeps_sendQueued (state : MockState) (item : Queued) (hitem : config.Queues item) :
    (orderly config).Keeps (Ready config state) (sendQueued config state item) (Ready config)
      fun _ => Settled config := by
  cases item with
  | close frame => exact keeps_close hitem
  | control message =>
    refine Keeps.bind (Keeps.lift (holds_going (holds_send message))) fun sent =>
      Keeps.ite (fun _ => Keeps.pure fun _ h => ?_) fun _ => Keeps.throw fun _ h => ?_
    · exact h.any hitem .nothing
    · exact (h.any hitem .nothing).settled
  | frame message =>
    refine Keeps.bind (Keeps.lift (holds_going (holds_send message))) fun sent => ?_
    cases sent with
    | false => exact Keeps.throw fun _ h => h.settled
    | true =>
      exact Keeps.bind (Keeps.lift (holds_going holds_countSent)) fun _ =>
        Keeps.ite (fun _ => keeps_close (.inr (.inr (.inl rfl)))) fun _ => Keeps.pure fun _ h => h

theorem keeps_sendDue (state : MockState) :
    (orderly config).Keeps (Ready config state) (sendDue config epoch state) (Ready config)
      fun _ => Settled config := by
  refine Keeps.bind (keeps_awaitRelease state) fun _ => ?_
  cases hpop : state.outgoing.pop with
  | none => exact Keeps.pure fun _ h => h
  | some popped =>
    obtain ⟨item, outgoing⟩ := popped
    dsimp only
    refine fun s hs => ?_
    obtain ⟨hitem, hqueue⟩ := hs.2.2.pop hpop
    exact keeps_sendQueued { state with outgoing } item hitem s ⟨hs.1, hs.2.1, hqueue⟩

theorem holds_queueReplies (state : MockState) (message : Message) :
    (orderly config).Holds (Ready config state) (queueReplies serde config state message)
      (Ready config) := by
  have hentries : ∀ item ∈ (config.decision serde message state.received).entries message,
      config.Queues item := queues_of_mem_entries
  unfold queueReplies
  generalize config.decision serde message state.received = decision at hentries
  have hqueue : ∀ base : Duration, (orderly config).Holds (Ready config state)
      (MockAsk.now >>= fun now => pure { state with
        rng := (config.replyDelayFrom base state.rng).2
        outgoing := state.outgoing.push ((decision.entries message).map fun item =>
          (now + (config.replyDelayFrom base state.rng).1, item)) })
      (Ready config) :=
    fun base => Holds.bind (holds_ready (Within.ask trivial)) fun now =>
      Holds.pure fun _ h => ⟨h.1, h.2.push hentries _⟩
  cases decision with
  | echo => exact hqueue config.delay
  | ignore => exact Holds.pure fun _ h => h
  | reply frames delay close => exact hqueue (delay.getD config.delay)

/-- What the answer to a Socket.IO packet puts into the queue. -/
def MockAnswer.items (answer : MockAnswer) : List Queued :=
  match answer.event, answer.frames with
  | true, reply :: rest => Queued.frame reply :: rest.map .control
  | _, frames => frames.map .control

/-- Nothing that Socket.IO sends closes the connection. -/
theorem queues_of_mem_items (h : config.socketio.isSome) (answer : MockAnswer) :
    ∀ item ∈ answer.items, config.Queues item := by
  obtain ⟨frames, event⟩ := answer
  cases event <;> cases frames <;> simp [MockAnswer.items, MockConfig.Queues, h]

/-- Queues the answer to a Socket.IO packet, the event's after the delay. -/
def answerPacket (config : MockConfig) (state : MockState) (answer : MockAnswer) : Mock MockState :=
  if answer.event then do
    MockAsk.countReceived
    let state := { state with received := state.received + 1 }
    if state.outgoing.answers then do
      let now ← MockAsk.now
      let (delay, rng) := config.replyDelayFrom config.delay state.rng
      pure { state with
        rng, outgoing := state.outgoing.push (answer.items.map fun item => (now + delay, item)) }
    else pure state
  else if state.outgoing.answers then do
    let now ← MockAsk.now
    pure { state with outgoing := state.outgoing.push (answer.items.map fun item => (now, item)) }
  else pure state

/-- What a session does with a Socket.IO packet that is no heartbeat. -/
def receivePacket (serde : Serde) (config : MockConfig) (sid : String) (state : MockState)
    (message : Message) : Mock MockState :=
  match state.sio.receive serde message sid with
  | (none, sio) => pure { state with sio }
  | (some answer, sio) => answerPacket config { state with sio } answer

theorem receiveSocketIo_eq (interval timeout : Duration) (state : MockState) (message : Message) :
    receiveSocketIo serde config engineIo3 sid interval timeout state message
      = if message = .text "3" then pure { state with pongBy := none }
        else if engineIo3 = true ∧ message = .text "2" then
          MockAsk.now >>= fun now => receivePacket serde config sid
            { state with pongBy := some (now + interval + timeout) } message
        else receivePacket serde config sid state message := by
  rfl

theorem holds_answerPacket (h : config.socketio.isSome) (state : MockState) (answer : MockAnswer) :
    (orderly config).Holds (Ready config state) (answerPacket config state answer)
      (Ready config) := by
  have hitems := queues_of_mem_items h answer
  refine Holds.ite (fun _ => ?_) fun _ => ?_
  · have hcount : (orderly config).Holds (Ready config state) MockAsk.countReceived
        fun _ => Ready config state :=
      Holds.weaken (holds_going holds_countReceived) (fun _ hgoing => hgoing.any h .received)
        fun _ _ hgoing => hgoing
    refine Holds.bind hcount fun _ => Holds.ite (fun _ => ?_) fun _ => Holds.pure fun _ h => h
    exact Holds.bind (holds_ready (Within.ask trivial)) fun now =>
      Holds.pure fun _ h => ⟨h.1, h.2.push hitems _⟩
  · refine Holds.ite (fun _ => ?_) fun _ => Holds.pure fun _ h => h
    exact Holds.bind (holds_ready (Within.ask trivial)) fun now =>
      Holds.pure fun _ h => ⟨h.1, h.2.push hitems _⟩

theorem holds_receivePacket (h : config.socketio.isSome) (state : MockState) (message : Message) :
    (orderly config).Holds (Ready config state) (receivePacket serde config sid state message)
      (Ready config) := by
  unfold receivePacket
  cases state.sio.receive serde message sid with
  | mk answer sio =>
    cases answer with
    | none => exact Holds.pure fun _ h => h
    | some answer => exact holds_answerPacket h { state with sio } answer

theorem holds_receiveData (state : MockState) (message : Message) :
    (orderly config).Holds (Going config .received state)
      (receiveData serde config engineIo3 sid state message) (Ready config) := by
  unfold receiveData
  cases hsocketio : config.socketio with
  | none =>
    exact Holds.bind (holds_going holds_countReceived) fun _ => Holds.ite
      (fun _ => holds_queueReplies { state with received := state.received + 1 } message)
      fun _ => Holds.pure fun _ h => h
  | some times =>
    have hspeaks : config.socketio.isSome := Option.isSome_of_mem hsocketio
    dsimp only
    rw [receiveSocketIo_eq]
    refine Holds.weaken ?_ (fun _ h => h.any hspeaks .nothing) fun _ _ h => h
    refine Holds.ite (fun _ => Holds.pure fun _ h => h) fun _ => Holds.ite (fun _ => ?_) fun _ =>
      holds_receivePacket hspeaks state message
    exact Holds.bind (holds_ready (Within.ask trivial)) fun now =>
      holds_receivePacket hspeaks { state with pongBy := some (now + times.1 + times.2) } message

theorem keeps_receiveItem (state : MockState) (item : Item) :
    (orderly config).Keeps (Going config (MockWoken.received item).owes state)
      (receiveItem serde config engineIo3 sid state item) (Ready config)
      fun _ => Settled config := by
  rcases item with _ | _ | message
  · exact Keeps.throw fun _ h => h.settled
  · exact Keeps.throw fun _ h => h.settled
  cases message with
  | text text => exact Keeps.lift (holds_receiveData state (.text text))
  | binary bytes => exact Keeps.lift (holds_receiveData state (.binary bytes))
  | close frame =>
    exact Keeps.bind (Keeps.lift (holds_ready (Within.ask trivial))) fun _ =>
      Keeps.throw fun _ h => h.settled
  | _ => exact Keeps.pure fun _ h => h

theorem keeps_mockRound (state : MockState) :
    (orderly config).Keeps (Ready config state)
      (mockRound serde config epoch engineIo3 sid state) (Ready config)
      fun _ => Settled config := by
  unfold mockRound
  cases hnext : state.outgoing.nextDue config state.rng with
  | mk due rest =>
    obtain ⟨outgoing, rng⟩ := rest
    dsimp only
    have hready : ∀ record, Ready config state record →
        Ready config { state with outgoing, rng } record := by
      rintro record ⟨hopen, hqueue⟩
      have hrest := hqueue.nextDue state.rng
      rw [hnext] at hrest
      exact ⟨hopen, hrest⟩
    refine Keeps.weaken ?_ hready fun _ _ h => h
    refine Keeps.bind (Keeps.lift (keeps_nextEvent _ _ due)) fun woken => ?_
    cases woken with
    | ping => exact keeps_sendPing { state with outgoing, rng }
    | cancelled => exact keeps_close (.inl rfl)
    | due => exact keeps_sendDue { state with outgoing, rng }
    | received item => exact keeps_receiveItem { state with outgoing, rng } item

theorem holds_startSession (seed : UInt64) (index : ℕ) :
    (orderly config).Holds (StillOpen config .nothing)
      (startSession config engineIo3 sid seed index) (Ready config) := by
  unfold startSession
  cases config.replay with
  | some script =>
    exact Holds.bind (holds_quiet (Within.ask trivial)) fun now =>
      Holds.pure fun _ h => ⟨h, trivial⟩
  | none =>
    cases hsocketio : config.socketio with
    | none => exact Holds.pure fun _ h => ⟨h, by simp [Outgoing.Fits]⟩
    | some times =>
      have hcontrol : ∀ message, config.Queues (.control message) :=
        fun _ => Option.isSome_of_mem hsocketio
      refine Holds.bind (holds_quiet (Within.ask trivial)) fun _ =>
        Holds.ite (fun _ => ?_) fun _ => ?_
      · refine Holds.bind (holds_quiet (Within.ask trivial)) fun _ => ?_
        exact Holds.bind (holds_quiet (Within.ask trivial)) fun _ =>
          Holds.pure fun _ h => ⟨h, by simp [Outgoing.Fits, or_imp, forall_and, hcontrol]⟩
      · exact Holds.bind (holds_quiet (Within.ask trivial)) fun _ =>
          Holds.pure fun _ h => ⟨h, by simp [Outgoing.Fits, hcontrol]⟩

theorem holds_runSession (seed : UInt64) (index : ℕ) :
    (orderly config).Holds (StillOpen config .nothing)
      (runSession serde config epoch engineIo3 seed index) fun _ => Settled config :=
  Holds.bind (holds_startSession seed index) fun _ =>
    Holds.forever (Ready config) fun state => keeps_mockRound state

/-! ## Every run

From the program to its traces, and from traces to the two results. -/

theorem accepts_orderly (record : SessionRecord) (trace : List MockEvent) :
    (orderly config).Accepts record trace := by
  induction trace generalizing record with
  | nil => trivial
  | cons event rest ih => exact ⟨trivial, ih _⟩

theorem orderly_runSession {seed : UInt64} {index : ℕ} {trace : List MockEvent}
    {result : Option Unit}
    (hrun : Proc.Runs (runSession serde config epoch engineIo3 seed index) trace result) :
    (orderly config).AllFine {} trace
      ∧ ∀ r ∈ result, Settled config ((orderly config).after {} trace) :=
  Checker.sound (holds_runSession seed index) ⟨rfl, fun _ => rfl⟩ hrun (accepts_orderly {} trace)

/-- Behind a Close frame there are only reads. -/
theorem discards_of_orderly {record : SessionRecord} {trace : List MockEvent}
    (h : (orderly config).AllFine record trace) (hclosed : record.closed = true) :
    ∀ event ∈ trace, event.1 = .discard := by
  induction trace generalizing record with
  | nil => simp
  | cons event rest ih =>
    obtain ⟨hevent, hrest⟩ := Checker.allFine_cons.mp h
    obtain ⟨e, a⟩ := event
    have hcloses : record.ClosesOnce config ⟨e, a⟩ := hevent.1
    have hdiscard : e = .discard := by
      cases e with
      | discard => rfl
      | close frame => exact absurd (hclosed.symm.trans hcloses.1) (by simp)
      | _ => exact absurd (hclosed.symm.trans hcloses) (by simp)
    subst hdiscard
    rintro other hother
    rcases List.mem_cons.mp hother with rfl | hother
    · rfl
    · exact ih hrest hclosed other hother

/-- The frames a session may close with can be sent, when its rules were
accepted. -/
theorem MockConfig.Closes.sendable {decode : String → Except String RulesFile}
    {text source : String} {frame : CloseFrame} (h : config.Closes frame)
    (hrules : ∀ rules ∈ config.rules, Rules.parse decode text source = .ok rules) :
    frame.Sendable := by
  obtain rfl | rfl | rfl | ⟨rules, hsome, rule, hrule, hframe⟩ := h
  · exact ⟨rfl, by decide⟩
  · exact ⟨rfl, by decide⟩
  · exact ⟨rfl, by decide⟩
  · obtain ⟨spec, hspec⟩ := Rules.follows_of_parse (hrules rules hsome) hrule
    exact hspec.sendable frame hframe

/-- **What the mock server closes with**: in every run of a session, of
whatever mode, every Close frame is one that can be sent, if the rules of the
session came from a rules file that was accepted. Behind it the session only
reads. -/
theorem mock_closes_sendable {decode : String → Except String RulesFile} {text source : String}
    (hrules : ∀ rules ∈ config.rules, Rules.parse decode text source = .ok rules)
    {seed : UInt64} {index : ℕ} {trace : List MockEvent} {result : Option Unit}
    (hrun : Proc.Runs (runSession serde config epoch engineIo3 seed index) trace result)
    {before after : List MockEvent} {frame : CloseFrame}
    (htrace : trace = before ++ ⟨.close frame, ()⟩ :: after) :
    frame.Sendable ∧ ∀ event ∈ after, event.1 = .discard := by
  obtain ⟨hfine, -⟩ := orderly_runSession hrun
  have hclose : SessionRecord.ClosesOnce config _ ⟨.close frame, ()⟩ :=
    (hfine before ⟨.close frame, ()⟩ after htrace).1
  refine ⟨hclose.2.sendable hrules, ?_⟩
  rw [htrace, List.append_cons] at hfine
  refine discards_of_orderly hfine.rest ?_
  rw [Checker.after_append]
  rfl

theorem owesAfter_eq_received {event : MockEvent} :
    owesAfter event = .received ↔ (arrival event).isSome = true := by
  unfold owesAfter
  split_ifs with harrival hsent
  · simp [harrival]
  · simp [harrival]
  · simp [harrival]

theorem owesAfter_eq_sent {event : MockEvent} :
    owesAfter event = .sent ↔ (sentFrame event).isSome = true := by
  have hone : (arrival event).isSome = true → sentFrame event = none := by
    obtain ⟨e, a⟩ := event
    cases e with
    | send message => exact fun h => absurd h (by simp [arrival])
    | _ => exact fun _ => rfl
  unfold owesAfter
  split_ifs with harrival hsent
  · simp [hone harrival]
  · simp [hsent]
  · simp [hsent]

/-- What is counted is what has passed, but for what is still to count. -/
theorem count_of_orderly (hsocketio : config.socketio = none) {record : SessionRecord}
    {trace : List MockEvent} (h : (orderly config).AllFine record trace) :
    trace.countP countsReceived
          + (if ((orderly config).after record trace).owes = .received then 1 else 0)
        = (arrivals trace).length + (if record.owes = .received then 1 else 0)
      ∧ trace.countP countsSent
          + (if ((orderly config).after record trace).owes = .sent then 1 else 0)
        = (sentFrames trace).length + (if record.owes = .sent then 1 else 0) := by
  induction trace generalizing record with
  | nil => exact ⟨rfl, rfl⟩
  | cons event rest ih =>
    obtain ⟨hevent, hrest⟩ := Checker.allFine_cons.mp h
    obtain ⟨hreceived, hsent⟩ := hevent.2 hsocketio
    -- what is owed before and after the event makes up for its counts
    obtain ⟨ihreceived, ihsent⟩ := ih hrest
    have hafter : (orderly config).after record (event :: rest)
        = (orderly config).after ((orderly config).change record event) rest := rfl
    have howes : ((orderly config).change record event).owes = owesAfter event := rfl
    rw [howes] at ihreceived ihsent
    rw [hafter, List.countP_cons, List.countP_cons]
    have harrivals : (arrivals (event :: rest)).length
        = (arrivals rest).length + if (arrival event).isSome = true then 1 else 0 := by
      unfold arrivals
      cases harrival : arrival event <;> simp [harrival]
    have hsends : (sentFrames (event :: rest)).length
        = (sentFrames rest).length + if (sentFrame event).isSome = true then 1 else 0 := by
      unfold sentFrames
      cases hframe : sentFrame event <;> simp [hframe]
    simp only [owesAfter_eq_received, owesAfter_eq_sent] at ihreceived ihsent
    simp only [hreceived, hsent, harrivals, hsends]
    exact ⟨by omega, by omega⟩

/-- **What a session has counted**, once it is over, is what has passed. -/
theorem allCounted_of_runs (hsocketio : config.socketio = none) {seed : UInt64} {index : ℕ}
    {trace : List MockEvent}
    (hrun : Proc.Runs (runSession serde config epoch engineIo3 seed index) trace (some ())) :
    AllCounted trace := by
  obtain ⟨hfine, hsettled⟩ := orderly_runSession hrun
  have hnothing : ((orderly config).after {} trace).owes = .nothing := hsettled () rfl hsocketio
  obtain ⟨hreceived, hsent⟩ := count_of_orderly hsocketio hfine
  rw [hnothing] at hreceived hsent
  exact ⟨hreceived, hsent⟩

end Sessions

/-- A rules file that closes with 4000 after the first frame. -/
def goodbyeFile : RulesFile where
  version := "1.0"
  rules := [{ close := some (.full 4000 "bye") }]

/-- The rules of that file. -/
def goodbyeRules : Rules where
  rules := [⟨.any, 1, [], none, some ⟨4000, "bye"⟩⟩]
  unmatched := .echo

/-- A session that follows them at once. -/
def goodbyeConfig : MockConfig where
  delay := 0
  jitter := 0
  closeAfter := none
  stall := none
  replay := none
  rules := some goodbyeRules
  socketio := none
  closes := by decide
  noRulesOrReplay := nofun
  noRules := nofun

theorem mock_closes_sendable_goodbye :
    let trace := ((runSession silentSerde goodbyeConfig 0 false 7 0).run stalledAnswers 60 0).1
    trace = trace.take 6 ++ ⟨.close ⟨4000, "bye"⟩, ()⟩ :: [⟨.discard, false⟩]
      ∧ CloseFrame.Sendable ⟨4000, "bye"⟩
      ∧ ∀ event ∈ [(⟨.discard, false⟩ : MockEvent)], event.1 = .discard := by
  intro trace
  have hrules : ∀ rules ∈ goodbyeConfig.rules,
      Rules.parse (fun _ => .ok goodbyeFile) "" "rules.yaml" = .ok rules := by
    rintro rules hsome
    obtain rfl := Option.some.inj hsome
    rfl
  have hrun := Proc.runs_run stalledAnswers 60 0 (runSession silentSerde goodbyeConfig 0 false 7 0)
  have htrace : trace = trace.take 6 ++ ⟨.close ⟨4000, "bye"⟩, ()⟩ :: [⟨.discard, false⟩] := rfl
  exact ⟨htrace, mock_closes_sendable hrules hrun htrace⟩

end WsBlast
