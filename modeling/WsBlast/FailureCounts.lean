import WsBlast.FleetRuns
import WsBlast.SocketIoRuns

/-!
# Failures are counted once

A session that ends because of a read or write failure should count one error
for it, and one that a server Close frame ends should count none. What ended a
session is what its last read, write or wait came to, and the errors it counts
for that are those it records from then on (`Ledger.cause`, `Ledger.since`).

Every loop does so except the subscription loop of graphql-ws: it records an
`unexpected_close` for a Close frame, and for a read failure it records that
error after the read error. A Socket.IO session does so too, unless its loop
writes into the channel after a server Close frame has ended the pump: the
write fails, and its error stands for the Close.

"Counted once" is a statement about one session: an error for each read or
write that failed, none for a Close that the server sent. Three things are
meant to be left out: a timeout, which is an error of its own kind; the end of
the stream without a Close; and a Close that comes while a handshake is still
awaited, before the session is one.
-/

namespace WsBlast

/-- One error for a failure, and none for a Close frame that comes while no
acknowledgement of a handshake is awaited. -/
def CountedOnce (cause : Option (Ending × Place)) (errors : ℕ) : Prop :=
  match cause with
  | some (.failure, _) => errors = 1
  | some (.close, place) => place ≠ .opening → place ≠ .ack → errors = 0
  | _ => True

/-- A Close frame or a read failure ended the session in the subscription loop
of graphql-ws. -/
def EndedInSubscription (ledger : Ledger) : Prop :=
  ledger.cause = some (.failure, .subscription) ∨ ledger.cause = some (.close, .subscription)

/-- The errors a session counts are right, unless it ended in the subscription
loop. -/
theorem countedOnce_errorsFor_iff (cause : Ending × Place) :
    CountedOnce (some cause) (errorsFor cause)
      ↔ ¬(cause = (.failure, .subscription) ∨ cause = (.close, .subscription)) := by
  obtain ⟨ending, place⟩ := cause
  cases ending <;> cases place <;> simp [CountedOnce, errorsFor]

/-! ## Sessions on a socket -/

/-- A session of any mode but Socket.IO that has ended. -/
structure SessionRun where
  serde : Serde
  config : LoadTestConfig
  workerId : ℕ
  scenario : Option ScenarioPhase
  codec : GraphQLCodec
  plain : config.mode ≠ .socketIo
  events : List Event
  ended : SessionEnd
  accepted : (Ledger.monitor none).Accepts {} events
  runs : Proc.Runs (modeLoop serde config workerId scenario codec) events (some ended)

/-- The session's ledger at its end. -/
def SessionRun.ledger (run : SessionRun) : Ledger := (Ledger.monitor none).after {} run.events

/-- A session starts with nothing recorded. -/
theorem Ledger.running_init : Running none {} {} := ⟨⟨rfl, fun _ => rfl, rfl⟩, rfl, rfl⟩

/-- What ended the session was counted as `errorsFor` says. -/
theorem SessionRun.counted (run : SessionRun) (cause : Ending × Place)
    (hcause : run.ledger.cause = some cause) : run.ledger.since = errorsFor cause := by
  have hwp : (Ledger.monitor none).wp
      (modeLoop run.serde run.config run.workerId run.scenario run.codec)
      (fun _ => Ledger.Due none {} 0) {} :=
    Ledger.holds_modeLoop (by exact nofun) {} Ledger.running_init
  have hdue := ((Ledger.monitor none).wp_sound run.runs Ledger.running_init.toSound hwp
    run.accepted).2 run.ended rfl
  exact hdue.counted cause hcause

/-! ## What a ledger's cause comes from

A failure on record was answered to a read, a write or a wait. -/

namespace Ledger

/-- Only a read, a write or a wait says that something failed. -/
theorem cause_step (s : Ledger) (event : Event) :
    (s.step none event).cause = s.cause
      ∨ ∃ place ending, (s.step none event).cause = ending.map (·, place)
        ∧ (place = .write ∨ place = .opening
          ∨ ∃ wait woken, event = ⟨.select wait, woken⟩ ∧ place = wait.place
            ∧ ending = woken.ending) := by
  -- only sends, connects and waits touch the cause
  obtain ⟨e, answer⟩ := event
  cases e with
  | send message => exact .inr ⟨.write, _, rfl, .inl rfl⟩
  | connect request => exact .inr ⟨.write, none, rfl, .inl rfl⟩
  | sendOrCancelled message =>
    cases answer with
    | none => exact .inr ⟨.write, none, rfl, .inl rfl⟩
    | some result => exact .inr ⟨.write, _, rfl, .inl rfl⟩
  | sendOpening message =>
    cases answer with
    | cancelled => exact .inr ⟨.opening, none, rfl, .inr (.inl rfl)⟩
    | timedOut => exact .inr ⟨.opening, some .timeout, rfl, .inr (.inl rfl)⟩
    | done result => exact .inr ⟨.opening, _, rfl, .inr (.inl rfl)⟩
  | select wait => exact .inr ⟨wait.place, _, rfl, .inr (.inr ⟨wait, answer, rfl, rfl, rfl⟩)⟩
  | claimRequest max =>
    cases answer with
    | false => exact .inl rfl
    | true => exact .inl rfl
  | record r =>
    cases r with
    | error err scope =>
      cases scope with
      | attempt => exact .inl rfl
      | sentMessage => exact .inl rfl
    | _ => exact .inl rfl
  | _ => exact .inl rfl

/-- A wake-up that says that a read failed is that read. -/
theorem read_of_ending {woken : Woken} (h : woken.ending = some .failure) :
    ∃ err, woken = .read (some (.error err)) := by
  cases woken with
  | read item =>
    cases item with
    | none => cases h
    | some result =>
      cases result with
      | error err => exact ⟨err, rfl⟩
      | ok message =>
        cases message with
        | close frame => cases h
        | _ => cases h
  | _ => cases h

/-- **A failure that no write explains was read.** -/
theorem read_of_cause {events : List Event} {place : Place}
    (h : ((monitor none).after {} events).cause = some (.failure, place))
    (hwrite : place ≠ .write) (hopening : place ≠ .opening) :
    ∃ wait err, wait.place = place ∧ ⟨.select wait, .read (some (.error err))⟩ ∈ events := by
  induction events using List.reverseRecOn with
  | nil => cases h
  | append_singleton events event ih =>
    rw [Proc.Monitor.after_append] at h
    obtain hsame | ⟨place', ending, hcause, hplace⟩ :=
      ((monitor none).after {} events).cause_step event
    · obtain ⟨wait, err, hwait, hmem⟩ := ih (hsame.symm.trans h)
      exact ⟨wait, err, hwait, List.mem_append_left _ hmem⟩
    · have heq : ending.map (·, place') = some (.failure, place) := hcause.symm.trans h
      obtain ⟨ending', rfl, hpair⟩ := Option.map_eq_some_iff.mp heq
      obtain ⟨rfl, rfl⟩ := Prod.mk.inj hpair
      obtain rfl | rfl | ⟨wait, woken, rfl, rfl, hending⟩ := hplace
      · exact absurd rfl hwrite
      · exact absurd rfl hopening
      · obtain ⟨err, rfl⟩ := read_of_ending hending.symm
        exact ⟨wait, err, rfl, List.mem_append_right _ List.mem_cons_self⟩

end Ledger

/-! ## Sessions on a channel

What ended a Socket.IO session is what ended its pump, unless the session ended
before it was opened. -/

namespace SocketIoRun

variable (run : SocketIoRun)

/-- What ended a Socket.IO session. A failure of the channel only says that the
pump has ended, so what ended the session is what ended the pump. -/
def cause : Option (Ending × Place) :=
  match run.ledger.cause with
  | some (.failure, .opening) => some (.failure, .opening)
  | some (.failure, place) => run.pumpLedger.cause.map (·, place)
  | cause => cause

/-- The loop's write into the channel failed because a server Close frame had
ended the pump. -/
def WroteAfterClose : Prop :=
  run.ledger.cause = some (.failure, .write) ∧ run.pumpLedger.cause = some .close

/-- What ended the loop was counted as `errorsFor` says. -/
theorem counted (cause : Ending × Place) (hcause : run.ledger.cause = some cause) :
    run.ledger.since = errorsFor cause := by
  have hwp : (Ledger.monitor none).wp
      (runSocketIo run.serde run.config run.workerId run.scenario)
      (fun _ => Ledger.Due none {} 0) {} :=
    Ledger.holds_runSocketIo (by exact nofun) {} Ledger.running_init
  have hdue := ((Ledger.monitor none).wp_sound run.loopRuns Ledger.running_init.toSound hwp
    run.answers).2 run.ended rfl
  exact hdue.counted cause hcause

/-- A failure that the loop read is the pump's. -/
theorem pump_failed {place : Place} (h : run.ledger.cause = some (.failure, place))
    (hwrite : place ≠ .write) (hopening : place ≠ .opening) :
    run.pumpLedger.cause = some .failure := by
  obtain ⟨wait, err, hwait, hmem⟩ := Ledger.read_of_cause h hwrite hopening
  obtain ⟨event, hevent, heq⟩ := List.mem_filterMap.mp hmem
  have hloop : event = .loop ⟨.select wait, .read (some (.error err))⟩ := by
    cases event with
    | loop event => exact congrArg JointEvent.loop (Option.some.inj heq)
    | pump event => cases heq
    | loopDone => cases heq
    | pumpDone unsolicited => cases heq
  subst hloop
  obtain ⟨before, rest, htrace⟩ := List.append_of_mem hevent
  refine run.cause_of_read_error htrace fun timeout hwaits => hopening ?_
  rw [← hwait, hwaits]
  rfl

/-- What a Socket.IO session counts is right, unless its loop ended in a
subscription or wrote into the channel after a server Close. -/
theorem countedOnce_iff :
    CountedOnce run.cause run.ledger.since
      ↔ ¬EndedInSubscription run.ledger ∧ ¬run.WroteAfterClose := by
  unfold cause EndedInSubscription WroteAfterClose
  cases hcause : run.ledger.cause with
  | none => simp [CountedOnce]
  | some cause =>
    have hsince := run.counted cause hcause
    obtain ⟨ending, place⟩ := cause
    rw [hsince]
    cases ending with
    | failure =>
      cases place with
      | opening => simp [CountedOnce, errorsFor]
      | write =>
        -- the write failed because the pump had ended
        cases hpump : run.pumpLedger.cause with
        | none => simp [CountedOnce]
        | some ending => cases ending <;> simp [CountedOnce, errorsFor]
      | ack => simp [run.pump_failed hcause, CountedOnce, errorsFor]
      | reply => simp [run.pump_failed hcause, CountedOnce, errorsFor]
      | reading => simp [run.pump_failed hcause, CountedOnce, errorsFor]
      | subscription => simp [run.pump_failed hcause, CountedOnce, errorsFor]
    | close => cases place <;> simp [CountedOnce, errorsFor]
    | timeout => simp [CountedOnce]
    | ended => simp [CountedOnce]

end SocketIoRun

/-- **Failures are counted once, and a server Close is not an error**, exactly
for the sessions that do not end in the subscription loop of graphql-ws and,
in Socket.IO mode, do not write into the channel after a server Close has
ended the pump. -/
theorem failures_counted_once_iff (run : SessionRun) (sio : SocketIoRun) :
    (CountedOnce run.ledger.cause run.ledger.since ↔ ¬EndedInSubscription run.ledger)
    ∧ (CountedOnce sio.cause sio.ledger.since
      ↔ ¬EndedInSubscription sio.ledger ∧ ¬sio.WroteAfterClose) := by
  refine ⟨?_, sio.countedOnce_iff⟩
  unfold EndedInSubscription
  cases hcause : run.ledger.cause with
  | none => simp [CountedOnce]
  | some cause =>
    rw [run.counted cause hcause, countedOnce_errorsFor_iff, Option.some_inj, Option.some_inj]

/-! ## Sessions that count wrongly

One run for each way, small enough to be evaluated: a subscription that is
closed, a subscription whose read fails, and a Socket.IO session that writes
after the Close. -/

/-- An answer that a session can get, whatever it has recorded. -/
def possible : Event → Bool
  | ⟨.select wait, woken⟩ => wait.has woken
  | ⟨.errorsEmpty, _⟩ => false
  | _ => true

theorem Ledger.accepts_of_possible {events : List Event} (h : events.all possible = true)
    (s : Ledger) : (monitor none).Accepts s events := by
  induction events generalizing s with
  | nil => exact trivial
  | cons event rest ih =>
    rw [List.all_cons, Bool.and_eq_true] at h
    refine ⟨?_, ih h.2 _⟩
    obtain ⟨e, answer⟩ := event
    cases e with
    | select wait => exact h.1
    | errorsEmpty => exact absurd h.1 Bool.false_ne_true
    | _ => exact trivial

/-- A graphql-ws subscription that is acknowledged and then reads `item`. -/
def subscriptionAnswers (item : Item) : ℕ → (e : Eff) → e.Answer :=
  calm fun _ wait => match wait with
    | .ack _ => .read (some (.ok (.text "\x7b\"type\":\"connection_ack\"\x7d")))
    | _ => .read item

/-- A graphql-ws session. -/
def tickConfig : LoadTestConfig :=
  { LoadTestConfig.defaults "ws://localhost:9000/" with
    mode := .graphQLWS
    subprotocol := some "graphql-transport-ws"
    graphqlWs := some ⟨none, "subscription tick", none, none⟩ }

/-- The program of the session. -/
def tickSession : Session SessionEnd :=
  modeLoop { fromStr := fun _ => none, toText := fun _ => "null" } tickConfig 0 none plainCodec

/-- A graphql-ws session that ends with what it reads in the subscription. -/
def subscriptionRun (item : Item)
    (hpossible : ((Proc.run (subscriptionAnswers item) 60 0 tickSession).1.all possible) = true)
    (hended : (Proc.run (subscriptionAnswers item) 60 0 tickSession).2 = some .lost) :
    SessionRun where
  serde := { fromStr := fun _ => none, toText := fun _ => "null" }
  config := tickConfig
  workerId := 0
  scenario := none
  codec := plainCodec
  plain := nofun
  events := (Proc.run (subscriptionAnswers item) 60 0 tickSession).1
  ended := .lost
  accepted := Ledger.accepts_of_possible hpossible {}
  runs := by
    have hrun := Proc.runs_run (subscriptionAnswers item) 60 0 tickSession
    rw [hended] at hrun
    exact hrun

/-- A server Close frame ends the subscription. -/
def closedSubscription : SessionRun :=
  subscriptionRun (some (.ok (.close none))) (by decide +kernel) (by decide +kernel)

/-- A read failure ends the subscription. -/
def failedSubscription : SessionRun :=
  subscriptionRun 
    (some (.error (.io ⟨.connectionReset, "Connection reset by peer", false⟩)))
    (by decide +kernel) (by decide +kernel)

/-- A Socket.IO session of the default namespace. -/
def lateConfig : LoadTestConfig :=
  { LoadTestConfig.defaults "ws://localhost:9000/socket.io/?EIO=4&transport=websocket" with
    mode := .socketIo
    socketio := some ⟨"/", "message", none, .v4⟩
    payload := .staticText "hello" }

/-- JSON texts, of which the session only reads the open packet's. -/
def lateSerde : Serde where
  fromStr text := if text = "\x7b\x7d" then some (.object []) else none
  toText _ := "null"

/-- The session opens, and its first send fails. -/
def lateAnswers (n : ℕ) : (e : Eff) → e.Answer
  | .sendOrCancelled _ => some (.error .connectionClosed)
  | e => calm (fun n _ => .read (some (.ok (.text (if n = 1 then "0\x7b\x7d" else "40"))))) n e

/-- The loop's events, from the opening to the end. -/
def lateLoop : List Event × Option SessionEnd :=
  Proc.run lateAnswers 80 0 (runSocketIo lateSerde lateConfig 0 none)

/-- The pump reads a Close frame at once and passes it on. -/
def latePump : List PumpEvent × Option ℕ :=
  Proc.run (fun _ e => match e with
    | .select => .received (some (.ok (.close none)))
    | .send _ => .ok ()
    | .feed _ => .ok ()
    | .flush => .ok ()
    | .sendIgnored _ => ()
    | .deliver _ => true) 20 0 (pump lateSerde ⟨"/", "message", none, .v4⟩ none)

/-- A Socket.IO session whose server closes right after the opening, before
the loop sends. -/
def lateWrite : SocketIoRun where
  serde := lateSerde
  config := lateConfig
  workerId := 0
  scenario := none
  sio := ⟨"/", "message", none, .v4⟩
  socketio := rfl
  trace := (lateLoop.1.take 5).map .loop ++ latePump.1.map .pump ++ [.pumpDone 0]
    ++ ((lateLoop.1.drop 5).take 8).map .loop ++ [.loopDone]
    ++ ((lateLoop.1.drop 5).drop 8).map .loop
  ended := .lost
  pingEvery := none
  unsolicited := some 0
  accepted := by decide +kernel
  answers := Ledger.accepts_of_possible (by decide +kernel) {}
  loopRuns := by
    have hrun : Proc.Runs _ lateLoop.1 lateLoop.2 :=
      Proc.runs_run lateAnswers 80 0 (runSocketIo lateSerde lateConfig 0 none)
    rw [show lateLoop.2 = some .lost from by decide +kernel] at hrun
    simp only [loopEvents_append, loopEvents_map_loop, loopEvents_map_pump, loopEvents_loopDone,
      loopEvents_pumpDone, List.append_nil]
    rw [List.append_assoc, List.take_append_drop, List.take_append_drop]
    exact hrun
  pumpRuns := by
    have hrun : Proc.Runs _ latePump.1 latePump.2 := Proc.runs_run _ 20 0 _
    rw [show latePump.2 = some 0 from by decide +kernel] at hrun
    simp only [pumpEvents_append, pumpEvents_map_loop, pumpEvents_map_pump, pumpEvents_loopDone,
      pumpEvents_pumpDone, List.append_nil, List.nil_append]
    exact hrun
  pumpEnded := by decide +kernel
  reported := by decide +kernel

/-- **Sessions that miscount**: the subscription loop records one error for a
Close frame and two for a read failure, and a Socket.IO loop that writes after
a server Close records one for the Close. -/
theorem sessions_miscount :
    (closedSubscription.ledger.cause = some (.close, .subscription)
      ∧ closedSubscription.ledger.since = 1
      ∧ ¬CountedOnce closedSubscription.ledger.cause closedSubscription.ledger.since)
    ∧ (failedSubscription.ledger.cause = some (.failure, .subscription)
      ∧ failedSubscription.ledger.since = 2
      ∧ ¬CountedOnce failedSubscription.ledger.cause failedSubscription.ledger.since)
    ∧ lateWrite.cause = some (.close, .write) ∧ lateWrite.ledger.since = 1
      ∧ ¬CountedOnce lateWrite.cause lateWrite.ledger.since := by
  have hclosed : closedSubscription.ledger.cause = some (.close, .subscription) := by
    decide +kernel
  have hone : closedSubscription.ledger.since = 1 := by decide +kernel
  have hfailed : failedSubscription.ledger.cause = some (.failure, .subscription) := by
    decide +kernel
  have htwo : failedSubscription.ledger.since = 2 := by decide +kernel
  have hlate : lateWrite.cause = some (.close, .write) := by decide +kernel
  have hlateOne : lateWrite.ledger.since = 1 := by decide +kernel
  refine ⟨⟨hclosed, hone, ?_⟩, ⟨hfailed, htwo, ?_⟩, hlate, hlateOne, ?_⟩
  · rw [hclosed, hone]
    exact fun h => absurd (h nofun nofun) Nat.one_ne_zero
  · rw [hfailed, htwo]
    exact fun h => absurd (show 2 = 1 from h) (by decide)
  · rw [hlate, hlateOne]
    exact fun h => absurd (h nofun nofun) Nat.one_ne_zero

end WsBlast
