import WsBlast.Worker

/-!
# What a worker's trace adds up to

`Ledger` reads the trace of one worker and keeps what the counts of the
program rest on but do not store:

* the message that a `SentMessage` error may still end, with the action that
  sent it;
* the claims on the request limit that no message has used up yet;
* what the last read, write or wait of the session came to, when it gave the
  session nothing to go on with, and the errors recorded since;
* the handshakes, reconnects and failures of the connection slot, and whether
  a session is open on it.

The ledger is `Sound` as long as every `SentMessage` error ends the message in
flight, every session is opened and closed in its turn and, where sends are
capped, every message sent used up a claim of its own.

A ledger is a ghost: no program reads it. It exists because the properties of a
run that matter are not properties of the counters alone.
-/

namespace WsBlast

/-! ## How a wait comes out

A wait names its branches, and a wake-up that is none of them is not an answer a
trace can hold. -/

/-- The branches of a wait. -/
def Wait.has : Wait → Woken → Bool
  | .slot _, .due => true
  | .slot _, .keepalive => true
  | .slot _, .cancelled => true
  | .reply _, .timedOut => true
  | .reply _, .cancelled => true
  | .reply _, .read _ => true
  | .stream _ _, .due => true
  | .stream _ _, .keepalive => true
  | .stream _ paused, .resume => paused
  | .stream _ paused, .read _ => !paused
  | .stream _ _, .cancelled => true
  | .listen _, .keepalive => true
  | .listen paused, .resume => paused
  | .listen paused, .read _ => !paused
  | .listen _, .cancelled => true
  | .ack _, .cancelled => true
  | .ack _, .timedOut => true
  | .ack _, .keepalive => true
  | .ack _, .read _ => true
  | .subscription _, .cancelled => true
  | .subscription _, .keepalive => true
  | .subscription paused, .resume => paused
  | .subscription paused, .read _ => !paused
  | .opening _, .cancelled => true
  | .opening _, .timedOut => true
  | .opening _, .read _ => true
  | _, _ => false

/-- Where a session was when its connection gave it nothing to go on with. -/
inductive Place where
  /-- In a send. -/
  | write
  /-- Opening a Socket.IO session. -/
  | opening
  /-- Waiting for the `connection_ack` of a graphql-ws session. -/
  | ack
  /-- Waiting for a reply. -/
  | reply
  /-- Reading, in a stream or listen session. -/
  | reading
  /-- Reading, in a graphql-ws subscription. -/
  | subscription
  deriving DecidableEq, Repr

/-- What gave a session nothing to go on with. -/
inductive Ending where
  /-- A read or a write failed. -/
  | failure
  /-- Nothing came in time. -/
  | timeout
  /-- The server sent a Close frame. -/
  | close
  /-- The stream ended without a Close frame. -/
  | ended
  deriving DecidableEq, Repr

/-- Where the reads of a wait happen. -/
def Wait.place : Wait → Place
  | .slot _ => .reply
  | .reply _ => .reply
  | .stream _ _ => .reading
  | .listen _ => .reading
  | .ack _ => .ack
  | .subscription _ => .subscription
  | .opening _ => .opening

/-- What a wake-up says about the connection. -/
def Woken.ending : Woken → Option Ending
  | .timedOut => some .timeout
  | .read none => some .ended
  | .read (some (.error _)) => some .failure
  | .read (some (.ok (.close _))) => some .close
  | _ => none

/-- What the result of a send says about the connection. -/
def sendEnding : Except WsError Unit → Option Ending
  | .ok _ => none
  | .error _ => some .failure

/-! ## The ledger -/

/-- What became of a connection slot so far. -/
@[ext]
structure Slot where
  /-- First handshakes recorded. -/
  handshakes : ℕ := 0
  /-- Handshakes recorded as reconnects. -/
  reconnects : ℕ := 0
  /-- Failed attempts to connect. -/
  failures : ℕ := 0
  /-- The attempt to connect was cut short by the end of the run. -/
  interrupted : Bool := false
  /-- A session was opened and not closed yet. -/
  isOpen : Bool := false
  deriving DecidableEq, Repr

/-- What a worker's trace adds up to. -/
structure Ledger where
  /-- The action the worker is sending for. -/
  action : Option ℕ := none
  /-- The action of the message that may still fail, while there is one. -/
  inFlight : Option (Option ℕ) := none
  /-- A `SentMessage` error came without a message of its action in
  flight. -/
  unmatched : Bool := false
  /-- Claims that no message has used up. -/
  credit : ℕ := 0
  /-- A message was sent without a claim. -/
  uncovered : Bool := false
  /-- What the last read, write or wait came to. -/
  cause : Option (Ending × Place) := none
  /-- Errors recorded since. -/
  since : ℕ := 0
  slot : Slot := {}
  /-- A session was opened while one was open, or closed while none was. -/
  outOfTurn : Bool := false
  /-- All errors. -/
  errors : ℕ := 0
  deriving DecidableEq, Repr

namespace Ledger

/-- An error of either scope. -/
def countError (s : Ledger) : Ledger := { s with since := s.since + 1, errors := s.errors + 1 }

/-- A session is opened. -/
def openSession (s : Ledger) : Ledger :=
  { s with slot.isOpen := true, outOfTurn := s.outOfTurn || s.slot.isOpen }

/-- A session is closed. -/
def closeSession (s : Ledger) : Ledger :=
  { s with slot.isOpen := false, outOfTurn := s.outOfTurn || !s.slot.isOpen }

/-- What a record changes. -/
def record (s : Ledger) : Record → Ledger
  | .handshake _ => { s with slot.handshakes := s.slot.handshakes + 1 }.openSession
  | .reconnect _ => { s with slot.reconnects := s.slot.reconnects + 1 }.openSession
  | .connectionClosed => s.closeSession
  | .connectionFailed _ => { s with slot.failures := s.slot.failures + 1 }.countError
  | .messageSent _ =>
    { s with
      inFlight := some s.action
      credit := s.credit - 1
      uncovered := s.uncovered || s.credit == 0 }
  | .error _ .attempt => s.countError
  | .error _ .sentMessage =>
    { s with
      inFlight := none
      unmatched := s.unmatched || s.inFlight != some s.action }.countError
  | .interrupted => { s with slot.interrupted := true }
  | .currentAction action => { s with action }
  | _ => s

/-- The connection's answer to a read, a write or a wait at `place`. -/
def observe (s : Ledger) (place : Place) (ending : Option Ending) : Ledger :=
  { s with cause := ending.map (·, place), since := 0 }

/-- What an event changes; only claims on the limit `cap` give credit. -/
def step (cap : Option ℕ) (s : Ledger) : Event → Ledger
  | ⟨.record r, _⟩ => s.record r
  | ⟨.claimRequest max, true⟩ => if cap = some max then { s with credit := s.credit + 1 } else s
  | ⟨.send _, result⟩ => s.observe .write (sendEnding result)
  | ⟨.sendOrCancelled _, none⟩ => s.observe .write none
  | ⟨.sendOrCancelled _, some result⟩ => s.observe .write (sendEnding result)
  | ⟨.sendOpening _, .cancelled⟩ => s.observe .opening none
  | ⟨.sendOpening _, .timedOut⟩ => s.observe .opening (some .timeout)
  | ⟨.sendOpening _, .done result⟩ => s.observe .opening (sendEnding result)
  | ⟨.select wait, woken⟩ => s.observe wait.place woken.ending
  | ⟨.connect _, _⟩ => s.observe .write none
  | _ => s

/-- The answers a trace can hold: a wait gives one of its branches, and the
worker's own errors are known. -/
def Admits (s : Ledger) : Event → Prop
  | ⟨.select wait, woken⟩ => wait.has woken = true
  | ⟨.errorsEmpty, empty⟩ => (empty : Bool) = decide (s.errors = 0)
  | _ => True

/-- Every `SentMessage` error ended the message in flight, sessions opened and
closed in their turns and, where sends are capped, every message used up a
claim. -/
structure Sound (cap : Option ℕ) (s : Ledger) : Prop where
  matched : s.unmatched = false
  covered : cap.isSome → s.uncovered = false
  turns : s.outOfTurn = false

/-- The ledger as a reader of traces. -/
def monitor (cap : Option ℕ) : Proc.Monitor Eff Eff.Answer Ledger where
  step := step cap
  Admits := Admits
  Safe := Sound cap

end Ledger

/-! ## What an ending costs

The table of the errors that a session records on its way out, and the
conditions under which its pieces run. -/

/-- The errors a session records once its connection gave it nothing to go on
with. -/
def errorsFor : Ending × Place → ℕ
  | (.failure, .subscription) => 2
  | (.failure, _) => 1
  | (.timeout, _) => 1
  | (.close, .opening) => 1
  | (.close, .ack) => 1
  | (.close, .subscription) => 1
  | (.close, _) => 0
  | (.ended, .reading) => 0
  | (.ended, _) => 1

namespace Ledger

variable {cap : Option ℕ} {slot : Slot}

/-- A session is going on: nothing has ended it. -/
structure Running (cap : Option ℕ) (slot : Slot) (s : Ledger) : Prop extends Sound cap s where
  going : s.cause = none
  kept : s.slot = slot

/-- A claim is there for the next message. -/
structure Claimed (cap : Option ℕ) (slot : Slot) (s : Ledger) : Prop
    extends Running cap slot s where
  claim : cap.isSome → 0 < s.credit

/-- A message is in flight. -/
structure Sent (cap : Option ℕ) (slot : Slot) (s : Ledger) : Prop
    extends Running cap slot s where
  sent : s.inFlight = some s.action

/-- What ended the session will have been counted as `errorsFor` says after
`n` more errors. A session that is over has none due. -/
structure Due (cap : Option ℕ) (slot : Slot) (n : ℕ) (s : Ledger) : Prop
    extends Sound cap s where
  counted : ∀ cause ∈ s.cause, s.since + n = errorsFor cause
  kept : s.slot = slot

/-- An error is due that ends the message in flight. -/
structure SentDue (cap : Option ℕ) (slot : Slot) (n : ℕ) (s : Ledger) : Prop
    extends Due cap slot n s where
  sent : s.inFlight = some s.action

/-- While nothing has ended the session, no error is due. -/
theorem Running.due {s : Ledger} (h : Running cap slot s) (n : ℕ) : Due cap slot n s where
  toSound := h.toSound
  counted := by
    rw [h.going]
    exact nofun
  kept := h.kept

section Observe

variable {s : Ledger}

/-- An answer that lets the session go on. -/
theorem Running.observe (h : Running cap slot s) (place : Place) :
    Running cap slot (s.observe place none) where
  matched := h.matched
  covered := h.covered
  turns := h.turns
  going := rfl
  kept := h.kept

/-- An answer that does not. -/
theorem Running.observe_ending (h : Running cap slot s) (place : Place) (ending : Ending) :
    Due cap slot (errorsFor (ending, place)) (s.observe place (some ending)) where
  matched := h.matched
  covered := h.covered
  turns := h.turns
  counted := by
    rintro cause ⟨⟩
    exact Nat.zero_add _
  kept := h.kept

theorem Sent.observe (h : Sent cap slot s) (place : Place) :
    Sent cap slot (s.observe place none) where
  toRunning := h.toRunning.observe place
  sent := h.sent

theorem Sent.observe_ending (h : Sent cap slot s) (place : Place) (ending : Ending) :
    SentDue cap slot (errorsFor (ending, place)) (s.observe place (some ending)) where
  toDue := h.toRunning.observe_ending place ending
  sent := h.sent

end Observe

section Records

variable {s : Ledger}

/-- An error that was due is recorded. -/
theorem Due.record_attempt {n : ℕ} (h : Due cap slot (n + 1) s) (err : ErrorCategory) :
    Due cap slot n (s.record (.error err .attempt)) where
  matched := h.matched
  covered := h.covered
  turns := h.turns
  counted := by
    intro cause hcause
    rw [← h.counted cause hcause]
    show s.since + 1 + n = s.since + (n + 1)
    rw [Nat.add_right_comm, Nat.add_assoc]
  kept := h.kept

/-- An error that was due ends the message in flight. -/
theorem SentDue.record {n : ℕ} (h : SentDue cap slot (n + 1) s) (err : ErrorCategory) :
    Due cap slot n (s.record (.error err .sentMessage)) where
  matched := by
    show (s.unmatched || s.inFlight != some s.action) = false
    rw [h.matched, h.sent, bne_self_eq_false, Bool.or_false]
  covered := h.covered
  turns := h.turns
  counted := (h.toDue.record_attempt err).counted
  kept := h.kept

/-- An error that ends the message in flight while the session goes on. -/
theorem Sent.record (h : Sent cap slot s) (err : ErrorCategory) :
    Running cap slot (s.record (.error err .sentMessage)) where
  matched := by
    show (s.unmatched || s.inFlight != some s.action) = false
    rw [h.matched, h.sent, bne_self_eq_false, Bool.or_false]
  covered := h.covered
  turns := h.turns
  going := h.going
  kept := h.kept

/-- A message that a claim was made for is sent. -/
theorem Claimed.record (h : Claimed cap slot s) (bytes : ℕ) :
    Sent cap slot (s.record (.messageSent bytes)) where
  matched := h.matched
  covered := by
    intro hcapped
    show (s.uncovered || s.credit == 0) = false
    rw [h.covered hcapped, Bool.false_or, beq_eq_false_iff_ne]
    exact (h.claim hcapped).ne'
  turns := h.turns
  going := h.going
  kept := h.kept
  sent := rfl

end Records

end Ledger

end WsBlast
