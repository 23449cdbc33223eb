import WsBlast.ModesLedger

/-!
# Every worker settles its slot

A worker that has ended left its connection slot in one of three states:
established, with a handshake recorded; interrupted, without a handshake or an
error; or failed, without a handshake and with at least one failed attempt
(`Settled`). Every session it opened is closed by then. The invariant of the
reconnect loop ties `connected_before` to the handshakes recorded, and the
errors of a slot that never connected to its failed attempts.

A worker is a loop of attempts. Each is a handshake and, when that succeeds, a
session; between two attempts the worker waits, and it stops when the run is
cancelled or when it may not reconnect.
-/

namespace WsBlast

open Proc.Monitor (Triple StepTriple)

namespace Ledger

variable {cap : Option ℕ}

/-- What a slot looks like between two attempts. -/
structure Trying (cap : Option ℕ) (connectedBefore : Bool) (s : Ledger) : Prop
    extends Sound cap s where
  first : s.slot.handshakes = if connectedBefore then 1 else 0
  /-- A slot that never connected has not reconnected. -/
  again : connectedBefore = false → s.slot.reconnects = 0
  /-- An interrupted attempt ends the worker. -/
  undecided : s.slot.interrupted = false
  failures : connectedBefore = false → s.errors = s.slot.failures
  closed : s.slot.isOpen = false

/-- What a slot looks like during a session. -/
structure Opened (cap : Option ℕ) (s : Ledger) : Prop extends Sound cap s where
  first : s.slot.handshakes = 1
  undecided : s.slot.interrupted = false
  opened : s.slot.isOpen = true

/-- How a worker left its slot. -/
inductive Outcome (s : Ledger) : Prop where
  | established (h : s.slot.handshakes = 1) (h' : s.slot.interrupted = false)
  | interrupted (h : s.slot.handshakes = 0) (hr : s.slot.reconnects = 0)
      (h' : s.slot.interrupted = true) (he : s.errors = 0) (hf : s.slot.failures = 0)
  | failed (h : s.slot.handshakes = 0) (hr : s.slot.reconnects = 0)
      (h' : s.slot.interrupted = false) (hf : 0 < s.slot.failures)

/-- A worker has ended. -/
structure Settled (cap : Option ℕ) (s : Ledger) : Prop extends Sound cap s where
  outcome : Outcome s
  closed : s.slot.isOpen = false

/-- A slot after an attempt that did not leave it as it was: it has connected,
or failed at least once. -/
structure Tried (cap : Option ℕ) (connectedBefore : Bool) (s : Ledger) : Prop
    extends Trying cap connectedBefore s where
  some_failure : connectedBefore = false → 0 < s.slot.failures

theorem Tried.settled {connectedBefore : Bool} {s : Ledger} (h : Tried cap connectedBefore s) :
    Settled cap s where
  toSound := h.toSound
  outcome := by
    cases connectedBefore with
    | true => exact .established h.first h.undecided
    | false => exact .failed h.first (h.again rfl) h.undecided (h.some_failure rfl)
  closed := h.closed

theorem Trying.sound {connectedBefore : Bool} (s : Ledger) (h : Trying cap connectedBefore s) :
    Sound cap s := h.toSound

theorem Tried.sound {connectedBefore : Bool} (s : Ledger) (h : Tried cap connectedBefore s) :
    Sound cap s := h.toSound

/-- A session can be opened between two attempts. -/
theorem Trying.turns_open {connectedBefore : Bool} {s : Ledger} (h : Trying cap connectedBefore s) :
    (s.outOfTurn || s.slot.isOpen) = false := by
  rw [h.turns, h.closed]
  rfl

/-- A session is closed: the slot has connected. -/
theorem Opened.closeSession {s : Ledger} (h : Opened cap s) : Tried cap true s.closeSession where
  matched := h.matched
  covered := h.covered
  turns := by
    show (s.outOfTurn || !s.slot.isOpen) = false
    rw [h.turns, h.opened]
    rfl
  first := h.first
  again := nofun
  undecided := h.undecided
  failures := nofun
  closed := rfl
  some_failure := nofun

/-- A failed attempt. -/
theorem Trying.connectionFailed {connectedBefore : Bool} {s : Ledger}
    (h : Trying cap connectedBefore s) (err : ErrorCategory) :
    Tried cap connectedBefore (s.record (.connectionFailed err)) where
  matched := h.matched
  covered := h.covered
  turns := h.turns
  first := h.first
  again := h.again
  undecided := h.undecided
  failures := by
    intro hfirst
    show s.errors + 1 = s.slot.failures + 1
    rw [h.failures hfirst]
  closed := h.closed
  some_failure := fun _ => Nat.succ_pos _

/-! ## One attempt

An attempt ends in three ways: the session is open, the attempt failed, or the
run was cancelled while it was made. -/

/-- What a handshake leaves behind. -/
def AfterHandshake (cap : Option ℕ) (connectedBefore : Bool) : Handshake → Ledger → Prop
  | .opened => fun s => s.cause = none ∧ Opened cap s
  | .failed => Tried cap connectedBefore
  | .stop => Settled cap

/-- The outcome of one attempt to connect does not change the slot. -/
theorem Trying.observe {connectedBefore : Bool} {s : Ledger} (h : Trying cap connectedBefore s)
    (place : Place) (ending : Option Ending) : Trying cap connectedBefore (s.observe place ending) :=
  ⟨⟨h.matched, h.covered, h.turns⟩, h.first, h.again, h.undecided, h.failures,
    h.closed⟩

theorem Trying.currentAction {connectedBefore : Bool} {s : Ledger}
    (h : Trying cap connectedBefore s) (action : Option ℕ) :
    Trying cap connectedBefore (s.record (.currentAction action)) :=
  ⟨⟨h.matched, h.covered, h.turns⟩, h.first, h.again, h.undecided, h.failures,
    h.closed⟩

/-- A cancelled attempt: the slot keeps what it had, and one that had nothing
is interrupted. -/
theorem holds_cancelledAttempt (connectedBefore : Bool) :
    Holds cap (Trying cap connectedBefore) (Worker.cancelledAttempt connectedBefore)
      fun _ => Settled cap := by
  cases connectedBefore with
  | true =>
    exact Triple.pure fun s hs => ⟨hs.toSound, .established hs.first hs.undecided, hs.closed⟩
  | false =>
    have hempty : Holds cap (Trying cap false) Ask.errorsEmpty
        fun empty s => Trying cap false s ∧ empty = decide (s.errors = 0) :=
      Triple.ask fun s empty hs hadm => ⟨hs.toSound, hs, hadm⟩
    refine Triple.bind hempty fun empty => ?_
    refine Triple.ite (fun hnone => ?_) fun hsome => ?_
    · have hrecord : Holds cap (fun s => Trying cap false s ∧ empty = decide (s.errors = 0))
          (Ask.record .interrupted) fun _ => Settled cap := by
        refine Triple.ask fun s _ hs _ => ?_
        have hzero : s.errors = 0 := of_decide_eq_true (hs.2.symm.trans hnone)
        have hsound : Sound cap (s.record .interrupted) := ⟨hs.1.matched, hs.1.covered, hs.1.turns⟩
        refine ⟨hsound, hsound, .interrupted hs.1.first (hs.1.again rfl) rfl hzero ?_, hs.1.closed⟩
        exact (hs.1.failures rfl).symm.trans hzero
      exact hrecord
    · refine Triple.pure fun s hs => ⟨hs.1.toSound, ?_, hs.1.closed⟩
      have herrors : s.errors ≠ 0 := by
        intro hzero
        exact hsome (hs.2.trans (decide_eq_true hzero))
      refine .failed hs.1.first (hs.1.again rfl) hs.1.undecided ?_
      rw [← hs.1.failures rfl]
      exact Nat.pos_of_ne_zero herrors

/-- A completed attempt: the slot's first handshake, or a reconnect. -/
theorem holds_openedAttempt (connectedBefore : Bool) (duration : Duration) :
    Holds cap (fun s => s.cause = none ∧ Trying cap connectedBefore s)
      (Worker.openedAttempt connectedBefore duration) fun _ s => s.cause = none ∧ Opened cap s := by
  cases connectedBefore with
  | true =>
    refine Triple.ask fun s _ hs _ => ?_
    have hopen : Opened cap (s.record (.reconnect duration)) :=
      ⟨⟨hs.2.matched, hs.2.covered, hs.2.turns_open⟩, hs.2.first, hs.2.undecided, rfl⟩
    exact ⟨hopen.toSound, hs.1, hopen⟩
  | false =>
    refine Triple.ask fun s _ hs _ => ?_
    have hfirst : s.slot.handshakes + 1 = 1 := by
      rw [hs.2.first]
      rfl
    have hopen : Opened cap (s.record (.handshake duration)) :=
      ⟨⟨hs.2.matched, hs.2.covered, hs.2.turns_open⟩, hfirst, hs.2.undecided, rfl⟩
    exact ⟨hopen.toSound, hs.1, hopen⟩

variable {worker : Worker}

/-- **Handshakes.** -/
theorem holds_handshake (request : HandshakeRequest) (connectedBefore : Bool) :
    Holds cap (Trying cap connectedBefore) (worker.handshake request connectedBefore)
      (AfterHandshake cap connectedBefore) := by
  have haction : Holds cap (Trying cap connectedBefore) (Ask.record (.currentAction none))
      fun _ => Trying cap connectedBefore :=
    Triple.ask fun s _ hs _ => ⟨⟨hs.matched, hs.covered, hs.turns⟩, hs.currentAction none⟩
  refine Triple.bind haction fun _ => ?_
  refine Triple.bind (holds_now Trying.sound) fun start => ?_
  have hconnect : Holds cap (Trying cap connectedBefore)
      (Ask.connect (worker.withLiveAuth request))
      fun _ s => s.cause = none ∧ Trying cap connectedBefore s :=
    Triple.ask fun s _ hs _ => ⟨⟨hs.matched, hs.covered, hs.turns⟩, rfl, hs.observe _ _⟩
  have hfailed : ∀ err, Holds cap (fun s => s.cause = none ∧ Trying cap connectedBefore s)
      (Ask.record (.connectionFailed err)) fun _ => Tried cap connectedBefore := fun err =>
    Triple.ask fun s _ hs _ => ⟨⟨hs.2.matched, hs.2.covered, hs.2.turns⟩, hs.2.connectionFailed err⟩
  refine Triple.bind hconnect fun outcome => ?_
  cases outcome with
  | cancelled =>
    refine Triple.weaken ?_ (fun s hs => hs.2) fun _ _ h => h
    exact Triple.bind (holds_cancelledAttempt connectedBefore) fun _ => Triple.pure fun _ h => h
  | opened =>
    refine Triple.bind (holds_now fun s hs => Trying.sound s hs.2) fun now => ?_
    exact Triple.bind (holds_openedAttempt connectedBefore _) fun _ => Triple.pure fun _ h => h
  | static category =>
    exact Triple.bind (hfailed category) fun _ => Triple.pure fun _ h => h.settled
  | failed err => exact Triple.bind (hfailed _) fun _ => Triple.pure fun _ h => h
  | timedOut => exact Triple.bind (hfailed _) fun _ => Triple.pure fun _ h => h

/-! ## The loop of attempts

The loop is left with the slot settled, from wherever in it the worker leaves.
-/

/-- A piece of a worker's life: it goes on, or the worker ends with its slot
settled. -/
abbrev KeepsSlot {R : Type} (cap : Option ℕ) (pre : Ledger → Prop) (p : Worker.Life R)
    (post : R → Ledger → Prop) : Prop :=
  StepTriple (monitor cap) pre p post fun _ => Settled cap

theorem keeps_retry (state : WorkerState) :
    KeepsSlot cap (Tried cap state.connectedBefore) (worker.retry state)
      fun state => Trying cap state.connectedBefore := by
  refine StepTriple.ite (fun _ => StepTriple.throw fun _ h => h.settled) fun _ => ?_
  refine StepTriple.bind (StepTriple.lift (holds_isCancelled Tried.sound)) fun _ => ?_
  refine StepTriple.ite (fun _ => StepTriple.throw fun _ h => h.settled) fun _ => ?_
  refine StepTriple.bind (StepTriple.lift (holds_sleep Tried.sound _)) fun _ => ?_
  exact StepTriple.ite (fun _ => StepTriple.pure fun _ h => h.toTrying) fun _ =>
    StepTriple.throw fun _ h => h.settled

/-- A session leaves its slot alone. -/
theorem holds_session
    (hcap : cap.isSome → worker.config.maxRequests = cap
      ∧ runsGraphQL worker.config worker.scenario = false) :
    Holds cap (fun s => s.cause = none ∧ Opened cap s) worker.session
      fun _ => Opened cap := by
  intro s hs
  refine (monitor cap).wp_mono ?_ (holds_modeLoop hcap s ⟨hs.2.toSound, hs.1, rfl⟩)
  intro _ s' hs'
  refine ⟨hs'.toSound, ?_, ?_, ?_⟩
  · rw [hs'.kept]
    exact hs.2.first
  · rw [hs'.kept]
    exact hs.2.undecided
  · rw [hs'.kept]
    exact hs.2.opened

/-- The session on a slot is closed. -/
theorem holds_connectionClosed :
    Holds cap (Opened cap) (Ask.record .connectionClosed) fun _ => Tried cap true :=
  Triple.ask fun _ _ hs _ => ⟨hs.closeSession.toSound, hs.closeSession⟩

theorem keeps_attempt (request : HandshakeRequest)
    (hcap : cap.isSome → worker.config.maxRequests = cap
      ∧ runsGraphQL worker.config worker.scenario = false) (state : WorkerState) :
    KeepsSlot cap (Trying cap state.connectedBefore) (worker.attempt request state)
      fun state => Trying cap state.connectedBefore := by
  refine StepTriple.bind (StepTriple.lift (holds_handshake request _)) fun result => ?_
  cases result with
  | stop => exact StepTriple.throw fun _ h => h
  | failed => exact keeps_retry state
  | opened =>
    refine StepTriple.bind (StepTriple.lift (holds_session hcap)) fun ended => ?_
    refine StepTriple.bind (StepTriple.lift holds_connectionClosed) fun _ => ?_
    exact StepTriple.ite (fun _ => StepTriple.throw fun _ h => h.settled) fun _ =>
      keeps_retry ⟨ReconnectBackoff.new, true⟩

/-- A worker starts with nothing recorded. -/
theorem trying_init : Trying cap false {} :=
  ⟨⟨rfl, fun _ => rfl, rfl⟩, rfl, fun _ => rfl, rfl, fun _ => rfl, rfl⟩

/-- **Every worker settles its slot**, and keeps its ledger sound until
then. -/
theorem holds_run
    (hcap : cap.isSome → worker.config.maxRequests = cap
      ∧ runsGraphQL worker.config worker.scenario = false) :
    Holds cap (Trying cap false) worker.run fun _ => Settled cap := by
  refine Triple.bind (holds_wallClock Trying.sound) fun nowMs => ?_
  cases worker.buildHandshakeRequest nowMs with
  | error category =>
    exact Triple.ask fun s _ hs _ =>
      ⟨⟨hs.matched, hs.covered, hs.turns⟩, (hs.connectionFailed category).settled⟩
  | ok request =>
    show Holds cap ((fun state : WorkerState => Trying cap state.connectedBefore)
      ⟨ReconnectBackoff.new, false⟩) (Proc.forever (worker.attempt request) _) _
    exact Triple.forever (fun state => Trying cap state.connectedBefore)
      fun state => keeps_attempt request hcap state

end Ledger

end WsBlast
