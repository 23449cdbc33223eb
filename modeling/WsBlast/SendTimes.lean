import WsBlast.EchoCounts

/-!
# When a paced worker sends

`SendTimes` reads the trace of an echo worker and keeps the schedule a paced
session owes its requests: slot `n` is due at the session's start, `n` periods
later, moved by every delay and read pause injected so far (`SendTimes.dueAt`).
A deliberate pause of a script starts the schedule anew where it ends. The
worker's own `SendSchedule` is never anywhere else between two requests
(`Idle`), so it waits for that instant, sends no sooner and measures every
response time from it (`send_times`).

A load generator that waits for a slow reply before it sends its next request
hides the delay it was meant to measure. The program avoids this by a schedule
that does not move: a request is due at its slot whatever became of the one
before, a late one is sent at once, and its response time counts from when it
was due. What may move the schedule are the pauses that the user asked for. A
delay or a read pause of chaos shifts the slots by its length, and a pause
between actions starts them anew.
-/

namespace WsBlast

open Proc (Within StepWithin)
open Proc.Monitor (Triple StepTriple)

/-! ## The schedule that is owed -/

/-- A sleep that chaos injects. -/
inductive Injected where
  | delay
  | readPause
  deriving DecidableEq

/-- What the trace of a worker shows of its send times. -/
structure SendTimes where
  /-- The latest reading of the clock, or a moment a timer did not end before. -/
  clock : Instant := 0
  /-- A session was opened, and its schedule was not started yet. -/
  opening : Bool := false
  /-- A deliberate pause was taken, and the schedule was not started anew
  yet. -/
  resting : Bool := false
  /-- Why the next sleep is taken, when chaos injects it. -/
  injecting : Option Injected := none
  /-- Where the schedule starts. -/
  origin : Instant := 0
  /-- The slots used up since then. -/
  slot : ℕ := 0
  /-- The delays injected since then. -/
  delays : Duration := 0
  /-- The read pauses taken since then. -/
  pauses : Duration := 0
  /-- When the latest request was due. -/
  due : Instant := 0
  /-- When it was sent. -/
  sentAt : Instant := 0
  /-- Its round-trip time. -/
  rtt : Duration := 0
  /-- Every event so far came when it should. -/
  kept : Prop := True

namespace SendTimes

section Ledger

variable (restarts : Bool) (period : Duration) (s : SendTimes)

/-- When the request of the current slot is due. -/
def dueAt : Instant := s.origin + s.slot * period + s.delays + s.pauses

/-- **What a schedule owes**: the wait for a slot lasts until the slot is due,
no request is sent before it is due, and a response time is the round-trip
time plus how late the request was sent, less the timer's slack. -/
def OnTime : Event → Prop
  | ⟨.select (.slot due), _⟩ => due = s.dueAt period
  | ⟨.sleep (.until due), _⟩ => due = s.dueAt period
  | ⟨.sendOrCancelled _, _⟩ => s.dueAt period ≤ s.clock
  | ⟨.send message, _⟩ => message.isData = true → s.dueAt period ≤ s.clock
  | ⟨.record (.responseTime _ duration), _⟩ =>
    duration = s.rtt + (s.sentAt - s.due - timerSlack)
  | _ => True

/-- The schedule starts at `origin`. -/
def startAt (origin : Instant) : SendTimes :=
  { s with origin, slot := 0, delays := 0, pauses := 0, opening := false, resting := false }

/-- The clock is read. -/
def read (time : Instant) : SendTimes :=
  let s' := { s with clock := time }
  if s.opening then s'.startAt time
  else if s.resting then s'.startAt (max (s.dueAt period) time)
  else s'

/-- A sleep of `duration` is over. -/
def slept (duration : Duration) : SendTimes :=
  let s' := { s with clock := s.clock + duration, injecting := none }
  match s.injecting with
  | some .delay => { s' with delays := s.delays + duration }
  | some .readPause => { s' with pauses := s.pauses + duration }
  | none => { s' with resting := restarts }

/-- What an event changes. -/
def change : Event → SendTimes
  | ⟨.now, time⟩ => s.read period time
  | ⟨.sleep (.after duration), true⟩ => s.slept restarts duration
  | ⟨.sleep (.until due), true⟩ => { s with clock := max s.clock due }
  | ⟨.select (.slot due), .due⟩ => { s with clock := max s.clock due }
  | ⟨.sendOrCancelled _, _⟩ => { s with due := s.dueAt period, sentAt := s.clock }
  | ⟨.send _, _⟩ => { s with due := s.dueAt period, sentAt := s.clock }
  | ⟨.record (.handshake _), _⟩ => { s with opening := true, resting := false, injecting := none }
  | ⟨.record (.reconnect _), _⟩ => { s with opening := true, resting := false, injecting := none }
  | ⟨.record .chaosDelayed, _⟩ => { s with injecting := some .delay }
  | ⟨.record .chaosReadPause, _⟩ => { s with injecting := some .readPause }
  | ⟨.record .chaosDropped, _⟩ => { s with slot := s.slot + 1 }
  | ⟨.record (.messageRecv _ _ (some rtt)), _⟩ => { s with slot := s.slot + 1, rtt }
  | _ => s

/-- The ledger after an event. -/
def step (event : Event) : SendTimes :=
  { s.change restarts period event with kept := s.kept ∧ s.OnTime period event }

/-- Whether an answer is possible: the clock does not go back. -/
def possible : Event → Bool
  | ⟨.now, time⟩ => Nat.ble s.clock time
  | _ => true

end Ledger

/-- The ledger as a reader of traces. Deliberate pauses start the schedule anew
when `restarts` says so. -/
def monitor (restarts : Bool) (period : Duration) : Proc.Monitor Eff Eff.Answer SendTimes where
  step := step restarts period
  Admits := fun s event => s.possible event = true
  Safe := fun s => s.kept

instance decidableAdmits (restarts : Bool) (period : Duration) (s : SendTimes) (event : Event) :
    Decidable ((monitor restarts period).Admits s event) :=
  inferInstanceAs (Decidable (s.possible event = true))

section Kept

variable {restarts : Bool} {period : Duration}

theorem kept_of_after (trace : List Event) (s : SendTimes)
    (h : ((monitor restarts period).after s trace).kept) : s.kept := by
  induction trace generalizing s with
  | nil => exact h
  | cons event rest ih => exact (ih _ h).1

/-- Every event of a trace that was kept came when it should. -/
theorem onTime_of_kept {trace before after : List Event} {event : Event} {s : SendTimes}
    (h : ((monitor restarts period).after s trace).kept) (htrace : trace = before ++ event :: after) :
    ((monitor restarts period).after s before).OnTime period event := by
  subst htrace
  have hsplit : (monitor restarts period).after s (before ++ event :: after)
      = (monitor restarts period).after
        (((monitor restarts period).after s before).step restarts period event) after :=
    List.foldl_append
  rw [hsplit] at h
  exact (kept_of_after after _ h).2

end Kept

/-! ## The states between two questions

From the opening of a session to the end of a request, and how each is reached
from the one before. -/

section States

variable {restarts : Bool} {period : Duration} {schedule : Option SendSchedule} {s : SendTimes}

/-- In a session whose schedule was started. -/
structure Going (s : SendTimes) : Prop where
  kept : s.kept
  opening : s.opening = false
  resting : s.resting = false
  injecting : s.injecting = none

/-- Between two requests: the worker's schedule is the one it owes. -/
structure Idle (period : Duration) (schedule : Option SendSchedule) (s : SendTimes) : Prop
    extends Going s where
  schedule : schedule = some ⟨period, s.dueAt period⟩

/-- The slot of the next request has come. -/
structure Ready (period : Duration) (schedule : Option SendSchedule) (s : SendTimes) : Prop
    extends Idle period schedule s where
  come : s.dueAt period ≤ s.clock

/-- A request was sent. -/
structure Sent (period : Duration) (schedule : Option SendSchedule) (request : Request)
    (s : SendTimes) : Prop extends Idle period schedule s where
  due : request.due = some s.due
  startTime : request.startTime = s.sentAt

/-- Its reply was received. -/
structure Received (period : Duration) (schedule : Option SendSchedule) (request : Request)
    (rtt : Duration) (s : SendTimes) : Prop extends Going s where
  schedule : schedule.map (·.advance) = some ⟨period, s.dueAt period⟩
  due : request.due = some s.due
  startTime : request.startTime = s.sentAt
  rtt : s.rtt = rtt

/-- A request is settled; its slot is used up. -/
structure Settled (period : Duration) (schedule : Option SendSchedule) (s : SendTimes) : Prop
    extends Going s where
  schedule : schedule.map (·.advance) = some ⟨period, s.dueAt period⟩

/-- After a deliberate pause. -/
structure Resting (period : Duration) (schedule : Option SendSchedule) (s : SendTimes) : Prop where
  kept : s.kept
  opening : s.opening = false
  resting : s.resting = true
  injecting : s.injecting = none
  schedule : schedule = some ⟨period, s.dueAt period⟩

/-- A session was opened. -/
structure Opening (s : SendTimes) : Prop where
  kept : s.kept
  opening : s.opening = true
  injecting : s.injecting = none

/-- The ledger at a later moment. -/
def later (s : SendTimes) (clock : Instant) : SendTimes := { s with clock, kept := s.kept ∧ True }

/-- The ledger before a sleep that chaos injects. -/
def inject (s : SendTimes) (injected : Injected) : SendTimes :=
  { s with injecting := some injected, kept := s.kept ∧ True }

/-- The ledger after a delay. -/
def delayed (s : SendTimes) (delay : Duration) : SendTimes :=
  { s with clock := s.clock + delay, delays := s.delays + delay, kept := (s.kept ∧ True) ∧ True }

/-- The ledger after a read pause. -/
def paused (s : SendTimes) (pause : Duration) : SendTimes :=
  { s with clock := s.clock + pause, pauses := s.pauses + pause, kept := (s.kept ∧ True) ∧ True }

theorem dueAt_delayed (s : SendTimes) (delay : Duration) :
    (s.delayed delay).dueAt period = s.dueAt period + delay :=
  (congrArg (· + s.pauses) (Nat.add_assoc _ _ _).symm).trans (Nat.add_right_comm _ _ _)

theorem dueAt_paused (s : SendTimes) (pause : Duration) :
    (s.paused pause).dueAt period = s.dueAt period + pause := (Nat.add_assoc _ _ _).symm

/-- The slot after this one is a period later. -/
theorem dueAt_succ (origin slot period delays pauses : ℕ) :
    origin + (slot + 1) * period + delays + pauses
      = origin + slot * period + delays + pauses + period := by
  rw [Nat.succ_mul]
  omega

/-- What holds at any later moment of a session. -/
structure Lasting (pre : SendTimes → Prop) : Prop where
  going : ∀ s, pre s → Going s
  later : ∀ s clock, pre s → s.clock ≤ clock → pre (s.later clock)

theorem Going.later (h : Going s) (clock : Instant) : Going (s.later clock) :=
  ⟨⟨h.kept, trivial⟩, h.opening, h.resting, h.injecting⟩

theorem lasting_idle : Lasting (Idle period schedule) where
  going := fun _ h => h.toGoing
  later := fun _ clock h _ => ⟨h.toGoing.later clock, h.schedule⟩

theorem lasting_ready : Lasting (Ready period schedule) where
  going := fun _ h => h.toGoing
  later := fun _ clock h hle => ⟨⟨h.toGoing.later clock, h.schedule⟩, h.come.trans hle⟩

theorem lasting_sent {request : Request} : Lasting (Sent period schedule request) where
  going := fun _ h => h.toGoing
  later := fun _ clock h _ => ⟨⟨h.toGoing.later clock, h.schedule⟩, h.due, h.startTime⟩

theorem lasting_received {request : Request} {rtt : Duration} :
    Lasting (Received period schedule request rtt) where
  going := fun _ h => h.toGoing
  later := fun _ clock h _ => ⟨h.toGoing.later clock, h.schedule, h.due, h.startTime, h.rtt⟩

theorem lasting_settled : Lasting (Settled period schedule) where
  going := fun _ h => h.toGoing
  later := fun _ clock h _ => ⟨h.toGoing.later clock, h.schedule⟩

/-- The next slot's schedule. -/
theorem Settled.idle (h : Settled period schedule s) :
    Idle period (schedule.map (·.advance)) s := ⟨h.toGoing, h.schedule⟩

theorem Idle.map_nextDue (h : Idle period schedule s) :
    schedule.map (·.nextDue) = some (s.dueAt period) := by rw [h.schedule]; rfl

/-- A slot that nothing is sent in. -/
theorem Ready.chaosDropped (h : Ready period schedule s) :
    Settled period schedule (s.step restarts period ⟨.record .chaosDropped, ()⟩) where
  kept := ⟨h.kept, trivial⟩
  opening := h.opening
  resting := h.resting
  injecting := h.injecting
  schedule := by
    rw [h.schedule]
    show some (SendSchedule.mk period (s.dueAt period + period)) = _
    exact congrArg (fun due => some (SendSchedule.mk period due)) (dueAt_succ _ _ _ _ _).symm

/-- A delay moves the slot and the clock. -/
theorem Ready.delayed (h : Ready period schedule s) (delay : Duration) :
    Ready period (schedule.map (·.shift delay)) (s.delayed delay) where
  kept := ⟨⟨h.kept, trivial⟩, trivial⟩
  opening := h.opening
  resting := h.resting
  injecting := h.injecting
  schedule := by
    rw [h.schedule, dueAt_delayed]
    rfl
  come := by
    rw [dueAt_delayed]
    exact Nat.add_le_add_right h.come delay

/-- A read pause moves the slot. -/
theorem Idle.paused (h : Idle period schedule s) (pause : Duration) :
    Idle period (schedule.map (·.shift pause)) (s.paused pause) where
  kept := ⟨⟨h.kept, trivial⟩, trivial⟩
  opening := h.opening
  resting := h.resting
  injecting := h.injecting
  schedule := by
    rw [h.schedule, dueAt_paused]
    rfl

/-- A read pause before the schedule moves on to the next slot. -/
theorem Settled.paused (h : Settled period schedule s) (pause : Duration) :
    Settled period (schedule.map (·.shift pause)) (s.paused pause) where
  kept := ⟨⟨h.kept, trivial⟩, trivial⟩
  opening := h.opening
  resting := h.resting
  injecting := h.injecting
  schedule := by
    have hcomm : (schedule.map (·.shift pause)).map (·.advance)
        = (schedule.map (·.advance)).map (·.shift pause) := by
      cases schedule with
      | none => rfl
      | some next =>
        exact congrArg (fun due => some (SendSchedule.mk next.period due))
          (Nat.add_right_comm _ _ _)
    rw [hcomm, h.schedule, dueAt_paused]
    rfl

/-- The reply is received: the slot is used up. -/
theorem Sent.messageRecv {request : Request} (h : Sent period schedule request s) (now : Instant)
    (bytes : ℕ) (rtt : Duration) :
    Received period schedule request rtt
      (s.step restarts period ⟨.record (.messageRecv now bytes (some rtt)), ()⟩) where
  kept := ⟨h.kept, trivial⟩
  opening := h.opening
  resting := h.resting
  injecting := h.injecting
  schedule := by
    rw [h.schedule]
    show some (SendSchedule.mk period (s.dueAt period + period)) = _
    exact congrArg (fun due => some (SendSchedule.mk period due)) (dueAt_succ _ _ _ _ _).symm
  due := h.due
  startTime := h.startTime
  rtt := rfl

/-- The schedule starts anew after a deliberate pause. -/
theorem Resting.restart (h : Resting period schedule s) (now : Instant) :
    Idle period (schedule.map (·.restartAfterPause now))
      (s.step restarts period ⟨.now, now⟩) := by
  have hread : s.step restarts period ⟨.now, now⟩
      = { ({ s with clock := now }).startAt (max (s.dueAt period) now) with
          kept := s.kept ∧ True } := by
    show { s.read period now with kept := s.kept ∧ True } = _
    unfold read
    rw [if_neg (by rw [h.opening]; exact Bool.false_ne_true), if_pos h.resting]
  rw [hread]
  refine ⟨⟨⟨h.kept, trivial⟩, rfl, rfl, h.injecting⟩, ?_⟩
  rw [h.schedule]
  show some (SendSchedule.mk period (max (s.dueAt period) now))
    = some ⟨period, max (s.dueAt period) now + 0 * period + 0 + 0⟩
  rw [Nat.zero_mul]
  rfl

/-- The schedule of a session starts with it. -/
theorem Opening.start (h : Opening s) (now : Instant) :
    Idle period (some ⟨period, now⟩) (s.step restarts period ⟨.now, now⟩) := by
  have hread : s.step restarts period ⟨.now, now⟩
      = { ({ s with clock := now }).startAt now with kept := s.kept ∧ True } := by
    show { s.read period now with kept := s.kept ∧ True } = _
    unfold read
    rw [if_pos h.opening]
  rw [hread]
  refine ⟨⟨⟨h.kept, trivial⟩, rfl, rfl, h.injecting⟩, ?_⟩
  show some (SendSchedule.mk period now) = some ⟨period, now + 0 * period + 0 + 0⟩
  rw [Nat.zero_mul]
  rfl

end States

/-! ## What the parts of the session do

Two kinds of questions are told apart: those that leave the schedule alone, and
those that no schedule says when to ask. -/

section Parts

variable {restarts : Bool} {period : Duration} {R : Type} {pre : SendTimes → Prop}
  {serde : Serde} {config : LoadTestConfig} {scenario : Option ScenarioPhase} {workerId : ℕ}
  {schedule : Option SendSchedule}

/-- A program of a session that cannot leave. -/
abbrev Holds (restarts : Bool) (period : Duration) (pre : SendTimes → Prop) (p : Session R)
    (post : R → SendTimes → Prop) : Prop :=
  Triple (monitor restarts period) pre p post

/-- A piece of a session: it goes on in `post`, or the session is over with
everything kept. -/
abbrev Keeps (restarts : Bool) (period : Duration) (pre : SendTimes → Prop) (p : Round R)
    (post : R → SendTimes → Prop) : Prop :=
  StepTriple (monitor restarts period) pre p post fun _ s => s.kept

/-- Questions that no schedule says when to ask. -/
def Unscheduled : Eff → Prop
  | .select (.slot _) => False
  | .sleep (.until _) => False
  | .sendOrCancelled _ => False
  | .send _ => False
  | .record (.responseTime _ _) => False
  | _ => True

/-- Questions that leave the schedule of a session alone. -/
def Untimed : Eff → Prop
  | .select (.slot _) => False
  | .sleep _ => False
  | .sendOrCancelled _ => False
  | .send _ => False
  | .record (.handshake _) => False
  | .record (.reconnect _) => False
  | .record .chaosDelayed => False
  | .record .chaosReadPause => False
  | .record .chaosDropped => False
  | .record (.messageRecv _ _ _) => False
  | .record (.responseTime _ _) => False
  | _ => True

theorem untimed_of_quiet (e : Eff) (h : e.Quiet) : Untimed e := by
  cases e with
  | record r => cases r <;> trivial
  | select wait => exact absurd h not_false
  | sleep timer => exact absurd h not_false
  | sendOrCancelled message => exact absurd h not_false
  | send message => exact absurd h not_false
  | _ => trivial

theorem unscheduled_of_quiet (e : Eff) (h : e.Quiet) : Unscheduled e := by
  cases e with
  | record r => cases r <;> trivial
  | select wait => exact absurd h not_false
  | sleep timer => exact absurd h not_false
  | sendOrCancelled message => exact absurd h not_false
  | send message => exact absurd h not_false
  | _ => trivial

theorem onTime_of_unscheduled (s : SendTimes) (e : Eff) (a : e.Answer) (h : Unscheduled e) :
    s.OnTime period ⟨e, a⟩ := by
  cases e with
  | record r =>
    cases r with
    | responseTime now duration => exact absurd h not_false
    | _ => trivial
  | select wait =>
    cases wait with
    | slot due => exact absurd h not_false
    | _ => trivial
  | sleep timer =>
    cases timer with
    | «until» due => exact absurd h not_false
    | _ => trivial
  | sendOrCancelled message => exact absurd h not_false
  | send message => exact absurd h not_false
  | _ => trivial

/-- **What an untimed question does in a session**: at most the clock moves. -/
theorem step_of_untimed {s : SendTimes} (hs : Going s) (e : Eff) (a : e.Answer) (h : Untimed e)
    (hadm : s.possible ⟨e, a⟩ = true) :
    ∃ clock, s.clock ≤ clock ∧ s.step restarts period ⟨e, a⟩ = s.later clock := by
  cases e with
  | now =>
    refine ⟨a, Nat.le_of_ble_eq_true hadm, ?_⟩
    show { s.read period a with kept := s.kept ∧ True } = _
    unfold read
    rw [if_neg (by rw [hs.opening]; exact Bool.false_ne_true),
      if_neg (by rw [hs.resting]; exact Bool.false_ne_true)]
    rfl
  | record r =>
    cases r with
    | handshake duration => exact absurd h not_false
    | reconnect duration => exact absurd h not_false
    | chaosDelayed => exact absurd h not_false
    | chaosReadPause => exact absurd h not_false
    | chaosDropped => exact absurd h not_false
    | messageRecv now bytes rtt => exact absurd h not_false
    | responseTime now duration => exact absurd h not_false
    | _ => exact ⟨s.clock, Nat.le_refl _, rfl⟩
  | select wait =>
    cases wait with
    | slot due => exact absurd h not_false
    | _ => exact ⟨s.clock, Nat.le_refl _, rfl⟩
  | sleep timer => exact absurd h not_false
  | sendOrCancelled message => exact absurd h not_false
  | send message => exact absurd h not_false
  | _ => exact ⟨s.clock, Nat.le_refl _, rfl⟩

theorem holds_within (hpre : Lasting pre) {p : Session R} (hp : Within Untimed p) :
    Holds restarts period pre p fun _ => pre :=
  Triple.of_within hp fun s e a he hs hadm => by
    obtain ⟨clock, hle, heq⟩ := step_of_untimed (hpre.going s hs) e a he hadm
    show (s.step restarts period ⟨e, a⟩).kept ∧ pre (s.step restarts period ⟨e, a⟩)
    rw [heq]
    exact ⟨⟨(hpre.going s hs).kept, trivial⟩, hpre.later s clock hs hle⟩

theorem keeps_within (hpre : Lasting pre) {p : Round R} (hp : StepWithin Untimed p) :
    Keeps restarts period pre p fun _ => pre := by
  intro s hs
  refine (monitor restarts period).wp_mono ?_ (holds_within hpre hp s hs)
  rintro (x | x) s hs
  · exact (hpre.going s hs).kept
  · exact hs

/-- Outside a session only the past is kept. -/
theorem holds_kept {p : Session R} (hp : Within Unscheduled p) :
    Holds restarts period (fun s => s.kept) p fun _ s => s.kept :=
  Triple.of_within hp fun s e a he hs _ =>
    ⟨⟨hs, onTime_of_unscheduled s e a he⟩, ⟨hs, onTime_of_unscheduled s e a he⟩⟩

theorem keeps_over {p : Round R} {post : R → SendTimes → Prop} (hpre : ∀ s, pre s → s.kept)
    (hp : Keeps restarts period (fun s => s.kept) p post) : Keeps restarts period pre p post :=
  StepTriple.weaken hp hpre fun _ _ h => h

theorem keeps_breakSession {post : R → SendTimes → Prop} (hpre : ∀ s, pre s → s.kept) :
    Keeps restarts period pre (breakSession : Round R) post :=
  keeps_over hpre (StepTriple.bind
    (StepTriple.lift (holds_kept (within_sessionEnd unscheduled_of_quiet))) fun _ =>
      StepTriple.throw fun _ hs => hs)

theorem keeps_closeAndBreak {post : R → SendTimes → Prop} (hpre : ∀ s, pre s → s.kept) :
    Keeps restarts period pre (closeAndBreak : Round R) post :=
  keeps_over hpre (StepTriple.bind (StepTriple.lift (holds_kept (Within.ask trivial))) fun _ =>
    keeps_breakSession fun _ hs => hs)

theorem keeps_failWrite {post : R → SendTimes → Prop} (hpre : ∀ s, pre s → s.kept)
    (err : WsError) : Keeps restarts period pre (failWrite err : Round R) post :=
  keeps_over hpre (StepTriple.bind (StepTriple.lift (holds_kept (Within.ask trivial))) fun _ =>
    keeps_breakSession fun _ hs => hs)

/-! ### Waits and pauses

The three things that take time on purpose: waiting for a slot, a sleep that
chaos injects, and a pause of the script. -/

/-- The wait for a slot ends when the slot has come. -/
theorem holds_waitForSlot (due : Instant) :
    Holds restarts period (fun s => Idle period schedule s ∧ due = s.dueAt period)
      (waitForSlot config due)
      fun came s => s.kept ∧ (came = true → Ready period schedule s) := by
  have hselect : Holds restarts period (fun s => Idle period schedule s ∧ due = s.dueAt period)
      (Ask.select (.slot due)) fun woken s => Idle period schedule s ∧ due = s.dueAt period
        ∧ (woken = .due → Ready period schedule s) := by
    -- a wait that is woken for something else waits on for the same slot
    refine Triple.ask fun s woken hs _ => ?_
    have hkept : s.kept ∧ due = s.dueAt period := ⟨hs.1.kept, hs.2⟩
    have hidle : ∀ clock, Idle period schedule
        { s with clock, kept := s.kept ∧ due = s.dueAt period } := fun clock =>
      ⟨⟨hkept, hs.1.opening, hs.1.resting, hs.1.injecting⟩, hs.1.schedule⟩
    refine ⟨hkept, ?_⟩
    cases woken with
    | due => exact ⟨hidle _, hs.2, fun _ => ⟨hidle _, hs.2.ge.trans (le_max_right _ _)⟩⟩
    | _ => exact ⟨hidle _, hs.2, nofun⟩
  have hlasting : Lasting fun s => Idle period schedule s ∧ due = s.dueAt period :=
    ⟨fun s hs => hs.1.toGoing, fun s clock hs hle => ⟨lasting_idle.later s clock hs.1 hle, hs.2⟩⟩
  refine Triple.loop (fun _ s => Idle period schedule s ∧ due = s.dueAt period) fun _ => ?_
  refine Triple.bind hselect fun woken => ?_
  cases woken with
  | due => exact Triple.pure fun s hs => ⟨hs.1.kept, fun _ => hs.2.2 rfl⟩
  | cancelled => exact Triple.pure fun s hs => ⟨hs.1.kept, nofun⟩
  | keepalive =>
    refine Triple.bind (Triple.weaken
      (holds_within hlasting (within_sendKeepalive untimed_of_quiet))
      (fun s hs => ⟨hs.1, hs.2.1⟩) fun _ _ h => h) fun _ => ?_
    exact Triple.pure fun s hs => hs
  | resume => exact Triple.pure fun s hs => ⟨hs.1, hs.2.1⟩
  | timedOut => exact Triple.pure fun s hs => ⟨hs.1, hs.2.1⟩
  | read item => exact Triple.pure fun s hs => ⟨hs.1, hs.2.1⟩

/-- The wait of the echo loop. -/
theorem keeps_paceEcho :
    Keeps restarts period (Idle period schedule) (paceEcho config (schedule.map (·.nextDue)))
      fun _ => Ready period schedule := by
  cases schedule with
  | none => exact fun s hs => absurd hs.schedule nofun
  | some next =>
    have hwait : Holds restarts period (Idle period (some next)) (waitForSlot config next.nextDue)
        fun came s => s.kept ∧ (came = true → Ready period (some next) s) :=
      Triple.weaken (holds_waitForSlot next.nextDue)
        (fun s hs => ⟨hs, Option.some.inj hs.map_nextDue⟩) fun _ _ h => h
    exact StepTriple.bind (StepTriple.lift hwait) fun came =>
      StepTriple.ite (fun hcame => StepTriple.pure fun s hs => hs.2 hcame) fun _ =>
        keeps_closeAndBreak fun s hs => hs.1

/-- The wait of a script. -/
theorem keeps_paceScript :
    Keeps restarts period (Idle period schedule) (paceScript config (schedule.map (·.nextDue)))
      fun _ => Ready period schedule := by
  cases schedule with
  | none => exact fun s hs => absurd hs.schedule nofun
  | some next =>
    have hsleep : Holds restarts period (Idle period (some next))
        (Ask.sleep (.until next.nextDue))
        fun slept s => s.kept ∧ (slept = true → Ready period (some next) s) := by
      refine Triple.ask fun s slept hs _ => ?_
      have hdue : next.nextDue = s.dueAt period := Option.some.inj hs.map_nextDue
      refine ⟨⟨hs.kept, hdue⟩, ⟨hs.kept, hdue⟩, ?_⟩
      rintro rfl
      exact ⟨⟨⟨⟨hs.kept, hdue⟩, hs.opening, hs.resting, hs.injecting⟩, hs.schedule⟩,
        hdue.ge.trans (le_max_right _ _)⟩
    exact StepTriple.bind (StepTriple.lift hsleep) fun slept =>
      StepTriple.ite (fun hslept => StepTriple.pure fun s hs => hs.2 hslept) fun _ =>
        keeps_closeAndBreak fun s hs => hs.1

/-- A sleep that chaos injects, with what it leaves behind when it is not
cut short. -/
theorem holds_injected {injected : Injected} {duration : Duration} {post : SendTimes → Prop}
    (hgoing : ∀ s, pre s → Going s)
    (hpost : ∀ s, pre s → post ((s.inject injected).step restarts period
      ⟨.sleep (.after duration), true⟩)) :
    Holds restarts period (fun s => ∃ s₀, pre s₀ ∧ s = s₀.inject injected)
      (Ask.sleep (.after duration)) fun slept s => s.kept ∧ (slept = true → post s) := by
  refine Triple.ask ?_
  rintro s slept ⟨s₀, hs, rfl⟩ -
  have hkept : (s₀.kept ∧ True) ∧ True := ⟨⟨(hgoing s₀ hs).kept, trivial⟩, trivial⟩
  refine ⟨hkept, hkept, ?_⟩
  rintro rfl
  exact hpost s₀ hs

/-- A delay before a send moves the schedule and the send alike. -/
theorem keeps_delaySend (delay : Duration) :
    Keeps restarts period (Ready period schedule)
      (delaySend delay schedule (schedule.map (·.nextDue)))
      fun delayed s => Ready period delayed.1 s ∧ delayed.2 = delayed.1.map (·.nextDue) := by
  refine StepTriple.ite (fun _ => StepTriple.pure fun s hs => ⟨hs, rfl⟩) fun _ => ?_
  have hrecord : Holds restarts period (Ready period schedule) (Ask.record .chaosDelayed)
      fun _ s => ∃ s₀, Ready period schedule s₀ ∧ s = s₀.inject .delay :=
    Triple.ask fun s _ hs _ => ⟨⟨hs.kept, trivial⟩, s, hs, rfl⟩
  have hsleep : Holds restarts period
      (fun s => ∃ s₀, Ready period schedule s₀ ∧ s = s₀.inject .delay)
      (Ask.sleep (.after delay))
      fun slept s => s.kept ∧ (slept = true → Ready period (schedule.map (·.shift delay)) s) :=
    holds_injected (fun s hs => hs.toGoing) fun s hs => by
      have hstep : (s.inject .delay).step restarts period ⟨.sleep (.after delay), true⟩
          = { s.delayed delay with injecting := none } := rfl
      have hdelayed := hs.delayed delay
      rw [hstep]
      exact ⟨⟨⟨hdelayed.kept, hdelayed.opening, hdelayed.resting, rfl⟩, hdelayed.schedule⟩,
        hdelayed.come⟩
  refine StepTriple.bind (StepTriple.lift (Triple.bind hrecord fun _ => hsleep)) fun slept => ?_
  refine StepTriple.ite (fun hslept => StepTriple.pure fun s hs => ⟨hs.2 hslept, ?_⟩) fun _ =>
    keeps_closeAndBreak fun s hs => hs.1
  cases schedule with
  | none => rfl
  | some next => rfl

/-- A read pause moves the schedule, wherever it stands. -/
theorem keeps_pauseReads {scheduled : Option SendSchedule → SendTimes → Prop}
    (hlasting : ∀ schedule, Lasting (scheduled schedule))
    (hpaused : ∀ schedule s pause, scheduled schedule s →
      scheduled (schedule.map (·.shift pause)) { s.paused pause with injecting := none }) :
    Keeps restarts period (scheduled schedule) (pauseReads config schedule) scheduled := by
  have hpause : Holds restarts period (scheduled schedule) (chaosReadPause config) fun pause s =>
      pause.elim (scheduled schedule s) fun _ =>
        ∃ s₀, scheduled schedule s₀ ∧ s = s₀.inject .readPause := by
    refine Triple.ite (fun _ => ?_) fun _ => Triple.pure fun s hs => hs
    refine Triple.bind (holds_within (hlasting schedule) (Within.ask trivial)) fun pause => ?_
    cases pause with
    | none => exact Triple.pure fun s hs => hs
    | some pause =>
      have hrecord : Holds restarts period (scheduled schedule) (Ask.record .chaosReadPause)
          fun _ s => ∃ s₀, scheduled schedule s₀ ∧ s = s₀.inject .readPause :=
        Triple.ask fun s _ hs _ =>
          ⟨⟨((hlasting schedule).going s hs).kept, trivial⟩, s, hs, rfl⟩
      exact Triple.bind hrecord fun _ => Triple.pure fun s hs => hs
  refine StepTriple.bind (StepTriple.lift hpause) fun pause => ?_
  cases pause with
  | none => exact StepTriple.pure fun s hs => hs
  | some pause =>
    refine StepTriple.bind (StepTriple.lift (holds_injected (hlasting schedule).going
      fun s hs => hpaused schedule s pause hs)) fun slept => ?_
    exact StepTriple.ite (fun hslept => StepTriple.pure fun s hs => hs.2 hslept) fun _ =>
      keeps_closeAndBreak fun s hs => hs.1

/-- A deliberate pause. -/
theorem holds_rest (duration : Duration) (hrestarts : restarts = true) :
    Holds restarts period (Idle period schedule) (Ask.sleep (.after duration))
      fun slept s => s.kept ∧ (slept = true → Resting period schedule s) := by
  refine Triple.ask fun s slept hs _ => ⟨⟨hs.kept, trivial⟩, ⟨hs.kept, trivial⟩, ?_⟩
  rintro rfl
  have hstep : s.step restarts period ⟨.sleep (.after duration), true⟩
      = { s with
          clock := s.clock + duration
          injecting := none
          resting := restarts
          kept := s.kept ∧ True } := by
    show { s.slept restarts duration with kept := s.kept ∧ True } = _
    unfold slept
    rw [hs.injecting]
  show Resting period schedule (s.step restarts period ⟨.sleep (.after duration), true⟩)
  rw [hstep]
  exact ⟨⟨hs.kept, trivial⟩, hs.opening, hrestarts, rfl, hs.schedule⟩

theorem holds_restartAfterPause :
    Holds restarts period (Resting period schedule) (restartAfterPause schedule)
      (Idle period) := by
  cases schedule with
  | none => exact fun s hs => absurd hs.schedule nofun
  | some next =>
    have hnow : Holds restarts period (Resting period (some next)) Ask.now
        fun now => Idle period (some (next.restartAfterPause now)) :=
      Triple.ask fun s now hs _ =>
        have hidle : Idle period _ (s.step restarts period ⟨.now, now⟩) := hs.restart now
        ⟨hidle.kept, hidle⟩
    exact Triple.bind hnow fun now => Triple.pure fun s hs => hs

/-! ### Requests -/

/-- Requests that a send leaves as sent. -/
def SentAll (period : Duration) (schedule : Option SendSchedule) (startTime : Instant)
    (s : SendTimes) : Prop :=
  ∀ request : Request, request.due = schedule.map (·.nextDue) → request.startTime = startTime →
    Sent period schedule request s

theorem SentAll.kept {startTime : Instant} {s : SendTimes}
    (h : SentAll period schedule startTime s) : s.kept :=
  (h ⟨0, none, false, schedule.map (·.nextDue), startTime⟩ rfl rfl).kept

theorem lasting_sentAll {startTime : Instant} : Lasting (SentAll period schedule startTime) where
  going := fun _ h => (h ⟨0, none, false, schedule.map (·.nextDue), startTime⟩ rfl rfl).toGoing
  later := fun s clock h hle request hdue hstart =>
    lasting_sent.later s clock (h request hdue hstart) hle

/-- What both sends do before the frame goes out: the due time is the
schedule's, and the clock is read last. -/
theorem holds_sentAt {send : Message → Eff} {message : Message}
    (hon : ∀ (s : SendTimes) a, s.dueAt period ≤ s.clock → s.OnTime period ⟨send message, a⟩)
    (hstep : ∀ (s : SendTimes) a, s.change restarts period ⟨send message, a⟩
      = { s with due := s.dueAt period, sentAt := s.clock }) {startTime : Instant} :
    Holds restarts period (fun s => Ready period schedule s ∧ startTime = s.clock)
      (Proc.ask (send message)) fun _ => SentAll period schedule startTime := by
  refine Triple.ask fun s a hs _ => ?_
  have hfine : s.kept ∧ s.OnTime period ⟨send message, a⟩ := ⟨hs.1.kept, hon s a hs.1.come⟩
  refine ⟨hfine, fun request hdue hstart => ?_⟩
  show Sent period schedule request (s.step restarts period ⟨send message, a⟩)
  unfold step
  rw [hstep]
  exact ⟨⟨⟨hfine, hs.1.opening, hs.1.resting, hs.1.injecting⟩, hs.1.schedule⟩,
    hdue.trans hs.1.map_nextDue, hstart.trans hs.2⟩

theorem holds_startTime :
    Holds restarts period (Ready period schedule) Ask.now
      fun startTime s => Ready period schedule s ∧ startTime = s.clock := by
  refine Triple.ask fun s now hs hadm => ?_
  have hle : s.clock ≤ now := Nat.le_of_ble_eq_true hadm
  have hread : s.step restarts period ⟨.now, now⟩ = s.later now := by
    show { s.read period now with kept := s.kept ∧ True } = _
    unfold read
    rw [if_neg (by rw [hs.opening]; exact Bool.false_ne_true),
      if_neg (by rw [hs.resting]; exact Bool.false_ne_true)]
    rfl
  show (s.step restarts period ⟨.now, now⟩).kept ∧
    Ready period schedule (s.step restarts period ⟨.now, now⟩) ∧
      now = (s.step restarts period ⟨.now, now⟩).clock
  rw [hread]
  exact ⟨⟨hs.kept, trivial⟩, lasting_ready.later s now hs hle, rfl⟩

theorem keeps_sendEcho (seq : ℕ) (plan : SendPlan) :
    Keeps restarts period (Ready period schedule)
      (sendEcho config workerId seq plan (schedule.map (·.nextDue)))
      fun request => Sent period schedule request := by
  refine StepTriple.bind (StepTriple.lift (holds_within lasting_ready (Within.ask trivial)))
    fun nowMs => ?_
  refine StepTriple.bind (StepTriple.lift (holds_within lasting_ready
    (within_chaosCorrupt untimed_of_quiet (fun _ => trivial) _ _))) fun result => ?_
  obtain ⟨message, corrupted⟩ := result
  refine StepTriple.bind (StepTriple.lift holds_startTime) fun startTime => ?_
  have hsend : Holds restarts period (fun s => Ready period schedule s ∧ startTime = s.clock)
      (Ask.sendOrCancelled message) fun _ => SentAll period schedule startTime :=
    @holds_sentAt restarts period schedule .sendOrCancelled message (fun _ _ h => h)
      (fun _ _ => rfl) startTime
  refine StepTriple.bind (StepTriple.lift hsend) fun result => ?_
  match result with
  | none => exact keeps_closeAndBreak fun s hs => hs.kept
  | some (.error err) => exact keeps_failWrite (fun s hs => hs.kept) err
  | some (.ok ()) =>
    refine StepTriple.bind (StepTriple.lift (holds_within lasting_sentAll (Within.ask trivial)))
      fun _ => ?_
    exact StepTriple.pure fun s hs => hs _ rfl rfl

theorem keeps_sendScript (payload : Option PayloadConfig) (state : ScriptState) (plan : SendPlan) :
    Keeps restarts period (Ready period schedule)
      (sendScript config workerId payload state plan (schedule.map (·.nextDue)))
      fun request => Sent period schedule request := by
  refine StepTriple.bind (StepTriple.lift (holds_within lasting_ready (Within.ask trivial)))
    fun nowMs => ?_
  refine StepTriple.bind (StepTriple.lift (holds_within lasting_ready
    (within_chaosCorrupt untimed_of_quiet (fun _ => trivial) _ _))) fun result => ?_
  obtain ⟨message, corrupted⟩ := result
  refine StepTriple.bind (StepTriple.lift holds_startTime) fun startTime => ?_
  have hsend : Holds restarts period (fun s => Ready period schedule s ∧ startTime = s.clock)
      (Ask.send message) fun _ => SentAll period schedule startTime :=
    @holds_sentAt restarts period schedule .send message (fun _ _ h _ => h)
      (fun _ _ => rfl) startTime
  refine StepTriple.bind (StepTriple.lift hsend) fun result => ?_
  match result with
  | .error err => exact keeps_failWrite (fun s hs => hs.kept) err
  | .ok () =>
    refine StepTriple.bind (StepTriple.lift (holds_within lasting_sentAll (Within.ask trivial)))
      fun _ => ?_
    exact StepTriple.pure fun s hs => hs _ rfl rfl

/-- The response time of a request is measured from when it was due. -/
theorem holds_recordPaced (request : Request) (recordResponse : Bool) (rtt : Duration) :
    Holds restarts period (Received period schedule request rtt)
      (recordPaced request recordResponse rtt) fun _ => Settled period schedule := by
  have hsettled : ∀ s, Received period schedule request rtt s → Settled period schedule s :=
    fun s hs => ⟨hs.toGoing, hs.schedule⟩
  unfold recordPaced
  cases hdue : request.due with
  | none => exact Triple.pure hsettled
  | some due =>
    refine Triple.ite (fun _ => ?_) fun _ => Triple.pure hsettled
    refine Triple.bind (holds_within lasting_received (Within.ask trivial)) fun recordedAt => ?_
    refine Triple.ask fun s _ hs _ => ?_
    have honTime : SendSchedule.responseTime due request.startTime rtt
        = s.rtt + (s.sentAt - s.due - timerSlack) := by
      rw [hs.rtt, ← hs.startTime, Option.some.inj (hdue.symm.trans hs.due)]
      rfl
    exact ⟨⟨hs.kept, honTime⟩, ⟨⟨hs.kept, honTime⟩, hs.opening, hs.resting, hs.injecting⟩,
      hs.schedule⟩

/-- **A request is settled**: its slot is used up, or the session is over. -/
theorem keeps_settleReply (request : Request) (recordResponse : Bool) (expect : Option Check)
    (captures : List Capture) (vars : List String) :
    Keeps restarts period (Sent period schedule request)
      (settleReply serde config request recordResponse expect captures vars)
      fun _ => Settled period schedule := by
  have hkept : ∀ s, Sent period schedule request s → s.kept := fun s hs => hs.kept
  refine StepTriple.bind (StepTriple.lift (holds_within lasting_sent
    (within_awaitReply untimed_of_quiet (fun _ => trivial) _ _ _))) fun result => ?_
  obtain ⟨reply, unsolicited⟩ := result
  refine StepTriple.bind (StepTriple.lift (holds_within lasting_sent (Within.ask trivial)))
    fun _ => ?_
  have hfailed : ∀ category, Keeps restarts period (Sent period schedule request)
      (do
        recordError category .sentMessage
        breakSession : Round (List String)) fun _ => Settled period schedule := fun category =>
    StepTriple.bind (StepTriple.lift (holds_within lasting_sent (Within.ask trivial))) fun _ =>
      keeps_breakSession hkept
  cases reply with
  | cancelled => exact keeps_closeAndBreak hkept
  | timedOut => exact hfailed _
  | failed category => exact hfailed _
  | closed => exact keeps_breakSession hkept
  | received reply =>
    refine StepTriple.bind (StepTriple.lift (holds_within lasting_sent (Within.ask trivial)))
      fun receivedAt => ?_
    refine StepTriple.bind (StepTriple.lift (holds_within lasting_sent (Within.ask trivial)))
      fun recordedAt => ?_
    have hrecv : Holds restarts period (Sent period schedule request)
        (Ask.record (.messageRecv recordedAt (messageByteLen reply)
          (some (receivedAt - request.startTime))))
        fun _ => Received period schedule request (receivedAt - request.startTime) :=
      Triple.ask fun s _ hs _ =>
        have hreceived : Received period schedule request _
            (s.step restarts period ⟨.record (.messageRecv _ _ (some _)), ()⟩) :=
          hs.messageRecv recordedAt (messageByteLen reply) (receivedAt - request.startTime)
        ⟨hreceived.kept, hreceived⟩
    refine StepTriple.bind (StepTriple.lift hrecv) fun _ => ?_
    refine StepTriple.bind (StepTriple.lift (holds_within lasting_received
      (within_checkAnswer untimed_of_quiet _ _ _ _ _))) fun vars => ?_
    exact StepTriple.bind (StepTriple.lift (holds_recordPaced _ _ _)) fun _ =>
      StepTriple.pure fun s hs => hs

/-- A request that is dropped uses its slot up. -/
theorem holds_chaosDropped :
    Holds restarts period (Ready period schedule) (Ask.record .chaosDropped)
      fun _ => Settled period schedule :=
  Triple.ask fun s _ hs _ =>
    have hsettled : Settled period schedule (s.step restarts period ⟨.record .chaosDropped, ()⟩) :=
      hs.chaosDropped
    ⟨hsettled.kept, hsettled⟩

/-! ### The echo loop

A think time is a deliberate pause, and then the schedule starts anew after
every reply. -/

theorem keeps_pauseReads_idle :
    Keeps restarts period (Idle period schedule) (pauseReads config schedule) (Idle period) :=
  keeps_pauseReads (fun _ => lasting_idle) fun _ _ pause hs =>
    have hpaused := hs.paused pause
    ⟨⟨hpaused.kept, hpaused.opening, hpaused.resting, rfl⟩, hpaused.schedule⟩

theorem keeps_pauseAfterReply (hrestarts : recordsResponseTime scenario = false → restarts = true) :
    Keeps restarts period (Idle period schedule) (pauseAfterReply config scenario schedule)
      (Idle period) := by
  unfold pauseAfterReply applyThinkTime
  refine StepTriple.bind keeps_pauseReads_idle fun schedule => ?_
  cases scenario with
  | none => exact StepTriple.pure fun s hs => hs
  | some phase =>
    by_cases hthink : phase.thinkTime = 0
    · have hrecords : recordsResponseTime (some phase) = true := decide_eq_true hthink
      dsimp only
      rw [if_pos hthink, hrecords]
      exact StepTriple.pure fun s hs => hs
    · have hrecords : recordsResponseTime (some phase) = false := decide_eq_false hthink
      dsimp only
      rw [if_neg hthink, hrecords]
      refine StepTriple.bind (StepTriple.lift (holds_rest _ (hrestarts hrecords))) fun slept => ?_
      exact StepTriple.ite (fun hslept => StepTriple.weaken
        (StepTriple.lift holds_restartAfterPause) (fun s hs => hs.2 hslept) fun _ _ h => h)
        fun _ => keeps_closeAndBreak fun s hs => hs.1

/-- One turn of the echo loop. -/
theorem keeps_echoRound (hrestarts : recordsResponseTime scenario = false → restarts = true)
    (state : EchoState) :
    Keeps restarts period (Idle period state.schedule)
      (echoRound serde config workerId scenario state)
      fun state => Idle period state.schedule := by
  have hkept : ∀ s, Idle period state.schedule s → s.kept := fun s hs => hs.kept
  refine StepTriple.bind (StepTriple.lift (holds_within lasting_idle (Within.ask trivial)))
    fun _ => ?_
  refine StepTriple.ite (fun _ => keeps_closeAndBreak hkept) fun _ => ?_
  refine StepTriple.bind keeps_paceEcho fun _ => ?_
  refine StepTriple.bind (keeps_within lasting_ready (within_claimOrBreak untimed_of_quiet))
    fun _ => ?_
  refine StepTriple.bind (StepTriple.lift (holds_within lasting_ready (within_chaosPlan trivial)))
    fun plan => ?_
  refine StepTriple.ite (fun _ => ?_) fun _ => ?_
  · exact StepTriple.bind (StepTriple.lift holds_chaosDropped) fun _ =>
      StepTriple.pure fun s hs => hs.idle
  · refine StepTriple.bind (keeps_delaySend plan.delay) fun delayed => ?_
    obtain ⟨schedule, due⟩ := delayed
    have hsend : Keeps restarts period
        (fun s => Ready period schedule s ∧ due = schedule.map (·.nextDue))
        (sendEcho config workerId state.seq plan due) fun request => Sent period schedule request := by
      rintro s ⟨hs, rfl⟩
      exact keeps_sendEcho state.seq plan s hs
    refine StepTriple.bind hsend fun request => ?_
    refine StepTriple.bind (keeps_settleReply _ _ _ _ _) fun _ => ?_
    refine StepTriple.bind (keeps_within lasting_settled
      (within_chaosClose untimed_of_quiet trivial)) fun _ => ?_
    refine StepTriple.weaken ?_ (fun s hs => hs.idle) fun _ _ h => h
    exact StepTriple.bind (keeps_pauseAfterReply hrestarts) fun _ => StepTriple.pure fun s hs => hs

/-- The first reading of the clock starts the schedule of a session. -/
theorem holds_start (hrate : 0 < config.ratePerConn) :
    Holds restarts (ratePeriod config.ratePerConn) Opening Ask.now
      fun now => Idle (ratePeriod config.ratePerConn) (SendSchedule.new config.ratePerConn now) := by
  refine Triple.ask fun s now hs _ => ?_
  have hidle : Idle (ratePeriod config.ratePerConn) (SendSchedule.new config.ratePerConn now)
      (s.step restarts (ratePeriod config.ratePerConn) ⟨.now, now⟩) := by
    unfold SendSchedule.new
    rw [if_pos hrate]
    exact hs.start now
  exact ⟨hidle.kept, hidle⟩

/-- **An echo session keeps its schedule.** -/
theorem holds_runEchoLoop (hrate : 0 < config.ratePerConn)
    (hrestarts : recordsResponseTime scenario = false → restarts = true) :
    Holds restarts (ratePeriod config.ratePerConn) Opening
      (runEchoLoop serde config workerId scenario) fun _ s => s.kept := by
  refine Triple.bind (holds_start hrate) fun now => ?_
  refine Triple.bind (holds_within lasting_idle (Within.ask trivial)) fun _ => ?_
  have hround : ∀ state : EchoState,
      Keeps restarts (ratePeriod config.ratePerConn)
        (Idle (ratePeriod config.ratePerConn) state.schedule)
        (echoRound serde config workerId scenario state)
        fun state => Idle (ratePeriod config.ratePerConn) state.schedule :=
    fun state => keeps_echoRound hrestarts state
  exact Triple.weaken (Triple.forever _ hround) (fun s hs => hs) fun _ _ h => h

/-! ### The script loop

Requests of a script are paced like those of the loop. -/

section Script

variable (hreplies : config.mode.awaitsReplies = true) (hrestarts : restarts = true)

include hreplies

theorem keeps_settleScript (request : Request) (expect : Option Check) (captures : List Capture)
    (vars : List String) :
    Keeps restarts period (Sent period schedule request)
      (settleScript serde config request expect captures schedule vars)
      fun settled => Settled period settled.1 := by
  unfold settleScript
  rw [if_pos hreplies]
  refine StepTriple.bind (keeps_settleReply _ _ _ _ _) fun vars => ?_
  refine StepTriple.bind (keeps_pauseReads (fun _ => lasting_settled) ?_) fun schedule =>
    StepTriple.pure fun s hs => hs
  intro schedule s pause hs
  have hpaused := hs.paused pause
  exact ⟨⟨hpaused.kept, hpaused.opening, hpaused.resting, rfl⟩, hpaused.schedule⟩

theorem keeps_sendOnce (payload : Option PayloadConfig) (expect : Option Check)
    (captures : List Capture) (state : ScriptState) :
    Keeps restarts period (Idle period state.schedule)
      (sendOnce serde config workerId payload expect captures state)
      fun state => Idle period state.schedule := by
  have hkept : ∀ s, Idle period state.schedule s → s.kept := fun s hs => hs.kept
  refine StepTriple.bind (StepTriple.lift (holds_within lasting_idle (Within.ask trivial)))
    fun _ => ?_
  refine StepTriple.ite (fun _ => keeps_closeAndBreak hkept) fun _ => ?_
  refine StepTriple.bind keeps_paceScript fun _ => ?_
  refine StepTriple.bind (keeps_within lasting_ready (within_claimOrBreak untimed_of_quiet))
    fun _ => ?_
  refine StepTriple.bind (StepTriple.lift (holds_within lasting_ready (within_chaosPlan trivial)))
    fun plan => ?_
  refine StepTriple.ite (fun _ => ?_) fun _ => ?_
  · exact StepTriple.bind (StepTriple.lift holds_chaosDropped) fun _ =>
      StepTriple.pure fun s hs => hs.idle
  · refine StepTriple.bind (keeps_delaySend plan.delay) fun delayed => ?_
    obtain ⟨schedule, due⟩ := delayed
    have hsend : Keeps restarts period
        (fun s => Ready period schedule s ∧ due = schedule.map (·.nextDue))
        (sendScript config workerId payload state plan due)
        fun request => Sent period schedule request := by
      rintro s ⟨hs, rfl⟩
      exact keeps_sendScript payload state plan s hs
    refine StepTriple.bind hsend fun request => ?_
    refine StepTriple.bind (keeps_settleScript hreplies _ _ _ _) fun settled => ?_
    obtain ⟨schedule, vars⟩ := settled
    refine StepTriple.bind (keeps_within lasting_settled
      (within_chaosClose untimed_of_quiet trivial)) fun _ => ?_
    exact StepTriple.pure fun s hs => hs.idle

theorem keeps_sendBurst (payload : Option PayloadConfig) (expect : Option Check)
    (captures : List Capture) (count : ℕ) (state : ScriptState) :
    Keeps restarts period (Idle period state.schedule)
      (sendBurst serde config workerId payload expect captures count state)
      fun state => Idle period state.schedule := by
  induction count generalizing state with
  | zero => exact StepTriple.pure fun s hs => hs
  | succ count ih =>
    exact StepTriple.bind (keeps_sendOnce hreplies payload expect captures state)
      fun state => ih state

include hrestarts

theorem keeps_runAction (state : ScriptState) (action : ScenarioAction) :
    Keeps restarts period (Idle period state.schedule)
      (runAction serde config workerId scenario state action)
      fun state => Idle period state.schedule := by
  have hrestart : ∀ state : ScriptState, Keeps restarts period (Resting period state.schedule)
      (liftM (restartScript state)) fun state => Idle period state.schedule := fun state =>
    StepTriple.lift (Triple.bind holds_restartAfterPause fun _ => Triple.pure fun s hs => hs)
  have hpause : ∀ duration, Keeps restarts period (Idle period state.schedule)
      (sleepOrBreak (.after duration) >>= fun _ => liftM (restartScript state))
      fun state => Idle period state.schedule := by
    intro duration
    have hsleep : Keeps restarts period (Idle period state.schedule) (sleepOrBreak (.after duration))
        fun _ => Resting period state.schedule :=
      StepTriple.bind (StepTriple.lift (holds_rest duration hrestarts)) fun slept =>
        StepTriple.ite (fun hslept => StepTriple.pure fun s hs => hs.2 hslept) fun _ =>
          keeps_closeAndBreak fun s hs => hs.1
    exact StepTriple.bind hsleep fun _ => hrestart state
  cases action with
  | send payload count expect captures name =>
    refine StepTriple.bind (StepTriple.lift (holds_within lasting_idle (Within.ask trivial)))
      fun _ => ?_
    refine StepTriple.bind (keeps_sendBurst hreplies payload expect captures count state)
      fun state => ?_
    refine StepTriple.bind (StepTriple.lift (holds_within lasting_idle (Within.ask trivial)))
      fun _ => ?_
    unfold applyThinkTime
    cases scenario with
    | none => exact StepTriple.pure fun s hs => hs
    | some phase =>
      dsimp only [Option.all_some]
      -- without a think time the next request may follow at once
      by_cases hthink : phase.thinkTime = 0
      · rw [if_pos hthink, if_pos (decide_eq_true hthink)]
        exact StepTriple.pure fun s hs => hs
      · rw [if_neg hthink, if_neg (by simpa using hthink)]
        refine StepTriple.bind (StepTriple.lift (holds_rest _ hrestarts)) fun slept => ?_
        exact StepTriple.ite (fun hslept => StepTriple.weaken (hrestart state)
          (fun s hs => hs.2 hslept) fun _ _ h => h) fun _ => keeps_closeAndBreak fun s hs => hs.1
  | wait duration => exact hpause duration
  | ping interval =>
    have hping : Holds restarts period (Idle period state.schedule) (Ask.send keepalive)
        fun _ => Idle period state.schedule :=
      Triple.ask fun s _ hs _ =>
        have hkept : s.kept ∧ (keepalive.isData = true → s.dueAt period ≤ s.clock) :=
          ⟨hs.kept, nofun⟩
        ⟨hkept, ⟨hkept, hs.opening, hs.resting, hs.injecting⟩, hs.schedule⟩
    refine StepTriple.bind (StepTriple.lift hping) fun result => ?_
    match result with
    | .error err => exact keeps_failWrite (fun s hs => hs.kept) err
    | .ok () => exact hpause interval
  | close code reason =>
    exact StepTriple.bind (StepTriple.lift (holds_within lasting_idle (Within.ask trivial)))
      fun _ => StepTriple.throw fun s hs => hs.kept

theorem keeps_runActions (actions : List ScenarioAction) (state : ScriptState) :
    Keeps restarts period (Idle period state.schedule)
      (runActions serde config workerId scenario actions state)
      fun state => Idle period state.schedule := by
  induction actions generalizing state with
  | nil => exact StepTriple.pure fun s hs => hs
  | cons action rest ih =>
    refine StepTriple.bind (StepTriple.lift (holds_within lasting_idle
      (within_scriptStops untimed_of_quiet))) fun _ => ?_
    refine StepTriple.ite (fun _ => ?_) fun _ =>
      StepTriple.bind (keeps_runAction hreplies hrestarts state action) fun state => ih state
    refine StepTriple.bind (StepTriple.lift (holds_within lasting_idle
      (within_maxRequestsReached untimed_of_quiet))) fun _ => ?_
    refine StepTriple.ite (fun _ => ?_) fun _ => keeps_closeAndBreak fun s hs => hs.kept
    exact StepTriple.bind (StepTriple.lift (holds_within lasting_idle (Within.ask trivial)))
      fun _ => keeps_closeAndBreak fun s hs => hs.kept

/-- **A script session keeps its schedule.** -/
theorem holds_runActionLoop (hrate : 0 < config.ratePerConn) (phase : ScenarioPhase) :
    Holds restarts (ratePeriod config.ratePerConn) Opening
      (runActionLoop serde config workerId phase) fun _ s => s.kept := by
  unfold runActionLoop
  refine Triple.bind (holds_start hrate) fun now => ?_
  rw [if_pos hreplies]
  refine Triple.bind (holds_within lasting_idle (Within.ask trivial)) fun _ => ?_
  have hround : ∀ state : ScriptState,
      Keeps restarts (ratePeriod config.ratePerConn)
        (Idle (ratePeriod config.ratePerConn) state.schedule)
        (scriptRound serde config workerId phase state)
        fun state => Idle (ratePeriod config.ratePerConn) state.schedule := fun state =>
    StepTriple.bind (StepTriple.lift (holds_within lasting_idle (Within.ask trivial)))
      fun _ => StepTriple.ite (fun _ => keeps_closeAndBreak fun s hs => hs.kept) fun _ =>
        keeps_runActions hreplies hrestarts _ state
  exact Triple.weaken (Triple.forever _ hround) (fun s hs => hs) fun _ _ h => h

end Script

/-! ### The life of a worker -/

/-- Whether deliberate pauses start the schedule of a worker anew: it runs a
script, or has a think time. -/
def restartsSchedule (scenario : Option ScenarioPhase) : Bool :=
  scenario.any fun phase => phase.actions ≠ [] ∨ phase.thinkTime ≠ 0

variable {worker : Worker}

theorem holds_session (hmode : worker.config.mode = .echo)
    (hrate : 0 < worker.config.ratePerConn) :
    Holds (restartsSchedule worker.scenario) (ratePeriod worker.config.ratePerConn) Opening
      worker.session fun _ s => s.kept := by
  have hreplies : worker.config.mode.awaitsReplies = true := by rw [hmode]; rfl
  unfold Worker.session modeLoop
  rw [hmode]
  cases worker.scenario with
  | none => exact holds_runEchoLoop hrate nofun
  | some phase =>
    refine Triple.ite (fun _ => holds_runEchoLoop hrate fun hthink => ?_) fun hactions =>
      holds_runActionLoop hreplies (decide_eq_true (.inl hactions)) hrate phase
    exact decide_eq_true (.inr (of_decide_eq_false hthink))

/-- What a handshake leaves behind. -/
def AfterHandshake : Handshake → SendTimes → Prop
  | .opened => Opening
  | _ => fun s => s.kept

theorem holds_handshake (request : HandshakeRequest) (connectedBefore : Bool) :
    Holds restarts period (fun s => s.kept) (worker.handshake request connectedBefore)
      AfterHandshake := by
  refine Triple.bind (holds_kept (Within.ask trivial)) fun _ => ?_
  refine Triple.bind (holds_kept (Within.ask trivial)) fun start => ?_
  refine Triple.bind (holds_kept (Within.ask trivial)) fun outcome => ?_
  cases outcome with
  | cancelled =>
    refine Triple.bind (holds_kept ?_) fun _ => Triple.pure fun s hs => hs
    exact Within.ite (fun _ => Within.pure) fun _ => Within.bind (Within.ask trivial) fun _ =>
      Within.ite (fun _ => Within.ask trivial) fun _ => Within.pure
  | opened =>
    refine Triple.bind (holds_kept (Within.ask trivial)) fun now => ?_
    have hopened : Holds restarts period (fun s => s.kept)
        (Worker.openedAttempt connectedBefore (now - start)) fun _ => Opening :=
      Triple.ite (fun _ => Triple.ask fun s _ hs _ => ⟨⟨hs, trivial⟩, ⟨hs, trivial⟩, rfl, rfl⟩)
        fun _ => Triple.ask fun s _ hs _ => ⟨⟨hs, trivial⟩, ⟨hs, trivial⟩, rfl, rfl⟩
    exact Triple.bind hopened fun _ => Triple.pure fun s hs => hs
  | static category =>
    exact Triple.bind (holds_kept (Within.ask trivial)) fun _ => Triple.pure fun s hs => hs
  | failed err =>
    exact Triple.bind (holds_kept (Within.ask trivial)) fun _ => Triple.pure fun s hs => hs
  | timedOut =>
    exact Triple.bind (holds_kept (Within.ask trivial)) fun _ => Triple.pure fun s hs => hs

theorem keeps_attempt (hmode : worker.config.mode = .echo)
    (hrate : 0 < worker.config.ratePerConn) (request : HandshakeRequest) (state : WorkerState) :
    StepTriple (monitor (restartsSchedule worker.scenario) (ratePeriod worker.config.ratePerConn))
      (fun s => s.kept) (worker.attempt request state) (fun _ s => s.kept) fun _ s => s.kept := by
  have hretry : ∀ state, StepTriple
      (monitor (restartsSchedule worker.scenario) (ratePeriod worker.config.ratePerConn))
      (fun s => s.kept) (worker.retry state) (fun _ s => s.kept) fun _ s => s.kept := fun state =>
    StepTriple.of_within (within_retry unscheduled_of_quiet (fun _ => trivial) state)
      (by
        intro s e a he hs _
        have hkept : s.kept ∧ s.OnTime (ratePeriod worker.config.ratePerConn) ⟨e, a⟩ :=
          ⟨hs, onTime_of_unscheduled s e a he⟩
        exact ⟨hkept, hkept⟩)
      fun _ _ hs => hs
  refine StepTriple.bind (StepTriple.lift (holds_handshake request _)) fun result => ?_
  cases result with
  | stop => exact StepTriple.throw fun _ hs => hs
  | failed => exact hretry state
  | opened =>
    refine StepTriple.bind (StepTriple.lift (holds_session hmode hrate)) fun ended => ?_
    refine StepTriple.bind (StepTriple.lift (holds_kept (Within.ask trivial))) fun _ => ?_
    exact StepTriple.ite (fun _ => StepTriple.throw fun _ hs => hs) fun _ => hretry _

theorem holds_run (hmode : worker.config.mode = .echo) (hrate : 0 < worker.config.ratePerConn) :
    Holds (restartsSchedule worker.scenario) (ratePeriod worker.config.ratePerConn)
      (fun s => s.kept) worker.run fun _ s => s.kept := by
  refine Triple.bind (holds_kept (Within.ask trivial)) fun nowMs => ?_
  cases worker.buildHandshakeRequest nowMs with
  | error category => exact holds_kept (Within.ask trivial)
  | ok request =>
    exact Triple.forever (fun _ (s : SendTimes) => s.kept)
      fun state => keeps_attempt hmode hrate request state

end Parts

end SendTimes

/-- **The send schedule.** In every run of a paced echo worker, on any clock
that does not go back and with any faults, replies and pauses, every event
comes when the schedule says: a slot is waited for until it is due, no request
is sent before it is due, and a response time is measured from then. -/
theorem send_times {worker : Worker} (hmode : worker.config.mode = .echo)
    (hrate : 0 < worker.config.ratePerConn) {trace : List Event} {result : Option Unit}
    (hrun : Proc.Runs worker.run trace result)
    (hclock : (SendTimes.monitor (SendTimes.restartsSchedule worker.scenario)
      (ratePeriod worker.config.ratePerConn)).Accepts {} trace)
    {before after : List Event} {event : Event} (htrace : trace = before ++ event :: after) :
    ((SendTimes.monitor (SendTimes.restartsSchedule worker.scenario)
      (ratePeriod worker.config.ratePerConn)).after {} before).OnTime
        (ratePeriod worker.config.ratePerConn) event := by
  have hsafe : (SendTimes.monitor (SendTimes.restartsSchedule worker.scenario)
      (ratePeriod worker.config.ratePerConn)).Safe {} := trivial
  refine SendTimes.onTime_of_kept ?_ htrace
  exact ((SendTimes.monitor _ _).wp_sound hrun hsafe (SendTimes.holds_run hmode hrate {} trivial)
    hclock).1

/-- Answers of a server that replies to the first request only, on a clock that
moves a second with every question. -/
def repliesLate (n : ℕ) : (e : Eff) → e.Answer
  | .now => (n * 1000000000 : ℕ)
  | e => repliesOnce n e

/-- The trace of a worker that sends one request a second. -/
def lateTrace : List Event := (Proc.run repliesLate 60 0 pacedEcho.run).1

/-- Its first request was due six seconds after the first reading and sent five
seconds later; the response time has the five seconds, less the slack. -/
theorem send_times_lateTrace : ∃ h : 20 < lateTrace.length,
    ((SendTimes.monitor false (ratePeriod 1)).after {} (lateTrace.take 20)).OnTime (ratePeriod 1)
        lateTrace[20]
      ∧ (lateTrace.map Sigma.fst)[20]?
        = some (.record (.responseTime 19000000000 9998000000)) := by
  have hlength : 20 < lateTrace.length := by decide +kernel
  refine ⟨hlength, ?_, by decide +kernel⟩
  refine @send_times pacedEcho rfl (by decide) lateTrace _
    (Proc.runs_run repliesLate 60 0 pacedEcho.run) (by decide +kernel) (lateTrace.take 20)
    (lateTrace.drop 21) _ ?_
  exact (List.take_append_drop 20 lateTrace).symm.trans
    (congrArg (lateTrace.take 20 ++ ·) (List.getElem_cons_drop hlength).symm)

end WsBlast
