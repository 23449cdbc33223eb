import WsBlast.Lib.Checker
import WsBlast.Mock

/-!
# The mock answers in order and loses nothing

`MockLedger` reads the trace of a mock session without Socket.IO or replay and
keeps what the session owes its client: for every data frame received, in
order, the frames and the close that the frame's decision gives, each with the
moment it is due (`MockLedger.owed`). `Serves` says what each event of the
trace has to be for the session to pay in that order, no sooner than due, with
no stall cut short, and to count what it does.

Every event of every run is as it has to be (`serves_runSession`); that a whole
session answers every frame, in order, no sooner than due and without losing
one, is read off the ledger (`mock_replies`).

Three things may part a reply from its frame: the delay of the rule or of the
server with its jitter, a stall, and the replies before it. A reply is due a
delay after its frame was received, the frames of one decision together. It may
be sent once it is due, if no stall holds it back, and not before the replies
to earlier frames. A stall that ends while an earlier reply is waited for holds
nothing back.
-/

namespace WsBlast

open Proc (Checker)
open Proc.Checker (Holds Keeps)

/-! ## What a trace shows

The frames that arrived and those that were sent, in the order of the trace, and
what the decisions about the former give. -/

/-- The data frame an event receives. -/
def arrival : MockEvent → Option Message
  | ⟨.select _ _, .received (some (.ok message))⟩ => if message.isData then some message else none
  | _ => none

/-- The data frames a session received. -/
def arrivals (trace : List MockEvent) : List Message := trace.filterMap arrival

/-- The frame an event sends. -/
def sentFrame : MockEvent → Option Message
  | ⟨.send message, true⟩ => some message
  | _ => none

/-- The frames a session sent. -/
def sentFrames (trace : List MockEvent) : List Message := trace.filterMap sentFrame

/-- Whether an event counts a received frame. -/
def countsReceived : MockEvent → Bool
  | ⟨.countReceived, _⟩ => true
  | _ => false

/-- Whether an event counts a sent frame. -/
def countsSent : MockEvent → Bool
  | ⟨.countSent, _⟩ => true
  | _ => false

/-- The data frame an entry of the queue is. -/
def Queued.reply : Queued → Option Message
  | .frame message => some message
  | _ => none

/-- The delay a decision brings with it. -/
def Decision.delay : Decision → Option Duration
  | .reply _ delay _ => delay
  | _ => none

section Owed

variable (serde : Serde) (config : MockConfig)

/-- What the decision about one frame gives. -/
def repliesTo (arrived : Message × ℕ) : List Queued :=
  (config.decision serde arrived.1 arrived.2).entries arrived.1

/-- What the decisions about the frames of a connection give, one after the
other; frames are numbered from 1. -/
def allReplies (arrived : List Message) : List Queued :=
  (arrived.zipIdx 1).flatMap (repliesTo serde config)

theorem allReplies_snoc (arrived : List Message) (message : Message) :
    allReplies serde config (arrived ++ [message])
      = allReplies serde config arrived
        ++ repliesTo serde config (message, arrived.length + 1) := by
  unfold allReplies
  rw [List.zipIdx_append, List.flatMap_append, Nat.add_comm 1]
  simp

end Owed

/-! ## Stalls -/

/-- Whether a reply due at `due` may be sent at `time`: it is due, and if it
became due inside a stall, the stall is over. -/
def Ripe (stall : Option Stall) (epoch due time : Instant) : Prop :=
  due ≤ time ∧ ∀ window ∈ stall, ∀ k, 1 ≤ k → epoch + k * window.every ≤ due →
    due < epoch + k * window.every + window.length →
    epoch + k * window.every + window.length ≤ time

namespace Stall

/-- The end of the stall that a moment falls in. -/
theorem release_eq {every length elapsed : ℕ} (hlength : length < every)
    (hcycles : elapsed / every ≠ 0) (hinto : elapsed % every < length)
    (helapsed : elapsed < 2 ^ 64) :
    elapsed + min (length - elapsed % every) (2 ^ 64 - 1) = elapsed / every * every + length := by
  have hdiv : elapsed / every * every + elapsed % every = elapsed := by
    rw [Nat.mul_comm]
    exact Nat.div_add_mod elapsed every
  have hone : every ≤ elapsed / every * every :=
    Nat.le_mul_of_pos_left every (Nat.pos_of_ne_zero hcycles)
  omega

/-- Of two stalls, one that begins no later ends no later. -/
theorem window_le {every length due elapsed k : ℕ} (hlength : length < every)
    (hstart : k * every ≤ due) (hdue : due ≤ elapsed) :
    k * every + length ≤ elapsed / every * every + length := by
  have hpos : 0 < every := Nat.zero_lt_of_lt hlength
  have hk : k ≤ elapsed / every := (Nat.le_div_iff_mul_le hpos).mpr (hstart.trans hdue)
  exact Nat.add_le_add_right (Nat.mul_le_mul_right every hk) length

/-- Outside every stall, the stalls that began are over. -/
theorem window_le_of_outside {every length due elapsed k : ℕ} (hlength : length < every)
    (hone : 1 ≤ k) (hstart : k * every ≤ due) (hdue : due ≤ elapsed)
    (hout : elapsed / every = 0 ∨ length ≤ elapsed % every) : k * every + length ≤ elapsed := by
  have hpos : 0 < every := Nat.zero_lt_of_lt hlength
  have hk : k ≤ elapsed / every := (Nat.le_div_iff_mul_le hpos).mpr (hstart.trans hdue)
  have hmul : k * every ≤ elapsed / every * every := Nat.mul_le_mul_right every hk
  have hdiv : elapsed / every * every + elapsed % every = elapsed := by
    rw [Nat.mul_comm]
    exact Nat.div_add_mod elapsed every
  rcases hout with hzero | hlong
  · omega
  · omega

end Stall

section Ripe

variable {stall : Option Stall} {epoch due now : Instant}

/-- A reply that no stall holds back. -/
theorem ripe_of_free (hdue : due ≤ now) (h : stall.bind (·.release epoch now) = none) :
    Ripe stall epoch due now := by
  refine ⟨hdue, fun window hwindow k hone hstart _ => ?_⟩
  have hrelease : window.release epoch now = none := by
    rw [Option.mem_def.mp hwindow] at h
    exact h
  have hout : (now - epoch) / window.every = 0 ∨ window.length ≤ (now - epoch) % window.every := by
    by_contra hin
    rw [not_or, not_le] at hin
    unfold Stall.release at hrelease
    rw [if_neg hin.1, if_pos hin.2] at hrelease
    exact nomatch hrelease
  have hend := Stall.window_le_of_outside window.shorter hone
    (Nat.le_sub_of_add_le' hstart) (Nat.sub_le_sub_right hdue epoch) hout
  have hepoch : epoch ≤ now := (Nat.le_add_right epoch _).trans (hstart.trans hdue)
  rw [Nat.add_assoc]
  exact (Nat.add_le_add_left hend epoch).trans (Nat.add_sub_cancel' hepoch).le

/-- A reply at the end of the stall that held it back. -/
theorem ripe_of_release {release time : Instant} (hdue : due ≤ now)
    (h : stall.bind (·.release epoch now) = some release) (hclock : now < epoch + 2 ^ 64)
    (htime : release ≤ time) : Ripe stall epoch due time := by
  obtain ⟨window, hwindow, hrelease⟩ := Option.bind_eq_some_iff.mp h
  unfold Stall.release at hrelease
  have hcycles : (now - epoch) / window.every ≠ 0 := by
    intro hzero
    rw [if_pos hzero] at hrelease
    exact nomatch hrelease
  have hinto : (now - epoch) % window.every < window.length := by
    by_contra hlong
    rw [if_neg hcycles, if_neg hlong] at hrelease
    exact nomatch hrelease
  -- the present is inside a window, and the end of that window is waited for
  rw [if_neg hcycles, if_pos hinto] at hrelease
  have hepoch : epoch ≤ now := by
    by_contra hlt
    rw [Nat.sub_eq_zero_of_le (Nat.le_of_not_le hlt), Nat.zero_div] at hcycles
    exact hcycles rfl
  have hinstant : now + min (window.length - (now - epoch) % window.every) (2 ^ 64 - 1) = release :=
    Option.some.inj hrelease
  have hend : release = epoch + ((now - epoch) / window.every * window.every + window.length) := by
    rw [← Stall.release_eq window.shorter hcycles hinto (Nat.sub_lt_left_of_lt_add hepoch hclock),
      ← Nat.add_assoc, Nat.add_sub_cancel' hepoch]
    exact hinstant.symm
  refine ⟨hdue.trans ((Nat.le_add_right now _).trans (hinstant.le.trans htime)), ?_⟩
  intro other hother k hone hstart _
  obtain rfl : window = other := Option.some.inj (hwindow.symm.trans hother)
  have hle := Stall.window_le window.shorter (Nat.le_sub_of_add_le' hstart)
    (Nat.sub_le_sub_right hdue epoch)
  rw [Nat.add_assoc]
  exact (Nat.add_le_add_left hle epoch).trans (hend ▸ htime)

end Ripe

/-! ## The ledger

What is owed grows with every frame received, and its due time is filled in when
the clock is read for it. -/

/-- What the trace of a session shows. -/
structure MockLedger where
  /-- The latest reading of the clock, or a moment a timer did not end before. -/
  clock : Instant := 0
  /-- The jitter still to be drawn. -/
  rng : XorShift64
  /-- The data frames received. -/
  arrived : List Message := []
  /-- The last of them, while what it gives has no due time yet. -/
  undated : Option Message := none
  /-- What the frames received give, with its due time. -/
  owed : List (Instant × Queued) := []
  /-- The frames sent. -/
  sent : List Message := []
  countedReceived : ℕ := 0
  countedSent : ℕ := 0
  /-- The server is stopping. -/
  stopping : Bool := false
  /-- A Close frame was sent. -/
  closed : Bool := false

namespace MockLedger

section Events

variable (serde : Serde) (config : MockConfig) (epoch : Instant) (s : MockLedger)

/-- When the next entry is due. -/
def nextDue : Option Instant := s.owed[s.sent.length]?.map Prod.fst

/-- What the last frame gives is due a delay and a jitter from now. -/
def date (message : Message) (time : Instant) : MockLedger :=
  let decision := config.decision serde message s.arrived.length
  let drawn := config.replyDelayFrom (decision.delay.getD config.delay) s.rng
  { s with
    clock := time
    rng := drawn.2
    undated := none
    owed := s.owed ++ (decision.entries message).map fun item => (time + drawn.1, item) }

/-- The clock is read. -/
def read (time : Instant) : MockLedger :=
  match s.undated with
  | some message => s.date serde config message time
  | none => { s with clock := time }

/-- A data frame is received. One that is to be ignored needs no due time. -/
def receive (message : Message) : MockLedger :=
  let arrived := s.arrived ++ [message]
  { s with
    arrived
    undated :=
      if config.decision serde message arrived.length = .ignore then none else some message }

/-- What an event changes. -/
def change : MockEvent → MockLedger
  | ⟨.now, time⟩ => s.read serde config time
  | ⟨.isCancelled, true⟩ => { s with stopping := true }
  | ⟨.select _ _, .cancelled⟩ => { s with stopping := true }
  | ⟨.select _ due, .due⟩ => { s with clock := max s.clock (due.getD 0) }
  | ⟨.select _ _, .received (some (.ok message))⟩ =>
    if message.isData then s.receive serde config message else s
  | ⟨.sleepUntil release, true⟩ => { s with clock := max s.clock release }
  | ⟨.sleepUntil _, false⟩ => { s with stopping := true }
  | ⟨.send message, true⟩ => { s with sent := s.sent ++ [message] }
  | ⟨.close _, _⟩ => { s with closed := true }
  | ⟨.countReceived, _⟩ => { s with countedReceived := s.countedReceived + 1 }
  | ⟨.countSent, _⟩ => { s with countedSent := s.countedSent + 1 }
  | _ => s

/-- Whether an answer is possible: the clock does not go back and stays within
64 bits of nanoseconds from the server's start, and a timer that is not set
does not end. -/
def possible : MockEvent → Bool
  | ⟨.now, time⟩ => Nat.ble s.clock time && Nat.blt time (epoch + 2 ^ 64)
  | ⟨.select ping _, .ping⟩ => ping.isSome
  | ⟨.select _ due, .due⟩ => due.isSome
  | _ => true

/-- Everything received and sent was counted. -/
def Counted : Prop :=
  s.countedReceived = s.arrived.length ∧ s.countedSent = s.sent.length

/-- The next entry is this one, and may be sent. -/
def Owes (item : Queued) : Prop :=
  ∃ due, s.owed[s.sent.length]? = some (due, item) ∧ Ripe config.stall epoch due s.clock

/-- What an event has to pay: the session waits for the next entry, sends only
the next entry, and closes when the server stops, when it sent as many frames
as it was told to, or when that is the next entry. -/
def Pays : MockEvent → Prop
  | ⟨.select _ due, _⟩ => s.undated = none ∧ due = s.nextDue
  | ⟨.send message, _⟩ => s.Owes config epoch (.frame message)
  | ⟨.close frame, _⟩ =>
    s.stopping = true ∧ frame = ⟨1001, "server shutting down"⟩
      ∨ config.closeAfter = some s.sent.length ∧ frame = ⟨1000, "close-after"⟩
      ∨ s.Owes config epoch (.close frame)
  | _ => True

/-- **What an event has to be**: after a Close frame nothing but reads, every
frame counted before anything else happens, nothing but the close after as
many frames as the session may send, and what is owed. -/
structure Serves (event : MockEvent) : Prop where
  closed : s.closed = true → event.1 = .discard
  counted : event.1 ≠ .countReceived → event.1 ≠ .countSent → s.Counted
  full : config.closeAfter = some s.sent.length →
    event.1 = .countSent ∨ event.1 = .close ⟨1000, "close-after"⟩ ∨ event.1 = .discard
  pays : s.Pays config epoch event

end Events

/-- The ledger as a reader of traces. -/
def checker (serde : Serde) (config : MockConfig) (epoch : Instant) :
    Checker MockEff MockEff.Answer MockLedger where
  change := change serde config
  Admits := fun s event => s.possible epoch event = true
  Fine := fun s event => s.Serves config epoch event

instance decidableAdmits (serde : Serde) (config : MockConfig) (epoch : Instant) (s : MockLedger)
    (event : MockEvent) : Decidable ((checker serde config epoch).Admits s event) :=
  inferInstanceAs (Decidable (s.possible epoch event = true))

/-! ## The states between two questions

The loop's own queue, its counter and its generator agree with the ledger; only
the clock of the ledger moves on between two turns. -/

/-- A session that may send more frames. -/
structure Going (config : MockConfig) (s : MockLedger) : Prop where
  counted : s.Counted
  closed : s.closed = false
  below : config.closeAfter ≠ some s.sent.length

/-- The loop's state is what the ledger says, up to the frames received. -/
structure Follows (state : MockState) (s : MockLedger) : Prop where
  outgoing : state.outgoing = .echo (s.owed.drop s.sent.length)
  rng : state.rng = s.rng
  replies : state.replies = s.sent.length
  pingAt : state.pingAt = none
  pongBy : state.pongBy = none

/-- Between two turns. -/
structure Serving (config : MockConfig) (state : MockState) (s : MockLedger) : Prop
    extends Going config s, Follows state s where
  received : state.received = s.arrived.length
  undated : s.undated = none
  answers : ∀ entry ∈ s.owed, ∀ message, entry.2 ≠ .control message
  owing : s.sent.length ≤ s.owed.length

section States

variable {serde : Serde} {config : MockConfig} {epoch : Instant} {state : MockState}
  {s : MockLedger}

/-- What a going session does is as it has to be when it pays. -/
theorem Going.serves (h : Going config s) {event : MockEvent} (hpays : s.Pays config epoch event) :
    s.Serves config epoch event where
  closed := fun hclosed => absurd (hclosed.symm.trans h.closed) Bool.noConfusion
  counted := fun _ _ => h.counted
  full := fun hfull => absurd hfull h.below
  pays := hpays

theorem Serving.later (h : Serving config state s) (clock : Instant) :
    Serving config state { s with clock } :=
  ⟨⟨h.counted, h.closed, h.below⟩, ⟨h.outgoing, h.rng, h.replies, h.pingAt, h.pongBy⟩,
    h.received, h.undated, h.answers, h.owing⟩

theorem Serving.stops (h : Serving config state s) :
    Serving config state { s with stopping := true } :=
  ⟨⟨h.counted, h.closed, h.below⟩, ⟨h.outgoing, h.rng, h.replies, h.pingAt, h.pongBy⟩,
    h.received, h.undated, h.answers, h.owing⟩

/-- Between two turns a reading of the clock only moves it. -/
theorem Serving.read (h : Serving config state s) (time : Instant) :
    s.read serde config time = { s with clock := time } := by
  unfold MockLedger.read
  rw [h.undated]

end States

/-! ## The parts of the session -/

section Parts

variable {serde : Serde} {config : MockConfig} {epoch : Instant} {R : Type}
  {state : MockState}

theorem possible_now {s : MockLedger} {time : Instant}
    (h : s.possible epoch ⟨.now, time⟩ = true) : s.clock ≤ time ∧ time < epoch + 2 ^ 64 := by
  obtain ⟨hle, hlt⟩ := Bool.and_eq_true_iff.mp h
  exact ⟨Nat.le_of_ble_eq_true hle, Nat.le_of_ble_eq_true hlt⟩

/-- While the connection closes, what arrives is only read. -/
theorem holds_drain :
    (checker serde config epoch).Holds (fun s => s.closed = true ∧ s.Counted) drain
      fun _ s => s.Counted := by
  have hdiscard : (checker serde config epoch).Holds (fun s => s.closed = true ∧ s.Counted)
      MockAsk.discard fun _ s => s.closed = true ∧ s.Counted :=
    Holds.ask fun s _ hs _ =>
      ⟨⟨fun _ => rfl, fun _ _ => hs.2, fun _ => .inr (.inr rfl), trivial⟩, hs⟩
  refine Holds.loop (fun _ (s : MockLedger) => s.closed = true ∧ s.Counted) fun _ => ?_
  refine Holds.bind hdiscard fun more => Holds.ite (fun _ => ?_) fun _ => ?_
  · exact Holds.pure fun s hs => hs
  · exact Holds.pure fun s hs => hs.2

/-- A close ends the session. -/
theorem keeps_closeSession {pre : MockLedger → Prop} (code : ℕ) (reason : String)
    (hpre : ∀ s, pre s → s.Serves config epoch ⟨.close ⟨code, reason⟩, ()⟩)
    {post : R → MockLedger → Prop} :
    (checker serde config epoch).Keeps pre (closeSession code reason) post
      fun _ s => s.Counted := by
  have hclose : (checker serde config epoch).Holds pre (MockAsk.close code reason)
      fun _ s => s.closed = true ∧ s.Counted :=
    Holds.ask fun s _ hs _ => ⟨hpre s hs, rfl, (hpre s hs).counted nofun nofun⟩
  refine Keeps.bind (Keeps.lift hclose) fun _ => ?_
  refine Keeps.bind (Keeps.lift holds_drain) fun _ => ?_
  exact Keeps.throw fun s hs => hs

theorem keeps_shutDown {pre : MockLedger → Prop}
    (hpre : ∀ s, pre s → Going config s ∧ s.stopping = true) {post : R → MockLedger → Prop} :
    (checker serde config epoch).Keeps pre shutDown post fun _ s => s.Counted :=
  keeps_closeSession 1001 "server shutting down" fun s hs =>
    (hpre s hs).1.serves (.inl ⟨(hpre s hs).2, rfl⟩)

/-- The next entry is due. -/
def IsDue (config : MockConfig) (state : MockState) (s : MockLedger) : Prop :=
  Serving config state s ∧ ∃ due item, s.owed[s.sent.length]? = some (due, item) ∧ due ≤ s.clock

/-- What a session does next. -/
theorem holds_nextEvent (due : Option Instant) :
    (checker serde config epoch).Holds
      (fun s => Serving config state s ∧ due = s.nextDue) (nextEvent none due)
      fun woken s => match woken with
        | .cancelled => Serving config state s ∧ s.stopping = true
        | .ping => False
        | .due => IsDue config state s
        | .received item => ∃ s₀, Serving config state s₀
          ∧ s = s₀.change serde config ⟨.select none due, .received item⟩ := by
  -- a wait that was woken says by what
  have hselect : ∀ due, (checker serde config epoch).Holds
      (fun s => Serving config state s ∧ due = s.nextDue) (MockAsk.select none due)
      fun woken s => match woken with
        | .cancelled => Serving config state s ∧ s.stopping = true
        | .ping => False
        | .due => IsDue config state s
        | .received item => ∃ s₀, Serving config state s₀
          ∧ s = s₀.change serde config ⟨.select none due, .received item⟩ := by
    intro due
    refine Holds.ask ?_
    rintro s woken ⟨hs, hdue⟩ hadm
    refine ⟨hs.serves ⟨hs.undated, hdue⟩, ?_⟩
    match woken with
    | .cancelled => exact ⟨hs.stops, rfl⟩
    | .ping => exact absurd hadm Bool.false_ne_true
    | .due =>
      obtain ⟨time, rfl⟩ := Option.isSome_iff_exists.mp hadm
      obtain ⟨⟨_, item⟩, hitem, rfl⟩ := Option.map_eq_some_iff.mp hdue.symm
      exact ⟨hs.later _, _, item, hitem, le_max_right _ _⟩
    | .received item => exact ⟨s, hs, rfl⟩
  cases due with
  | none => exact hselect none
  | some time =>
    have hnow : (checker serde config epoch).Holds
        (fun s => Serving config state s ∧ some time = s.nextDue) MockAsk.now
        fun now s => (Serving config state s ∧ some time = s.nextDue) ∧ now = s.clock := by
      refine Holds.ask ?_
      rintro s now ⟨hs, hdue⟩ _
      refine ⟨hs.serves trivial, ?_⟩
      have hread : (checker serde config epoch).change s ⟨.now, now⟩ = { s with clock := now } :=
        hs.read now
      rw [hread]
      exact ⟨⟨hs.later now, hdue⟩, rfl⟩
    refine Holds.bind hnow fun now => Holds.ite (fun hdue => ?_) fun _ => ?_
    · have hcancelled : (checker serde config epoch).Holds
          (fun s => (Serving config state s ∧ some time = s.nextDue) ∧ now = s.clock)
          MockAsk.isCancelled
          fun cancelled s => (Serving config state s ∧ some time = s.nextDue ∧ now = s.clock)
            ∧ (cancelled = true → s.stopping = true) := by
        refine Holds.ask ?_
        rintro s cancelled ⟨⟨hs, hnext⟩, hclock⟩ _
        refine ⟨hs.serves trivial, ?_⟩
        cases cancelled with
        | true => exact ⟨⟨hs.stops, hnext, hclock⟩, fun _ => rfl⟩
        | false => exact ⟨⟨hs, hnext, hclock⟩, nofun⟩
      refine Holds.bind hcancelled fun cancelled => Holds.ite (fun htrue => ?_) fun _ => ?_
      · exact Holds.pure fun s hs => ⟨hs.1.1, hs.2 htrue⟩
      · refine Holds.pure fun s hs => ?_
        obtain ⟨⟨_, item⟩, hitem, rfl⟩ := Option.map_eq_some_iff.mp hs.1.2.1.symm
        exact ⟨hs.1.1, _, item, hitem, hdue.trans hs.1.2.2.le⟩
    · exact Holds.weaken (hselect (some time)) (fun s hs => hs.1) fun _ _ h => h

/-- An entry that is due may be sent once no stall holds it back. -/
theorem keeps_awaitRelease :
    (checker serde config epoch).Keeps (IsDue config state) (awaitRelease config epoch)
      (fun _ s => Serving config state s ∧ ∃ item, s.Owes config epoch item)
      fun _ s => s.Counted := by
  -- the clock is read first, and says whether a stall holds the reply back
  have hnow : (checker serde config epoch).Holds (IsDue config state) MockAsk.now
      fun now s => IsDue config state s ∧ now = s.clock ∧ now < epoch + 2 ^ 64 := by
    refine Holds.ask ?_
    rintro s now ⟨hs, due, item, hitem, hdue⟩ hadm
    have hread : (checker serde config epoch).change s ⟨.now, now⟩ = { s with clock := now } :=
      hs.read now
    obtain ⟨hle, hlt⟩ := possible_now hadm
    refine ⟨hs.serves trivial, ?_⟩
    rw [hread]
    exact ⟨⟨hs.later now, due, item, hitem, hdue.trans hle⟩, rfl, hlt⟩
  refine Keeps.bind (Keeps.lift hnow) fun now => ?_
  cases hrelease : config.stall.bind (·.release epoch now) with
  | none =>
    refine Keeps.pure ?_
    rintro s ⟨⟨hs, due, item, hitem, hdue⟩, rfl, -⟩
    exact ⟨hs, item, due, hitem, ripe_of_free hdue hrelease⟩
  | some release =>
    have hsleep : (checker serde config epoch).Holds
        (fun s => IsDue config state s ∧ now = s.clock ∧ now < epoch + 2 ^ 64)
        (MockAsk.sleepUntil release)
        fun slept s => Serving config state s
          ∧ if slept = true then ∃ item, s.Owes config epoch item else s.stopping = true := by
      refine Holds.ask ?_
      rintro s slept ⟨⟨hs, due, item, hitem, hdue⟩, rfl, hlt⟩ -
      refine ⟨hs.serves trivial, ?_⟩
      cases slept with
      | true =>
        have hripe := ripe_of_release hdue hrelease hlt (le_max_right s.clock release)
        exact ⟨hs.later _, item, due, hitem, hripe⟩
      | false => exact ⟨hs.stops, rfl⟩
    refine Keeps.bind (Keeps.lift hsleep) fun slept => Keeps.ite (fun hslept => ?_) fun hslept => ?_
    · refine Keeps.pure fun s hs => ?_
      rwa [if_pos hslept] at hs
    · refine keeps_shutDown fun s hs => ?_
      rw [if_neg hslept] at hs
      exact ⟨hs.1.toGoing, hs.2⟩

/-- The next entry was taken out of the queue, and may be sent. -/
structure Popped (config : MockConfig) (epoch : Instant) (state : MockState)
    (rest : List (Instant × Queued)) (item : Queued) (s : MockLedger) : Prop
    extends Serving config state s where
  owes : s.Owes config epoch item
  rest : rest = s.owed.drop (s.sent.length + 1)

/-- A frame is sent and counted. -/
theorem Popped.sent {rest : List (Instant × Queued)} {message : Message} {s : MockLedger}
    (h : Popped config epoch state rest (.frame message) s) :
    let s' := { s with sent := s.sent ++ [message], countedSent := s.countedSent + 1 }
    s'.Counted ∧ s'.closed = false ∧ Follows
      { state with outgoing := .echo rest, replies := state.replies + 1 } s' := by
  have hlength : (s.sent ++ [message]).length = s.sent.length + 1 := List.length_append
  refine ⟨⟨h.counted.1, ?_⟩, h.closed, ?_, h.rng, ?_, h.pingAt, h.pongBy⟩
  · show s.countedSent + 1 = _
    rw [hlength, h.counted.2]
  · show Outgoing.echo rest = .echo (s.owed.drop (s.sent ++ [message]).length)
    rw [hlength, h.rest]
  · show state.replies + 1 = _
    rw [hlength, h.replies]

/-- The next entry is sent, and a frame counted. -/
theorem keeps_sendQueued (rest : List (Instant × Queued)) (item : Queued) :
    (checker serde config epoch).Keeps (Popped config epoch state rest item)
      (sendQueued config { state with outgoing := .echo rest } item) (Serving config)
      fun _ s => s.Counted := by
  match item with
  | .control message =>
    refine Keeps.absurd fun s h => ?_
    obtain ⟨due, hitem, -⟩ := h.owes
    exact h.answers _ (List.mem_of_getElem? hitem) message rfl
  | .close frame =>
    exact keeps_closeSession _ _ fun s h => h.serves (.inr (.inr h.owes))
  | .frame message =>
    have hsend : (checker serde config epoch).Holds
        (Popped config epoch state rest (.frame message)) (MockAsk.send message)
        fun sent s => if sent = true then
          ∃ s₀, Popped config epoch state rest (.frame message) s₀
            ∧ s = { s₀ with sent := s₀.sent ++ [message] }
          else s.Counted := by
      refine Holds.ask fun s sent h _ => ⟨h.serves h.owes, ?_⟩
      cases sent with
      | true => exact ⟨s, h, rfl⟩
      | false => exact h.counted
    have hcount : (checker serde config epoch).Holds
        (fun s => ∃ s₀, Popped config epoch state rest (.frame message) s₀
          ∧ s = { s₀ with sent := s₀.sent ++ [message] }) MockAsk.countSent
        fun _ s => ∃ s₀, Popped config epoch state rest (.frame message) s₀
          ∧ s = { s₀ with sent := s₀.sent ++ [message], countedSent := s₀.countedSent + 1 } := by
      refine Holds.ask ?_
      rintro _ _ ⟨s, h, rfl⟩ -
      refine ⟨⟨fun hclosed => ?_, fun _ hcount => absurd rfl hcount, fun _ => .inl rfl, trivial⟩,
        s, h, rfl⟩
      exact absurd (hclosed.symm.trans h.closed) Bool.noConfusion
    refine Keeps.bind (Keeps.lift hsend) fun sent => Keeps.ite (fun hsent => ?_) fun hsent => ?_
    · refine Keeps.bind (Keeps.lift (hcount.weaken (fun s hs => ?_) fun _ _ h => h)) fun _ => ?_
      · rwa [if_pos hsent] at hs
      refine Keeps.ite (fun hfull => keeps_closeSession _ _ ?_) fun hbelow => Keeps.pure ?_
      · rintro _ ⟨s, h, rfl⟩
        obtain ⟨hcounted, hclosed, hfollows⟩ := h.sent
        refine ⟨fun htrue => absurd (htrue.symm.trans hclosed) Bool.noConfusion,
          fun _ _ => hcounted, fun _ => .inr (.inl rfl), .inr (.inl ⟨?_, rfl⟩)⟩
        rw [hfull, hfollows.replies]
      · rintro _ ⟨s, h, rfl⟩
        obtain ⟨hcounted, hclosed, hfollows⟩ := h.sent
        refine ⟨⟨hcounted, hclosed, fun hfull => hbelow ?_⟩, hfollows, h.received, h.undated,
          h.answers, ?_⟩
        · rw [hfull, hfollows.replies]
        · obtain ⟨due, hitem, -⟩ := h.owes
          show (s.sent ++ [message]).length ≤ s.owed.length
          rw [List.length_append]
          exact (List.getElem?_eq_some_iff.mp hitem).1
    · refine Keeps.throw fun s hs => ?_
      rwa [if_neg hsent] at hs

/-- The next entry goes out. -/
theorem keeps_sendDue :
    (checker serde config epoch).Keeps (IsDue config state) (sendDue config epoch state)
      (Serving config) fun _ s => s.Counted := by
  refine Keeps.bind keeps_awaitRelease fun _ => ?_
  obtain ⟨outgoing, rng, replies, received, sio, pingAt, pongBy⟩ := state
  match outgoing with
  | .replay frames start due =>
    exact Keeps.absurd fun s hs => nomatch hs.1.outgoing
  | .echo [] =>
    refine Keeps.absurd ?_
    rintro s ⟨hs, item, due, hitem, -⟩
    have hnil : s.owed.drop s.sent.length = [] := (Outgoing.echo.inj hs.outgoing).symm
    rw [← List.head?_drop, hnil] at hitem
    exact nomatch hitem
  | .echo ((time, item) :: rest) =>
    refine Keeps.weaken (keeps_sendQueued rest item) (fun s hs => ?_) fun _ _ h => h
    obtain ⟨hs, item', due, hitem, hripe⟩ := hs
    have hcons : s.owed.drop s.sent.length = (time, item) :: rest :=
      (Outgoing.echo.inj hs.outgoing).symm
    have hhead : (time, item) = (due, item') := by
      rw [← List.head?_drop, hcons] at hitem
      exact Option.some.inj hitem
    obtain ⟨rfl, rfl⟩ := Prod.mk.inj hhead
    refine ⟨hs, ⟨time, hitem, hripe⟩, ?_⟩
    rw [← List.tail_drop, hcons]
    rfl

/-- A data frame was received and counted. -/
def receiveCounted (serde : Serde) (config : MockConfig) (message : Message) (s : MockLedger) :
    MockLedger :=
  { s.receive serde config message with countedReceived := s.countedReceived + 1 }

/-- What a decision puts into the queue are replies. -/
theorem ne_control_of_mem_entries {decision : Decision} {message : Message} {item : Queued}
    (h : item ∈ decision.entries message) (other : Message) : item ≠ .control other := by
  cases decision with
  | echo =>
    obtain rfl := List.mem_singleton.mp h
    exact Queued.noConfusion
  | ignore => exact nomatch h
  | reply frames delay close =>
    rcases List.mem_append.mp h with hframe | hclose
    · obtain ⟨reply, -, rfl⟩ := List.mem_map.mp hframe
      exact Queued.noConfusion
    · obtain ⟨reason, -, rfl⟩ := Option.map_eq_some_iff.mp (Option.mem_toList.mp hclose)
      exact Queued.noConfusion

theorem Serving.length_snoc {s : MockLedger} (h : Serving config state s) (message : Message) :
    (s.arrived ++ [message]).length = state.received + 1 := by
  rw [h.received]
  exact List.length_append

theorem Serving.counted_snoc {s : MockLedger} (h : Serving config state s) (message : Message) :
    (s.receiveCounted serde config message).Counted := by
  refine ⟨?_, h.counted.2⟩
  show s.countedReceived + 1 = (s.arrived ++ [message]).length
  rw [h.length_snoc, h.counted.1, h.received]

/-- A received frame that is ignored. -/
theorem Serving.ignored {s : MockLedger} (h : Serving config state s) {message : Message}
    (hdecision : config.decision serde message (state.received + 1) = .ignore) :
    Serving config { state with received := state.received + 1 }
      (s.receiveCounted serde config message) := by
  refine ⟨⟨h.counted_snoc message, h.closed, h.below⟩, ⟨h.outgoing, h.rng, h.replies, h.pingAt,
    h.pongBy⟩, (h.length_snoc message).symm, ?_, h.answers, h.owing⟩
  show (if config.decision serde message (s.arrived ++ [message]).length = .ignore then none
    else some message) = none
  rw [h.length_snoc, if_pos hdecision]

/-- What a received frame gives is put into the queue. -/
theorem Serving.dated {s : MockLedger} (h : Serving config state s) (message : Message)
    (now : Instant) :
    let decision := config.decision serde message (state.received + 1)
    let drawn := config.replyDelayFrom (decision.delay.getD config.delay) state.rng
    Serving config
      { state with
        received := state.received + 1
        rng := drawn.2
        outgoing := state.outgoing.push
          ((decision.entries message).map fun item => (now + drawn.1, item)) }
      ((s.receiveCounted serde config message).date serde config message now) := by
  have hdate : (s.receiveCounted serde config message).date serde config message now
      = let decision := config.decision serde message (state.received + 1)
        let drawn := config.replyDelayFrom (decision.delay.getD config.delay) state.rng
        { s with
          clock := now
          rng := drawn.2
          arrived := s.arrived ++ [message]
          countedReceived := s.countedReceived + 1
          undated := none
          owed := s.owed ++ (decision.entries message).map fun item => (now + drawn.1, item) } := by
    rw [← h.length_snoc message, h.rng]
    rfl
  have hcounted : (s.receiveCounted serde config message).Counted := h.counted_snoc message
  intro decision drawn
  rw [hdate]
  refine ⟨⟨hcounted, h.closed, h.below⟩,
    ⟨?_, rfl, h.replies, h.pingAt, h.pongBy⟩, (h.length_snoc message).symm, rfl, ?_, ?_⟩
  · show state.outgoing.push _ = .echo ((s.owed ++ _).drop s.sent.length)
    rw [h.outgoing, List.drop_append_of_le_length h.owing]
    rfl
  · intro entry hentry
    rcases List.mem_append.mp hentry with hold | hnew
    · exact h.answers entry hold
    · obtain ⟨item, hitem, rfl⟩ := List.mem_map.mp hnew
      exact ne_control_of_mem_entries hitem
  · exact h.owing.trans (by rw [List.length_append]; exact Nat.le_add_right _ _)

/-- What a frame gives is queued. -/
theorem holds_queueReplies (message : Message) :
    (checker serde config epoch).Holds
      (fun s => ∃ s₀, Serving config state s₀ ∧ s = s₀.receiveCounted serde config message)
      (queueReplies serde config { state with received := state.received + 1 } message)
      (Serving config) := by
  -- the reading that dates the frame; an ignored frame has none
  have hnow : config.decision serde message (state.received + 1) ≠ .ignore →
      (checker serde config epoch).Holds
        (fun s => ∃ s₀, Serving config state s₀ ∧ s = s₀.receiveCounted serde config message)
        MockAsk.now fun now s => ∃ s₀, Serving config state s₀
          ∧ s = (s₀.receiveCounted serde config message).date serde config message now := by
    intro hdecision
    refine Holds.ask ?_
    rintro _ now ⟨s, hs, rfl⟩ -
    have hundated : (s.receiveCounted serde config message).undated = some message := by
      show (if config.decision serde message (s.arrived ++ [message]).length = .ignore then none
        else some message) = some message
      rw [hs.length_snoc, if_neg hdecision]
    refine ⟨⟨fun hclosed => ?_, fun _ _ => hs.counted_snoc message,
      fun hfull => absurd hfull hs.below, trivial⟩, s, hs, ?_⟩
    · exact absurd (hclosed.symm.trans hs.closed) Bool.noConfusion
    · show (s.receiveCounted serde config message).read serde config now = _
      unfold MockLedger.read
      rw [hundated]
  have hdated : ∀ now s, (∃ s₀, Serving config state s₀
      ∧ s = (s₀.receiveCounted serde config message).date serde config message now) →
      let decision := config.decision serde message (state.received + 1)
      let drawn := config.replyDelayFrom (decision.delay.getD config.delay) state.rng
      Serving config
        { state with
          received := state.received + 1
          rng := drawn.2
          outgoing := state.outgoing.push
            ((decision.entries message).map fun item => (now + drawn.1, item)) } s := by
    rintro now _ ⟨s, hs, rfl⟩
    exact hs.dated message now
  unfold queueReplies
  cases hdecision : config.decision serde message (state.received + 1) with
  | ignore =>
    refine Holds.pure ?_
    rintro _ ⟨s, hs, rfl⟩
    exact hs.ignored hdecision
  | echo =>
    rw [hdecision] at hnow hdated
    exact Holds.bind (hnow nofun) fun now => Holds.pure (hdated now)
  | reply frames delay close =>
    rw [hdecision] at hnow hdated
    exact Holds.bind (hnow nofun) fun now => Holds.pure (hdated now)

section Loop

variable {engineIo3 : Bool} {sid : String}

/-- A data frame is counted, and what it gives is queued. -/
theorem holds_receiveData (hsocketio : config.socketio = none) (message : Message) :
    (checker serde config epoch).Holds
      (fun s => ∃ s₀, Serving config state s₀ ∧ s = s₀.receive serde config message)
      (receiveData serde config engineIo3 sid state message) (Serving config) := by
  have hcount : (checker serde config epoch).Holds
      (fun s => ∃ s₀, Serving config state s₀ ∧ s = s₀.receive serde config message)
      MockAsk.countReceived fun _ s => ∃ s₀, Serving config state s₀
        ∧ s = s₀.receiveCounted serde config message := by
    refine Holds.ask ?_
    rintro _ _ ⟨s, hs, rfl⟩ -
    refine ⟨⟨fun hclosed => ?_, fun hcount => absurd rfl hcount,
      fun hfull => absurd hfull hs.below, trivial⟩, s, hs, rfl⟩
    exact absurd (hclosed.symm.trans hs.closed) Bool.noConfusion
  have hanswers : ∀ s, Serving config state s → state.outgoing.answers = true := by
    intro s hs
    rw [hs.outgoing]
    rfl
  unfold receiveData
  rw [hsocketio]
  refine Holds.bind hcount fun _ => Holds.ite (fun _ => holds_queueReplies message) fun hno => ?_
  exact Holds.absurd fun s hs => hno (hanswers _ hs.choose_spec.1)

/-- What is read is answered, or ends the session. -/
theorem keeps_receiveItem (hsocketio : config.socketio = none) (due : Option Instant)
    (item : Item) :
    (checker serde config epoch).Keeps
      (fun s => ∃ s₀, Serving config state s₀
        ∧ s = s₀.change serde config ⟨.select none due, .received item⟩)
      (receiveItem serde config engineIo3 sid state item) (Serving config)
      fun _ s => s.Counted := by
  match item with
  | some (.ok (.text text)) => exact Keeps.lift (holds_receiveData hsocketio (.text text))
  | some (.ok (.binary bytes)) => exact Keeps.lift (holds_receiveData hsocketio (.binary bytes))
  | some (.ok (.close frame)) =>
    have hfinish : (checker serde config epoch).Holds
        (fun s => ∃ s₀, Serving config state s₀
          ∧ s = s₀.change serde config ⟨.select none due, .received (some (.ok (.close frame)))⟩)
        MockAsk.finishClose fun _ s => s.Counted := by
      refine Holds.ask ?_
      rintro _ _ ⟨s, hs, rfl⟩ -
      exact ⟨hs.serves trivial, hs.counted⟩
    exact Keeps.bind (Keeps.lift hfinish) fun _ => Keeps.throw fun s hs => hs
  | some (.ok (.ping bytes)) => exact Keeps.pure fun s ⟨_, hs, heq⟩ => heq ▸ hs
  | some (.ok (.pong bytes)) => exact Keeps.pure fun s ⟨_, hs, heq⟩ => heq ▸ hs
  | some (.ok .frame) => exact Keeps.pure fun s ⟨_, hs, heq⟩ => heq ▸ hs
  | some (.error err) => exact Keeps.throw fun s ⟨_, hs, heq⟩ => heq ▸ hs.counted
  | none => exact Keeps.throw fun s ⟨_, hs, heq⟩ => heq ▸ hs.counted

/-- One turn of the loop. -/
theorem keeps_mockRound (hsocketio : config.socketio = none) :
    (checker serde config epoch).Keeps (Serving config state)
      (mockRound serde config epoch engineIo3 sid state) (Serving config)
      fun _ s => s.Counted := by
  obtain ⟨outgoing, rng, replies, received, sio, pingAt, pongBy⟩ := state
  match outgoing, pingAt, pongBy with
  | .replay _ _ _, _, _ => exact Keeps.absurd fun s hs => nomatch hs.outgoing
  | .echo _, some _, _ => exact Keeps.absurd fun s hs => nomatch hs.pingAt
  | .echo _, none, some _ => exact Keeps.absurd fun s hs => nomatch hs.pongBy
  | .echo queue, none, none =>
    have hnext : (checker serde config epoch).Holds
        (Serving config ⟨.echo queue, rng, replies, received, sio, none, none⟩)
        (nextEvent none (queue.head?.map Prod.fst)) _ :=
      (holds_nextEvent (queue.head?.map Prod.fst)).weaken (fun s hs => ⟨hs, by
        rw [Outgoing.echo.inj hs.outgoing, List.head?_drop]
        rfl⟩) fun _ _ h => h
    refine Keeps.bind (Keeps.lift hnext) fun woken => ?_
    match woken with
    | .ping => exact Keeps.absurd fun s hs => hs
    | .cancelled => exact keeps_shutDown fun s hs => ⟨hs.1.toGoing, hs.2⟩
    | .due => exact keeps_sendDue
    | .received item => exact keeps_receiveItem hsocketio _ item

end Loop

end Parts

/-- What a ledger starts with. -/
def start (seed : UInt64) : MockLedger := { rng := .new seed }

/-- **Every event of a session is as it has to be**, and a session that ends
has counted what it received and sent. -/
theorem serves_runSession {serde : Serde} {config : MockConfig} {epoch : Instant}
    {engineIo3 : Bool} {seed : UInt64} {index : ℕ} (hreplay : config.replay = none)
    (hsocketio : config.socketio = none) {trace : List MockEvent} {result : Option Unit}
    (hrun : Proc.Runs (runSession serde config epoch engineIo3 seed index) trace result)
    (haccepts : (checker serde config epoch).Accepts (start seed) trace) :
    (checker serde config epoch).AllFine (start seed) trace
      ∧ ∀ r ∈ result, ((checker serde config epoch).after (start seed) trace).Counted := by
  have hstart : startSession config engineIo3 ("wsblast-mock-" ++ toString index) seed index
      = pure { outgoing := .echo [], rng := .new seed
               sio := { engine := if engineIo3 then .v3 else .v4 } } := by
    unfold startSession
    rw [hreplay, hsocketio]
  have hserving : Serving config
      { outgoing := .echo [], rng := .new seed
        sio := { engine := if engineIo3 then .v3 else .v4 } } (start seed) :=
    ⟨⟨⟨rfl, rfl⟩, rfl, config.closes⟩, ⟨rfl, rfl, rfl, rfl, rfl⟩, rfl, rfl, nofun, Nat.le_refl 0⟩
  have hbegin : (checker serde config epoch).Holds (· = start seed)
      (startSession config engineIo3 ("wsblast-mock-" ++ toString index) seed index)
      (Serving config) := by
    rw [hstart]
    refine Holds.pure ?_
    rintro s rfl
    exact hserving
  exact Checker.sound (Holds.bind hbegin fun state =>
    Holds.forever (Serving config) fun state => keeps_mockRound hsocketio) rfl hrun haccepts

/-! ## What the ledger shows -/

section Shows

variable {serde : Serde} {config : MockConfig} {epoch : Instant} {s : MockLedger}

/-- What an event adds to the frames and counts of a ledger. -/
structure Adds (event : MockEvent) (s s' : MockLedger) : Prop where
  arrived : s'.arrived = s.arrived ++ (arrival event).toList
  sent : s'.sent = s.sent ++ (sentFrame event).toList
  countedReceived : s'.countedReceived = s.countedReceived + (countsReceived event).toNat
  countedSent : s'.countedSent = s.countedSent + (countsSent event).toNat

theorem adds_change (event : MockEvent) : Adds event s (s.change serde config event) := by
  have hnone : ∀ frames : List Message, frames = frames ++ (none : Option Message).toList :=
    fun frames => (List.append_nil frames).symm
  match event with
  | ⟨.now, time⟩ =>
    have hread : Adds ⟨.now, time⟩ s (s.read serde config time) := by
      unfold MockLedger.read
      cases s.undated with
      | none => exact ⟨hnone _, hnone _, rfl, rfl⟩
      | some message => exact ⟨hnone _, hnone _, rfl, rfl⟩
    exact hread
  | ⟨.select ping due, .received (some (.ok message))⟩ =>
    have hreceive : Adds ⟨.select ping due, .received (some (.ok message))⟩ s
        (if message.isData then s.receive serde config message else s) := by
      cases hdata : message.isData with
      | true => exact ⟨by simp [arrival, hdata]; rfl, hnone _, rfl, rfl⟩
      | false => exact ⟨by simp [arrival, hdata], hnone _, rfl, rfl⟩
    exact hreceive
  | ⟨.select _ _, .received (some (.error _))⟩ => exact ⟨hnone _, hnone _, rfl, rfl⟩
  | ⟨.select _ _, .received none⟩ => exact ⟨hnone _, hnone _, rfl, rfl⟩
  | ⟨.select _ _, .cancelled⟩ => exact ⟨hnone _, hnone _, rfl, rfl⟩
  | ⟨.select _ _, .ping⟩ => exact ⟨hnone _, hnone _, rfl, rfl⟩
  | ⟨.select _ _, .due⟩ => exact ⟨hnone _, hnone _, rfl, rfl⟩
  | ⟨.isCancelled, true⟩ => exact ⟨hnone _, hnone _, rfl, rfl⟩
  | ⟨.isCancelled, false⟩ => exact ⟨hnone _, hnone _, rfl, rfl⟩
  | ⟨.sleepUntil _, true⟩ => exact ⟨hnone _, hnone _, rfl, rfl⟩
  | ⟨.sleepUntil _, false⟩ => exact ⟨hnone _, hnone _, rfl, rfl⟩
  | ⟨.send _, true⟩ => exact ⟨hnone _, rfl, rfl, rfl⟩
  | ⟨.send _, false⟩ => exact ⟨hnone _, hnone _, rfl, rfl⟩
  | ⟨.close _, _⟩ => exact ⟨hnone _, hnone _, rfl, rfl⟩
  | ⟨.finishClose, _⟩ => exact ⟨hnone _, hnone _, rfl, rfl⟩
  | ⟨.discard, _⟩ => exact ⟨hnone _, hnone _, rfl, rfl⟩
  | ⟨.countReceived, _⟩ => exact ⟨hnone _, hnone _, rfl, rfl⟩
  | ⟨.countSent, _⟩ => exact ⟨hnone _, hnone _, rfl, rfl⟩

theorem arrived_after (trace : List MockEvent) :
    ((checker serde config epoch).after s trace).arrived = s.arrived ++ arrivals trace := by
  induction trace generalizing s with
  | nil => exact (List.append_nil _).symm
  | cons event rest ih =>
    show ((checker serde config epoch).after (s.change serde config event) rest).arrived = _
    rw [ih, (adds_change event).arrived, List.append_assoc]
    unfold arrivals
    rw [List.filterMap_cons]
    cases arrival event <;> rfl

theorem sent_after (trace : List MockEvent) :
    ((checker serde config epoch).after s trace).sent = s.sent ++ sentFrames trace := by
  induction trace generalizing s with
  | nil => exact (List.append_nil _).symm
  | cons event rest ih =>
    show ((checker serde config epoch).after (s.change serde config event) rest).sent = _
    rw [ih, (adds_change event).sent, List.append_assoc]
    unfold sentFrames
    rw [List.filterMap_cons]
    cases sentFrame event <;> rfl

theorem countedReceived_after (trace : List MockEvent) :
    ((checker serde config epoch).after s trace).countedReceived
      = s.countedReceived + trace.countP countsReceived := by
  induction trace generalizing s with
  | nil => rfl
  | cons event rest ih =>
    show ((checker serde config epoch).after (s.change serde config event) rest).countedReceived = _
    rw [ih, (adds_change event).countedReceived, List.countP_cons, Nat.add_assoc, Nat.add_comm _
      (List.countP _ _)]
    cases countsReceived event <;> rfl

theorem countedSent_after (trace : List MockEvent) :
    ((checker serde config epoch).after s trace).countedSent
      = s.countedSent + trace.countP countsSent := by
  induction trace generalizing s with
  | nil => rfl
  | cons event rest ih =>
    show ((checker serde config epoch).after (s.change serde config event) rest).countedSent = _
    rw [ih, (adds_change event).countedSent, List.countP_cons, Nat.add_assoc, Nat.add_comm _
      (List.countP _ _)]
    cases countsSent event <;> rfl

/-- What the last frame gives, while it has no due time. -/
def pendingReplies (serde : Serde) (config : MockConfig) (s : MockLedger) : List Queued :=
  (s.undated.map fun message => repliesTo serde config (message, s.arrived.length)).getD []

/-- What is owed is what the decisions give, and it is paid from the front. -/
structure InOrder (serde : Serde) (config : MockConfig) (s : MockLedger) : Prop where
  owed : s.owed.map Prod.snd ++ s.pendingReplies serde config = allReplies serde config s.arrived
  sent : s.sent.map Queued.frame <+: s.owed.map Prod.snd

/-- What comes next after a prefix. -/
theorem prefix_snoc {α : Type} {front whole : List α} {next : α} (h : front <+: whole)
    (hnext : whole[front.length]? = some next) : front ++ [next] <+: whole := by
  obtain ⟨rest, rfl⟩ := h
  rw [List.getElem?_append_right (Nat.le_refl _), Nat.sub_self] at hnext
  cases rest with
  | nil => exact nomatch hnext
  | cons first rest =>
    obtain rfl := Option.some.inj hnext
    exact ⟨rest, List.append_assoc _ _ _⟩

theorem Owes.snd {item : Queued} (h : s.Owes config epoch item) :
    (s.owed.map Prod.snd)[(s.sent.map Queued.frame).length]? = some item := by
  obtain ⟨due, hitem, -⟩ := h
  rw [List.length_map, List.getElem?_map, hitem]
  rfl

theorem InOrder.receive (h : InOrder serde config s) (hundated : s.undated = none)
    (message : Message) : InOrder serde config (s.receive serde config message) := by
  refine ⟨?_, h.sent⟩
  have howed := h.owed
  unfold pendingReplies at howed
  rw [hundated] at howed
  have hpending : (s.receive serde config message).pendingReplies serde config
      = repliesTo serde config (message, s.arrived.length + 1) := by
    have hlength : (s.arrived ++ [message]).length = s.arrived.length + 1 := List.length_append
    unfold pendingReplies MockLedger.receive
    simp only [hlength]
    split
    · rename_i hignore
      show [] = (config.decision serde message (s.arrived.length + 1)).entries message
      rw [hignore]
      rfl
    · rfl
  rw [hpending]
  show s.owed.map Prod.snd ++ _ = allReplies serde config (s.arrived ++ [message])
  rw [allReplies_snoc, ← howed]
  simp

theorem InOrder.read (h : InOrder serde config s) (time : Instant) :
    InOrder serde config (s.read serde config time) := by
  have howed := h.owed
  unfold pendingReplies at howed
  unfold MockLedger.read
  cases hundated : s.undated with
  | none =>
    rw [hundated] at howed
    exact ⟨howed, h.sent⟩
  | some message =>
    rw [hundated] at howed
    refine ⟨?_, h.sent.trans ?_⟩
    · show (s.owed ++ _).map Prod.snd ++ [] = allReplies serde config s.arrived
      rw [← howed, List.append_nil, List.map_append, List.map_map]
      exact congrArg (s.owed.map Prod.snd ++ ·) (List.map_id _)
    · show s.owed.map Prod.snd <+: (s.owed ++ _).map Prod.snd
      rw [List.map_append]
      exact List.prefix_append _ _

/-- **Every event that is as it has to be keeps the order.** -/
theorem InOrder.change (h : InOrder serde config s) (event : MockEvent)
    (hserves : s.Serves config epoch event) :
    InOrder serde config (s.change serde config event) := by
  -- only a reading, a frame and a send that went out change what is owed or paid
  match event with
  | ⟨.now, time⟩ => exact h.read time
  | ⟨.select ping due, .received (some (.ok message))⟩ =>
    have hreceive : InOrder serde config
        (if message.isData then s.receive serde config message else s) := by
      cases message.isData with
      | true => exact h.receive hserves.pays.1 message
      | false => exact h
    exact hreceive
  | ⟨.send message, true⟩ =>
    refine ⟨h.owed, ?_⟩
    show (s.sent ++ [message]).map Queued.frame <+: s.owed.map Prod.snd
    rw [List.map_append]
    exact prefix_snoc h.sent (Owes.snd hserves.pays)
  | ⟨.select _ _, .received (some (.error _))⟩ => exact h
  | ⟨.select _ _, .received none⟩ => exact h
  | ⟨.select _ _, .cancelled⟩ => exact ⟨h.owed, h.sent⟩
  | ⟨.select _ _, .ping⟩ => exact h
  | ⟨.select _ _, .due⟩ => exact ⟨h.owed, h.sent⟩
  | ⟨.isCancelled, true⟩ => exact ⟨h.owed, h.sent⟩
  | ⟨.isCancelled, false⟩ => exact h
  | ⟨.sleepUntil _, true⟩ => exact ⟨h.owed, h.sent⟩
  | ⟨.sleepUntil _, false⟩ => exact ⟨h.owed, h.sent⟩
  | ⟨.send _, false⟩ => exact h
  | ⟨.close _, _⟩ => exact ⟨h.owed, h.sent⟩
  | ⟨.finishClose, _⟩ => exact h
  | ⟨.discard, _⟩ => exact h
  | ⟨.countReceived, _⟩ => exact ⟨h.owed, h.sent⟩
  | ⟨.countSent, _⟩ => exact ⟨h.owed, h.sent⟩

end Shows

/-- After a Close frame nothing is done but reading. -/
theorem discards_of_closed {serde : Serde} {config : MockConfig} {epoch : Instant} {s : MockLedger}
    {trace : List MockEvent} (hfine : (checker serde config epoch).AllFine s trace)
    (hclosed : s.closed = true) : ∀ event ∈ trace, event.1 = .discard := by
  induction trace generalizing s with
  | nil => exact nofun
  | cons event rest ih =>
    obtain ⟨hserves, hrest⟩ := Checker.allFine_cons.mp hfine
    have hdiscard : event.1 = .discard := hserves.closed hclosed
    obtain ⟨e, a⟩ := event
    obtain rfl : e = .discard := hdiscard
    intro other hother
    rcases List.mem_cons.mp hother with rfl | hmem
    · rfl
    · exact ih hrest hclosed other hmem

end MockLedger

/-! ## Whole sessions

The statements about a trace as a whole, each a consequence of what the ledger
requires of every event. -/

section Sessions

variable (serde : Serde) (config : MockConfig) (epoch : Instant) (seed : UInt64)

/-- What a trace of a session shows. -/
def ledgerAfter (trace : List MockEvent) : MockLedger :=
  (MockLedger.checker serde config epoch).after (.start seed) trace

/-- What the session does next is to pay `item`: everything that the decisions
gave before it was sent, it is due, and the stall it became due in is over. -/
structure PaysNext (before : List MockEvent) (item : Queued) : Prop where
  next : ∃ later, allReplies serde config (arrivals before)
    = (sentFrames before).map .frame ++ item :: later
  ripe : ∃ due, (ledgerAfter serde config epoch seed before).owed[(sentFrames before).length]?
      = some (due, item)
    ∧ Ripe config.stall epoch due (ledgerAfter serde config epoch seed before).clock

/-- Every frame received and sent so far was counted. -/
def AllCounted (before : List MockEvent) : Prop :=
  before.countP countsReceived = (arrivals before).length
    ∧ before.countP countsSent = (sentFrames before).length

end Sessions

section Sessions

open MockLedger

section Trace

variable (serde : Serde) (config : MockConfig) (epoch : Instant) (seed : UInt64)

theorem arrived_ledgerAfter (trace : List MockEvent) :
    (ledgerAfter serde config epoch seed trace).arrived = arrivals trace := arrived_after trace

theorem sent_ledgerAfter (trace : List MockEvent) :
    (ledgerAfter serde config epoch seed trace).sent = sentFrames trace := sent_after trace

end Trace

variable {serde : Serde} {config : MockConfig} {epoch : Instant} {seed : UInt64}

theorem counted_ledgerAfter {trace : List MockEvent}
    (h : (ledgerAfter serde config epoch seed trace).Counted) : AllCounted trace := by
  obtain ⟨hreceived, hsent⟩ := h
  rw [arrived_ledgerAfter] at hreceived
  rw [sent_ledgerAfter] at hsent
  have hcountedReceived : (ledgerAfter serde config epoch seed trace).countedReceived = 0 + _ :=
    countedReceived_after trace
  have hcountedSent : (ledgerAfter serde config epoch seed trace).countedSent = 0 + _ :=
    countedSent_after trace
  rw [hcountedReceived, Nat.zero_add] at hreceived
  rw [hcountedSent, Nat.zero_add] at hsent
  exact ⟨hreceived, hsent⟩

theorem inOrder_ledgerAfter {trace : List MockEvent}
    (hfine : (checker serde config epoch).AllFine (.start seed) trace) :
    (ledgerAfter serde config epoch seed trace).InOrder serde config :=
  Checker.invariant hfine ⟨rfl, List.prefix_rfl⟩ fun _ event h hserves => h.change event hserves

/-- What is owed next was not overtaken. -/
theorem paysNext_of_owes {before : List MockEvent} {item : Queued}
    (hfine : (checker serde config epoch).AllFine (.start seed) before)
    (howes : (ledgerAfter serde config epoch seed before).Owes config epoch item) :
    PaysNext serde config epoch seed before item := by
  have horder := inOrder_ledgerAfter hfine
  obtain ⟨later, hlater⟩ := prefix_snoc horder.sent howes.snd
  refine ⟨⟨later ++ (ledgerAfter serde config epoch seed before).pendingReplies serde config, ?_⟩,
    ?_⟩
  · rw [← arrived_ledgerAfter serde config epoch seed,
      ← horder.owed, ← hlater, sent_ledgerAfter]
    simp
  · rw [← sent_ledgerAfter serde config epoch seed]
    exact howes

/-- **The mock answers in order and loses nothing.** In every run of a session
without Socket.IO or replay, whose clock does not go back:

* the frames sent are a prefix of what the decisions about the frames received
  give, in order of arrival;
* every frame sent is the next of them, is due, and no stall it became due in
  goes on;
* whenever the session waits, everything received was decided about, and it
  waits for the first entry that was not sent;
* a Close frame is the server's stop, the close after as many frames as the
  session may send, or the close of a rule, with everything before it sent; it
  is followed by nothing but reads;
* after as many frames as the session may send comes that close;
* every frame received and sent is counted once, at once. -/
theorem mock_replies {engineIo3 : Bool} {index : ℕ} (hreplay : config.replay = none)
    (hsocketio : config.socketio = none) {trace : List MockEvent} {result : Option Unit}
    (hrun : Proc.Runs (runSession serde config epoch engineIo3 seed index) trace result)
    (haccepts : (checker serde config epoch).Accepts (.start seed) trace) :
    sentFrames trace <+: (allReplies serde config (arrivals trace)).filterMap Queued.reply
    ∧ (∀ before message sent after, trace = before ++ ⟨.send message, sent⟩ :: after →
      PaysNext serde config epoch seed before (.frame message))
    ∧ (∀ before ping due woken after, trace = before ++ ⟨.select ping due, woken⟩ :: after →
      (ledgerAfter serde config epoch seed before).owed.map Prod.snd
          = allReplies serde config (arrivals before)
        ∧ due = (ledgerAfter serde config epoch seed before).nextDue)
    ∧ (∀ before frame after, trace = before ++ ⟨.close frame, ()⟩ :: after →
      ((ledgerAfter serde config epoch seed before).stopping = true
          ∧ frame = ⟨1001, "server shutting down"⟩
        ∨ config.closeAfter = some (sentFrames before).length ∧ frame = ⟨1000, "close-after"⟩
        ∨ PaysNext serde config epoch seed before (.close frame))
      ∧ ∀ event ∈ after, event.1 = .discard)
    ∧ (∀ before event after, trace = before ++ event :: after →
      config.closeAfter = some (sentFrames before).length →
      event.1 = .countSent ∨ event.1 = .close ⟨1000, "close-after"⟩ ∨ event.1 = .discard)
    ∧ (∀ before event after, trace = before ++ event :: after → event.1 ≠ .countReceived →
      event.1 ≠ .countSent → AllCounted before)
    ∧ ∀ r ∈ result, AllCounted trace := by
  obtain ⟨hfine, hended⟩ := serves_runSession hreplay hsocketio hrun haccepts
  have hcut : ∀ before rest, trace = before ++ rest →
      (checker serde config epoch).AllFine (.start seed) before := by
    rintro before rest rfl
    exact hfine.cut
  have hserves : ∀ before event after, trace = before ++ event :: after →
      (ledgerAfter serde config epoch seed before).Serves config epoch event := hfine
  refine ⟨?_, ?_, ?_, ?_, ?_, ?_, fun r hr => counted_ledgerAfter (hended r hr)⟩
  · have horder := inOrder_ledgerAfter hfine
    have hprefix : (ledgerAfter serde config epoch seed trace).sent.map Queued.frame
        <+: allReplies serde config (arrivals trace) := by
      rw [← arrived_ledgerAfter serde config epoch seed,
        ← horder.owed]
      exact horder.sent.trans (List.prefix_append _ _)
    have hreplies := hprefix.filterMap Queued.reply
    rw [List.filterMap_map, sent_ledgerAfter] at hreplies
    rwa [show Queued.reply ∘ Queued.frame = some from rfl, List.filterMap_some] at hreplies
  · intro before message sent after htrace
    exact paysNext_of_owes (hcut _ _ htrace) (hserves _ _ _ htrace).pays
  · intro before ping due woken after htrace
    obtain ⟨hundated, hdue⟩ := (hserves _ _ _ htrace).pays
    have howed := (inOrder_ledgerAfter (hcut _ _ htrace)).owed
    unfold pendingReplies at howed
    rw [hundated, arrived_ledgerAfter] at howed
    exact ⟨(List.append_nil _).symm.trans howed, hdue⟩
  · intro before frame after htrace
    constructor
    · rcases (hserves _ _ _ htrace).pays with hstop | hfull | howes
      · exact .inl hstop
      · rw [sent_ledgerAfter] at hfull
        exact .inr (.inl hfull)
      · exact .inr (.inr (paysNext_of_owes (hcut _ _ htrace) howes))
    · rw [htrace, List.append_cons] at hfine
      refine discards_of_closed hfine.rest ?_
      rw [Checker.after_append]
      rfl
  · intro before event after htrace hfull
    refine (hserves _ _ _ htrace).full ?_
    rw [sent_ledgerAfter]
    exact hfull
  · intro before event after htrace hreceived hsent
    exact counted_ledgerAfter ((hserves _ _ _ htrace).counted hreceived hsent)

end Sessions

/-- An echo that is due inside the stall from 100 to 120, in a session that
closes after one reply. -/
def stalledConfig : MockConfig where
  delay := 80
  jitter := 0
  closeAfter := some 1
  stall := some ⟨100, 20, by decide, by decide⟩
  replay := none
  rules := none
  socketio := none
  closes := by decide
  noRulesOrReplay := nofun
  noRules := nofun

/-- A client that sends one frame, and a clock that has passed 100 when the
echo is due. -/
def stalledAnswers (n : ℕ) : (e : MockEff) → e.Answer
  | .now => (if n < 5 then 10 * n else 105 : ℕ)
  | .isCancelled => false
  | .select _ none => .received (some (.ok (.text "a")))
  | .select _ (some _) => .due
  | .sleepUntil _ => true
  | .send _ => true
  | .close _ => ()
  | .finishClose => ()
  | .discard => false
  | .countReceived => ()
  | .countSent => ()

/-- A `Serde` that reads and writes nothing. -/
def silentSerde : Serde where
  fromStr := fun _ => none
  toText := fun _ => ""

theorem mock_replies_stalled :
    let trace := ((runSession silentSerde stalledConfig 0 false 7 0).run stalledAnswers 60 0).1
    sentFrames trace = [.text "a"] ∧ AllCounted trace
      ∧ sentFrames trace
        <+: (allReplies silentSerde stalledConfig (arrivals trace)).filterMap Queued.reply := by
  have hrun := Proc.runs_run stalledAnswers 60 0 (runSession silentSerde stalledConfig 0 false 7 0)
  have hresult : ((runSession silentSerde stalledConfig 0 false 7 0).run stalledAnswers 60 0).2
      = some () := by decide +kernel
  obtain ⟨hinitial, -, -, -, -, -, hcounted⟩ :=
    mock_replies rfl rfl hrun (by decide +kernel)
  exact ⟨by decide +kernel, hcounted () hresult, hinitial⟩

end WsBlast
