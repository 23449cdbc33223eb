import WsBlast.FleetRuns
import WsBlast.SessionParts

/-!
# What an echo worker counts

An echo worker has one request in flight at a time. `EchoLedger` reads its
trace: how often each counter was raised, the sessions that were opened, those
that ended while a reply was awaited, and the data frames that were read
meanwhile. Between two requests the counters of sent and received messages
differ by the sessions that ended so (`Idle`), whatever was dropped, delayed,
corrupted or not solicited; every part of the loop takes the ledger from one of
a few such states to the next, so a whole run does.

The equation of an echo worker is simple to say, sent is received plus
unanswered, and takes some care to keep. A request is in flight from the record
of its send; it is answered when its reply is recorded, and a session that ends
in between gives it up. Frames that come meanwhile and are not the reply are
counted one by one while the wait lasts, and added to the counters when it
ends. Round-trip times are one for each reply, and response times one for each
reply of a paced request.
-/

namespace WsBlast

open Proc (Within StepWithin)
open Proc.Monitor (Triple StepTriple)

/-! ## The counters

Five counters that belong together, what each record adds to them, and that the
metrics and the recorder of a worker do rise by that much. -/

/-- The counters of an echo worker that belong together. -/
@[ext]
structure EchoTally where
  sent : ℕ := 0
  recv : ℕ := 0
  unsolicited : ℕ := 0
  /-- RTT samples. -/
  rtt : ℕ := 0
  /-- Response-time samples. -/
  response : ℕ := 0
  deriving DecidableEq

namespace EchoTally

instance : Add EchoTally where
  add a b :=
    ⟨a.sent + b.sent, a.recv + b.recv, a.unsolicited + b.unsolicited, a.rtt + b.rtt,
      a.response + b.response⟩

theorem add_assoc (a b c : EchoTally) : a + b + c = a + (b + c) := by
  ext <;> exact Nat.add_assoc _ _ _

theorem add_empty (a : EchoTally) : a + {} = a := rfl

end EchoTally

/-- What a record adds to the counters. -/
def Record.echo : Record → EchoTally
  | .messageSent _ => { sent := 1 }
  | .messageRecv _ _ rtt => { recv := 1, rtt := if rtt.isSome then 1 else 0 }
  | .responseTime _ _ => { response := 1 }
  | .unsolicitedFrames count => { unsolicited := count }
  | _ => {}

namespace WorkerMetrics

variable (w : WorkerMetrics) (heap : Heap)

variable (samples : AtomicHistogram → ℕ)

/-- The counters of a worker, and what `samples` says its recorder holds. -/
def echoTally : EchoTally where
  sent := w.messagesSent
  recv := w.messagesRecv
  unsolicited := w.unsolicitedFrames
  rtt := samples (heap.recorders w.latency).rtt
  response := samples (heap.recorders w.latency).response

theorem recorders_updateRecorder (f : LatencyRecorder → LatencyRecorder) :
    (heap.updateRecorder w.latency f).recorders w.latency = f (heap.recorders w.latency) :=
  Function.update_self _ _ _

/-- A sample of the time series changes nothing else. -/
theorem recordInterval_eq (now : Instant) (micros : ℕ) :
    ∃ interval stores, w.recordInterval heap now micros
      = ({ w with interval }, { heap with stores }) := by
  unfold recordInterval
  cases w.interval with
  | none => exact ⟨w.interval, heap.stores, rfl⟩
  | some interval => exact ⟨_, _, rfl⟩

/-- A sample of a named action is not one of the run. -/
theorem recorders_recordAction (action : Option ℕ) (f : ℕ → LatencyRecorder → LatencyRecorder)
    (hrtt : ∀ action r, (f action r).rtt = r.rtt)
    (hresponse : ∀ action r, (f action r).response = r.response) :
    ((match action with
      | none => heap
      | some action => heap.updateRecorder w.latency (f action)).recorders w.latency).rtt
        = (heap.recorders w.latency).rtt ∧
    ((match action with
      | none => heap
      | some action => heap.updateRecorder w.latency (f action)).recorders w.latency).response
        = (heap.recorders w.latency).response := by
  cases action with
  | none => exact ⟨rfl, rfl⟩
  | some action =>
    dsimp only
    rw [recorders_updateRecorder]
    exact ⟨hrtt _ _, hresponse _ _⟩

/-- A received frame with an RTT: the counts, and the sample. -/
theorem recordMessageRecv_eq (now : Instant) (bytes : ℕ) (rtt : Duration) :
    ∃ interval, ∃ heap' : Heap,
      w.recordMessageRecv heap now bytes (some rtt)
        = ({ w with messagesRecv := w.messagesRecv + 1, bytesRecv := w.bytesRecv + bytes, interval },
          heap')
      ∧ (heap'.recorders w.latency).rtt
        = (heap.recorders w.latency).rtt.record w.shard (clampUs rtt.asMicros)
      ∧ (heap'.recorders w.latency).response = (heap.recorders w.latency).response := by
  let sampled := heap.updateRecorder w.latency (·.recordRtt w.shard (clampUs rtt.asMicros))
  have hsampled : sampled.recorders w.latency
      = (heap.recorders w.latency).recordRtt w.shard (clampUs rtt.asMicros) :=
    w.recorders_updateRecorder heap _
  have haction := w.recorders_recordAction sampled w.currentAction
    (fun action => (·.recordActionRtt action w.shard (clampUs rtt.asMicros)))
    (fun _ _ => rfl) fun _ _ => rfl
  rw [hsampled] at haction
  unfold recordMessageRecv
  dsimp only
  by_cases huses : w.intervalUsesResponse = true
  · rw [if_pos huses]
    exact ⟨_, _, rfl, haction.1, haction.2⟩
  · rw [if_neg huses]
    obtain ⟨interval, stores, heq⟩ := recordInterval_eq
      { w with messagesRecv := w.messagesRecv + 1, bytesRecv := w.bytesRecv + bytes }
      (match w.currentAction with
        | none => sampled
        | some action => sampled.updateRecorder w.latency
          (·.recordActionRtt action w.shard (clampUs rtt.asMicros))) now (clampUs rtt.asMicros)
    exact ⟨_, _, congrArg (fun p : WorkerMetrics × Heap => (p.1, p.2.updateLive p.1.shard _)) heq,
      haction.1, haction.2⟩

/-- A response time: its sample. -/
theorem recordResponseTime_eq (now : Instant) (duration : Duration) :
    ∃ interval, ∃ heap' : Heap,
      w.recordResponseTime heap now duration = ({ w with interval }, heap')
      ∧ (heap'.recorders w.latency).rtt = (heap.recorders w.latency).rtt
      ∧ (heap'.recorders w.latency).response
        = (heap.recorders w.latency).response.record w.shard (clampUs duration.asMicros) := by
  let sampled := heap.updateRecorder w.latency
    (·.recordResponse w.shard (clampUs duration.asMicros))
  have hsampled : sampled.recorders w.latency
      = (heap.recorders w.latency).recordResponse w.shard (clampUs duration.asMicros) :=
    w.recorders_updateRecorder heap _
  have haction := w.recorders_recordAction sampled w.currentAction
    (fun action => (·.recordActionResponse action w.shard (clampUs duration.asMicros)))
    (fun _ _ => rfl) fun _ _ => rfl
  rw [hsampled] at haction
  unfold recordResponseTime
  obtain ⟨interval, stores, heq⟩ := recordInterval_eq w
    (match w.currentAction with
      | none => sampled
      | some action => sampled.updateRecorder w.latency
        (·.recordActionResponse action w.shard (clampUs duration.asMicros))) now
    (clampUs duration.asMicros)
  exact ⟨_, _, heq, haction.1, haction.2⟩

theorem echoTally_updateAction (f : ActionCounts → ActionCounts) :
    (w.updateAction f).latency = w.latency ∧
      (w.updateAction f).echoTally heap samples = w.echoTally heap samples := by
  unfold updateAction
  cases w.currentAction with
  | none => exact ⟨rfl, rfl⟩
  | some index => exact ⟨rfl, rfl⟩

variable {samples}

theorem echoTally_recordHandshakeLatency (duration : Duration) :
    w.echoTally (w.recordHandshakeLatency heap duration) samples = w.echoTally heap samples := by
  have hrecorder : (w.recordHandshakeLatency heap duration).recorders w.latency
      = (heap.recorders w.latency).recordHandshake w.shard (clampUs duration.asMicros) :=
    w.recorders_updateRecorder heap (·.recordHandshake w.shard (clampUs duration.asMicros))
  unfold echoTally
  rw [hrecorder]
  rfl

/-- **What a record adds to the counters.** -/
theorem echoTally_apply
    (hsamples : ∀ a shard micros, samples (AtomicHistogram.record a shard micros) = samples a + 1)
    (r : Record) :
    (w.apply heap r).1.latency = w.latency ∧
      (w.apply heap r).1.echoTally (w.apply heap r).2 samples
        = w.echoTally heap samples + r.echo := by
  cases r with
  | messageSent bytes =>
    obtain ⟨hlatency, htally⟩ := echoTally_updateAction
      { w with messagesSent := w.messagesSent + 1, bytesSent := w.bytesSent + bytes } heap samples
      fun action => { action with sent := action.sent + 1 }
    exact ⟨hlatency, htally⟩
  | messageRecv now bytes rtt =>
    -- only a frame that was waited for has a sample
    cases rtt with
    | none => exact ⟨rfl, rfl⟩
    | some rtt =>
      obtain ⟨interval, heap', heq, hrtt, hresponse⟩ := w.recordMessageRecv_eq heap now bytes rtt
      show (w.recordMessageRecv heap now bytes (some rtt)).1.latency = _ ∧
        (w.recordMessageRecv heap now bytes (some rtt)).1.echoTally
          (w.recordMessageRecv heap now bytes (some rtt)).2 samples = _
      rw [heq]
      refine ⟨rfl, EchoTally.ext rfl rfl rfl ?_ ?_⟩
      · exact (congrArg samples hrtt).trans (hsamples _ _ _)
      · exact congrArg samples hresponse
  | responseTime now duration =>
    obtain ⟨interval, heap', heq, hrtt, hresponse⟩ := w.recordResponseTime_eq heap now duration
    show (w.recordResponseTime heap now duration).1.latency = _ ∧
      (w.recordResponseTime heap now duration).1.echoTally
        (w.recordResponseTime heap now duration).2 samples = _
    rw [heq]
    refine ⟨rfl, EchoTally.ext rfl rfl rfl ?_ ?_⟩
    · exact congrArg samples hrtt
    · exact (congrArg samples hresponse).trans (hsamples _ _ _)
  | unsolicitedFrames count =>
    show (w.recordUnsolicitedFrames heap count).1.latency = _ ∧
      (w.recordUnsolicitedFrames heap count).1.echoTally
        (w.recordUnsolicitedFrames heap count).2 samples = _
    unfold recordUnsolicitedFrames
    split_ifs with hnone
    · subst hnone
      exact ⟨rfl, rfl⟩
    · exact ⟨rfl, rfl⟩
  | handshake duration => exact ⟨rfl, w.echoTally_recordHandshakeLatency heap duration⟩
  | reconnect duration => exact ⟨rfl, w.echoTally_recordHandshakeLatency heap duration⟩
  | error err scope => exact echoTally_updateAction _ heap samples _
  | connectionFailed err => exact echoTally_updateAction _ heap samples _
  | _ => exact ⟨rfl, rfl⟩

/-- The metrics of a worker after what it recorded in a trace, and the heap. -/
def recordAll (w : WorkerMetrics) (heap : Heap) (trace : List Event) : WorkerMetrics × Heap :=
  trace.foldl (fun state event =>
    match event with
    | ⟨.record r, _⟩ => state.1.apply state.2 r
    | _ => state) (w, heap)

end WorkerMetrics

/-! ## The ledger

What the trace shows: the records, the sessions that were opened, the frames
read in a wait, and the sessions that were left with a reply outstanding. -/

/-- What the trace of an echo worker shows. -/
structure EchoLedger where
  tally : EchoTally := {}
  /-- The sessions that were opened. -/
  sessions : ℕ := 0
  /-- The last wait for a reply has not brought one. -/
  awaiting : Bool := false
  /-- The sessions that ended while a reply was awaited. -/
  unanswered : ℕ := 0
  /-- The data frames that were read while a reply was awaited. -/
  frames : ℕ := 0

/-- Whether a wait brought a data frame. -/
def Woken.isData : Woken → Bool
  | .read (some (.ok (.text _))) => true
  | .read (some (.ok (.binary _))) => true
  | _ => false

namespace EchoLedger

/-- What a record changes. -/
def record (s : EchoLedger) (r : Record) : EchoLedger :=
  let s := { s with tally := s.tally + r.echo }
  match r with
  | .messageRecv _ _ _ => { s with awaiting := false }
  | .connectionClosed =>
    { s with unanswered := s.unanswered + s.awaiting.toNat, awaiting := false }
  | _ => s

/-- What an event changes. -/
def step (s : EchoLedger) : Event → EchoLedger
  | ⟨.connect _, .opened⟩ => { s with sessions := s.sessions + 1 }
  | ⟨.select (.reply _), woken⟩ =>
    { s with awaiting := true, frames := s.frames + (Woken.isData woken).toNat }
  | ⟨.record r, _⟩ => s.record r
  | _ => s

/-- The ledger as a reader of traces, which takes every answer for possible. -/
def monitor : Proc.Monitor Eff Eff.Answer EchoLedger where
  step := step
  Admits := fun _ _ => True
  Safe := fun _ => True

theorem tally_step_record (s : EchoLedger) (r : Record) :
    (s.record r).tally = s.tally + r.echo := by
  cases r <;> rfl

/-- The counters of the worker rise with the ledger's. -/
theorem echoTally_recordAll {samples : AtomicHistogram → ℕ}
    (hsamples : ∀ a shard micros, samples (AtomicHistogram.record a shard micros) = samples a + 1)
    (base : EchoTally) (trace : List Event) (w : WorkerMetrics) (heap : Heap) (s : EchoLedger)
    (htally : w.echoTally heap samples = base + s.tally) :
    (w.recordAll heap trace).1.echoTally (w.recordAll heap trace).2 samples
      = base + (monitor.after s trace).tally := by
  induction trace generalizing w heap s with
  | nil => exact htally
  | cons event rest ih =>
    have hsilent : ∀ s' : EchoLedger, s'.tally = s.tally →
        (w.recordAll heap rest).1.echoTally (w.recordAll heap rest).2 samples
          = base + (monitor.after s' rest).tally := fun s' hs' =>
      ih w heap s' (htally.trans (congrArg (base + ·) hs'.symm))
    obtain ⟨e, a⟩ := event
    cases e with
    | record r =>
      have hrecord : (w.apply heap r).1.echoTally (w.apply heap r).2 samples
          = base + (s.record r).tally := by
        rw [(w.echoTally_apply heap hsamples r).2, htally, EchoTally.add_assoc,
          s.tally_step_record]
      exact ih (w.apply heap r).1 (w.apply heap r).2 (s.record r) hrecord
    | connect request =>
      refine hsilent _ ?_
      cases a <;> rfl
    | select wait =>
      refine hsilent _ ?_
      cases wait <;> rfl
    | _ => exact hsilent s rfl

/-! ## The states between two questions

From one state to the next by what happens in between. -/

section States

variable (paced : Bool)

/-- The counters agree, up to `waiting` requests in flight, `held` data frames
that are not counted yet and `late` response times. -/
structure Conserved (waiting held late : ℕ) (s : EchoLedger) : Prop where
  sent : s.tally.sent = s.tally.recv + s.unanswered + waiting
  rtt : s.tally.rtt = s.tally.recv
  response : s.tally.response + late = if paced then s.tally.recv else 0
  frames : s.frames = s.tally.recv + s.tally.unsolicited + held

/-- In a session, between two requests. -/
structure Idle (s : EchoLedger) : Prop extends Conserved paced 0 0 0 s where
  awaiting : s.awaiting = false
  opened : s.unanswered < s.sessions

/-- In a session, with a request in flight. -/
structure Waiting (held : ℕ) (s : EchoLedger) : Prop extends Conserved paced 1 held 0 s where
  opened : s.unanswered < s.sessions

/-- In a session, after a wait for a reply that `held` frames are counted
of. -/
structure Waited (held : ℕ) (s : EchoLedger) : Prop extends Waiting paced held s where
  awaiting : s.awaiting = true

/-- In a session, after a reply whose response time is not recorded yet. -/
structure Received (s : EchoLedger) : Prop extends Conserved paced 0 0 paced.toNat s where
  awaiting : s.awaiting = false
  opened : s.unanswered < s.sessions

/-- In a session that is over. -/
structure Over (s : EchoLedger) : Prop extends Conserved paced s.awaiting.toNat 0 0 s where
  opened : s.unanswered < s.sessions

/-- Without a session. -/
structure Closed (s : EchoLedger) : Prop extends Conserved paced 0 0 0 s where
  awaiting : s.awaiting = false
  opened : s.unanswered ≤ s.sessions

variable {paced} {s : EchoLedger}

theorem Idle.over (h : Idle paced s) : Over paced s where
  toConserved := by
    rw [h.awaiting]
    exact h.toConserved
  opened := h.opened

theorem Waited.over (h : Waited paced 0 s) : Over paced s where
  toConserved := by
    rw [h.awaiting]
    exact h.toConserved
  opened := h.opened

/-- A request is sent. -/
theorem Idle.messageSent (h : Idle paced s) (bytes : ℕ) :
    Waiting paced 0 (s.record (.messageSent bytes)) where
  sent := congrArg (· + 1) h.sent
  rtt := h.rtt
  response := h.response
  frames := h.frames
  opened := h.opened

/-- A wait for the reply comes to something. -/
theorem Waiting.select {held : ℕ} (h : Waiting paced held s) (timeout : Duration)
    (woken : Woken) :
    Waited paced (held + woken.isData.toNat) (s.step ⟨.select (.reply timeout), woken⟩) where
  sent := h.sent
  rtt := h.rtt
  response := h.response
  frames := (congrArg (· + woken.isData.toNat) h.frames).trans (Nat.add_assoc _ _ _)
  opened := h.opened
  awaiting := rfl

/-- Frames that were not solicited are counted. -/
theorem Waited.unsolicitedFrames {count held : ℕ} (h : Waited paced (count + held) s) :
    Waited paced held (s.record (.unsolicitedFrames count)) where
  sent := h.sent
  rtt := h.rtt
  response := h.response
  frames := by
    show s.frames = s.tally.recv + (s.tally.unsolicited + count) + held
    rw [h.frames]
    omega
  opened := h.opened
  awaiting := h.awaiting

/-- The reply is counted, with its RTT. -/
theorem Waited.messageRecv (h : Waited paced 1 s) (now : Instant) (bytes : ℕ) (rtt : Duration) :
    Received paced (s.record (.messageRecv now bytes (some rtt))) where
  sent := by
    show s.tally.sent = s.tally.recv + 1 + s.unanswered
    rw [h.sent]
    omega
  rtt := congrArg (· + 1) h.rtt
  response := by
    show s.tally.response + paced.toNat = if paced then s.tally.recv + 1 else 0
    have hresponse := h.response
    cases paced with
    | true => exact congrArg (· + 1) hresponse
    | false => exact hresponse
  frames := by
    show s.frames = s.tally.recv + 1 + s.tally.unsolicited
    rw [h.frames]
    omega
  awaiting := rfl
  opened := h.opened

/-- The response time of a paced request is recorded. -/
theorem Received.responseTime (h : Received true s) (now : Instant) (duration : Duration) :
    Idle true (s.record (.responseTime now duration)) where
  sent := h.sent
  rtt := h.rtt
  response := h.response
  frames := h.frames
  awaiting := h.awaiting
  opened := h.opened

/-- A request that is not paced has none. -/
theorem Received.idle (h : Received false s) : Idle false s where
  sent := h.sent
  rtt := h.rtt
  response := h.response
  frames := h.frames
  awaiting := h.awaiting
  opened := h.opened

/-- A connection is opened. -/
theorem Closed.connect (h : Closed paced s) (request : HandshakeRequest) :
    Idle paced (s.step ⟨.connect request, .opened⟩) where
  sent := h.sent
  rtt := h.rtt
  response := h.response
  frames := h.frames
  awaiting := h.awaiting
  opened := Nat.lt_succ_of_le h.opened

/-- A connection is closed, and the request it had in flight is given up. -/
theorem Over.connectionClosed (h : Over paced s) : Closed paced (s.record .connectionClosed) where
  sent := by
    show s.tally.sent = s.tally.recv + (s.unanswered + s.awaiting.toNat)
    rw [h.sent, Nat.add_assoc]
  rtt := h.rtt
  response := h.response
  frames := h.frames
  awaiting := rfl
  opened := by
    show s.unanswered + s.awaiting.toNat ≤ s.sessions
    have hbool : s.awaiting.toNat ≤ 1 := Bool.toNat_le _
    have hopened := h.opened
    omega

end States

/-! ## What the parts of the session do

Specifications of the pieces that the echo loop and the script share. -/

section Parts

variable {paced : Bool} {R : Type} {pre : EchoLedger → Prop} {serde : Serde}
  {config : LoadTestConfig} {scenario : Option ScenarioPhase} {workerId : ℕ}

/-- A program of a session that cannot leave. -/
abbrev Holds (pre : EchoLedger → Prop) (p : Session R) (post : R → EchoLedger → Prop) : Prop :=
  Triple monitor pre p post

/-- A piece of a session: it goes on in `post`, or the session is over. -/
abbrev Keeps (paced : Bool) (pre : EchoLedger → Prop) (p : Round R)
    (post : R → EchoLedger → Prop) : Prop :=
  StepTriple monitor pre p post fun _ => Over paced

/-- Questions that the ledger does not react to. -/
def Uncounted : Eff → Prop
  | .connect _ => False
  | .select (.reply _) => False
  | .record (.messageSent _) => False
  | .record (.messageRecv _ _ _) => False
  | .record (.responseTime _ _) => False
  | .record (.unsolicitedFrames _) => False
  | .record .connectionClosed => False
  | _ => True

theorem uncounted_of_quiet (e : Eff) (h : e.Quiet) : Uncounted e := by
  cases e with
  | record r => cases r <;> trivial
  | select wait => exact absurd h not_false
  | connect request => exact absurd h not_false
  | _ => trivial

theorem step_of_uncounted (s : EchoLedger) (e : Eff) (a : e.Answer) (h : Uncounted e) :
    s.step ⟨e, a⟩ = s := by
  cases e with
  | record r => cases r <;> first | rfl | exact absurd h not_false
  | select wait => cases wait <;> first | rfl | exact absurd h not_false
  | connect request => exact absurd h not_false
  | _ => rfl

theorem holds_within {p : Session R} (hp : Within Uncounted p) : Holds pre p fun _ => pre :=
  Triple.of_within hp fun s e a he hs _ => by
    show True ∧ pre (s.step ⟨e, a⟩)
    rw [step_of_uncounted s e a he]
    exact ⟨trivial, hs⟩

theorem keeps_within {p : Round R} (hp : StepWithin Uncounted p)
    (hover : ∀ s, pre s → Over paced s) : Keeps paced pre p fun _ => pre :=
  StepTriple.of_within hp (fun s e a he hs _ => by
    show True ∧ pre (s.step ⟨e, a⟩)
    rw [step_of_uncounted s e a he]
    exact ⟨trivial, hs⟩) fun _ => hover

/-- A question, by what it does to the ledger. -/
theorem holds_ask {e : Eff} {post : e.Answer → EchoLedger → Prop}
    (h : ∀ s a, pre s → post a (s.step ⟨e, a⟩)) : Holds pre (Proc.ask e) post :=
  Triple.ask fun s a hs _ => ⟨trivial, h s a hs⟩

theorem keeps_breakSession {post : R → EchoLedger → Prop} (hover : ∀ s, pre s → Over paced s) :
    Keeps paced pre (breakSession : Round R) post :=
  StepTriple.bind (StepTriple.lift (holds_within (within_sessionEnd uncounted_of_quiet)))
    fun _ => StepTriple.throw hover

theorem keeps_closeAndBreak {post : R → EchoLedger → Prop} (hover : ∀ s, pre s → Over paced s) :
    Keeps paced pre (closeAndBreak : Round R) post :=
  StepTriple.bind (StepTriple.lift (holds_within (Within.ask trivial))) fun _ =>
    keeps_breakSession hover

theorem keeps_failWrite {post : R → EchoLedger → Prop} (hover : ∀ s, pre s → Over paced s)
    (err : WsError) : Keeps paced pre (failWrite err : Round R) post :=
  StepTriple.bind (StepTriple.lift (holds_within (Within.ask trivial))) fun _ =>
    keeps_breakSession hover

/-- How the wait for a reply left the ledger. -/
def Replied (paced : Bool) : Reply × ℕ → EchoLedger → Prop
  | (.received _, unsolicited) => Waited paced (unsolicited + 1)
  | (_, unsolicited) => Waited paced unsolicited

theorem holds_readReply (sent : Option Message) (seq : ℕ) (corrupted : Bool) (unsolicited : ℕ)
    (message : Message) :
    Holds (Waited paced (unsolicited + (Woken.read (some (.ok message))).isData.toNat))
      (readReply serde config sent seq corrupted unsolicited message)
      (Sum.elim (Waiting paced) (Replied paced)) := by
  cases message with
  | close frame => exact Triple.pure fun s hs => hs
  | ping bytes =>
    exact Triple.bind (holds_within (Within.ask trivial)) fun _ =>
      Triple.pure fun s hs => hs.toWaiting
  | pong bytes => exact Triple.pure fun s hs => hs.toWaiting
  | frame => exact Triple.pure fun s hs => hs.toWaiting
  | text text =>
    exact Triple.ite (fun _ => Triple.pure fun s hs => hs) fun _ =>
      Triple.pure fun s hs => hs.toWaiting
  | binary bytes =>
    exact Triple.ite (fun _ => Triple.pure fun s hs => hs) fun _ =>
      Triple.pure fun s hs => hs.toWaiting

/-- Every data frame of a wait is the reply or counted as unsolicited. -/
theorem holds_awaitReply (sent : Option Message) (seq : ℕ) (corrupted : Bool) :
    Holds (Waiting paced 0) (awaitReply serde config sent seq corrupted) (Replied paced) := by
  refine Triple.loop (Waiting paced) fun unsolicited => ?_
  refine Triple.bind (holds_ask fun s woken hs => hs.select config.messageTimeout woken)
    fun woken => ?_
  match woken with
  | .cancelled => exact Triple.pure fun s hs => hs
  | .timedOut => exact Triple.pure fun s hs => hs
  | .read none => exact Triple.pure fun s hs => hs
  | .read (some (.error err)) => exact Triple.pure fun s hs => hs
  | .read (some (.ok message)) => exact holds_readReply _ _ _ _ message
  | .due => exact Triple.pure fun s hs => hs.toWaiting
  | .keepalive => exact Triple.pure fun s hs => hs.toWaiting
  | .resume => exact Triple.pure fun s hs => hs.toWaiting

/-- The response time of a request, where one is recorded. -/
theorem holds_recordPaced (request : Request) {recordResponse : Bool} (rtt : Duration)
    (hpaced : paced = (request.due.isSome && recordResponse)) :
    Holds (Received paced) (recordPaced request recordResponse rtt) fun _ => Idle paced := by
  subst hpaced
  unfold recordPaced
  cases request.due with
  | none => exact Triple.pure fun s hs => hs.idle
  | some due =>
    cases recordResponse with
    | false => exact Triple.pure fun s hs => hs.idle
    | true =>
      exact Triple.bind (holds_within (Within.ask trivial)) fun recordedAt =>
        holds_ask fun s _ hs => hs.responseTime recordedAt _

/-- **A request is settled**: its reply is counted, or the session is over. -/
theorem keeps_settleReply (request : Request) {recordResponse : Bool} (expect : Option Check)
    (captures : List Capture) (vars : List String)
    (hpaced : paced = (request.due.isSome && recordResponse)) :
    Keeps paced (Waiting paced 0)
      (settleReply serde config request recordResponse expect captures vars)
      fun _ => Idle paced := by
  -- the wait ends with the reply, or the session ends with the wait
  refine StepTriple.bind (StepTriple.lift (holds_awaitReply _ _ _)) fun result => ?_
  obtain ⟨reply, unsolicited⟩ := result
  have hcounted : Holds (Waited paced unsolicited) (Ask.record (.unsolicitedFrames unsolicited))
      fun _ => Waited paced 0 :=
    holds_ask fun s _ (hs : Waited paced (unsolicited + 0) s) => hs.unsolicitedFrames
  have hfailed : ∀ category, Keeps paced (Waited paced 0)
      (do
        recordError category .sentMessage
        breakSession : Round (List String)) fun _ => Idle paced := fun category =>
    StepTriple.bind (StepTriple.lift (holds_within (Within.ask trivial))) fun _ =>
      keeps_breakSession fun _ => Waited.over
  cases reply with
  | received reply =>
    refine StepTriple.bind (StepTriple.lift (holds_ask fun s _ (hs : Waited paced _ s) =>
      hs.unsolicitedFrames)) fun _ => ?_
    refine StepTriple.bind (StepTriple.lift (holds_within (Within.ask trivial)))
      fun receivedAt => ?_
    refine StepTriple.bind (StepTriple.lift (holds_within (Within.ask trivial)))
      fun recordedAt => ?_
    refine StepTriple.bind (StepTriple.lift (holds_ask fun s _ hs => hs.messageRecv _ _ _))
      fun _ => ?_
    refine StepTriple.bind (StepTriple.lift (holds_within
      (within_checkAnswer uncounted_of_quiet _ _ _ _ _))) fun vars => ?_
    exact StepTriple.bind (StepTriple.lift (holds_recordPaced request _ hpaced)) fun _ =>
      StepTriple.pure fun s hs => hs
  | cancelled =>
    exact StepTriple.bind (StepTriple.lift hcounted) fun _ =>
      keeps_closeAndBreak fun _ => Waited.over
  | timedOut => exact StepTriple.bind (StepTriple.lift hcounted) fun _ => hfailed _
  | failed category => exact StepTriple.bind (StepTriple.lift hcounted) fun _ => hfailed _
  | closed =>
    exact StepTriple.bind (StepTriple.lift hcounted) fun _ =>
      keeps_breakSession fun _ => Waited.over

/-! ### What keeps a schedule a schedule

Whether requests are paced is decided at the start of a session. -/

/-- Idle, with a schedule when the session is paced. -/
def IdleWith (paced isPaced : Bool) (schedule : Option SendSchedule) (s : EchoLedger) : Prop :=
  schedule.isSome = isPaced ∧ Idle paced s

variable {isPaced : Bool}

theorem IdleWith.map {schedule : Option SendSchedule} {s : EchoLedger}
    (h : IdleWith paced isPaced schedule s) (f : SendSchedule → SendSchedule) :
    IdleWith paced isPaced (schedule.map f) s :=
  ⟨by rw [Option.isSome_map]; exact h.1, h.2⟩

/-- The due time of a send, moved by its delay together with the schedule. -/
theorem keeps_delayDue (delay : Duration) (schedule : Option SendSchedule) :
    Keeps paced (IdleWith paced isPaced schedule)
      (delaySend delay schedule (schedule.map (·.nextDue)))
      fun delayed s => delayed.2.isSome = isPaced ∧ IdleWith paced isPaced delayed.1 s := by
  have hdue : ∀ s, IdleWith paced isPaced schedule s →
      (schedule.map (·.nextDue)).isSome = isPaced := fun s hs => Option.isSome_map.trans hs.1
  refine StepTriple.ite (fun _ => StepTriple.pure fun s hs => ⟨hdue s hs, hs⟩) fun _ => ?_
  refine StepTriple.bind (StepTriple.lift (holds_within (Within.bind (Within.ask trivial)
    fun _ => Within.ask trivial))) fun _ => ?_
  exact StepTriple.ite
    (fun _ => StepTriple.pure fun s hs => ⟨Option.isSome_map.trans (hdue s hs), hs.map _⟩)
    fun _ => keeps_closeAndBreak fun _ hs => hs.2.over

theorem keeps_pauseReads {schedule : Option SendSchedule} :
    Keeps paced (IdleWith paced isPaced schedule) (pauseReads config schedule)
      (IdleWith paced isPaced) := by
  refine StepTriple.bind (StepTriple.lift (holds_within
    (within_chaosReadPause trivial trivial))) fun pause => ?_
  cases pause with
  | none => exact StepTriple.pure fun s hs => hs
  | some pause =>
    refine StepTriple.bind (StepTriple.lift (holds_within (Within.ask trivial))) fun _ => ?_
    exact StepTriple.ite (fun _ => StepTriple.pure fun s hs => hs.map _) fun _ =>
      keeps_closeAndBreak fun _ hs => hs.2.over

theorem holds_restartAfterPause {schedule : Option SendSchedule} :
    Holds (IdleWith paced isPaced schedule) (restartAfterPause schedule)
      (IdleWith paced isPaced) := by
  cases schedule with
  | none => exact Triple.pure fun s hs => hs
  | some schedule =>
    exact Triple.bind (holds_within (Within.ask trivial)) fun _ => Triple.pure fun s hs => hs

/-- A send, of a request that is due when the session is paced. -/
theorem keeps_sendDue {send : Round Request} {schedule : Option SendSchedule}
    {due : Option Instant}
    (hsend : Keeps paced (IdleWith paced isPaced schedule) send
      fun request s => request.due = due ∧ schedule.isSome = isPaced ∧ Waiting paced 0 s) :
    Keeps paced (fun s => due.isSome = isPaced ∧ IdleWith paced isPaced schedule s) send
      fun request s => request.due.isSome = isPaced ∧ schedule.isSome = isPaced ∧
        Waiting paced 0 s := by
  rintro s ⟨hdue, hs⟩
  refine monitor.wps_mono ?_ (hsend s hs)
  rintro request s ⟨rfl, hs⟩
  exact ⟨hdue, hs⟩

/-! ### The echo loop

A turn is a plan, a delay, a claim, a send, a reply and a pause. -/

theorem keeps_sendEcho (seq : ℕ) (plan : SendPlan) (due : Option Instant)
    {schedule : Option SendSchedule} :
    Keeps paced (IdleWith paced isPaced schedule) (sendEcho config workerId seq plan due)
      fun request s => request.due = due ∧ schedule.isSome = isPaced ∧ Waiting paced 0 s := by
  refine StepTriple.bind (StepTriple.lift (holds_within (Within.ask trivial))) fun nowMs => ?_
  refine StepTriple.bind (StepTriple.lift (holds_within
    (within_chaosCorrupt uncounted_of_quiet (fun _ => trivial) _ _))) fun result => ?_
  obtain ⟨message, corrupted⟩ := result
  refine StepTriple.bind (StepTriple.lift (holds_within (Within.ask trivial))) fun startTime => ?_
  refine StepTriple.bind (StepTriple.lift (holds_within (Within.ask trivial))) fun result => ?_
  match result with
  | none => exact keeps_closeAndBreak fun _ hs => hs.2.over
  | some (.error err) => exact keeps_failWrite (fun _ hs => hs.2.over) err
  | some (.ok ()) =>
    have hsent : Holds (IdleWith paced isPaced schedule)
        (Ask.record (.messageSent (messageByteLen message)))
        fun _ s => schedule.isSome = isPaced ∧ Waiting paced 0 s :=
      holds_ask fun s _ hs => ⟨hs.1, hs.2.messageSent _⟩
    exact StepTriple.bind (StepTriple.lift hsent) fun _ => StepTriple.pure fun s hs => ⟨rfl, hs⟩

theorem keeps_pauseAfterReply {schedule : Option SendSchedule} :
    Keeps paced (IdleWith paced isPaced schedule) (pauseAfterReply config scenario schedule)
      (IdleWith paced isPaced) := by
  refine StepTriple.bind keeps_pauseReads fun schedule => ?_
  refine StepTriple.bind (StepTriple.lift (holds_within
    (within_applyThinkTime fun _ => trivial))) fun _ => ?_
  refine StepTriple.ite (fun _ => ?_) fun _ => keeps_closeAndBreak fun _ hs => hs.2.over
  exact StepTriple.ite (fun _ => StepTriple.pure fun s hs => hs) fun _ =>
    StepTriple.lift holds_restartAfterPause

/-- A request is settled, and the schedule with it. -/
theorem keeps_settleWith {request : Request} {recordResponse : Bool} {expect : Option Check}
    {captures : List Capture} {vars : List String} {schedule : Option SendSchedule}
    (hpaced : paced = (isPaced && recordResponse)) :
    Keeps paced (fun s => request.due.isSome = isPaced ∧ schedule.isSome = isPaced ∧
        Waiting paced 0 s)
      (settleReply serde config request recordResponse expect captures vars)
      fun _ => IdleWith paced isPaced schedule := by
  rintro s ⟨hdue, hschedule, hs⟩
  have hsettle : Keeps paced (Waiting paced 0)
      (settleReply serde config request recordResponse expect captures vars)
      fun _ => Idle paced := keeps_settleReply request expect captures vars (by rw [hdue, hpaced])
  exact monitor.wps_mono (fun _ s hs => ⟨hschedule, hs⟩) (hsettle s hs)

/-- One turn of the echo loop. -/
theorem keeps_echoRound (hpaced : paced = (isPaced && recordsResponseTime scenario))
    (state : EchoState) :
    Keeps paced (IdleWith paced isPaced state.schedule)
      (echoRound serde config workerId scenario state)
      fun state => IdleWith paced isPaced state.schedule := by
  have hover : ∀ schedule s, IdleWith paced isPaced schedule s → Over paced s :=
    fun _ _ hs => hs.2.over
  refine StepTriple.bind (StepTriple.lift (holds_within (Within.ask trivial))) fun _ => ?_
  refine StepTriple.ite (fun _ => keeps_closeAndBreak (hover _)) fun _ => ?_
  refine StepTriple.bind (keeps_within (within_paceEcho uncounted_of_quiet (fun _ => trivial) _)
    (hover _)) fun _ => ?_
  refine StepTriple.bind (keeps_within (within_claimOrBreak uncounted_of_quiet) (hover _))
    fun _ => ?_
  refine StepTriple.bind (StepTriple.lift (holds_within (within_chaosPlan trivial)))
    fun plan => ?_
  refine StepTriple.ite (fun _ => ?_) fun _ => ?_
  · exact StepTriple.bind (StepTriple.lift (holds_within (Within.ask trivial))) fun _ =>
      StepTriple.pure fun s hs => hs.map (·.advance)
  · refine StepTriple.bind (keeps_delayDue plan.delay state.schedule) fun delayed => ?_
    obtain ⟨schedule, due⟩ := delayed
    refine StepTriple.bind (keeps_sendDue (keeps_sendEcho state.seq plan due)) fun request => ?_
    refine StepTriple.bind (keeps_settleWith hpaced) fun _ => ?_
    refine StepTriple.bind (keeps_within (within_chaosClose uncounted_of_quiet trivial)
      (hover _)) fun _ => ?_
    refine StepTriple.weaken ?_ (fun s hs => hs.map (·.advance)) fun _ _ h => h
    exact StepTriple.bind keeps_pauseAfterReply fun _ => StepTriple.pure fun s hs => hs

theorem isSome_new (rate : ℕ) (now : Instant) :
    (SendSchedule.new rate now).isSome = decide (0 < rate) := by
  unfold SendSchedule.new
  by_cases hrate : 0 < rate
  · rw [if_pos hrate, decide_eq_true hrate]
    rfl
  · rw [if_neg hrate, decide_eq_false hrate]
    rfl

/-- **An echo session conserves its requests.** -/
theorem holds_runEchoLoop
    (hpaced : paced = (decide (0 < config.ratePerConn) && recordsResponseTime scenario)) :
    Holds (Idle paced) (runEchoLoop serde config workerId scenario) fun _ => Over paced := by
  refine Triple.bind (holds_within (Within.ask trivial)) fun now => ?_
  refine Triple.bind (holds_within (Within.ask trivial)) fun _ => ?_
  have hround : ∀ state : EchoState,
      Keeps paced (IdleWith paced (decide (0 < config.ratePerConn)) state.schedule)
        (echoRound serde config workerId scenario state)
        fun state => IdleWith paced (decide (0 < config.ratePerConn)) state.schedule :=
    fun state => keeps_echoRound hpaced state
  exact Triple.weaken (Triple.forever _ hround) (fun s hs => ⟨isSome_new _ _, hs⟩) fun _ _ h => h

/-! ### The script loop

The requests of a script are settled like those of the loop, action by action.
-/

variable {payload : Option PayloadConfig} {expect : Option Check} {captures : List Capture}

theorem keeps_sendScript (state : ScriptState) (plan : SendPlan) (due : Option Instant)
    {schedule : Option SendSchedule} :
    Keeps paced (IdleWith paced isPaced schedule)
      (sendScript config workerId payload state plan due)
      fun request s => request.due = due ∧ schedule.isSome = isPaced ∧ Waiting paced 0 s := by
  refine StepTriple.bind (StepTriple.lift (holds_within (Within.ask trivial))) fun nowMs => ?_
  refine StepTriple.bind (StepTriple.lift (holds_within
    (within_chaosCorrupt uncounted_of_quiet (fun _ => trivial) _ _))) fun result => ?_
  obtain ⟨message, corrupted⟩ := result
  refine StepTriple.bind (StepTriple.lift (holds_within (Within.ask trivial))) fun startTime => ?_
  refine StepTriple.bind (StepTriple.lift (holds_within (Within.ask trivial))) fun result => ?_
  match result with
  | .error err => exact keeps_failWrite (fun _ hs => hs.2.over) err
  | .ok () =>
    have hsent : Holds (IdleWith paced isPaced schedule)
        (Ask.record (.messageSent (messageByteLen message)))
        fun _ s => schedule.isSome = isPaced ∧ Waiting paced 0 s :=
      holds_ask fun s _ hs => ⟨hs.1, hs.2.messageSent _⟩
    exact StepTriple.bind (StepTriple.lift hsent) fun _ => StepTriple.pure fun s hs => ⟨rfl, hs⟩

section Script

variable (hreplies : config.mode.awaitsReplies = true)

include hreplies

/-- A script records the response time of every reply of a paced session. -/
theorem keeps_settleScript {request : Request} {vars : List String}
    {schedule : Option SendSchedule} :
    Keeps paced (fun s => request.due.isSome = paced ∧ schedule.isSome = paced ∧
        Waiting paced 0 s)
      (settleScript serde config request expect captures schedule vars)
      fun settled => IdleWith paced paced settled.1 := by
  unfold settleScript
  rw [if_pos hreplies]
  refine StepTriple.bind (keeps_settleWith (Bool.and_true _).symm) fun vars => ?_
  exact StepTriple.bind keeps_pauseReads fun schedule => StepTriple.pure fun s hs => hs

theorem keeps_sendOnce (state : ScriptState) :
    Keeps paced (IdleWith paced paced state.schedule)
      (sendOnce serde config workerId payload expect captures state)
      fun state => IdleWith paced paced state.schedule := by
  have hover : ∀ schedule s, IdleWith paced paced schedule s → Over paced s :=
    fun _ _ hs => hs.2.over
  refine StepTriple.bind (StepTriple.lift (holds_within (Within.ask trivial))) fun _ => ?_
  refine StepTriple.ite (fun _ => keeps_closeAndBreak (hover _)) fun _ => ?_
  refine StepTriple.bind (keeps_within (within_paceScript uncounted_of_quiet (fun _ => trivial) _)
    (hover _)) fun _ => ?_
  refine StepTriple.bind (keeps_within (within_claimOrBreak uncounted_of_quiet) (hover _))
    fun _ => ?_
  refine StepTriple.bind (StepTriple.lift (holds_within (within_chaosPlan trivial)))
    fun plan => ?_
  refine StepTriple.ite (fun _ => ?_) fun _ => ?_
  · exact StepTriple.bind (StepTriple.lift (holds_within (Within.ask trivial))) fun _ =>
      StepTriple.pure fun s hs => hs.map (·.advance)
  · refine StepTriple.bind (keeps_delayDue plan.delay state.schedule) fun delayed => ?_
    obtain ⟨schedule, due⟩ := delayed
    refine StepTriple.bind (keeps_sendDue (keeps_sendScript state plan due)) fun request => ?_
    refine StepTriple.bind (keeps_settleScript hreplies) fun settled => ?_
    obtain ⟨schedule, vars⟩ := settled
    refine StepTriple.bind (keeps_within (within_chaosClose uncounted_of_quiet trivial)
      (hover _)) fun _ => ?_
    exact StepTriple.pure fun s hs => hs.map (·.advance)

theorem keeps_sendBurst (count : ℕ) (state : ScriptState) :
    Keeps paced (IdleWith paced paced state.schedule)
      (sendBurst serde config workerId payload expect captures count state)
      fun state => IdleWith paced paced state.schedule := by
  induction count generalizing state with
  | zero => exact StepTriple.pure fun s hs => hs
  | succ count ih => exact StepTriple.bind (keeps_sendOnce hreplies state) fun state => ih state

theorem keeps_runAction (state : ScriptState) (action : ScenarioAction) :
    Keeps paced (IdleWith paced paced state.schedule)
      (runAction serde config workerId scenario state action)
      fun state => IdleWith paced paced state.schedule := by
  have hover : ∀ schedule s, IdleWith paced paced schedule s → Over paced s :=
    fun _ _ hs => hs.2.over
  -- an action that pauses restarts the schedule when it is over
  have hrestart : ∀ state : ScriptState, Keeps paced (IdleWith paced paced state.schedule)
      (liftM (restartScript state)) fun state => IdleWith paced paced state.schedule :=
    fun state => StepTriple.lift (Triple.bind holds_restartAfterPause fun _ =>
      Triple.pure fun s hs => hs)
  have hpause : ∀ timer, Keeps paced (IdleWith paced paced state.schedule)
      (sleepOrBreak timer >>= fun _ => liftM (restartScript state))
      fun state => IdleWith paced paced state.schedule := fun timer =>
    StepTriple.bind (keeps_within
      (within_sleepOrBreak uncounted_of_quiet (fun _ => trivial) timer) (hover _)) fun _ =>
        hrestart state
  cases action with
  | send payload count expect captures name =>
    refine StepTriple.bind (StepTriple.lift (holds_within (Within.ask trivial))) fun _ => ?_
    refine StepTriple.bind (keeps_sendBurst hreplies count state) fun state => ?_
    refine StepTriple.bind (StepTriple.lift (holds_within (Within.ask trivial))) fun _ => ?_
    refine StepTriple.bind (StepTriple.lift (holds_within
      (within_applyThinkTime fun _ => trivial))) fun _ => ?_
    refine StepTriple.ite (fun _ => ?_) fun _ => keeps_closeAndBreak (hover _)
    exact StepTriple.ite (fun _ => StepTriple.pure fun s hs => hs) fun _ => hrestart state
  | wait duration => exact hpause (.after duration)
  | ping interval =>
    refine StepTriple.bind (StepTriple.lift (holds_within (Within.ask trivial))) fun result => ?_
    match result with
    | .error err => exact keeps_failWrite (hover _) err
    | .ok () => exact hpause (.after interval)
  | close code reason =>
    exact StepTriple.bind (StepTriple.lift (holds_within (Within.ask trivial))) fun _ =>
      StepTriple.throw (hover _)

theorem keeps_runActions (actions : List ScenarioAction) (state : ScriptState) :
    Keeps paced (IdleWith paced paced state.schedule)
      (runActions serde config workerId scenario actions state)
      fun state => IdleWith paced paced state.schedule := by
  have hover : ∀ schedule s, IdleWith paced paced schedule s → Over paced s :=
    fun _ _ hs => hs.2.over
  induction actions generalizing state with
  | nil => exact StepTriple.pure fun s hs => hs
  | cons action rest ih =>
    refine StepTriple.bind (StepTriple.lift (holds_within
      (within_scriptStops uncounted_of_quiet))) fun _ => ?_
    refine StepTriple.ite (fun _ => ?_) fun _ =>
      StepTriple.bind (keeps_runAction hreplies state action) fun state => ih state
    refine StepTriple.bind (StepTriple.lift (holds_within
      (within_maxRequestsReached uncounted_of_quiet))) fun _ => ?_
    refine StepTriple.ite (fun _ => ?_) fun _ => keeps_closeAndBreak (hover _)
    exact StepTriple.bind (StepTriple.lift (holds_within (Within.ask trivial))) fun _ =>
      keeps_closeAndBreak (hover _)

/-- **A script session conserves its requests.** -/
theorem holds_runActionLoop (phase : ScenarioPhase)
    (hpaced : paced = decide (0 < config.ratePerConn)) :
    Holds (Idle paced) (runActionLoop serde config workerId phase) fun _ => Over paced := by
  unfold runActionLoop
  refine Triple.bind (holds_within (Within.ask trivial)) fun now => ?_
  rw [if_pos hreplies]
  refine Triple.bind (holds_within (Within.ask trivial)) fun _ => ?_
  have hround : ∀ state : ScriptState, Keeps paced (IdleWith paced paced state.schedule)
      (scriptRound serde config workerId phase state)
      fun state => IdleWith paced paced state.schedule := fun state =>
    StepTriple.bind (StepTriple.lift (holds_within (Within.ask trivial))) fun _ =>
      StepTriple.ite (fun _ => keeps_closeAndBreak fun _ hs => hs.2.over) fun _ =>
        keeps_runActions hreplies _ state
  exact Triple.weaken (Triple.forever _ hround)
    (fun s hs => ⟨(isSome_new _ _).trans hpaced.symm, hs⟩) fun _ _ h => h

end Script

/-! ### The life of a worker

Sessions follow each other, and between two of them nothing is awaited. -/

/-- Whether the sessions of an echo worker record response times: they are
paced, and run a script or a loop without think time. -/
def recordsPaced (config : LoadTestConfig) (scenario : Option ScenarioPhase) : Bool :=
  decide (0 < config.ratePerConn) &&
    (scenario.any (·.actions ≠ []) || recordsResponseTime scenario)

theorem holds_modeLoop {codec : GraphQLCodec} (hmode : config.mode = .echo) :
    Holds (Idle (recordsPaced config scenario)) (modeLoop serde config workerId scenario codec)
      fun _ => Over (recordsPaced config scenario) := by
  have hreplies : config.mode.awaitsReplies = true := by rw [hmode]; rfl
  unfold modeLoop
  rw [hmode]
  cases scenario with
  | none => exact holds_runEchoLoop rfl
  | some phase =>
    refine Triple.ite (fun hnone => holds_runEchoLoop ?_) fun hsome =>
      holds_runActionLoop hreplies phase ?_
    · simp [recordsPaced, hnone]
    · simp [recordsPaced, hsome]

variable {worker : Worker}

/-- What a handshake leaves behind. -/
def AfterHandshake (paced : Bool) : Handshake → EchoLedger → Prop
  | .opened => Idle paced
  | _ => Closed paced

theorem holds_handshake (request : HandshakeRequest) (connectedBefore : Bool) :
    Holds (Closed paced) (worker.handshake request connectedBefore) (AfterHandshake paced) := by
  refine Triple.bind (holds_within (Within.ask trivial)) fun _ => ?_
  refine Triple.bind (holds_within (Within.ask trivial)) fun start => ?_
  have hconnect : Holds (Closed paced) (Ask.connect (worker.withLiveAuth request))
      fun outcome => match outcome with
        | .opened => Idle paced
        | _ => Closed paced :=
    holds_ask fun s outcome hs => match outcome with
      | .opened => hs.connect _
      | .cancelled => hs
      | .timedOut => hs
      | .static category => hs
      | .failed err => hs
  refine Triple.bind hconnect fun outcome => ?_
  match outcome with
  | .cancelled =>
    refine Triple.bind (holds_within ?_) fun _ => Triple.pure fun s hs => hs
    unfold Worker.cancelledAttempt
    exact Within.ite (fun _ => Within.pure) fun _ => Within.bind (Within.ask trivial) fun _ =>
      Within.ite (fun _ => Within.ask trivial) fun _ => Within.pure
  | .opened =>
    refine Triple.bind (holds_within (Within.ask trivial)) fun now => ?_
    refine Triple.bind (holds_within ?_) fun _ => Triple.pure fun s hs => hs
    exact Within.ite (fun _ => Within.ask trivial) fun _ => Within.ask trivial
  | .static category =>
    exact Triple.bind (holds_within (Within.ask trivial)) fun _ => Triple.pure fun s hs => hs
  | .failed err =>
    exact Triple.bind (holds_within (Within.ask trivial)) fun _ => Triple.pure fun s hs => hs
  | .timedOut =>
    exact Triple.bind (holds_within (Within.ask trivial)) fun _ => Triple.pure fun s hs => hs

/-- One attempt: without a session before it, and after it. -/
theorem keeps_attempt (hmode : worker.config.mode = .echo) (request : HandshakeRequest)
    (state : WorkerState) :
    StepTriple monitor (Closed (recordsPaced worker.config worker.scenario))
      (worker.attempt request state)
      (fun _ => Closed (recordsPaced worker.config worker.scenario))
      fun _ => Closed (recordsPaced worker.config worker.scenario) := by
  have hretry : ∀ state, StepTriple monitor (Closed (recordsPaced worker.config worker.scenario))
      (worker.retry state) (fun _ => Closed (recordsPaced worker.config worker.scenario))
      fun _ => Closed (recordsPaced worker.config worker.scenario) := fun state =>
    StepTriple.of_within (within_retry uncounted_of_quiet (fun _ => trivial) state)
      (fun s e a he hs _ => by
        show True ∧ Closed _ (s.step ⟨e, a⟩)
        rw [step_of_uncounted s e a he]
        exact ⟨trivial, hs⟩) fun _ _ hs => hs
  refine StepTriple.bind (StepTriple.lift (holds_handshake request _)) fun result => ?_
  cases result with
  | stop => exact StepTriple.throw fun _ hs => hs
  | failed => exact hretry state
  | opened =>
    refine StepTriple.bind (StepTriple.lift (holds_modeLoop hmode)) fun ended => ?_
    refine StepTriple.bind (StepTriple.lift (holds_ask fun s _ hs => hs.connectionClosed))
      fun _ => ?_
    exact StepTriple.ite (fun _ => StepTriple.throw fun _ hs => hs) fun _ => hretry _

theorem holds_run (hmode : worker.config.mode = .echo) :
    Holds (Closed (recordsPaced worker.config worker.scenario)) worker.run
      fun _ => Closed (recordsPaced worker.config worker.scenario) := by
  refine Triple.bind (holds_within (Within.ask trivial)) fun nowMs => ?_
  cases worker.buildHandshakeRequest nowMs with
  | error category => exact holds_within (Within.ask trivial)
  | ok request =>
    exact Triple.forever (fun _ => Closed (recordsPaced worker.config worker.scenario))
      fun state => keeps_attempt hmode request state

theorem closed_init : Closed paced {} :=
  ⟨⟨rfl, rfl, (ite_self 0).symm, rfl⟩, rfl, Nat.le_refl 0⟩

end Parts

end EchoLedger

/-- **An echo worker conserves its messages.** What its counters rise by over a
whole run is what it recorded: the messages sent are those received and one
for every session that ended while a reply was awaited, of which there are at
most as many as sessions; every received message has an RTT sample, and a
response-time sample exactly where response times are recorded; and every
data frame read while a reply was awaited is a reply or not solicited. -/
theorem echo_conservation {worker : Worker} (hmode : worker.config.mode = .echo)
    {trace : List Event} (hrun : Proc.Runs worker.run trace (some ())) (w : WorkerMetrics)
    (heap : Heap) :
    let samples := fun a : AtomicHistogram => a.counts.total
    let ledger := EchoLedger.monitor.after {} trace
    (w.recordAll heap trace).1.echoTally (w.recordAll heap trace).2 samples
        = w.echoTally heap samples + ledger.tally
      ∧ ledger.tally.sent = ledger.tally.recv + ledger.unanswered
      ∧ ledger.unanswered ≤ ledger.sessions
      ∧ ledger.tally.rtt = ledger.tally.recv
      ∧ ledger.tally.response
        = (if EchoLedger.recordsPaced worker.config worker.scenario then ledger.tally.recv else 0)
      ∧ ledger.frames = ledger.tally.recv + ledger.tally.unsolicited := by
  intro samples ledger
  have hclosed : EchoLedger.Closed (EchoLedger.recordsPaced worker.config worker.scenario)
      ledger :=
    (EchoLedger.monitor.wp_sound hrun trivial (EchoLedger.holds_run hmode {} EchoLedger.closed_init)
      (EchoLedger.monitor.accepts_of_admits (fun _ _ => trivial) _ _)).2 () rfl
  refine ⟨?_, hclosed.sent, hclosed.opened, hclosed.rtt, hclosed.response, hclosed.frames⟩
  refine EchoLedger.echoTally_recordAll ?_ _ trace w heap {} (EchoTally.add_empty _).symm
  intro a shard micros
  show (a.record shard micros).counts.total = a.counts.total + 1
  rw [AtomicHistogram.counts_record, Hdr.Hist.total_add, Hdr.Hist.total_single]

/-- A worker that sends one request a second. -/
def pacedEcho : Worker := plainWorker
  { LoadTestConfig.defaults "ws://localhost:9000/" with
    payload := .staticText "hello"
    ratePerConn := 1
    noReconnect := true }

/-- Answers of a server that replies to the first request only. -/
def repliesOnce : ℕ → (e : Eff) → e.Answer :=
  calm fun n wait => match wait with
    | .slot _ => .due
    | _ => if n < 15 then .read (some (.ok (.text "hello"))) else .timedOut

/-- Of two requests of a session one is answered. -/
theorem echo_conservation_repliesOnce :
    let ledger := EchoLedger.monitor.after {} (Proc.run repliesOnce 60 0 pacedEcho.run).1
    ledger.tally.sent = 2 ∧ ledger.tally.sent = ledger.tally.recv + ledger.unanswered
      ∧ ledger.unanswered = 1 ∧ ledger.tally.response = 1 := by
  have hrun : (Proc.run repliesOnce 60 0 pacedEcho.run).2 = some () := by decide +kernel
  have hruns := Proc.runs_run repliesOnce 60 0 pacedEcho.run
  rw [hrun] at hruns
  exact ⟨by decide +kernel, (echo_conservation rfl hruns { latency := 0 } .fresh).2.1,
    by decide +kernel, by decide +kernel⟩

end WsBlast
