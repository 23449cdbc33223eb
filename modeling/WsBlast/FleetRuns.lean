import WsBlast.Fleet

/-!
# What holds in every run of a fleet

A `FleetRun` is a run of some workers up to some moment: an interleaving of
events that the shared state accepts and that is, for each worker, one of the
runs of `Worker.run`. Since a run can be looked at after any of its events,
what is shown of all fleet runs holds at every moment.

`Books` is what ties the shared state to the ledgers of all workers: each
ledger tracks its worker's counters, the handshakes in a recorder are those of
the workers that use it, and no more messages are sent or claimed than the
request limit allows. Every event keeps it (`Books.fits`), so it holds in
every run (`FleetRun.books`).

A run needs no end. Workers that have a result have returned; the others are
somewhere in the middle, and their events so far are the beginning of one of
their runs. Theorems about final figures ask for results, theorems about
invariants do not.
-/

namespace WsBlast

/-! ## What an event does to a ledger

Of the questions a worker asks only three kinds matter to its ledger. -/

namespace Ledger

/-- An event that records nothing and claims nothing is an answer of the
connection, or nothing to the ledger. -/
theorem step_of_quiet (cap : Option ℕ) (s : Ledger) (event : Event)
    (hrecord : ∀ r, event.1 ≠ .record r) (hclaim : ∀ max, event.1 ≠ .claimRequest max) :
    s.step cap event = s ∨ ∃ place ending, s.step cap event = s.observe place ending := by
  -- an observation clears what was on record, so a send that went through is no exception
  obtain ⟨e, answer⟩ := event
  cases e with
  | record r => exact absurd rfl (hrecord r)
  | claimRequest max => exact absurd rfl (hclaim max)
  | send message => exact .inr ⟨_, _, rfl⟩
  | select wait => exact .inr ⟨_, _, rfl⟩
  | connect request => exact .inr ⟨_, _, rfl⟩
  | sendOrCancelled message =>
    cases answer with
    | none => exact .inr ⟨_, _, rfl⟩
    | some result => exact .inr ⟨_, _, rfl⟩
  | sendOpening message =>
    cases answer with
    | cancelled => exact .inr ⟨_, _, rfl⟩
    | timedOut => exact .inr ⟨_, _, rfl⟩
    | done result => exact .inr ⟨_, _, rfl⟩
  | isCancelled => exact .inl rfl
  | cancel => exact .inl rfl
  | now => exact .inl rfl
  | wallClock => exact .inl rfl
  | requestsExhausted max => exact .inl rfl
  | errorsEmpty => exact .inl rfl
  | sleep timer => exact .inl rfl
  | keepaliveDue => exact .inl rfl
  | sendIgnored message => exact .inl rfl
  | openChannel pingEvery => exact .inl rfl
  | pumpUnsolicited => exact .inl rfl
  | chaosPlan => exact .inl rfl
  | chaosCorrupt message => exact .inl rfl
  | chaosReadPause => exact .inl rfl
  | chaosCloseNow => exact .inl rfl

variable {s : Ledger} {w : WorkerMetrics}

/-- The connection's answers are not in the counters. -/
theorem Tracks.observe (h : Tracks s w) (place : Place) (ending : Option Ending) :
    Tracks (s.observe place ending) w :=
  ⟨h.1, h.2, h.3, h.4, h.5, h.6, h.7, h.8, h.9⟩

/-- Nor are claims. -/
theorem Tracks.credit (h : Tracks s w) (credit : ℕ) : Tracks { s with credit } w :=
  ⟨h.1, h.2, h.3, h.4, h.5, h.6, h.7, h.8, h.9⟩

end Ledger

/-- The handshakes of a slot, first ones and reconnects. -/
def Slot.completed (slot : Slot) : ℕ := slot.handshakes + slot.reconnects

/-- The handshakes that a record completes. -/
def Record.completed : Record → ℕ
  | .handshake _ => 1
  | .reconnect _ => 1
  | _ => 0

/-- The messages that a record counts as sent. -/
def Record.sent : Record → ℕ
  | .messageSent _ => 1
  | _ => 0

theorem Ledger.completed_record (s : Ledger) (r : Record) :
    (s.record r).slot.completed = s.slot.completed + r.completed := by
  cases r with
  | handshake duration => exact Nat.add_right_comm _ _ _
  | reconnect duration => rfl
  | error err scope =>
    cases scope with
    | attempt => rfl
    | sentMessage => rfl
  | _ => rfl

/-- Where sends are capped, every message uses up a claim. -/
theorem Ledger.credit_record {cap : Option ℕ} {s : Ledger} {r : Record} (hcapped : cap.isSome)
    (hsound : (s.record r).Sound cap) : (s.record r).credit + r.sent = s.credit := by
  cases r with
  | messageSent bytes =>
    have hcovered : (s.uncovered || s.credit == 0) = false := hsound.covered hcapped
    have hcredit : s.credit ≠ 0 := beq_eq_false_iff_ne.mp (Bool.or_eq_false_iff.mp hcovered).2
    exact Nat.sub_one_add_one hcredit
  | error err scope =>
    cases scope with
    | attempt => rfl
    | sentMessage => rfl
  | _ => rfl

/-! ## What a record does to the shared state

A worker writes into the recorder it was given and into no other. -/

namespace Heap

/-- The number of handshakes in a recorder. -/
def handshakesIn (heap : Heap) (id : RecorderId) : ℕ :=
  (heap.recorders id).handshake.counts.total

/-- Only the recorders matter. -/
theorem handshakesIn_congr {heap heap' : Heap} (h : heap'.recorders = heap.recorders) :
    heap'.handshakesIn = heap.handshakesIn := by
  funext id
  unfold handshakesIn
  rw [h]

/-- A record of another latency leaves the handshakes alone. -/
theorem handshakesIn_updateRecorder (heap : Heap) {f : LatencyRecorder → LatencyRecorder}
    (hf : ∀ recorder, (f recorder).handshake = recorder.handshake) (id : RecorderId) :
    (heap.updateRecorder id f).handshakesIn = heap.handshakesIn := by
  funext id'
  unfold handshakesIn
  show ((Function.update heap.recorders id (f (heap.recorders id))) id').handshake.counts.total = _
  by_cases h : id' = id
  · subst h
    rw [Function.update_self, hf]
  · rw [Function.update_of_ne h]

end Heap

namespace WorkerMetrics

variable (w : WorkerMetrics) (heap : Heap)

theorem handshakesIn_recordHandshakeLatency (duration : Duration) (id : RecorderId) :
    (w.recordHandshakeLatency heap duration).handshakesIn id
      = heap.handshakesIn id + if w.latency = id then 1 else 0 := by
  unfold Heap.handshakesIn
  show ((Function.update heap.recorders w.latency
    ((heap.recorders w.latency).recordHandshake w.shard _)) id).handshake.counts.total = _
  by_cases h : w.latency = id
  · subst h
    rw [Function.update_self, if_pos rfl]
    show (AtomicHistogram.record _ _ _).counts.total = _
    rw [AtomicHistogram.counts_record, Hdr.Hist.total_add, Hdr.Hist.total_single]
  · rw [Function.update_of_ne (Ne.symm h), if_neg h, Nat.add_zero]

/-- A sample of the time series is not in the recorders. -/
theorem recorders_recordInterval (now : Instant) (micros : ℕ) :
    (w.recordInterval heap now micros).2.recorders = heap.recorders := by
  unfold recordInterval
  cases w.interval with
  | none => rfl
  | some interval => rfl

theorem requestsClaimed_recordInterval (now : Instant) (micros : ℕ) :
    (w.recordInterval heap now micros).2.live.requestsClaimed = heap.live.requestsClaimed := by
  unfold recordInterval
  cases w.interval with
  | none => rfl
  | some interval => rfl

theorem handshakesIn_recordMessageRecv (now : Instant) (bytes : ℕ) (rtt : Option Duration) :
    (w.recordMessageRecv heap now bytes rtt).2.handshakesIn = heap.handshakesIn := by
  unfold recordMessageRecv
  cases rtt with
  | none => rfl
  | some rtt =>
    dsimp only
    have hrtt : ∀ micros : ℕ,
        (heap.updateRecorder w.latency (·.recordRtt w.shard micros)).handshakesIn
          = heap.handshakesIn :=
      fun micros => heap.handshakesIn_updateRecorder (·.handshake_recordRtt w.shard micros) _
    cases w.currentAction with
    | none =>
      dsimp only
      split_ifs
      · exact hrtt _
      · exact (Heap.handshakesIn_congr (recorders_recordInterval _ _ _ _)).trans (hrtt _)
    | some action =>
      dsimp only
      have hboth : ∀ micros : ℕ, ((heap.updateRecorder w.latency
            (·.recordRtt w.shard micros)).updateRecorder w.latency
            (·.recordActionRtt action w.shard micros)).handshakesIn = heap.handshakesIn :=
        fun micros => (Heap.handshakesIn_updateRecorder _
          (·.handshake_recordActionRtt action w.shard micros) _).trans (hrtt micros)
      split_ifs
      · exact hboth _
      · exact (Heap.handshakesIn_congr (recorders_recordInterval _ _ _ _)).trans (hboth _)

theorem handshakesIn_recordResponseTime (now : Instant) (duration : Duration) :
    (w.recordResponseTime heap now duration).2.handshakesIn = heap.handshakesIn := by
  unfold recordResponseTime
  refine (Heap.handshakesIn_congr (recorders_recordInterval _ _ _ _)).trans ?_
  have hresponse : ∀ micros : ℕ,
      (heap.updateRecorder w.latency (·.recordResponse w.shard micros)).handshakesIn
        = heap.handshakesIn :=
    fun micros => heap.handshakesIn_updateRecorder (·.handshake_recordResponse w.shard micros) _
  cases w.currentAction with
  | none => exact hresponse _
  | some action =>
    exact (Heap.handshakesIn_updateRecorder _
      (·.handshake_recordActionResponse action w.shard _) _).trans (hresponse _)

/-- **Handshakes are in the recorder of the worker that completed them.** -/
theorem handshakesIn_apply (r : Record) (id : RecorderId) :
    (w.apply heap r).2.handshakesIn id
      = heap.handshakesIn id + if w.latency = id then r.completed else 0 := by
  have hnone : heap.handshakesIn id
      = heap.handshakesIn id + if w.latency = id then 0 else 0 := by
    rw [ite_self, Nat.add_zero]
  cases r with
  | handshake duration => exact w.handshakesIn_recordHandshakeLatency heap duration id
  | reconnect duration => exact w.handshakesIn_recordHandshakeLatency heap duration id
  | messageRecv now bytes rtt =>
    show (w.recordMessageRecv heap now bytes rtt).2.handshakesIn id = _
    rw [handshakesIn_recordMessageRecv]
    exact hnone
  | responseTime now duration =>
    show (w.recordResponseTime heap now duration).2.handshakesIn id = _
    rw [handshakesIn_recordResponseTime]
    exact hnone
  | unsolicitedFrames count =>
    refine Eq.trans ?_ hnone
    show (w.recordUnsolicitedFrames heap count).2.handshakesIn id = _
    unfold recordUnsolicitedFrames
    split_ifs
    · rfl
    · rfl
  | _ => exact hnone

/-- A record claims nothing. -/
theorem requestsClaimed_apply (r : Record) :
    (w.apply heap r).2.live.requestsClaimed = heap.live.requestsClaimed := by
  cases r with
  | messageRecv now bytes rtt =>
    show (w.recordMessageRecv heap now bytes rtt).2.live.requestsClaimed = _
    unfold recordMessageRecv
    cases rtt with
    | none => rfl
    | some rtt =>
      dsimp only
      cases w.currentAction with
      | none =>
        dsimp only
        split_ifs
        · rfl
        · exact requestsClaimed_recordInterval _ _ _ _
      | some action =>
        dsimp only
        split_ifs
        · rfl
        · exact requestsClaimed_recordInterval _ _ _ _
  | responseTime now duration =>
    show (w.recordResponseTime heap now duration).2.live.requestsClaimed = _
    unfold recordResponseTime
    rw [requestsClaimed_recordInterval]
    cases w.currentAction with
    | none => rfl
    | some action => rfl
  | unsolicitedFrames count =>
    show (w.recordUnsolicitedFrames heap count).2.live.requestsClaimed = _
    unfold recordUnsolicitedFrames
    split_ifs
    · rfl
    · rfl
  | _ => rfl

/-- What a record does to a worker's recorder and to its sent messages. -/
theorem account_apply (r : Record) :
    (w.apply heap r).1.latency = w.latency
      ∧ (w.apply heap r).1.messagesSent = w.messagesSent + r.sent := by
  cases r with
  | messageSent bytes =>
    have hfields := w.account_recordMessageSent heap bytes
    exact ⟨congrArg Account.latency hfields, congrArg Account.messagesSent hfields⟩
  | messageRecv now bytes rtt =>
    have hfields := w.account_recordMessageRecv heap now bytes rtt
    exact ⟨congrArg Account.latency hfields, congrArg Account.messagesSent hfields⟩
  | responseTime now duration =>
    have hfields := w.account_recordInterval
    exact ⟨congrArg Account.latency (hfields _ _ _), congrArg Account.messagesSent (hfields _ _ _)⟩
  | unsolicitedFrames count =>
    have hfields := w.account_recordUnsolicitedFrames heap count
    exact ⟨congrArg Account.latency hfields, congrArg Account.messagesSent hfields⟩
  | error err scope =>
    have hfields := w.account_recordError heap err scope
    exact ⟨congrArg Account.latency hfields, congrArg Account.messagesSent hfields⟩
  | connectionFailed err =>
    have hfields := w.account_recordError heap err .attempt
    exact ⟨congrArg Account.latency hfields, congrArg Account.messagesSent hfields⟩
  | _ => exact ⟨rfl, rfl⟩

end WorkerMetrics

/-! ## The books of a fleet -/

section Books

variable {ι : Type} [DecidableEq ι] [Fintype ι]

/-- The shared state and the ledgers of all workers fit together: every ledger
tracks its worker, a recorder has the handshakes it had at first and those of
the workers that use it, and the messages sent and the claims not used up yet
are within the claims made and the limit. -/
structure Books (cap : Option ℕ) (first : RecorderId → ℕ) (fleet : Fleet ι)
    (ledgers : ι → Ledger) : Prop where
  tracks : ∀ i, (ledgers i).Tracks (fleet.workers i)
  handshakes : ∀ id, fleet.heap.handshakesIn id
    = first id + ∑ i, if (fleet.workers i).latency = id then (ledgers i).slot.completed else 0
  claims : ∀ max ∈ cap, ∑ i, ((fleet.workers i).messagesSent + (ledgers i).credit)
    ≤ min fleet.heap.live.requestsClaimed max

namespace Books

variable {cap : Option ℕ} {first : RecorderId → ℕ} {fleet : Fleet ι} {ledgers : ι → Ledger}

omit [Fintype ι] in
/-- A change of one worker and its ledger that keeps them together. -/
theorem tracks_update (i : ι) {w : WorkerMetrics} {s : Ledger}
    (h : ∀ i, (ledgers i).Tracks (fleet.workers i)) (hnew : s.Tracks w) (j : ι) :
    (Function.update ledgers i s j).Tracks (Function.update fleet.workers i w j) := by
  by_cases hj : j = i
  · subst hj
    rw [Function.update_self, Function.update_self]
    exact hnew
  · rw [Function.update_of_ne hj, Function.update_of_ne hj]
    exact h j

omit [Fintype ι] in
/-- A change of one ledger that its worker still fits. -/
theorem tracks_update_ledger (i : ι) {s : Ledger}
    (h : ∀ i, (ledgers i).Tracks (fleet.workers i)) (hnew : s.Tracks (fleet.workers i)) (j : ι) :
    (Function.update ledgers i s j).Tracks (fleet.workers j) := by
  have hboth := tracks_update i h hnew j
  rw [Function.update_eq_self] at hboth
  exact hboth

/-- A record, carried out. -/
theorem record (h : Books cap first fleet ledgers) (i : ι) (r : Record)
    (hsound : ((ledgers i).record r).Sound cap) :
    Books cap first
      ⟨((fleet.workers i).apply fleet.heap r).2,
        Function.update fleet.workers i ((fleet.workers i).apply fleet.heap r).1⟩
      (Function.update ledgers i ((ledgers i).record r)) where
  tracks := tracks_update i h.tracks ((h.tracks i).apply fleet.heap r hsound.matched)
  handshakes := by
    intro id
    obtain ⟨hlatency, -⟩ := (fleet.workers i).account_apply fleet.heap r
    have hsum := Proc.System.sum_update_update
      (fun (w : WorkerMetrics) (s : Ledger) => if w.latency = id then s.slot.completed else 0)
      fleet.workers ledgers i ((fleet.workers i).apply fleet.heap r).1 ((ledgers i).record r)
    show ((fleet.workers i).apply fleet.heap r).2.handshakesIn id = _
    rw [WorkerMetrics.handshakesIn_apply, h.handshakes, Nat.add_assoc, Nat.add_right_inj]
    refine Nat.add_right_cancel (m := if (fleet.workers i).latency = id
      then (ledgers i).slot.completed else 0) (Eq.trans ?_ hsum.symm)
    rw [hlatency, Ledger.completed_record]
    by_cases hid : (fleet.workers i).latency = id
    · rw [if_pos hid, if_pos hid, if_pos hid, Nat.add_assoc, Nat.add_comm (Record.completed r)]
    · rw [if_neg hid, if_neg hid, if_neg hid]
  claims := by
    intro max hmax
    obtain ⟨-, hsent⟩ := (fleet.workers i).account_apply fleet.heap r
    have hsum := Proc.System.sum_update_update
      (fun (w : WorkerMetrics) (s : Ledger) => w.messagesSent + s.credit)
      fleet.workers ledgers i ((fleet.workers i).apply fleet.heap r).1 ((ledgers i).record r)
    have hcredit := Ledger.credit_record (Option.isSome_of_mem hmax) hsound
    show _ ≤ min ((fleet.workers i).apply fleet.heap r).2.live.requestsClaimed max
    rw [WorkerMetrics.requestsClaimed_apply]
    refine le_trans (Nat.le_of_eq ?_) (h.claims max hmax)
    -- the message sent takes the place of the claim it used up
    refine Nat.add_right_cancel (hsum.trans ?_)
    rw [hsent, ← hcredit, Nat.add_assoc (fleet.workers i).messagesSent, Nat.add_comm r.sent]

/-- A quantity of the workers and their ledgers, when one ledger changes. -/
theorem sum_update_ledger (g : WorkerMetrics → Ledger → ℕ) (fleet : Fleet ι)
    (ledgers : ι → Ledger) (i : ι) (s : Ledger) :
    ∑ j, g (fleet.workers j) (Function.update ledgers i s j) + g (fleet.workers i) (ledgers i)
      = ∑ j, g (fleet.workers j) (ledgers j) + g (fleet.workers i) s := by
  have hsum := Proc.System.sum_update_update g fleet.workers ledgers i (fleet.workers i) s
  rw [Function.update_eq_self] at hsum
  exact hsum

/-- A change that only one ledger notices, and that is neither a handshake nor
a claim. -/
theorem ledger (h : Books cap first fleet ledgers) {i : ι} {s : Ledger}
    (htracks : s.Tracks (fleet.workers i)) (hslot : s.slot = (ledgers i).slot)
    (hcredit : s.credit = (ledgers i).credit) :
    Books cap first fleet (Function.update ledgers i s) where
  tracks := tracks_update_ledger i h.tracks htracks
  handshakes := by
    intro id
    have hsum := sum_update_ledger
      (fun w s => if w.latency = id then s.slot.completed else 0) fleet ledgers i s
    rw [hslot] at hsum
    rw [h.handshakes, Nat.add_right_cancel hsum]
  claims := by
    intro max hmax
    have hsum := sum_update_ledger (fun w s => w.messagesSent + s.credit) fleet ledgers i s
    rw [hcredit] at hsum
    rw [Nat.add_right_cancel hsum]
    exact h.claims max hmax

/-- What the connection answers, and what only the environment knows. -/
theorem quiet (h : Books cap first fleet ledgers) (i : ι) (event : Event)
    (hrecord : ∀ r, event.1 ≠ .record r) (hclaim : ∀ max, event.1 ≠ .claimRequest max) :
    Books cap first fleet (Function.update ledgers i ((ledgers i).step cap event)) := by
  obtain hsame | ⟨place, ending, hobserve⟩ := (ledgers i).step_of_quiet cap event hrecord hclaim
  · rw [hsame, Function.update_eq_self]
    exact h
  · rw [hobserve]
    exact h.ledger ((h.tracks i).observe place ending) rfl rfl

omit [DecidableEq ι] in
/-- More claims than before. -/
theorem claimed (h : Books cap first fleet ledgers) (live : LiveMetrics)
    (hle : fleet.heap.live.requestsClaimed ≤ live.requestsClaimed) :
    Books cap first { fleet with heap.live := live } ledgers where
  tracks := h.tracks
  handshakes := h.handshakes
  claims := fun max hmax => (h.claims max hmax).trans (min_le_min_right max hle)

/-- A claim, made. -/
theorem claimRequest (h : Books cap first fleet ledgers) (i : ι) (max : ℕ) (granted : Bool)
    (hgranted : granted = (fleet.heap.live.claimRequest max).1) :
    Books cap first { fleet with heap.live := (fleet.heap.live.claimRequest max).2 }
      (Function.update ledgers i ((ledgers i).step cap ⟨.claimRequest max, granted⟩)) := by
  have hmore := h.claimed (fleet.heap.live.claimRequest max).2 (Nat.le_succ _)
  cases granted with
  | false =>
    show Books cap first _ (Function.update ledgers i (ledgers i))
    rw [Function.update_eq_self]
    exact hmore
  | true =>
    show Books cap first _ (Function.update ledgers i
      (if cap = some max then { ledgers i with credit := (ledgers i).credit + 1 } else ledgers i))
    by_cases hcap : cap = some max
    · rw [if_pos hcap]
      refine ⟨?_, ?_, ?_⟩
      · exact tracks_update_ledger i h.tracks ((h.tracks i).credit ((ledgers i).credit + 1))
      · intro id
        have hsum := sum_update_ledger
          (fun w s => if w.latency = id then s.slot.completed else 0) fleet ledgers i
          { ledgers i with credit := (ledgers i).credit + 1 }
        show fleet.heap.handshakesIn id = _
        rw [h.handshakes]
        exact congrArg (first id + ·) (Nat.add_right_cancel hsum).symm
      · -- a claim that is granted came before the limit was reached
        intro max' hmax'
        have hlimit : max = max' := Option.some.inj (hcap.symm.trans hmax')
        subst hlimit
        have hsum := sum_update_ledger (fun w s => w.messagesSent + s.credit) fleet ledgers i
          { ledgers i with credit := (ledgers i).credit + 1 }
        have hbefore := h.claims max hmax'
        have hroom : fleet.heap.live.requestsClaimed < max := of_decide_eq_true hgranted.symm
        have hone : ∑ j, ((fleet.workers j).messagesSent + (Function.update ledgers i
              { ledgers i with credit := (ledgers i).credit + 1 } j).credit)
            = ∑ j, ((fleet.workers j).messagesSent + (ledgers j).credit) + 1 := by
          refine Nat.add_right_cancel (hsum.trans ?_)
          show _ + ((fleet.workers i).messagesSent + ((ledgers i).credit + 1)) = _
          rw [← Nat.add_assoc (fleet.workers i).messagesSent, ← Nat.add_assoc, Nat.add_right_comm]
        show _ ≤ min (fleet.heap.live.requestsClaimed + 1) max
        rw [hone, min_eq_left hroom]
        exact Nat.succ_le_succ (hbefore.trans (min_le_left _ _))
    · rw [if_neg hcap, Function.update_eq_self]
      exact hmore

/-- **Every event keeps the books.** -/
theorem fits (cap : Option ℕ) (first : RecorderId → ℕ) :
    (Fleet.system : Proc.System ι Eff Eff.Answer (Fleet ι)).Fits (Ledger.monitor cap)
      (Books cap first) where
  admits := by
    intro fleet ledgers i event h hadmits
    obtain ⟨e, answer⟩ := event
    cases e with
    | select wait => exact hadmits
    | errorsEmpty => exact (eq_of_beq hadmits).symm.trans (h.tracks i).empty
    | _ => exact trivial
  step := by
    intro fleet ledgers i event h hadmits hsound
    obtain ⟨e, answer⟩ := event
    cases e with
    | record r => exact h.record i r hsound
    | claimRequest max => exact h.claimRequest i max answer (eq_of_beq hadmits).symm
    | _ => exact h.quiet i ⟨_, answer⟩ (fun _ => nofun) fun _ => nofun

omit [DecidableEq ι] in
/-- Nothing is recorded before the first event. -/
theorem init (cap : Option ℕ) {fleet : Fleet ι} (hfresh : ∀ i, (fleet.workers i).Fresh) :
    Books cap fleet.heap.handshakesIn fleet fun _ => {} where
  tracks := fun i => Ledger.tracks_of_fresh (hfresh i)
  handshakes := by
    intro id
    have hzero : ∀ i, (if (fleet.workers i).latency = id then Slot.completed {} else 0) = 0 := by
      intro i
      split_ifs
      · rfl
      · rfl
    rw [Finset.sum_eq_zero fun i _ => hzero i, Nat.add_zero]
  claims := by
    intro max _
    have hzero : ∀ i, (fleet.workers i).messagesSent + 0 = 0 := fun i => (hfresh i).messagesSent
    rw [Finset.sum_eq_zero fun i _ => hzero i]
    exact Nat.zero_le _

end Books

/-! ## Runs

A fleet run packs an interleaving with the proof that it can happen. -/

/-- A run of some workers up to some moment: each worker starts with nothing
recorded, the shared state gives the answers it has to give, and what happens
to a worker is a run of its program, which has ended when it has a result. -/
structure FleetRun (ι : Type) [DecidableEq ι] where
  workers : ι → Worker
  start : Fleet ι
  trace : List (ι × Event)
  result : ι → Option Unit
  fresh : ∀ i, (start.workers i).Fresh
  accepted : Fleet.system.Accepts start trace
  runs : ∀ i, Proc.Runs (workers i).run (Proc.ofProcess i trace) (result i)

namespace FleetRun

/-- The shared state at the moment. -/
def now (run : FleetRun ι) : Fleet ι := Fleet.system.after run.start run.trace

/-- The ledger of each worker at the moment. -/
def ledger (run : FleetRun ι) (cap : Option ℕ) : ι → Ledger :=
  Proc.System.monitors (Ledger.monitor cap) (fun _ => {}) run.trace

omit [Fintype ι] in
/-- A worker keeps its recorder. -/
theorem latency_step (fleet : Fleet ι) (item : ι × Event) (i : ι) :
    ((fleet.step item).workers i).latency = (fleet.workers i).latency := by
  obtain ⟨j, e, answer⟩ := item
  cases e with
  | record r =>
    show ((Function.update fleet.workers j ((fleet.workers j).apply fleet.heap r).1) i).latency = _
    by_cases h : i = j
    · subst h
      rw [Function.update_self]
      exact ((fleet.workers i).account_apply fleet.heap r).1
    · rw [Function.update_of_ne h]
  | _ => rfl

omit [Fintype ι] in
theorem latency_now (run : FleetRun ι) (i : ι) :
    (run.now.workers i).latency = (run.start.workers i).latency := by
  have hafter : ∀ (trace : List (ι × Event)) (fleet : Fleet ι),
      ((Fleet.system.after fleet trace).workers i).latency = (fleet.workers i).latency := by
    intro trace
    induction trace with
    | nil => exact fun _ => rfl
    | cons item rest ih => exact fun fleet => (ih (fleet.step item)).trans (latency_step fleet item i)
  exact hafter run.trace run.start

/-- The request limit is the same for all workers, and none of them runs the
graphql-ws loop. A fleet that is not looked at for its limit (`none`) needs
neither. -/
def CappedAt (run : FleetRun ι) (cap : Option ℕ) : Prop :=
  cap.isSome → ∀ i, (run.workers i).config.maxRequests = cap
    ∧ runsGraphQL (run.workers i).config (run.workers i).scenario = false

/-- **The books of every run are in order**: they fit the shared state, the
ledgers are sound, and a worker that has ended settled its slot. -/
theorem books (run : FleetRun ι) (cap : Option ℕ) (hcap : run.CappedAt cap) :
    Books cap run.start.heap.handshakesIn run.now (run.ledger cap)
      ∧ ∀ i, (run.ledger cap i).Sound cap
        ∧ ∀ r ∈ run.result i, (run.ledger cap i).Settled cap :=
  Fleet.system.sound (Books.fits cap _) (Books.init cap run.fresh)
    (fun _ => Ledger.trying_init.toSound)
    (fun i => Ledger.holds_run (fun hsome => hcap hsome i) {} Ledger.trying_init)
    run.accepted run.runs

end FleetRun

end Books

/-! ## Executions

Concrete runs are computed: a worker is run on given answers, for a number of
steps, and the trace is checked against the shared state by evaluation. -/

/-- A heap that nothing has been recorded in. -/
def Heap.fresh : Heap where
  live := LiveMetrics.new 1
  recorders := fun _ => LatencyRecorder.withShards 2
  stores := fun _ => IntervalStore.new 0 (Duration.ofSecs 1)

theorem Heap.handshakesIn_fresh (id : RecorderId) : Heap.fresh.handshakesIn id = 0 := by
  unfold handshakesIn
  show (AtomicHistogram.new 2).counts.total = 0
  rw [AtomicHistogram.counts_new, Hdr.Hist.total_zero]

/-- Answers for an execution in which nothing is cancelled, everything
connects and every send goes through, on a clock that stands still; what a
wait comes to is left to `wake`. -/
def calm (wake : ℕ → Wait → Woken) (n : ℕ) : (e : Eff) → e.Answer
  | .isCancelled => false
  | .cancel => ()
  | .now => (0 : Instant)
  | .wallClock => (0 : ℕ)
  | .claimRequest _ => true
  | .requestsExhausted _ => false
  | .errorsEmpty => true
  | .record _ => ()
  | .sleep _ => true
  | .keepaliveDue => false
  | .send _ => Except.ok ()
  | .sendOrCancelled _ => some (Except.ok ())
  | .sendOpening _ => SendOutcome.done (.ok ())
  | .sendIgnored _ => ()
  | .select wait => wake n wait
  | .openChannel _ => ()
  | .pumpUnsolicited => (0 : ℕ)
  | .chaosPlan => ({} : SendPlan)
  | .chaosCorrupt message => (message, false)
  | .chaosReadPause => (none : Option Duration)
  | .chaosCloseNow => (none : Option Bool)
  | .connect _ => ConnectOutcome.opened

/-- The texts of the graphql-ws messages that open and end a subscription
whose texts need no escapes. -/
def plainCodec : GraphQLCodec where
  toText
    | .connectionInit none => some "\x7b\"type\":\"connection_init\",\"payload\":null\x7d"
    | .subscribe id payload =>
      some ("\x7b\"type\":\"subscribe\",\"id\":\"" ++ id
        ++ "\",\"payload\":\x7b\"query\":\"" ++ payload.query
        ++ "\",\"operationName\":null,\"variables\":null,\"extensions\":null\x7d\x7d")
    | .complete id => some ("\x7b\"type\":\"complete\",\"id\":\"" ++ id ++ "\"\x7d")
    | _ => none
  fromText text :=
    if text = "\x7b\"type\":\"connection_ack\"\x7d" then some .connectionAck else none

/-- A worker without a script whose URL and headers are well formed. -/
def plainWorker (config : LoadTestConfig) : Worker where
  serde := { fromStr := fun _ => none, toText := fun _ => "null" }
  codec := plainCodec
  http := ⟨fun _ => some [], fun text => some text.toUTF8.toList, fun url _ => url⟩
  config
  workerId := 0
  scenario := none

section Execute

variable (worker : Worker) (heap : Heap) (answer : ℕ → (e : Eff) → e.Answer) (fuel : ℕ)

/-- The events of an execution of one worker. -/
def executionTrace : List (Unit × Event) := (Proc.run answer fuel 0 worker.run).1.map ((), ·)

/-- The state one worker starts from, with the first recorder. -/
def soloStart : Fleet Unit := ⟨heap, fun _ => { latency := 0 }⟩

theorem ofProcess_executionTrace :
    Proc.ofProcess () (executionTrace worker answer fuel)
      = (Proc.run answer fuel 0 worker.run).1 := by
  unfold Proc.ofProcess executionTrace
  induction (Proc.run answer fuel 0 worker.run).1 with
  | nil => rfl
  | cons event rest ih => exact congrArg (event :: ·) ih

/-- The run of one worker on given answers, when the shared state agrees with
them. -/
def FleetRun.execute
    (haccepted : Fleet.system.Accepts (soloStart heap) (executionTrace worker answer fuel)) :
    FleetRun Unit where
  workers := fun _ => worker
  start := soloStart heap
  trace := executionTrace worker answer fuel
  result := fun _ => (Proc.run answer fuel 0 worker.run).2
  fresh := fun _ => ⟨rfl, rfl, rfl, rfl, rfl, rfl, rfl⟩
  accepted := haccepted
  runs := by
    intro i
    rw [ofProcess_executionTrace]
    exact Proc.runs_run answer fuel 0 worker.run

end Execute

end WsBlast
