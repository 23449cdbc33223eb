import WsBlast.Intervals
import WsBlast.Lib.TallyMap

/-!
# What a worker counts

Every worker keeps counters of its own (`WorkerMetrics`) and updates three
things that it shares with others: the live counters, split into shards
(`LiveMetrics`), the run's latency recorder and the run's interval store.
The shared things live in a `Heap`, and a worker holds references to its
recorder and its store, as it holds an `Arc` in the program.

The `record*` functions are the only ways a session changes the metrics;
each takes the worker and the heap and returns both.

The two sets of counters serve different readers. A worker's own are added up at
the end and make the report; the live ones are read while the run goes on, by
the progress line, the dashboard, the exports and the coordinator.
-/

namespace WsBlast

/-! ## Errors

Every failure is counted once, under one category, and with its scope: whether
the operation that failed was counted as a message before. -/

/-- Category under which a failure is counted in the report. The order is the
one the report lists them in. -/
inductive ErrorCategory where
  | dnsResolution
  | tcpConnect
  | tlsHandshake
  | httpUpgradeRejected
  | protocolError
  | writeError
  | readError
  | timeout
  | unexpectedClose
  | other
  | checkFailed
  deriving DecidableEq, Repr

namespace ErrorCategory

/-- The position in the enumeration. -/
def discriminant : ErrorCategory → ℕ
  | dnsResolution => 0
  | tcpConnect => 1
  | tlsHandshake => 2
  | httpUpgradeRejected => 3
  | protocolError => 4
  | writeError => 5
  | readError => 6
  | timeout => 7
  | unexpectedClose => 8
  | other => 9
  | checkFailed => 10

theorem discriminant_injective : Function.Injective discriminant := by
  intro a b h
  cases a <;> cases b <;> first | rfl | cases h

instance : Fintype ErrorCategory where
  elems := {dnsResolution, tcpConnect, tlsHandshake, httpUpgradeRejected, protocolError,
    writeError, readError, timeout, unexpectedClose, other, checkFailed}
  complete := by
    intro category
    cases category <;> decide

instance : Ord ErrorCategory := ⟨compareOn discriminant⟩

instance : Std.TransOrd ErrorCategory :=
  inferInstanceAs (Std.TransCmp (compareOn discriminant))

instance : Std.LawfulEqOrd ErrorCategory where
  eq_of_compare h := discriminant_injective (Std.LawfulEqOrd.eq_of_compare h)

end ErrorCategory

/-- How a recorded error relates to the attempted operations that form the
error-rate denominator. -/
inductive ErrorScope where
  /-- The failed operation never produced a sent message, so it counts as
  an attempted operation itself. -/
  | attempt
  /-- The error ends a message that is already counted as sent, so it adds
  no second attempt. -/
  | sentMessage
  deriving DecidableEq, Repr

/-! ## Live counters -/

/-- One shard of the live counters; a snapshot has the same fields. -/
@[ext]
structure LiveSnapshot where
  activeConnections : ℕ := 0
  connectionsEstablished : ℕ := 0
  connectionsFailed : ℕ := 0
  reconnects : ℕ := 0
  messagesSent : ℕ := 0
  messagesReceived : ℕ := 0
  bytesSent : ℕ := 0
  bytesReceived : ℕ := 0
  totalErrors : ℕ := 0
  unsolicitedFrames : ℕ := 0
  deriving DecidableEq, Repr

namespace LiveSnapshot

/-- Adds up two shards. -/
def add (a b : LiveSnapshot) : LiveSnapshot where
  activeConnections := a.activeConnections + b.activeConnections
  connectionsEstablished := a.connectionsEstablished + b.connectionsEstablished
  connectionsFailed := a.connectionsFailed + b.connectionsFailed
  reconnects := a.reconnects + b.reconnects
  messagesSent := a.messagesSent + b.messagesSent
  messagesReceived := a.messagesReceived + b.messagesReceived
  bytesSent := a.bytesSent + b.bytesSent
  bytesReceived := a.bytesReceived + b.bytesReceived
  totalErrors := a.totalErrors + b.totalErrors
  unsolicitedFrames := a.unsolicitedFrames + b.unsolicitedFrames

end LiveSnapshot

/-- `fetch_sub(1)` on a 64-bit counter, which wraps at 0. -/
def wrappingPred (n : ℕ) : ℕ := if n = 0 then 2 ^ 64 - 1 else n - 1

/-- Live counters of a run, in at least one shard. -/
structure LiveMetrics where
  shards : List LiveSnapshot
  nonempty : shards ≠ []
  /-- Sends claimed against `--requests`. -/
  requestsClaimed : ℕ

namespace LiveMetrics

/-- A zeroed registry for a machine with `cores` cores, at least one. -/
def new (cores : ℕ) : LiveMetrics where
  shards := List.replicate (max cores 1 * 2) {}
  nonempty := by
    rw [Ne, List.replicate_eq_nil_iff]
    omega
  requestsClaimed := 0

/-- Updates the counters of shard `index`. -/
def update (live : LiveMetrics) (index : ℕ) (f : LiveSnapshot → LiveSnapshot) : LiveMetrics :=
  { live with
    shards := live.shards.modify (index % live.shards.length) f
    nonempty := by
      rw [Ne, ← List.length_eq_zero_iff, List.length_modify, List.length_eq_zero_iff]
      exact live.nonempty }

/-- Claims one send against a request limit of `max`: false once `max`
sends have been claimed. -/
def claimRequest (live : LiveMetrics) (max : ℕ) : Bool × LiveMetrics :=
  (live.requestsClaimed < max, { live with requestsClaimed := live.requestsClaimed + 1 })

/-- Whether `max` sends have been claimed. -/
def requestsExhausted (live : LiveMetrics) (max : ℕ) : Bool := max ≤ live.requestsClaimed

/-- A point-in-time snapshot: every shard added up. -/
def snapshot (live : LiveMetrics) : LiveSnapshot := live.shards.foldl LiveSnapshot.add {}

/-- A counter of the snapshot is the sum of the shards'. -/
theorem counter_snapshot (live : LiveMetrics) {counter : LiveSnapshot → ℕ}
    (hzero : counter {} = 0) (hadd : ∀ a b, counter (a.add b) = counter a + counter b) :
    counter live.snapshot = (live.shards.map counter).sum := by
  have hfold : ∀ (shards : List LiveSnapshot) (acc : LiveSnapshot),
      counter (shards.foldl LiveSnapshot.add acc) = counter acc + (shards.map counter).sum := by
    intro shards
    induction shards with
    | nil => intro acc; simp
    | cons shard rest ih =>
      intro acc
      rw [List.foldl_cons, ih, hadd, List.map_cons, List.sum_cons, Nat.add_assoc]
  unfold snapshot
  rw [hfold, hzero, Nat.zero_add]

/-- An update that adds to a counter of one shard adds to the snapshot's. -/
theorem counter_update (live : LiveMetrics) (index : ℕ) {counter : LiveSnapshot → ℕ}
    {f : LiveSnapshot → LiveSnapshot} {amount : ℕ}
    (hzero : counter {} = 0) (hadd : ∀ a b, counter (a.add b) = counter a + counter b)
    (hf : ∀ shard, counter (f shard) = counter shard + amount) :
    counter (live.update index f).snapshot = counter live.snapshot + amount := by
  have hlt : index % live.shards.length < live.shards.length :=
    Nat.mod_lt _ (List.length_pos_of_ne_nil live.nonempty)
  rw [counter_snapshot _ hzero hadd, counter_snapshot _ hzero hadd]
  show ((live.shards.modify (index % live.shards.length) f).map counter).sum = _
  rw [List.modify_eq_take_cons_drop hlt]
  conv_rhs => rw [← List.take_append_drop (index % live.shards.length) live.shards,
    List.drop_eq_getElem_cons hlt]
  simp only [List.map_append, List.map_cons, List.sum_append, List.sum_cons, hf]
  omega

end LiveMetrics

/-! ## A worker's metrics

The record that is handed back when a worker ends. -/

/-- What one worker counted for a named action. -/
@[ext]
structure ActionCounts where
  sent : ℕ := 0
  errors : ℕ := 0
  /-- Errors in `errors` that ended a message already counted as sent. -/
  sentMessageErrors : ℕ := 0
  deriving DecidableEq, Repr

/-- The faults a run injected on the client side. -/
structure ChaosSummary where
  seed : UInt64 := 0
  delayed : ℕ := 0
  dropped : ℕ := 0
  corrupted : ℕ := 0
  closes : ℕ := 0
  readPauses : ℕ := 0
  deriving DecidableEq, Repr

/-- A reference to a latency recorder that workers share. -/
abbrev RecorderId := ℕ

/-- Metrics of a single worker. -/
structure WorkerMetrics where
  /-- The run's latency recorder. -/
  latency : RecorderId
  messagesSent : ℕ := 0
  messagesRecv : ℕ := 0
  bytesSent : ℕ := 0
  bytesRecv : ℕ := 0
  errors : TallyMap ErrorCategory ℕ := ∅
  /-- Errors in `errors` recorded with `ErrorScope.sentMessage`. -/
  sentMessageErrors : ℕ := 0
  /-- Handshakes recorded after this worker's first one. -/
  reconnects : ℕ := 0
  /-- Data frames skipped while waiting for an echo reply. -/
  unsolicitedFrames : ℕ := 0
  /-- The run ended during this worker's first handshake, before it
  succeeded or failed. -/
  interrupted : Bool := false
  /-- Latency samples for the run's time series, when it keeps one. -/
  interval : Option IntervalRecorder := none
  /-- Whether the time series takes response time instead of RTT. -/
  intervalUsesResponse : Bool := false
  /-- Injected faults, when the run injects any. -/
  chaos : Option ChaosSummary := none
  /-- Sends and errors of each named scenario action, by the position of
  its name. -/
  actions : List ActionCounts := []
  /-- The named action whose message the worker is sending. -/
  currentAction : Option ℕ := none
  /-- The live counter shard this worker updates. -/
  shard : ℕ := 0

/-- What the workers share. -/
structure Heap where
  live : LiveMetrics
  recorders : RecorderId → LatencyRecorder
  stores : StoreId → IntervalStore

namespace Heap

/-- Updates the counters of one shard. -/
def updateLive (heap : Heap) (shard : ℕ) (f : LiveSnapshot → LiveSnapshot) : Heap :=
  { heap with live := heap.live.update shard f }

/-- Updates one recorder. -/
def updateRecorder (heap : Heap) (id : RecorderId) (f : LatencyRecorder → LatencyRecorder) :
    Heap :=
  { heap with recorders := Function.update heap.recorders id (f (heap.recorders id)) }

end Heap

namespace WorkerMetrics

/-- Updates the counters of the current action, if there is one. -/
def updateAction (w : WorkerMetrics) (f : ActionCounts → ActionCounts) : WorkerMetrics :=
  match w.currentAction with
  | none => w
  | some index =>
    let actions :=
      w.actions ++ List.replicate (index + 1 - w.actions.length) {}
    { w with actions := actions.modify index f }

/-- Records one sample of the time series, when the run keeps one. -/
def recordInterval (w : WorkerMetrics) (heap : Heap) (now : Instant) (micros : ℕ) :
    WorkerMetrics × Heap :=
  match w.interval with
  | none => (w, heap)
  | some interval =>
    let (interval, stores) := interval.record heap.stores now micros
    ({ w with interval := some interval }, { heap with stores })

/-- Hands the samples of the worker's current interval to the time
series. -/
def flushInterval (w : WorkerMetrics) (heap : Heap) : WorkerMetrics × Heap :=
  match w.interval with
  | none => (w, heap)
  | some interval =>
    let (interval, stores) := interval.flush heap.stores
    ({ w with interval := some interval }, { heap with stores })

/-- What both kinds of handshake record: the latency, and one more connection
that is open. -/
def recordHandshakeLatency (w : WorkerMetrics) (heap : Heap) (duration : Duration) : Heap :=
  let micros := clampUs duration.asMicros
  (heap.updateRecorder w.latency (·.recordHandshake w.shard micros)).updateLive w.shard
    fun live => { live with activeConnections := live.activeConnections + 1 }

/-- Records this worker's first completed handshake. -/
def recordHandshake (w : WorkerMetrics) (heap : Heap) (duration : Duration) :
    WorkerMetrics × Heap :=
  (w, (w.recordHandshakeLatency heap duration).updateLive w.shard
    fun live => { live with connectionsEstablished := live.connectionsEstablished + 1 })

/-- Records a handshake that replaced a connection this worker had already
established and lost. -/
def recordReconnect (w : WorkerMetrics) (heap : Heap) (duration : Duration) :
    WorkerMetrics × Heap :=
  ({ w with reconnects := w.reconnects + 1 },
    (w.recordHandshakeLatency heap duration).updateLive w.shard
      fun live => { live with reconnects := live.reconnects + 1 })

/-- Records an error: under its category, for the action whose message it ends,
and in the live total. -/
def recordError (w : WorkerMetrics) (heap : Heap) (err : ErrorCategory) (scope : ErrorScope) :
    WorkerMetrics × Heap :=
  let w := { w with errors := w.errors.bump err 1 }
  let ends := if scope = .sentMessage then 1 else 0
  let w := { w with sentMessageErrors := w.sentMessageErrors + ends }
  let w := w.updateAction fun action =>
    { action with
      errors := action.errors + 1
      sentMessageErrors := action.sentMessageErrors + ends }
  (w, heap.updateLive w.shard fun live => { live with totalErrors := live.totalErrors + 1 })

/-- Records a handshake that failed, which is an error and a failed connection. -/
def recordConnectionFailed (w : WorkerMetrics) (heap : Heap) (err : ErrorCategory) :
    WorkerMetrics × Heap :=
  let (w, heap) := w.recordError heap err .attempt
  (w, heap.updateLive w.shard
    fun live => { live with connectionsFailed := live.connectionsFailed + 1 })

/-- Records the end of a connection, which only the live counters see. -/
def recordConnectionClosed (w : WorkerMetrics) (heap : Heap) : WorkerMetrics × Heap :=
  (w, heap.updateLive w.shard
    fun live => { live with activeConnections := wrappingPred live.activeConnections })

/-- Records a message that was sent, with its bytes. -/
def recordMessageSent (w : WorkerMetrics) (heap : Heap) (bytes : ℕ) : WorkerMetrics × Heap :=
  let w := { w with messagesSent := w.messagesSent + 1, bytesSent := w.bytesSent + bytes }
  let w := w.updateAction fun action => { action with sent := action.sent + 1 }
  (w, heap.updateLive w.shard fun live =>
    { live with messagesSent := live.messagesSent + 1, bytesSent := live.bytesSent + bytes })

/-- Records a received data frame and, in echo mode, its round-trip
time. -/
def recordMessageRecv (w : WorkerMetrics) (heap : Heap) (now : Instant) (bytes : ℕ)
    (rtt : Option Duration) : WorkerMetrics × Heap :=
  let w := { w with messagesRecv := w.messagesRecv + 1, bytesRecv := w.bytesRecv + bytes }
  let (w, heap) :=
    match rtt with
    | none => (w, heap)
    | some rtt =>
      let micros := clampUs rtt.asMicros
      let heap := heap.updateRecorder w.latency (·.recordRtt w.shard micros)
      let heap :=
        match w.currentAction with
        | none => heap
        | some action =>
          heap.updateRecorder w.latency (·.recordActionRtt action w.shard micros)
      if w.intervalUsesResponse then (w, heap) else w.recordInterval heap now micros
  (w, heap.updateLive w.shard fun live =>
    { live with
      messagesReceived := live.messagesReceived + 1
      bytesReceived := live.bytesReceived + bytes })

/-- Records the time from a paced request's scheduled send time to its
reply. -/
def recordResponseTime (w : WorkerMetrics) (heap : Heap) (now : Instant)
    (duration : Duration) : WorkerMetrics × Heap :=
  let micros := clampUs duration.asMicros
  let heap := heap.updateRecorder w.latency (·.recordResponse w.shard micros)
  let heap :=
    match w.currentAction with
    | none => heap
    | some action =>
      heap.updateRecorder w.latency (·.recordActionResponse action w.shard micros)
  w.recordInterval heap now micros

/-- Records data frames that answered no request. -/
def recordUnsolicitedFrames (w : WorkerMetrics) (heap : Heap) (count : ℕ) :
    WorkerMetrics × Heap :=
  if count = 0 then (w, heap)
  else
    ({ w with unsolicitedFrames := w.unsolicitedFrames + count },
      heap.updateLive w.shard
        fun live => { live with unsolicitedFrames := live.unsolicitedFrames + count })

/-- Updates the chaos counts, when the run injects faults. -/
def updateChaos (w : WorkerMetrics) (f : ChaosSummary → ChaosSummary) : WorkerMetrics :=
  { w with chaos := w.chaos.map f }

/-- Counts a data send that a chaos delay held back. -/
def recordChaosDelayed (w : WorkerMetrics) : WorkerMetrics :=
  w.updateChaos fun chaos => { chaos with delayed := chaos.delayed + 1 }

/-- Counts a data send that chaos skipped. -/
def recordChaosDropped (w : WorkerMetrics) : WorkerMetrics :=
  w.updateChaos fun chaos => { chaos with dropped := chaos.dropped + 1 }

/-- Counts a data send whose payload chaos corrupted. -/
def recordChaosCorrupted (w : WorkerMetrics) : WorkerMetrics :=
  w.updateChaos fun chaos => { chaos with corrupted := chaos.corrupted + 1 }

/-- Counts a pause chaos took after reading a data frame. -/
def recordChaosReadPause (w : WorkerMetrics) : WorkerMetrics :=
  w.updateChaos fun chaos => { chaos with readPauses := chaos.readPauses + 1 }

/-- Counts a connection that chaos closed. -/
def recordChaosClose (w : WorkerMetrics) : WorkerMetrics :=
  w.updateChaos fun chaos => { chaos with closes := chaos.closes + 1 }

end WorkerMetrics

end WsBlast
