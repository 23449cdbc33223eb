import WsBlast.FleetRuns

/-!
# The live counters agree with the report

Every record of a worker is written twice: to the worker's own metrics, which
the report adds up at the end, and to one shard of the live counters, which
the dashboard adds up at any time. What a worker has put into its shard by
some moment is `Ledger.share`: its counters, and one active connection while a
session of it is open.

`Shared` says that a shard is the sum of the shares of its workers. Every
event keeps it, because a session is closed only where one was opened, so that
the count of active connections never goes below the sessions that are left.

The report and the dashboard never read the same memory. That they agree is a
property of every record function: each writes the same amount to both sides,
with one exception. Active connections exist only in the live counters, go up
with a handshake or a reconnect and down with a close, and the decrement is a
wrapping one.
-/

namespace WsBlast

/-! ## Live counters as a commutative monoid

Snapshots are added field by field, which makes the sum over shards a sum in a
monoid and lets shards be counted in any order. -/

namespace LiveSnapshot

instance : Zero LiveSnapshot := ⟨{}⟩

instance : Add LiveSnapshot := ⟨add⟩

@[simp]
theorem activeConnections_add (a b : LiveSnapshot) :
    (a + b).activeConnections = a.activeConnections + b.activeConnections := rfl

instance : AddCommMonoid LiveSnapshot where
  add_assoc a b c := by
    ext <;> exact Nat.add_assoc _ _ _
  zero_add a := by
    ext <;> exact Nat.zero_add _
  add_zero a := by
    ext <;> exact Nat.add_zero _
  add_comm a b := by
    ext <;> exact Nat.add_comm _ _
  nsmul := nsmulRec

/-- A counter of a sum of shards, for a counter that adds up. -/
theorem counter_sum {ι : Type} (counter : LiveSnapshot → ℕ) (hzero : counter 0 = 0)
    (hadd : ∀ a b, counter (a + b) = counter a + counter b) (s : Finset ι)
    (f : ι → LiveSnapshot) : counter (∑ i ∈ s, f i) = ∑ i ∈ s, counter (f i) :=
  map_sum (⟨⟨counter, hzero⟩, hadd⟩ : LiveSnapshot →+ ℕ) f s

end LiveSnapshot

/-- The snapshot is the sum of the shards. -/
theorem LiveMetrics.snapshot_eq_sum (live : LiveMetrics) :
    live.snapshot = ∑ k : Fin live.shards.length, live.shards.get k := by
  rw [← List.sum_ofFn, List.ofFn_get]
  exact List.sum_eq_foldl.symm

/-- Two updates of one shard are one. -/
theorem LiveMetrics.shards_update_update (live : LiveMetrics) (index : ℕ)
    (f g : LiveSnapshot → LiveSnapshot) :
    ((live.update index f).update index g).shards = (live.update index (g ∘ f)).shards := by
  show (List.modify _ (index % (live.update index f).shards.length) g) = _
  have hlength : (live.update index f).shards.length = live.shards.length :=
    List.length_modify _ _ _
  rw [hlength]
  exact List.modify_modify_eq _ _ _ _

/-! ## What a record does to a shard

Three descriptions of a record: the update of the shard, what it adds to the
worker's counters, and what it adds to the slot. -/

namespace Record

/-- What a record does to the shard of its worker. -/
def onShard : Record → LiveSnapshot → LiveSnapshot
  | .handshake _ => fun live =>
    { live with
      activeConnections := live.activeConnections + 1
      connectionsEstablished := live.connectionsEstablished + 1 }
  | .reconnect _ => fun live =>
    { live with
      activeConnections := live.activeConnections + 1
      reconnects := live.reconnects + 1 }
  | .connectionFailed _ => fun live =>
    { live with
      totalErrors := live.totalErrors + 1
      connectionsFailed := live.connectionsFailed + 1 }
  | .connectionClosed => fun live =>
    { live with activeConnections := wrappingPred live.activeConnections }
  | .messageSent bytes => fun live =>
    { live with messagesSent := live.messagesSent + 1, bytesSent := live.bytesSent + bytes }
  | .messageRecv _ bytes _ => fun live =>
    { live with
      messagesReceived := live.messagesReceived + 1
      bytesReceived := live.bytesReceived + bytes }
  | .unsolicitedFrames count => fun live =>
    { live with unsolicitedFrames := live.unsolicitedFrames + count }
  | .error _ _ => fun live => { live with totalErrors := live.totalErrors + 1 }
  | _ => id

/-- What a record adds to the counters of its worker. -/
def counted : Record → LiveSnapshot
  | .reconnect _ => { reconnects := 1 }
  | .connectionFailed _ => { totalErrors := 1 }
  | .messageSent bytes => { messagesSent := 1, bytesSent := bytes }
  | .messageRecv _ bytes _ => { messagesReceived := 1, bytesReceived := bytes }
  | .unsolicitedFrames count => { unsolicitedFrames := count }
  | .error _ _ => { totalErrors := 1 }
  | _ => 0

/-- What a record adds to the share of its worker's slot, a close apart. -/
def opened : Record → LiveSnapshot
  | .handshake _ => { activeConnections := 1, connectionsEstablished := 1 }
  | .reconnect _ => { activeConnections := 1 }
  | .connectionFailed _ => { connectionsFailed := 1 }
  | _ => 0

/-- Every record but a close adds to its shard. -/
theorem onShard_eq_add {r : Record} (h : r ≠ .connectionClosed) (live : LiveSnapshot) :
    r.onShard live = live + (r.counted + r.opened) := by
  cases r with
  | connectionClosed => exact absurd rfl h
  | _ => rfl

end Record

namespace WorkerMetrics

/-- The counters of a worker that the live counters have too. -/
def counters (w : WorkerMetrics) : LiveSnapshot where
  reconnects := w.reconnects
  messagesSent := w.messagesSent
  messagesReceived := w.messagesRecv
  bytesSent := w.bytesSent
  bytesReceived := w.bytesRecv
  totalErrors := w.errors.total
  unsolicitedFrames := w.unsolicitedFrames

variable (w : WorkerMetrics) (heap : Heap)

/-- A sample of the time series is in neither. -/
theorem live_recordInterval (now : Instant) (micros : ℕ) :
    (w.recordInterval heap now micros).2.live = heap.live := by
  unfold recordInterval
  cases w.interval with
  | none => rfl
  | some interval => rfl

theorem counters_recordInterval (now : Instant) (micros : ℕ) :
    (w.recordInterval heap now micros).1.counters = w.counters
      ∧ (w.recordInterval heap now micros).1.shard = w.shard := by
  unfold recordInterval
  cases w.interval with
  | none => exact ⟨rfl, rfl⟩
  | some interval => exact ⟨rfl, rfl⟩

/-- Nor are the counts of an action. -/
theorem counters_updateAction (f : ActionCounts → ActionCounts) :
    (w.updateAction f).counters = w.counters ∧ (w.updateAction f).shard = w.shard := by
  unfold updateAction
  cases w.currentAction with
  | none => exact ⟨rfl, rfl⟩
  | some action => exact ⟨rfl, rfl⟩

/-- A record is written twice: to the worker's counters and to its shard. -/
structure Writes (r : Record) : Prop where
  counters : (w.apply heap r).1.counters = w.counters + r.counted
  shard : (w.apply heap r).1.shard = w.shard
  shards : (w.apply heap r).2.live.shards = (heap.live.update w.shard r.onShard).shards

theorem writes_messageSent (bytes : ℕ) : w.Writes heap (.messageSent bytes) := by
  obtain ⟨hcounters, hshard⟩ := counters_updateAction
    { w with messagesSent := w.messagesSent + 1, bytesSent := w.bytesSent + bytes }
    fun action => { action with sent := action.sent + 1 }
  refine ⟨hcounters, hshard, ?_⟩
  show (heap.live.update (updateAction _ _).shard _).shards = _
  rw [hshard]
  rfl

theorem writes_messageRecv (now : Instant) (bytes : ℕ) (rtt : Option Duration) :
    w.Writes heap (.messageRecv now bytes rtt) := by
  suffices h : (w.recordMessageRecv heap now bytes rtt).1.counters
        = w.counters + (Record.messageRecv now bytes rtt).counted
      ∧ (w.recordMessageRecv heap now bytes rtt).1.shard = w.shard
      ∧ (w.recordMessageRecv heap now bytes rtt).2.live
        = heap.live.update w.shard (Record.messageRecv now bytes rtt).onShard from
    ⟨h.1, h.2.1, congrArg LiveMetrics.shards h.2.2⟩
  unfold recordMessageRecv
  cases rtt with
  | none => exact ⟨rfl, rfl, rfl⟩
  | some rtt =>
    cases w.currentAction with
    | none =>
      dsimp only
      split_ifs
      · exact ⟨rfl, rfl, rfl⟩
      · refine ⟨(counters_recordInterval _ _ _ _).1, (counters_recordInterval _ _ _ _).2, ?_⟩
        show LiveMetrics.update _ _ _ = _
        rw [live_recordInterval, (counters_recordInterval _ _ _ _).2]
        rfl
    | some action =>
      dsimp only
      split_ifs
      · exact ⟨rfl, rfl, rfl⟩
      · refine ⟨(counters_recordInterval _ _ _ _).1, (counters_recordInterval _ _ _ _).2, ?_⟩
        show LiveMetrics.update _ _ _ = _
        rw [live_recordInterval, (counters_recordInterval _ _ _ _).2]
        rfl

theorem writes_responseTime (now : Instant) (duration : Duration) :
    w.Writes heap (.responseTime now duration) := by
  obtain ⟨hcounters, hshard⟩ := w.counters_recordInterval _ now (clampUs duration.asMicros)
  refine ⟨hcounters, hshard, ?_⟩
  show (recordInterval _ _ _ _).2.live.shards = (List.modify _ _ id)
  rw [live_recordInterval, List.modify_id]
  cases w.currentAction with
  | none => rfl
  | some action => rfl

/-- An error goes to the error map and to the live count of errors. -/
theorem writes_error (err : ErrorCategory) (scope : ErrorScope) :
    w.Writes heap (.error err scope) := by
  obtain ⟨hcounters, hshard⟩ := counters_updateAction
    { w with
      errors := w.errors.bump err 1
      sentMessageErrors := w.sentMessageErrors + if scope = .sentMessage then 1 else 0 }
    fun action =>
      { action with
        errors := action.errors + 1
        sentMessageErrors := action.sentMessageErrors + if scope = .sentMessage then 1 else 0 }
  refine ⟨hcounters.trans ?_, hshard, ?_⟩
  · ext
    case totalErrors => exact TallyMap.total_bump _ _ _
    all_goals rfl
  · show (heap.live.update (updateAction _ _).shard _).shards = _
    rw [hshard]
    rfl

theorem writes_connectionFailed (err : ErrorCategory) :
    w.Writes heap (.connectionFailed err) := by
  obtain ⟨hcounters, hshard, hshards⟩ := w.writes_error heap err .attempt
  refine ⟨hcounters, hshard, ?_⟩
  show ((LiveMetrics.update _ (w.apply heap (.error err .attempt)).1.shard _).update
    (w.apply heap (.error err .attempt)).1.shard _).shards = _
  rw [hshard]
  exact heap.live.shards_update_update _ _ _

theorem writes_unsolicitedFrames (count : ℕ) : w.Writes heap (.unsolicitedFrames count) := by
  by_cases hzero : count = 0
  · subst hzero
    exact ⟨rfl, rfl, (List.modify_id _ _).symm⟩
  · have happly : w.apply heap (.unsolicitedFrames count)
        = ({ w with unsolicitedFrames := w.unsolicitedFrames + count },
          heap.updateLive w.shard
            fun live => { live with unsolicitedFrames := live.unsolicitedFrames + count }) :=
      if_neg hzero
    refine ⟨?_, ?_, ?_⟩
    · rw [happly]
      rfl
    · rw [happly]
    · rw [happly]
      rfl

/-- **Every record is written twice.** -/
theorem writes (r : Record) : w.Writes heap r := by
  have hsame : heap.live.shards = (heap.live.update w.shard id).shards := (List.modify_id _ _).symm
  cases r with
  | handshake duration => exact ⟨rfl, rfl, heap.live.shards_update_update _ _ _⟩
  | reconnect duration => exact ⟨rfl, rfl, heap.live.shards_update_update _ _ _⟩
  | connectionFailed err => exact w.writes_connectionFailed heap err
  | connectionClosed => exact ⟨rfl, rfl, rfl⟩
  | messageSent bytes => exact w.writes_messageSent heap bytes
  | messageRecv now bytes rtt => exact w.writes_messageRecv heap now bytes rtt
  | responseTime now duration => exact w.writes_responseTime heap now duration
  | unsolicitedFrames count => exact w.writes_unsolicitedFrames heap count
  | error err scope => exact w.writes_error heap err scope
  | _ => exact ⟨rfl, rfl, hsame⟩

end WorkerMetrics

/-! ## What a worker has put into its shard

The share of a worker is a function of its ledger and its metrics, and every
record does to the shard what it does to the share. -/

/-- What the slot of a worker is in the live counters. -/
def Slot.share (slot : Slot) : LiveSnapshot where
  activeConnections := slot.isOpen.toNat
  connectionsEstablished := slot.handshakes
  connectionsFailed := slot.failures

/-- What a worker has put into its shard. -/
def Ledger.share (s : Ledger) (w : WorkerMetrics) : LiveSnapshot := s.slot.share + w.counters

/-- A count that is not zero is taken down by one. -/
theorem wrappingPred_one_add (n : ℕ) : wrappingPred (1 + n) = n := by
  unfold wrappingPred
  rw [if_neg (Nat.add_pos_left Nat.one_pos n).ne', Nat.add_sub_cancel_left]

namespace Ledger

variable {cap : Option ℕ} {s : Ledger}

/-- A session that is opened in its turn finds none open. -/
theorem Sound.closed_of_open {s' : Ledger} (h : Sound cap s')
    (hturn : s'.outOfTurn = (s.outOfTurn || s.slot.isOpen)) : s.slot.isOpen = false :=
  (Bool.or_eq_false_iff.mp (hturn.symm.trans h.turns)).2

/-- A session that is closed in its turn was open. -/
theorem Sound.open_of_closed (h : Sound cap (s.record .connectionClosed)) :
    s.slot.isOpen = true := by
  have hturn : (s.outOfTurn || !s.slot.isOpen) = false := h.turns
  simpa using (Bool.or_eq_false_iff.mp hturn).2

/-- What a record does to the slot's share, a close apart. -/
theorem share_record {r : Record} (h : r ≠ .connectionClosed) (hsound : Sound cap (s.record r)) :
    (s.record r).slot.share = s.slot.share + r.opened := by
  cases r with
  | handshake duration =>
    ext
    case activeConnections =>
      rw [LiveSnapshot.activeConnections_add, Slot.share, Slot.share,
        hsound.closed_of_open rfl]
      rfl
    all_goals rfl
  | reconnect duration =>
    ext
    case activeConnections =>
      rw [LiveSnapshot.activeConnections_add, Slot.share, Slot.share,
        hsound.closed_of_open rfl]
      rfl
    all_goals rfl
  | connectionClosed => exact absurd rfl h
  | error err scope =>
    cases scope with
    | attempt => rfl
    | sentMessage => rfl
  | _ => rfl

/-- **A record does to a shard what it does to the share of its worker**,
whatever the shares of the other workers are. -/
theorem onShard_share (w : WorkerMetrics) (heap : Heap) (r : Record)
    (hsound : Sound cap (s.record r)) (rest : LiveSnapshot) :
    r.onShard (s.share w + rest) = (s.record r).share (w.apply heap r).1 + rest := by
  unfold share
  rw [(w.writes heap r).counters]
  by_cases hclose : r = .connectionClosed
  · subst hclose
    ext
    case activeConnections =>
      -- the count is at least the session that is closed now
      show wrappingPred (s.slot.isOpen.toNat + 0 + rest.activeConnections)
        = 0 + (0 + 0) + rest.activeConnections
      rw [hsound.open_of_closed]
      exact (wrappingPred_one_add _).trans (Nat.zero_add _).symm
    all_goals rfl
  · rw [Record.onShard_eq_add hclose, share_record hclose hsound]
    abel

/-- An event that records nothing leaves the slot alone. -/
theorem slot_step_of_quiet (cap : Option ℕ) (s : Ledger) (event : Event)
    (hrecord : ∀ r, event.1 ≠ .record r) : (s.step cap event).slot = s.slot := by
  by_cases hclaim : ∃ max, event.1 = .claimRequest max
  · obtain ⟨e, answer⟩ := event
    obtain ⟨max, rfl⟩ := hclaim
    cases answer with
    | false => rfl
    | true =>
      show (if cap = some max then _ else s).slot = _
      split_ifs
      · rfl
      · rfl
  · obtain hsame | ⟨place, ending, hobserve⟩ :=
      s.step_of_quiet cap event hrecord fun max hmax => hclaim ⟨max, hmax⟩
    · rw [hsame]
    · rw [hobserve]
      rfl

end Ledger

/-! ## Open sessions

What the count of active connections should be, read off the trace: a session is
open from its handshake, or a reconnect, to its close. -/

/-- Whether a session is open after an event, when `opened` says whether one
was before: a session is open from its handshake to its close. -/
def sessionOpenAfter (opened : Bool) : Event → Bool
  | ⟨.record (.handshake _), _⟩ => true
  | ⟨.record (.reconnect _), _⟩ => true
  | ⟨.record .connectionClosed, _⟩ => false
  | _ => opened

/-- Whether a worker with these events has a session open. -/
def sessionOpen (events : List Event) : Bool := events.foldl sessionOpenAfter false

namespace Ledger

theorem isOpen_step (cap : Option ℕ) (s : Ledger) (event : Event) :
    (s.step cap event).slot.isOpen = sessionOpenAfter s.slot.isOpen event := by
  obtain ⟨e, answer⟩ := event
  cases e with
  | record r =>
    cases r with
    | error err scope =>
      cases scope with
      | attempt => rfl
      | sentMessage => rfl
    | _ => rfl
  | _ => exact congrArg Slot.isOpen (slot_step_of_quiet cap s _ fun _ => nofun)

/-- The ledger knows whether a session is open. -/
theorem isOpen_after (cap : Option ℕ) (s : Ledger) (events : List Event) :
    ((monitor cap).after s events).slot.isOpen = events.foldl sessionOpenAfter s.slot.isOpen := by
  induction events generalizing s with
  | nil => rfl
  | cons event rest ih =>
    rw [List.foldl_cons, ← isOpen_step cap]
    exact ih (s.step cap event)

end Ledger

/-! ## The shards of a fleet

Each shard is the sum of the shares of its workers, after every event of every
interleaving. -/

section Shared

variable {ι : Type} [DecidableEq ι] [Fintype ι]

/-- The shard a worker writes to. -/
def Fleet.shardOf (fleet : Fleet ι) (i : ι) : ℕ :=
  (fleet.workers i).shard % fleet.heap.live.shards.length

/-- What a worker has put into shard `k`. -/
def Fleet.shareIn (fleet : Fleet ι) (ledgers : ι → Ledger) (k : ℕ) (i : ι) : LiveSnapshot :=
  if fleet.shardOf i = k then (ledgers i).share (fleet.workers i) else 0

/-- Every shard is the sum of what its workers have put into it. -/
def Shared (fleet : Fleet ι) (ledgers : ι → Ledger) : Prop :=
  ∀ k < fleet.heap.live.shards.length,
    fleet.heap.live.shards[k]? = some (∑ i, fleet.shareIn ledgers k i)

namespace Shared

variable {fleet : Fleet ι} {ledgers : ι → Ledger}

/-- A ledger that is updated without its slot. -/
theorem ledger (h : Shared fleet ledgers) {i : ι} {s : Ledger} (hslot : s.slot = (ledgers i).slot) :
    Shared fleet (Function.update ledgers i s) := by
  intro k hk
  rw [h k hk]
  refine congrArg some (Finset.sum_congr rfl fun j _ => ?_)
  unfold Fleet.shareIn Ledger.share
  by_cases hj : j = i
  · subst hj
    rw [Function.update_self, hslot]
  · rw [Function.update_of_ne hj]

/-- A record, carried out. -/
theorem record {cap : Option ℕ} (h : Shared fleet ledgers) (i : ι) (r : Record)
    (hsound : ((ledgers i).record r).Sound cap) :
    Shared
      ⟨((fleet.workers i).apply fleet.heap r).2,
        Function.update fleet.workers i ((fleet.workers i).apply fleet.heap r).1⟩
      (Function.update ledgers i ((ledgers i).record r)) := by
  obtain ⟨-, hshard, hshards⟩ := (fleet.workers i).writes fleet.heap r
  set w' := ((fleet.workers i).apply fleet.heap r).1
  set fleet' : Fleet ι := ⟨((fleet.workers i).apply fleet.heap r).2,
    Function.update fleet.workers i w'⟩
  have hself : fleet'.workers i = w' := Function.update_self _ _ _
  have hrest : ∀ j, j ≠ i → fleet'.workers j = fleet.workers j :=
    fun j hj => Function.update_of_ne hj _ _
  have hlength : fleet'.heap.live.shards.length = fleet.heap.live.shards.length :=
    (congrArg List.length hshards).trans (List.length_modify _ _ _)
  -- the other workers' shares stay as they are
  have hother : ∀ k j, j ≠ i → fleet'.shareIn (Function.update ledgers i ((ledgers i).record r)) k j
      = fleet.shareIn ledgers k j := by
    intro k j hj
    unfold Fleet.shareIn Fleet.shardOf
    rw [hlength, hrest j hj, Function.update_of_ne hj]
  have hown : ∀ k, fleet'.shareIn (Function.update ledgers i ((ledgers i).record r)) k i
      = if fleet.shardOf i = k then ((ledgers i).record r).share w' else 0 := by
    intro k
    unfold Fleet.shareIn Fleet.shardOf
    rw [hlength, hself, hshard, Function.update_self]
  -- the worker's own share is taken out of the sum, on both sides
  intro k hk
  have hget : fleet'.heap.live.shards[k]?
      = (fun live => if fleet.shardOf i = k then r.onShard live else live)
        <$> fleet.heap.live.shards[k]? :=
    (congrArg (·[k]?) hshards).trans (List.getElem?_modify _ _ _ _)
  rw [hget, h k (hlength ▸ hk), ← Finset.add_sum_erase _ _ (Finset.mem_univ i),
    ← Finset.add_sum_erase Finset.univ (fleet'.shareIn _ k) (Finset.mem_univ i), hown,
    Finset.sum_congr rfl fun j hj => hother k j (Finset.ne_of_mem_erase hj)]
  unfold Fleet.shareIn
  by_cases hk : fleet.shardOf i = k
  · rw [if_pos hk, if_pos hk]
    show some (if _ then _ else _) = _
    rw [if_pos hk]
    exact congrArg some (Ledger.onShard_share _ _ _ hsound _)
  · rw [if_neg hk, if_neg hk]
    show some (if _ then _ else _) = _
    rw [if_neg hk]

omit [DecidableEq ι] in
/-- A claim is not in the shards. -/
theorem claimRequest (h : Shared fleet ledgers) (max : ℕ) :
    Shared { fleet with heap.live := (fleet.heap.live.claimRequest max).2 } ledgers := h

/-- **Every event keeps the shards.** -/
theorem step {cap : Option ℕ} (h : Shared fleet ledgers) (i : ι) (event : Event)
    (hsound : ((ledgers i).step cap event).Sound cap) :
    Shared (fleet.step (i, event)) (Function.update ledgers i ((ledgers i).step cap event)) := by
  obtain ⟨e, answer⟩ := event
  cases e with
  | record r => exact h.record i r hsound
  | claimRequest max =>
    exact (h.claimRequest max).ledger (Ledger.slot_step_of_quiet cap _ _ fun _ => nofun)
  | _ => exact h.ledger (Ledger.slot_step_of_quiet cap _ _ fun _ => nofun)

omit [DecidableEq ι] [Fintype ι] in
/-- Every worker has a shard. -/
theorem shardOf_lt (fleet : Fleet ι) (i : ι) :
    fleet.shardOf i < fleet.heap.live.shards.length :=
  Nat.mod_lt _ (List.length_pos_of_ne_nil fleet.heap.live.nonempty)

omit [DecidableEq ι] in
/-- **The snapshot is the sum of the shares of all workers.** -/
theorem snapshot_eq (h : Shared fleet ledgers) :
    fleet.heap.live.snapshot = ∑ i, (ledgers i).share (fleet.workers i) := by
  have hshard : ∀ k : Fin fleet.heap.live.shards.length,
      fleet.heap.live.shards.get k = ∑ i, fleet.shareIn ledgers k i := by
    intro k
    have hget := h k k.isLt
    rw [List.getElem?_eq_getElem k.isLt] at hget
    exact Option.some.inj hget
  rw [LiveMetrics.snapshot_eq_sum, Finset.sum_congr rfl fun k _ => hshard k, Finset.sum_comm]
  refine Finset.sum_congr rfl fun i _ => ?_
  -- a worker has put something into its own shard only
  rw [Finset.sum_eq_single ⟨fleet.shardOf i, shardOf_lt fleet i⟩]
  · exact if_pos rfl
  · intro k _ hk
    exact if_neg fun heq => hk (Fin.ext heq.symm)
  · exact fun hk => absurd (Finset.mem_univ _) hk

omit [DecidableEq ι] in
/-- A shard has at least the sessions that a worker of it has open. -/
theorem active_pos (h : Shared fleet ledgers) {i : ι} (hopen : (ledgers i).slot.isOpen = true) :
    ∃ live, fleet.heap.live.shards[fleet.shardOf i]? = some live ∧ 0 < live.activeConnections := by
  refine ⟨_, h _ (shardOf_lt fleet i), ?_⟩
  rw [LiveSnapshot.counter_sum LiveSnapshot.activeConnections rfl fun _ _ => rfl]
  have hone : 0 < (fleet.shareIn ledgers (fleet.shardOf i) i).activeConnections := by
    unfold Fleet.shareIn Ledger.share Slot.share
    rw [if_pos rfl, hopen]
    exact Nat.one_pos
  exact hone.trans_le (Finset.single_le_sum
    (f := fun j => (fleet.shareIn ledgers (fleet.shardOf i) j).activeConnections)
    (fun _ _ => Nat.zero_le _) (Finset.mem_univ i))

end Shared

/-- The books and the shards of a fleet, together. -/
theorem Shared.fits (cap : Option ℕ) (first : RecorderId → ℕ) :
    (Fleet.system : Proc.System ι Eff Eff.Answer (Fleet ι)).Fits (Ledger.monitor cap)
      fun fleet ledgers => Books cap first fleet ledgers ∧ Shared fleet ledgers where
  admits := fun h hadmits => (Books.fits cap first).admits h.1 hadmits
  step := fun h hadmits hsound =>
    ⟨(Books.fits cap first).step h.1 hadmits hsound, h.2.step _ _ hsound⟩

/-- A run that starts with the live counters, the recorders and the workers'
metrics at zero. Workers of several phases may share it. -/
structure LiveRun (ι : Type) [DecidableEq ι] extends FleetRun ι where
  zeroed : ∀ live ∈ start.heap.live.shards, live = {}
  empty : ∀ id, start.heap.handshakesIn id = 0
  blank : ∀ i, (start.workers i).counters = 0

namespace LiveRun

/-- The shards are zero, and so are the shares. -/
theorem shared_start (run : LiveRun ι) : Shared run.start fun _ => {} := by
  intro k hk
  rw [List.getElem?_eq_getElem hk, run.zeroed _ (List.getElem_mem hk)]
  refine congrArg some (Finset.sum_eq_zero fun i _ => ?_).symm
  unfold Fleet.shareIn Ledger.share
  rw [run.blank i]
  split_ifs
  · rfl
  · rfl

/-- **The books and the shards of every run are in order.** -/
theorem shared (run : LiveRun ι) :
    (Books none run.start.heap.handshakesIn run.now (run.ledger none)
      ∧ Shared run.now (run.ledger none))
      ∧ ∀ i, (run.ledger none i).Sound none
        ∧ ∀ r ∈ run.result i, (run.ledger none i).Settled none :=
  Fleet.system.sound (Shared.fits none _) ⟨Books.init none run.fresh, run.shared_start⟩
    (fun _ => Ledger.trying_init.toSound)
    (fun _ => Ledger.holds_run (by exact nofun) {} Ledger.trying_init) run.accepted run.runs

/-- A run up to an earlier moment. -/
def upTo (run : LiveRun ι) {trace rest : List (ι × Event)} (h : run.trace = trace ++ rest) :
    LiveRun ι where
  workers := run.workers
  start := run.start
  trace := trace
  result := fun _ => none
  fresh := run.fresh
  accepted := ((Fleet.system.accepts_append _ _ _).mp (h ▸ run.accepted)).1
  runs := by
    intro i
    have hrun := run.runs i
    rw [h, Proc.ofProcess, List.filter_append, List.map_append] at hrun
    exact hrun.of_append
  zeroed := run.zeroed
  empty := run.empty
  blank := run.blank

/-- The workers with an open session. -/
def openSessions (run : LiveRun ι) : Finset ι :=
  Finset.univ.filter fun i => sessionOpen (Proc.ofProcess i run.trace) = true

/-- The handshakes in the recorders of the workers. -/
def recordedHandshakes (run : LiveRun ι) : ℕ :=
  ∑ id ∈ Finset.univ.image fun i => (run.start.workers i).latency, run.now.heap.handshakesIn id

/-- A session that is closed was open, and so its shard counts it. -/
theorem active_pos_of_closed (run : LiveRun ι) {trace rest : List (ι × Event)} {i : ι}
    (h : run.trace = trace ++ (i, ⟨.record .connectionClosed, ()⟩) :: rest) :
    ∃ live, (Fleet.system.after run.start trace).heap.live.shards[
        (Fleet.system.after run.start trace).shardOf i]? = some live
      ∧ 0 < live.activeConnections := by
  have hwhole : run.trace = (trace ++ [(i, ⟨.record .connectionClosed, ()⟩)]) ++ rest := by
    rw [h, List.append_assoc]
    rfl
  have hclosed := ((run.upTo hwhole).shared.2 i).1
  obtain ⟨⟨-, hshared⟩, -⟩ := (run.upTo h).shared
  refine hshared.active_pos (i := i) ?_
  have hledger : (run.upTo hwhole).ledger none i
      = ((run.upTo h).ledger none i).record .connectionClosed := by
    show Proc.System.monitors _ _ (trace ++ [_]) i = _
    rw [Proc.System.monitors_append_singleton, Function.update_self]
    rfl
  rw [hledger] at hclosed
  exact hclosed.open_of_closed

/-- **The active connections are the open sessions.** -/
theorem activeConnections_eq (run : LiveRun ι) :
    run.now.heap.live.snapshot.activeConnections = run.openSessions.card := by
  obtain ⟨⟨-, hshared⟩, -⟩ := run.shared
  rw [hshared.snapshot_eq, LiveSnapshot.counter_sum LiveSnapshot.activeConnections rfl fun _ _ => rfl]
  unfold openSessions
  rw [Finset.card_filter]
  refine Finset.sum_congr rfl fun i _ => ?_
  have hopen : (run.ledger none i).slot.isOpen = sessionOpen (Proc.ofProcess i run.trace) :=
    Ledger.isOpen_after none {} _
  show (run.ledger none i).slot.isOpen.toNat + 0 = _
  rw [hopen]
  cases sessionOpen (Proc.ofProcess i run.trace) with
  | false => rfl
  | true => rfl

/-- A worker that has returned has no session open. -/
theorem openSessions_eq_empty (run : LiveRun ι) (hended : ∀ i, run.result i = some ()) :
    run.openSessions = ∅ := by
  refine Finset.filter_eq_empty_iff.mpr fun i _ hopen => ?_
  have hsettled := (run.shared.2 i).2 () (hended i)
  have hledger : (run.ledger none i).slot.isOpen = sessionOpen (Proc.ofProcess i run.trace) :=
    Ledger.isOpen_after none {} _
  exact Bool.false_ne_true (hsettled.closed.symm.trans (hledger.trans hopen))

/-- The recorders have the first handshakes and the reconnects of the
workers. -/
theorem recordedHandshakes_eq (run : LiveRun ι) :
    run.recordedHandshakes = ∑ i, (run.ledger none i).slot.completed := by
  obtain ⟨⟨hbooks, -⟩, -⟩ := run.shared
  unfold recordedHandshakes
  have hrecorder : ∀ id, run.now.heap.handshakesIn id
      = ∑ i, if (run.start.workers i).latency = id then (run.ledger none i).slot.completed
        else 0 := by
    intro id
    rw [hbooks.handshakes, run.empty, Nat.zero_add]
    refine Finset.sum_congr rfl fun i _ => ?_
    rw [run.latency_now i]
  rw [Finset.sum_congr rfl fun id _ => hrecorder id, Finset.sum_comm]
  refine Finset.sum_congr rfl fun i _ => ?_
  rw [Finset.sum_ite_eq, if_pos (Finset.mem_image_of_mem _ (Finset.mem_univ i))]

end LiveRun

/-! ## What the dashboard shows -/

/-- **The live counters agree with the report**: in every interleaving of the
workers of one or several phases, on any number of shards, no count of active
connections is taken below zero, the active connections are the open sessions,
and the snapshot has the workers' counters summed, with no active connection
left once every worker has returned. -/
theorem live_counters_agree (run : LiveRun ι) :
    (∀ trace i rest, run.trace = trace ++ (i, ⟨.record .connectionClosed, ()⟩) :: rest →
      ∃ live, (Fleet.system.after run.start trace).heap.live.shards[
          (Fleet.system.after run.start trace).shardOf i]? = some live
        ∧ 0 < live.activeConnections)
    ∧ (run.now.heap.live.shards.map (·.activeConnections)).sum = run.openSessions.card
    ∧ ((∀ i, run.result i = some ()) → run.now.heap.live.snapshot.activeConnections = 0)
    ∧ run.now.heap.live.snapshot.messagesSent = ∑ i, (run.now.workers i).messagesSent
    ∧ run.now.heap.live.snapshot.messagesReceived = ∑ i, (run.now.workers i).messagesRecv
    ∧ run.now.heap.live.snapshot.bytesSent = ∑ i, (run.now.workers i).bytesSent
    ∧ run.now.heap.live.snapshot.bytesReceived = ∑ i, (run.now.workers i).bytesRecv
    ∧ run.now.heap.live.snapshot.totalErrors = ∑ i, (run.now.workers i).errors.total
    ∧ run.now.heap.live.snapshot.reconnects = ∑ i, (run.now.workers i).reconnects
    ∧ run.now.heap.live.snapshot.unsolicitedFrames = ∑ i, (run.now.workers i).unsolicitedFrames
    ∧ run.now.heap.live.snapshot.connectionsEstablished + ∑ i, (run.now.workers i).reconnects
      = run.recordedHandshakes := by
  obtain ⟨⟨hbooks, hshared⟩, -⟩ := run.shared
  -- a counter of the snapshot that the slots have no part in
  have hcounter : ∀ counter : LiveSnapshot → ℕ, counter 0 = 0 →
      (∀ a b, counter (a + b) = counter a + counter b) →
      counter run.now.heap.live.snapshot
        = ∑ i, (counter (run.ledger none i).slot.share + counter (run.now.workers i).counters) := by
    intro counter hzero hadd
    rw [hshared.snapshot_eq, LiveSnapshot.counter_sum counter hzero hadd]
    exact Finset.sum_congr rfl fun i _ => hadd _ _
  have hworkers : ∀ counter : LiveSnapshot → ℕ, counter 0 = 0 →
      (∀ a b, counter (a + b) = counter a + counter b) →
      (∀ slot : Slot, counter slot.share = 0) →
      counter run.now.heap.live.snapshot = ∑ i, counter (run.now.workers i).counters := by
    intro counter hzero hadd hslot
    rw [hcounter counter hzero hadd]
    refine Finset.sum_congr rfl fun i _ => ?_
    rw [hslot, Nat.zero_add]
  refine ⟨fun trace i rest h => run.active_pos_of_closed h, ?_, ?_,
    hworkers LiveSnapshot.messagesSent rfl (fun _ _ => rfl) fun _ => rfl,
    hworkers LiveSnapshot.messagesReceived rfl (fun _ _ => rfl) fun _ => rfl,
    hworkers LiveSnapshot.bytesSent rfl (fun _ _ => rfl) fun _ => rfl,
    hworkers LiveSnapshot.bytesReceived rfl (fun _ _ => rfl) fun _ => rfl,
    hworkers LiveSnapshot.totalErrors rfl (fun _ _ => rfl) fun _ => rfl,
    hworkers LiveSnapshot.reconnects rfl (fun _ _ => rfl) fun _ => rfl,
    hworkers LiveSnapshot.unsolicitedFrames rfl (fun _ _ => rfl) fun _ => rfl, ?_⟩
  · rw [← run.activeConnections_eq]
    exact (run.now.heap.live.counter_snapshot rfl fun _ _ => rfl).symm
  · intro hended
    rw [run.activeConnections_eq, run.openSessions_eq_empty hended]
    rfl
  · rw [hcounter LiveSnapshot.connectionsEstablished rfl fun _ _ => rfl, run.recordedHandshakes_eq,
      ← Finset.sum_add_distrib]
    refine Finset.sum_congr rfl fun i _ => ?_
    show (run.ledger none i).slot.handshakes + 0 + (run.now.workers i).reconnects = _
    rw [(hbooks.tracks i).reconnects]
    rfl

end Shared

/-- A worker that is cancelled while it waits for its first echo. -/
def cancelledEcho : LiveRun Unit where
  toFleetRun := .execute
    (plainWorker { LoadTestConfig.defaults "ws://localhost:9000/" with noReconnect := true }) .fresh
    (calm fun _ _ => .cancelled) 60 (by decide +kernel)
  zeroed := fun live hlive => List.eq_of_mem_replicate hlive
  empty := Heap.handshakesIn_fresh
  blank := fun _ => rfl

/-- Its session is closed, and no connection is left active. -/
theorem cancelledEcho_agrees :
    cancelledEcho.result () = some ()
      ∧ cancelledEcho.now.heap.live.snapshot.connectionsEstablished = 1
      ∧ cancelledEcho.now.heap.live.snapshot.activeConnections = 0 := by
  have hended : cancelledEcho.result () = some () := by decide +kernel
  exact ⟨hended, by decide +kernel, (live_counters_agree cancelledEcho).2.2.1 fun _ => hended⟩

end WsBlast
