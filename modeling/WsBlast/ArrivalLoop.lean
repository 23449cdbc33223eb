import WsBlast.ArrivalPeaks
import WsBlast.FleetRuns

/-!
# Sessions that arrive at a rate

An arrival-rate run starts sessions at their arrival times, skips an arrival
while the most sessions allowed are open, and collects sessions as they finish
(`runArrivals`). The loop is a program over the questions of `ArrivalEff`: when
it wakes up, which sessions have finished, and the shared heap they record in.

`ArrivalLedger` reads the trace: which sessions are open, how many arrivals
were started and skipped, and which sessions were collected. The loop keeps
`Arrives`, and at its end every arrival that was due was started or skipped,
and every session that started was collected once.

The rate is that of arrivals and not of sessions at work, so the loop must not
fall behind: when it wakes late it admits every arrival that has become due, at
once. An arrival that finds the cap reached is lost for good. How many were due
at a moment is a matter of the arrival times, which are computed from the
number of the arrival and not by adding intervals, so they do not drift.
-/

namespace WsBlast

open Proc.Monitor (Triple)

/-! ## The loop -/

/-- A session that has finished; one whose task panicked has no metrics. -/
structure Finished where
  id : ℕ
  metrics : Option WorkerMetrics

/-- What the arrival loop asks its environment. -/
inductive ArrivalEff where
  /-- Sleep until a moment; false when the run was cancelled. -/
  | sleepUntil (wake : Instant)
  | now
  /-- A finished session, if there is one. -/
  | tryJoinNext
  /-- The next session to finish; nothing when the run was cancelled. -/
  | joinOrCancelled
  /-- The next session to finish; nothing when none is open. -/
  | joinNext
  /-- Spawns a session. -/
  | spawn (id : ℕ)
  /-- Counts an arrival as skipped. -/
  | skip
  /-- The shared heap, as a finished session flushes its samples into it. -/
  | flush (metrics : WorkerMetrics)
  /-- The shared heap, once every session has stopped. -/
  | recorders

/-- What each question of the arrival loop is answered with. -/
def ArrivalEff.Answer : ArrivalEff → Type
  | .sleepUntil _ => Bool
  | .now => Instant
  | .tryJoinNext => Option Finished
  | .joinOrCancelled => Option Finished
  | .joinNext => Option Finished
  | .spawn _ => Unit
  | .skip => Unit
  | .flush _ => Heap
  | .recorders => Heap

/-- A program of the arrival loop. -/
abbrev ArrivalProc (R : Type) : Type 1 := Proc ArrivalEff ArrivalEff.Answer R

/-- One event of an arrival loop's trace. -/
abbrev ArrivalEvent : Type := Proc.Event ArrivalEff ArrivalEff.Answer

namespace AskArrival

/-- Sleeps until `wake`, or until the run is cancelled. -/
def sleepUntil (wake : Instant) : ArrivalProc Bool := Proc.ask (ArrivalEff.sleepUntil wake)
/-- The clock is read. -/
def now : ArrivalProc Instant := Proc.ask ArrivalEff.now
/-- A session that has finished, if there is one. -/
def tryJoinNext : ArrivalProc (Option Finished) := Proc.ask ArrivalEff.tryJoinNext
/-- Waits for one, or for the cancellation. -/
def joinOrCancelled : ArrivalProc (Option Finished) := Proc.ask ArrivalEff.joinOrCancelled
/-- Waits for one; nothing when none is left. -/
def joinNext : ArrivalProc (Option Finished) := Proc.ask ArrivalEff.joinNext
/-- Starts a session. -/
def spawn (id : ℕ) : ArrivalProc Unit := Proc.ask (ArrivalEff.spawn id)
/-- Counts an arrival that was not started. -/
def skip : ArrivalProc Unit := Proc.ask ArrivalEff.skip
/-- Hands over the samples that a session still holds. -/
def flush (metrics : WorkerMetrics) : ArrivalProc Heap := Proc.ask (ArrivalEff.flush metrics)
/-- The shared recorders. -/
def recorders : ArrivalProc Heap := Proc.ask ArrivalEff.recorders

end AskArrival

/-- A number of seconds to the nearest nanosecond. -/
def Duration.ofSecsNearest (secs : ℚ) : Duration := (round (secs * 1000000000)).toNat

/-- What an arrival-rate run is given. -/
structure ArrivalRun where
  arrivals : Arrivals
  start : Instant
  duration : Duration
  /-- The length of a time-series interval. -/
  interval : Duration
  /-- The recorder that the sessions share. -/
  latency : RecorderId

namespace ArrivalRun

variable (run : ArrivalRun)

/-- The end of the run. -/
def finish : Instant := run.start + run.duration

/-- The most sessions open at once. -/
def maxOpen : ℕ := run.arrivals.maxConnections.getD usizeMax

/-- When an arrival is due, counted from 0. -/
def arrivalTime (arrived : ℕ) : Instant :=
  run.start + Duration.ofSecsNearest (arrived / run.arrivals.rate)

/-- The time-series interval of a moment; one shorter than a millisecond is
taken as one. -/
def intervalOf (moment : Instant) : ℕ :=
  (moment - run.start) / max run.interval (Duration.ofMillis 1)

end ArrivalRun

/-- What the arrival loop keeps. -/
structure ArrivalState where
  /-- The sessions that were spawned and not collected. -/
  opened : List ℕ := []
  counts : ArrivalCounts := {}
  arrived : ℕ := 0
  /-- When the next arrival is due. -/
  next : Instant
  totals : MetricsTotals

namespace ArrivalRun

variable (run : ArrivalRun)

/-- Adds a finished session's counters to the totals; one that panicked has
none. -/
def addSession (totals : MetricsTotals) : Option WorkerMetrics → ArrivalProc MetricsTotals
  | none => pure totals
  | some metrics => do
    let heap ← AskArrival.flush metrics
    pure (totals.addWorkerCounts heap.recorders (metrics.flushInterval heap).1)

/-- Collects a finished session. -/
def collect (state : ArrivalState) (done : Finished) : ArrivalProc ArrivalState := do
  let totals ← addSession state.totals done.metrics
  pure { state with opened := state.opened.erase done.id, totals }

/-- Collects the sessions that have finished. -/
def reapFinished (state : ArrivalState) : ArrivalProc ArrivalState :=
  Proc.loop (fun state => do
    match ← AskArrival.tryJoinNext with
    | none => pure (.inr state)
    | some done => do
      let state ← collect state done
      pure (.inl state)) state

/-- Records how many sessions are open. -/
def observe (state : ArrivalState) (moment : Instant) : ArrivalState :=
  { state with counts := state.counts.observe (run.intervalOf moment) state.opened.length }

/-- Starts the session of one arrival, or skips it. -/
def admitOne (now : Instant) (state : ArrivalState) : ArrivalProc ArrivalState :=
  if run.maxOpen ≤ state.opened.length then do
    AskArrival.skip
    pure { state with counts.skipped := state.counts.skipped + 1 }
  else do
    AskArrival.spawn state.counts.started
    let state :=
      { state with
        opened := state.opened ++ [state.counts.started]
        counts.started := state.counts.started + 1 }
    pure (run.observe state now)

/-- Every arrival that is due, so a late wake-up catches up instead of lowering
the rate. -/
def admitDue (now : Instant) (state : ArrivalState) : ArrivalProc ArrivalState :=
  Proc.loop (fun state =>
    if state.next ≤ now ∧ state.next < run.finish then do
      let state ← run.admitOne now state
      pure (.inl { state with
        arrived := state.arrived + 1
        next := run.arrivalTime (state.arrived + 1) })
    else pure (.inr state)) state

/-- One turn of the loop; it ends when the run is cancelled. -/
def arrivalRound (state : ArrivalState) : ArrivalProc (ArrivalState ⊕ ArrivalState) := do
  if ← AskArrival.sleepUntil (min state.next run.finish) then do
    -- the sessions still open were open since the last observation
    let moment ← AskArrival.now
    let state ← reapFinished (run.observe state moment)
    let now ← AskArrival.now
    if run.finish ≤ state.next then
      -- wait for the run to end, still collecting
      match ← AskArrival.joinOrCancelled with
      | none => pure (.inr state)
      | some done => do
        let state ← collect state done
        pure (.inl state)
    else do
      let state ← run.admitDue now state
      pure (.inl state)
  else pure (.inr state)

/-- Collects every session that is left. -/
def drain (state : ArrivalState) : ArrivalProc ArrivalState :=
  Proc.loop (fun state => do
    match ← AskArrival.joinNext with
    | none => pure (.inr state)
    | some done => do
      let state ← collect state done
      pure (.inl state)) state

/-- Starts sessions at the arrival rate until the run is cancelled, and adds up
what they counted. -/
def runArrivals (totals : MetricsTotals) : ArrivalProc (ArrivalCounts × MetricsTotals) := do
  let state ← Proc.loop run.arrivalRound { next := run.start, totals }
  let state ← drain state
  let heap ← AskArrival.recorders
  pure (state.counts, state.totals.addRecorder heap.recorders run.latency)

end ArrivalRun

/-! ## What the trace adds up to

Sessions open, started, skipped and collected, and the last reading of the
clock. -/

/-- What a trace of the arrival loop adds up to. -/
structure ArrivalLedger where
  /-- The sessions that were spawned and not collected. -/
  opened : List ℕ := []
  /-- The most there ever were. -/
  largest : ℕ := 0
  started : ℕ := 0
  skipped : ℕ := 0
  /-- An arrival was skipped with room for its session. -/
  early : Bool := false
  /-- The sessions that were collected, in order. -/
  collected : List Finished := []
  /-- The last wake-up. -/
  lastWake : Option Instant := none
  /-- The recorders as they were when every session had stopped. -/
  final : Option Heap := none

namespace ArrivalLedger

/-- A session is collected. -/
def collect (s : ArrivalLedger) (done : Finished) : ArrivalLedger :=
  { s with opened := s.opened.erase done.id, collected := s.collected ++ [done] }

/-- What an event changes. -/
def step (run : ArrivalRun) (s : ArrivalLedger) : ArrivalEvent → ArrivalLedger
  | ⟨.now, moment⟩ => { s with lastWake := some moment }
  | ⟨.tryJoinNext, some done⟩ => s.collect done
  | ⟨.joinOrCancelled, some done⟩ => s.collect done
  | ⟨.joinNext, some done⟩ => s.collect done
  | ⟨.spawn id, _⟩ =>
    { s with
      opened := s.opened ++ [id]
      started := s.started + 1
      largest := max s.largest (s.opened.length + 1) }
  | ⟨.skip, _⟩ =>
    { s with
      skipped := s.skipped + 1
      early := s.early || s.opened.length != run.maxOpen }
  | ⟨.recorders, heap⟩ => { s with final := some heap }
  | _ => s

/-- A reading of the clock is no earlier than the last. -/
def ClockMoves (last : Option Instant) (moment : Instant) : Prop :=
  ∀ before ∈ last, before ≤ moment

instance decidableClockMoves (last : Option Instant) (moment : Instant) :
    Decidable (ClockMoves last moment) :=
  inferInstanceAs (Decidable (∀ before ∈ last, before ≤ moment))

/-- The answers a trace can hold: the clock is monotonic, a session that is
joined is one of the set, the set is empty when there is none to wait for, and
the action names of a recorder do not change. -/
def Admits (names : RecorderId → List String) (s : ArrivalLedger) : ArrivalEvent → Prop
  | ⟨.now, moment⟩ => ClockMoves s.lastWake moment
  | ⟨.tryJoinNext, some done⟩ => done.id ∈ s.opened
  | ⟨.joinOrCancelled, some done⟩ => done.id ∈ s.opened
  | ⟨.joinNext, some done⟩ => done.id ∈ s.opened
  | ⟨.joinNext, none⟩ => s.opened = []
  | ⟨.flush w, heap⟩ => ((heap : Heap).recorders w.latency).actionNames = names w.latency
  | _ => True

instance (names : RecorderId → List String) (s : ArrivalLedger) :
    ∀ event : ArrivalEvent, Decidable (s.Admits names event)
  | ⟨.now, moment⟩ => decidableClockMoves s.lastWake moment
  | ⟨.tryJoinNext, some done⟩ => inferInstanceAs (Decidable (done.id ∈ s.opened))
  | ⟨.joinOrCancelled, some done⟩ => inferInstanceAs (Decidable (done.id ∈ s.opened))
  | ⟨.joinNext, some done⟩ => inferInstanceAs (Decidable (done.id ∈ s.opened))
  | ⟨.joinNext, none⟩ => inferInstanceAs (Decidable (s.opened = []))
  | ⟨.flush w, heap⟩ =>
    inferInstanceAs (Decidable ((Heap.recorders heap w.latency).actionNames = names w.latency))
  | ⟨.sleepUntil _, _⟩ => isTrue trivial
  | ⟨.tryJoinNext, none⟩ => isTrue trivial
  | ⟨.joinOrCancelled, none⟩ => isTrue trivial
  | ⟨.spawn _, _⟩ => isTrue trivial
  | ⟨.skip, _⟩ => isTrue trivial
  | ⟨.recorders, _⟩ => isTrue trivial

/-- Never too many sessions are open, and an arrival is skipped only when as
many as allowed are. -/
structure Sound (run : ArrivalRun) (s : ArrivalLedger) : Prop where
  bound : s.opened.length ≤ run.maxOpen
  late : s.early = false

/-- The ledger as a reader of traces. -/
def monitor (run : ArrivalRun) (names : RecorderId → List String) :
    Proc.Monitor ArrivalEff ArrivalEff.Answer ArrivalLedger where
  step := step run
  Admits := Admits names
  Safe := Sound run

instance (run : ArrivalRun) (names : RecorderId → List String) (s : ArrivalLedger)
    (event : ArrivalEvent) : Decidable ((monitor run names).Admits s event) :=
  inferInstanceAs (Decidable (s.Admits names event))

/-- What the counters of the collected sessions add up to. -/
def added (names : RecorderId → List String) (s : ArrivalLedger) : MetricsTotals.Tally :=
  (s.collected.map fun done =>
    done.metrics.elim 0 fun w => MetricsTotals.workerTally (names w.latency) w).sum

end ArrivalLedger

/-! ## The loop keeps its ledger

The relation between what the loop keeps and what its trace shows, and one lemma
for each thing that can happen. -/

section Arrives

variable (run : ArrivalRun) (names : RecorderId → List String)

/-- What the loop keeps says what the trace shows, up to the last wake-up. -/
structure Arrives (wake : Option Instant) (state : ArrivalState) (s : ArrivalLedger) : Prop where
  last : s.lastWake = wake
  opened : s.opened = state.opened
  sound : s.Sound run
  /-- The sessions of the run are open or were collected. -/
  sessions : (s.opened ++ s.collected.map Finished.id).Perm (List.range s.started)
  started : state.counts.started = s.started
  skipped : state.counts.skipped = s.skipped
  arrived : state.arrived = s.started + s.skipped
  next : state.next = run.arrivalTime state.arrived
  /-- Every arrival so far was due. -/
  due : ∀ k < state.arrived, run.arrivalTime k < run.finish
    ∧ ∃ moment ∈ wake, run.arrivalTime k ≤ moment
  peaked : state.counts.Peaked
  largest : state.counts.peakOpen = s.largest
  within : s.opened.length ≤ s.largest
  totals : state.totals.tally = s.added names
  absorbed : state.totals.absorbed = []

variable {run names} {wake : Option Instant} {state : ArrivalState} {s : ArrivalLedger}

theorem ArrivalRun.arrivalTime_zero : run.arrivalTime 0 = run.start := by
  show run.start + Duration.ofSecsNearest _ = run.start
  simp [Duration.ofSecsNearest]

theorem arrives_init :
    Arrives run names none { next := run.start, totals := .new } {} where
  last := rfl
  opened := rfl
  sound := ⟨Nat.zero_le _, rfl⟩
  sessions := List.Perm.refl _
  started := rfl
  skipped := rfl
  arrived := rfl
  next := ArrivalRun.arrivalTime_zero.symm
  due := fun k hk => absurd hk (Nat.not_lt_zero k)
  peaked := rfl
  largest := rfl
  within := le_rfl
  totals := rfl
  absorbed := rfl

/-- The clock moves on. -/
theorem Arrives.woken (h : Arrives run names wake state s) {moment : Instant}
    (hlater : ∀ before ∈ wake, before ≤ moment) :
    Arrives run names (some moment) state { s with lastWake := some moment } :=
  { h with
    last := rfl
    sound := ⟨h.sound.bound, h.sound.late⟩
    due := fun k hk => by
      obtain ⟨hend, before, hbefore, hle⟩ := h.due k hk
      exact ⟨hend, moment, rfl, hle.trans (hlater before hbefore)⟩ }

/-- An observation that is not the highest changes no peak. -/
theorem Arrives.observe (h : Arrives run names wake state s) (moment : Instant) :
    Arrives run names wake (run.observe state moment) s :=
  { h with
    peaked := h.peaked.observe _ _
    largest := by
      show max state.counts.peakOpen state.opened.length = s.largest
      rw [h.largest, ← h.opened]
      exact max_eq_left h.within }

/-- A session of the set is collected, with its counters added. -/
theorem Arrives.collect (h : Arrives run names wake state s) {done : Finished}
    (hdone : done.id ∈ s.opened) {totals : MetricsTotals}
    (htally : totals.tally = state.totals.tally + done.metrics.elim 0 fun w =>
      MetricsTotals.workerTally (names w.latency) w)
    (habsorbed : totals.absorbed = state.totals.absorbed) :
    Arrives run names wake { state with opened := state.opened.erase done.id, totals }
      (s.collect done) :=
  { h with
    opened := congrArg (List.erase · done.id) h.opened
    sound := ⟨(List.length_erase_le).trans h.sound.bound, h.sound.late⟩
    sessions := by
      refine List.Perm.trans ?_ h.sessions
      show (s.opened.erase done.id ++ (s.collected ++ [done]).map Finished.id).Perm _
      rw [List.map_append, ← List.append_assoc]
      refine List.perm_append_comm.trans ?_
      show (done.id :: (s.opened.erase done.id ++ s.collected.map Finished.id)).Perm _
      exact (List.perm_cons_erase hdone).symm.append_right _
    within := List.length_erase_le.trans h.within
    totals := by
      show totals.tally = ((s.collected ++ [done]).map _).sum
      rw [htally, h.totals, List.map_append, List.sum_append, List.map_singleton,
        List.sum_singleton]
      rfl
    absorbed := habsorbed.trans h.absorbed }

/-- An arrival that is due is skipped: as many sessions as allowed are open. -/
theorem Arrives.skip (h : Arrives run names wake state s)
    (hfull : run.maxOpen ≤ state.opened.length) (hend : state.next < run.finish)
    (hdue : ∃ moment ∈ wake, state.next ≤ moment) :
    Arrives run names wake
      { state with
        counts.skipped := state.counts.skipped + 1
        arrived := state.arrived + 1
        next := run.arrivalTime (state.arrived + 1) }
      (s.step run ⟨.skip, ()⟩) :=
  { h with
    sound := by
      refine ⟨h.sound.bound, ?_⟩
      have heq : s.opened.length = run.maxOpen :=
        le_antisymm h.sound.bound (h.opened ▸ hfull)
      show (s.early || s.opened.length != run.maxOpen) = false
      rw [h.sound.late, heq, bne_self_eq_false, Bool.or_false]
    skipped := congrArg (· + 1) h.skipped
    arrived := congrArg (· + 1) h.arrived
    next := rfl
    due := by
      intro k hk
      rcases Nat.lt_succ_iff_lt_or_eq.mp hk with hlt | rfl
      · exact h.due k hlt
      · exact h.next ▸ ⟨hend, hdue⟩ }

/-- An arrival that is due is started. -/
theorem Arrives.spawn (h : Arrives run names wake state s)
    (hroom : ¬run.maxOpen ≤ state.opened.length) (hend : state.next < run.finish)
    (hdue : ∃ moment ∈ wake, state.next ≤ moment) (now : Instant) :
    Arrives run names wake
      { run.observe
          { state with
            opened := state.opened ++ [state.counts.started]
            counts.started := state.counts.started + 1 } now with
        arrived := state.arrived + 1
        next := run.arrivalTime (state.arrived + 1) }
      (s.step run ⟨.spawn state.counts.started, ()⟩) :=
  { h with
    opened := congrArg (· ++ [state.counts.started]) h.opened
    sound := by
      refine ⟨?_, h.sound.late⟩
      show (s.opened ++ [state.counts.started]).length ≤ run.maxOpen
      rw [List.length_append, List.length_singleton, h.opened]
      omega
    sessions := by
      show (s.opened ++ [state.counts.started] ++ s.collected.map Finished.id).Perm
        (List.range (s.started + 1))
      rw [List.range_succ, ← h.started, List.append_assoc]
      refine (List.perm_append_comm.append_left s.opened).trans ?_
      rw [← List.append_assoc]
      exact (h.started ▸ h.sessions).append_right _
    started := congrArg (· + 1) h.started
    arrived := by
      show state.arrived + 1 = s.started + 1 + s.skipped
      rw [h.arrived]
      omega
    next := rfl
    due := by
      intro k hk
      -- an earlier session was due when it was started; this one is the next
      rcases Nat.lt_succ_iff_lt_or_eq.mp hk with hlt | rfl
      · exact h.due k hlt
      · exact h.next ▸ ⟨hend, hdue⟩
    peaked := (show ArrivalCounts.Peaked { state.counts with started := _ } from h.peaked).observe
      _ _
    largest := by
      show max state.counts.peakOpen (state.opened ++ [state.counts.started]).length
        = max s.largest (s.opened.length + 1)
      rw [h.largest, h.opened, List.length_append, List.length_singleton]
    within := by
      show (s.opened ++ [state.counts.started]).length ≤ max s.largest (s.opened.length + 1)
      rw [List.length_append, List.length_singleton]
      exact le_max_right _ _ }

/-! ## The turns of the loop

A turn sleeps, looks at the clock, observes, collects, and admits. -/

variable (run names) in
/-- A program of the loop, read as a ledger. -/
abbrev Attends {R : Type} (pre : ArrivalLedger → Prop) (p : ArrivalProc R)
    (post : R → ArrivalLedger → Prop) : Prop :=
  Triple (ArrivalLedger.monitor run names) pre p post

variable (run names) in
/-- After a join: nothing has changed, or a session of the set is to be
collected. -/
def Joined (wake : Option Instant) (state : ArrivalState) :
    Option Finished → ArrivalLedger → Prop
  | none => Arrives run names wake state
  | some done => fun s => ∃ before, Arrives run names wake state before
      ∧ done.id ∈ before.opened ∧ s = before.collect done

theorem ArrivalLedger.Sound.collect (h : s.Sound run) (done : Finished) :
    (s.collect done).Sound run :=
  ⟨List.length_erase_le.trans h.bound, h.late⟩

theorem attends_tryJoinNext :
    Attends run names (Arrives run names wake state) AskArrival.tryJoinNext
      (Joined run names wake state) := by
  refine Triple.ask fun s done harrives hadmits => ?_
  cases done with
  | none => exact ⟨harrives.sound, harrives⟩
  | some done => exact ⟨harrives.sound.collect done, s, harrives, hadmits, rfl⟩

theorem attends_joinOrCancelled :
    Attends run names (Arrives run names wake state) AskArrival.joinOrCancelled
      (Joined run names wake state) := by
  refine Triple.ask fun s done harrives hadmits => ?_
  cases done with
  | none => exact ⟨harrives.sound, harrives⟩
  | some done => exact ⟨harrives.sound.collect done, s, harrives, hadmits, rfl⟩

theorem attends_joinNext :
    Attends run names (Arrives run names wake state) AskArrival.joinNext fun done s =>
      Joined run names wake state done s ∧ (done = none → s.opened = []) := by
  refine Triple.ask fun s done harrives hadmits => ?_
  cases done with
  | none => exact ⟨harrives.sound, harrives, fun _ => hadmits⟩
  | some done => exact ⟨harrives.sound.collect done, ⟨s, harrives, hadmits, rfl⟩, nofun⟩

/-- The loop sleeps. -/
theorem attends_sleepUntil (moment : Instant) :
    Attends run names (Arrives run names wake state) (AskArrival.sleepUntil moment)
      fun _ => Arrives run names wake state :=
  Triple.ask_of_silent (fun _ h => h.sound) fun _ _ => rfl

/-- The next reading of the clock. -/
theorem attends_now :
    Attends run names (Arrives run names wake state) AskArrival.now fun moment s =>
      Arrives run names (some moment) state s := by
  refine Triple.ask fun s moment harrives hadmits => ?_
  have hlater : ∀ before ∈ wake, before ≤ moment := harrives.last ▸ hadmits
  exact ⟨⟨harrives.sound.bound, harrives.sound.late⟩, harrives.woken hlater⟩

/-- A flush changes no counter. -/
theorem workerTally_flushInterval (actions : List String) (w : WorkerMetrics) (heap : Heap) :
    MetricsTotals.workerTally actions (w.flushInterval heap).1
      = MetricsTotals.workerTally actions w := by
  unfold WorkerMetrics.flushInterval
  cases w.interval with
  | none => rfl
  | some interval => rfl

theorem latency_flushInterval (w : WorkerMetrics) (heap : Heap) :
    (w.flushInterval heap).1.latency = w.latency := by
  unfold WorkerMetrics.flushInterval
  cases w.interval with
  | none => rfl
  | some interval => rfl

/-- **A session is collected** with its counters, once. -/
theorem attends_collect (done : Finished) :
    Attends run names (Joined run names wake state (some done)) (ArrivalRun.collect state done)
      fun state' s => Arrives run names wake state' s ∧ state'.next = state.next := by
  have hadd : Attends run names (Joined run names wake state (some done))
      (ArrivalRun.addSession state.totals done.metrics) fun totals s =>
        Arrives run names wake { state with opened := state.opened.erase done.id, totals } s := by
    unfold ArrivalRun.addSession
    cases hmetrics : done.metrics with
    | none =>
      refine Triple.pure ?_
      rintro s ⟨before, harrives, hdone, rfl⟩
      refine harrives.collect hdone ?_ rfl
      rw [hmetrics]
      exact (add_zero _).symm
    | some metrics =>
      have hflush : Attends run names (Joined run names wake state (some done))
          (AskArrival.flush metrics) fun heap s => Joined run names wake state (some done) s
            ∧ (Heap.recorders heap metrics.latency).actionNames = names metrics.latency := by
        refine Triple.ask fun s heap hjoined hadmits => ?_
        obtain ⟨before, harrives, hdone, rfl⟩ := hjoined
        exact ⟨harrives.sound.collect done, ⟨before, harrives, hdone, rfl⟩, hadmits⟩
      refine Triple.bind hflush fun heap => Triple.pure ?_
      rintro s ⟨⟨before, harrives, hdone, rfl⟩, hnames⟩
      refine harrives.collect hdone ?_ (MetricsTotals.absorbed_addWorkerCounts _ _ _)
      rw [MetricsTotals.tally_addWorkerCounts, workerTally_flushInterval, latency_flushInterval,
        hnames, hmetrics]
      rfl
  exact Triple.bind hadd fun totals => Triple.pure fun _ h => ⟨h, rfl⟩

theorem attends_reapFinished :
    Attends run names (Arrives run names wake state) (ArrivalRun.reapFinished state)
      (Arrives run names wake) := by
  refine Triple.loop (fun state => Arrives run names wake state) fun state => ?_
  refine Triple.bind attends_tryJoinNext fun done => ?_
  cases done with
  | none => exact Triple.pure fun _ h => h
  | some done => exact Triple.bind (attends_collect done) fun state => Triple.pure fun _ h => h.1

/-- The sessions still open are observed, and then the finished ones are
collected. -/
theorem attends_reapObserved (moment : Instant) :
    Attends run names (Arrives run names wake state)
      (ArrivalRun.reapFinished (run.observe state moment)) (Arrives run names wake) :=
  Triple.weaken attends_reapFinished (fun _ h => h.observe moment) fun _ _ h => h

/-- **One arrival that is due** is started or skipped. -/
theorem attends_admitOne {now : Instant} (hdue : state.next ≤ now)
    (hend : state.next < run.finish) :
    Attends run names (Arrives run names (some now) state) (run.admitOne now state) fun state' =>
      Arrives run names (some now)
        { state' with arrived := state'.arrived + 1, next := run.arrivalTime (state'.arrived + 1) }
      := by
  have hmoment : ∃ moment ∈ some now, state.next ≤ moment := ⟨now, rfl, hdue⟩
  refine Triple.ite (fun hfull => ?_) fun hroom => ?_
  · refine Triple.bind (Triple.ask fun s _ harrives _ => ?_) fun _ => Triple.pure fun _ h => h
    exact ⟨(harrives.skip hfull hend hmoment).sound, harrives.skip hfull hend hmoment⟩
  · refine Triple.bind (Triple.ask fun s _ harrives _ => ?_) fun _ => Triple.pure fun _ h => h
    exact ⟨(harrives.spawn hroom hend hmoment now).sound, harrives.spawn hroom hend hmoment now⟩

variable (run) in
/-- Every arrival up to the last wake-up was admitted. -/
def CaughtUp (wake : Option Instant) (state : ArrivalState) : Prop :=
  ∀ moment ∈ wake, moment < state.next ∨ run.finish ≤ state.next

/-- The next arrival is not due, or comes after the end. -/
theorem caughtUp_of_not_due {now : Instant} (h : ¬(state.next ≤ now ∧ state.next < run.finish)) :
    CaughtUp run (some now) state := by
  rintro moment ⟨⟩
  by_cases hle : state.next ≤ now
  · exact .inr (Nat.le_of_not_lt fun hlt => h ⟨hle, hlt⟩)
  · exact .inl (Nat.lt_of_not_le hle)

theorem attends_admitDue {now : Instant} :
    Attends run names (Arrives run names (some now) state) (run.admitDue now state)
      fun state' s => Arrives run names (some now) state' s ∧ CaughtUp run (some now) state' := by
  refine Triple.loop (fun state => Arrives run names (some now) state) fun state => ?_
  refine Triple.ite (fun hdue => ?_) fun hcaught => ?_
  · exact Triple.bind (attends_admitOne hdue.1 hdue.2) fun state => Triple.pure fun _ h => h
  · exact Triple.pure fun s harrives => ⟨harrives, caughtUp_of_not_due hcaught⟩

variable (run names) in
/-- The loop between two turns. -/
def Between (state : ArrivalState) (s : ArrivalLedger) : Prop :=
  ∃ wake, Arrives run names wake state s ∧ CaughtUp run wake state

/-- **One turn of the loop.** -/
theorem attends_arrivalRound (state : ArrivalState) :
    Attends run names (Between run names state) (run.arrivalRound state)
      (Sum.elim (Between run names) (Between run names)) := by
  rintro s ⟨wake, harrives, hcaught⟩
  have hround : Attends run names (Arrives run names wake state) (run.arrivalRound state)
      (Sum.elim (Between run names) (Between run names)) := by
    refine Triple.bind (attends_sleepUntil _) fun woken => ?_
    refine Triple.ite (fun _ => ?_) fun _ => Triple.pure fun s h => ⟨wake, h, hcaught⟩
    refine Triple.bind attends_now fun moment => ?_
    refine Triple.bind (attends_reapObserved moment) fun state => ?_
    refine Triple.bind attends_now fun now => ?_
    refine Triple.ite (fun hover => ?_) fun _ => ?_
    · refine Triple.bind attends_joinOrCancelled fun done => ?_
      cases done with
      | none => exact Triple.pure fun s h => ⟨some now, h, fun _ _ => .inr hover⟩
      | some done =>
        refine Triple.bind (attends_collect done) fun state' => Triple.pure fun s h => ?_
        exact ⟨some now, h.1, fun _ _ => .inr (h.2 ▸ hover)⟩
    · exact Triple.bind attends_admitDue fun state => Triple.pure fun s h => ⟨some now, h⟩
  exact hround s harrives

/-- The sessions that are left are collected. -/
theorem attends_drain (hcaught : CaughtUp run wake state) :
    Attends run names (Arrives run names wake state) (ArrivalRun.drain state) fun state' s =>
      Arrives run names wake state' s ∧ CaughtUp run wake state' ∧ s.opened = [] := by
  have hdrain : Attends run names
      (fun s => Arrives run names wake state s ∧ CaughtUp run wake state)
      (ArrivalRun.drain state) fun state' s =>
        Arrives run names wake state' s ∧ CaughtUp run wake state' ∧ s.opened = [] := by
    refine Triple.loop (fun state s => Arrives run names wake state s ∧ CaughtUp run wake state)
      fun state => ?_
    rintro s ⟨harrives, hcaught⟩
    refine Triple.bind attends_joinNext (fun done => ?_) s harrives
    cases done with
    | none => exact Triple.pure fun s h => ⟨h.1, hcaught, h.2 rfl⟩
    | some done =>
      refine Triple.bind (Triple.weaken (attends_collect done) (fun s h => h.1) fun _ _ h => h)
        fun state' => Triple.pure fun s h => ⟨h.1, ?_⟩
      intro moment hmoment
      rw [h.2]
      exact hcaught moment hmoment
  exact fun s harrives => hdrain s ⟨harrives, hcaught⟩

/-! ## The accounts of a run

At the end of the loop, from the ledger to what is reported. -/

theorem arrivalTime_mono (hrate : 0 < run.arrivals.rate) {k l : ℕ} (h : k ≤ l) :
    run.arrivalTime k ≤ run.arrivalTime l := by
  have hsecs : (k : ℚ) / run.arrivals.rate * 1000000000 ≤ l / run.arrivals.rate * 1000000000 := by
    have hcast : (k : ℚ) ≤ l := Nat.cast_le.mpr h
    gcongr
  refine Nat.add_le_add_left (Int.toNat_le_toNat ?_) run.start
  rw [round_eq, round_eq]
  exact Int.floor_le_floor (by linarith)

variable (run names) in
/-- What an arrival-rate run reports, against its trace. -/
structure ArrivalsAccounted (s : ArrivalLedger) (counts : ArrivalCounts)
    (totals : MetricsTotals) : Prop where
  /-- The arrivals that were started or skipped are those due before the end of
  the run and by the last wake-up. -/
  due : ∀ k, k < counts.started + counts.skipped
    ↔ run.arrivalTime k < run.finish ∧ ∃ wake ∈ s.lastWake, run.arrivalTime k ≤ wake
  started : counts.started = s.started
  skipped : counts.skipped = s.skipped
  /-- Each session that was started was collected once. -/
  once : (s.collected.map Finished.id).Perm (List.range counts.started)
  /-- The totals are the counters of the collected sessions and the recorder. -/
  sums : ∃ heap ∈ s.final,
    totals.tally = s.added names + MetricsTotals.recorderTally (heap.recorders run.latency)
  absorbed : ∀ id, id ∈ totals.absorbed ↔ id = run.latency
  /-- The peak is the most sessions that were ever open. -/
  peak : counts.peakOpen = s.largest
  peaked : counts.peakOpen = highest counts.intervalPeaks

/-- A loop that has collected every session and admitted every arrival. -/
theorem Arrives.accounted (h : Arrives run names wake state s) (hrate : 0 < run.arrivals.rate)
    (hcaught : CaughtUp run wake state) (hempty : s.opened = []) (heap : Heap) :
    ArrivalsAccounted run names { s with final := some heap } state.counts
      (state.totals.addRecorder heap.recorders run.latency) where
  due := by
    intro k
    rw [h.started, h.skipped, ← h.arrived]
    refine ⟨fun hk => h.last ▸ h.due k hk, ?_⟩
    rintro ⟨hend, moment, hmoment, hle⟩
    by_contra hlate
    have hnext : state.next ≤ run.arrivalTime k :=
      h.next ▸ arrivalTime_mono hrate (Nat.le_of_not_lt hlate)
    rcases hcaught moment (h.last ▸ hmoment) with hearly | hover
    · exact absurd (hearly.trans_le hnext) (not_lt_of_ge hle)
    · exact absurd (hover.trans hnext) (not_le_of_gt hend)
  started := h.started
  skipped := h.skipped
  once := by
    have hsessions := h.sessions
    rw [hempty, List.nil_append, ← h.started] at hsessions
    exact hsessions
  sums := by
    refine ⟨heap, rfl, ?_⟩
    rw [MetricsTotals.tally_addRecorder, h.absorbed, if_neg List.not_mem_nil, h.totals]
    rfl
  absorbed := by
    intro id
    rw [MetricsTotals.mem_absorbed_addRecorder, h.absorbed]
    simp
  peak := h.largest
  peaked := h.peaked

theorem attends_runArrivals (hrate : 0 < run.arrivals.rate) :
    Attends run names (fun s => s = {}) (run.runArrivals .new) fun result s =>
      ArrivalsAccounted run names s result.1 result.2 := by
  rintro s rfl
  have hloop : Attends run names (Between run names { next := run.start, totals := .new })
      (Proc.loop run.arrivalRound { next := run.start, totals := .new })
      (Between run names) :=
    Triple.loop (Between run names) fun state => attends_arrivalRound state
  have hend : ∀ state : ArrivalState, Attends run names (Between run names state) (do
      let state ← ArrivalRun.drain state
      let heap ← AskArrival.recorders
      pure (state.counts, state.totals.addRecorder heap.recorders run.latency)) fun result s =>
        ArrivalsAccounted run names s result.1 result.2 := by
    rintro state s ⟨wake, harrives, hcaught⟩
    refine Triple.bind (attends_drain hcaught) (fun state => ?_) s harrives
    have hheap : Attends run names (fun s => Arrives run names wake state s
          ∧ CaughtUp run wake state ∧ s.opened = []) AskArrival.recorders fun heap s =>
        ∃ before, Arrives run names wake state before ∧ CaughtUp run wake state
          ∧ before.opened = [] ∧ s = { before with final := some heap } := by
      refine Triple.ask fun s heap h _ => ⟨⟨h.1.sound.bound, h.1.sound.late⟩, ?_⟩
      exact ⟨s, h.1, h.2.1, h.2.2, rfl⟩
    refine Triple.bind hheap fun heap => Triple.pure ?_
    rintro _ ⟨before, harrives, hcaught, hempty, rfl⟩
    exact harrives.accounted hrate hcaught hempty heap
  refine Triple.bind hloop hend {} ⟨none, arrives_init, nofun⟩

end Arrives

/-- **Arrivals are accounted for.** At every moment of an arrival-rate run no
more sessions are open than allowed, and arrivals were skipped only when as many
as that were open. When it ends, the arrivals started and skipped are those that
were due, every session was collected once, and the peak is the most that were
open. -/
theorem arrivals_accounted (run : ArrivalRun) (names : RecorderId → List String)
    (hrate : 0 < run.arrivals.rate) {trace : List ArrivalEvent}
    {result : Option (ArrivalCounts × MetricsTotals)}
    (hruns : Proc.Runs (run.runArrivals .new) trace result)
    (hanswers : (ArrivalLedger.monitor run names).Accepts {} trace) :
    ((ArrivalLedger.monitor run names).after {} trace).Sound run
      ∧ ∀ counts totals, result = some (counts, totals) →
        ArrivalsAccounted run names ((ArrivalLedger.monitor run names).after {} trace) counts totals := by
  obtain ⟨hsound, hend⟩ := (ArrivalLedger.monitor run names).wp_sound hruns
    (s := {}) ⟨Nat.zero_le _, rfl⟩ (attends_runArrivals hrate {} rfl) hanswers
  exact ⟨hsound, fun counts totals hresult => hend (counts, totals) hresult⟩

/-- One arrival a second for a second and a half, of one session at a time. -/
def cappedArrivals : ArrivalRun where
  arrivals := ⟨1, Duration.ofSecs 10, some 1⟩
  start := 0
  duration := Duration.ofMillis 1500
  interval := Duration.ofSecs 1
  latency := 0

/-- The loop wakes up late, after a second, and is cancelled in its next
sleep. -/
def cappedAnswers (n : ℕ) : (e : ArrivalEff) → e.Answer
  | .sleepUntil _ => n == 0
  | .now => Duration.ofSecs 1
  | .tryJoinNext => none
  | .joinOrCancelled => none
  | .joinNext => if n = 7 then some ⟨0, none⟩ else none
  | .spawn _ => ()
  | .skip => ()
  | .flush _ => Heap.fresh
  | .recorders => Heap.fresh

/-- The second of two arrivals is skipped. -/
theorem capped_arrivals_accounted : ∃ s counts totals,
    ArrivalsAccounted cappedArrivals (fun _ => []) s counts totals
      ∧ counts.started = 1 ∧ counts.skipped = 1 := by
  have hruns := Proc.runs_run cappedAnswers 60 0 (cappedArrivals.runArrivals .new)
  have haccepts : (ArrivalLedger.monitor cappedArrivals fun _ => []).Accepts {}
      ((cappedArrivals.runArrivals .new).run cappedAnswers 60 0).1 := by decide +kernel
  have hresult : ((cappedArrivals.runArrivals .new).run cappedAnswers 60 0).2.map Prod.fst
      = some ⟨1, 1, 1, [0, 1]⟩ := by decide +kernel
  obtain ⟨⟨counts, totals⟩, htotals, rfl⟩ := Option.map_eq_some_iff.mp hresult
  exact ⟨_, _, _, (arrivals_accounted cappedArrivals (fun _ => []) (by decide) hruns haccepts).2 _ _
    htotals, rfl, rfl⟩

end WsBlast
