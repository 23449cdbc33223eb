import WsBlast.IntervalRuns
import WsBlast.TimeSeries
import WsBlast.Phase

/-!
# The time series of the phase in progress

The exporters and the dashboard follow a run while it lasts. The runner
registers the interval store of each run or phase when its clock starts
(`LiveIntervals.beginPhase`) and marks it ended when its workers have stopped;
a coordinator, which has no store, publishes the latency it merged from its
agents (`LiveIntervals.publishRemote`). A reader is told of the last interval
that is over (`LiveIntervals.lastCompleted`).

The phases are numbered in the order their clocks started, and a reader tells
by the number which phase it is told about.

What the live readers share is behind one lock: the store of the current phase
or the latency a coordinator published for it, the time at which its clock
started, whether it has ended, and how many phases there were.
-/

namespace WsBlast

/-! ## What is shared

The basis of a series, and the state behind the lock. -/

/-- Whether a paced echo phase records no response time: a phase without an
action script whose think time pauses after every reply. -/
def phaseSkipsResponseTime (phase : ScenarioPhase) : Bool :=
  phase.actions.isEmpty && phase.thinkTime ≠ 0

/-- The latency a run of `config` reports in its time series. -/
def latencyBasisFor (config : LoadTestConfig) (skipsResponseTime : Bool) : String :=
  let pacedEcho := config.mode.awaitsReplies && 0 < config.ratePerConn
  if pacedEcho && !skipsResponseTime then "response_time" else "rtt"

/-- A phase that runs on distributed agents, as the coordinator sees it. -/
structure RemotePhase where
  start : Instant
  interval : Duration
  basis : String
  ended : Option Duration
  seq : ℕ
  /-- The last interval the coordinator merged: its index and latency. -/
  latest : Option (ℕ × IntervalLatency)
  deriving DecidableEq, Repr

/-- The time series of the run or scenario phase in progress. -/
structure LivePhase where
  store : StoreId
  basis : String
  /-- The phase's `elapsed`, once it has ended. -/
  ended : Option Duration
  /-- 0 for the first phase registered, 1 for the next, and so on. -/
  seq : ℕ
  deriving DecidableEq, Repr

/-- What the live readers of a run share. -/
structure LiveIntervals where
  runStart : Option Instant := none
  finished : Option Duration := none
  phase : Option LivePhase := none
  /-- Phases registered so far. -/
  phasesBegun : ℕ := 0
  /-- Set while a coordinator runs a phase on its agents. -/
  remote : Option RemotePhase := none
  deriving DecidableEq, Repr

/-- The clock of the run or scenario phase in progress. -/
structure PhaseClock where
  /-- 0 for the first phase of the run, 1 for the next, and so on. -/
  seq : ℕ
  /-- Time since the phase's clock started, or its length once it ended. -/
  elapsed : Duration
  ended : Bool
  interval : Duration
  basis : String
  deriving DecidableEq, Repr

/-- Latency of the most recently completed interval of the phase in
progress. -/
structure CompletedInterval where
  phase : ℕ
  /-- Index of the interval within its phase. -/
  index : ℕ
  basis : String
  latency : IntervalLatency
  deriving DecidableEq, Repr

/-! ## The interval that is over

Which interval is the last one that is over, and its latency in a store. -/

/-- Index of the last interval that ended at or before `sinceStart`. -/
def lastCompleted (sinceStart interval : Duration) : Option ℕ :=
  let index : ℕ := sinceStart / max interval 1
  if 2 ^ 64 ≤ index ∨ index = 0 then none else some (index - 1)

/-- The interval is over, and the next one is not. -/
theorem lastCompleted_eq_some {sinceStart interval : Duration} {index : ℕ}
    (hinterval : 0 < interval) (h : lastCompleted sinceStart interval = some index) :
    (index + 1) * interval ≤ sinceStart ∧ sinceStart < (index + 2) * interval := by
  unfold lastCompleted at h
  dsimp only at h
  rw [max_eq_left hinterval] at h
  split_ifs at h with hnone
  have hindex : (sinceStart : ℕ) / interval = index + 1 := by
    have hsub : (sinceStart : ℕ) / interval - 1 = index := Option.some.inj h
    have hpos : (sinceStart : ℕ) / interval ≠ 0 := fun hzero => hnone (.inr hzero)
    rw [← hsub, Nat.sub_add_cancel (Nat.one_le_iff_ne_zero.mpr hpos)]
  exact ⟨(Nat.le_div_iff_mul_le hinterval).mp hindex.ge,
    (Nat.div_lt_iff_lt_mul hinterval).mp (hindex.trans_lt (Nat.lt_succ_self _))⟩

/-- Latency of interval `bucket` from the samples workers have handed over so
far. -/
def IntervalStore.latencyOf (store : IntervalStore) (bucket : ℕ) : IntervalLatency :=
  .fromHistogram store.buckets[bucket]?

namespace LiveIntervals

variable (intervals : LiveIntervals) (stores : StoreId → IntervalStore)

/-! ## Writing and reading -/

/-- Registers the time series of a run or phase whose clock just started. The
first call also starts the run's clock. -/
def beginPhase (store : StoreId) (basis : String) : LiveIntervals :=
  { intervals with
    runStart := intervals.runStart.or (some (stores store).start)
    phasesBegun := intervals.phasesBegun + 1
    remote := none
    phase := some { store, basis, ended := none, seq := intervals.phasesBegun } }

/-- Marks the current phase as ended after `elapsed`. -/
def endPhase (elapsed : Duration) : LiveIntervals :=
  { intervals with
    remote := intervals.remote.map fun remote => { remote with ended := some elapsed }
    phase := intervals.phase.map fun phase => { phase with ended := some elapsed } }

/-- Registers a phase that a coordinator runs on its agents, whose clock
started at `start`. -/
def beginRemotePhase (start : Instant) (interval : Duration) (basis : String) : LiveIntervals :=
  { intervals with
    runStart := intervals.runStart.or (some start)
    phasesBegun := intervals.phasesBegun + 1
    phase := none
    remote := some
      { start, interval, basis, ended := none, seq := intervals.phasesBegun, latest := none } }

/-- Publishes the latency of interval `index` of the remote phase, merged from
every agent's histogram for that interval. -/
def publishRemote (index : ℕ) (latency : IntervalLatency) : LiveIntervals :=
  { intervals with
    remote := intervals.remote.map fun remote => { remote with latest := some (index, latency) } }

/-- Freezes the run's elapsed time once the whole run has ended. -/
def finish (now : Instant) : LiveIntervals :=
  { intervals with
    finished := intervals.finished.or
      (some (intervals.runStart.elim 0 fun start => now - start)) }

/-- Time since the run's clock started; zero before the run starts. -/
def elapsed (now : Instant) : Duration :=
  (intervals.finished.or (intervals.runStart.map fun start => now - start)).getD 0

/-- The clock of the current phase; `none` before the first one starts. -/
def phaseClock (now : Instant) : Option PhaseClock :=
  match intervals.remote with
  | some remote => some
    { seq := remote.seq
      elapsed := remote.ended.getD (now - remote.start)
      ended := remote.ended.isSome
      interval := remote.interval
      basis := remote.basis }
  | none => intervals.phase.map fun phase =>
    { seq := phase.seq
      elapsed := phase.ended.getD (now - (stores phase.store).start)
      ended := phase.ended.isSome
      interval := (stores phase.store).interval
      basis := phase.basis }

/-- Latency of the last interval of the current phase that has ended. -/
def lastCompleted (now : Instant) : Option CompletedInterval :=
  match intervals.remote with
  | some remote => remote.latest.map fun (index, latency) =>
    { phase := remote.seq, index, basis := remote.basis, latency }
  | none => do
    let phase ← intervals.phase
    let store := stores phase.store
    let sinceStart := phase.ended.getD (now - store.start)
    let index ← WsBlast.lastCompleted sinceStart store.interval
    return { phase := phase.seq, index, basis := phase.basis, latency := store.latencyOf index }

/-! ## When a phase has ended

Ending a phase is marked once, and a new phase is not ended. -/

/-- The phase in progress has been marked ended; there may be none. -/
def Ended : Prop :=
  (∀ phase ∈ intervals.phase, phase.ended ≠ none) ∧ ∀ remote ∈ intervals.remote, remote.ended ≠ none

variable {intervals stores}

theorem ended_endPhase (elapsed : Duration) : (intervals.endPhase elapsed).Ended := by
  constructor
  · intro phase hphase
    obtain ⟨before, -, rfl⟩ := Option.map_eq_some_iff.mp hphase
    exact Option.some_ne_none elapsed
  · intro remote hremote
    obtain ⟨before, -, rfl⟩ := Option.map_eq_some_iff.mp hremote
    exact Option.some_ne_none elapsed

theorem ended_publishRemote (index : ℕ) (latency : IntervalLatency) :
    (intervals.publishRemote index latency).Ended ↔ intervals.Ended := by
  refine and_congr_right fun _ => ?_
  cases hremote : intervals.remote with
  | none => simp [publishRemote, hremote]
  | some remote => simp [publishRemote, hremote]

theorem not_ended_beginPhase (store : StoreId) (basis : String) :
    ¬ (intervals.beginPhase stores store basis).Ended :=
  fun h => h.1 _ rfl rfl

theorem not_ended_beginRemotePhase (start : Instant) (interval : Duration) (basis : String) :
    ¬ (intervals.beginRemotePhase start interval basis).Ended :=
  fun h => h.2 _ rfl rfl

end LiveIntervals

end WsBlast
