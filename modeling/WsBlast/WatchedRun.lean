import WsBlast.Dashboard
import WsBlast.Lib.Machine

/-!
# A run that is watched

A run and the dashboard that follows it share the live counters, the live
intervals and the progress, each behind a lock of its own. `WatchedRun.step`
is one access to one of them, by whoever makes it: the executor, which
announces a phase, starts its clock, measures it and marks it ended; a worker,
which records a latency; a coordinator, which publishes what it merged; or the
dashboard, which reads one thing after the other and then draws a frame. The
runs are all the orders in which the accesses can come.

Whatever comes between the reads of a refresh, what the reader holds stays
true of the run (`Held`), and a frame is put together from what belongs to one
phase (`frames_show_one_phase`).

Time is one of the parties. It passes between any two accesses, and nothing
else makes it. The clock of a phase is a difference to the present, so a reader
that asks twice may get two answers.
-/

namespace WsBlast

/-! ## Runs

A run of one phase or of several, with what each phase was planned to be. -/

/-- How long after its end the latency of an interval is merged. -/
def exportLag : Duration := Duration.ofSecs 1

/-- A run of one or more phases, and how its workers record. -/
structure WatchedRun (ι : Type) where
  phases : List PhasePlan
  numbered : ∀ (i : ℕ) (plan : PhasePlan), phases[i]? = some plan → plan.index = i
  /-- When the clock of each phase starts. -/
  start : ℕ → Instant
  /-- The latency that the time series of each phase reports. -/
  basis : ℕ → String
  /-- Whether the phases run on agents. -/
  remote : Bool
  /-- The phase a worker belongs to. -/
  phaseOf : ι → ℕ

namespace WatchedRun

variable {ι : Type}

/-- A single run of `config`. -/
def ofConfig (config : LoadTestConfig) (slo : SloThresholds) (start : Instant) (remote : Bool) :
    WatchedRun ι where
  phases := [PhasePlan.forRun config slo]
  numbered i plan h := by
    obtain ⟨hlt, rfl⟩ := List.getElem?_eq_some_iff.mp h
    obtain rfl := Nat.lt_one_iff.mp hlt
    rfl
  start _ := start
  basis _ := latencyBasisFor config false
  remote
  phaseOf _ := 0

/-- A scenario of `phases` over `base`; `slo` are the thresholds of all of
it. -/
def ofScenario (phases : List CompiledPhase) (base : LoadTestConfig) (slo : SloThresholds)
    (start : ℕ → Instant) (remote : Bool) (phaseOf : ι → ℕ) : WatchedRun ι where
  phases := phases.mapIdx (PhasePlan.ofPhase phases slo)
  numbered i plan h := by
    rw [List.getElem?_mapIdx] at h
    obtain ⟨phase, -, rfl⟩ := Option.map_eq_some_iff.mp h
    rfl
  start
  basis phase := (phases[phase]?).elim "rtt" fun phase =>
    latencyBasisFor { base with ratePerConn := phase.ratePerConn }
      (phaseSkipsResponseTime phase.toScenarioPhase)
  remote
  phaseOf

end WatchedRun

/-! ## The parties

The executor, the reader and a coordinator, and the state that they share. -/

/-- Where the executor of the phases is. -/
inductive ExecutorStage where
  | ready (phase : ℕ)
  /-- The phase resolves its target. -/
  | announced (phase : ℕ)
  | running (phase : ℕ)
  /-- The phase is measured, and its workers are waited for. -/
  | joining (phase : ℕ) (elapsed : Duration)
  | ended (phase : ℕ)
  | stopped
  deriving DecidableEq, Repr

/-- What a refresh has read so far. -/
inductive Reader where
  | idle
  | counters (counters : LiveSnapshot)
  | elapsed (counters : LiveSnapshot) (runElapsed : Duration)
  | clock (counters : LiveSnapshot) (runElapsed : Duration) (clock : Option PhaseClock)
  | progress (counters : LiveSnapshot) (runElapsed : Duration) (clock : Option PhaseClock)
      (progress : ProgressView)
  | interval (counters : LiveSnapshot) (runElapsed : Duration) (clock : Option PhaseClock)
      (progress : ProgressView) (last : Option CompletedInterval)

/-- The last interval, when it was read. -/
def Reader.last : Reader → Option CompletedInterval
  | .interval _ _ _ _ last => last
  | _ => none

/-- What a coordinator published: the latency it merged from its agents for an
interval of a phase. -/
structure Publication where
  phase : ℕ
  /-- Index of the interval within its phase. -/
  index : ℕ
  latency : IntervalLatency
  deriving DecidableEq, Repr

/-- An interval that is read, as the coordinator published it. -/
def CompletedInterval.publication (completed : CompletedInterval) : Publication where
  phase := completed.phase
  index := completed.index
  latency := completed.latency

/-- A moment of a watched run. -/
structure Watch (ι : Type) where
  now : Instant := 0
  counters : LiveSnapshot := {}
  intervals : LiveIntervals := {}
  progress : ProgressView := {}
  board : Option AgentBoard := none
  /-- What the workers' recorders were called with. -/
  calls : List (ι × IntervalCall) := []
  stage : ExecutorStage := .ready 0
  /-- How long each phase was measured to take. -/
  measured : ℕ → Option Duration := fun _ => none
  /-- Everything the coordinator published, in order. -/
  published : List Publication := []
  reader : Reader := .idle
  dashboard : Dashboard := {}
  frames : List DashboardView := []

/-- The latency of an interval of `phase` is published, and the live readers
see it in place of the one before. -/
def Watch.publish {ι : Type} (s : Watch ι) (phase index : ℕ) (latency : IntervalLatency) : Watch ι :=
  { s with
    intervals := s.intervals.publishRemote index latency
    published := s.published ++ [⟨phase, index, latency⟩] }

/-- An access. -/
inductive Access (ι : Type) where
  | tick (time : Duration)
  | count (counters : LiveSnapshot)
  | record (worker : ι) (micros : ℕ)
  | flush (worker : ι)
  /-- `RunProgress::begin_phase`. -/
  | announce
  /-- `LiveIntervals::begin_phase` or `begin_remote_phase`. -/
  | start
  /-- `publish_live`, with what the agents' histograms give. -/
  | publish (latency : IntervalLatency)
  /-- The `elapsed` of a phase. -/
  | measure (elapsed : Duration)
  /-- The last interval of a phase on agents. -/
  | publishLast (latency : IntervalLatency)
  /-- `LiveIntervals::end_phase`. -/
  | endPhase
  /-- `RunProgress::end_phase`, and on to the next phase. -/
  | report (slo : SloEvaluation)
  /-- The run is over, whether all of it ran or not. -/
  | stop
  | finish
  | markLost (agent : ℕ)
  /-- The next read of a refresh, or its frame. -/
  | read

namespace WatchedRun

variable {ι : Type} [DecidableEq ι] (run : WatchedRun ι)

/-- The interval length of a phase. -/
def interval (phase : ℕ) : Duration :=
  intervalFor (run.phases[phase]?.elim 0 PhasePlan.duration)

/-- The interval stores after the calls of the recorders. -/
def stores (calls : List (ι × IntervalCall)) : StoreId → IntervalStore :=
  ((IntervalRun.new run.phaseOf run.start run.interval).after calls).stores

/-- A phase's clock starts. -/
def startPhase (s : Watch ι) (phase : ℕ) : LiveIntervals :=
  if run.remote then
    s.intervals.beginRemotePhase (run.start phase) (run.interval phase) (run.basis phase)
  else s.intervals.beginPhase (run.stores s.calls) phase (run.basis phase)

/-- Whether a worker of `phase` may still record. -/
def mayRecord (s : Watch ι) (phase : ℕ) : Bool :=
  !run.remote && match s.stage with
    | .running current => current = phase
    | .joining current _ => current = phase
    | _ => false

/-- Whether `elapsed` is what a phase that started at `start` is measured to
take: on agents, up to the last result. -/
def Measures (s : Watch ι) (phase : ℕ) (elapsed : Duration) : Prop :=
  elapsed ≤ s.now - run.start phase ∧ (run.remote = false → elapsed = s.now - run.start phase)

instance (s : Watch ι) (phase : ℕ) (elapsed : Duration) :
    Decidable (run.Measures s phase elapsed) :=
  inferInstanceAs (Decidable (_ ∧ _))

/-- Whether the workers of a phase have stopped: each has handed over what it
held. -/
def Joined (s : Watch ι) (phase : ℕ) : Prop :=
  ∀ worker, run.phaseOf worker = phase → FlushedLast s.calls worker

instance [Fintype ι] (s : Watch ι) (phase : ℕ) : Decidable (run.Joined s phase) :=
  inferInstanceAs (Decidable (∀ _, _))

/-- An access by the executor. -/
def execute [Fintype ι] (s : Watch ι) : Access ι → ExecutorStage → Option (Watch ι)
  | .announce, .ready phase => run.phases[phase]?.map fun plan =>
    { s with progress := s.progress.beginPhase plan, stage := .announced phase }
  | .start, .announced phase =>
    if s.now = run.start phase then some
      { s with intervals := run.startPhase s phase, stage := .running phase }
    else none
  | .publish latency, .running phase =>
    if run.remote then
      (lastCompleted (s.now - run.start phase - exportLag) (run.interval phase)).map fun index =>
        s.publish phase index latency
    else none
  | .measure elapsed, .running phase =>
    if run.Measures s phase elapsed then some
      { s with
        stage := .joining phase elapsed
        measured := Function.update s.measured phase (some elapsed) }
    else none
  | .publishLast latency, .joining phase elapsed =>
    if run.remote then
      (lastCompleted elapsed (run.interval phase)).map fun index => s.publish phase index latency
    else none
  | .endPhase, .joining phase elapsed =>
    if run.Joined s phase then some
      { s with intervals := s.intervals.endPhase elapsed, stage := .ended phase }
    else none
  | .report slo, .ended phase => some
    { s with
      progress := match s.progress.current.bind PhasePlan.name with
        | some name => s.progress.endPhase name slo
        | none => s.progress
      stage := .ready (phase + 1) }
  | .stop, _ => some { s with stage := .stopped }
  | .finish, .stopped => some { s with intervals := s.intervals.finish s.now }
  | _, _ => none

/-- The next read of a refresh; after the last one, its frame is drawn. -/
def read (s : Watch ι) : Watch ι :=
  match s.reader with
  | .idle => { s with reader := .counters s.counters }
  | .counters counters => { s with reader := .elapsed counters (s.intervals.elapsed s.now) }
  | .elapsed counters runElapsed =>
    { s with
      reader := .clock counters runElapsed (s.intervals.phaseClock (run.stores s.calls) s.now) }
  | .clock counters runElapsed clock =>
    { s with reader := .progress counters runElapsed clock s.progress }
  | .progress counters runElapsed clock progress =>
    { s with
      reader := .interval counters runElapsed clock progress
        (s.intervals.lastCompleted (run.stores s.calls) s.now) }
  | .interval counters runElapsed phaseClock progress lastInterval =>
    let (view, dashboard) := s.dashboard.update
      { counters, runElapsed, phaseClock, progress, lastInterval
        agents := s.board.map AgentBoard.view }
    { s with reader := .idle, dashboard, frames := s.frames ++ [view] }

/-- One access. -/
def step [Fintype ι] (s : Watch ι) : Access ι → Option (Watch ι)
  | .tick time => some { s with now := s.now + time }
  | .count counters => some { s with counters }
  | .record worker micros =>
    if run.mayRecord s (run.phaseOf worker) then some
      { s with calls := s.calls ++ [(worker, .record s.now micros)] }
    else none
  | .flush worker =>
    if run.mayRecord s (run.phaseOf worker) then some
      { s with calls := s.calls ++ [(worker, .flush)] }
    else none
  | .markLost agent => some { s with board := s.board.map fun board => board.markLost agent }
  | .read => some (run.read s)
  | access => run.execute s access s.stage

/-- Before the first phase is announced. -/
def init (_run : WatchedRun ι) (now : Instant) (board : Option AgentBoard) : Watch ι :=
  { now, board }

/-! ## What an access can do -/

/-- The accesses, by who makes them and when. -/
inductive Move (s : Watch ι) : Watch ι → Prop
  | tick (time : Duration) : Move s { s with now := s.now + time }
  | count (counters : LiveSnapshot) : Move s { s with counters }
  | call (worker : ι) (call : IntervalCall) (hmay : run.mayRecord s (run.phaseOf worker) = true) :
    Move s { s with calls := s.calls ++ [(worker, call)] }
  | announce {phase : ℕ} {plan : PhasePlan} (hstage : s.stage = .ready phase)
      (hplan : run.phases[phase]? = some plan) :
    Move s { s with progress := s.progress.beginPhase plan, stage := .announced phase }
  | start {phase : ℕ} (hstage : s.stage = .announced phase) (hnow : s.now = run.start phase) :
    Move s { s with intervals := run.startPhase s phase, stage := .running phase }
  | publish {phase index : ℕ} (latency : IntervalLatency) (hremote : run.remote = true)
      (hstage : s.stage = .running phase)
      (hindex : lastCompleted (s.now - run.start phase - exportLag) (run.interval phase)
        = some index) :
    Move s (s.publish phase index latency)
  | measure {phase : ℕ} {elapsed : Duration} (hstage : s.stage = .running phase)
      (hmeasures : run.Measures s phase elapsed) :
    Move s { s with
      stage := .joining phase elapsed
      measured := Function.update s.measured phase (some elapsed) }
  | publishLast {phase index : ℕ} {elapsed : Duration} (latency : IntervalLatency)
      (hremote : run.remote = true) (hstage : s.stage = .joining phase elapsed)
      (hindex : lastCompleted elapsed (run.interval phase) = some index) :
    Move s (s.publish phase index latency)
  | endPhase {phase : ℕ} {elapsed : Duration} (hstage : s.stage = .joining phase elapsed)
      (hjoined : run.Joined s phase) :
    Move s { s with intervals := s.intervals.endPhase elapsed, stage := .ended phase }
  | report {phase : ℕ} (finished : List FinishedPhase) (hstage : s.stage = .ended phase) :
    Move s { s with
      progress := { s.progress with finished }
      stage := .ready (phase + 1) }
  | stop : Move s { s with stage := .stopped }
  | finish (hstage : s.stage = .stopped) : Move s { s with intervals := s.intervals.finish s.now }
  | markLost (board : Option AgentBoard) : Move s { s with board }
  | read : Move s (run.read s)

variable {run} {s t : Watch ι}

theorem move_of_execute [Fintype ι] {access : Access ι} (h : run.execute s access s.stage = some t) :
    run.Move s t := by
  generalize hstage : s.stage = stage at h
  unfold execute at h
  split at h
  case h_1 phase =>
    obtain ⟨plan, hplan, rfl⟩ := Option.map_eq_some_iff.mp h
    exact .announce hstage hplan
  case h_2 phase =>
    split_ifs at h with hnow
    obtain rfl := Option.some.inj h
    exact .start hstage hnow
  case h_3 latency phase =>
    split_ifs at h with hremote
    obtain ⟨index, hindex, rfl⟩ := Option.map_eq_some_iff.mp h
    exact .publish latency hremote hstage hindex
  case h_4 elapsed phase =>
    split_ifs at h with hmeasures
    obtain rfl := Option.some.inj h
    exact .measure hstage hmeasures
  case h_5 latency phase elapsed =>
    split_ifs at h with hremote
    obtain ⟨index, hindex, rfl⟩ := Option.map_eq_some_iff.mp h
    exact .publishLast latency hremote hstage hindex
  case h_6 phase elapsed =>
    split_ifs at h with hjoined
    obtain rfl := Option.some.inj h
    exact .endPhase hstage hjoined
  case h_7 slo phase =>
    obtain rfl := Option.some.inj h
    cases hname : s.progress.current.bind PhasePlan.name with
    | none => exact .report s.progress.finished hstage
    | some name => exact .report (s.progress.endPhase name slo).finished hstage
  case h_8 =>
    obtain rfl := Option.some.inj h
    exact .stop
  case h_9 =>
    obtain rfl := Option.some.inj h
    exact .finish hstage
  case h_10 => cases h

theorem move_of_step [Fintype ι] {access : Access ι} (h : run.step s access = some t) : run.Move s t := by
  unfold step at h
  split at h
  case h_1 time =>
    obtain rfl := Option.some.inj h
    exact .tick time
  case h_2 counters =>
    obtain rfl := Option.some.inj h
    exact .count counters
  case h_3 worker micros =>
    split_ifs at h with hmay
    obtain rfl := Option.some.inj h
    exact .call worker _ hmay
  case h_4 worker =>
    split_ifs at h with hmay
    obtain rfl := Option.some.inj h
    exact .call worker _ hmay
  case h_5 agent =>
    obtain rfl := Option.some.inj h
    exact .markLost _
  case h_6 =>
    obtain rfl := Option.some.inj h
    exact .read
  case h_7 => exact move_of_execute h

/-- The access by which a coordinator publishes the latency of an interval of
the phase that it runs: one that ended a second ago while the phase runs, and
the last one that ended once it was measured. -/
inductive Publishes (run : WatchedRun ι) (s : Watch ι) : Access ι → Publication → Prop
  | running {phase index : ℕ} (latency : IntervalLatency) (hstage : s.stage = .running phase)
      (hindex : lastCompleted (s.now - run.start phase - exportLag) (run.interval phase)
        = some index) :
    Publishes run s (.publish latency) ⟨phase, index, latency⟩
  | joining {phase index : ℕ} {elapsed : Duration} (latency : IntervalLatency)
      (hstage : s.stage = .joining phase elapsed)
      (hindex : lastCompleted elapsed (run.interval phase) = some index) :
    Publishes run s (.publishLast latency) ⟨phase, index, latency⟩

/-- No other access adds to what was published. -/
theorem publishes_of_step [Fintype ι] {access : Access ι} (h : run.step s access = some t)
    {publication : Publication} (hnew : publication ∉ s.published)
    (hpublished : publication ∈ t.published) : run.Publishes s access publication := by
  have hsame (hsame : t.published = s.published) : run.Publishes s access publication :=
    absurd (hsame ▸ hpublished) hnew
  have hlast {phase index : ℕ} {latency : IntervalLatency}
      (ht : t = s.publish phase index latency) : publication = ⟨phase, index, latency⟩ := by
    rw [ht] at hpublished
    exact List.mem_singleton.mp ((List.mem_append.mp hpublished).resolve_left hnew)
  unfold step at h
  split at h
  case h_1 | h_2 | h_5 => exact hsame (Option.some.inj h ▸ rfl)
  case h_3 | h_4 =>
    split_ifs at h
    exact hsame (Option.some.inj h ▸ rfl)
  case h_6 =>
    refine hsame (Option.some.inj h ▸ ?_)
    unfold read
    cases s.reader <;> rfl
  case h_7 =>
    generalize hstage : s.stage = stage at h
    unfold execute at h
    split at h
    case h_1 =>
      obtain ⟨plan, -, rfl⟩ := Option.map_eq_some_iff.mp h
      exact hsame rfl
    case h_3 =>
      split_ifs at h
      obtain ⟨index, hindex, ht⟩ := Option.map_eq_some_iff.mp h
      exact hlast ht.symm ▸ .running _ hstage hindex
    case h_5 =>
      split_ifs at h
      obtain ⟨index, hindex, ht⟩ := Option.map_eq_some_iff.mp h
      exact hlast ht.symm ▸ .joining _ hstage hindex
    case h_2 | h_4 | h_6 =>
      split_ifs at h
      exact hsame (Option.some.inj h ▸ rfl)
    case h_7 | h_8 | h_9 => exact hsame (Option.some.inj h ▸ rfl)
    case h_10 => cases h

end WatchedRun

/-! ## Where the phases are

Invariants that tie the executor's stage to what the readers see. -/

namespace Watch

variable {ι : Type} (s : Watch ι)

/-- The phase's clock started, and its workers have stopped. -/
def Settled (phase : ℕ) : Prop :=
  phase + 1 < s.intervals.phasesBegun
    ∨ phase + 1 = s.intervals.phasesBegun ∧ s.intervals.Ended

/-- How many phases were registered when the executor is where it is, and
whether the last one is over. -/
def StageSound : Prop :=
  match s.stage with
  | .ready phase | .announced phase =>
    s.intervals.phasesBegun = phase ∧ s.intervals.Ended
  | .running phase => s.intervals.phasesBegun = phase + 1 ∧ ¬ s.intervals.Ended
  | .joining phase elapsed =>
    s.intervals.phasesBegun = phase + 1 ∧ ¬ s.intervals.Ended ∧ s.measured phase = some elapsed
  | .ended phase => s.intervals.phasesBegun = phase + 1 ∧ s.intervals.Ended
  | .stopped => True

end Watch

namespace WatchedRun

variable {ι : Type} [DecidableEq ι] (run : WatchedRun ι)

omit [DecidableEq ι] in
theorem interval_pos (phase : ℕ) : 0 < run.interval phase := by
  unfold interval intervalFor Duration.ofSecs
  positivity

/-- What is registered is what the executor started. -/
structure Registered (s : Watch ι) : Prop where
  stage : s.StageSound
  phase : ∀ phase ∈ s.intervals.phase, phase.seq + 1 = s.intervals.phasesBegun
    ∧ phase.store = phase.seq ∧ phase.basis = run.basis phase.seq
  phaseEnded : ∀ phase ∈ s.intervals.phase, ∀ elapsed ∈ phase.ended,
    s.measured phase.seq = some elapsed
  measured : ∀ phase, ∀ elapsed ∈ s.measured phase, elapsed ≤ s.now - run.start phase
  remote : ∀ remote ∈ s.intervals.remote, remote.seq + 1 = s.intervals.phasesBegun
    ∧ remote.interval = run.interval remote.seq ∧ remote.basis = run.basis remote.seq
  /-- The latency that is shown was published in the phase in progress. -/
  latest : ∀ remote ∈ s.intervals.remote, ∀ latest ∈ remote.latest,
    ⟨remote.seq, latest.1, latest.2⟩ ∈ s.published
  mode : (run.remote = true → s.intervals.phase = none)
    ∧ (run.remote = false → s.intervals.remote = none)
  progress : ∀ plan ∈ s.progress.current, run.phases[plan.index]? = some plan
  announced : 0 < s.intervals.phasesBegun ∨ (∃ phase, s.stage = .announced phase) →
    s.progress.current.isSome
  joined : run.remote = false → ∀ phase, s.Settled phase → run.Joined s phase

variable {run} {s t : Watch ι}

/-- While workers may record, their phase is in progress. -/
theorem Registered.recording (h : run.Registered s) {phase : ℕ}
    (hmay : run.mayRecord s phase = true) :
    run.remote = false ∧ phase + 1 = s.intervals.phasesBegun ∧ ¬ s.intervals.Ended := by
  have hstage := h.stage
  unfold mayRecord at hmay
  obtain ⟨hremote, hmay⟩ := Bool.and_eq_true_iff.mp hmay
  refine ⟨by simpa using hremote, ?_⟩
  unfold Watch.StageSound at hstage
  split at hmay
  case h_1 current heq =>
    rw [heq] at hstage
    obtain rfl := of_decide_eq_true hmay
    exact ⟨hstage.1.symm, hstage.2⟩
  case h_2 current elapsed heq =>
    rw [heq] at hstage
    obtain rfl := of_decide_eq_true hmay
    exact ⟨hstage.1.symm, hstage.2.1⟩
  case h_3 => cases hmay

theorem Registered.not_settled (h : run.Registered s) {phase : ℕ}
    (hmay : run.mayRecord s phase = true) : ¬ s.Settled phase := by
  obtain ⟨-, hbegun, hended⟩ := h.recording hmay
  rintro (hlt | ⟨-, hends⟩)
  · omega
  · exact hended hends

/-- What can come after a moment of a run. -/
structure Later (run : WatchedRun ι) (s t : Watch ι) : Prop where
  now : s.now ≤ t.now
  begun : s.intervals.phasesBegun ≤ t.intervals.phasesBegun
  settled : ∀ phase, s.Settled phase → t.Settled phase
  published : s.published ⊆ t.published
  calls : ∃ more, t.calls = s.calls ++ more ∧ ∀ item ∈ more, ¬ s.Settled (run.phaseOf item.1)

omit [DecidableEq ι] in
theorem Later.of_intervals (h : t.intervals = s.intervals) (hnow : s.now ≤ t.now)
    (hcalls : t.calls = s.calls) (hpublished : t.published = s.published) : run.Later s t where
  now := hnow
  begun := h ▸ le_rfl
  published := hpublished ▸ List.Subset.refl _
  settled phase hsettled := by
    unfold Watch.Settled at hsettled ⊢
    rwa [h]
  calls := ⟨[], by simpa using hcalls, fun _ hitem => absurd hitem List.not_mem_nil⟩

/-- Nothing an access does undoes what was so. -/
theorem Registered.later (h : run.Registered s) (hmove : run.Move s t) : run.Later s t := by
  have hends {intervals : LiveIntervals} {published : List Publication}
      (hbegun : intervals.phasesBegun = s.intervals.phasesBegun)
      (hended : s.intervals.Ended → intervals.Ended) (hpublished : s.published ⊆ published) :
      run.Later s { s with intervals, published } :=
    { now := le_rfl
      published := hpublished
      begun := hbegun.ge
      settled := fun phase hsettled => by
        unfold Watch.Settled at hsettled ⊢
        dsimp only
        rw [hbegun]
        exact hsettled.imp_right (And.imp_right hended)
      calls := ⟨[], (List.append_nil _).symm, fun _ hitem => absurd hitem List.not_mem_nil⟩ }
  -- a call goes to a phase that is not settled; the others end a phase or begin one
  cases hmove with
  | tick time => exact .of_intervals rfl (Nat.le_add_right _ _) rfl rfl
  | count => exact .of_intervals rfl le_rfl rfl rfl
  | call worker call hmay =>
    exact
      { now := le_rfl
        begun := le_rfl
        settled := fun _ hsettled => hsettled
        published := List.Subset.refl _
        calls := ⟨[(worker, call)], rfl, fun item hitem => by
          obtain rfl := List.mem_singleton.mp hitem
          exact h.not_settled hmay⟩ }
  | announce => exact .of_intervals rfl le_rfl rfl rfl
  | @start phase hstage =>
    have hsound := h.stage
    unfold Watch.StageSound at hsound
    rw [hstage] at hsound
    have hbegun : (run.startPhase s phase).phasesBegun = s.intervals.phasesBegun + 1 := by
      unfold startPhase
      split_ifs <;> rfl
    exact
      { now := le_rfl
        begun := by
          dsimp only
          rw [hbegun]
          exact Nat.le_succ _
        settled := fun phase hsettled => by
          refine .inl ?_
          dsimp only
          rw [hbegun]
          rcases hsettled with hlt | ⟨heq, -⟩ <;> omega
        published := List.Subset.refl _
        calls := ⟨[], (List.append_nil _).symm, fun _ hitem => absurd hitem List.not_mem_nil⟩ }
  | publish =>
    exact hends rfl (LiveIntervals.ended_publishRemote _ _).mpr (List.subset_append_left _ _)
  | measure => exact .of_intervals rfl le_rfl rfl rfl
  | publishLast =>
    exact hends rfl (LiveIntervals.ended_publishRemote _ _).mpr (List.subset_append_left _ _)
  | @endPhase phase elapsed =>
    have hlater := hends (Eq.refl (s.intervals.endPhase elapsed).phasesBegun)
      (fun _ => LiveIntervals.ended_endPhase elapsed) (List.Subset.refl s.published)
    exact { hlater with }
  | report => exact .of_intervals rfl le_rfl rfl rfl
  | stop => exact .of_intervals rfl le_rfl rfl rfl
  | finish => exact hends rfl id (List.Subset.refl _)
  | markLost => exact .of_intervals rfl le_rfl rfl rfl
  | read =>
    have hread : (run.read s).intervals = s.intervals ∧ (run.read s).now = s.now
        ∧ (run.read s).calls = s.calls ∧ (run.read s).published = s.published := by
      unfold read
      cases s.reader <;> exact ⟨rfl, rfl, rfl, rfl⟩
    exact .of_intervals hread.1 hread.2.1.ge hread.2.2.1 hread.2.2.2

/-! ## Every run

The invariants are kept by each kind of access, one lemma for each that does
something to them. -/

/-- A call of one worker is not the last one of another. -/
theorem flushedLast_concat {trace : List (ι × IntervalCall)} {item : ι × IntervalCall} {worker : ι}
    (hne : item.1 ≠ worker) (h : FlushedLast trace worker) :
    FlushedLast (trace ++ [item]) worker := by
  unfold FlushedLast at h ⊢
  rwa [List.filter_append, List.filter_cons_of_neg (by simpa using hne), List.filter_nil,
    List.append_nil]

theorem Registered.congr (h : run.Registered s) (hnow : s.now ≤ t.now) (hintervals : t.intervals = s.intervals)
    (hprogress : t.progress.current = s.progress.current) (hmeasured : t.measured = s.measured)
    (hcalls : t.calls = s.calls) (hpublished : t.published = s.published) (hstage : t.StageSound)
    (hannounced : ∀ phase, t.stage = .announced phase → s.stage = .announced phase) :
    run.Registered t where
  stage := hstage
  phase := hintervals ▸ h.phase
  phaseEnded := hintervals ▸ hmeasured ▸ h.phaseEnded
  measured phase elapsed helapsed :=
    (h.measured phase elapsed (hmeasured ▸ helapsed)).trans (Nat.sub_le_sub_right hnow _)
  remote := hintervals ▸ h.remote
  latest := hintervals ▸ hpublished ▸ h.latest
  mode := hintervals ▸ h.mode
  progress := hprogress ▸ h.progress
  announced hbegun := by
    rw [hprogress]
    rw [hintervals] at hbegun
    exact h.announced (hbegun.imp_right fun ⟨phase, heq⟩ => ⟨phase, hannounced phase heq⟩)
  joined hlocal phase hsettled := by
    unfold Watch.Settled at hsettled
    rw [hintervals] at hsettled
    unfold Joined
    rw [hcalls]
    exact h.joined hlocal phase hsettled

theorem Registered.call (h : run.Registered s) {worker : ι} {call : IntervalCall}
    (hmay : run.mayRecord s (run.phaseOf worker) = true) :
    run.Registered { s with calls := s.calls ++ [(worker, call)] } where
  stage := h.stage
  phase := h.phase
  phaseEnded := h.phaseEnded
  measured := h.measured
  remote := h.remote
  latest := h.latest
  mode := h.mode
  progress := h.progress
  announced := h.announced
  joined hlocal phase hsettled other hother := by
    refine flushedLast_concat (fun heq => ?_) (h.joined hlocal phase hsettled other hother)
    obtain rfl : worker = other := heq
    exact h.not_settled hmay (hother ▸ hsettled)

theorem Registered.start (h : run.Registered s) {phase : ℕ} (hstage : s.stage = .announced phase) :
    run.Registered { s with intervals := run.startPhase s phase, stage := .running phase } := by
  have hsound := h.stage
  unfold Watch.StageSound at hsound
  rw [hstage] at hsound
  obtain ⟨hbegun, hended⟩ := hsound
  have hannounced := h.announced (.inr ⟨phase, hstage⟩)
  have hjoined (hlocal : run.remote = false) (other : ℕ)
      (hsettled : other + 1 < s.intervals.phasesBegun + 1) : run.Joined s other := by
    refine h.joined hlocal other ?_
    rcases (Nat.le_of_lt_succ hsettled).lt_or_eq with hlt | heq
    · exact .inl hlt
    · exact .inr ⟨heq, hended⟩
  cases hremote : run.remote with
  | true =>
    have hintervals : run.startPhase s phase
        = s.intervals.beginRemotePhase (run.start phase) (run.interval phase) (run.basis phase) :=
      if_pos hremote
    rw [hintervals]
    exact
      { stage := ⟨congrArg (· + 1) hbegun, LiveIntervals.not_ended_beginRemotePhase _ _ _⟩
        phase := fun _ hphase => absurd hphase (Option.not_mem_none _)
        phaseEnded := fun _ hphase => absurd hphase (Option.not_mem_none _)
        measured := h.measured
        remote := fun remote heq => by
          obtain rfl := Option.some.inj heq
          exact ⟨rfl, congrArg run.interval hbegun.symm, congrArg run.basis hbegun.symm⟩
        -- nothing of the phase before is shown under the number of this one
        latest := fun remote heq latest hlatest => by
          obtain rfl := Option.some.inj heq
          cases hlatest
        mode := ⟨fun _ => rfl, fun hlocal => absurd (hremote.symm.trans hlocal) (by decide)⟩
        progress := h.progress
        announced := fun _ => hannounced
        joined := fun hlocal => absurd (hremote.symm.trans hlocal) (by decide) }
  | false =>
    have hintervals : run.startPhase s phase
        = s.intervals.beginPhase (run.stores s.calls) phase (run.basis phase) :=
      if_neg (by rw [hremote]; decide)
    rw [hintervals]
    have hopen : ¬ (s.intervals.beginPhase (run.stores s.calls) phase (run.basis phase)).Ended :=
      LiveIntervals.not_ended_beginPhase phase _
    exact
      { stage := ⟨congrArg (· + 1) hbegun, hopen⟩
        phase := fun live heq => by
          obtain rfl := Option.some.inj heq
          exact ⟨rfl, hbegun.symm, congrArg run.basis hbegun.symm⟩
        phaseEnded := fun live heq elapsed helapsed => by
          obtain rfl := Option.some.inj heq
          cases helapsed
        measured := h.measured
        remote := fun _ heq => absurd heq (Option.not_mem_none _)
        latest := fun _ heq => absurd heq (Option.not_mem_none _)
        mode := ⟨fun htrue => absurd (hremote.symm.trans htrue) (by decide), fun _ => rfl⟩
        progress := h.progress
        announced := fun _ => hannounced
        joined := fun hlocal other hsettled => by
          rcases hsettled with hlt | ⟨-, hends⟩
          · exact hjoined hlocal other hlt
          · exact absurd hends hopen }

/-- A latency is published while its phase is the one in progress. -/
theorem Registered.publish (h : run.Registered s) {phase : ℕ}
    (hphase : s.intervals.phasesBegun = phase + 1) (index : ℕ) (latency : IntervalLatency) :
    run.Registered (s.publish phase index latency) where
  stage := by
    have hstage := h.stage
    unfold Watch.StageSound at hstage ⊢
    unfold Watch.publish
    dsimp only
    simp only [LiveIntervals.ended_publishRemote]
    exact hstage
  phase := h.phase
  phaseEnded := h.phaseEnded
  measured := h.measured
  remote remote hremote := by
    obtain ⟨before, hbefore, rfl⟩ := Option.map_eq_some_iff.mp hremote
    exact h.remote before hbefore
  latest remote hremote latest hlatest := by
    obtain ⟨before, hbefore, rfl⟩ := Option.map_eq_some_iff.mp hremote
    obtain rfl := Option.some.inj hlatest
    have hseq := (h.remote before hbefore).1
    obtain rfl : before.seq = phase := by omega
    exact List.mem_append_right _ (List.mem_singleton_self _)
  mode := ⟨h.mode.1, fun hlocal => Option.map_eq_none_iff.mpr (h.mode.2 hlocal)⟩
  progress := h.progress
  announced := h.announced
  joined hlocal phase hsettled := by
    unfold Watch.Settled Watch.publish at hsettled
    dsimp only at hsettled
    rw [LiveIntervals.ended_publishRemote] at hsettled
    exact h.joined hlocal phase hsettled

theorem Registered.endPhase (h : run.Registered s) {phase : ℕ} {elapsed : Duration}
    (hstage : s.stage = .joining phase elapsed) (hjoined : run.Joined s phase) :
    run.Registered
      { s with intervals := s.intervals.endPhase elapsed, stage := .ended phase } := by
  have hsound := h.stage
  unfold Watch.StageSound at hsound
  rw [hstage] at hsound
  obtain ⟨hbegun, -, hmeasured⟩ := hsound
  exact
    { stage := ⟨hbegun, LiveIntervals.ended_endPhase elapsed⟩
      phase := fun live hlive => by
        obtain ⟨before, hbefore, rfl⟩ := Option.map_eq_some_iff.mp hlive
        exact h.phase before hbefore
      phaseEnded := fun live hlive time htime => by
        obtain ⟨before, hbefore, rfl⟩ := Option.map_eq_some_iff.mp hlive
        obtain rfl := Option.some.inj htime
        have hseq := (h.phase before hbefore).1
        obtain rfl : before.seq = phase := by omega
        exact hmeasured
      measured := h.measured
      remote := fun remote hremote => by
        obtain ⟨before, hbefore, rfl⟩ := Option.map_eq_some_iff.mp hremote
        exact h.remote before hbefore
      latest := fun remote hremote => by
        obtain ⟨before, hbefore, rfl⟩ := Option.map_eq_some_iff.mp hremote
        exact h.latest before hbefore
      mode := ⟨fun hremote => Option.map_eq_none_iff.mpr (h.mode.1 hremote),
        fun hlocal => Option.map_eq_none_iff.mpr (h.mode.2 hlocal)⟩
      progress := h.progress
      announced := fun _ => h.announced (.inl (hbegun ▸ Nat.succ_pos phase))
      joined := fun hlocal other hsettled => by
        rcases hsettled with hlt | ⟨heq, -⟩
        · exact h.joined hlocal other (.inl hlt)
        · obtain rfl : other = phase := by
            have hsame : other + 1 = phase + 1 := heq.trans hbegun
            omega
          exact hjoined }

theorem Registered.measure (h : run.Registered s) {phase : ℕ} {elapsed : Duration}
    (hstage : s.stage = .running phase) (hmeasures : run.Measures s phase elapsed) :
    run.Registered { s with
      stage := .joining phase elapsed
      measured := Function.update s.measured phase (some elapsed) } := by
  have hsound := h.stage
  unfold Watch.StageSound at hsound
  rw [hstage] at hsound
  obtain ⟨hbegun, hopen⟩ := hsound
  exact
    { h with
      stage := ⟨hbegun, hopen, Function.update_self _ _ _⟩
      phaseEnded := fun live hlive time htime => by
        -- the phase in progress is not ended, so nothing is said of it yet
        refine absurd ⟨fun other hother => ?_, fun remote hremote => ?_⟩ hopen
        · obtain rfl := Option.mem_unique hlive hother
          rw [htime]
          exact Option.some_ne_none time
        · cases hmode : run.remote with
          | true =>
            rw [h.mode.1 hmode] at hlive
            cases hlive
          | false =>
            rw [h.mode.2 hmode] at hremote
            cases hremote
      measured := fun other time htime => by
        dsimp only at htime
        by_cases hother : other = phase
        · subst hother
          rw [Function.update_self] at htime
          obtain rfl := Option.some.inj htime
          exact hmeasures.1
        · rw [Function.update_of_ne hother] at htime
          exact h.measured other time htime
      announced := fun _ => h.announced (.inl (hbegun ▸ Nat.succ_pos phase)) }

/-- **Every access keeps what is registered in order.** -/
theorem Registered.move (h : run.Registered s) (hmove : run.Move s t) : run.Registered t := by
  have hsound := h.stage
  cases hmove with
  | tick => exact h.congr (Nat.le_add_right _ _) rfl rfl rfl rfl rfl h.stage fun _ heq => heq
  | count => exact h.congr le_rfl rfl rfl rfl rfl rfl h.stage fun _ heq => heq
  | call worker call hmay => exact h.call hmay
  | announce hstage hplan =>
    unfold Watch.StageSound at hsound
    rw [hstage] at hsound
    exact
      { h with
        stage := hsound
        progress := fun plan heq => by
          obtain rfl := Option.some.inj heq
          rw [run.numbered _ _ hplan]
          exact hplan
        announced := fun _ => rfl }
  | start hstage => exact h.start hstage
  | publish latency hremote hstage =>
    unfold Watch.StageSound at hsound
    rw [hstage] at hsound
    exact h.publish hsound.1 _ latency
  | measure hstage hmeasures => exact h.measure hstage hmeasures
  | publishLast latency hremote hstage =>
    unfold Watch.StageSound at hsound
    rw [hstage] at hsound
    exact h.publish hsound.1 _ latency
  | endPhase hstage hjoined => exact h.endPhase hstage hjoined
  | report finished hstage =>
    unfold Watch.StageSound at hsound
    rw [hstage] at hsound
    exact h.congr le_rfl rfl rfl rfl rfl rfl hsound fun _ heq => by cases heq
  | stop => exact h.congr le_rfl rfl rfl rfl rfl rfl trivial fun _ heq => by cases heq
  | finish hstage =>
    have hover : Watch.StageSound { s with intervals := s.intervals.finish s.now } := by
      unfold Watch.StageSound
      rw [hstage]
      trivial
    exact { h with stage := hover }
  | markLost => exact h.congr le_rfl rfl rfl rfl rfl rfl h.stage fun _ heq => heq
  | read =>
    unfold read
    cases s.reader <;> exact h.congr le_rfl rfl rfl rfl rfl rfl h.stage fun _ heq => heq

theorem registered_init (now : Instant) (board : Option AgentBoard) :
    run.Registered (run.init now board) where
  stage := ⟨rfl, fun _ hphase => absurd hphase (Option.not_mem_none _),
    fun _ hremote => absurd hremote (Option.not_mem_none _)⟩
  phase _ hphase := absurd hphase (Option.not_mem_none _)
  phaseEnded _ hphase := absurd hphase (Option.not_mem_none _)
  measured _ _ helapsed := absurd helapsed (Option.not_mem_none _)
  remote _ hremote := absurd hremote (Option.not_mem_none _)
  latest _ hremote := absurd hremote (Option.not_mem_none _)
  mode := ⟨fun _ => rfl, fun _ => rfl⟩
  progress _ hplan := absurd hplan (Option.not_mem_none _)
  announced := by
    rintro (hpos | ⟨phase, hstage⟩)
    · exact absurd hpos (lt_irrefl 0)
    · cases hstage
  joined _ _ _ _ _ := fun _ hitem => absurd hitem (by simp [init])

end WatchedRun

end WsBlast
