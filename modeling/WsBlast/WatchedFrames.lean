import WsBlast.WatchedRun

/-!
# A frame shows one phase

A refresh reads the clock, the progress and the last interval one after the
other, and each may change in between: a phase may end, the next one may be
announced, its clock may start. What was read stays true of the phase it is
about (`ClockOf.later`, `Shows.later`), and the dashboard puts together only
what has the number of the phase that was announced. So a frame with
percentiles shows the phase they are of, and they are those of samples that
the phase's workers recorded in an interval that is over; of all of them once
the phase has ended (`frames_show_one_phase`).

Locks are taken one at a time, so a refresh sees no single moment of the run.
Two things make frames consistent nevertheless. Facts about a phase stay true
once they are: that it was started, that its interval is over, which samples
were recorded in it by some moment. And every answer carries the number of its
phase, so that answers about different phases are not combined.
-/

namespace WsBlast

/-! ## What a store shows while workers hold samples back

Between what was recorded and what is shown are the recorders of the workers. -/

/-- The latency of some samples. -/
def IntervalLatency.ofSamples (samples : Multiset ℕ) : IntervalLatency :=
  .fromHistogram (some (IntervalHistogram.ofValues samples))

theorem IntervalLatency.ofSamples_zero : ofSamples 0 = {} := by
  show fromHistogram (some (IntervalHistogram.ofValues 0)) = {}
  rw [IntervalHistogram.ofValues_zero]
  unfold fromHistogram
  exact if_pos Hdr.Hist.total_zero

section HandedOver

variable {ι : Type} [DecidableEq ι] [Fintype ι] {interval : StoreId → Duration}

/-- A store has some of the samples that were recorded in an interval, and all
of them once the workers that record into it have flushed. -/
theorem latencyOf_handedOver (store : ι → StoreId) (start : StoreId → Instant)
    (hinterval : ∀ s, 0 < interval s) (trace : List (ι × IntervalCall)) (s : StoreId)
    (bucket : ℕ) :
    ∃ held ≤ recordedIn store start interval trace s bucket,
      (((IntervalRun.new store start interval).after trace).stores s).latencyOf bucket
        = .ofSamples held
      ∧ ((∀ worker, store worker = s → FlushedLast trace worker) →
        held = recordedIn store start interval trace s bucket) := by
  have haccounts := IntervalRun.accounts_after
    (IntervalRun.accounts_new store start interval) trace
  obtain ⟨held, hheld, htotal⟩ := haccounts.holds
  have hrecorded : held s bucket
      + (∑ w, (((IntervalRun.new store start interval).after trace).recorders w).pending) s bucket
        = recordedIn store start interval trace s bucket := by
    rw [← IntervalRun.sum_given hinterval, ← zero_add (trace.map _).sum, ← htotal]
    rfl
  refine ⟨held s bucket, hrecorded ▸ Multiset.le_add_right _ _, ?_, fun hflushed => ?_⟩
  · unfold IntervalStore.latencyOf
    rw [hheld s bucket]
    by_cases hzero : held s bucket = 0
    · rw [if_pos hzero, hzero, IntervalLatency.ofSamples_zero]
      rfl
    · rw [if_neg hzero]
      rfl
  · have hpending : (∑ w, (((IntervalRun.new store start interval).after trace).recorders
        w).pending) s bucket = 0 := by
      rw [Finset.sum_apply, Finset.sum_apply]
      refine Finset.sum_eq_zero fun w _ => ?_
      unfold IntervalRecorder.pending
      rw [(haccounts.worker w).1]
      by_cases hw : store w = s
      · rw [IntervalRun.samples_of_flushed (hflushed w hw), Multiset.coe_nil, Contents.single_zero]
        rfl
      · unfold Contents.single
        rw [Pi.single_eq_of_ne (Ne.symm hw)]
        rfl
    rw [← hrecorded, hpending, add_zero]

end HandedOver

namespace WatchedRun

variable {ι : Type} (run : WatchedRun ι)

/-- The samples recorded so far in an interval of a phase. -/
def recorded (s : Watch ι) (phase index : ℕ) : Multiset ℕ :=
  recordedIn run.phaseOf run.start run.interval s.calls phase index

/-! ## What is read, and stays true

Facts about answers, each with a lemma that later moments keep it. -/

/-- The clock of a phase that was started. -/
structure ClockOf (s : Watch ι) (clock : PhaseClock) : Prop where
  begun : clock.seq < s.intervals.phasesBegun
  interval : clock.interval = run.interval clock.seq
  settled : clock.ended = true → s.Settled clock.seq

/-- The latency of an interval of a phase that was started; `ended` says that
the phase had ended when it was read. -/
structure Shows (s : Watch ι) (completed : CompletedInterval) (ended : Prop) : Prop where
  begun : completed.phase < s.intervals.phasesBegun
  basis : completed.basis = run.basis completed.phase
  settled : ended → s.Settled completed.phase
  complete : run.remote = false →
    (completed.index + 1) * run.interval completed.phase ≤ s.now - run.start completed.phase
  samples : run.remote = false → ∃ held ≤ run.recorded s completed.phase completed.index,
    completed.latency = .ofSamples held
      ∧ (ended → held = run.recorded s completed.phase completed.index)
  published : run.remote = true → completed.publication ∈ s.published

variable {run} {s t : Watch ι}

theorem Later.recorded_le (h : run.Later s t) (phase index : ℕ) :
    run.recorded s phase index ≤ run.recorded t phase index := by
  obtain ⟨more, hcalls, -⟩ := h.calls
  unfold recorded recordedIn
  rw [hcalls, List.filterMap_append, ← Multiset.coe_add]
  exact Multiset.le_add_right _ _

/-- Nothing is recorded in a phase whose workers have stopped. -/
theorem Later.recorded_eq (h : run.Later s t) {phase : ℕ} (hsettled : s.Settled phase)
    (index : ℕ) : run.recorded t phase index = run.recorded s phase index := by
  obtain ⟨more, hcalls, hmore⟩ := h.calls
  unfold recorded recordedIn
  rw [hcalls, List.filterMap_append]
  convert congrArg (Multiset.ofList) (List.append_nil _) using 3
  refine List.filterMap_eq_nil_iff.mpr fun item hitem => ?_
  have hne : run.phaseOf item.1 ≠ phase := fun heq => hmore item hitem (heq ▸ hsettled)
  cases item.2 with
  | flush => rfl
  | record now micros => exact if_neg fun hin => hne hin.1

theorem ClockOf.later {clock : PhaseClock} (h : run.ClockOf s clock) (hlater : run.Later s t) :
    run.ClockOf t clock where
  begun := h.begun.trans_le hlater.begun
  interval := h.interval
  settled hended := hlater.settled _ (h.settled hended)

theorem Shows.later {completed : CompletedInterval} {ended : Prop}
    (h : run.Shows s completed ended) (hlater : run.Later s t) : run.Shows t completed ended where
  begun := h.begun.trans_le hlater.begun
  basis := h.basis
  settled hended := hlater.settled _ (h.settled hended)
  complete hlocal := (h.complete hlocal).trans (Nat.sub_le_sub_right hlater.now _)
  samples hlocal := by
    obtain ⟨held, hheld, hlatency, hended⟩ := h.samples hlocal
    refine ⟨held, hheld.trans (hlater.recorded_le _ _), hlatency, fun hends => ?_⟩
    rw [hlater.recorded_eq (h.settled hends)]
    exact hended hends
  published hremote := hlater.published (h.published hremote)

/-- What a refresh holds is true of the run. -/
def Held (run : WatchedRun ι) (s : Watch ι) : Reader → Prop
  | .idle | .counters _ | .elapsed _ _ => True
  | .clock _ _ clock => ∀ k ∈ clock, run.ClockOf s k
  | .progress _ _ clock progress =>
    (∀ k ∈ clock, run.ClockOf s k ∧ progress.current.isSome)
      ∧ ∀ plan ∈ progress.current, run.phases[plan.index]? = some plan
  | .interval _ _ clock progress last =>
    (∀ k ∈ clock, run.ClockOf s k ∧ progress.current.isSome)
      ∧ (∀ plan ∈ progress.current, run.phases[plan.index]? = some plan)
      ∧ ∀ completed ∈ last,
        run.Shows s completed (∃ k ∈ clock, k.ended = true ∧ k.seq = completed.phase)

theorem Held.later {reader : Reader} (h : run.Held s reader) (hlater : run.Later s t) :
    run.Held t reader := by
  cases reader with
  | idle => trivial
  | counters => trivial
  | elapsed => trivial
  | clock => exact fun k hk => (h k hk).later hlater
  | progress => exact ⟨fun k hk => ⟨(h.1 k hk).1.later hlater, (h.1 k hk).2⟩, h.2⟩
  | interval =>
    exact ⟨fun k hk => ⟨(h.1 k hk).1.later hlater, (h.1 k hk).2⟩, h.2.1,
      fun completed hlast => (h.2.2 completed hlast).later hlater⟩

variable [DecidableEq ι] [Fintype ι]

theorem interval_stores (run : WatchedRun ι) (calls : List (ι × IntervalCall)) (phase : ℕ) :
    (run.stores calls phase).start = run.start phase
      ∧ (run.stores calls phase).interval = run.interval phase :=
  (IntervalRun.accounts_after (IntervalRun.accounts_new _ _ _) calls).clock phase

/-- The clock that is read is that of the phase in progress. -/
theorem Registered.clockOf (h : run.Registered s) {clock : PhaseClock}
    (hclock : s.intervals.phaseClock (run.stores s.calls) s.now = some clock) :
    run.ClockOf s clock := by
  unfold LiveIntervals.phaseClock at hclock
  cases hremote : s.intervals.remote with
  | some remote =>
    rw [hremote] at hclock
    obtain rfl := Option.some.inj hclock
    obtain ⟨hseq, hinterval, -⟩ := h.remote remote hremote
    refine ⟨by rw [← hseq]; exact Nat.lt_succ_self _, hinterval, fun hended => .inr ⟨hseq, ?_⟩⟩
    have hmode : run.remote = true := by
      by_contra hlocal
      rw [h.mode.2 (by simpa using hlocal)] at hremote
      cases hremote
    refine ⟨fun phase hphase => ?_, fun other hother => ?_⟩
    · rw [h.mode.1 hmode] at hphase
      cases hphase
    · obtain rfl := Option.mem_unique hremote hother
      exact Option.isSome_iff_ne_none.mp hended
  | none =>
    rw [hremote] at hclock
    obtain ⟨live, hlive, rfl⟩ := Option.map_eq_some_iff.mp hclock
    obtain ⟨hseq, hstore, -⟩ := h.phase live hlive
    refine ⟨by rw [← hseq]; exact Nat.lt_succ_self _, ?_, fun hended => .inr ⟨hseq, ?_⟩⟩
    · rw [hstore]
      exact (run.interval_stores s.calls live.seq).2
    · refine ⟨fun other hother => ?_, fun remote hother => ?_⟩
      · obtain rfl := Option.mem_unique hlive hother
        exact Option.isSome_iff_ne_none.mp hended
      · rw [hremote] at hother
        cases hother

/-- The last interval that is read is one of the phase in progress. -/
theorem Registered.shows (h : run.Registered s) {completed : CompletedInterval}
    (hcompleted : s.intervals.lastCompleted (run.stores s.calls) s.now = some completed) :
    run.Shows s completed (s.Settled completed.phase) := by
  unfold LiveIntervals.lastCompleted at hcompleted
  cases hremote : s.intervals.remote with
  | some remote =>
    rw [hremote] at hcompleted
    obtain ⟨latest, hlatest, rfl⟩ := Option.map_eq_some_iff.mp hcompleted
    obtain ⟨hseq, -, hbasis⟩ := h.remote remote hremote
    have hlocal : run.remote ≠ false := fun hlocal => by
      rw [h.mode.2 hlocal] at hremote
      cases hremote
    exact
      { begun := by rw [← hseq]; exact Nat.lt_succ_self _
        basis := hbasis
        settled := id
        complete := fun hfalse => absurd hfalse hlocal
        samples := fun hfalse => absurd hfalse hlocal
        published := fun _ => h.latest remote hremote latest hlatest }
  | none =>
    rw [hremote] at hcompleted
    obtain ⟨live, hlive, hcompleted⟩ := Option.bind_eq_some_iff.mp hcompleted
    obtain ⟨index, hindex, hcompleted⟩ := Option.bind_eq_some_iff.mp hcompleted
    obtain rfl := Option.some.inj hcompleted
    obtain ⟨hseq, hstore, hbasis⟩ := h.phase live hlive
    rw [hstore] at hindex ⊢
    obtain ⟨hstart, hinterval⟩ := run.interval_stores s.calls live.seq
    rw [hstart, hinterval] at hindex
    exact
      { begun := by rw [← hseq]; exact Nat.lt_succ_self _
        basis := hbasis
        settled := id
        complete := fun _ => by
          refine (lastCompleted_eq_some (run.interval_pos _) hindex).1.trans ?_
          cases hended : live.ended with
          | none => exact le_rfl
          | some elapsed => exact h.measured _ _ (h.phaseEnded live hlive elapsed hended)
        samples := fun hlocal => by
          obtain ⟨held, hheld, hlatency, hflushed⟩ :=
            latencyOf_handedOver run.phaseOf run.start run.interval_pos s.calls live.seq index
          exact ⟨held, hheld, hlatency, fun hsettled => hflushed (h.joined hlocal _ hsettled)⟩
        published := fun hmode => by
          rw [h.mode.1 hmode] at hlive
          cases hlive }

/-- A read is true of the run, and so is what was read before. -/
theorem Held.read (h : run.Held s s.reader) (hregistered : run.Registered s) :
    run.Held (run.read s) (run.read s).reader := by
  have hkept := h.later (hregistered.later .read)
  unfold WatchedRun.read at hkept ⊢
  cases hreader : s.reader with
  | idle => trivial
  | counters => trivial
  | elapsed =>
    rw [hreader] at hkept
    exact fun k hk => { hregistered.clockOf hk with }
  | clock counters runElapsed clock =>
    rw [hreader] at hkept
    refine ⟨fun k hk => ⟨hkept k hk, hregistered.announced (.inl ?_)⟩, hregistered.progress⟩
    exact (Nat.zero_le _).trans_lt (hkept k hk).begun
  | progress counters runElapsed clock progress =>
    rw [hreader] at hkept
    refine ⟨hkept.1, hkept.2, fun completed hlast => ?_⟩
    have hshows := hregistered.shows hlast
    have hsettled : (∃ k ∈ clock, k.ended = true ∧ k.seq = completed.phase) →
        s.Settled completed.phase := by
      rintro ⟨k, hk, hended, hseq⟩
      exact hseq ▸ (hkept.1 k hk).1.settled hended
    exact
      { begun := hshows.begun
        basis := hshows.basis
        settled := hsettled
        complete := hshows.complete
        samples := fun hlocal => by
          obtain ⟨held, hheld, hlatency, hall⟩ := hshows.samples hlocal
          exact ⟨held, hheld, hlatency, fun hends => hall (hsettled hends)⟩
        published := hshows.published }
  | interval => trivial

/-! ## What is drawn

What a refresh holds at its end, put together into a frame. -/

variable (run) in
/-- A frame shows the latency of an interval of a phase, under that phase's
name and against its thresholds. -/
structure FrameOf (s : Watch ι) (view : DashboardView) (plan : PhasePlan)
    (completed : CompletedInterval) : Prop where
  planned : run.phases[completed.phase]? = some plan
  phase : ∃ shown, view.phase = some shown ∧ shown.number = completed.phase + 1
    ∧ shown.name = plan.name ∧ shown.starting = false
  latency : view.latency
    = .ofInterval completed.basis (run.interval completed.phase) completed.latency
  slo : view.slo = sloRows plan.thresholds.2 view.latency view.window
  shows : run.Shows s completed (view.targetConnections = none)

omit [DecidableEq ι] [Fintype ι] in
theorem FrameOf.later {view : DashboardView} {plan : PhasePlan} {completed : CompletedInterval}
    (h : run.FrameOf s view plan completed) (hlater : run.Later s t) :
    run.FrameOf t view plan completed :=
  { h with shows := h.shows.later hlater }

omit [DecidableEq ι] [Fintype ι] in
/-- The percentiles of a single run are all under its one plan, which has the
run's thresholds and no name. -/
theorem FrameOf.ofConfig {config : LoadTestConfig} {slo : SloThresholds} {start : Instant}
    {remote : Bool} {view : DashboardView} {plan : PhasePlan} {completed : CompletedInterval}
    (h : (WatchedRun.ofConfig config slo start remote : WatchedRun ι).FrameOf s view plan
      completed) :
    completed.phase = 0 ∧ plan = PhasePlan.forRun config slo := by
  obtain ⟨hlt, hplan⟩ := List.getElem?_eq_some_iff.mp h.planned
  have hzero : completed.phase = 0 := Nat.lt_one_iff.mp hlt
  refine ⟨hzero, hplan.symm.trans ?_⟩
  simp only [WatchedRun.ofConfig, List.getElem_singleton]

omit [DecidableEq ι] [Fintype ι] in
/-- Those of a scenario are under the plan of one of its phases, which has the
phase's own thresholds and name. -/
theorem FrameOf.ofScenario {phases : List CompiledPhase} {base : LoadTestConfig}
    {slo : SloThresholds} {start : ℕ → Instant} {remote : Bool} {phaseOf : ι → ℕ}
    {view : DashboardView} {plan : PhasePlan} {completed : CompletedInterval}
    (h : (WatchedRun.ofScenario phases base slo start remote phaseOf).FrameOf s view plan
      completed) :
    ∃ phase, phases[completed.phase]? = some phase
      ∧ plan = PhasePlan.ofPhase phases slo completed.phase phase := by
  have hplanned := h.planned
  rw [WatchedRun.ofScenario, List.getElem?_mapIdx] at hplanned
  obtain ⟨phase, hphase, hplan⟩ := Option.map_eq_some_iff.mp hplanned
  exact ⟨phase, hphase, hplan.symm⟩

omit [DecidableEq ι] [Fintype ι] in
/-- What a refresh puts together is of one phase. -/
theorem frameOf_update {source : DashboardSource}
    (hclock : ∀ k ∈ source.phaseClock, run.ClockOf s k ∧ source.progress.current.isSome)
    (hprogress : ∀ plan ∈ source.progress.current, run.phases[plan.index]? = some plan)
    (hlast : ∀ completed ∈ source.lastInterval,
      run.Shows s completed (∃ k ∈ source.phaseClock, k.ended = true ∧ k.seq = completed.phase))
    (dashboard : Dashboard) {count : ℕ}
    (hcount : (dashboard.update source).1.latency.samples = some count) :
    ∃ plan completed, run.FrameOf s (dashboard.update source).1 plan completed := by
  cases hcompleted : source.completed with
  | none =>
    have hnone : source.latencyView.samples = none := by
      unfold DashboardSource.latencyView
      rw [hcompleted]
    cases hnone.symm.trans hcount
  | some completed =>
    obtain ⟨clock, hcurrent, hfilter⟩ := Option.bind_eq_some_iff.mp hcompleted
    obtain ⟨hread, hphase⟩ := Option.filter_eq_some_iff.mp hfilter
    obtain ⟨hregistered, hseq⟩ := Option.filter_eq_some_iff.mp hcurrent
    obtain ⟨hof, hannounced⟩ := hclock clock hregistered
    obtain ⟨plan, hplan⟩ := Option.isSome_iff_exists.mp hannounced
    rw [hplan, Option.all_some] at hseq
    -- the plan, the clock and the interval that are combined have one number
    have hindex : plan.index = completed.phase :=
      ((of_decide_eq_true hphase).trans (of_decide_eq_true hseq)).symm
    have hinterval : source.interval = run.interval completed.phase := by
      unfold DashboardSource.interval
      rw [hregistered, Option.elim_some, hof.interval, of_decide_eq_true hphase]
    have hlatency : source.latencyView
        = .ofInterval completed.basis (run.interval completed.phase) completed.latency := by
      unfold DashboardSource.latencyView
      rw [hcompleted, ← hinterval]
    have hended : source.target.1 = none → clock.ended = true := by
      intro hnone
      by_contra hopen
      unfold DashboardSource.target at hnone
      rw [hplan, hcurrent] at hnone
      dsimp only at hnone
      rw [if_neg hopen] at hnone
      cases hnone
    have hshows := hlast completed hread
    refine ⟨plan, completed,
      { planned := hindex ▸ hprogress plan hplan
        phase := ?_
        latency := hlatency
        slo := ?_
        shows := ?_ }⟩
    · refine ⟨_, congrArg (Option.map _) hplan, congrArg (· + 1) hindex, rfl, ?_⟩
      rw [hcurrent]
      rfl
    · show sloRows source.thresholds.2 _ _ = _
      unfold DashboardSource.thresholds
      rw [hplan]
      rfl
    · exact
        { begun := hshows.begun
          basis := hshows.basis
          settled := fun hnone => hshows.settled
            ⟨clock, hregistered, hended hnone, (of_decide_eq_true hphase).symm⟩
          complete := hshows.complete
          samples := fun hlocal => by
            obtain ⟨held, hheld, heq, hall⟩ := hshows.samples hlocal
            exact ⟨held, hheld, heq, fun hnone => hall
              ⟨clock, hregistered, hended hnone, (of_decide_eq_true hphase).symm⟩⟩
          published := hshows.published }

variable (run) in
/-- What holds of every moment of a watched run. -/
structure Watched (s : Watch ι) : Prop where
  registered : run.Registered s
  held : run.Held s s.reader
  frames : ∀ view ∈ s.frames, ∀ count, view.latency.samples = some count →
    ∃ plan completed, run.FrameOf s view plan completed

theorem Watched.move (h : run.Watched s) (hmove : run.Move s t) : run.Watched t := by
  have hlater := h.registered.later hmove
  have hsame (hreader : t.reader = s.reader) (hframes : t.frames = s.frames) : run.Watched t :=
    { registered := h.registered.move hmove
      held := hreader ▸ h.held.later hlater
      frames := fun view hview count hcount => by
        obtain ⟨plan, completed, hof⟩ := h.frames view (hframes ▸ hview) count hcount
        exact ⟨plan, completed, hof.later hlater⟩ }
  cases hmove with
  | read =>
    refine ⟨h.registered.move .read, h.held.read h.registered, fun view hview count hcount => ?_⟩
    have hbefore (hmem : view ∈ s.frames) : ∃ plan completed,
        run.FrameOf (run.read s) view plan completed := by
      obtain ⟨plan, completed, hof⟩ := h.frames view hmem count hcount
      exact ⟨plan, completed, hof.later hlater⟩
    have hheld := h.held
    cases hreader : s.reader with
    | interval counters runElapsed clock progress last =>
      rw [hreader] at hheld
      have hframes : (run.read s).frames = s.frames ++ [(s.dashboard.update
          { counters, runElapsed, phaseClock := clock, progress, lastInterval := last
            agents := s.board.map AgentBoard.view }).1] := by
        unfold WatchedRun.read
        rw [hreader]
      rw [hframes] at hview
      rcases List.mem_append.mp hview with hmem | hnew
      · exact hbefore hmem
      · obtain rfl := List.mem_singleton.mp hnew
        obtain ⟨plan, completed, hof⟩ := frameOf_update hheld.1 hheld.2.1 hheld.2.2 _ hcount
        exact ⟨plan, completed, hof.later hlater⟩
    | idle | counters | elapsed | clock | progress =>
      refine hbefore ?_
      unfold WatchedRun.read at hview
      rw [hreader] at hview
      exact hview
  | tick | count | call | announce | start | publish | measure | publishLast | endPhase | report
    | stop | finish | markLost => exact hsame rfl rfl

theorem watched_run {now : Instant} {board : Option AgentBoard} {accesses : List (Access ι)}
    (hrun : Machine.run run.step (run.init now board) accesses = some s) : run.Watched s :=
  Machine.run_inv (fun h hstep => h.move (move_of_step hstep))
    { registered := registered_init now board
      held := trivial
      frames := fun _ hview => absurd hview List.not_mem_nil } hrun

variable (run) in
/-- In a run, the coordinator published a latency, by an access it made while
it ran the phase: `mid` is the moment of that access. -/
def PublishedIn (now : Instant) (board : Option AgentBoard) (accesses : List (Access ι))
    (publication : Publication) : Prop :=
  ∃ before access after mid, accesses = before ++ access :: after
    ∧ Machine.run run.step (run.init now board) before = some mid
    ∧ run.Publishes mid access publication

theorem publishedIn_of_mem {now : Instant} {board : Option AgentBoard}
    {accesses : List (Access ι)}
    (hrun : Machine.run run.step (run.init now board) accesses = some s)
    {publication : Publication} (hmem : publication ∈ s.published) :
    run.PublishedIn now board accesses publication := by
  obtain ⟨before, access, after, mid, next, rfl, hbefore, hstep, hnew, hnext⟩ :=
    Machine.exists_step (P := fun s => publication ∈ s.published)
      (List.not_mem_nil (a := publication)) hmem hrun
  exact ⟨before, access, after, mid, rfl, hbefore, publishes_of_step hstep hnew hnext⟩

/-- **A frame shows one phase**: whatever comes between its reads, percentiles
are shown under the name and number of the phase they are of, against its
thresholds. On one machine they are those of samples its workers recorded in
an interval that is over, and of every one of them, as the report's, when the
phase has ended. For a coordinator they are those it published for an interval
of that phase while it ran it. -/
theorem frames_show_one_phase (run : WatchedRun ι) {now : Instant} {board : Option AgentBoard}
    {accesses : List (Access ι)} {s : Watch ι}
    (hrun : Machine.run run.step (run.init now board) accesses = some s)
    {view : DashboardView} (hview : view ∈ s.frames) {count : ℕ}
    (hcount : view.latency.samples = some count) :
    ∃ plan completed, run.FrameOf s view plan completed
      ∧ (run.remote = true → run.PublishedIn now board accesses completed.publication) := by
  obtain ⟨plan, completed, hof⟩ := (watched_run hrun).frames view hview count hcount
  exact ⟨plan, completed, hof,
    fun hremote => publishedIn_of_mem hrun (hof.shows.published hremote)⟩

/-! ### A scenario of two phases

A run on one machine and one on agents through the same two phases, with a
refresh between any two things that happen. -/

/-- A phase that holds its connections for a time. -/
def heldPhase (name : String) (duration : Duration) : CompiledPhase where
  name := name
  thinkTime := 0
  actions := []
  vars := []
  duration := duration
  connections := 1
  rampRate := 0
  ratePerConn := 0
  payload := none
  actionNames := []
  slo := {}
  stages := []
  arrivals := none
  chaos := none

/-- Two phases of two and three seconds, with one worker each; the second one
starts half a second after the first one has ended. -/
def twoPhases (remote : Bool) : WatchedRun Bool :=
  .ofScenario [heldPhase "sign in" (Duration.ofSecs 2), heldPhase "steady" (Duration.ofSecs 3)]
    (LoadTestConfig.defaults "ws://127.0.0.1:9001/") {}
    (fun phase => phase * Duration.ofMillis 2500) remote Bool.toNat

/-- All reads of a refresh. -/
def refresh : List (Access Bool) := List.replicate 6 .read

/-- A worker records once in a second, has sent some messages by its end, and
the dashboard refreshes. -/
def watchedSecond (worker : Bool) (micros sent : ℕ) : List (Access Bool) :=
  [.record worker micros, .flush worker, .count { messagesSent := sent },
    .tick (Duration.ofSecs 1)] ++ refresh

/-- The first phase ends, and the dashboard refreshes before the clock of the
next one starts. -/
def nextPhase (last : List (Access Bool)) : List (Access Bool) :=
  [.measure (Duration.ofSecs 2)] ++ last ++ [.endPhase, .report .empty, .announce]
    ++ refresh ++ [.tick (Duration.ofMillis 500), .start]

/-- The accesses of a run on one machine. -/
def localAccesses : List (Access Bool) :=
  [.announce, .start] ++ refresh ++ watchedSecond false 850 10 ++ watchedSecond false 900 30
    ++ nextPhase [] ++ watchedSecond true 400 60 ++ watchedSecond true 420 100

/-- What two agents measured, merged. -/
def merged (micros : ℕ) : IntervalLatency :=
  { count := 2, p50Us := micros, p90Us := micros, p99Us := micros, maxUs := micros }

/-- The accesses of a coordinator, which publishes both intervals of the first
phase and the first one of the second. -/
def remoteAccesses : List (Access Bool) :=
  [.announce, .start, .tick (Duration.ofSecs 2), .publish (merged 850)] ++ refresh
    ++ nextPhase (.publishLast (merged 900) :: refresh) ++ refresh
    ++ [.tick (Duration.ofSecs 2), .publish (merged 400)] ++ refresh

/-- The agents of the coordinator's run; a run on one machine has none. -/
def agents (remote : Bool) : Option AgentBoard :=
  if remote then some (.new ["10.0.0.1:7878", "10.0.0.2:7878"]) else none

/-- The accesses of either run. -/
def accesses (remote : Bool) : List (Access Bool) :=
  if remote then remoteAccesses else localAccesses

theorem watched_isSome (remote : Bool) :
    (Machine.run (twoPhases remote).step ((twoPhases remote).init 0 (agents remote))
      (accesses remote)).isSome = true := by
  cases remote <;> decide +kernel

/-- The end of either run, with the frames that were drawn. -/
def watched (remote : Bool) : Watch Bool :=
  (Machine.run (twoPhases remote).step ((twoPhases remote).init 0 (agents remote))
    (accesses remote)).get (watched_isSome remote)

theorem watched_run_accesses (remote : Bool) :
    Machine.run (twoPhases remote).step ((twoPhases remote).init 0 (agents remote))
        (accesses remote) = some (watched remote) :=
  (Option.some_get _).symm

/-- Frame number `index` of either run shows percentiles, of the phase with
number `phase`. -/
def ShowsPercentiles (remote : Bool) (index phase : ℕ) : Prop :=
  ∃ view ∈ (watched remote).frames[index]?, ∃ plan completed, completed.phase = phase
    ∧ (twoPhases remote).FrameOf (watched remote) view plan completed
    ∧ (remote = true →
      (twoPhases remote).PublishedIn 0 (agents remote) (accesses remote) completed.publication)

/-- Percentiles are shown under either phase, on one machine and by the
coordinator, which published the ones it shows. -/
theorem frames_show_one_phase_twoPhases :
    ShowsPercentiles false 2 0 ∧ ShowsPercentiles false 5 1
      ∧ ShowsPercentiles true 1 0 ∧ ShowsPercentiles true 4 1 := by
  have hshown (remote : Bool) (index phase : ℕ)
      (hframe : (watched remote).frames[index]?.any (fun view =>
        view.latency.samples.isSome ∧ view.phase.all (·.number = phase + 1)) = true) :
      ShowsPercentiles remote index phase := by
    obtain ⟨view, hview, hholds⟩ := (Option.any_eq_true _ _).mp hframe
    obtain ⟨hsamples, hnumber⟩ := of_decide_eq_true hholds
    obtain ⟨count, hcount⟩ := Option.isSome_iff_exists.mp hsamples
    obtain ⟨plan, completed, hof, hpublished⟩ := frames_show_one_phase (twoPhases remote)
      (watched_run_accesses remote) (List.mem_of_getElem? hview) hcount
    obtain ⟨shown, hphase, hshown, -⟩ := hof.phase
    rw [hphase] at hnumber
    have hsame : shown.number = phase + 1 := of_decide_eq_true hnumber
    exact ⟨view, hview, plan, completed, by omega, hof, hpublished⟩
  exact ⟨hshown false 2 0 (by decide +kernel), hshown false 5 1 (by decide +kernel),
    hshown true 1 0 (by decide +kernel), hshown true 4 1 (by decide +kernel)⟩

end WatchedRun

end WsBlast
