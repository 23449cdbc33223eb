import WsBlast.WatchedFrames

/-!
# The points of the p99 sparkline

The dashboard adds a point for an interval it has not seen, and refreshes the
last one as long as the same interval is read. While a phase runs, the
intervals it reads only become later. When the phase is marked ended, the last
one that is read is that of the time it was measured to take, which may lie
before one that was read while its workers were waited for. So the points are
in order, except for the last of a phase (`p99_history_in_order`).

A sparkline with points out of order, or with an interval twice, would draw a
run that did not happen. An interval is read several times while it is the last
one that is over, and its p99 still changes as workers hand samples in; a point
is refreshed when the key of the interval is the one of the last point, and
added otherwise.
-/

namespace WsBlast

namespace Dashboard

variable {dashboard : Dashboard}

/-! ## The points

What a refresh does to the points, stated by their intervals. -/

/-- The intervals the sparkline has a point for. -/
def keys (dashboard : Dashboard) : List (ℕ × ℕ) := dashboard.p99.map Prod.fst

theorem length_pushBounded_le {A : Type} {points : List A} (h : points.length ≤ history)
    (value : A) : (pushBounded points value).length ≤ history := by
  unfold pushBounded
  rw [List.length_append, List.length_singleton]
  split_ifs with hfull
  · have hpos : 0 < history := by decide
    rw [List.length_tail]
    omega
  · omega

theorem pushBounded_sublist {A : Type} (points : List A) (value : A) :
    (pushBounded points value).Sublist (points ++ [value]) := by
  unfold pushBounded
  split_ifs
  · exact (List.tail_sublist points).append_right _
  · exact List.Sublist.refl _

/-- The last point is refreshed, or one is added. -/
theorem keys_recordP99 (key : ℕ × ℕ) (latency : LatencyView) :
    (dashboard.recordP99 key latency).keys
      = if dashboard.keys.getLast? = some key then dashboard.keys
        else pushBounded dashboard.keys key := by
  have hpush : ∀ p99, (pushBounded dashboard.p99 (key, p99)).map Prod.fst
      = pushBounded dashboard.keys key := by
    intro p99
    unfold pushBounded keys
    rw [List.map_append, List.length_map]
    split_ifs
    · rw [List.map_tail]
      rfl
    · rfl
  have hkeys : dashboard.keys.getLast? = dashboard.p99.getLast?.map Prod.fst := List.getLast?_map
  unfold recordP99
  dsimp only
  cases hlast : dashboard.p99.getLast? with
  | none =>
    have hnone : ¬ (none : Option ((ℕ × ℕ) × ℕ)).map Prod.fst = some key := by simp
    rw [hkeys, hlast, if_neg hnone]
    exact hpush _
  | some point =>
    obtain ⟨last, value⟩ := point
    obtain ⟨before, hp99⟩ := List.getLast?_eq_some_iff.mp hlast
    rw [hkeys, hlast]
    dsimp only [Option.map_some]
    by_cases hsame : last = key
    · subst hsame
      rw [if_pos rfl, if_pos rfl]
      unfold keys
      rw [hp99, List.dropLast_concat]
      simp
    · rw [if_neg hsame, if_neg fun heq => hsame (Option.some.inj heq)]
      exact hpush _

/-- A refresh changes the points only by adding one that is not the last. -/
theorem keys_update (dashboard : Dashboard) (source : DashboardSource) :
    (dashboard.update source).2.keys = dashboard.keys
      ∨ ∃ completed ∈ source.lastInterval,
        dashboard.keys.getLast? ≠ some (completed.phase, completed.index)
          ∧ (dashboard.update source).2.keys
            = pushBounded dashboard.keys (completed.phase, completed.index) := by
  -- the other steps of a refresh leave the points alone
  have hkept : ((dashboard.recordThroughput source.runElapsed source.counters).keepSample
      source.runElapsed source.counters source.interval).keys = dashboard.keys := by
    unfold keys keepSample recordThroughput
    dsimp only
    cases dashboard.lastThroughput with
    | none => rfl
    | some last =>
      dsimp only
      split_ifs <;> rfl
  cases hcompleted : source.completed with
  | none =>
    refine .inl ?_
    unfold update
    dsimp only
    rw [hcompleted]
    exact hkept
  | some completed =>
    obtain ⟨clock, -, hfilter⟩ := Option.bind_eq_some_iff.mp hcompleted
    have hread := (Option.filter_eq_some_iff.mp hfilter).1
    have hrecorded : (((dashboard.recordThroughput source.runElapsed source.counters).keepSample
        source.runElapsed source.counters source.interval).recordP99
          (completed.phase, completed.index) source.latencyView).keys = _ := keys_recordP99 _ _
    rw [hkept] at hrecorded
    have hupdate : (dashboard.update source).2.keys
        = if dashboard.keys.getLast? = some (completed.phase, completed.index) then dashboard.keys
          else pushBounded dashboard.keys (completed.phase, completed.index) := by
      rw [← hrecorded]
      unfold update
      dsimp only
      rw [hcompleted]
    by_cases hlast : dashboard.keys.getLast? = some (completed.phase, completed.index)
    · exact .inl (hupdate.trans (if_pos hlast))
    · exact .inr ⟨completed, hread, hlast, hupdate.trans (if_neg hlast)⟩

end Dashboard

/-! ## The order of the points

An order on intervals that treats the last interval of a phase as an exception,
and the invariant that the points follow it. -/

namespace WatchedRun

variable {ι : Type} [DecidableEq ι] (run : WatchedRun ι)

/-- The last interval of a phase, by the time it was measured to take. -/
def lastInterval (s : Watch ι) (phase : ℕ) : Option ℕ :=
  (s.measured phase).bind fun elapsed => lastCompleted elapsed (run.interval phase)

/-- A point comes before another: it is of an earlier phase or of an earlier
interval, or the other one is the last of a phase that has ended. -/
def Before (s : Watch ι) (point next : ℕ × ℕ) : Prop :=
  point.1 < next.1 ∨ point.1 = next.1
    ∧ (point.2 < next.2 ∨ s.Settled next.1 ∧ run.lastInterval s next.1 = some next.2)

/-- The interval of a point is over. -/
def Complete (s : Watch ι) (point : ℕ × ℕ) : Prop :=
  point.1 < s.intervals.phasesBegun
    ∧ (point.2 + 1) * run.interval point.1 ≤ s.now - run.start point.1

/-- A point can follow those of the sparkline: it is the last one again, or it
comes after all of them. -/
def Follows (s : Watch ι) (point : ℕ × ℕ) : Prop :=
  s.dashboard.keys.getLast? = some point ∨ ∀ key ∈ s.dashboard.keys, run.Before s key point

/-- The points of the sparkline are in order, and so is the one that a refresh
has read. -/
structure Ordered (s : Watch ι) : Prop where
  unmeasured : ∀ phase, s.intervals.phasesBegun ≤ phase ∨ s.stage = .running phase →
    s.measured phase = none
  bounded : s.dashboard.keys.length ≤ history
  pairwise : s.dashboard.keys.Pairwise (run.Before s)
  complete : ∀ key ∈ s.dashboard.keys, run.Complete s key
  next : ∀ completed ∈ s.reader.last,
    run.Complete s (completed.phase, completed.index)
      ∧ run.Follows s (completed.phase, completed.index)

variable {run} {s t : Watch ι}

omit [DecidableEq ι] in
theorem Complete.later {point : ℕ × ℕ} (h : run.Complete s point) (hlater : run.Later s t) :
    run.Complete t point :=
  ⟨h.1.trans_le hlater.begun, h.2.trans (Nat.sub_le_sub_right hlater.now _)⟩

omit [DecidableEq ι] in
theorem Before.later {point next : ℕ × ℕ} (h : run.Before s point next) (hlater : run.Later s t)
    (hmeasured : ∀ phase elapsed, s.measured phase = some elapsed → t.measured phase = some elapsed) :
    run.Before t point next := by
  refine h.imp_right fun ⟨hphase, h⟩ => ⟨hphase, h.imp_right fun ⟨hsettled, hlast⟩ => ?_⟩
  refine ⟨hlater.settled _ hsettled, ?_⟩
  obtain ⟨elapsed, helapsed, hindex⟩ := Option.bind_eq_some_iff.mp hlast
  exact Option.bind_eq_some_iff.mpr ⟨elapsed, hmeasured _ _ helapsed, hindex⟩

/-- What is read in a phase that runs on this machine. -/
theorem Registered.reads [Fintype ι] (h : run.Registered s) (hlocal : run.remote = false)
    {completed : CompletedInterval}
    (hcompleted : s.intervals.lastCompleted (run.stores s.calls) s.now = some completed) :
    completed.phase + 1 = s.intervals.phasesBegun
      ∧ (¬ s.Settled completed.phase
          ∧ s.now - run.start completed.phase < (completed.index + 2) * run.interval completed.phase
        ∨ s.Settled completed.phase
          ∧ run.lastInterval s completed.phase = some completed.index) := by
  unfold LiveIntervals.lastCompleted at hcompleted
  rw [h.mode.2 hlocal] at hcompleted
  obtain ⟨live, hlive, hcompleted⟩ := Option.bind_eq_some_iff.mp hcompleted
  obtain ⟨index, hindex, hcompleted⟩ := Option.bind_eq_some_iff.mp hcompleted
  obtain rfl := Option.some.inj hcompleted
  obtain ⟨hseq, hstore, -⟩ := h.phase live hlive
  rw [hstore] at hindex
  obtain ⟨hstart, hinterval⟩ := run.interval_stores s.calls live.seq
  rw [hstart, hinterval] at hindex
  refine ⟨hseq, ?_⟩
  cases hended : live.ended with
  | none =>
    rw [hended] at hindex
    refine .inl ⟨?_, (lastCompleted_eq_some (run.interval_pos _) hindex).2⟩
    rintro (hlt | ⟨-, hends⟩)
    · exact absurd hlt (by rw [hseq]; exact lt_irrefl _)
    · exact hends.1 live hlive hended
  | some elapsed =>
    rw [hended] at hindex
    refine .inr ⟨.inr ⟨hseq, fun other hother => ?_, fun remote hremote => ?_⟩, ?_⟩
    · obtain rfl := Option.mem_unique hlive hother
      rw [hended]
      exact Option.some_ne_none elapsed
    · rw [h.mode.2 hlocal] at hremote
      cases hremote
    · exact Option.bind_eq_some_iff.mpr ⟨elapsed, h.phaseEnded live hlive elapsed hended, hindex⟩

/-- **What is read can follow the points that are there.** -/
theorem Ordered.follows [Fintype ι] (h : run.Ordered s) (hregistered : run.Registered s)
    (hlocal : run.remote = false) {completed : CompletedInterval}
    (hcompleted : s.intervals.lastCompleted (run.stores s.calls) s.now = some completed) :
    run.Complete s (completed.phase, completed.index)
      ∧ run.Follows s (completed.phase, completed.index) := by
  have hshows := hregistered.shows hcompleted
  obtain ⟨hseq, hread⟩ := hregistered.reads hlocal hcompleted
  have hphase : ∀ key ∈ s.dashboard.keys, key.1 ≤ completed.phase := by
    intro key hkey
    have hbegun := (h.complete key hkey).1
    omega
  refine ⟨⟨hshows.begun, hshows.complete hlocal⟩, ?_⟩
  rcases hread with ⟨hopen, hnow⟩ | hlast
  · -- the phase is in progress, so its points so far are in strict order
    have hle : ∀ key ∈ s.dashboard.keys, key.1 = completed.phase → key.2 ≤ completed.index := by
      intro key hkey heq
      have hcomplete := (h.complete key hkey).2
      rw [heq] at hcomplete
      have hlt := Nat.lt_of_mul_lt_mul_right (hcomplete.trans_lt hnow)
      omega
    by_cases hmem : (completed.phase, completed.index) ∈ s.dashboard.keys
    · refine .inl ?_
      obtain ⟨before, last, hkeys⟩ := List.eq_nil_or_concat _ |>.resolve_left
        (List.ne_nil_of_mem hmem)
      have hpairwise := h.pairwise
      rw [List.concat_eq_append] at hkeys
      rw [hkeys] at hmem hpairwise
      rw [hkeys, List.getLast?_concat]
      rcases List.mem_append.mp hmem with hbefore | hlast
      · obtain hlt | ⟨heq, hlt | ⟨hsettled, -⟩⟩ :=
          (List.pairwise_append.mp hpairwise).2.2 _ hbefore last List.mem_cons_self
        · have hlast := hphase last (by simp [hkeys])
          exact absurd hlt (not_lt.mpr hlast)
        · have hlast := hle last (by simp [hkeys]) heq.symm
          exact absurd hlt (not_lt.mpr hlast)
        · exact absurd hsettled (heq ▸ hopen)
      · rw [List.mem_singleton.mp hlast]
    · refine .inr fun key hkey => ?_
      rcases (hphase key hkey).lt_or_eq with hlt | heq
      · exact .inl hlt
      · refine .inr ⟨heq, .inl ((hle key hkey heq).lt_of_ne fun hsame => hmem ?_)⟩
        have hpoint : key = (completed.phase, completed.index) := Prod.ext heq hsame
        rwa [← hpoint]
  · refine .inr fun key hkey => ?_
    exact (hphase key hkey).lt_or_eq.imp_right fun heq => ⟨heq, .inr hlast⟩

omit [DecidableEq ι] in
/-- An access that does not touch the dashboard keeps the order. -/
theorem Ordered.keep (h : run.Ordered s) (hlater : run.Later s t)
    (hmeasured : ∀ phase elapsed, s.measured phase = some elapsed → t.measured phase = some elapsed)
    (hdashboard : t.dashboard = s.dashboard) (hreader : t.reader = s.reader)
    (hunmeasured : ∀ phase, t.intervals.phasesBegun ≤ phase ∨ t.stage = .running phase →
      t.measured phase = none) : run.Ordered t where
  unmeasured := hunmeasured
  bounded := hdashboard ▸ h.bounded
  pairwise := hdashboard ▸ h.pairwise.imp fun hbefore => hbefore.later hlater hmeasured
  complete key hkey := (h.complete key (hdashboard ▸ hkey)).later hlater
  next completed hlast := by
    obtain ⟨hcomplete, hfollows⟩ := h.next completed (hreader ▸ hlast)
    refine ⟨hcomplete.later hlater, ?_⟩
    unfold Follows at hfollows ⊢
    rw [hdashboard]
    exact hfollows.imp_right fun hbefore key hkey => (hbefore key hkey).later hlater hmeasured

theorem Ordered.read [Fintype ι] (h : run.Ordered s) (hregistered : run.Registered s)
    (hlocal : run.remote = false) : run.Ordered (run.read s) := by
  -- a read that ends without an interval leaves the points alone
  have hsame {reader : Reader} (hreader : reader.last = none) :
      run.Ordered { s with reader } :=
    { h with
      next := fun completed hlast => by
        have hnone : reader.last = some completed := hlast
        rw [hreader] at hnone
        cases hnone }
  unfold WatchedRun.read
  cases hreader : s.reader with
  | idle => exact hsame rfl
  | counters => exact hsame rfl
  | elapsed => exact hsame rfl
  | clock => exact hsame rfl
  | progress =>
    exact { h with next := fun completed hlast => h.follows hregistered hlocal hlast }
  | interval counters runElapsed clock progress last =>
    have hnext := h.next
    rw [hreader] at hnext
    have hkeys := s.dashboard.keys_update
      { counters, runElapsed, phaseClock := clock, progress, lastInterval := last
        agents := s.board.map AgentBoard.view }
    dsimp only
    generalize s.dashboard.update
      { counters, runElapsed, phaseClock := clock, progress, lastInterval := last
        agents := s.board.map AgentBoard.view } = drawn at hkeys
    have hdrawn (hbounded : drawn.2.keys.length ≤ history)
        (hpairwise : drawn.2.keys.Pairwise (run.Before s))
        (hcomplete : ∀ key ∈ drawn.2.keys, run.Complete s key) :
        run.Ordered
          { s with reader := .idle, dashboard := drawn.2, frames := s.frames ++ [drawn.1] } :=
      { unmeasured := h.unmeasured
        bounded := hbounded
        pairwise := hpairwise
        complete := hcomplete
        next := fun completed hlast => absurd hlast (Option.not_mem_none _) }
    rcases hkeys with heq | ⟨completed, hlast, hne, hpush⟩
    · exact hdrawn (heq ▸ h.bounded) (heq ▸ h.pairwise) (heq ▸ h.complete)
    · obtain ⟨hcomplete, hfollows⟩ := hnext completed hlast
      have hbefore := hfollows.resolve_left hne
      have hsublist := Dashboard.pushBounded_sublist s.dashboard.keys
        (completed.phase, completed.index)
      refine hdrawn (hpush ▸ Dashboard.length_pushBounded_le h.bounded _) ?_ fun key hkey => ?_
      · rw [hpush]
        refine List.Pairwise.sublist hsublist (List.pairwise_append.mpr
          ⟨h.pairwise, List.pairwise_singleton _ _, fun key hkey point hpoint => ?_⟩)
        rw [List.mem_singleton.mp hpoint]
        exact hbefore key hkey
      · rw [hpush] at hkey
        rcases List.mem_append.mp (hsublist.subset hkey) with hold | hnew
        · exact h.complete key hold
        · rw [List.mem_singleton.mp hnew]
          exact hcomplete

/-- **Every access keeps the points in order.** -/
theorem Ordered.move [Fintype ι] (h : run.Ordered s) (hregistered : run.Registered s)
    (hlocal : run.remote = false) (hmove : run.Move s t) : run.Ordered t := by
  have hlater := hregistered.later hmove
  have hsound := hregistered.stage
  unfold Watch.StageSound at hsound
  have hstays (phase : ℕ) (elapsed : Duration) (heq : s.measured phase = some elapsed) :
      s.measured phase = some elapsed := heq
  have hnot {stage : ExecutorStage} (hrunning : ∀ phase, stage ≠ .running phase) (phase : ℕ)
      (hphase : s.intervals.phasesBegun ≤ phase ∨ stage = .running phase) :
      s.measured phase = none :=
    h.unmeasured phase (.inl (hphase.resolve_right (hrunning phase)))
  cases hmove with
  | tick => exact h.keep hlater hstays rfl rfl h.unmeasured
  | count => exact h.keep hlater hstays rfl rfl h.unmeasured
  | call => exact h.keep hlater hstays rfl rfl h.unmeasured
  | announce => exact h.keep hlater hstays rfl rfl (hnot (by simp))
  | @start phase hstage =>
    rw [hstage] at hsound
    have hbegun : (run.startPhase s phase).phasesBegun = s.intervals.phasesBegun + 1 := by
      unfold startPhase
      split_ifs <;> rfl
    refine h.keep hlater hstays rfl rfl fun other hother => h.unmeasured other (.inl ?_)
    dsimp only at hother
    rw [hbegun] at hother
    rcases hother with hle | heq
    · omega
    · obtain rfl := ExecutorStage.running.inj heq
      exact hsound.1.le
  | publish latency hremote => exact absurd (hremote.symm.trans hlocal) (by decide)
  | @measure phase elapsed hstage =>
    rw [hstage] at hsound
    refine h.keep hlater (fun other time heq => ?_) rfl rfl fun other hother => ?_
    · -- the phase that is measured was not measured before
      have hne : other ≠ phase := by
        rintro rfl
        rw [h.unmeasured other (.inr hstage)] at heq
        cases heq
      exact (Function.update_of_ne hne _ _).trans heq
    · have hbegun := hother.resolve_right (by simp)
      have hne : other ≠ phase := by
        rintro rfl
        dsimp only at hbegun
        omega
      exact (Function.update_of_ne hne _ _).trans (h.unmeasured other (.inl hbegun))
  | publishLast latency hremote => exact absurd (hremote.symm.trans hlocal) (by decide)
  | endPhase => exact h.keep hlater hstays rfl rfl (hnot (by simp))
  | report => exact h.keep hlater hstays rfl rfl (hnot (by simp))
  | stop => exact h.keep hlater hstays rfl rfl (hnot (by simp))
  | finish => exact h.keep hlater hstays rfl rfl h.unmeasured
  | markLost => exact h.keep hlater hstays rfl rfl h.unmeasured
  | read => exact h.read hregistered hlocal

/-- **The points of the p99 sparkline are in order**: along any run on one
machine there are at most 240, each of an interval that is over, and each
later one is of a later phase, of a later interval of the phase, or of the
last interval of a phase that has ended. -/
theorem p99_history_in_order [Fintype ι] (run : WatchedRun ι) (hlocal : run.remote = false)
    {now : Instant} {board : Option AgentBoard} {accesses : List (Access ι)} {s : Watch ι}
    (hrun : Machine.run run.step (run.init now board) accesses = some s) :
    s.dashboard.keys.length ≤ 240 ∧ (∀ key ∈ s.dashboard.keys, run.Complete s key)
      ∧ s.dashboard.keys.Pairwise (run.Before s) := by
  have hordered : run.Ordered s ∧ run.Registered s :=
    Machine.run_inv (P := fun s => run.Ordered s ∧ run.Registered s)
      (fun h hstep => ⟨h.1.move h.2 hlocal (move_of_step hstep), h.2.move (move_of_step hstep)⟩)
      ⟨{ unmeasured := fun _ _ => rfl
         bounded := Nat.zero_le _
         pairwise := List.Pairwise.nil
         complete := fun _ hkey => absurd hkey List.not_mem_nil
         next := fun _ hlast => absurd hlast (Option.not_mem_none _) },
        registered_init now board⟩ hrun
  exact ⟨hordered.1.bounded, hordered.1.complete, hordered.1.pairwise⟩

/-- Two phases with two intervals each leave four points. -/
theorem p99_history_twoPhases :
    (watched false).dashboard.keys = [(0, 0), (0, 1), (1, 0), (1, 1)]
      ∧ (watched false).dashboard.keys.length ≤ 240
      ∧ (∀ key ∈ (watched false).dashboard.keys, (twoPhases false).Complete (watched false) key)
      ∧ (watched false).dashboard.keys.Pairwise ((twoPhases false).Before (watched false)) :=
  ⟨by decide +kernel,
    p99_history_in_order (twoPhases false) rfl (watched_run_accesses false)⟩

end WatchedRun

end WsBlast
