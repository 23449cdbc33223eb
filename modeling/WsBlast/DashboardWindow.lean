import WsBlast.WatchedFrames

/-!
# The window of the rates

The rates of a frame are those since an earlier reading of the counters. A
reading is outlived once a later frame is at least one interval younger than
it; the window starts at the newest reading that is outlived, or at the first
one (`window_starts_one_interval_back`). So it covers at least an interval as
soon as the run has lasted one, and no reading inside it is that old.

A rate over a time that is too short jumps about, and one that is too long lags
behind. The dashboard takes one interval of the series: it keeps the readings
of the last interval and one that is older, so that the difference covers at
least an interval from the moment the run has lasted that long.
-/

namespace WsBlast

/-! ## What the window is -/

/-- What a frame's rates are computed from. -/
def DashboardView.sample (view : DashboardView) : Duration × LiveSnapshot :=
  (view.runElapsed, view.counters)

/-- A later frame is at least one interval younger than the reading at
`index`. -/
def Outlived (frames : List DashboardView) (index : ℕ) : Prop :=
  ∃ first ∈ frames[index]?, ∃ view ∈ frames,
    first.runElapsed + view.latency.interval ≤ view.runElapsed

/-- The newest reading that is outlived, or the first one. -/
structure WindowStart (frames : List DashboardView) (start : ℕ) : Prop where
  lt : start < frames.length
  outlived : start = 0 ∨ Outlived frames start
  newest : ∀ index, start < index → ¬ Outlived frames index

/-! ## One refresh

The readings in memory are a suffix of all readings. -/

/-- What is dropped: the readings before the newest one that is at least one
interval old. -/
theorem dropBefore_eq_drop {now interval : Duration} (hinterval : 0 < interval)
    {samples : List (Duration × LiveSnapshot)} (hsorted : samples.Pairwise fun a b => a.1 ≤ b.1)
    (hlast : ∀ sample ∈ samples.getLast?, sample.1 = now) :
    ∃ start, dropBefore now interval samples = samples.drop start
      ∧ (start = 0 ∨ ∃ first ∈ samples[start]?, first.1 + interval ≤ now)
      ∧ ∀ index, start < index → ∀ sample ∈ samples[index]?, ¬ sample.1 + interval ≤ now := by
  induction samples with
  | nil => exact ⟨0, rfl, .inl rfl, fun _ _ _ hsample => by simp at hsample⟩
  | cons first rest ih =>
    have hnow : ∀ sample ∈ (first :: rest).getLast?, ¬ sample.1 + interval ≤ now := by
      intro sample hsample
      rw [hlast sample hsample]
      exact not_le.mpr (Nat.lt_add_of_pos_right hinterval)
    match rest, ih with
    | [], _ => exact ⟨0, rfl, .inl rfl, fun index hindex sample hsample => by
        rw [List.getElem?_eq_none (Nat.succ_le_of_lt hindex)] at hsample
        cases hsample⟩
    | [second], _ =>
      refine ⟨0, rfl, .inl rfl, fun index hindex sample hsample => ?_⟩
      obtain rfl : index = 1 := by
        have hlt := (List.getElem?_eq_some_iff.mp hsample).1
        simp only [List.length_cons, List.length_nil] at hlt
        omega
      exact hnow sample hsample
    | second :: third :: rest, ih =>
      obtain ⟨start, hdrop, hstart, hnewest⟩ := ih (List.pairwise_cons.mp hsorted).2
        fun sample hsample => hlast sample (by rwa [List.getLast?_cons_cons])
      unfold dropBefore
      -- the second reading is old enough, so the first one is dropped
      by_cases hold : second.1 + interval ≤ now
      · rw [if_pos hold]
        refine ⟨start + 1, hdrop, .inr ?_, fun index hindex => ?_⟩
        · rcases hstart with rfl | hstart
          · exact ⟨second, rfl, hold⟩
          · exact hstart
        · obtain ⟨index, rfl⟩ := Nat.exists_eq_add_of_lt (Nat.zero_lt_of_lt hindex)
          rw [Nat.zero_add]
          exact hnewest index (by omega)
      · rw [if_neg hold]
        refine ⟨0, rfl, .inl rfl, fun index hindex sample hsample hyoung => hold ?_⟩
        have hmem : second.1 ≤ sample.1 := by
          obtain ⟨index, rfl⟩ := Nat.exists_eq_add_of_lt hindex
          rw [Nat.zero_add] at hsample
          have hrest := List.mem_of_getElem? (l := second :: third :: rest) hsample
          rcases List.mem_cons.mp hrest with rfl | hin
          · exact le_rfl
          · exact (List.pairwise_cons.mp (List.pairwise_cons.mp hsorted).2).1 sample hin
        exact (Nat.add_le_add_right hmem interval).trans hyoung

/-- The readings the dashboard keeps are those from the start of the window
on. -/
structure Windowed (dashboard : Dashboard) (frames : List DashboardView) : Prop where
  interval : ∀ view ∈ frames, 0 < view.latency.interval
  sorted : frames.Pairwise fun a b => a.runElapsed ≤ b.runElapsed
  samples : frames = [] ∧ dashboard.samples = []
    ∨ ∃ start, WindowStart frames start
      ∧ dashboard.samples = (frames.map DashboardView.sample).drop start

theorem interval_latencyView (source : DashboardSource) :
    source.latencyView.interval = source.interval := by
  unfold DashboardSource.latencyView
  cases source.completed <;> rfl

/-- What a refresh keeps of the counters, and the rates it shows. -/
theorem samples_update (dashboard : Dashboard) (source : DashboardSource) :
    (dashboard.update source).2.samples
        = dropBefore source.runElapsed source.interval
            (dashboard.samples ++ [(source.runElapsed, source.counters)])
      ∧ (dashboard.update source).1.window
        = ((dashboard.update source).2.samples.head?).elim {} fun first =>
            windowBetween first source.runElapsed source.counters := by
  have hsamples : (dashboard.recordThroughput source.runElapsed source.counters).samples
      = dashboard.samples := by
    unfold Dashboard.recordThroughput
    dsimp only
    cases dashboard.lastThroughput with
    | none => rfl
    | some last =>
      dsimp only
      split_ifs <;> rfl
  have hkept : (dashboard.update source).2.samples
      = ((dashboard.recordThroughput source.runElapsed source.counters).keepSample
          source.runElapsed source.counters source.interval).samples := by
    unfold Dashboard.update
    dsimp only
    cases source.completed with
    | none => rfl
    | some completed =>
      dsimp only
      unfold Dashboard.recordP99
      dsimp only
      split
      · split_ifs <;> rfl
      · rfl
  refine ⟨?_, ?_⟩
  · rw [hkept]
    unfold Dashboard.keepSample
    rw [hsamples]
  · rw [hkept]
    unfold Dashboard.update Dashboard.window
    dsimp only
    cases (((dashboard.recordThroughput source.runElapsed source.counters).keepSample
      source.runElapsed source.counters source.interval).samples).head? <;> rfl

theorem Outlived.append {frames more : List DashboardView} {index : ℕ}
    (h : Outlived frames index) : Outlived (frames ++ more) index := by
  obtain ⟨first, hfirst, view, hview, hle⟩ := h
  have hlt := (List.getElem?_eq_some_iff.mp hfirst).1
  exact ⟨first, (List.getElem?_append_left hlt).trans hfirst, view,
    List.mem_append_left more hview, hle⟩

/-- A reading is outlived by the new frame, or was so before. -/
theorem Outlived.of_concat {frames : List DashboardView} {view : DashboardView} {index : ℕ}
    (hinterval : ∀ other ∈ frames ++ [view], 0 < other.latency.interval)
    (hsorted : (frames ++ [view]).Pairwise fun a b => a.runElapsed ≤ b.runElapsed)
    (h : Outlived (frames ++ [view]) index) :
    Outlived frames index ∨ ∃ first ∈ (frames ++ [view])[index]?,
      first.runElapsed + view.latency.interval ≤ view.runElapsed := by
  obtain ⟨first, hfirst, other, hother, hle⟩ := h
  rcases List.mem_append.mp hother with hold | hnew
  · refine .inl ?_
    rcases lt_or_ge index frames.length with hlt | hge
    · exact ⟨first, (List.getElem?_append_left hlt).symm.trans hfirst, other, hold, hle⟩
    · -- the new frame is not older than one before it
      have hmem := List.mem_of_getElem? ((List.getElem?_append_right hge).symm.trans hfirst)
      rw [List.mem_singleton.mp hmem] at hle
      have hafter := (List.pairwise_append.mp hsorted).2.2 other hold view List.mem_cons_self
      exact absurd (hle.trans hafter)
        (not_le.mpr (Nat.lt_add_of_pos_right (hinterval other hother)))
  · rw [List.mem_singleton.mp hnew] at hle
    exact .inr ⟨first, hfirst, hle⟩

/-- **A refresh moves the window to its new start**, and shows the rates
since. -/
theorem Windowed.update {dashboard : Dashboard} {frames : List DashboardView}
    (h : Windowed dashboard frames) {source : DashboardSource} (hinterval : 0 < source.interval)
    (hlater : ∀ view ∈ frames, view.runElapsed ≤ source.runElapsed) :
    Windowed (dashboard.update source).2 (frames ++ [(dashboard.update source).1])
      ∧ ∃ start, WindowStart (frames ++ [(dashboard.update source).1]) start
        ∧ ∃ first ∈ (frames ++ [(dashboard.update source).1])[start]?,
          (dashboard.update source).1.window
            = windowBetween first.sample source.runElapsed source.counters := by
  obtain ⟨hsamples, hwindow⟩ := samples_update dashboard source
  generalize hview : (dashboard.update source).1 = view at hwindow ⊢
  have hrun : view.runElapsed = source.runElapsed := hview ▸ rfl
  have hsample : view.sample = (source.runElapsed, source.counters) := hview ▸ rfl
  have hlength : view.latency.interval = source.interval :=
    hview ▸ interval_latencyView source
  have hpositive : ∀ other ∈ frames ++ [view], 0 < other.latency.interval := by
    intro other hother
    rcases List.mem_append.mp hother with hold | hnew
    · exact h.interval other hold
    · rw [List.mem_singleton.mp hnew, hlength]
      exact hinterval
  have hsorted : (frames ++ [view]).Pairwise fun a b => a.runElapsed ≤ b.runElapsed := by
    refine List.pairwise_append.mpr ⟨h.sorted, List.pairwise_singleton _ _, fun a ha b hb => ?_⟩
    rw [List.mem_singleton.mp hb, hrun]
    exact hlater a ha
  have hstart : ∃ start, WindowStart (frames ++ [view]) start
      ∧ (dashboard.update source).2.samples
        = ((frames ++ [view]).map DashboardView.sample).drop start := by
    rcases h.samples with ⟨rfl, hnone⟩ | ⟨start, hstart, hkept⟩
    · rw [hsamples, hnone]
      refine ⟨0, ⟨Nat.zero_lt_one, .inl rfl, fun index hindex houtlived => ?_⟩, ?_⟩
      · obtain ⟨first, hfirst, -⟩ := houtlived
        have hlt := (List.getElem?_eq_some_iff.mp hfirst).1
        exact absurd hlt (not_lt.mpr hindex)
      · rw [List.nil_append, List.nil_append, List.map_singleton, hsample]
        rfl
    · -- what is kept is still a suffix of the readings with the new one, and begins later
      have hdrop : dashboard.samples ++ [(source.runElapsed, source.counters)]
          = ((frames ++ [view]).map DashboardView.sample).drop start := by
        rw [hkept, List.map_append, List.drop_append_of_le_length
          (by rw [List.length_map]; exact hstart.lt.le), List.map_singleton, hsample]
      have hordered : (dashboard.samples ++ [(source.runElapsed, source.counters)]).Pairwise
          fun a b => a.1 ≤ b.1 := by
        rw [hdrop]
        exact List.Pairwise.sublist (List.drop_sublist _ _) (List.pairwise_map.mpr hsorted)
      obtain ⟨more, hmore, hold, hnewest⟩ := dropBefore_eq_drop hinterval hordered
        fun sample hlast => by
          rw [List.getLast?_concat] at hlast
          exact congrArg Prod.fst (Option.some.inj hlast).symm
      rw [hsamples, hmore, hdrop, List.drop_drop]
      rw [hdrop] at hold hnewest
      simp only [List.getElem?_drop, List.getElem?_map, Option.mem_def] at hold hnewest
      refine ⟨start + more, ⟨?_, ?_, fun index hindex houtlived => ?_⟩, rfl⟩
      · rcases hold with rfl | ⟨first, hfirst, -⟩
        · rw [List.length_append]
          exact Nat.lt_add_right _ hstart.lt
        · obtain ⟨other, hother, -⟩ := Option.map_eq_some_iff.mp hfirst
          exact (List.getElem?_eq_some_iff.mp hother).1
      · rcases hold with rfl | ⟨first, hfirst, hle⟩
        · exact hstart.outlived.imp_right Outlived.append
        · obtain ⟨other, hother, rfl⟩ := Option.map_eq_some_iff.mp hfirst
          refine .inr ⟨other, hother, view, List.mem_append_right _ List.mem_cons_self, ?_⟩
          rw [hlength, hrun]
          exact hle
      · -- outlived before, or by this frame: neither is younger than the start
        rcases houtlived.of_concat hpositive hsorted with hbefore | ⟨first, hfirst, hle⟩
        · exact hstart.newest index (by omega) hbefore
        · have hyoung := hnewest (index - start) (by omega) first.sample
          rw [Nat.add_sub_cancel' (by omega), hfirst] at hyoung
          refine hyoung rfl ?_
          rw [← hlength, ← hrun]
          exact hle
  refine ⟨⟨hpositive, hsorted, .inr hstart⟩, ?_⟩
  obtain ⟨start, hstart, hkept⟩ := hstart
  have hfirst := List.getElem?_eq_getElem hstart.lt
  refine ⟨start, hstart, _, hfirst, ?_⟩
  rw [hwindow, hkept, List.head?_drop, List.getElem?_map, hfirst]
  rfl

/-! ## Every run

The times of the frames increase, since the clock of the run does and stops for
good when the run has ended. -/

/-- The run time that a refresh has read. -/
def Reader.runElapsed : Reader → Option Duration
  | .idle | .counters _ => none
  | .elapsed _ time | .clock _ time _ | .progress _ time _ _ | .interval _ time _ _ _ => some time

namespace WatchedRun

variable {ι : Type} [DecidableEq ι] {run : WatchedRun ι} {s t : Watch ι}

/-- The run's time does not go back, nor when it is frozen. -/
theorem Move.elapsed_le (h : run.Move s t) :
    s.intervals.elapsed s.now ≤ t.intervals.elapsed t.now := by
  unfold LiveIntervals.elapsed
  cases h with
  | tick time =>
    dsimp only
    cases s.intervals.finished with
    | some => exact le_rfl
    | none =>
      cases s.intervals.runStart with
      | none => exact le_rfl
      | some start => exact Nat.sub_le_sub_right (Nat.le_add_right _ _) start
  | @start phase =>
    have hfinished : (run.startPhase s phase).finished = s.intervals.finished := by
      unfold startPhase
      split_ifs <;> rfl
    have hstart : ∀ start ∈ s.intervals.runStart, (run.startPhase s phase).runStart = some start := by
      intro start heq
      unfold startPhase
      split_ifs
      · show s.intervals.runStart.or _ = _
        rw [heq]
        rfl
      · show s.intervals.runStart.or _ = _
        rw [heq]
        rfl
    dsimp only
    rw [hfinished]
    cases s.intervals.finished with
    | some => exact le_rfl
    | none =>
      cases hrun : s.intervals.runStart with
      | none => exact Nat.zero_le _
      | some start =>
        rw [hstart start hrun]
  | finish =>
    show _ ≤ ((s.intervals.finished.or (some (s.intervals.runStart.elim 0 fun start =>
      s.now - start))).or (s.intervals.runStart.map fun start => s.now - start)).getD 0
    cases s.intervals.finished with
    | some => exact le_rfl
    | none => cases s.intervals.runStart <;> exact le_rfl
  | read =>
    have hread : (run.read s).intervals = s.intervals ∧ (run.read s).now = s.now := by
      unfold WatchedRun.read
      cases s.reader <;> exact ⟨rfl, rfl⟩
    rw [hread.1, hread.2]
  | count | call | announce | publish | measure | publishLast | endPhase | report | stop
    | markLost => exact le_rfl

/-- The rates of every frame are those since the start of its window. -/
structure Timed (s : Watch ι) : Prop where
  windowed : Windowed s.dashboard s.frames
  elapsed : ∀ view ∈ s.frames, view.runElapsed ≤ s.intervals.elapsed s.now
  reader : ∀ time ∈ s.reader.runElapsed,
    (∀ view ∈ s.frames, view.runElapsed ≤ time) ∧ time ≤ s.intervals.elapsed s.now
  windows : ∀ before view after, s.frames = before ++ view :: after →
    ∃ start, WindowStart (before ++ [view]) start ∧ ∃ first ∈ (before ++ [view])[start]?,
      view.window = windowBetween first.sample view.runElapsed view.counters

theorem Timed.move [Fintype ι] (h : Timed s) (hwatched : run.Watched s) (hmove : run.Move s t) :
    Timed t := by
  have hle := hmove.elapsed_le
  have hkeep (hdashboard : t.dashboard = s.dashboard) (hframes : t.frames = s.frames)
      (hreader : ∀ time ∈ t.reader.runElapsed,
        (∀ view ∈ s.frames, view.runElapsed ≤ time) ∧ time ≤ t.intervals.elapsed t.now) :
      Timed t :=
    { windowed := hdashboard ▸ hframes ▸ h.windowed
      elapsed := fun view hview => (h.elapsed view (hframes ▸ hview)).trans hle
      reader := hframes ▸ hreader
      windows := hframes ▸ h.windows }
  have hsame (hreader : t.reader = s.reader) : ∀ time ∈ t.reader.runElapsed,
      (∀ view ∈ s.frames, view.runElapsed ≤ time) ∧ time ≤ t.intervals.elapsed t.now := by
    intro time htime
    obtain ⟨hframes, hnow⟩ := h.reader time (hreader ▸ htime)
    exact ⟨hframes, hnow.trans hle⟩
  -- only a read that draws a frame changes the readings
  cases hmove with
  | read =>
    have hread := h.reader
    have hheld := hwatched.held
    unfold WatchedRun.read at hle hkeep ⊢
    cases hreader : s.reader with
    | idle =>
      rw [hreader] at hkeep
      exact hkeep rfl rfl fun _ htime => absurd htime (Option.not_mem_none _)
    | counters counters =>
      rw [hreader] at hkeep
      refine hkeep rfl rfl fun time htime => ?_
      obtain rfl := Option.some.inj htime
      exact ⟨h.elapsed, le_rfl⟩
    | elapsed counters time | clock counters time clock
      | progress counters time clock progress =>
      rw [hreader] at hkeep hread
      exact hkeep rfl rfl hread
    | interval counters time clock progress last =>
      rw [hreader] at hread hheld
      obtain ⟨hframes, hnow⟩ := hread time rfl
      have hinterval : 0 < clock.elim (Duration.ofSecs 1) PhaseClock.interval := by
        cases clock with
        | none => decide
        | some clock =>
          rw [Option.elim_some, (hheld.1 clock rfl).1.interval]
          exact run.interval_pos _
      let source : DashboardSource :=
        { counters, runElapsed := time, phaseClock := clock, progress, lastInterval := last
          agents := s.board.map AgentBoard.view }
      obtain ⟨hwindowed, hwindow⟩ : Windowed (s.dashboard.update source).2 _ ∧ _ :=
        h.windowed.update hinterval hframes
      exact
        { windowed := hwindowed
          elapsed := fun view hview => by
            rcases List.mem_append.mp hview with hold | hnew
            · exact h.elapsed view hold
            · rw [List.mem_singleton.mp hnew]
              exact hnow
          reader := fun _ htime => absurd htime (Option.not_mem_none _)
          windows := fun before view after hframes => by
            rcases List.eq_nil_or_concat after with rfl | ⟨more, last, rfl⟩
            · obtain ⟨rfl, hview⟩ := List.append_inj' hframes rfl
              obtain rfl := (List.cons.inj hview).1
              exact hwindow
            · rw [List.concat_eq_append, ← List.cons_append, ← List.append_assoc] at hframes
              exact h.windows before view more (List.append_inj' hframes rfl).1 }
  | tick | count | call | announce | start | publish | measure | publishLast | endPhase | report
    | stop | finish | markLost => exact hkeep rfl rfl (hsame rfl)

/-- **The window starts one interval back**: along any run, the rates of every
frame are those since the newest reading that a frame so far is at least one
interval younger than, or since the first one. -/
theorem window_starts_one_interval_back [Fintype ι] (run : WatchedRun ι) {now : Instant}
    {board : Option AgentBoard} {accesses : List (Access ι)} {s : Watch ι}
    (hrun : Machine.run run.step (run.init now board) accesses = some s)
    {before after : List DashboardView} {view : DashboardView}
    (hframes : s.frames = before ++ view :: after) :
    ∃ start, WindowStart (before ++ [view]) start ∧ ∃ first ∈ (before ++ [view])[start]?,
      view.window = windowBetween first.sample view.runElapsed view.counters := by
  have htimed : Timed s ∧ run.Watched s :=
    Machine.run_inv (P := fun s => Timed s ∧ run.Watched s)
      (fun h hstep => ⟨h.1.move h.2 (move_of_step hstep), h.2.move (move_of_step hstep)⟩)
      ⟨{ windowed := ⟨fun _ hview => absurd hview List.not_mem_nil, List.Pairwise.nil,
           .inl ⟨rfl, rfl⟩⟩
         elapsed := fun _ hview => absurd hview List.not_mem_nil
         reader := fun _ htime => absurd htime (Option.not_mem_none _)
         windows := fun before view after hnil => by
           have hlength := congrArg List.length hnil
           rw [List.length_append, List.length_cons] at hlength
           exact absurd hlength (by simp [WatchedRun.init]) },
        { registered := registered_init now board
          held := trivial
          frames := fun _ hview => absurd hview List.not_mem_nil }⟩ hrun
  exact htimed.1.windows before view after hframes

/-- The last of six frames: four readings were dropped, and its rates are those
of the second since the one before it. -/
theorem window_starts_twoPhases :
    ∃ view ∈ (watched false).frames[5]?, view.window.secs = 1
      ∧ (watched false).dashboard.samples.length = 2
      ∧ ∃ start, WindowStart ((watched false).frames.take 5 ++ [view]) start
        ∧ ∃ first ∈ ((watched false).frames.take 5 ++ [view])[start]?,
          view.window = windowBetween first.sample view.runElapsed view.counters := by
  obtain ⟨view, hview, hsecs⟩ := (Option.any_eq_true _ _).mp
    (show (watched false).frames[5]?.any (fun view => view.window.secs = 1) = true by
      decide +kernel)
  obtain ⟨hlt, rfl⟩ := List.getElem?_eq_some_iff.mp hview
  have hframes : (watched false).frames = (watched false).frames.take 5
      ++ (watched false).frames[5] :: (watched false).frames.drop 6 := by
    rw [List.getElem_cons_drop, List.take_append_drop]
  exact ⟨_, hview, of_decide_eq_true hsecs, by decide +kernel,
    window_starts_one_interval_back (twoPhases false) (watched_run_accesses false) hframes⟩

end WatchedRun

end WsBlast
