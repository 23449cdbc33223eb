import WsBlast.TimeSeries

/-!
# The counter sampler

One task samples the live counters of a run: a baseline when the task first
runs, a snapshot at each tick, and a last one when every worker has stopped,
stamped with the end of the run or the last tick, whichever is later. The
workers count all the while, so a run is an interleaving of their increments
with the sampler's steps (`CounterRun`).

The points of the series add up to what the counters grew by while the
sampler looked: from its baseline to the first sample that has the final
stamp. `series_adds_up_iff` says when that is the whole run.

The baseline is what makes the sum delicate. The clock of the run starts before
the task that samples is first polled, and the workers of a run may count in
between; the baseline is stamped 0 all the same, so what was counted before it
is part of no difference. `CounterRun.early` holds these increments, and the
interleaving after the baseline is arbitrary.
-/

namespace WsBlast

/-! ## The counters that add up

A point has five counters that are differences of snapshots. -/

/-- The counters that a point of the series has the difference of. -/
inductive Counted where
  | messagesSent
  | messagesRecv
  | bytesSent
  | bytesRecv
  | errors
  deriving DecidableEq, Repr

/-- What a worker's step adds to the live counters, in its shard. -/
structure Increment where
  shard : ℕ := 0
  messagesSent : ℕ := 0
  messagesReceived : ℕ := 0
  bytesSent : ℕ := 0
  bytesReceived : ℕ := 0
  totalErrors : ℕ := 0
  deriving DecidableEq, Repr

namespace Counted

/-- The counter in a point. -/
def ofPoint : Counted → TimeSeriesPoint → ℕ
  | messagesSent => TimeSeriesPoint.messagesSent
  | messagesRecv => TimeSeriesPoint.messagesRecv
  | bytesSent => TimeSeriesPoint.bytesSent
  | bytesRecv => TimeSeriesPoint.bytesRecv
  | errors => TimeSeriesPoint.errors

/-- The counter in a snapshot. -/
def ofSnapshot : Counted → LiveSnapshot → ℕ
  | messagesSent => LiveSnapshot.messagesSent
  | messagesRecv => LiveSnapshot.messagesReceived
  | bytesSent => LiveSnapshot.bytesSent
  | bytesRecv => LiveSnapshot.bytesReceived
  | errors => LiveSnapshot.totalErrors

/-- The counter in an increment. -/
def ofIncrement : Counted → Increment → ℕ
  | messagesSent => Increment.messagesSent
  | messagesRecv => Increment.messagesReceived
  | bytesSent => Increment.bytesSent
  | bytesRecv => Increment.bytesReceived
  | errors => Increment.totalErrors

variable (c : Counted)

theorem ofSnapshot_zero : c.ofSnapshot {} = 0 := by cases c <;> rfl

theorem ofSnapshot_add (a b : LiveSnapshot) :
    c.ofSnapshot (a.add b) = c.ofSnapshot a + c.ofSnapshot b := by cases c <;> rfl

/-- A point has the difference of its two samples. -/
theorem ofPoint_pointOf (store : IntervalStore) (previous next : CounterSample) :
    c.ofPoint (TimeSeries.pointOf store previous next)
      = c.ofSnapshot next.2 - c.ofSnapshot previous.2 := by cases c <;> rfl

/-- Folding a sliver adds its counts to the point before it. -/
theorem ofPoint_absorbTail (last tail : TimeSeriesPoint) :
    c.ofPoint (TimeSeries.absorbTail last tail) = c.ofPoint last + c.ofPoint tail := by
  cases c <;> rfl

end Counted

/-- Counts a worker's step in its shard. -/
def LiveMetrics.count (live : LiveMetrics) (i : Increment) : LiveMetrics :=
  live.update i.shard fun shard =>
    { shard with
      messagesSent := shard.messagesSent + i.messagesSent
      messagesReceived := shard.messagesReceived + i.messagesReceived
      bytesSent := shard.bytesSent + i.bytesSent
      bytesReceived := shard.bytesReceived + i.bytesReceived
      totalErrors := shard.totalErrors + i.totalErrors }

/-- A worker's step adds to the snapshot, whatever its shard. -/
theorem LiveMetrics.ofSnapshot_count (live : LiveMetrics) (i : Increment) (c : Counted) :
    c.ofSnapshot (live.count i).snapshot = c.ofSnapshot live.snapshot + c.ofIncrement i :=
  live.counter_update i.shard c.ofSnapshot_zero c.ofSnapshot_add fun _ => by cases c <;> rfl

/-! ## A sampled run

The task and the workers share nothing but the counters, so a run is a list of
steps in the order in which they took effect, and the samples are what the ticks
saw. -/

namespace CounterSampler

/-- What happens while the sampler's task runs: a worker counts, or a tick
is taken `at'` after the start of the run. -/
inductive Step where
  | work (i : Increment)
  | tick (at' : Duration)
  deriving DecidableEq, Repr

/-- The samples the task takes from its baseline on, and the counters in the
end. -/
def runSteps : LiveMetrics → List Step → List CounterSample × LiveMetrics
  | live, [] => ([], live)
  | live, .work i :: rest => runSteps (live.count i) rest
  | live, .tick at' :: rest =>
    let (samples, final) := runSteps live rest
    ((at', live.snapshot) :: samples, final)

/-- The stamp of the last sample: the end of the run, or the last tick when
that is later. -/
def finishStamp (samples : List CounterSample) (ended : Duration) : Duration :=
  match samples.getLast? with
  | none => ended
  | some last => max ended last.1

/-- The samples once every worker has stopped. -/
def finish (samples : List CounterSample) (ended : Duration) (last : LiveSnapshot) :
    List CounterSample :=
  samples ++ [(finishStamp samples ended, last)]

/-- The increments of some steps. -/
def workOf : List Step → List Increment
  | [] => []
  | .work i :: rest => i :: workOf rest
  | .tick _ :: rest => workOf rest

/-- The increments after the first tick stamped `stamp`. -/
def workAfter (stamp : Duration) : List Step → List Increment
  | [] => []
  | .work _ :: rest => workAfter stamp rest
  | .tick at' :: rest => if at' = stamp then workOf rest else workAfter stamp rest

/-- The times of the ticks. -/
def tickTimes : List Step → List Duration
  | [] => []
  | .work _ :: rest => tickTimes rest
  | .tick at' :: rest => at' :: tickTimes rest

end CounterSampler

open CounterSampler

/-- A run as the sampler sees it: the live counters when the run's clock
started, what workers counted before the sampler's task took its baseline,
the interleaving from then on, and when the run ended. -/
structure CounterRun where
  start : LiveMetrics
  early : List Increment
  steps : List Step
  ended : Duration
  /-- Ticks are taken one after the other. -/
  sorted : (tickTimes steps).Pairwise (· ≤ ·)

namespace CounterRun

/-- The live counters at the baseline. -/
def base (run : CounterRun) : LiveMetrics := run.early.foldl LiveMetrics.count run.start

/-- The live counters once every worker has stopped. -/
def final (run : CounterRun) : LiveMetrics := (runSteps run.base run.steps).2

/-- The samples before the last one. -/
def taken (run : CounterRun) : List CounterSample :=
  (0, run.base.snapshot) :: (runSteps run.base run.steps).1

/-- The samples `finish` returns. -/
def samples (run : CounterRun) : List CounterSample :=
  finish run.taken run.ended run.final.snapshot

/-- The stamp of the last sample. -/
def stamp (run : CounterRun) : Duration := finishStamp run.taken run.ended

/-- What workers counted after the first sample with the final stamp: the
baseline of a run that ends at 0, a tick otherwise. -/
def late (run : CounterRun) : List Increment :=
  if run.stamp = 0 then workOf run.steps else workAfter run.stamp run.steps

end CounterRun

/-! ## What the points add up to

Along a list of samples whose counters never fall, the differences add up to the
last sample that ends a point, minus the first. -/

namespace TimeSeries

/-- The last sample that ends a point, or `previous` when there is none. -/
def lastKept (previous : CounterSample) : List CounterSample → CounterSample
  | [] => previous
  | next :: rest =>
    if next.1 - previous.1 = 0 then lastKept previous rest else lastKept next rest

/-- Folding a sliver keeps the sums. -/
theorem sum_foldSliver (c : Counted) (interval : Duration) (points : List TimeSeriesPoint) :
    ((foldSliver interval points).map c.ofPoint).sum = (points.map c.ofPoint).sum := by
  match points with
  | [] => rfl
  | [_] => rfl
  -- only the last two points can be folded
  | [last, tail] =>
    unfold foldSliver
    split
    · simp [c.ofPoint_absorbTail]
    · rfl
  | point :: next :: after :: rest =>
    have ih := sum_foldSliver c interval (next :: after :: rest)
    show ((point :: foldSliver interval (next :: after :: rest)).map c.ofPoint).sum = _
    rw [List.map_cons, List.sum_cons, ih, ← List.sum_cons, ← List.map_cons]

/-- Along samples whose counter never falls, the last kept sample has at
least the first one's count. -/
theorem ofSnapshot_le_lastKept (c : Counted) {previous : CounterSample}
    {rest : List CounterSample}
    (hmono : (previous :: rest).Pairwise fun a b => c.ofSnapshot a.2 ≤ c.ofSnapshot b.2) :
    c.ofSnapshot previous.2 ≤ c.ofSnapshot (lastKept previous rest).2 := by
  induction rest generalizing previous with
  | nil => exact le_rfl
  | cons next rest ih =>
    obtain ⟨hprev, hrest⟩ := List.pairwise_cons.mp hmono
    unfold lastKept
    split
    · exact ih (List.pairwise_cons.mpr
        ⟨fun x hx => hprev x (List.mem_cons_of_mem _ hx), (List.pairwise_cons.mp hrest).2⟩)
    · exact (hprev next List.mem_cons_self).trans (ih hrest)

/-- The differences add up: the sum over the points is the last kept sample
minus the first. -/
theorem sum_pointsFrom (c : Counted) (store : IntervalStore) {previous : CounterSample}
    {rest : List CounterSample}
    (hmono : (previous :: rest).Pairwise fun a b => c.ofSnapshot a.2 ≤ c.ofSnapshot b.2) :
    ((pointsFrom store previous rest).map c.ofPoint).sum
      = c.ofSnapshot (lastKept previous rest).2 - c.ofSnapshot previous.2 := by
  induction rest generalizing previous with
  | nil => exact (Nat.sub_self _).symm
  | cons next rest ih =>
    obtain ⟨hprev, hrest⟩ := List.pairwise_cons.mp hmono
    unfold pointsFrom lastKept
    split
    · -- a sample with the stamp of the one before it makes no point
      exact ih (List.pairwise_cons.mpr
        ⟨fun x hx => hprev x (List.mem_cons_of_mem _ hx), (List.pairwise_cons.mp hrest).2⟩)
    · rw [List.map_cons, List.sum_cons, ih hrest, c.ofPoint_pointOf]
      have hnext := hprev next List.mem_cons_self
      have hlast := ofSnapshot_le_lastKept c hrest
      omega

/-- **What the points of a series add up to.** -/
theorem sum_build (c : Counted) (store : IntervalStore) (basis : String)
    {first : CounterSample} {rest : List CounterSample}
    (hmono : (first :: rest).Pairwise fun a b => c.ofSnapshot a.2 ≤ c.ofSnapshot b.2) :
    ((build (first :: rest) store basis).points.map c.ofPoint).sum
      = c.ofSnapshot (lastKept first rest).2 - c.ofSnapshot first.2 := by
  show ((foldSliver store.interval (pointsFrom store first rest)).map c.ofPoint).sum = _
  rw [sum_foldSliver, sum_pointsFrom c store hmono]

end TimeSeries

namespace CounterSampler

variable (c : Counted)

/-- The counters grow by the work of the steps. -/
theorem ofSnapshot_runSteps (live : LiveMetrics) (steps : List Step) :
    c.ofSnapshot (runSteps live steps).2.snapshot
      = c.ofSnapshot live.snapshot + ((workOf steps).map c.ofIncrement).sum := by
  induction steps generalizing live with
  | nil => rfl
  | cons step rest ih =>
    cases step with
    | work i =>
      show c.ofSnapshot (runSteps (live.count i) rest).2.snapshot = _
      rw [ih, live.ofSnapshot_count, workOf, List.map_cons, List.sum_cons, Nat.add_assoc]
    | tick at' => exact ih live

/-- Every sample has at least the counts at the start of the steps, and at
most those in the end. -/
theorem ofSnapshot_mem_runSteps {live : LiveMetrics} {steps : List Step}
    {sample : CounterSample} (hmem : sample ∈ (runSteps live steps).1) :
    c.ofSnapshot live.snapshot ≤ c.ofSnapshot sample.2
      ∧ c.ofSnapshot sample.2 ≤ c.ofSnapshot (runSteps live steps).2.snapshot := by
  induction steps generalizing live with
  | nil => cases hmem
  | cons step rest ih =>
    cases step with
    | work i =>
      obtain ⟨hlow, hhigh⟩ := ih hmem
      rw [live.ofSnapshot_count] at hlow
      exact ⟨(Nat.le_add_right _ _).trans hlow, hhigh⟩
    | tick at' =>
      rcases List.mem_cons.mp hmem with rfl | hrest
      · refine ⟨le_rfl, ?_⟩
        show c.ofSnapshot live.snapshot ≤ c.ofSnapshot (runSteps live rest).2.snapshot
        rw [ofSnapshot_runSteps]
        exact Nat.le_add_right _ _
      · exact ih hrest

/-- The samples of the steps, followed by the last one, never fall. -/
theorem pairwise_runSteps (live : LiveMetrics) (steps : List Step) (stamp : Duration) :
    ((runSteps live steps).1 ++ [(stamp, (runSteps live steps).2.snapshot)]).Pairwise
      fun a b => c.ofSnapshot a.2 ≤ c.ofSnapshot b.2 := by
  induction steps generalizing live with
  | nil => exact List.pairwise_singleton _ _
  | cons step rest ih =>
    cases step with
    | work i => exact ih (live.count i)
    | tick at' =>
      -- what a tick sees is at most what any later sample sees
      refine List.pairwise_cons.mpr ⟨fun sample hmem => ?_, ih live⟩
      rcases List.mem_append.mp hmem with htick | hlast
      · exact (ofSnapshot_mem_runSteps c htick).1
      · rw [List.mem_singleton] at hlast
        subst hlast
        show c.ofSnapshot live.snapshot ≤ c.ofSnapshot (runSteps live rest).2.snapshot
        rw [ofSnapshot_runSteps]
        exact Nat.le_add_right _ _

omit c in
/-- No sample in time order is later than the stamp of the last one. -/
theorem le_finishStamp {samples : List CounterSample}
    (hsorted : (samples.map Prod.fst).Pairwise (· ≤ ·)) (ended : Duration) {at' : Duration}
    (hmem : at' ∈ samples.map Prod.fst) : at' ≤ finishStamp samples ended := by
  rcases samples.eq_nil_or_concat' with rfl | ⟨front, last, rfl⟩
  · cases hmem
  · unfold finishStamp
    rw [List.getLast?_concat]
    rw [List.map_append, List.mem_append] at hmem
    rw [List.map_append, List.pairwise_append] at hsorted
    refine le_trans ?_ (le_max_right ended last.1)
    rcases hmem with hfront | hlast
    · exact hsorted.2.2 at' hfront last.1 (List.mem_singleton.mpr rfl)
    · exact (List.mem_singleton.mp hlast).le

/-- The times of the samples are those of the ticks. -/
theorem map_fst_runSteps (live : LiveMetrics) (steps : List Step) :
    (runSteps live steps).1.map Prod.fst = tickTimes steps := by
  induction steps generalizing live with
  | nil => rfl
  | cons step rest ih =>
    cases step with
    | work i => exact ih (live.count i)
    | tick at' => exact congrArg (at' :: ·) (ih live)

/-- When every later sample has the time of `previous`, none of them ends a
point. -/
theorem lastKept_of_all_eq {previous : CounterSample} {rest : List CounterSample}
    (h : ∀ sample ∈ rest, sample.1 = previous.1) :
    TimeSeries.lastKept previous rest = previous := by
  induction rest with
  | nil => rfl
  | cons next rest ih =>
    unfold TimeSeries.lastKept
    rw [if_pos (by rw [h next List.mem_cons_self, Nat.sub_self])]
    exact ih fun sample hmem => h sample (List.mem_cons_of_mem _ hmem)

/-- **What the series misses at the end**: the last kept sample is the first
one with the final stamp, and what is counted after it is lost. -/
theorem ofSnapshot_lastKept {stamp : Duration} {previous : CounterSample}
    (hbefore : previous.1 < stamp) {steps : List Step}
    (hsorted : (previous.1 :: tickTimes steps).Pairwise (· ≤ ·))
    (hstamp : ∀ at' ∈ tickTimes steps, at' ≤ stamp) (live : LiveMetrics) :
    c.ofSnapshot (runSteps live steps).2.snapshot
      = c.ofSnapshot (TimeSeries.lastKept previous
          ((runSteps live steps).1 ++ [(stamp, (runSteps live steps).2.snapshot)])).2
        + ((workAfter stamp steps).map c.ofIncrement).sum := by
  induction steps generalizing previous live with
  | nil =>
    show c.ofSnapshot live.snapshot
      = c.ofSnapshot (if stamp - previous.1 = 0 then previous else (stamp, live.snapshot)).2 + 0
    rw [if_neg (Nat.sub_ne_zero_of_lt hbefore), Nat.add_zero]
  | cons step rest ih =>
    cases step with
    | work i => exact ih hbefore hsorted hstamp (live.count i)
    | tick at' =>
      obtain ⟨hprev, hrest⟩ := List.pairwise_cons.mp hsorted
      have hat : previous.1 ≤ at' := hprev at' List.mem_cons_self
      have hle : at' ≤ stamp := hstamp at' List.mem_cons_self
      have hstamp' : ∀ t ∈ tickTimes rest, t ≤ stamp :=
        fun t ht => hstamp t (List.mem_cons_of_mem _ ht)
      show c.ofSnapshot (runSteps live rest).2.snapshot
        = c.ofSnapshot (if at' - previous.1 = 0 then TimeSeries.lastKept previous _
            else TimeSeries.lastKept (at', live.snapshot) _).2
          + ((if at' = stamp then workOf rest else workAfter stamp rest).map c.ofIncrement).sum
      by_cases hzero : at' - previous.1 = 0
      · -- the tick adds an empty interval, and the stamp is still ahead
        have hne : at' ≠ stamp :=
          ((Nat.le_of_sub_eq_zero hzero).trans_lt hbefore).ne
        rw [if_pos hzero, if_neg hne]
        refine ih hbefore (List.pairwise_cons.mpr ⟨fun t ht => ?_, (List.pairwise_cons.mp hrest).2⟩)
          hstamp' live
        exact hprev t (List.mem_cons_of_mem _ ht)
      · rw [if_neg hzero]
        by_cases heq : at' = stamp
        · -- the first sample with the final stamp: every later one has it too
          rw [if_pos heq, lastKept_of_all_eq]
          · exact ofSnapshot_runSteps c live rest
          · intro sample hmem
            rcases List.mem_append.mp hmem with htick | hlast
            · have htime : sample.1 ∈ tickTimes rest := by
                rw [← map_fst_runSteps live rest]
                exact List.mem_map_of_mem htick
              have hge := (List.pairwise_cons.mp hrest).1 sample.1 htime
              exact le_antisymm ((hstamp' sample.1 htime).trans heq.ge) hge
            · rw [List.mem_singleton] at hlast
              subst hlast
              exact heq.symm
        · rw [if_neg heq]
          exact @ih (at', live.snapshot) (lt_of_le_of_ne hle heq) hrest hstamp' live

end CounterSampler

namespace CounterRun

variable (run : CounterRun)

/-- The counters at the baseline. -/
theorem ofSnapshot_base (c : Counted) :
    c.ofSnapshot run.base.snapshot
      = c.ofSnapshot run.start.snapshot + (run.early.map c.ofIncrement).sum := by
  have hfold : ∀ (early : List Increment) (live : LiveMetrics),
      c.ofSnapshot (early.foldl LiveMetrics.count live).snapshot
        = c.ofSnapshot live.snapshot + (early.map c.ofIncrement).sum := by
    intro early
    induction early with
    | nil => exact fun _ => rfl
    | cons i rest ih =>
      intro live
      rw [List.foldl_cons, ih, live.ofSnapshot_count, List.map_cons, List.sum_cons,
        Nat.add_assoc]
  exact hfold run.early run.start

theorem samples_eq : run.samples = (0, run.base.snapshot)
    :: ((runSteps run.base run.steps).1 ++ [(run.stamp, run.final.snapshot)]) := rfl

/-- No tick is later than the final stamp. -/
theorem tick_le_stamp {at' : Duration} (h : at' ∈ tickTimes run.steps) : at' ≤ run.stamp := by
  have hsorted : (run.taken.map Prod.fst).Pairwise (· ≤ ·) := by
    show (0 :: (runSteps run.base run.steps).1.map Prod.fst).Pairwise (· ≤ ·)
    rw [CounterSampler.map_fst_runSteps]
    exact List.pairwise_cons.mpr ⟨fun _ _ => Nat.zero_le _, run.sorted⟩
  have hmem : at' ∈ run.taken.map Prod.fst := by
    show at' ∈ 0 :: (runSteps run.base run.steps).1.map Prod.fst
    rw [CounterSampler.map_fst_runSteps]
    exact List.mem_cons_of_mem _ h
  exact CounterSampler.le_finishStamp hsorted run.ended hmem

/-- The counters in the end, from the last kept sample. -/
theorem ofSnapshot_final (c : Counted) :
    c.ofSnapshot run.final.snapshot
      = c.ofSnapshot (TimeSeries.lastKept (0, run.base.snapshot)
          ((runSteps run.base run.steps).1 ++ [(run.stamp, run.final.snapshot)])).2
        + (run.late.map c.ofIncrement).sum := by
  unfold late
  by_cases hzero : run.stamp = 0
  · -- the run ends at 0, where the baseline is: nothing ends a point
    rw [if_pos hzero, CounterSampler.lastKept_of_all_eq]
    · exact CounterSampler.ofSnapshot_runSteps c run.base run.steps
    · intro sample hmem
      rcases List.mem_append.mp hmem with htick | hlast
      · have htime : sample.1 ∈ tickTimes run.steps := by
          rw [← CounterSampler.map_fst_runSteps run.base run.steps]
          exact List.mem_map_of_mem htick
        exact Nat.le_zero.mp ((run.tick_le_stamp htime).trans hzero.le)
      · rw [List.mem_singleton] at hlast
        rw [hlast]
        exact hzero
  · rw [if_neg hzero]
    refine @CounterSampler.ofSnapshot_lastKept c run.stamp (0, run.base.snapshot)
      (Nat.pos_of_ne_zero hzero) run.steps ?_ (fun _ => run.tick_le_stamp) run.base
    exact List.pairwise_cons.mpr ⟨fun _ _ => Nat.zero_le _, run.sorted⟩

end CounterRun

/-- **When the counters of a series add up to the run.** In every run, the
sums over the points of the five counters are what the live counters grew by
since the run's clock started, if and only if no worker counts anything
before the sampler's baseline, nor after the first sample that already has
the final stamp. -/
theorem series_adds_up_iff (run : CounterRun) (store : IntervalStore) (basis : String) :
    (∀ c : Counted, ((TimeSeries.build run.samples store basis).points.map c.ofPoint).sum
        = c.ofSnapshot run.final.snapshot - c.ofSnapshot run.start.snapshot)
      ↔ ∀ i ∈ run.early ++ run.late, ∀ c : Counted, c.ofIncrement i = 0 := by
  -- what the sum misses, counter by counter
  have hcounter : ∀ c : Counted,
      ((TimeSeries.build run.samples store basis).points.map c.ofPoint).sum
          = c.ofSnapshot run.final.snapshot - c.ofSnapshot run.start.snapshot
        ↔ ((run.early ++ run.late).map c.ofIncrement).sum = 0 := by
    intro c
    have hmono : ((0, run.base.snapshot) :: ((runSteps run.base run.steps).1
        ++ [(run.stamp, run.final.snapshot)])).Pairwise
        fun a b => c.ofSnapshot a.2 ≤ c.ofSnapshot b.2 :=
      CounterSampler.pairwise_runSteps c run.base (.tick 0 :: run.steps) run.stamp
    rw [run.samples_eq, TimeSeries.sum_build c store basis hmono, List.map_append,
      List.sum_append]
    have hkept := TimeSeries.ofSnapshot_le_lastKept c hmono
    have hbase := run.ofSnapshot_base c
    have hfinal := run.ofSnapshot_final c
    set kept := TimeSeries.lastKept (0, run.base.snapshot)
      ((runSteps run.base run.steps).1 ++ [(run.stamp, run.final.snapshot)])
    change c.ofSnapshot run.base.snapshot ≤ c.ofSnapshot kept.2 at hkept
    show c.ofSnapshot kept.2 - c.ofSnapshot run.base.snapshot = _ ↔ _
    rw [hfinal, hbase]
    rw [hbase] at hkept
    omega
  constructor
  · intro h i hi c
    have hzero := (hcounter c).mp (h c)
    exact List.sum_eq_zero_iff.mp hzero _ (List.mem_map_of_mem hi)
  · intro h c
    refine (hcounter c).mpr (List.sum_eq_zero_iff.mpr fun n hn => ?_)
    obtain ⟨i, hi, rfl⟩ := List.mem_map.mp hn
    exact h i hi c

/-- A run of 1.5 s in which a worker sends a message of 5 bytes before the
sampler's task is first polled. -/
def sentBeforeBaseline : CounterRun where
  start := .new 1
  early := [{ messagesSent := 1, bytesSent := 5 }]
  steps := [.tick (Duration.ofSecs 1)]
  ended := Duration.ofMillis 1500
  sorted := List.pairwise_singleton _ _

/-- The message is in the live counters and in no point. -/
theorem sentBeforeBaseline_lost :
    ((TimeSeries.build sentBeforeBaseline.samples (.new 0 (Duration.ofSecs 1)) "rtt").points.map
        Counted.messagesSent.ofPoint).sum
      ≠ Counted.messagesSent.ofSnapshot sentBeforeBaseline.final.snapshot
        - Counted.messagesSent.ofSnapshot sentBeforeBaseline.start.snapshot := by
  rw [CounterRun.samples_eq, TimeSeries.sum_build]
  · decide
  · exact CounterSampler.pairwise_runSteps _ _ (.tick 0 :: sentBeforeBaseline.steps) _

end WsBlast
