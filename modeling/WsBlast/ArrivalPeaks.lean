import WsBlast.Outcome

/-!
# The most sessions open at once

An arrival-rate run observes how many sessions are open and keeps the highest
count, of the run and of each time-series interval (`ArrivalCounts.observe`).
The highest count of the run is the highest of its intervals
(`ArrivalCounts.Peaked`), and adding the counts of another machine keeps it so
(`Peaked.add`), although the sum of two peaks is only clamped: the clamp is
never too low. So the peak of several machines is the highest sum of one
interval, in whatever order they are added.

A run keeps a list of peaks, one for each interval, and a peak of its own. On
one machine the second is the highest of the first, since every observation is
in some interval. Two machines were observed at different moments, so the
highest count of both together is not known; what is known for each interval is
that it is at most the sum of the two peaks, and that is what is reported.
-/

namespace WsBlast

/-! ## The highest of a list

A few facts on the maximum of a list of numbers, with 0 for the empty one. -/

/-- The highest of some counts, 0 when there are none. -/
def highest (counts : List ℕ) : ℕ := counts.foldr max 0

theorem le_highest {counts : List ℕ} {n : ℕ} (h : n ∈ counts) : n ≤ highest counts := by
  induction counts with
  | nil => exact absurd h List.not_mem_nil
  | cons count rest ih =>
    rcases List.mem_cons.mp h with rfl | hrest
    · exact le_max_left _ _
    · exact (ih hrest).trans (le_max_right _ _)

theorem highest_le {counts : List ℕ} {bound : ℕ} (h : ∀ n ∈ counts, n ≤ bound) :
    highest counts ≤ bound := by
  induction counts with
  | nil => exact Nat.zero_le bound
  | cons count rest ih =>
    exact max_le (h count List.mem_cons_self) (ih fun n hn => h n (List.mem_cons_of_mem _ hn))

theorem highest_mem {counts : List ℕ} (h : counts ≠ []) : highest counts ∈ counts := by
  induction counts with
  | nil => exact absurd rfl h
  | cons count rest ih =>
    show max count (highest rest) ∈ count :: rest
    rcases max_choice count (highest rest) with hmax | hmax
    · rw [hmax]
      exact List.mem_cons_self
    · rw [hmax]
      by_cases hrest : rest = []
      · rw [hrest] at hmax ⊢
        have hzero : count = 0 := Nat.le_zero.mp ((le_max_left count (highest [])).trans hmax.le)
        rw [hzero]
        exact List.mem_cons_self
      · exact List.mem_cons_of_mem _ (ih hrest)

theorem highest_append (counts others : List ℕ) :
    highest (counts ++ others) = max (highest counts) (highest others) := by
  induction counts with
  | nil => exact (Nat.zero_max _).symm
  | cons count rest ih =>
    show max count (highest (rest ++ others)) = max (max count (highest rest)) (highest others)
    rw [ih, max_assoc]

theorem highest_replicate_le (n count : ℕ) : highest (List.replicate n count) ≤ count :=
  highest_le fun _ hmem => (List.eq_of_mem_replicate hmem).le

/-- Raising one of the counts. -/
theorem highest_modify_max {counts : List ℕ} {index : ℕ} (h : index < counts.length) (n : ℕ) :
    highest (counts.modify index (max · n)) = max (highest counts) n := by
  induction counts generalizing index with
  | nil => exact absurd h (Nat.not_lt_zero index)
  | cons count rest ih =>
    cases index with
    | zero =>
      show max (max count n) (highest rest) = max (max count (highest rest)) n
      exact max_right_comm count n (highest rest)
    | succ index =>
      show max count (highest (rest.modify index (max · n))) = max (max count (highest rest)) n
      rw [ih (Nat.lt_of_succ_lt_succ h), max_assoc]

/-- `max?` finds the highest. -/
theorem max?_eq_highest {counts : List ℕ} (h : counts ≠ []) :
    counts.max? = some (highest counts) :=
  List.max?_eq_some_iff.mpr ⟨highest_mem h, fun _ hn => le_highest hn⟩

namespace ArrivalCounts

/-! ## Observing one machine

What an observation does to the list of peaks: it is made long enough, and one
of its entries is raised. -/

/-- Records `opened` sessions open in an interval. An interval that passed
without an observation gets the first count of the next one. -/
def observe (counts : ArrivalCounts) (interval opened : ℕ) : ArrivalCounts :=
  let peaks :=
    counts.intervalPeaks
      ++ List.replicate (interval + 1 - counts.intervalPeaks.length) opened
  { counts with
    intervalPeaks := peaks.modify interval (max · opened)
    peakOpen := max counts.peakOpen opened }

/-- The highest count of one interval, 0 beyond the last. -/
def peakIn (counts : ArrivalCounts) (interval : ℕ) : ℕ := counts.intervalPeaks.getD interval 0

/-- The highest count of the run is that of its intervals. -/
def Peaked (counts : ArrivalCounts) : Prop := counts.peakOpen = highest counts.intervalPeaks

theorem peaked_new (started skipped : ℕ) : ({ started, skipped } : ArrivalCounts).Peaked := rfl

theorem Peaked.peakIn_le {counts : ArrivalCounts} (h : counts.Peaked) (interval : ℕ) :
    counts.peakIn interval ≤ counts.peakOpen := by
  unfold peakIn
  rw [h]
  by_cases hlt : interval < counts.intervalPeaks.length
  · rw [List.getD_eq_getElem _ _ hlt]
    exact le_highest (List.getElem_mem hlt)
  · rw [List.getD_eq_default _ _ (Nat.le_of_not_lt hlt)]
    exact Nat.zero_le _

/-- **An observation keeps the peak the highest of the intervals.** -/
theorem Peaked.observe {counts : ArrivalCounts} (h : counts.Peaked) (interval opened : ℕ) :
    (counts.observe interval opened).Peaked := by
  have hlt : interval < (counts.intervalPeaks ++ List.replicate
      (interval + 1 - counts.intervalPeaks.length) opened).length := by
    rw [List.length_append, List.length_replicate]
    omega
  show max counts.peakOpen opened = highest (List.modify _ interval (max · opened))
  rw [highest_modify_max hlt opened, highest_append, max_assoc,
    max_eq_right (highest_replicate_le _ opened), h]

/-- What an agent did with its arrivals: how many it started and skipped, and
what it observed, each count with its interval. -/
structure Observed where
  started : ℕ
  skipped : ℕ
  observations : List (ℕ × ℕ)

/-- Records what was observed, from first to last. -/
def observeAll (counts : ArrivalCounts) (observations : List (ℕ × ℕ)) : ArrivalCounts :=
  observations.foldl (fun counts seen => counts.observe seen.1 seen.2) counts

theorem Peaked.observeAll {counts : ArrivalCounts} (h : counts.Peaked)
    (observations : List (ℕ × ℕ)) : (counts.observeAll observations).Peaked := by
  induction observations generalizing counts with
  | nil => exact h
  | cons first rest ih => exact ih (h.observe first.1 first.2)

/-- The counts of an agent. -/
def Observed.counts (agent : Observed) : ArrivalCounts :=
  { ArrivalCounts.observeAll {} agent.observations with
    started := agent.started
    skipped := agent.skipped }

theorem Observed.peaked (agent : Observed) : agent.counts.Peaked :=
  (peaked_new 0 0).observeAll agent.observations

/-! ## Adding machines

Two lists of peaks are made as long as the longer one and added. -/

theorem getD_resize (peaks : List ℕ) (n interval : ℕ) :
    (resize peaks n).getD interval 0 = peaks.getD interval 0 := by
  unfold resize
  by_cases hlt : interval < peaks.length
  · rw [List.getD_append _ _ _ _ hlt]
  · rw [List.getD_append_right _ _ _ _ (Nat.le_of_not_lt hlt),
      List.getD_eq_default _ _ (Nat.le_of_not_lt hlt)]
    by_cases hfill : interval - peaks.length < n - peaks.length
    · exact List.getD_replicate 0 hfill
    · exact List.getD_eq_default _ _ (by rw [List.length_replicate]; omega)

theorem length_resize (peaks : List ℕ) (n : ℕ) : (resize peaks n).length = max peaks.length n := by
  unfold resize
  rw [List.length_append, List.length_replicate]
  omega

theorem length_add (counts other : ArrivalCounts) :
    (counts.add other).intervalPeaks.length
      = max counts.intervalPeaks.length other.intervalPeaks.length := by
  show (List.zipWith (· + ·) _ _).length = _
  rw [List.length_zipWith, length_resize, length_resize]
  omega

/-- The peaks of an interval add up. -/
theorem peakIn_add (counts other : ArrivalCounts) (interval : ℕ) :
    (counts.add other).peakIn interval = counts.peakIn interval + other.peakIn interval := by
  unfold peakIn
  rw [← getD_resize counts.intervalPeaks other.intervalPeaks.length,
    ← getD_resize other.intervalPeaks
      (resize counts.intervalPeaks other.intervalPeaks.length).length]
  show (List.zipWith (· + ·) _ _).getD interval 0 = _
  have hlength : (resize counts.intervalPeaks other.intervalPeaks.length).length
      = (resize other.intervalPeaks
        (resize counts.intervalPeaks other.intervalPeaks.length).length).length := by
    rw [length_resize other.intervalPeaks, length_resize]
    omega
  generalize resize other.intervalPeaks _ = theirs at hlength ⊢
  generalize resize counts.intervalPeaks _ = ours at hlength ⊢
  by_cases hlt : interval < ours.length
  · have hlt' : interval < theirs.length := hlength ▸ hlt
    rw [List.getD_eq_getElem _ _ (by rw [List.length_zipWith]; omega),
      List.getD_eq_getElem _ _ hlt, List.getD_eq_getElem _ _ hlt', List.getElem_zipWith]
  · rw [List.getD_eq_default _ _ (by rw [List.length_zipWith]; omega),
      List.getD_eq_default _ _ (Nat.le_of_not_lt hlt), List.getD_eq_default _ _ (by omega)]

/-- The sum of two peaks, at most the highest interval when there is one. -/
theorem peakOpen_add (counts other : ArrivalCounts) :
    (counts.add other).peakOpen
      = (counts.add other).intervalPeaks.max?.elim (counts.peakOpen + other.peakOpen)
          (min (counts.peakOpen + other.peakOpen)) := by
  unfold add
  dsimp only
  split
  · rename_i highest hmax
    rw [hmax]
    rfl
  · rename_i hmax
    rw [hmax]
    rfl

/-- **The sum of two peaks is never below the highest interval**, so clamping it
gives that. -/
theorem Peaked.add {counts other : ArrivalCounts} (h : counts.Peaked) (hother : other.Peaked) :
    (counts.add other).Peaked := by
  have hbound : highest (counts.add other).intervalPeaks ≤ counts.peakOpen + other.peakOpen := by
    refine highest_le fun n hn => ?_
    obtain ⟨interval, hlt, rfl⟩ := List.mem_iff_getElem.mp hn
    have hsum := peakIn_add counts other interval
    unfold peakIn at hsum
    rw [List.getD_eq_getElem _ _ hlt] at hsum
    rw [hsum]
    exact Nat.add_le_add (h.peakIn_le interval) (hother.peakIn_le interval)
  unfold Peaked
  rw [peakOpen_add]
  by_cases hempty : (counts.add other).intervalPeaks = []
  · have hlength := length_add counts other
    rw [hempty] at hlength ⊢
    have hcounts : counts.intervalPeaks = [] := List.length_eq_zero_iff.mp (by simp at hlength; omega)
    have hothers : other.intervalPeaks = [] := List.length_eq_zero_iff.mp (by simp at hlength; omega)
    show counts.peakOpen + other.peakOpen = highest []
    rw [h, hother, hcounts, hothers]
    rfl
  · rw [max?_eq_highest hempty]
    exact min_eq_right hbound

/-- The counts of several agents, added in order. -/
def merged (agents : List Observed) : ArrivalCounts :=
  (agents.map Observed.counts).foldl add {}

/-- The agents added in order, on top of what was added before. -/
theorem merged_append (agents : List Observed) (agent : Observed) :
    merged (agents ++ [agent]) = (merged agents).add agent.counts := by
  unfold merged
  rw [List.map_append, List.foldl_append]
  rfl

theorem started_merged (agents : List Observed) :
    (merged agents).started = (agents.map Observed.started).sum := by
  induction agents using List.reverseRecOn with
  | nil => rfl
  | append_singleton agents agent ih =>
    rw [merged_append, List.map_append, List.sum_append, ← ih]
    rfl

theorem skipped_merged (agents : List Observed) :
    (merged agents).skipped = (agents.map Observed.skipped).sum := by
  induction agents using List.reverseRecOn with
  | nil => rfl
  | append_singleton agents agent ih =>
    rw [merged_append, List.map_append, List.sum_append, ← ih]
    rfl

theorem peakIn_merged (agents : List Observed) (interval : ℕ) :
    (merged agents).peakIn interval
      = (agents.map fun agent => agent.counts.peakIn interval).sum := by
  induction agents using List.reverseRecOn with
  | nil => rfl
  | append_singleton agents agent ih =>
    rw [merged_append, peakIn_add, ih, List.map_append, List.sum_append]
    rfl

theorem length_merged (agents : List Observed) :
    (merged agents).intervalPeaks.length
      = highest (agents.map fun agent => agent.counts.intervalPeaks.length) := by
  induction agents using List.reverseRecOn with
  | nil => rfl
  | append_singleton agents agent ih =>
    rw [merged_append, length_add, ih, List.map_append, highest_append]
    show max _ _ = max _ (max _ 0)
    rw [Nat.max_zero]

theorem peaked_merged (agents : List Observed) : (merged agents).Peaked := by
  induction agents using List.reverseRecOn with
  | nil => exact peaked_new 0 0
  | append_singleton agents agent ih =>
    rw [merged_append]
    exact ih.add agent.peaked

/-- Counts with the same intervals and sums are the same. -/
theorem Peaked.ext {counts other : ArrivalCounts} (h : counts.Peaked) (hother : other.Peaked)
    (hstarted : counts.started = other.started) (hskipped : counts.skipped = other.skipped)
    (hlength : counts.intervalPeaks.length = other.intervalPeaks.length)
    (hpeaks : ∀ interval, counts.peakIn interval = other.peakIn interval) : counts = other := by
  have hintervals : counts.intervalPeaks = other.intervalPeaks := by
    refine List.ext_getElem hlength fun interval hlt hlt' => ?_
    have hpeak := hpeaks interval
    unfold peakIn at hpeak
    rw [List.getD_eq_getElem _ _ hlt, List.getD_eq_getElem _ _ hlt'] at hpeak
    exact hpeak
  have hopen : counts.peakOpen = other.peakOpen := by rw [h, hother, hintervals]
  cases counts
  cases other
  simp_all

theorem highest_perm {counts others : List ℕ} (h : counts.Perm others) :
    highest counts = highest others := by
  refine le_antisymm (highest_le fun n hn => ?_) (highest_le fun n hn => ?_)
  · exact le_highest (h.mem_iff.mp hn)
  · exact le_highest (h.mem_iff.mpr hn)

/-- What the merged counts of some agents say. -/
structure MergedPeaks (agents : List Observed) (counts : ArrivalCounts) : Prop where
  started : counts.started = (agents.map Observed.started).sum
  skipped : counts.skipped = (agents.map Observed.skipped).sum
  /-- The merged run has as many intervals as the longest. -/
  intervals : counts.intervalPeaks.length
    = highest (agents.map fun agent => agent.counts.intervalPeaks.length)
  peakIn : ∀ interval, counts.peakIn interval
    = (agents.map fun agent => agent.counts.peakIn interval).sum
  peakOpen : counts.peakOpen = highest counts.intervalPeaks
  above : ∀ agent ∈ agents, agent.counts.peakOpen ≤ counts.peakOpen
  below : counts.peakOpen ≤ (agents.map fun agent => agent.counts.peakOpen).sum
  /-- The order of the agents does not matter. -/
  perm : ∀ others : List Observed, others.Perm agents → merged others = counts

/-- **The merged arrival peak** is the highest sum of one interval, whatever the
order of the agents. -/
theorem mergedPeaks (agents : List Observed) : MergedPeaks agents (merged agents) where
  started := started_merged agents
  skipped := skipped_merged agents
  intervals := length_merged agents
  peakIn := peakIn_merged agents
  peakOpen := peaked_merged agents
  above := by
    intro agent hagent
    rw [agent.peaked]
    refine highest_le fun n hn => ?_
    obtain ⟨interval, hlt, rfl⟩ := List.mem_iff_getElem.mp hn
    have hone : agent.counts.peakIn interval ≤ (merged agents).peakIn interval := by
      rw [peakIn_merged]
      exact List.single_le_sum (fun _ _ => Nat.zero_le _) _ (List.mem_map_of_mem hagent)
    have hpeak : agent.counts.peakIn interval = agent.counts.intervalPeaks[interval] :=
      List.getD_eq_getElem _ _ hlt
    exact hpeak ▸ hone.trans ((peaked_merged agents).peakIn_le interval)
  below := by
    rw [peaked_merged agents]
    refine highest_le fun n hn => ?_
    obtain ⟨interval, hlt, rfl⟩ := List.mem_iff_getElem.mp hn
    have hpeak : (merged agents).peakIn interval = (merged agents).intervalPeaks[interval] :=
      List.getD_eq_getElem _ _ hlt
    rw [← hpeak, peakIn_merged]
    exact List.sum_le_sum fun agent _ => agent.peaked.peakIn_le interval
  perm := by
    intro others hperm
    refine (peaked_merged others).ext (peaked_merged agents) ?_ ?_ ?_ fun interval => ?_
    · rw [started_merged, started_merged]
      exact (hperm.map _).sum_eq
    · rw [skipped_merged, skipped_merged]
      exact (hperm.map _).sum_eq
    · rw [length_merged, length_merged]
      exact highest_perm (hperm.map _)
    · rw [peakIn_merged, peakIn_merged]
      exact (hperm.map _).sum_eq

end ArrivalCounts

end WsBlast
