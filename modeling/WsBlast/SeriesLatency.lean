import WsBlast.Sampler

/-!
# Latency samples in the series

A latency sample belongs to the interval it was recorded in, and a point
reads the histogram of the interval that its start lies in. A sample is
therefore in as many points as start in its interval, and in exactly one
when the sampler is punctual: every tick is taken before the next one is
due, the run ends within an interval of its last tick, and not so soon after
it that the last point is folded away with its histogram
(`Punctual`). `latencyCount_eq_iff_punctual` says that this is also
necessary.

The counters of a point are differences between its two samples, but its latency
is looked up: the interval that the start of the point lies in is found by
division, and the histogram of that interval is the point's. The two views agree
as long as points and intervals go in step.
-/

namespace WsBlast

/-! ## What a store holds

A store with the samples of a run, recorded at any times and in any order, has
in each interval those recorded in it. -/

namespace IntervalStore

/-- The number of samples in interval `bucket`. -/
def countIn (store : IntervalStore) (bucket : ℕ) : ℕ :=
  (store.buckets[bucket]?).elim 0 Hdr.Hist.total

/-- Hands a store one sample recorded `at'` after its start. -/
def absorbAt (store : IntervalStore) (sample : Duration × ℕ) : IntervalStore :=
  store.absorbSamples (store.bucketOf (store.start + sample.1)) [clampUs sample.2]

/-- A store that was handed `samples`: the time each was recorded, from the
start of the run, and its value. -/
def ofSamples (start : Instant) (interval : Duration) (samples : List (Duration × ℕ)) :
    IntervalStore :=
  samples.foldl absorbAt (new start interval)

@[simp] theorem absorbAt_interval (store : IntervalStore) (sample : Duration × ℕ) :
    (store.absorbAt sample).interval = store.interval := rfl

/-- A sample is counted in the interval it was recorded in. -/
theorem countIn_absorbAt (store : IntervalStore) (sample : Duration × ℕ) (bucket : ℕ) :
    (store.absorbAt sample).countIn bucket
      = store.countIn bucket + if sample.1 / store.interval = bucket then 1 else 0 := by
  have hbucket : store.bucketOf (store.start + sample.1) = sample.1 / store.interval := by
    unfold bucketOf
    rw [Nat.add_sub_cancel_left]
  have hclamp : clampUs sample.2 ≤ highestUs := Nat.min_le_right _ _
  unfold countIn absorbAt absorbSamples
  rw [hbucket]
  by_cases hb : sample.1 / store.interval = bucket
  · rw [if_pos hb, hb, Std.ExtTreeMap.getElem?_alter_self, Option.elim_some, List.foldl_cons,
      List.foldl_nil, IntervalHistogram.total_record _ hclamp]
    cases store.buckets[bucket]? with
    | none => rw [Option.getD_none, Option.elim_none, Hdr.Hist.total_zero]
    | some hist => rw [Option.getD_some, Option.elim_some]
  · rw [if_neg hb, Nat.add_zero, Std.ExtTreeMap.getElem?_alter, if_neg (by simpa using hb)]

/-- **What a store holds**: in every interval, the samples recorded in it. -/
theorem countIn_ofSamples (start : Instant) (interval : Duration) (samples : List (Duration × ℕ))
    (bucket : ℕ) :
    (ofSamples start interval samples).countIn bucket
      = samples.countP fun sample => sample.1 / interval = bucket := by
  have hfold : ∀ (samples : List (Duration × ℕ)) (store : IntervalStore),
      (samples.foldl absorbAt store).countIn bucket
        = store.countIn bucket
          + samples.countP fun sample => sample.1 / store.interval = bucket := by
    intro samples
    induction samples with
    | nil => exact fun _ => rfl
    | cons sample rest ih =>
      intro store
      rw [List.foldl_cons, ih, countIn_absorbAt, List.countP_cons, absorbAt_interval]
      simp only [decide_eq_true_eq]
      omega
  unfold ofSamples
  rw [hfold]
  show ((∅ : Std.ExtTreeMap ℕ IntervalHistogram compare)[bucket]?).elim 0 Hdr.Hist.total + _ = _
  rw [Std.ExtTreeMap.getElem?_empty, Option.elim_none, Nat.zero_add]
  rfl

theorem interval_ofSamples (start : Instant) (interval : Duration)
    (samples : List (Duration × ℕ)) : (ofSamples start interval samples).interval = interval := by
  have hfold : ∀ (samples : List (Duration × ℕ)) (store : IntervalStore),
      (samples.foldl absorbAt store).interval = store.interval := by
    intro samples
    induction samples with
    | nil => exact fun _ => rfl
    | cons sample rest ih => exact fun store => ih (store.absorbAt sample)
  exact hfold samples _

end IntervalStore

/-! ## What the points read

The number of samples over all points, computed from the side of the samples. -/

/-- The number of samples over all points of a series. -/
def TimeSeries.latencyCount (series : TimeSeries) : ℕ :=
  (series.points.map fun point => point.latency.count).sum

/-- A count as a sum over the list. -/
theorem countP_eq_sum {B : Type} (p : B → Bool) (bs : List B) :
    bs.countP p = (bs.map fun b => if p b then 1 else 0).sum := by
  induction bs with
  | nil => rfl
  | cons b rest ih => rw [List.countP_cons, List.map_cons, List.sum_cons, Nat.add_comm, ih]

/-- Counting pairs by either side. -/
theorem sum_countP_comm {A B : Type} (r : A → B → Bool) (as : List A) (bs : List B) :
    (as.map fun a => bs.countP (r a)).sum = (bs.map fun b => as.countP (r · b)).sum := by
  induction as with
  | nil => simp
  | cons a rest ih =>
    rw [List.map_cons, List.sum_cons, ih]
    simp only [List.countP_cons]
    rw [List.sum_map_add, Nat.add_comm, countP_eq_sum]

/-- **A sample is in as many points as start in its interval.** -/
theorem latencyCount_build {first : CounterSample} {rest : List CounterSample}
    (hsorted : (first :: rest).Pairwise fun a b => a.1 ≤ b.1) {interval : Duration}
    (hinterval : 0 < interval) (start : Instant) (basis : String)
    (samples : List (Duration × ℕ)) :
    (TimeSeries.build (first :: rest) (.ofSamples start interval samples) basis).latencyCount
      = (samples.map fun sample =>
          (TimeSeries.startTimes interval ((first :: rest).map Prod.fst)).countP
            fun t => t / interval = sample.1 / interval).sum := by
  unfold TimeSeries.latencyCount
  rw [TimeSeries.map_build_points hsorted _ basis (fun point => point.latency.count)
    (fun t => (IntervalStore.ofSamples start interval samples).countIn (t / interval))]
  · rw [IntervalStore.interval_ofSamples]
    simp only [IntervalStore.countIn_ofSamples]
    rw [sum_countP_comm fun (t : Duration) (sample : Duration × ℕ) =>
      decide (sample.1 / interval = t / interval)]
    simp only [eq_comm]
  · intro a b
    show (IntervalLatency.fromHistogram _).count = _
    rw [IntervalLatency.count_fromHistogram, IntervalStore.interval_ofSamples]
    unfold TimeSeries.buildIndex
    rw [Nat.max_eq_left hinterval]
    rfl
  · exact fun _ _ => rfl

/-! ## A punctual sampler

Ticks are never early: the timer of the source fires at or after the time a tick
is due. -/

/-- The ticks taken before the stamp of the last sample. -/
def ticksBefore (ticks : List Duration) (stamp : Duration) : List Duration :=
  ticks.filter (· < stamp)

/-- The sampler of a run was punctual. The `k`-th tick, counted from 0, is
due at `(k + 1) * interval`. -/
structure Punctual (interval : Duration) (ticks : List Duration) (stamp : Duration) : Prop where
  /-- Every tick before the end is taken before the next one is due. -/
  in_time : ∀ k (hk : k < (ticksBefore ticks stamp).length),
    (ticksBefore ticks stamp)[k] < (k + 2) * interval
  /-- The run ends within an interval of the last of them. -/
  no_gap : stamp ≤ ((ticksBefore ticks stamp).length + 1) * interval
  /-- It does not end within a twentieth of an interval after it. -/
  no_sliver : ∀ t ∈ (ticksBefore ticks stamp).getLast?, interval ≤ 20 * (stamp - t)

section Starts

variable {interval stamp : Duration}

/-- The distinct values of a list that ends in its largest one. -/
theorem dedup_append_max {times : List Duration} (hle : ∀ t ∈ times, t ≤ stamp) :
    (times ++ [stamp]).dedup = (times.filter (· < stamp)).dedup ++ [stamp] := by
  induction times with
  | nil => rfl
  | cons t rest ih =>
    have ih := ih fun t ht => hle t (List.mem_cons_of_mem _ ht)
    rw [List.cons_append]
    rcases (hle t List.mem_cons_self).lt_or_eq with hlt | heq
    · rw [List.filter_cons_of_pos (by simpa using hlt)]
      have hmem : t ∈ rest ++ [stamp] ↔ t ∈ rest.filter (· < stamp) := by
        rw [List.mem_append, List.mem_singleton, List.mem_filter]
        simp [hlt, hlt.ne]
      by_cases ht : t ∈ rest.filter (· < stamp)
      · rw [List.dedup_cons_of_mem (hmem.mpr ht), List.dedup_cons_of_mem ht, ih]
      · rw [List.dedup_cons_of_notMem (mt hmem.mp ht), List.dedup_cons_of_notMem ht, ih,
          List.cons_append]
    · rw [List.filter_cons_of_neg (by simp [heq]), List.dedup_cons_of_mem, ih]
      rw [heq]
      exact List.mem_append_right _ (List.mem_singleton.mpr rfl)

/-- What is left of the starts when the last point may be a sliver. -/
theorem dropSliver_concat {front : List Duration} (hfront : front ≠ []) (sliver last : Duration) :
    TimeSeries.dropSliver interval (front ++ [sliver, last])
      = if 20 * (last - sliver) < interval then front else front ++ [sliver] := by
  induction front with
  | nil => exact absurd rfl hfront
  | cons a rest ih =>
    cases rest with
    | nil => rfl
    | cons b rest =>
      have hcons : TimeSeries.dropSliver interval (a :: b :: rest ++ [sliver, last])
          = a :: TimeSeries.dropSliver interval (b :: rest ++ [sliver, last]) := by
        rcases rest with _ | ⟨c, _ | ⟨d, rest⟩⟩ <;> rfl
      rw [hcons, ih (List.cons_ne_nil _ _)]
      split <;> rfl

/-- The starts are among the times before the last one, none of them twice. -/
theorem dropSliver_sublist (times : List Duration) (last : Duration) :
    (TimeSeries.dropSliver interval (times ++ [last])).Sublist times := by
  rcases times.eq_nil_or_concat' with rfl | ⟨front, sliver, rfl⟩
  · exact List.Sublist.refl _
  · rw [List.append_assoc]
    by_cases hfront : front = []
    · subst hfront
      exact List.Sublist.refl _
    · show (TimeSeries.dropSliver interval (front ++ [sliver, last])).Sublist _
      rw [dropSliver_concat hfront]
      split
      · exact List.sublist_append_left _ _
      · exact List.Sublist.refl _

/-- When every one of the first `n` intervals holds a time of a list, the
list has at least `n` times. -/
theorem le_length_of_intervals (interval : Duration) {starts : List Duration} {n : ℕ}
    (h : ∀ k < n, ∃ t ∈ starts, t / interval = k) : n ≤ starts.length := by
  have hsub : Finset.range n ⊆ (starts.map (· / interval)).toFinset := by
    intro k hk
    obtain ⟨t, ht, heq⟩ := h k (Finset.mem_range.mp hk)
    exact List.mem_toFinset.mpr (List.mem_map.mpr ⟨t, ht, heq⟩)
  calc n = (Finset.range n).card := (Finset.card_range n).symm
    _ ≤ (starts.map (· / interval)).toFinset.card := Finset.card_le_card hsub
    _ ≤ (starts.map (· / interval)).length := List.toFinset_card_le _
    _ = starts.length := List.length_map _

/-- Ticks are taken in order, each at or after it is due. -/
structure TicksInOrder (interval : Duration) (ticks : List Duration) : Prop where
  sorted : ticks.Pairwise (· ≤ ·)
  due : ∀ k (hk : k < ticks.length), (k + 1) * interval ≤ ticks[k]

/-- The ticks before the end are taken in order, too. -/
theorem TicksInOrder.before {ticks : List Duration} (h : TicksInOrder interval ticks)
    (stamp : Duration) : TicksInOrder interval (ticksBefore ticks stamp) where
  sorted := h.sorted.sublist List.filter_sublist
  due := by
    intro k hk
    obtain ⟨f, hf⟩ := List.sublist_iff_exists_orderEmbedding_getElem?_eq.mp
      (List.filter_sublist : (ticksBefore ticks stamp).Sublist ticks)
    have hget : (ticksBefore ticks stamp)[k]? = ticks[f k]? := hf k
    rw [List.getElem?_eq_getElem hk] at hget
    obtain ⟨hlt, heq⟩ := List.getElem?_eq_some_iff.mp hget.symm
    rw [← heq]
    refine le_trans (Nat.mul_le_mul_right _ ?_) (h.due (f k) hlt)
    exact Nat.succ_le_succ (f.strictMono.id_le k)

/-- The times of a sampled run: the baseline, the ticks and the end. -/
def sampledTimes (ticks : List Duration) (stamp : Duration) : List Duration :=
  0 :: ticks ++ [stamp]

/-- The points of a run that does not end at 0 start at its baseline and its
ticks before the end, a sliver aside. -/
theorem startTimes_sampledTimes {ticks : List Duration} (hpos : 0 < stamp)
    (hle : ∀ t ∈ ticks, t ≤ stamp) :
    TimeSeries.startTimes interval (sampledTimes ticks stamp)
      = TimeSeries.dropSliver interval ((0 :: ticksBefore ticks stamp).dedup ++ [stamp]) := by
  have hall : ∀ t ∈ 0 :: ticks, t ≤ stamp := by
    intro t ht
    rcases List.mem_cons.mp ht with rfl | hin
    · exact Nat.zero_le _
    · exact hle t hin
  unfold TimeSeries.startTimes sampledTimes
  rw [dedup_append_max hall, List.filter_cons_of_pos (by simpa using hpos)]
  rfl

/-- Exactly one point starts in every interval that begins before the
end. -/
def Covered (interval : Duration) (ticks : List Duration) (stamp : Duration) : Prop :=
  ∀ k, k * interval < stamp →
    (TimeSeries.startTimes interval (sampledTimes ticks stamp)).countP
      (fun t => t / interval = k) = 1

/-- With a punctual sampler, exactly one point starts in every interval. -/
theorem covered_of_punctual {ticks : List Duration} (hpos : 0 < stamp)
    (hle : ∀ t ∈ ticks, t ≤ stamp) (hticks : TicksInOrder interval ticks)
    (h : Punctual interval ticks stamp) : Covered interval ticks stamp := by
  have horder := hticks.before stamp
  set before := ticksBefore ticks stamp with hbefore
  -- the baseline and the ticks fall one into each interval
  have hindex : (0 :: before).map (· / interval) = List.range (before.length + 1) := by
    refine List.ext_getElem (by simp) fun k hk hk' => ?_
    rw [List.getElem_map, List.getElem_range]
    cases k with
    | zero => exact Nat.zero_div _
    | succ k =>
      rw [List.getElem_cons_succ]
      have hlen : k < before.length := by simpa using hk
      exact Nat.div_eq_of_lt_le (horder.due k hlen) (h.in_time k hlen)
  have hnodup : (0 :: before).Nodup :=
    List.Nodup.of_map (· / interval) (hindex ▸ List.nodup_range)
  have hstarts : TimeSeries.startTimes interval (sampledTimes ticks stamp) = 0 :: before := by
    rw [startTimes_sampledTimes hpos hle, ← hbefore, hnodup.dedup]
    rcases before.eq_nil_or_concat' with hnil | ⟨front, t, hconcat⟩
    · rw [hnil]
      rfl
    · have hlast : t ∈ before.getLast? := by rw [hconcat, List.getLast?_concat]; rfl
      have hlong := h.no_sliver t hlast
      rw [hconcat]
      show TimeSeries.dropSliver interval ((0 :: front) ++ [t] ++ [stamp]) = _
      rw [List.append_assoc]
      show TimeSeries.dropSliver interval ((0 :: front) ++ [t, stamp]) = _
      rw [dropSliver_concat (List.cons_ne_nil _ _), if_neg (Nat.not_lt.mpr hlong)]
      rfl
  intro k hk
  have hlt : k < before.length + 1 :=
    Nat.lt_of_mul_lt_mul_right (hk.trans_le h.no_gap)
  have hcount : (0 :: before).countP (fun t => t / interval = k)
      = ((0 :: before).map (· / interval)).count k := by
    rw [List.count_eq_countP, List.countP_map]
    rfl
  rw [hstarts, hcount, hindex]
  exact List.count_eq_one_of_mem List.nodup_range (List.mem_range.mpr hlt)

/-- When exactly one point starts in every interval, the sampler was
punctual. -/
theorem punctual_of_covered {ticks : List Duration} (hinterval : 0 < interval) (hpos : 0 < stamp)
    (hle : ∀ t ∈ ticks, t ≤ stamp) (hticks : TicksInOrder interval ticks)
    (h : Covered interval ticks stamp) : Punctual interval ticks stamp := by
  have horder := hticks.before stamp
  have hend : ∀ t ∈ ticksBefore ticks stamp, t < stamp :=
    fun t ht => by simpa using (List.mem_filter.mp ht).2
  -- every interval that begins before the end has a start in it
  have hstart : ∀ k, k * interval < stamp →
      ∃ t ∈ TimeSeries.startTimes interval (sampledTimes ticks stamp), t / interval = k := by
    intro k hk
    have hcount : 0 < (TimeSeries.startTimes interval (sampledTimes ticks stamp)).countP
        (fun t => t / interval = k) := by rw [h k hk]; exact Nat.one_pos
    obtain ⟨t, ht, heq⟩ := List.countP_pos_iff.mp hcount
    exact ⟨t, ht, of_decide_eq_true heq⟩
  rw [startTimes_sampledTimes hpos hle] at hstart
  set before := ticksBefore ticks stamp
  have hmem : ∀ t ∈ TimeSeries.dropSliver interval ((0 :: before).dedup ++ [stamp]),
      t ∈ 0 :: before :=
    fun t ht => List.mem_dedup.mp ((dropSliver_sublist _ _).subset ht)
  refine ⟨fun k hk => ?_, ?_, fun t ht => ?_⟩
  · -- a late tick leaves one of the intervals up to it without a start
    by_contra hlate
    rw [Nat.not_lt] at hlate
    have hshort : k + 2 ≤ (0 :: before.take k).length := by
      refine le_length_of_intervals interval fun j hj => ?_
      have hjk : (j + 1) * interval ≤ (k + 2) * interval := Nat.mul_le_mul_right _ hj
      have hjlt : j * interval < stamp :=
        calc j * interval < (j + 1) * interval :=
              Nat.mul_lt_mul_of_pos_right (Nat.lt_succ_self j) hinterval
          _ ≤ (k + 2) * interval := hjk
          _ ≤ before[k] := hlate
          _ ≤ stamp := (hend _ (List.getElem_mem hk)).le
      obtain ⟨t, ht, hdiv⟩ := hstart j hjlt
      refine ⟨t, ?_, hdiv⟩
      have htlt : t < before[k] :=
        calc t < (j + 1) * interval := by
              rw [← hdiv, Nat.mul_comm]
              exact Nat.lt_mul_div_succ t hinterval
          _ ≤ (k + 2) * interval := hjk
          _ ≤ before[k] := hlate
      rcases List.mem_cons.mp (hmem t ht) with rfl | hin
      · exact List.mem_cons_self
      · refine List.mem_cons_of_mem _ ?_
        rw [← List.take_append_drop k before, List.mem_append] at hin
        rcases hin with htake | hdrop
        · exact htake
        · -- the ticks from the late one on are no earlier than it
          have hsorted := horder.sorted.sublist (List.drop_sublist k before)
          rw [List.drop_eq_getElem_cons hk] at hdrop hsorted
          rcases List.mem_cons.mp hdrop with rfl | hrest
          · exact absurd htlt (lt_irrefl _)
          · exact absurd htlt ((List.pairwise_cons.mp hsorted).1 t hrest).not_gt
    rw [List.length_cons, List.length_take_of_le hk.le] at hshort
    exact absurd hshort (Nat.not_succ_le_self (k + 1))
  · -- a run that goes on has an interval after the last tick
    by_contra hgap
    rw [Nat.not_le] at hgap
    have hshort : before.length + 2 ≤ (0 :: before).length := by
      refine le_length_of_intervals interval fun j hj => ?_
      obtain ⟨t, ht, hdiv⟩ := hstart j
        ((Nat.mul_le_mul_right _ (Nat.le_of_lt_succ hj)).trans_lt hgap)
      exact ⟨t, hmem t ht, hdiv⟩
    exact absurd hshort (Nat.not_succ_le_self (before.length + 1))
  · -- a folded sliver takes the start of its interval with it
    by_contra hsliver
    rw [Nat.not_le] at hsliver
    obtain ⟨front, hconcat⟩ : ∃ front, before = front ++ [t] :=
      ⟨_, (List.dropLast_append_getLast? t ht).symm⟩
    have hlen : before.length = front.length + 1 := by rw [hconcat]; simp
    have hget : before[front.length]? = some t := by rw [hconcat]; simp
    obtain ⟨hlt, hgett⟩ := List.getElem?_eq_some_iff.mp hget
    have hdue : (front.length + 1) * interval ≤ t := hgett ▸ horder.due front.length hlt
    have htpos : 0 < t := lt_of_lt_of_le (Nat.mul_pos (Nat.succ_pos _) hinterval) hdue
    have hfront : ∀ x ∈ 0 :: front, x ≤ t := by
      intro x hx
      rcases List.mem_cons.mp hx with rfl | hin
      · exact Nat.zero_le _
      · have hsorted := horder.sorted
        rw [hconcat, List.pairwise_append] at hsorted
        exact hsorted.2.2 x hin t (List.mem_singleton.mpr rfl)
    have hstarts : TimeSeries.dropSliver interval ((0 :: before).dedup ++ [stamp])
        = ((0 :: front).filter (· < t)).dedup := by
      have hne : ((0 :: front).filter (· < t)).dedup ≠ [] := by
        refine List.ne_nil_of_mem (a := 0) (List.mem_dedup.mpr (List.mem_filter.mpr ?_))
        exact ⟨List.mem_cons_self, by simpa using htpos⟩
      rw [hconcat, ← List.cons_append, dedup_append_max hfront, List.append_assoc]
      show TimeSeries.dropSliver interval (_ ++ [t, stamp]) = _
      rw [dropSliver_concat hne, if_pos hsliver]
    have hshort : front.length + 2 ≤ (0 :: front).length := by
      refine le_length_of_intervals interval fun j hj => ?_
      have hjlt : j * interval < stamp :=
        calc j * interval ≤ (front.length + 1) * interval :=
              Nat.mul_le_mul_right _ (Nat.le_of_lt_succ hj)
          _ ≤ t := hdue
          _ < stamp := hend t (hgett ▸ List.getElem_mem hlt)
      obtain ⟨x, hx, hdiv⟩ := hstart j hjlt
      rw [hstarts] at hx
      exact ⟨x, (List.mem_filter.mp (List.mem_dedup.mp hx)).1, hdiv⟩
    exact absurd hshort (Nat.not_succ_le_self (front.length + 1))

end Starts

/-! ## Samples in exactly one point

The theorem quantifies over the samples on one side: for a fixed run of the
sampler, every set of samples is counted exactly, or some set is not. -/

/-- **When every latency sample is in exactly one point.** For the counter
samples of any sampled run (a baseline at 0, ticks in order, each at or after
it is due, and a last sample at the end or the last tick), the points of the
series count every set of latency samples recorded before the end of the run
exactly, if and only if the sampler was punctual. -/
theorem latencyCount_eq_iff_punctual {interval : Duration} (hinterval : 0 < interval)
    (baseline : LiveSnapshot) (ticks : List CounterSample)
    (hticks : TicksInOrder interval (ticks.map Prod.fst)) (ended : Duration)
    (last : LiveSnapshot) (start : Instant) (basis : String) :
    (∀ recorded : List (Duration × ℕ),
      (∀ sample ∈ recorded,
        sample.1 < CounterSampler.finishStamp ((0, baseline) :: ticks) ended) →
      (TimeSeries.build (CounterSampler.finish ((0, baseline) :: ticks) ended last)
        (.ofSamples start interval recorded) basis).latencyCount = recorded.length)
    ↔ Punctual interval (ticks.map Prod.fst)
        (CounterSampler.finishStamp ((0, baseline) :: ticks) ended) := by
  have hsorted : (((0, baseline) :: ticks).map Prod.fst).Pairwise (· ≤ ·) :=
    List.pairwise_cons.mpr ⟨fun _ _ => Nat.zero_le _, hticks.sorted⟩
  have hstamp := fun at' => @CounterSampler.le_finishStamp _ hsorted ended at'
  unfold CounterSampler.finish
  set stamp := CounterSampler.finishStamp ((0, baseline) :: ticks) ended
  have hle : ∀ t ∈ ticks.map Prod.fst, t ≤ stamp :=
    fun t ht => hstamp t (List.mem_cons_of_mem _ ht)
  have hall : ((0, baseline) :: (ticks ++ [(stamp, last)])).Pairwise fun a b => a.1 ≤ b.1 := by
    rw [← List.pairwise_map (R := fun a b : Duration => a ≤ b), ← List.cons_append,
      List.map_append, List.pairwise_append]
    refine ⟨hsorted, List.pairwise_singleton _ _, fun t ht t' ht' => ?_⟩
    rw [List.map_singleton, List.mem_singleton] at ht'
    rw [ht']
    exact hstamp t ht
  have htimes : ((0, baseline) :: (ticks ++ [(stamp, last)])).map Prod.fst
      = sampledTimes (ticks.map Prod.fst) stamp := by
    unfold sampledTimes
    rw [List.map_cons, List.map_append]
    rfl
  -- a sample is counted once for every start in its interval
  have hcount := fun recorded => latencyCount_build hall hinterval start basis recorded
  rw [htimes] at hcount
  simp only [List.cons_append, hcount]
  rcases Nat.eq_zero_or_pos stamp with hzero | hpos
  · -- nothing is recorded in a run that ends at 0, and no tick comes before
    refine ⟨fun _ => ?_, fun _ recorded hbefore => ?_⟩
    · have hnone : ticksBefore (ticks.map Prod.fst) stamp = [] := by
        unfold ticksBefore
        rw [List.filter_eq_nil_iff]
        intro t _
        simp [hzero]
      refine ⟨fun k hk => ?_, ?_, fun t ht => ?_⟩
      · rw [hnone] at hk
        exact absurd hk (Nat.not_lt_zero k)
      · rw [hzero]
        exact Nat.zero_le _
      · rw [hnone] at ht
        cases ht
    · cases recorded with
      | nil => rfl
      | cons sample rest =>
        have := hbefore sample List.mem_cons_self
        rw [hzero] at this
        exact absurd this (Nat.not_lt_zero _)
  · constructor
    · intro h
      refine punctual_of_covered hinterval hpos hle hticks fun k hk => ?_
      have hone := h [(k * interval, 1)] fun sample hmem => by
        rw [List.mem_singleton] at hmem
        rw [hmem]
        exact hk
      rw [List.map_singleton, List.sum_singleton, Nat.mul_div_cancel k hinterval] at hone
      exact hone
    · intro h recorded hbefore
      have hcovered := covered_of_punctual hpos hle hticks h
      have hones : (recorded.map fun sample =>
            (TimeSeries.startTimes interval (sampledTimes (ticks.map Prod.fst) stamp)).countP
              fun t => t / interval = sample.1 / interval)
          = recorded.map fun _ => 1 := by
        refine List.map_congr_left fun sample hmem => hcovered _ ?_
        exact (Nat.div_mul_le_self _ _).trans_lt (hbefore sample hmem)
      rw [hones, List.map_const', List.sum_replicate, smul_eq_mul, Nat.mul_one]

/-- A tick that is a millisecond late, and an end half an interval after
it. -/
theorem punctual_late_by_one_ms :
    Punctual (Duration.ofSecs 1) [Duration.ofMillis 1001] (Duration.ofMillis 1500) := by
  have hbefore : ticksBefore [Duration.ofMillis 1001] (Duration.ofMillis 1500)
      = [Duration.ofMillis 1001] := by decide
  refine ⟨?_, ?_, ?_⟩ <;> rw [hbefore] <;> simp [Duration.ofSecs, Duration.ofMillis]

/-- That run counts a sample of each of its two intervals. -/
theorem latencyCount_late_by_one_ms :
    (TimeSeries.build
        (CounterSampler.finish [(0, {}), (Duration.ofMillis 1001, {})] (Duration.ofMillis 1500) {})
        (.ofSamples 0 (Duration.ofSecs 1)
          [(Duration.ofMillis 400, 700), (Duration.ofMillis 1200, 900)]) "rtt").latencyCount
      = 2 := by
  have hticks : TicksInOrder (Duration.ofSecs 1) [Duration.ofMillis 1001] :=
    ⟨List.pairwise_singleton _ _, by simp [Duration.ofSecs, Duration.ofMillis]⟩
  have hstamp : CounterSampler.finishStamp [(0, {}), (Duration.ofMillis 1001, {})]
      (Duration.ofMillis 1500) = Duration.ofMillis 1500 := by decide
  have hiff := latencyCount_eq_iff_punctual (by decide) {} [(Duration.ofMillis 1001, {})] hticks
    (Duration.ofMillis 1500) {} 0 "rtt"
  rw [hstamp] at hiff
  rw [hiff.mpr punctual_late_by_one_ms _ (by decide)]
  rfl

/-- A run that ends 20 ms after its tick loses a sample recorded in
between. -/
theorem latencyCount_sliver :
    (TimeSeries.build
        (CounterSampler.finish [(0, {}), (Duration.ofSecs 1, {})] (Duration.ofMillis 1020) {})
        (.ofSamples 0 (Duration.ofSecs 1) [(Duration.ofMillis 1010, 500)]) "rtt").latencyCount
      ≠ ([(Duration.ofMillis 1010, 500)] : List (Duration × ℕ)).length := by
  unfold CounterSampler.finish
  rw [List.cons_append, latencyCount_build (by decide) (by decide)]
  decide

end WsBlast
