import WsBlast.Intervals

/-!
# Interval recording loses nothing

The workers of a run record into stores they share, each through a recorder
of its own that holds back up to 64 samples. Whatever the order in which
their calls come, what the stores hold and what the recorders hold back are
together the samples that were recorded, each under the interval of its time
(`Accounts`). When every worker has flushed, the stores hold all of them
(`recorded_of_flushed`).

Workers record latencies at a rate at which a shared lock for every sample
would be felt. Each has a recorder that collects the samples of one interval
and hands them to the store in batches: when it has 64, when a sample of
another interval comes, and when it is flushed at the end. A store has a
histogram for each interval that has a sample.
-/

namespace WsBlast

/-! ## What a store holds -/

namespace IntervalHistogram

/-- The histogram of some values. -/
def ofValues (values : Multiset ℕ) : IntervalHistogram :=
  fun k => values.countP fun value => intervalLayout.index value = k

@[simp] theorem ofValues_zero : ofValues 0 = 0 := by
  funext k
  simp [ofValues]

/-- A value within the bounds joins the others. -/
theorem record_ofValues (values : Multiset ℕ) {micros : ℕ} (h : micros ≤ highestUs) :
    (ofValues values).record micros = ofValues (values + {micros}) := by
  rw [record, Hdr.Hist.recordN_eq_some _ 1 (intervalIndex_lt h), Option.getD_some]
  funext k
  rw [Pi.add_apply, ofValues, ofValues, Multiset.countP_add, ← Multiset.cons_zero,
    Multiset.countP_cons, Multiset.countP_zero, zero_add]
  congr 1
  by_cases hk : intervalLayout.index micros = k
  · have hkey : (⟨intervalLayout.index micros, intervalIndex_lt h⟩ : Fin intervalLayout.len) = k :=
      Fin.ext hk
    rw [if_pos hk, hkey, Pi.single_eq_same]
  · have hkey : k ≠ ⟨intervalLayout.index micros, intervalIndex_lt h⟩ := by
      rintro rfl
      exact hk rfl
    rw [if_neg hk, Pi.single_eq_of_ne hkey]

theorem foldl_record (values : Multiset ℕ) {samples : List ℕ}
    (h : ∀ micros ∈ samples, micros ≤ highestUs) :
    samples.foldl record (ofValues values) = ofValues (values + samples) := by
  induction samples generalizing values with
  | nil => simp
  | cons micros samples ih =>
    obtain ⟨hmicros, hsamples⟩ := List.forall_mem_cons.mp h
    rw [List.foldl_cons, record_ofValues _ hmicros, ih _ hsamples, add_assoc,
      Multiset.singleton_add, Multiset.cons_coe]

end IntervalHistogram

/-- Samples by the store and the interval they belong to. -/
abbrev Contents : Type := StoreId → ℕ → Multiset ℕ

/-- Samples of one interval of one store. -/
def Contents.single (store : StoreId) (bucket : ℕ) (values : Multiset ℕ) : Contents :=
  Pi.single store (Pi.single bucket values)

@[simp] theorem Contents.single_zero (store : StoreId) (bucket : ℕ) :
    Contents.single store bucket 0 = 0 := by
  simp [Contents.single]

theorem Contents.single_add (store : StoreId) (bucket : ℕ) (values more : Multiset ℕ) :
    Contents.single store bucket (values + more)
      = Contents.single store bucket values + Contents.single store bucket more := by
  simp [Contents.single, Pi.single_add]

/-- **What stores hold**: the histogram of the samples of each interval that
has some, and no other. -/
def StoresHold (stores : StoreId → IntervalStore) (contents : Contents) : Prop :=
  ∀ store bucket, (stores store).buckets[bucket]?
    = if contents store bucket = 0 then none
      else some (IntervalHistogram.ofValues (contents store bucket))

/-- A batch of samples joins those of its interval. -/
theorem StoresHold.absorb {stores : StoreId → IntervalStore} {contents : Contents}
    (h : StoresHold stores contents) (store : StoreId) (bucket : ℕ) {samples : List ℕ}
    (hne : samples ≠ []) (hbound : ∀ micros ∈ samples, micros ≤ highestUs) :
    StoresHold (Function.update stores store ((stores store).absorbSamples bucket samples))
      (contents + Contents.single store bucket samples) := by
  intro s i
  rw [Pi.add_apply, Pi.add_apply, Contents.single]
  -- only the interval of this store changes
  by_cases hs : s = store
  · subst hs
    rw [Function.update_self, Pi.single_eq_same]
    by_cases hi : i = bucket
    · subst hi
      rw [Pi.single_eq_same, if_neg (by simp [hne])]
      show ((stores s).buckets.alter i _)[i]? = _
      rw [Std.ExtTreeMap.getElem?_alter_self, h s i, Option.some_inj,
        ← IntervalHistogram.foldl_record _ hbound]
      congr 1
      split_ifs with hempty
      · rw [Option.getD_none, hempty, IntervalHistogram.ofValues_zero]
      · rfl
    · rw [Pi.single_eq_of_ne hi, add_zero, ← h s i]
      show ((stores s).buckets.alter bucket _)[i]? = _
      rw [Std.ExtTreeMap.getElem?_alter, if_neg (by simpa using Ne.symm hi)]
  · rw [Function.update_of_ne hs, Pi.single_eq_of_ne hs, Pi.zero_apply, add_zero, ← h s i]

/-! ## What a recorder holds back

Recording is done in two halves, as in the source. -/

namespace IntervalRecorder

/-- The samples that a recorder has not handed over. -/
def pending (r : IntervalRecorder) : Contents := Contents.single r.store r.bucket r.samples

/-- The samples of a recorder are within the bounds. -/
def Bounded (r : IntervalRecorder) : Prop := ∀ micros ∈ r.samples, micros ≤ highestUs

variable {r : IntervalRecorder} {stores : StoreId → IntervalStore} {contents : Contents}

/-- Flushing hands over what was held back. -/
theorem holds_flush (h : StoresHold stores contents) (hr : r.Bounded) :
    StoresHold (r.flush stores).2 (contents + r.pending) := by
  unfold flush
  by_cases hempty : r.samples = []
  · rw [if_pos hempty, pending, hempty, Multiset.coe_nil, Contents.single_zero, add_zero]
    exact h
  · rw [if_neg hempty]
    exact h.absorb r.store r.bucket hempty hr

@[simp] theorem store_flush : (r.flush stores).1.store = r.store := by
  unfold flush
  split <;> rfl

@[simp] theorem samples_flush : (r.flush stores).1.samples = [] := by
  unfold flush
  split
  · assumption
  · rfl

@[simp] theorem pending_flush : (r.flush stores).1.pending = 0 := by
  rw [pending, samples_flush, Multiset.coe_nil, Contents.single_zero]

/-- A store keeps its clock. -/
theorem clock_flush (s : StoreId) : ((r.flush stores).2 s).start = (stores s).start ∧
    ((r.flush stores).2 s).interval = (stores s).interval := by
  unfold flush
  split
  · exact ⟨rfl, rfl⟩
  · dsimp only
    by_cases hs : s = r.store
    · subst hs
      rw [Function.update_self]
      exact ⟨rfl, rfl⟩
    · rw [Function.update_of_ne hs]
      exact ⟨rfl, rfl⟩

/-- The first half of recording: samples of another interval are handed over
before the recorder turns to the interval `bucket`. -/
def turnTo (r : IntervalRecorder) (stores : StoreId → IntervalStore) (bucket : ℕ) :
    IntervalRecorder × (StoreId → IntervalStore) :=
  if bucket ≠ r.bucket then ({ (r.flush stores).1 with bucket := bucket }, (r.flush stores).2)
  else (r, stores)

/-- The second half: a sample is taken, and a full batch handed over. -/
def take (r : IntervalRecorder) (stores : StoreId → IntervalStore) (micros : ℕ) :
    IntervalRecorder × (StoreId → IntervalStore) :=
  let r := { r with samples := r.samples ++ [micros] }
  if r.samples.length = flushSamples then r.flush stores else (r, stores)

theorem record_eq (r : IntervalRecorder) (stores : StoreId → IntervalStore) (now : Instant)
    (micros : ℕ) :
    r.record stores now micros
      = (r.turnTo stores ((stores r.store).bucketOf now)).1.take
          (r.turnTo stores ((stores r.store).bucketOf now)).2 micros := by
  unfold record turnTo
  by_cases hbucket : (stores r.store).bucketOf now ≠ r.bucket
  · simp only [if_pos hbucket]
    rfl
  · simp only [if_neg hbucket]
    rfl

/-- What a call of a recorder does: the samples it was given, and those it
held back, are handed over or held back. -/
structure Keeps (r : IntervalRecorder) (stores : StoreId → IntervalStore)
    (contents given : Contents) (after : IntervalRecorder × (StoreId → IntervalStore)) : Prop where
  bounded : after.1.Bounded
  store : after.1.store = r.store
  clock : ∀ s, (after.2 s).start = (stores s).start ∧ (after.2 s).interval = (stores s).interval
  holds : ∃ held, StoresHold after.2 held ∧ held + after.1.pending = contents + r.pending + given

theorem keeps_flush (h : StoresHold stores contents) (hr : r.Bounded) :
    Keeps r stores contents 0 (r.flush stores) where
  bounded := by simp [Bounded]
  store := store_flush
  clock := clock_flush
  holds := ⟨_, holds_flush h hr, by simp⟩

theorem keeps_turnTo (h : StoresHold stores contents) (hr : r.Bounded) (bucket : ℕ) :
    Keeps r stores contents 0 (r.turnTo stores bucket) ∧ (r.turnTo stores bucket).1.bucket = bucket
      := by
  unfold turnTo
  split_ifs with hbucket
  · refine ⟨?_, rfl⟩
    obtain ⟨hbounded, hstore, hclock, held, hheld, hpending⟩ := keeps_flush h hr
    refine ⟨hbounded, hstore, hclock, held, hheld, ?_⟩
    rw [← hpending, pending_flush, pending]
    simp
  · exact ⟨⟨hr, rfl, fun _ => ⟨rfl, rfl⟩, contents, h, by simp⟩, (not_ne_iff.mp hbucket).symm⟩

theorem keeps_take (h : StoresHold stores contents) (hr : r.Bounded) {micros : ℕ}
    (hmicros : micros ≤ highestUs) :
    Keeps r stores contents (Contents.single r.store r.bucket {micros}) (r.take stores micros) := by
  have hbounded : Bounded { r with samples := r.samples ++ [micros] } := by
    intro value hvalue
    rcases List.mem_append.mp hvalue with hold | hnew
    · exact hr value hold
    · exact List.mem_singleton.mp hnew ▸ hmicros
  have hpending : pending { r with samples := r.samples ++ [micros] }
      = r.pending + Contents.single r.store r.bucket {micros} := by
    rw [pending, pending, ← Contents.single_add, ← Multiset.coe_add]
    rfl
  unfold take
  dsimp only
  split_ifs
  · obtain ⟨hbounded', hstore, hclock, held, hheld, heq⟩ := keeps_flush h hbounded
    exact ⟨hbounded', hstore, hclock, held, hheld, by rw [heq, hpending, add_zero, add_assoc]⟩
  · exact ⟨hbounded, rfl, fun _ => ⟨rfl, rfl⟩, contents, h, by rw [hpending, add_assoc]⟩

/-- **IntervalRun keeps every sample** and puts the new one into the interval of
its time. -/
theorem keeps_record (h : StoresHold stores contents) (hr : r.Bounded) (now : Instant)
    {micros : ℕ} (hmicros : micros ≤ highestUs) :
    Keeps r stores contents
      (Contents.single r.store ((stores r.store).bucketOf now) {micros})
      (r.record stores now micros) := by
  rw [record_eq]
  obtain ⟨⟨hbounded, hstore, hclock, held, hheld, heq⟩, hbucket⟩ :=
    keeps_turnTo h hr ((stores r.store).bucketOf now)
  obtain ⟨hbounded', hstore', hclock', held', hheld', heq'⟩ := keeps_take hheld hbounded hmicros
  refine ⟨hbounded', hstore'.trans hstore, fun s => ?_, held', hheld', ?_⟩
  · exact ⟨(hclock' s).1.trans (hclock s).1, (hclock' s).2.trans (hclock s).2⟩
  · rw [heq', heq, hstore, hbucket, add_zero]

end IntervalRecorder

/-! ## A whole run -/

/-- A call of a worker's recorder. -/
inductive IntervalCall where
  /-- A latency, in microseconds, taken at `now`. -/
  | record (now : Instant) (micros : ℕ)
  | flush
  deriving DecidableEq

/-- The recorders of a run's workers and the stores they share. -/
structure IntervalRun (ι : Type) where
  recorders : ι → IntervalRecorder
  stores : StoreId → IntervalStore

namespace IntervalRun

variable {ι : Type} [DecidableEq ι]

/-- Before the first call: the recorders are new, and so are the stores. -/
def new (store : ι → StoreId) (start : StoreId → Instant) (interval : StoreId → Duration) :
    IntervalRun ι where
  recorders worker := IntervalRecorder.new (store worker)
  stores s := IntervalStore.new (start s) (interval s)

/-- A worker's call; it clamps the latencies it records. -/
def call (run : IntervalRun ι) (item : ι × IntervalCall) : IntervalRun ι :=
  let (recorder, stores) := match item.2 with
    | .record now micros => (run.recorders item.1).record run.stores now (clampUs micros)
    | .flush => (run.recorders item.1).flush run.stores
  ⟨Function.update run.recorders item.1 recorder, stores⟩

/-- The state after the calls of `trace`. -/
def after (run : IntervalRun ι) (trace : List (ι × IntervalCall)) : IntervalRun ι :=
  trace.foldl call run

end IntervalRun

/-- The samples that a run's workers record for interval `bucket` of a store:
those taken in `[bucket * interval, (bucket + 1) * interval)` since its
start. -/
def recordedIn {ι : Type} (store : ι → StoreId) (start : StoreId → Instant)
    (interval : StoreId → Duration) (trace : List (ι × IntervalCall)) (s : StoreId) (bucket : ℕ) :
    Multiset ℕ :=
  ↑(trace.filterMap fun item => match item.2 with
    | .record now micros =>
      if store item.1 = s ∧ bucket * interval s ≤ now - start s ∧
          now - start s < (bucket + 1) * interval s then some (clampUs micros) else none
    | .flush => none)

/-- The last call of a worker, if it made one, is a flush. -/
def FlushedLast {ι : Type} [DecidableEq ι] (trace : List (ι × IntervalCall)) (worker : ι) : Prop :=
  ∀ item ∈ (trace.filter (fun item => item.1 = worker)).getLast?, item.2 = .flush

instance {ι : Type} [DecidableEq ι] (trace : List (ι × IntervalCall)) (worker : ι) :
    Decidable (FlushedLast trace worker) :=
  inferInstanceAs (Decidable (∀ item ∈ _, _))

namespace IntervalRun

variable {ι : Type} [DecidableEq ι] {store : ι → StoreId} {start : StoreId → Instant}
  {interval : StoreId → Duration}

/-- The samples a call brings. -/
def given (store : ι → StoreId) (start : StoreId → Instant) (interval : StoreId → Duration)
    (item : ι × IntervalCall) : Contents := match item.2 with
  | .record now micros =>
    Contents.single (store item.1)
      ((now - start (store item.1)) / interval (store item.1)) {clampUs micros}
  | .flush => 0

/-- The stores and the recorders account for the samples of `total`. -/
structure Accounts [Fintype ι] (store : ι → StoreId) (start : StoreId → Instant)
    (interval : StoreId → Duration) (run : IntervalRun ι) (total : Contents) : Prop where
  clock : ∀ s, (run.stores s).start = start s ∧ (run.stores s).interval = interval s
  worker : ∀ w, (run.recorders w).store = store w ∧ (run.recorders w).Bounded
  holds : ∃ held, StoresHold run.stores held ∧ held + ∑ w, (run.recorders w).pending = total

variable [Fintype ι]

/-- A call that keeps every sample keeps the account. -/
theorem Accounts.update {run : IntervalRun ι} {total given : Contents} {w : ι}
    {after : IntervalRecorder × (StoreId → IntervalStore)}
    (h : Accounts store start interval run total)
    (hkeeps : ∀ held, StoresHold run.stores held →
      IntervalRecorder.Keeps (run.recorders w) run.stores held given after) :
    Accounts store start interval ⟨Function.update run.recorders w after.1, after.2⟩
      (total + given) := by
  obtain ⟨held, hheld, htotal⟩ := h.holds
  obtain ⟨hbounded, hstore, hclock, held', hheld', heq⟩ := hkeeps held hheld
  refine ⟨fun s => ?_, fun w' => ?_, held', hheld', ?_⟩
  · exact ⟨(hclock s).1.trans (h.clock s).1, (hclock s).2.trans (h.clock s).2⟩
  · by_cases hw : w' = w
    · subst hw
      simp only [Function.update_self]
      exact ⟨hstore.trans (h.worker w').1, hbounded⟩
    · simp only [Function.update_of_ne hw]
      exact h.worker w'
  · have hsum (recorders : ι → IntervalRecorder) : ∑ w', (recorders w').pending
        = (recorders w).pending + ∑ w' ∈ Finset.univ.erase w, (recorders w').pending :=
      (Finset.add_sum_erase _ _ (Finset.mem_univ w)).symm
    have hothers : ∑ w' ∈ Finset.univ.erase w, (Function.update run.recorders w after.1 w').pending
        = ∑ w' ∈ Finset.univ.erase w, (run.recorders w').pending := by
      refine Finset.sum_congr rfl fun w' hw' => ?_
      rw [Function.update_of_ne (Finset.ne_of_mem_erase hw')]
    show held' + ∑ w', (Function.update run.recorders w after.1 w').pending = total + given
    rw [hsum, hothers, Function.update_self, ← add_assoc, heq, ← htotal, hsum run.recorders]
    abel

theorem accounts_call {run : IntervalRun ι} {total : Contents}
    (h : Accounts store start interval run total) (item : ι × IntervalCall) :
    Accounts store start interval (run.call item) (total + given store start interval item) := by
  obtain ⟨w, call⟩ := item
  cases call with
  | record now micros =>
    refine h.update (w := w) fun held hheld => ?_
    have hkeeps := IntervalRecorder.keeps_record hheld (h.worker w).2 now
      (Nat.min_le_right (max micros lowestUs) highestUs)
    rw [IntervalStore.bucketOf, (h.clock _).1, (h.clock _).2, (h.worker w).1] at hkeeps
    exact hkeeps
  | flush => exact h.update (w := w) fun held hheld =>
      IntervalRecorder.keeps_flush hheld (h.worker w).2

/-- **Nothing is lost along a run**: at every moment the samples recorded so
far are in the stores or held back. -/
theorem accounts_after {run : IntervalRun ι} {total : Contents}
    (h : Accounts store start interval run total) (trace : List (ι × IntervalCall)) :
    Accounts store start interval (run.after trace)
      (total + (trace.map (given store start interval)).sum) := by
  induction trace generalizing run total with
  | nil => simpa [after] using h
  | cons item trace ih =>
    have hrest := ih (accounts_call h item)
    rwa [List.map_cons, List.sum_cons, ← add_assoc]

omit [DecidableEq ι] in
theorem accounts_new (store : ι → StoreId) (start : StoreId → Instant)
    (interval : StoreId → Duration) :
    Accounts store start interval (new store start interval) 0 := by
  refine ⟨fun _ => ⟨rfl, rfl⟩, fun w => ⟨rfl, by simp [new, IntervalRecorder.new,
    IntervalRecorder.Bounded]⟩, 0, fun s i => ?_, ?_⟩
  · show (∅ : Std.ExtTreeMap ℕ IntervalHistogram compare)[i]? = _
    simp
  · simp [new, IntervalRecorder.new, IntervalRecorder.pending]

omit [Fintype ι] in
theorem recorders_call_of_ne (run : IntervalRun ι) {item : ι × IntervalCall} {w : ι}
    (h : w ≠ item.1) : (run.call item).recorders w = run.recorders w :=
  Function.update_of_ne h _ _

omit [Fintype ι] in
theorem samples_call_flush (run : IntervalRun ι) (w : ι) :
    ((run.call (w, .flush)).recorders w).samples = [] := by
  show ((Function.update run.recorders w ((run.recorders w).flush run.stores).1) w).samples = []
  rw [Function.update_self, IntervalRecorder.samples_flush]

omit [Fintype ι] in
/-- A recorder that was flushed last holds nothing back. -/
theorem samples_of_flushed {trace : List (ι × IntervalCall)} {w : ι} (h : FlushedLast trace w) :
    (((new store start interval).after trace).recorders w).samples = [] := by
  induction trace using List.reverseRecOn with
  | nil => rfl
  | append_singleton trace item ih =>
    obtain ⟨w', call⟩ := item
    rw [after, List.foldl_append, List.foldl_cons, List.foldl_nil]
    by_cases hw : w' = w
    · subst hw
      have hcall : call = .flush := h (w', call) (by simp)
      subst hcall
      exact samples_call_flush _ w'
    · rw [recorders_call_of_ne _ (Ne.symm hw)]
      refine ih fun item hitem => h item ?_
      rw [List.filter_append, List.filter_cons_of_neg (by simpa using hw), List.filter_nil,
        List.append_nil]
      exact hitem

omit [DecidableEq ι] [Fintype ι] in
/-- The samples of an interval, call by call. -/
theorem sum_given (hinterval : ∀ s, 0 < interval s) (trace : List (ι × IntervalCall))
    (s : StoreId) (bucket : ℕ) :
    (trace.map (given store start interval)).sum s bucket
      = recordedIn store start interval trace s bucket := by
  induction trace with
  | nil => rfl
  | cons item trace ih =>
    obtain ⟨w, call⟩ := item
    rw [List.map_cons, List.sum_cons, Pi.add_apply, Pi.add_apply, ih]
    cases call with
    | flush =>
      show 0 + recordedIn store start interval trace s bucket = _
      rw [zero_add]
      rfl
    | record now micros =>
      have hdiv : (now - start s) / interval s = bucket
          ↔ bucket * interval s ≤ now - start s ∧ now - start s < (bucket + 1) * interval s :=
        ⟨fun h => h ▸ ⟨Nat.div_mul_le_self _ _,
            Nat.lt_mul_of_div_lt (Nat.lt_succ_self _) (hinterval s)⟩,
          fun h => Nat.div_eq_of_lt_le h.1 h.2⟩
      show Contents.single _ _ _ s bucket + _ = _
      unfold recordedIn Contents.single
      by_cases hs : store w = s
      · subst hs
        rw [Pi.single_eq_same]
        by_cases hbucket : (now - start (store w)) / interval (store w) = bucket
        · rw [List.filterMap_cons_some (b := clampUs micros) (by simp [hdiv.mp hbucket]), hbucket,
            Pi.single_eq_same]
          rfl
        · rw [List.filterMap_cons_none (by simpa [← hdiv] using hbucket),
            Pi.single_eq_of_ne (Ne.symm hbucket), zero_add]
      · rw [List.filterMap_cons_none (by simp [hs]), Pi.single_eq_of_ne (Ne.symm hs), Pi.zero_apply,
          zero_add]

end IntervalRun

/-- **Interval recording loses nothing.** When the last call of every worker
is a flush, a store holds for each interval the histogram of the samples its
workers recorded in it, and nothing for an interval without one, however the
calls of the workers fall between each other. The times need not be in
order. -/
theorem recorded_of_flushed {ι : Type} [DecidableEq ι] [Fintype ι] (store : ι → StoreId)
    (start : StoreId → Instant) (interval : StoreId → Duration) (hinterval : ∀ s, 0 < interval s)
    (trace : List (ι × IntervalCall)) (hflushed : ∀ worker, FlushedLast trace worker)
    (s : StoreId) (bucket : ℕ) :
    (((IntervalRun.new store start interval).after trace).stores s).buckets[bucket]?
      = if recordedIn store start interval trace s bucket = 0 then none
        else some (IntervalHistogram.ofValues
          (recordedIn store start interval trace s bucket)) := by
  obtain ⟨held, hheld, htotal⟩ := (IntervalRun.accounts_after
    (IntervalRun.accounts_new store start interval) trace).holds
  have hpending : ∑ w, (((IntervalRun.new store start interval).after trace).recorders w).pending
      = 0 := by
    refine Finset.sum_eq_zero fun w _ => ?_
    rw [IntervalRecorder.pending, IntervalRun.samples_of_flushed (hflushed w), Multiset.coe_nil,
      Contents.single_zero]
  rw [hpending, add_zero, zero_add] at htotal
  rw [hheld s bucket, htotal, IntervalRun.sum_given hinterval]

/-- Two workers over the boundary of an interval. -/
theorem recorded_of_flushed_two :
    let trace : List (Fin 2 × IntervalCall) :=
      [(0, .record 1 5), (1, .record 3 7), (0, .record 12 9), (1, .flush), (0, .flush)]
    let final := (IntervalRun.new (fun _ => 0) (fun _ => 0) (fun _ => 10)).after trace
    (final.stores 0).buckets[0]? = some (IntervalHistogram.ofValues {5, 7}) ∧
      (final.stores 0).buckets[1]? = some (IntervalHistogram.ofValues {9}) := by
  have hheld := recorded_of_flushed (ι := Fin 2) (fun _ => 0) (fun _ => 0) (fun _ => 10)
    (fun _ => by decide)
    [(0, .record 1 5), (1, .record 3 7), (0, .record 12 9), (1, .flush), (0, .flush)]
    (by decide) 0
  exact ⟨hheld 0, hheld 1⟩

end WsBlast
