import WsBlast.WireTotals
import WsBlast.Lib.Machine

/-!
# The shared recorder equals direct recording

Recording a value takes two atomic steps: the first allocates the counts of
the shard unless they are there already, the second adds one to a count. The
workers of a run take these steps in any order (`RecorderState.step`), on one
recorder.

`Counted` says what the recorder holds at any moment of a run: the samples
whose second step was taken, each once and in its own bucket, with the samples
still to come making up the rest. At the end of a run moving the counts into a
histogram therefore does what recording every sample into that histogram would
have done, and the totals of the run, which absorb the recorder once however
many workers bring it along, hold each sample once.

The first of the two steps is a compare-exchange in the source: two workers may
both find a shard without counts and both allocate, and one of them uses what
the other installed. All that matters of it is that the counts exist afterwards
and that existing ones are kept, so it is an idempotent step here. The second
step is an addition to one atomic counter, which cannot lose anything.
-/

namespace WsBlast

/-! ## Samples and steps

A sample says what was recorded, where, and by whom it was counted: its
distribution, the shard of its worker, the latency. -/

/-- A distribution of a recorder; an action's is found by the position of the
action's name. -/
inductive Distribution where
  | handshake
  | rtt
  | response
  | actionRtt (action : ℕ)
  | actionResponse (action : ℕ)
  deriving DecidableEq, Repr

/-- A latency that a worker records. -/
structure Sample where
  distribution : Distribution
  shard : ℕ
  micros : ℕ
  deriving DecidableEq, Repr

namespace AtomicHistogram

variable (a : AtomicHistogram) (shard micros : ℕ)

/-- The first step of recording: the counts of the shard exist from now on. -/
def allocate : AtomicHistogram where
  shards := a.shards.modify (shard % a.shards.length) fun counts => some (counts.getD 0)
  nonempty := by
    rw [Ne, ← List.length_eq_zero_iff, List.length_modify, List.length_eq_zero_iff]
    exact a.nonempty

/-- The second step of recording: one more in the bucket of the value, in
counts that exist. -/
def count : AtomicHistogram where
  shards := a.shards.modify (shard % a.shards.length) fun counts =>
    counts.map fun held => held + Pi.single (clampedIndex micros) 1
  nonempty := by
    rw [Ne, ← List.length_eq_zero_iff, List.length_modify, List.length_eq_zero_iff]
    exact a.nonempty

/-- The counts of a shard exist. -/
def Allocated : Prop := ∃ held, a.shards[shard % a.shards.length]? = some (some held)

/-- A distribution is its shards. -/
theorem eq_of_shards {a b : AtomicHistogram} (h : a.shards = b.shards) : a = b := by
  cases a
  cases b
  cases h
  rfl

/-- Recording is the two steps, one right after the other. -/
theorem count_allocate : (a.allocate shard).count shard micros = a.record shard micros := by
  have hlength : (a.allocate shard).shards.length = a.shards.length := List.length_modify _ _ _
  unfold count record
  congr 1
  rw [hlength]
  exact List.modify_modify_eq _ _ _ _

@[simp] theorem length_allocate : (a.allocate shard).shards.length = a.shards.length :=
  List.length_modify _ _ _

@[simp] theorem length_count : (a.count shard micros).shards.length = a.shards.length :=
  List.length_modify _ _ _

/-- The first step counts nothing. -/
@[simp] theorem counts_allocate : (a.allocate shard).counts = a.counts := by
  show ((a.shards.modify _ _).map _).sum = (a.shards.map _).sum
  congr 1
  refine List.ext_getElem? fun index => ?_
  rw [List.getElem?_map, List.getElem?_map, List.getElem?_modify]
  cases a.shards[index]? with
  | none => rfl
  | some counts =>
    show some (Option.getD (if shard % a.shards.length = index then some (counts.getD 0) else counts)
      0) = some (counts.getD 0)
    split
    · rfl
    · rfl

/-- The shard of the first step is there, and no shard goes away. -/
theorem allocated_allocate (other : ℕ) (h : other = shard ∨ a.Allocated other) :
    (a.allocate shard).Allocated other := by
  unfold Allocated
  rw [length_allocate]
  show ∃ held, (a.shards.modify _ _)[_]? = _
  rw [List.getElem?_modify]
  by_cases hsame : shard % a.shards.length = other % a.shards.length
  · have hlt : other % a.shards.length < a.shards.length :=
      Nat.mod_lt _ (List.length_pos_of_ne_nil a.nonempty)
    simp only [if_pos hsame, List.getElem?_eq_getElem hlt]
    exact ⟨_, rfl⟩
  · obtain rfl | ⟨held, hheld⟩ := h
    · exact absurd rfl hsame
    · simp only [if_neg hsame, hheld]
      exact ⟨held, rfl⟩

theorem allocated_count (other : ℕ) (h : a.Allocated other) :
    (a.count shard micros).Allocated other := by
  obtain ⟨held, hheld⟩ := h
  unfold Allocated
  rw [length_count]
  show ∃ held, (a.shards.modify _ _)[_]? = _
  rw [List.getElem?_modify, hheld]
  by_cases hsame : shard % a.shards.length = other % a.shards.length
  · simp only [if_pos hsame]
    exact ⟨_, rfl⟩
  · simp only [if_neg hsame]
    exact ⟨held, rfl⟩

/-- In a shard that exists the first step changes nothing. -/
theorem allocate_of_allocated (h : a.Allocated shard) : a.allocate shard = a := by
  obtain ⟨held, hheld⟩ := h
  have hshards : (a.allocate shard).shards = a.shards := by
    refine List.ext_getElem? fun index => ?_
    show (a.shards.modify _ _)[_]? = _
    rw [List.getElem?_modify]
    by_cases hsame : shard % a.shards.length = index
    · simp only [← hsame, if_true, hheld]
      rfl
    · simp only [if_neg hsame]
      exact id_map _
  exact eq_of_shards hshards

/-- **The second step counts its value once**, when the first was taken. -/
theorem counts_count (h : a.Allocated shard) :
    (a.count shard micros).counts = a.counts + Pi.single (clampedIndex micros) 1 := by
  have hrecord := count_allocate a shard micros
  rw [allocate_of_allocated a shard h] at hrecord
  rw [hrecord, counts_record]

end AtomicHistogram

namespace LatencyRecorder

/-- A distribution of the recorder; `none` for an action it does not have. -/
def distribution (r : LatencyRecorder) : Distribution → Option AtomicHistogram
  | .handshake => some r.handshake
  | .rtt => some r.rtt
  | .response => some r.response
  | .actionRtt action => r.actions[action]?.map ActionLatency.rtt
  | .actionResponse action => r.actions[action]?.map ActionLatency.response

/-- Changes one distribution; nothing for an action the recorder does not
have. -/
def update (r : LatencyRecorder) (d : Distribution) (f : AtomicHistogram → AtomicHistogram) :
    LatencyRecorder :=
  match d with
  | .handshake => { r with handshake := f r.handshake }
  | .rtt => { r with rtt := f r.rtt }
  | .response => { r with response := f r.response }
  | .actionRtt action =>
    { r with actions := r.actions.modify action fun a => { a with rtt := f a.rtt } }
  | .actionResponse action =>
    { r with actions := r.actions.modify action fun a => { a with response := f a.response } }

/-- A change touches its own distribution only. -/
theorem distribution_update (r : LatencyRecorder) (d d' : Distribution)
    (f : AtomicHistogram → AtomicHistogram) :
    (r.update d f).distribution d'
      = if d = d' then (r.distribution d').map f else r.distribution d' := by
  cases d with
  | handshake =>
    cases d' <;> rfl
  | rtt =>
    cases d' <;> rfl
  | response =>
    cases d' <;> rfl
  | actionRtt action =>
    cases d' with
    | actionRtt other =>
      show ((r.actions.modify action _)[other]?).map _ = _
      rw [List.getElem?_modify]
      by_cases hsame : action = other
      · simp only [hsame, if_true, distribution]
        cases r.actions[other]? <;> rfl
      · simp only [hsame, if_false, Distribution.actionRtt.injEq, distribution]
        exact congrArg _ (id_map _)
    | actionResponse other =>
      show ((r.actions.modify action _)[other]?).map _ = r.actions[other]?.map _
      rw [List.getElem?_modify]
      cases r.actions[other]? with
      | none => rfl
      | some a =>
        show some (ActionLatency.response (if action = other then _ else a)) = some a.response
        split <;> rfl
    | _ => rfl
  | actionResponse action =>
    cases d' with
    | actionResponse other =>
      show ((r.actions.modify action _)[other]?).map _ = _
      rw [List.getElem?_modify]
      by_cases hsame : action = other
      · simp only [hsame, if_true, distribution]
        cases r.actions[other]? <;> rfl
      · simp only [hsame, if_false, Distribution.actionResponse.injEq, distribution]
        exact congrArg _ (id_map _)
    | actionRtt other =>
      show ((r.actions.modify action _)[other]?).map _ = r.actions[other]?.map _
      rw [List.getElem?_modify]
      cases r.actions[other]? with
      | none => rfl
      | some a =>
        show some (ActionLatency.rtt (if action = other then _ else a)) = some a.rtt
        split <;> rfl
    | _ => rfl

/-- No change renames an action. -/
@[simp] theorem actionNames_update (r : LatencyRecorder) (d : Distribution)
    (f : AtomicHistogram → AtomicHistogram) : (r.update d f).actionNames = r.actionNames := by
  have hkeep : ∀ (action : ℕ) (g : ActionLatency → ActionLatency), (∀ a, (g a).name = a.name) →
      (r.actions.modify action g).map ActionLatency.name = r.actions.map ActionLatency.name := by
    intro action g hg
    refine List.ext_getElem? fun index => ?_
    rw [List.getElem?_map, List.getElem?_map, List.getElem?_modify]
    cases r.actions[index]? with
    | none => rfl
    | some a =>
      show some (ActionLatency.name (if action = index then g a else a)) = some a.name
      split
      · rw [hg]
      · rfl
  cases d with
  | actionRtt action => exact hkeep action _ fun _ => rfl
  | actionResponse action => exact hkeep action _ fun _ => rfl
  | _ => rfl

end LatencyRecorder

/-! ## Workers that record side by side -/

/-- What a worker still records: the sample whose first step it has taken, and
the samples after it. -/
structure Recording where
  pending : Option Sample
  rest : List Sample
  deriving DecidableEq, Repr

/-- The samples a worker has not counted yet. -/
def Recording.left (w : Recording) : List Sample := w.pending.toList ++ w.rest

/-- A recorder and the workers that write to it. -/
structure RecorderState (ι : Type) where
  recorder : LatencyRecorder
  workers : ι → Recording

namespace RecorderState

variable {ι : Type} [DecidableEq ι]

/-- Before a run, on a recorder with `shards` shards for the actions `names`. -/
def start (shards : ℕ) (names : List String) (samples : ι → List Sample) : RecorderState ι where
  recorder := (LatencyRecorder.withShards shards).withActions names
  workers i := ⟨none, samples i⟩

/-- One worker takes its next step, when it has one. -/
def step (s : RecorderState ι) (i : ι) : Option (RecorderState ι) :=
  match s.workers i with
  | ⟨some sample, rest⟩ => some
      { recorder := s.recorder.update sample.distribution (·.count sample.shard sample.micros)
        workers := Function.update s.workers i ⟨none, rest⟩ }
  | ⟨none, sample :: rest⟩ => some
      { recorder := s.recorder.update sample.distribution (·.allocate sample.shard)
        workers := Function.update s.workers i ⟨some sample, rest⟩ }
  | ⟨none, []⟩ => none

/-- Every worker has counted all its samples. -/
def Done (s : RecorderState ι) : Prop := ∀ i, s.workers i = ⟨none, []⟩

end RecorderState

/-! ## Direct recording

What the theorem compares with: a histogram into which every sample is recorded
under its clamped value, one after the other, with the recording function of the
histogram library. -/

/-- Records the clamped values of the samples of some distributions into a
histogram, one after the other. -/
def recordDirectly (among : Distribution → Bool) (samples : List Sample) (hist : Histogram) :
    Option Histogram :=
  hist.recordAll ((samples.filter fun sample => among sample.distribution).map fun sample =>
    (clampUs sample.micros, 1))

/-- The counts of the samples of some distributions. -/
def countsOf (among : Distribution → Bool) (samples : Multiset Sample) : Histogram :=
  ((samples.filter fun sample => among sample.distribution).map fun sample =>
    Pi.single (clampedIndex sample.micros) 1).sum

@[simp] theorem countsOf_zero (among : Distribution → Bool) : countsOf among 0 = 0 := rfl

@[simp] theorem countsOf_add (among : Distribution → Bool) (a b : Multiset Sample) :
    countsOf among (a + b) = countsOf among a + countsOf among b := by
  simp [countsOf]

theorem countsOf_singleton (among : Distribution → Bool) (sample : Sample) :
    countsOf among {sample}
      = if among sample.distribution then Pi.single (clampedIndex sample.micros) 1 else 0 := by
  unfold countsOf
  rw [Multiset.filter_singleton]
  split
  · simp
  · rfl

/-- A sample of another distribution is not counted. -/
theorem countsOf_singleton_of_ne {sample : Sample} {d : Distribution}
    (h : sample.distribution ≠ d) : countsOf (· = d) {sample} = 0 := by
  rw [countsOf_singleton, if_neg (by simpa using h)]

/-- A clamped latency is recorded at the index the recorder counts it at. -/
theorem recordN_clampUs (hist : Histogram) (micros : ℕ) :
    hist.recordN (clampUs micros) 1 = some (hist + Pi.single (clampedIndex micros) 1) := by
  have hindex : latencyLayout.index (clampUs micros) = (clampedIndex micros).val :=
    (indexOf_eq_index ((Nat.min_le_right _ _).trans_lt (by decide))).symm
  have hlt : latencyLayout.index (clampUs micros) < latencyLayout.len := by
    rw [hindex]
    exact (clampedIndex micros).isLt
  have hfin : (⟨latencyLayout.index (clampUs micros), hlt⟩ : Fin latencyLayout.len)
      = clampedIndex micros := Fin.ext hindex
  rw [Hdr.Hist.recordN_eq_some hist 1 hlt, hfin]

/-- **Recording directly adds the counts of the samples**, in whatever order
they come. -/
theorem recordDirectly_eq (among : Distribution → Bool) (samples : List Sample)
    (hist : Histogram) :
    recordDirectly among samples hist = some (hist + countsOf among samples) := by
  induction samples generalizing hist with
  | nil =>
    show some hist = some (hist + countsOf among 0)
    rw [countsOf_zero, add_zero]
  | cons sample rest ih =>
    have hcons : ((sample :: rest : List Sample) : Multiset Sample) = {sample} + rest := rfl
    rw [hcons, countsOf_add, countsOf_singleton, ← add_assoc]
    unfold recordDirectly at ih ⊢
    by_cases hd : among sample.distribution = true
    · rw [List.filter_cons, if_pos hd, if_pos hd, ← ih, List.map_cons]
      show (hist.recordN (clampUs sample.micros) 1).bind _ = _
      rw [recordN_clampUs]
      rfl
    · rw [List.filter_cons, if_neg hd, if_neg hd, add_zero, ← ih]

/-! ## What the recorder holds during a run -/

namespace RecorderState

variable {ι : Type} [DecidableEq ι] [Fintype ι]

/-- The samples that no worker has counted yet. -/
def left (s : RecorderState ι) : Multiset Sample := ∑ i, ((s.workers i).left : Multiset Sample)

/-- **What a recorder holds at any moment**: of all the samples of the run,
those that are not left. -/
structure Counted (names : List String) (samples : Multiset Sample) (s : RecorderState ι) :
    Prop where
  names : s.recorder.actionNames = names
  /-- The second step of a worker finds the counts its first step asked for. -/
  allocated : ∀ i sample, (s.workers i).pending = some sample →
    ∀ a, s.recorder.distribution sample.distribution = some a → a.Allocated sample.shard
  counts : ∀ d a, s.recorder.distribution d = some a →
    a.counts + countsOf (· = d) s.left = countsOf (· = d) samples

/-- The samples left when one worker goes on. -/
theorem left_update (s : RecorderState ι) (recorder : LatencyRecorder) (i : ι) (w : Recording) :
    left ⟨recorder, Function.update s.workers i w⟩ + ((s.workers i).left : Multiset Sample)
      = s.left + (w.left : Multiset Sample) :=
  Machine.sum_update (fun w : Recording => (w.left : Multiset Sample)) s.workers i w

omit [DecidableEq ι] in
/-- Before the run nothing is counted and everything is left. -/
theorem counted_start (shards : ℕ) (names : List String) (samples : ι → List Sample) :
    Counted names (∑ i, (samples i : Multiset Sample)) (start shards names samples) where
  names := by
    show (names.map _).map ActionLatency.name = names
    rw [List.map_map]
    exact List.map_id names
  allocated := by
    intro i sample hpending
    exact absurd hpending (by simp [start])
  counts := by
    intro d a ha
    have hempty : a.counts = 0 := by
      cases d with
      | handshake =>
        obtain rfl := Option.some.inj ha
        exact AtomicHistogram.counts_new shards
      | rtt =>
        obtain rfl := Option.some.inj ha
        exact AtomicHistogram.counts_new shards
      | response =>
        obtain rfl := Option.some.inj ha
        exact AtomicHistogram.counts_new shards
      | actionRtt action =>
        obtain ⟨latency, hlatency, rfl⟩ := Option.map_eq_some_iff.mp ha
        obtain ⟨name, -, rfl⟩ := List.mem_map.mp (List.mem_of_getElem? hlatency)
        exact AtomicHistogram.counts_new _
      | actionResponse action =>
        obtain ⟨latency, hlatency, rfl⟩ := Option.map_eq_some_iff.mp ha
        obtain ⟨name, -, rfl⟩ := List.mem_map.mp (List.mem_of_getElem? hlatency)
        exact AtomicHistogram.counts_new _
    rw [hempty, zero_add]
    rfl

/-- A first step counts nothing and leaves the same samples. -/
theorem Counted.allocate {names : List String} {samples : Multiset Sample} {s : RecorderState ι}
    (h : Counted names samples s) {i : ι} {sample : Sample} {rest : List Sample}
    (hi : s.workers i = ⟨none, sample :: rest⟩) :
    Counted names samples
      { recorder := s.recorder.update sample.distribution (·.allocate sample.shard)
        workers := Function.update s.workers i ⟨some sample, rest⟩ } where
  names := by
    rw [LatencyRecorder.actionNames_update]
    exact h.names
  allocated := by
    intro j other hother a ha
    have hheld : j = i ∧ other = sample
        ∨ (s.workers j).pending = some other := by
      by_cases hj : j = i
      · subst hj
        simp only [Function.update_self] at hother
        exact .inl ⟨rfl, (Option.some.inj hother).symm⟩
      · simp only [Function.update_of_ne hj] at hother
        exact .inr hother
    rw [LatencyRecorder.distribution_update] at ha
    split at ha
    · rename_i hsame
      obtain ⟨b, hb, rfl⟩ := Option.map_eq_some_iff.mp ha
      refine b.allocated_allocate sample.shard other.shard ?_
      obtain ⟨-, rfl⟩ | hpending := hheld
      · exact .inl rfl
      · exact .inr (h.allocated j other hpending b hb)
    · rename_i hdiffers
      obtain ⟨-, rfl⟩ | hpending := hheld
      · exact absurd rfl hdiffers
      · exact h.allocated j other hpending a ha
  counts := by
    intro d a ha
    have hleft := left_update s (s.recorder.update sample.distribution (·.allocate sample.shard)) i
      ⟨some sample, rest⟩
    rw [hi] at hleft
    rw [add_right_cancel hleft]
    rw [LatencyRecorder.distribution_update] at ha
    split at ha
    · obtain ⟨b, hb, rfl⟩ := Option.map_eq_some_iff.mp ha
      rw [AtomicHistogram.counts_allocate]
      exact h.counts d b hb
    · exact h.counts d a ha

/-- A second step moves its sample from what is left to what is counted. -/
theorem Counted.count {names : List String} {samples : Multiset Sample} {s : RecorderState ι}
    (h : Counted names samples s) {i : ι} {sample : Sample} {rest : List Sample}
    (hi : s.workers i = ⟨some sample, rest⟩) :
    Counted names samples
      { recorder := s.recorder.update sample.distribution (·.count sample.shard sample.micros)
        workers := Function.update s.workers i ⟨none, rest⟩ } where
  names := by
    rw [LatencyRecorder.actionNames_update]
    exact h.names
  allocated := by
    intro j other hother a ha
    have hpending : (s.workers j).pending = some other := by
      by_cases hj : j = i
      · subst hj
        simp only [Function.update_self, reduceCtorEq] at hother
      · simpa only [Function.update_of_ne hj] using hother
    rw [LatencyRecorder.distribution_update] at ha
    split at ha
    · obtain ⟨b, hb, rfl⟩ := Option.map_eq_some_iff.mp ha
      exact b.allocated_count _ _ other.shard (h.allocated j other hpending b hb)
    · exact h.allocated j other hpending a ha
  counts := by
    intro d a ha
    have hleft := left_update s
      (s.recorder.update sample.distribution (·.count sample.shard sample.micros)) i ⟨none, rest⟩
    have hcons : ((⟨some sample, rest⟩ : Recording).left : Multiset Sample)
        = {sample} + ((⟨none, rest⟩ : Recording).left : Multiset Sample) := rfl
    rw [hi, hcons, ← add_assoc] at hleft
    have hsplit := congrArg (countsOf (· = d)) (add_right_cancel hleft)
    rw [countsOf_add, countsOf_singleton] at hsplit
    rw [LatencyRecorder.distribution_update] at ha
    split at ha
    · rename_i hsame
      obtain ⟨b, hb, rfl⟩ := Option.map_eq_some_iff.mp ha
      rw [AtomicHistogram.counts_count b _ _ (h.allocated i sample (by rw [hi]) b (hsame ▸ hb)),
        ← h.counts d b hb, ← hsplit, if_pos (decide_eq_true hsame)]
      abel
    · rename_i hdiffers
      rw [← h.counts d a ha, ← hsplit, if_neg (by simpa using hdiffers), add_zero]

/-- **Every step keeps what the recorder holds.** -/
theorem Counted.step {names : List String} {samples : Multiset Sample} {s t : RecorderState ι}
    {i : ι} (h : Counted names samples s) (hstep : s.step i = some t) :
    Counted names samples t := by
  unfold RecorderState.step at hstep
  split at hstep
  · rename_i sample rest hi
    obtain rfl := Option.some.inj hstep
    exact h.count hi
  · rename_i sample rest hi
    obtain rfl := Option.some.inj hstep
    exact h.allocate hi
  · cases hstep

omit [DecidableEq ι] in
/-- When every worker is done the recorder holds the counts of all samples. -/
theorem Counted.counts_of_done {names : List String} {samples : Multiset Sample}
    {s : RecorderState ι} (h : Counted names samples s) (hdone : s.Done) {d : Distribution}
    {a : AtomicHistogram} (ha : s.recorder.distribution d = some a) :
    a.counts = countsOf (· = d) samples := by
  have hleft : s.left = 0 := by
    refine Finset.sum_eq_zero fun i _ => ?_
    rw [hdone i]
    rfl
  rw [← h.counts d a ha, hleft, countsOf_zero, add_zero]

end RecorderState

/-! ## Totals absorb the recorder once

The three calls by which the program adds something of a run to totals. -/

/-- A call that adds something of a run to its totals. -/
inductive Addition where
  /-- `add_worker`: a worker's counters and its recorder. -/
  | worker (w : WorkerMetrics)
  /-- `add_worker_counts`: a worker's counters only. -/
  | counts (w : WorkerMetrics)
  /-- `add_recorder`. -/
  | recorder (latency : RecorderId)

namespace Addition

/-- The recorder an addition is about. -/
def latency : Addition → RecorderId
  | worker w => w.latency
  | counts w => w.latency
  | recorder latency => latency

/-- Whether an addition brings its recorder along. -/
def brings : Addition → Bool
  | counts _ => false
  | _ => true

/-- What an addition does to the totals. -/
def apply (recorders : RecorderId → LatencyRecorder) (totals : MetricsTotals) :
    Addition → MetricsTotals
  | worker w => totals.addWorker recorders w
  | counts w => totals.addWorkerCounts recorders w
  | recorder latency => totals.addRecorder recorders latency

/-- The counters an addition brings, for a recorder with actions `names`. -/
def counters (names : List String) : Addition → MetricsTotals.Tally
  | worker w => MetricsTotals.workerTally names w
  | counts w => MetricsTotals.workerTally names w
  | recorder _ => 0

end Addition

namespace MetricsTotals

section Shared

variable (recorders : RecorderId → LatencyRecorder) (id : RecorderId)

/-- One addition adds its counters, and the recorder it brings unless the
totals hold it already. -/
theorem tally_apply (addition : Addition) (totals : MetricsTotals) (h : addition.latency = id) :
    (addition.apply recorders totals).tally
      = totals.tally + addition.counters (recorders id).actionNames
        + if addition.brings ∧ id ∉ totals.absorbed then recorderTally (recorders id) else 0 := by
  cases addition with
  | counts w =>
    obtain rfl : w.latency = id := h
    exact (tally_addWorkerCounts recorders totals w).trans (add_zero _).symm
  | recorder latency =>
    obtain rfl : latency = id := h
    refine (tally_addRecorder recorders totals latency).trans ?_
    by_cases hmem : latency ∈ totals.absorbed <;> simp [hmem, Addition.brings, Addition.counters]
  | worker w =>
    obtain rfl : w.latency = id := h
    show (totals.addWorker recorders w).tally = _
    unfold addWorker
    rw [tally_addWorkerCounts, tally_addRecorder, add_right_comm]
    by_cases hmem : w.latency ∈ totals.absorbed <;> simp [hmem, Addition.brings, Addition.counters]

/-- The totals hold the recorder once an addition brought it. -/
theorem mem_absorbed_apply (addition : Addition) (totals : MetricsTotals)
    (h : addition.latency = id) :
    id ∈ (addition.apply recorders totals).absorbed
      ↔ addition.brings = true ∨ id ∈ totals.absorbed := by
  cases addition with
  | counts w =>
    show id ∈ (totals.addWorkerCounts recorders w).absorbed ↔ _
    rw [absorbed_addWorkerCounts]
    simp [Addition.brings]
  | recorder latency =>
    obtain rfl : latency = id := h
    exact (mem_absorbed_addRecorder recorders totals latency latency).trans
      (or_congr_left (iff_of_true rfl rfl))
  | worker w =>
    obtain rfl : w.latency = id := h
    show w.latency ∈ (totals.addWorker recorders w).absorbed ↔ _
    unfold addWorker
    rw [absorbed_addWorkerCounts]
    exact (mem_absorbed_addRecorder recorders totals w.latency w.latency).trans
      (or_congr_left (iff_of_true rfl rfl))

/-- **Additions about one recorder add their counters, and the recorder
once**, whatever their order. -/
theorem tally_foldl_apply (additions : List Addition) (totals : MetricsTotals)
    (h : ∀ addition ∈ additions, addition.latency = id) :
    (additions.foldl (Addition.apply recorders) totals).tally
      = totals.tally + (additions.map (Addition.counters (recorders id).actionNames)).sum
        + if additions.any Addition.brings ∧ id ∉ totals.absorbed then
            recorderTally (recorders id) else 0 := by
  induction additions generalizing totals with
  | nil => simp
  | cons addition rest ih =>
    have hid : addition.latency = id := h addition List.mem_cons_self
    rw [List.foldl_cons, ih _ fun a ha => h a (List.mem_cons_of_mem _ ha),
      tally_apply recorders id addition totals hid, List.map_cons, List.sum_cons, List.any_cons]
    simp only [mem_absorbed_apply recorders id addition totals hid]
    by_cases hmem : id ∈ totals.absorbed
    · simp [hmem, add_assoc]
    · by_cases hbrings : addition.brings = true
      · simp only [hmem, hbrings, not_false_eq_true, and_true, if_true, true_or, not_true_eq_false,
          and_false, if_false, Bool.true_or, add_zero]
        abel
      · simp only [hmem, hbrings, not_false_eq_true, and_true, if_false, Bool.false_eq_true,
          or_self, Bool.false_or, add_zero]
        abel

/-- The totals of an action, empty when there are none. -/
def actionTotals (totals : MetricsTotals) (name : String) : ActionTotals :=
  totals.actions[name]?.getD 0

/-- A histogram of an action's totals; none without totals. -/
def partOf (part : ActionTotals →+ Histogram) (held : WithZero ActionTotals) : Histogram :=
  Option.elim held 0 part

/-- The histograms of an action add up. -/
theorem partOf_add (part : ActionTotals →+ Histogram) (a b : WithZero ActionTotals) :
    partOf part (a + b) = partOf part a + partOf part b := by
  cases a with
  | zero =>
    rw [zero_add]
    exact (zero_add _).symm
  | coe a =>
    cases b with
    | zero =>
      rw [add_zero]
      exact (add_zero _).symm
    | coe b => exact map_add part a b

/-- A histogram of one action, read off a sum. -/
def actionPart (name : String) (part : ActionTotals →+ Histogram) : Tally →+ Histogram where
  toFun tally := partOf part (tally.2.2.2.2.2.2 name)
  map_zero' := rfl
  map_add' a b := partOf_add part (a.2.2.2.2.2.2 name) (b.2.2.2.2.2.2 name)

/-- The histogram of an action in the totals. -/
theorem actionPart_tally (totals : MetricsTotals) (name : String)
    (part : ActionTotals →+ Histogram) :
    actionPart name part totals.tally = part (totals.actionTotals name) := by
  show Option.elim totals.actions[name]? 0 part = part (totals.actions[name]?.getD 0)
  cases totals.actions[name]? with
  | none => exact (map_zero part).symm
  | some action => rfl

/-- The histogram of an action in a list of actions with that name. -/
theorem actionPart_actionsTally (names : List String) (amount : ℕ → ActionTotals) (name : String)
    (part : ActionTotals →+ Histogram) :
    actionPart name part (actionsTally names amount)
      = (names.zipIdx.map fun item => if item.1 = name then part (amount item.2) else 0).sum := by
  unfold actionsTally
  rw [map_list_sum, List.map_map]
  congr 1
  refine List.map_congr_left fun item _ => ?_
  show partOf part ((Pi.single item.1 (amount item.2 : WithZero ActionTotals) :
    String → WithZero ActionTotals) name) = _
  by_cases hname : item.1 = name
  · rw [if_pos hname, ← hname, Pi.single_eq_same]
    rfl
  · rw [if_neg hname, Pi.single_eq_of_ne (Ne.symm hname)]
    rfl

end Shared

end MetricsTotals

/-! ## The named actions -/

/-- Adds the recorded distributions to three histograms. -/
def LatencyRecorder.addTo (r : LatencyRecorder) (handshake rtt response : Histogram) :
    Histogram × Histogram × Histogram :=
  (r.handshake.addTo handshake, r.rtt.addTo rtt, r.response.addTo response)

/-- The round-trip times of the actions called `name`. -/
def isRttOf (names : List String) (name : String) : Distribution → Bool
  | .actionRtt action => names[action]? = some name
  | _ => false

/-- The response times of the actions called `name`. -/
def isResponseOf (names : List String) (name : String) : Distribution → Bool
  | .actionResponse action => names[action]? = some name
  | _ => false

/-- The samples of the actions called `name` are those of the positions with
that name. -/
theorem sum_countsOf_named (names : List String) (name : String) {of : ℕ → Distribution}
    (hof : Function.Injective of) {among : Distribution → Bool}
    (hamong : ∀ d, among d = true ↔ ∃ action, d = of action ∧ names[action]? = some name)
    (samples : Multiset Sample) :
    (names.zipIdx.map fun item =>
      if item.1 = name then countsOf (· = of item.2) samples else 0).sum
      = countsOf among samples := by
  have hlist : ∀ f : String × ℕ → Histogram, (names.zipIdx.map f).sum
      = ∑ action : Fin names.length, f (names.get action, action) := by
    intro f
    rw [← List.sum_ofFn]
    congr 1
    exact List.ext_getElem (by simp) fun index _ _ => by simp
  rw [hlist]
  show (∑ action : Fin names.length,
    if names.get action = name then countsOf (· = of action) samples else 0) = _
  induction samples using Multiset.induction with
  | empty => simp
  | cons sample rest ih =>
    have hone : (∑ action : Fin names.length,
        if names.get action = name then countsOf (· = of action) {sample} else 0)
        = countsOf among {sample} := by
      by_cases hd : among sample.distribution = true
      · obtain ⟨action, hof', hget⟩ := (hamong _).mp hd
        obtain ⟨hlt, hname⟩ := List.getElem?_eq_some_iff.mp hget
        rw [Finset.sum_eq_single ⟨action, hlt⟩]
        · show (if names[action] = name then countsOf (· = of action) {sample} else 0) = _
          rw [if_pos hname, countsOf_singleton, countsOf_singleton, if_pos hd,
            if_pos (decide_eq_true hof')]
        · intro other _ hother
          have hdiffers : sample.distribution ≠ of other := by
            rw [hof']
            exact fun h => hother (Fin.ext (hof h).symm)
          rw [countsOf_singleton_of_ne hdiffers, ite_self]
        · exact fun h => absurd (Finset.mem_univ _) h
      · rw [countsOf_singleton, if_neg hd]
        refine Finset.sum_eq_zero fun action _ => ?_
        by_cases hname : names.get action = name
        · have hdiffers : sample.distribution ≠ of action := fun h =>
            hd ((hamong _).mpr ⟨action, h, List.getElem?_eq_some_iff.mpr ⟨action.isLt, hname⟩⟩)
          rw [countsOf_singleton_of_ne hdiffers, ite_self]
        · rw [if_neg hname]
    rw [← Multiset.singleton_add, countsOf_add, ← hone, ← ih, ← Finset.sum_add_distrib]
    refine Finset.sum_congr rfl fun action _ => ?_
    split
    · rw [countsOf_add]
    · rw [add_zero]

/-- The round-trip times of an action's totals, as a sum. -/
def rttPart : ActionTotals →+ Histogram := ⟨⟨ActionTotals.rtt, rfl⟩, fun _ _ => rfl⟩

/-- The response times of an action's totals, as a sum. -/
def responsePart : ActionTotals →+ Histogram := ⟨⟨ActionTotals.response, rfl⟩, fun _ _ => rfl⟩

namespace MetricsTotals

/-- A part of the totals that no worker's counters touch. -/
structure Latency (part : Tally →+ Histogram) : Prop where
  counters : ∀ names w, part (workerTally names w) = 0

/-- Such a part of the totals gets what the recorder holds, once. -/
theorem Latency.foldl_apply {part : Tally →+ Histogram} (hpart : Latency part)
    (recorders : RecorderId → LatencyRecorder) (id : RecorderId) {additions : List Addition}
    {totals : MetricsTotals} (h : ∀ addition ∈ additions, addition.latency = id)
    (hbrings : ∃ addition ∈ additions, addition.brings = true) (hnew : id ∉ totals.absorbed) :
    part (additions.foldl (Addition.apply recorders) totals).tally
      = part totals.tally + part (recorderTally (recorders id)) := by
  have hcounters : part (additions.map (Addition.counters (recorders id).actionNames)).sum = 0 := by
    rw [map_list_sum, List.map_map]
    refine List.sum_eq_zero fun amount hamount => ?_
    obtain ⟨addition, -, rfl⟩ := List.mem_map.mp hamount
    cases addition with
    | recorder _ => exact map_zero part
    | _ w => exact hpart.counters _ w
  rw [tally_foldl_apply recorders id additions totals h, if_pos ⟨List.any_eq_true.mpr hbrings, hnew⟩,
    map_add, map_add, hcounters, add_zero]

/-- A list of actions has no part in the distributions of the whole run. -/
theorem actionsTally_run (names : List String) (amount : ℕ → ActionTotals) :
    (actionsTally names amount).1 = 0 ∧ (actionsTally names amount).2.1 = 0
      ∧ (actionsTally names amount).2.2.1 = 0 := by
  unfold actionsTally
  induction names.zipIdx with
  | nil => exact ⟨rfl, rfl, rfl⟩
  | cons item rest ih =>
    rw [List.map_cons, List.sum_cons]
    obtain ⟨h₁, h₂, h₃⟩ := ih
    refine ⟨?_, ?_, ?_⟩
    · exact (zero_add _).trans h₁
    · exact (zero_add _).trans h₂
    · exact (zero_add _).trans h₃

/-- The handshakes of a sum. -/
def handshakePart : Tally →+ Histogram := ⟨⟨fun tally => tally.1, rfl⟩, fun _ _ => rfl⟩

/-- The round-trip times of a sum. -/
def runRttPart : Tally →+ Histogram := ⟨⟨fun tally => tally.2.1, rfl⟩, fun _ _ => rfl⟩

/-- The response times of a sum. -/
def runResponsePart : Tally →+ Histogram := ⟨⟨fun tally => tally.2.2.1, rfl⟩, fun _ _ => rfl⟩

theorem latency_handshakePart : Latency handshakePart where
  counters names w := by
    unfold workerTally
    rw [map_add]
    exact (add_zero _).trans (actionsTally_run names _).1

theorem latency_runRttPart : Latency runRttPart where
  counters names w := by
    unfold workerTally
    rw [map_add]
    exact (add_zero _).trans (actionsTally_run names _).2.1

theorem latency_runResponsePart : Latency runResponsePart where
  counters names w := by
    unfold workerTally
    rw [map_add]
    exact (add_zero _).trans (actionsTally_run names _).2.2

/-- The latencies of an action are no counters. -/
theorem latency_actionPart (name : String) (part : ActionTotals →+ Histogram)
    (hpart : ∀ counts, part ⟨0, 0, counts⟩ = 0) : Latency (actionPart name part) where
  counters names w := by
    unfold workerTally
    rw [map_add, actionPart_actionsTally]
    refine (add_zero _).trans (List.sum_eq_zero fun amount hamount => ?_)
    obtain ⟨item, -, rfl⟩ := List.mem_map.mp hamount
    split
    · exact hpart _
    · rfl

/-- What a recorder adds to the totals of one action. -/
theorem actionPart_recorderTally (r : LatencyRecorder) (name : String)
    (part : ActionTotals →+ Histogram) :
    actionPart name part (recorderTally r)
      = (r.actionNames.zipIdx.map fun item =>
          if item.1 = name then part (recordedAction r item.2) else 0).sum := by
  unfold recorderTally
  rw [map_add, actionPart_actionsTally]
  exact zero_add _

end MetricsTotals

/-! ## The recorder of a run -/

/-- A run of workers that record side by side, in some order of their steps,
until each has recorded all its samples. -/
structure RecorderRun (ι : Type) [DecidableEq ι] where
  shards : ℕ
  /-- The names of the phase's actions. -/
  names : List String
  /-- What each worker records, in its order. -/
  samples : ι → List Sample
  /-- Which worker takes each step. -/
  schedule : List ι
  final : RecorderState ι
  ran : Machine.run RecorderState.step (.start shards names samples) schedule = some final
  done : final.Done

namespace RecorderRun

variable {ι : Type} [DecidableEq ι] [Fintype ι] (run : RecorderRun ι)

/-- The recorder when every worker is done. -/
def recorder : LatencyRecorder := run.final.recorder

/-- All samples of the run. -/
def allSamples : Multiset Sample := ∑ i, (run.samples i : Multiset Sample)

theorem counted : RecorderState.Counted run.names run.allSamples run.final :=
  Machine.run_inv RecorderState.Counted.step
    (RecorderState.counted_start run.shards run.names run.samples) run.ran

theorem counts_eq {d : Distribution} {a : AtomicHistogram}
    (ha : run.recorder.distribution d = some a) : a.counts = countsOf (· = d) run.allSamples :=
  run.counted.counts_of_done run.done ha

/-- The recorder has exactly the actions of the phase. -/
theorem actions_length : run.recorder.actions.length = run.names.length := by
  rw [← run.counted.names]
  exact (List.length_map _).symm

/-- What the recorder holds of an action. -/
theorem recordedAction_eq {action : ℕ} (haction : action < run.names.length) :
    MetricsTotals.recordedAction run.recorder action
      = ⟨countsOf (· = .actionRtt action) run.allSamples,
          countsOf (· = .actionResponse action) run.allSamples, 0⟩ := by
  have hlt : action < run.recorder.actions.length := by
    rw [run.actions_length]
    exact haction
  have hget : run.recorder.actions[action]? = some run.recorder.actions[action] :=
    List.getElem?_eq_getElem hlt
  have hrtt : run.recorder.distribution (.actionRtt action)
      = some run.recorder.actions[action].rtt := congrArg (Option.map _) hget
  have hresponse : run.recorder.distribution (.actionResponse action)
      = some run.recorder.actions[action].response := congrArg (Option.map _) hget
  unfold MetricsTotals.recordedAction
  rw [hget]
  exact ActionTotals.ext (run.counts_eq hrtt) (run.counts_eq hresponse) rfl

/-- What the recorder adds to one action of the totals, for a part of it that
is the samples of one kind. -/
theorem actionPart_recorder (name : String) (part : ActionTotals →+ Histogram)
    (of : ℕ → Distribution) (hof : Function.Injective of) (among : Distribution → Bool)
    (hamong : ∀ d, among d = true ↔ ∃ action, d = of action ∧ run.names[action]? = some name)
    (hpart : ∀ action < run.names.length,
      part (MetricsTotals.recordedAction run.recorder action)
        = countsOf (· = of action) run.allSamples) :
    MetricsTotals.actionPart name part (MetricsTotals.recorderTally run.recorder)
      = countsOf among run.allSamples := by
  rw [MetricsTotals.actionPart_recorderTally, ← sum_countsOf_named run.names name hof hamong]
  have hnames : run.recorder.actionNames = run.names := run.counted.names
  rw [hnames]
  congr 1
  refine List.map_congr_left fun item hitem => ?_
  have hlt : item.2 < run.names.length := by
    obtain ⟨-, hlt, -⟩ := List.mem_zipIdx hitem
    simpa using hlt
  rw [hpart item.2 hlt]

end RecorderRun

/-- A recorder's run-level distributions in a sum. -/
theorem MetricsTotals.recorderTally_run (r : LatencyRecorder) :
    (recorderTally r).1 = r.handshake.counts ∧ (recorderTally r).2.1 = r.rtt.counts
      ∧ (recorderTally r).2.2.1 = r.response.counts := by
  obtain ⟨h₁, h₂, h₃⟩ := actionsTally_run r.actionNames (recordedAction r)
  refine ⟨?_, ?_, ?_⟩
  · show r.handshake.counts + (actionsTally r.actionNames (recordedAction r)).1 = _
    rw [h₁, add_zero]
  · show r.rtt.counts + (actionsTally r.actionNames (recordedAction r)).2.1 = _
    rw [h₂, add_zero]
  · show r.response.counts + (actionsTally r.actionNames (recordedAction r)).2.2.1 = _
    rw [h₃, add_zero]

section Direct

variable {ι : Type} [DecidableEq ι] [Fintype ι]

/-- **The shared recorder equals direct recording.** Whatever the number of
shards and the order of the workers' steps, moving the recorder's counts into
histograms does what recording every sample into them does, in any order
`all` of the samples; for the three distributions of the run, for each action
by its position, and for totals that take in the workers of the run in any
order, the recorder along with some of them. -/
theorem recorder_equals_direct (run : RecorderRun ι) (all : List Sample)
    (hall : (all : Multiset Sample) = run.allSamples) :
    (∀ handshake rtt response : Histogram,
      recordDirectly (· = .handshake) all handshake
          = some (run.recorder.addTo handshake rtt response).1
        ∧ recordDirectly (· = .rtt) all rtt = some (run.recorder.addTo handshake rtt response).2.1
        ∧ recordDirectly (· = .response) all response
          = some (run.recorder.addTo handshake rtt response).2.2)
    ∧ (∀ action < run.names.length, ∀ totals : ActionTotals,
      recordDirectly (· = .actionRtt action) all totals.rtt
          = some (run.recorder.addActionTo action totals).rtt
        ∧ recordDirectly (· = .actionResponse action) all totals.response
          = some (run.recorder.addActionTo action totals).response)
    ∧ ∀ (recorders : RecorderId → LatencyRecorder) (id : RecorderId) (totals : MetricsTotals)
        (additions : List Addition), recorders id = run.recorder → id ∉ totals.absorbed →
        (∀ addition ∈ additions, addition.latency = id) →
        (∃ addition ∈ additions, addition.brings = true) →
        let after := additions.foldl (Addition.apply recorders) totals
        recordDirectly (· = .handshake) all totals.handshake = some after.handshake
          ∧ recordDirectly (· = .rtt) all totals.rtt = some after.rtt
          ∧ recordDirectly (· = .response) all totals.response = some after.response
          ∧ ∀ name, recordDirectly (isRttOf run.names name) all (totals.actionTotals name).rtt
                = some (after.actionTotals name).rtt
              ∧ recordDirectly (isResponseOf run.names name) all (totals.actionTotals name).response
                = some (after.actionTotals name).response := by
  have hhandshake := run.counts_eq (d := .handshake) rfl
  have hrtt := run.counts_eq (d := .rtt) rfl
  have hresponse := run.counts_eq (d := .response) rfl
  simp only [recordDirectly_eq, hall]
  refine ⟨fun handshake rtt response => ⟨?_, ?_, ?_⟩, fun action haction totals => ?_, ?_⟩
  · rw [← hhandshake]
    exact congrArg some (AtomicHistogram.addTo_eq _ _).symm
  · rw [← hrtt]
    exact congrArg some (AtomicHistogram.addTo_eq _ _).symm
  · rw [← hresponse]
    exact congrArg some (AtomicHistogram.addTo_eq _ _).symm
  · rw [MetricsTotals.addActionTo_eq, run.recordedAction_eq haction]
    exact ⟨rfl, rfl⟩
  · intro recorders id totals additions hid hnew hlatency hbrings
    obtain ⟨h₁, h₂, h₃⟩ := MetricsTotals.recorderTally_run run.recorder
    -- the recorder is absorbed once, whichever of its additions comes first
    have hpart : ∀ {part : MetricsTotals.Tally →+ Histogram}, MetricsTotals.Latency part →
        part (additions.foldl (Addition.apply recorders) totals).tally
          = part totals.tally + part (MetricsTotals.recorderTally run.recorder) := by
      intro part hpart
      rw [← hid]
      exact hpart.foldl_apply recorders id hlatency hbrings hnew
    refine ⟨?_, ?_, ?_, fun name => ⟨?_, ?_⟩⟩
    · rw [← hhandshake]
      exact congrArg some ((hpart MetricsTotals.latency_handshakePart).trans
        (congrArg (totals.handshake + ·) h₁)).symm
    · rw [← hrtt]
      exact congrArg some ((hpart MetricsTotals.latency_runRttPart).trans
        (congrArg (totals.rtt + ·) h₂)).symm
    · rw [← hresponse]
      exact congrArg some ((hpart MetricsTotals.latency_runResponsePart).trans
        (congrArg (totals.response + ·) h₃)).symm
    · have hname := hpart (MetricsTotals.latency_actionPart name rttPart fun _ => rfl)
      rw [MetricsTotals.actionPart_tally, MetricsTotals.actionPart_tally,
        run.actionPart_recorder name rttPart .actionRtt (fun _ _ => Distribution.actionRtt.inj)
          (isRttOf run.names name)] at hname
      · exact congrArg some hname.symm
      · intro d
        cases d with
        | actionRtt action => simp [isRttOf]
        | _ => simp [isRttOf]
      · intro action haction
        rw [run.recordedAction_eq haction]
        rfl
    · have hname := hpart (MetricsTotals.latency_actionPart name responsePart fun _ => rfl)
      rw [MetricsTotals.actionPart_tally, MetricsTotals.actionPart_tally,
        run.actionPart_recorder name responsePart .actionResponse
          (fun _ _ => Distribution.actionResponse.inj) (isResponseOf run.names name)] at hname
      · exact congrArg some hname.symm
      · intro d
        cases d with
        | actionResponse action => simp [isResponseOf]
        | _ => simp [isResponseOf]
      · intro action haction
        rw [run.recordedAction_eq haction]
        rfl

end Direct

/-! ### Two workers on one shard -/

/-- Two workers connect and one of them sends `login`; their steps interleave. -/
def loginRecording : RecorderRun Bool where
  shards := 1
  names := ["login"]
  samples := fun
    | true => [⟨.handshake, 0, 100⟩, ⟨.actionRtt 0, 0, 70000000⟩]
    | false => [⟨.handshake, 3, 0⟩]
  schedule := [true, false, false, true, true, true]
  final := _
  ran := rfl
  done := by
    intro i
    cases i <;> rfl

/-- The samples of both workers, and the totals of the first one's metrics and
of the second one's counters. -/
theorem loginRecording_direct :
    recordDirectly (· = .handshake)
        [⟨.handshake, 0, 100⟩, ⟨.handshake, 3, 0⟩, ⟨.actionRtt 0, 0, 70000000⟩] 0
      = some ([Addition.worker { latency := 7, messagesSent := 1 },
          Addition.counts { latency := 7 }, Addition.recorder 7].foldl
          (Addition.apply fun _ => loginRecording.recorder) .new).handshake := by
  have hall : (([⟨.handshake, 0, 100⟩, ⟨.handshake, 3, 0⟩, ⟨.actionRtt 0, 0, 70000000⟩]
      : List Sample) : Multiset Sample) = loginRecording.allSamples := by
    show _ = ∑ i, (loginRecording.samples i : Multiset Sample)
    rw [Fintype.sum_bool]
    decide
  exact ((recorder_equals_direct loginRecording _ hall).2.2 (fun _ => loginRecording.recorder) 7
    .new _ rfl (by decide) (by simp [Addition.latency]) ⟨_, List.mem_cons_self, rfl⟩).1

end WsBlast
