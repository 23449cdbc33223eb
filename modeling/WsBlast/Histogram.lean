import WsBlast.Basic
import WsBlast.Lib.Hdr

/-!
# Latency histograms shared by every worker of a run

The workers of a run record into one `LatencyRecorder`: a distribution of
handshake latencies, one of round-trip times, one of response times, and a
pair for each named scenario action. Each is an `AtomicHistogram`, split
into shards that are allocated when they first record.

The bucket layout is the one `hdrhistogram` derives for the same bounds
(1 µs to 60 s, three significant figures), so `AtomicHistogram.addTo` moves
the counts into a histogram of that crate without changing a bucket
(`AtomicHistogram.addTo_eq`). The crate's own histograms are those of
`Hdr.Hist` with that layout.

The recorder avoids the crate's own histogram while a run lasts, because that
one cannot be written by many threads; it keeps plain atomic counters in the
same order, and the counters are moved over when the run ends.
-/

namespace WsBlast

/-- Smallest recorded latency, in microseconds. -/
def lowestUs : ℕ := 1

/-- Largest recorded latency, in microseconds (60 s). -/
def highestUs : ℕ := 60000000

/-! ## The bucket layout

The constants and the two functions are those of the source, with its shifts and
masks. -/

/-- Eleven bits for the sub-buckets of a bucket, which is what three
significant figures take. -/
def subBucketCountMagnitude : ℕ := 11
/-- All buckets but the first store the upper half of their sub-buckets. -/
def subBucketHalfCountMagnitude : ℕ := subBucketCountMagnitude - 1
/-- The number of sub-buckets that a later bucket stores. -/
def subBucketHalfCount : ℕ := 1 <<< subBucketHalfCountMagnitude
/-- The largest value of the first bucket. -/
def subBucketMask : ℕ := (1 <<< subBucketCountMagnitude) - 1
/-- The leading zeros of a value in the first bucket. -/
def leadingZeroCountBase : ℕ := 64 - subBucketCountMagnitude

/-- Buckets needed to reach `highestUs`: `2048 << 15` exceeds 60,000,000. -/
def bucketCount : ℕ := 16

/-- Number of counts, as in `hdrhistogram` for the same bounds. -/
def histogramLen : ℕ := (bucketCount + 1) <<< subBucketHalfCountMagnitude

/-- The leading zeros of a 64-bit value. -/
def leadingZeros (value : ℕ) : ℕ := 64 - value.size

/-- The index of the count that `value` (within the bounds) is recorded
in. -/
def indexOf (value : ℕ) : ℕ :=
  let bucket := leadingZeroCountBase - leadingZeros (value ||| subBucketMask)
  let subBucket := value >>> bucket
  ((bucket + 1) <<< subBucketHalfCountMagnitude) + subBucket - subBucketHalfCount

/-- The lowest value recorded in the count at `index`. -/
def valueAt (index : ℕ) : ℕ :=
  let bucket := (index >>> subBucketHalfCountMagnitude) - 1
  let subBucket := (index &&& (subBucketHalfCount - 1)) + subBucketHalfCount
  let subBucket :=
    if index >>> subBucketHalfCountMagnitude = 0 then subBucket - subBucketHalfCount
    else subBucket
  subBucket <<< bucket

/-- The layout of every latency histogram. -/
def latencyLayout : Hdr.Layout := ⟨subBucketHalfCountMagnitude, histogramLen⟩

/-- A histogram with the bounds every latency histogram uses. -/
abbrev Histogram : Type := Hdr.Hist latencyLayout

/-- The recorder indexes as `hdrhistogram` does. -/
theorem indexOf_eq_index {value : ℕ} (h : value < 2 ^ 64) :
    indexOf value = latencyLayout.index value := by
  have hsize : (value ||| subBucketMask).size ≤ 64 :=
    Nat.size_le.mpr (Nat.or_lt_two_pow h (by decide))
  have hbucket : leadingZeroCountBase - leadingZeros (value ||| subBucketMask)
      = (value ||| (2 ^ (latencyLayout.half + 1) - 1)).size - (latencyLayout.half + 1) := by
    show 53 - (64 - (value ||| subBucketMask).size) = (value ||| subBucketMask).size - 11
    omega
  unfold indexOf Hdr.Layout.index
  simp only [hbucket]
  generalize (value ||| (2 ^ (latencyLayout.half + 1) - 1)).size - (latencyLayout.half + 1)
    = bucket
  rw [Nat.shiftLeft_eq, Nat.shiftRight_eq_div_pow]
  show (bucket + 1) * 1024 + value / 2 ^ bucket - 1024 = bucket * 1024 + value / 2 ^ bucket
  have hring : (bucket + 1) * 1024 = bucket * 1024 + 1024 := by ring
  generalize value / 2 ^ bucket = sub
  omega

/-- The recorder's lowest values are those of `hdrhistogram`. -/
theorem valueAt_eq_lowest (index : ℕ) : valueAt index = latencyLayout.lowest index := by
  have hmod : index &&& (subBucketHalfCount - 1) = index % 1024 :=
    Nat.and_two_pow_sub_one_eq_mod index 10
  have hdiv : index >>> subBucketHalfCountMagnitude = index / 1024 :=
    Nat.shiftRight_eq_div_pow index 10
  unfold valueAt Hdr.Layout.lowest
  simp only [hmod, hdiv, Nat.shiftLeft_eq]
  show (if index / 1024 = 0 then index % 1024 + 1024 - 1024 else index % 1024 + 1024)
      * 2 ^ (index / 1024 - 1) = (index - (index / 1024 - 1) * 1024) * 2 ^ (index / 1024 - 1)
  congr 1
  split <;> omega

/-- A value within the bounds has a count. -/
theorem indexOf_lt {value : ℕ} (h : value ≤ highestUs) : indexOf value < histogramLen := by
  have hbound : highestUs < latencyLayout.lowest histogramLen := by decide
  rw [indexOf_eq_index (h.trans_lt (by decide))]
  exact latencyLayout.index_lt (h.trans_lt hbound)

/-- A larger value is counted no earlier. -/
theorem indexOf_monotoneOn : MonotoneOn indexOf {value | value < 2 ^ 64} := by
  intro low hlow high hhigh hle
  rw [indexOf_eq_index hlow, indexOf_eq_index hhigh]
  exact latencyLayout.index_mono hle

theorem valueAt_strictMono : StrictMono valueAt := by
  intro i j hlt
  rw [valueAt_eq_lowest, valueAt_eq_lowest]
  exact latencyLayout.lowest_strictMono hlt

/-- A value is between the lowest value of its count and that of the next. -/
theorem valueAt_indexOf {value : ℕ} (h : value < 2 ^ 64) :
    valueAt (indexOf value) ≤ value ∧ value < valueAt (indexOf value + 1) := by
  rw [indexOf_eq_index h, valueAt_eq_lowest, valueAt_eq_lowest]
  refine ⟨latencyLayout.lowest_index_le value, ?_⟩
  by_contra hle
  have hmono := latencyLayout.index_mono (not_lt.mp hle)
  rw [latencyLayout.index_lowest] at hmono
  omega

/-- The lowest value of a count is counted there. -/
theorem indexOf_valueAt {i : ℕ} (hi : i < histogramLen) : indexOf (valueAt i) = i := by
  have hend : latencyLayout.lowest histogramLen < 2 ^ 64 := by decide
  have hvalue : valueAt i < 2 ^ 64 := by
    rw [valueAt_eq_lowest]
    exact (latencyLayout.lowest_strictMono hi).trans hend
  rw [indexOf_eq_index hvalue, valueAt_eq_lowest, latencyLayout.index_lowest]

/-- Three significant figures: past the values that have counts of their own,
a count holds fewer values than a thousandth of its lowest. -/
theorem width_lt_thousandth {i : ℕ} (h : 2047 < valueAt (i + 1) - 1) :
    1000 * (valueAt (i + 1) - valueAt i) < valueAt i := by
  have hi : 2 ^ latencyLayout.half ≤ i := by
    -- the counts below end at 1023
    by_contra hlt
    have hmono := valueAt_strictMono.monotone (show i + 1 ≤ 1024 from not_le.mp hlt)
    have hend : valueAt 1024 = 1024 := by decide
    omega
  have hwidth := latencyLayout.width_mul_le hi
  have hpos : 0 < valueAt i := valueAt_strictMono (show 0 < i from (Nat.two_pow_pos _).trans_le hi)
  rw [← valueAt_eq_lowest, ← valueAt_eq_lowest] at hwidth
  have hhalf : 2 ^ latencyLayout.half = 1024 := rfl
  rw [hhalf] at hwidth
  omega

/-- **The layout of the counts.** A value within the bounds has a count whose
range holds it, the lowest value of a count is counted there, the counts are
in the order of their values, and past 2047 each is narrower than a thousandth
of its lowest value. -/
theorem histogram_layout :
    (∀ value, 1 ≤ value → value ≤ highestUs → indexOf value < histogramLen
      ∧ valueAt (indexOf value) ≤ value ∧ value < valueAt (indexOf value + 1))
    ∧ (∀ i < histogramLen, indexOf (valueAt i) = i)
    ∧ MonotoneOn indexOf {value | value < 2 ^ 64}
    ∧ StrictMonoOn valueAt {i | i ≤ histogramLen}
    ∧ ∀ i < histogramLen, 2047 < valueAt (i + 1) - 1 →
      1000 * (valueAt (i + 1) - valueAt i) < valueAt i := by
  refine ⟨fun value _ hhigh => ⟨indexOf_lt hhigh, valueAt_indexOf (hhigh.trans_lt (by decide))⟩,
    fun i hi => indexOf_valueAt hi, indexOf_monotoneOn, valueAt_strictMono.strictMonoOn _,
    fun i _ hwide => width_lt_thousandth hwide⟩

/-- Clamps a latency to the bounds of the histograms. -/
def clampUs (micros : ℕ) : ℕ := min (max micros lowestUs) highestUs

/-- The index a clamped latency is counted at. -/
def clampedIndex (micros : ℕ) : Fin latencyLayout.len :=
  ⟨indexOf (clampUs micros), indexOf_lt (Nat.min_le_right _ _)⟩

/-! ## Recording without locks

Recording is an addition at one index of one shard. -/

/-- One latency distribution: the counts per shard, allocated when the shard
records its first value. -/
structure AtomicHistogram where
  shards : List (Option Histogram)
  nonempty : shards ≠ []

namespace AtomicHistogram

/-- A distribution with `shards` shards, at least one. -/
def new (shards : ℕ) : AtomicHistogram where
  shards := List.replicate (max shards 1) none
  nonempty := by
    rw [Ne, List.replicate_eq_nil_iff]
    omega

/-- Counts one value in a shard. -/
def record (a : AtomicHistogram) (shard micros : ℕ) : AtomicHistogram where
  shards := a.shards.modify (shard % a.shards.length) fun counts =>
    some (counts.getD 0 + Pi.single (clampedIndex micros) 1)
  nonempty := by
    rw [Ne, ← List.length_eq_zero_iff, List.length_modify, List.length_eq_zero_iff]
    exact a.nonempty

/-- Adds the counts of one allocated shard to `hist`: every non-zero count
under the lowest value of its index. -/
def addShardTo (counts : Histogram) (hist : Histogram) : Histogram :=
  (List.finRange latencyLayout.len).foldl (fun hist index =>
    if counts index > 0 then (hist.recordN (valueAt index) (counts index)).getD hist
    else hist) hist

/-- Adds every recorded value to `hist`. -/
def addTo (a : AtomicHistogram) (hist : Histogram) : Histogram :=
  (a.shards.filterMap fun shard => shard).foldl (fun hist counts => addShardTo counts hist) hist

/-- What the shards hold together. -/
def counts (a : AtomicHistogram) : Histogram := (a.shards.map fun shard => shard.getD 0).sum

/-- Moving one shard's counts adds them. -/
theorem addShardTo_eq (counts hist : Histogram) : addShardTo counts hist = hist + counts := by
  have key : ∀ (indices : List (Fin latencyLayout.len)) (hist : Histogram),
      indices.foldl (fun hist index =>
        if counts index > 0 then (hist.recordN (valueAt index) (counts index)).getD hist
        else hist) hist
      = hist + (indices.map fun index => (Pi.single index (counts index) : Histogram)).sum := by
    intro indices
    induction indices with
    | nil => simp
    | cons index rest ih =>
      intro hist
      rw [List.foldl_cons, ih, List.map_cons, List.sum_cons, ← add_assoc]
      congr 1
      split
      · rw [valueAt_eq_lowest, Hdr.Hist.recordN_lowest]
        rfl
      · rename_i hz
        rw [Nat.eq_zero_of_not_pos hz, Pi.single_zero, add_zero]
  unfold addShardTo
  rw [key, Hdr.Hist.sum_single]

/-- **Moving a distribution into a histogram adds its counts**, bucket by
bucket. -/
theorem addTo_eq (a : AtomicHistogram) (hist : Histogram) : a.addTo hist = hist + a.counts := by
  unfold addTo counts
  generalize a.shards = shards
  induction shards generalizing hist with
  | nil => simp
  | cons shard rest ih =>
    cases shard with
    | none => simpa using ih hist
    | some held =>
      rw [List.filterMap_cons]
      simp only [List.foldl_cons, List.map_cons, List.sum_cons, Option.getD_some]
      rw [ih, addShardTo_eq, add_assoc]

@[simp] theorem counts_new (shards : ℕ) : (new shards).counts = 0 := by
  simp [counts, new]

/-- A recorded value is counted once, whatever its shard. -/
@[simp] theorem counts_record (a : AtomicHistogram) (shard micros : ℕ) :
    (a.record shard micros).counts = a.counts + Pi.single (clampedIndex micros) 1 := by
  have hlt : shard % a.shards.length < a.shards.length :=
    Nat.mod_lt _ (List.length_pos_of_ne_nil a.nonempty)
  show ((a.shards.modify (shard % a.shards.length) _).map _).sum = (a.shards.map _).sum + _
  rw [List.modify_eq_take_cons_drop hlt]
  conv_rhs => rw [← List.take_append_drop (shard % a.shards.length) a.shards,
    List.drop_eq_getElem_cons hlt]
  simp only [List.map_append, List.map_cons, List.sum_append, List.sum_cons, Option.getD_some]
  abel

end AtomicHistogram

/-! ## The recorder of a run

A worker records a latency up to three times: into the distribution of its kind,
into that of the action it is running, and into the time series, which is not
kept here. -/

/-- The distributions of one action name. -/
structure ActionLatency where
  name : String
  rtt : AtomicHistogram
  response : AtomicHistogram

/-- The distributions of one run, written by all of its workers. -/
structure LatencyRecorder where
  handshake : AtomicHistogram
  rtt : AtomicHistogram
  response : AtomicHistogram
  /-- RTT and response time of each named scenario action, by the position
  of its name in the phase's action names. -/
  actions : List ActionLatency

namespace LatencyRecorder

/-- A recorder with `shards` shards. -/
def withShards (shards : ℕ) : LatencyRecorder where
  handshake := .new shards
  rtt := .new shards
  response := .new shards
  actions := []

/-- Adds a pair of distributions for each of `names`. -/
def withActions (r : LatencyRecorder) (names : List String) : LatencyRecorder :=
  { r with actions := names.map fun name =>
      ⟨name, .new r.rtt.shards.length, .new r.rtt.shards.length⟩ }

/-- The names of the actions, by position. The names of a phase are the same on
every agent, so positions can be compared between recorders. -/
def actionNames (r : LatencyRecorder) : List String := r.actions.map ActionLatency.name

/-- Records how long a handshake took. -/
def recordHandshake (r : LatencyRecorder) (shard micros : ℕ) : LatencyRecorder :=
  { r with handshake := r.handshake.record shard micros }

/-- Records a round-trip time. -/
def recordRtt (r : LatencyRecorder) (shard micros : ℕ) : LatencyRecorder :=
  { r with rtt := r.rtt.record shard micros }

/-- Records a response time. -/
def recordResponse (r : LatencyRecorder) (shard micros : ℕ) : LatencyRecorder :=
  { r with response := r.response.record shard micros }

/-- Records a round-trip time for an action. -/
def recordActionRtt (r : LatencyRecorder) (action shard micros : ℕ) : LatencyRecorder :=
  { r with actions := r.actions.modify action fun a =>
      { a with rtt := a.rtt.record shard micros } }

/-- Records a response time for an action. -/
def recordActionResponse (r : LatencyRecorder) (action shard micros : ℕ) : LatencyRecorder :=
  { r with actions := r.actions.modify action fun a =>
      { a with response := a.response.record shard micros } }

@[simp] theorem handshake_recordRtt (r : LatencyRecorder) (shard micros : ℕ) :
    (r.recordRtt shard micros).handshake = r.handshake := rfl

@[simp] theorem handshake_recordResponse (r : LatencyRecorder) (shard micros : ℕ) :
    (r.recordResponse shard micros).handshake = r.handshake := rfl

@[simp] theorem handshake_recordActionRtt (r : LatencyRecorder) (action shard micros : ℕ) :
    (r.recordActionRtt action shard micros).handshake = r.handshake := rfl

@[simp] theorem handshake_recordActionResponse (r : LatencyRecorder) (action shard micros : ℕ) :
    (r.recordActionResponse action shard micros).handshake = r.handshake := rfl

end LatencyRecorder

end WsBlast
