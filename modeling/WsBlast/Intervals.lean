import WsBlast.Histogram

/-!
# Latency per interval of a run

Each worker keeps the samples of the interval it is in (`IntervalRecorder`)
and hands them to the run's `IntervalStore` when the interval changes or the
batch is full. The store has one histogram per interval, at two significant
figures.

The batch is what makes the time series cheap, and what makes it late: a sample
is in the store when its worker's batch is full or when the worker has moved on
to another interval, which can be long after the interval is over for a worker
that has nothing to send.
-/

namespace WsBlast

/-- The layout `hdrhistogram` derives for 1 µs to 60 s at two significant
figures: buckets of 256 sub-buckets, 19 of them. -/
def intervalLayout : Hdr.Layout := ⟨7, 20 * 2 ^ 7⟩

/-- A histogram of one interval. -/
abbrev IntervalHistogram : Type := Hdr.Hist intervalLayout

/-- A value within the bounds has a count. -/
theorem intervalIndex_lt {value : ℕ} (h : value ≤ highestUs) :
    intervalLayout.index value < intervalLayout.len := by
  have hbound : highestUs < intervalLayout.lowest intervalLayout.len := by decide
  exact intervalLayout.index_lt (h.trans_lt hbound)

/-- Records a value, dropping it when it is out of range. -/
def IntervalHistogram.record (hist : IntervalHistogram) (micros : ℕ) : IntervalHistogram :=
  (hist.recordN micros 1).getD hist

/-- A value within the bounds is counted. -/
theorem IntervalHistogram.total_record (hist : IntervalHistogram) {micros : ℕ}
    (h : micros ≤ highestUs) : (hist.record micros).total = hist.total + 1 := by
  unfold record
  rw [Hdr.Hist.recordN_eq_some hist 1 (intervalIndex_lt h), Option.getD_some,
    Hdr.Hist.total_add, Hdr.Hist.total_single]

/-- Latency histograms of a run, one per interval, merged from every worker. An
interval in which nothing was recorded has none. -/
structure IntervalStore where
  start : Instant
  interval : Duration
  buckets : Std.ExtTreeMap ℕ IntervalHistogram compare

namespace IntervalStore

/-- A store with no samples. -/
def new (start : Instant) (interval : Duration) : IntervalStore := ⟨start, interval, ∅⟩

/-- The interval that `at` lies in. -/
def bucketOf (store : IntervalStore) (at' : Instant) : ℕ :=
  (at' - store.start) / store.interval

/-- Adds latency samples, in microseconds, to interval `bucket`. -/
def absorbSamples (store : IntervalStore) (bucket : ℕ) (samples : List ℕ) : IntervalStore :=
  { store with
    buckets := store.buckets.alter bucket fun held =>
      some (samples.foldl IntervalHistogram.record (held.getD 0)) }

end IntervalStore

/-- Samples a worker holds before handing them to the store. The limit bounds
how often workers meet at the store's lock. -/
def flushSamples : ℕ := 64

/-- A reference to a store that the workers of a run share. -/
abbrev StoreId := ℕ

/-- A worker's latency samples for the interval it is currently in. -/
structure IntervalRecorder where
  store : StoreId
  bucket : ℕ
  samples : List ℕ

namespace IntervalRecorder

/-- A recorder for `store`, with no samples. -/
def new (store : StoreId) : IntervalRecorder := ⟨store, 0, []⟩

/-- Hands the samples held for the current interval to the store. -/
def flush (r : IntervalRecorder) (stores : StoreId → IntervalStore) :
    IntervalRecorder × (StoreId → IntervalStore) :=
  if r.samples = [] then (r, stores)
  else
    ({ r with samples := [] },
      Function.update stores r.store ((stores r.store).absorbSamples r.bucket r.samples))

/-- Records a sample taken at `now`. -/
def record (r : IntervalRecorder) (stores : StoreId → IntervalStore) (now : Instant)
    (micros : ℕ) : IntervalRecorder × (StoreId → IntervalStore) :=
  let bucket := (stores r.store).bucketOf now
  let (r, stores) :=
    if bucket ≠ r.bucket then
      let (r, stores) := r.flush stores
      ({ r with bucket }, stores)
    else (r, stores)
  let r := { r with samples := r.samples ++ [micros] }
  if r.samples.length = flushSamples then r.flush stores else (r, stores)

end IntervalRecorder

end WsBlast
