import Mathlib

/-!
# High dynamic range histograms

A histogram that keeps a fixed relative precision over a wide range of
values: every power-of-two range of values is a bucket of `2 ^ (half + 1)`
sub-buckets, of which only the upper half is stored for every bucket after
the first. A `Layout` fixes the precision and the number of counts, and a
histogram of that layout is a count per index.

* `Layout.index_eq` – a value between the lowest value of an index and the
  lowest value of the next one is counted at that index;
* `recordAll_iterRecorded` – recording the values a histogram iterates over
  into another one adds the two, so a histogram is rebuilt exactly from its
  recorded values.

The layout is the one of the HdrHistogram family with a unit of one: the first
bucket has `2 ^ (half + 1)` sub-buckets of width one, every later bucket doubles
the width and stores only the sub-buckets that the one before it did not cover.
-/

namespace Hdr

/-- A bucket layout: the magnitude of half the sub-buckets of a bucket, and
the number of counts. -/
structure Layout where
  /-- The logarithm of half the number of sub-buckets of a bucket. It grows
  with the number of significant digits. -/
  half : ℕ
  /-- The number of counts, which bounds the values that can be recorded. -/
  len : ℕ

namespace Layout

variable (L : Layout)

/-- The index of the count that `value` is recorded in. -/
def index (value : ℕ) : ℕ :=
  let bucket := (value ||| (2 ^ (L.half + 1) - 1)).size - (L.half + 1)
  bucket * 2 ^ L.half + value / 2 ^ bucket

/-- The lowest value recorded in the count at `i`. -/
def lowest (i : ℕ) : ℕ :=
  let bucket := i / 2 ^ L.half - 1
  (i - bucket * 2 ^ L.half) * 2 ^ bucket

/-- The highest value recorded in the count at `i`. -/
def highest (i : ℕ) : ℕ := L.lowest (i + 1) - 1

/-- The bucket of the values between two powers of two; the first bucket
starts at 0. -/
theorem size_or_mask {value bucket : ℕ}
    (hlow : bucket = 0 ∨ 2 ^ (L.half + bucket) ≤ value)
    (hhigh : value < 2 ^ (L.half + bucket + 1)) :
    (value ||| (2 ^ (L.half + 1) - 1)).size - (L.half + 1) = bucket := by
  have hpos : 0 < 2 ^ (L.half + 1) := Nat.two_pow_pos _
  have hmask : 2 ^ (L.half + 1) - 1 < 2 ^ (L.half + bucket + 1) := by
    have : 2 ^ (L.half + 1) ≤ 2 ^ (L.half + bucket + 1) :=
      Nat.pow_le_pow_right (by norm_num) (by omega)
    omega
  have hle : (value ||| (2 ^ (L.half + 1) - 1)).size ≤ L.half + bucket + 1 :=
    Nat.size_le.mpr (Nat.or_lt_two_pow hhigh hmask)
  have hge : L.half + bucket < (value ||| (2 ^ (L.half + 1) - 1)).size ∨ bucket = 0 := by
    rcases hlow with h | h
    · exact Or.inr h
    · exact Or.inl (Nat.lt_size.mpr (h.trans Nat.left_le_or))
  omega

/-- The lowest values within one bucket are evenly spaced, and the next
bucket starts where the last one ends. -/
theorem lowest_eq {i bucket sub : ℕ} (hi : i = bucket * 2 ^ L.half + sub)
    (hlow : bucket = 0 ∨ 2 ^ L.half ≤ sub) (hhigh : sub ≤ 2 ^ (L.half + 1)) :
    L.lowest i = sub * 2 ^ bucket := by
  have hpos : 0 < 2 ^ L.half := Nat.two_pow_pos _
  have hdouble : 2 ^ (L.half + 1) = 2 * 2 ^ L.half := by rw [pow_succ, mul_comm]
  have hdiv : i / 2 ^ L.half = bucket + sub / 2 ^ L.half := by
    rw [hi, Nat.mul_comm, Nat.mul_add_div hpos]
  unfold lowest
  rcases eq_or_lt_of_le hhigh with hend | hlt
  · -- `sub` is one past the bucket: the first index of the next one
    have hsub : sub / 2 ^ L.half = 2 := by rw [hend, hdouble, Nat.mul_div_left _ hpos]
    have hb : i / 2 ^ L.half - 1 = bucket + 1 := by omega
    simp only [hb]
    have hrest : i - (bucket + 1) * 2 ^ L.half = 2 ^ L.half := by
      rw [hi, hend, hdouble, Nat.add_mul]
      omega
    rw [hrest, hend, hdouble, pow_succ]
    ring
  · have hsub : sub / 2 ^ L.half < 2 := by
      rw [Nat.div_lt_iff_lt_mul hpos]
      omega
    have hb : i / 2 ^ L.half - 1 = bucket := by
      rcases hlow with hz | hge
      · omega
      · have : 1 ≤ sub / 2 ^ L.half := (Nat.one_le_div_iff hpos).mpr hge
        omega
    simp only [hb]
    rw [hi, Nat.add_sub_cancel_left]

theorem lowest_succ_eq {i bucket sub : ℕ} (hi : i = bucket * 2 ^ L.half + sub)
    (hlow : bucket = 0 ∨ 2 ^ L.half ≤ sub) (hhigh : sub < 2 ^ (L.half + 1)) :
    L.lowest (i + 1) = (sub + 1) * 2 ^ bucket :=
  L.lowest_eq (by omega) (hlow.imp_right Nat.le_succ_of_le) hhigh

/-- Every index is a bucket and a sub-bucket of it. -/
theorem exists_bucket (i : ℕ) : ∃ bucket sub, i = bucket * 2 ^ L.half + sub
    ∧ (bucket = 0 ∨ 2 ^ L.half ≤ sub) ∧ sub < 2 ^ (L.half + 1) := by
  have hpos : 0 < 2 ^ L.half := Nat.two_pow_pos _
  have hdouble : 2 ^ (L.half + 1) = 2 * 2 ^ L.half := by rw [pow_succ, mul_comm]
  have hmod : i % 2 ^ L.half < 2 ^ L.half := Nat.mod_lt _ hpos
  have hi : 2 ^ L.half * (i / 2 ^ L.half) + i % 2 ^ L.half = i := Nat.div_add_mod _ _
  rcases Nat.eq_zero_or_pos (i / 2 ^ L.half) with hz | hp
  · refine ⟨0, i, by simp, Or.inl rfl, ?_⟩
    rw [hz] at hi
    omega
  · obtain ⟨bucket, hb⟩ : ∃ bucket, i / 2 ^ L.half = bucket + 1 := ⟨_, (Nat.sub_add_cancel hp).symm⟩
    refine ⟨bucket, 2 ^ L.half + i % 2 ^ L.half, ?_, Or.inr (Nat.le_add_right _ _), by omega⟩
    rw [hb] at hi
    rw [← Nat.add_assoc, ← Nat.succ_mul, Nat.mul_comm]
    exact hi.symm

/-- From the second half of the first bucket on, a range is no wider than its
lowest value divided by the sub-buckets of half a bucket. -/
theorem width_mul_le {i : ℕ} (hi : 2 ^ L.half ≤ i) :
    (L.lowest (i + 1) - L.lowest i) * 2 ^ L.half ≤ L.lowest i := by
  obtain ⟨bucket, sub, heq, hlow, hhigh⟩ := L.exists_bucket i
  have hsub : 2 ^ L.half ≤ sub := by
    rcases hlow with hzero | hge
    · rw [hzero, Nat.zero_mul, Nat.zero_add] at heq
      exact heq ▸ hi
    · exact hge
  have hwidth : L.lowest (i + 1) - L.lowest i = 2 ^ bucket := by
    rw [L.lowest_succ_eq heq hlow hhigh, L.lowest_eq heq hlow hhigh.le, Nat.add_mul, Nat.one_mul,
      Nat.add_sub_cancel_left]
  rw [hwidth, L.lowest_eq heq hlow hhigh.le, Nat.mul_comm]
  exact Nat.mul_le_mul_right _ hsub

/-- **Where a value is counted**: at the index whose lowest value is at most
the value, and whose successor's is above it. -/
theorem index_eq {i value : ℕ} (hlow : L.lowest i ≤ value)
    (hhigh : value < L.lowest (i + 1)) : L.index value = i := by
  obtain ⟨bucket, sub, hi, hb, hs⟩ := L.exists_bucket i
  have hsub : 0 < 2 ^ bucket := Nat.two_pow_pos _
  rw [L.lowest_eq hi hb hs.le] at hlow
  rw [L.lowest_succ_eq hi hb hs] at hhigh
  have hdiv : value / 2 ^ bucket = sub := Nat.div_eq_of_lt_le hlow hhigh
  have hbucket : (value ||| (2 ^ (L.half + 1) - 1)).size - (L.half + 1) = bucket := by
    refine L.size_or_mask (hb.imp_right fun hge => ?_) ?_
    · calc 2 ^ (L.half + bucket) = 2 ^ L.half * 2 ^ bucket := pow_add _ _ _
        _ ≤ sub * 2 ^ bucket := Nat.mul_le_mul_right _ hge
        _ ≤ value := hlow
    · calc value < (sub + 1) * 2 ^ bucket := hhigh
        _ ≤ 2 ^ (L.half + 1) * 2 ^ bucket := Nat.mul_le_mul_right _ hs
        _ = 2 ^ (L.half + bucket + 1) := by rw [← pow_add]; congr 1; omega
  unfold index
  simp only [hbucket, hdiv]
  exact hi.symm

/-- The lowest values grow with the index: no range is empty. -/
theorem lowest_lt_succ (i : ℕ) : L.lowest i < L.lowest (i + 1) := by
  obtain ⟨bucket, sub, hi, hb, hs⟩ := L.exists_bucket i
  rw [L.lowest_eq hi hb hs.le, L.lowest_succ_eq hi hb hs]
  exact Nat.mul_lt_mul_of_pos_right (Nat.lt_succ_self _) (Nat.two_pow_pos _)

theorem lowest_strictMono : StrictMono L.lowest := strictMono_nat_of_lt_succ L.lowest_lt_succ

@[simp] theorem lowest_zero : L.lowest 0 = 0 := by simp [lowest]

@[simp] theorem index_lowest (i : ℕ) : L.index (L.lowest i) = i :=
  L.index_eq le_rfl (L.lowest_lt_succ i)

@[simp] theorem index_highest (i : ℕ) : L.index (L.highest i) = i := by
  have hlt := L.lowest_lt_succ i
  unfold highest
  exact L.index_eq (by omega) (by omega)

/-- Every value has an index whose range holds it. -/
theorem exists_range (value : ℕ) :
    ∃ i, L.lowest i ≤ value ∧ value < L.lowest (i + 1) := by
  have hex : ∃ i, value < L.lowest (i + 1) :=
    ⟨value, (L.lowest_strictMono.id_le _).trans_lt' (Nat.lt_succ_self _)⟩
  refine ⟨Nat.find hex, ?_, Nat.find_spec hex⟩
  rcases hfind : Nat.find hex with _ | i
  · simp
  · exact Nat.not_lt.mp (Nat.find_min hex (by omega))

theorem lowest_index_le (value : ℕ) : L.lowest (L.index value) ≤ value := by
  obtain ⟨i, hlow, hhigh⟩ := L.exists_range value
  rwa [L.index_eq hlow hhigh]

/-- A value below the lowest value of `i` is counted before `i`. -/
theorem index_lt {i value : ℕ} (h : value < L.lowest i) : L.index value < i :=
  L.lowest_strictMono.lt_iff_lt.mp ((L.lowest_index_le value).trans_lt h)

/-- A larger value is counted no earlier. -/
theorem index_mono : Monotone L.index := by
  intro value larger hle
  obtain ⟨i, hlow, hhigh⟩ := L.exists_range larger
  rw [L.index_eq hlow hhigh]
  exact Nat.lt_succ_iff.mp (L.index_lt (hle.trans_lt hhigh))

end Layout

/-! ## Recording -/

/-- A histogram: a count for every index of its layout. Two histograms of one
layout are added index by index, and adding is all that merging is. -/
abbrev Hist (L : Layout) : Type := Fin L.len → ℕ

namespace Hist

variable {L : Layout}

/-- The number of recorded values. -/
def total (h : Hist L) : ℕ := ∑ i, h i

/-- Records `count` values equal to `value`; `none` when the layout has no
index for it. -/
def recordN (h : Hist L) (value count : ℕ) : Option (Hist L) :=
  if hv : L.index value < L.len then
    some (h + Pi.single ⟨L.index value, hv⟩ count)
  else
    none

/-- Records a list of values with their counts, stopping at the first that
cannot be recorded. -/
def recordAll : Hist L → List (ℕ × ℕ) → Option (Hist L)
  | h, [] => some h
  | h, (value, count) :: rest => (h.recordN value count).bind (recordAll · rest)

/-- The recorded values: for every non-zero count the highest value of its
index, in increasing order, with the count. -/
def iterRecorded (h : Hist L) : List (ℕ × ℕ) :=
  (List.finRange L.len).filterMap fun i =>
    if h i = 0 then none else some (L.highest i, h i)

@[simp] theorem total_zero : total (0 : Hist L) = 0 := by simp [total]

@[simp] theorem total_add (g h : Hist L) : (g + h).total = g.total + h.total := by
  simp [total, Finset.sum_add_distrib]

@[simp] theorem total_single (i : Fin L.len) (count : ℕ) :
    total (Pi.single i count : Hist L) = count := by
  simp [total, Finset.sum_pi_single']

/-- A value below the lowest value past the layout can be recorded. -/
theorem recordN_eq_some (h : Hist L) {value : ℕ} (count : ℕ) (hv : L.index value < L.len) :
    h.recordN value count = some (h + Pi.single ⟨L.index value, hv⟩ count) := dif_pos hv

theorem recordN_lowest (h : Hist L) (i : Fin L.len) (count : ℕ) :
    h.recordN (L.lowest i) count = some (h + Pi.single i count) := by
  have hv : L.index (L.lowest i) < L.len := by rw [L.index_lowest]; exact i.isLt
  rw [recordN_eq_some h count hv]
  congr 3
  exact Fin.ext (L.index_lowest i)

theorem recordN_highest (h : Hist L) (i : Fin L.len) (count : ℕ) :
    h.recordN (L.highest i) count = some (h + Pi.single i count) := by
  have hv : L.index (L.highest i) < L.len := by rw [L.index_highest]; exact i.isLt
  rw [recordN_eq_some h count hv]
  congr 3
  exact Fin.ext (L.index_highest i)

/-- Recording the non-zero counts of some indices adds these counts. -/
theorem recordAll_filterMap (g h : Hist L) (indices : List (Fin L.len)) :
    g.recordAll (indices.filterMap fun i =>
        if h i = 0 then none else some (L.highest i, h i))
      = some (g + (indices.map fun i => Pi.single i (h i)).sum) := by
  induction indices generalizing g with
  | nil => simp [recordAll]
  | cons i rest ih =>
    rw [List.map_cons, List.sum_cons, ← add_assoc]
    by_cases hz : h i = 0
    · rw [List.filterMap_cons_none (by rw [if_pos hz]), hz, Pi.single_zero, add_zero]
      exact ih g
    · rw [List.filterMap_cons_some (by rw [if_neg hz])]
      show (g.recordN (L.highest i) (h i)).bind _ = _
      rw [recordN_highest]
      exact ih _

/-- The counts of a histogram, index by index. -/
theorem sum_single (h : Hist L) :
    ((List.finRange L.len).map fun i => (Pi.single i (h i) : Hist L)).sum = h := by
  rw [← List.ofFn_eq_map, List.sum_ofFn]
  exact Finset.univ_sum_single h

/-- **A histogram is what it iterates over**: recording its recorded values
into another histogram of the same layout adds the two. -/
theorem recordAll_iterRecorded (g h : Hist L) :
    g.recordAll h.iterRecorded = some (g + h) := by
  unfold iterRecorded
  rw [recordAll_filterMap, sum_single]

/-! ## Summaries of the recorded values

What a report shows is computed from the counts alone: the exact values are
gone, and a range stands for all the values in it. -/

/-- The indices with a count, in increasing order. -/
def recorded (h : Hist L) : List (Fin L.len) := (List.finRange L.len).filter fun i => h i ≠ 0

/-- The smallest value: the lowest value of the first index with a count. -/
def minValue (h : Hist L) : ℕ := h.recorded.head?.elim 0 fun i => L.lowest i

/-- The largest value: the highest value of the last index with a count. -/
def maxValue (h : Hist L) : ℕ := h.recorded.getLast?.elim 0 fun i => L.highest i

/-- The mean, each value counted as the middle of its index's range. -/
def mean (h : Hist L) : ℚ :=
  ((h.recorded.map fun i : Fin L.len =>
    (L.lowest i + (L.lowest (i.val + 1) - L.lowest i) / 2) * h i).sum : ℕ) / (h.total : ℚ)

/-- The value at the `rank`-th recorded sample in increasing order, counted
from 1: the highest value of the first index whose cumulative count reaches
`rank`. -/
def valueAtRank (h : Hist L) (rank : ℕ) : ℕ :=
  go rank (List.finRange L.len)
where
  /-- The search over the indices left, with `rank` samples still to pass. -/
  go (rank : ℕ) : List (Fin L.len) → ℕ
    | [] => 0
    | i :: rest => if rank ≤ h i then L.highest i else go (rank - h i) rest

/-- The value at quantile `q` of the recorded samples. -/
def valueAtQuantile (h : Hist L) (q : ℚ) : ℕ :=
  h.valueAtRank (max 1 ⌈q * h.total⌉.toNat)

/-- The number of samples whose index is between those of `low` and
`high`. -/
def countBetween (h : Hist L) (low high : ℕ) : ℕ :=
  ∑ i : Fin L.len, if L.index low ≤ i.val ∧ i.val ≤ L.index high then h i else 0

end Hist

end Hdr
