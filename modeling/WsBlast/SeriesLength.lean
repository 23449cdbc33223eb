import WsBlast.TimeSeries

/-!
# How many points a series has

The samples of a run are taken at its start, at every boundary within it and
at its end (`sampleTimes`), so a series has a point for every interval that
the run reaches into, less a last one that is a sliver (`length_points_build`,
`pointCount`).

The interval length is chosen for that number to stay within `maxPoints`. It
is the whole seconds of the run that are divided, so the part of a second
behind a multiple of `maxPoints` seconds can add one point too many; and the
sliver that is folded is not counted on, so a second less would sometimes do.
`FitsSeries` says for which runs neither is the case.

Samples are taken on time here: at the start, at each boundary and at the end.
The number of points is then a matter of two divisions, one that rounds up and
one that asks whether the last point is too short.
-/

namespace WsBlast

namespace TimeSeries

/-! ## The points of a run

The times of the samples, and the number of points that a series built from them
has. -/

/-- The times of the samples of a run: each boundary before its end, from the
start on, and its end. -/
def sampleTimes (interval duration : Duration) : List Duration :=
  (List.range ((duration + interval - 1) / interval)).map (· * interval) ++ [duration]

/-- The points of a run of `duration`: the intervals that cover it, less a
last one shorter than a twentieth of the interval. -/
def pointCount (interval duration : Duration) : ℕ :=
  let intervals := (duration + interval - 1) / interval
  if 2 ≤ intervals ∧ 20 * (duration - (intervals - 1) * interval) < interval then intervals - 1
  else intervals

theorem length_dropSliver (interval start last : Duration) (times : List Duration) :
    (dropSliver interval (times ++ [start, last])).length
      = if times ≠ [] ∧ 20 * (last - start) < interval then times.length
        else times.length + 1 := by
  induction times with
  | nil => rfl
  | cons first rest ih =>
    match rest, ih with
    | [], _ =>
      show (if 20 * (last - start) < interval then [first] else [first, start]).length = _
      by_cases hsliver : 20 * (last - start) < interval
      · rw [if_pos hsliver, if_pos ⟨List.cons_ne_nil _ _, hsliver⟩]
      · rw [if_neg hsliver, if_neg (fun h => hsliver h.2)]
        rfl
    | second :: rest, ih =>
      -- the sliver is at the end, so a longer front only adds its length
      have hnext : (dropSliver interval (first :: second :: rest ++ [start, last])).length
          = (dropSliver interval (second :: rest ++ [start, last])).length + 1 := by
        cases rest with
        | nil => rfl
        | cons third rest => cases rest <;> rfl
      rw [hnext, ih]
      by_cases hsliver : 20 * (last - start) < interval
      · rw [if_pos ⟨List.cons_ne_nil _ _, hsliver⟩, if_pos ⟨List.cons_ne_nil _ _, hsliver⟩]
        rfl
      · rw [if_neg (fun h => hsliver h.2), if_neg (fun h => hsliver h.2)]
        rfl

/-- A run ends within the interval after its last boundary. -/
theorem exists_last_boundary {interval duration : Duration} (hi : 0 < interval)
    (hd : 0 < duration) : ∃ m, (duration + interval - 1) / interval = m + 1
      ∧ m * interval < duration ∧ duration ≤ (m + 1) * interval := by
  have hceil : duration + interval - 1 = duration - 1 + interval :=
    Nat.sub_add_comm (Nat.one_le_of_lt hd)
  have hbefore : (duration - 1) / interval * interval ≤ duration - 1 := Nat.div_mul_le_self _ _
  have hafter : duration - 1 < ((duration - 1) / interval + 1) * interval :=
    Nat.lt_mul_of_div_lt (Nat.lt_succ_self _) hi
  refine ⟨(duration - 1) / interval, ?_, ?_, ?_⟩
  · rw [hceil, Nat.add_div_right _ hi]
  · exact Nat.lt_of_le_sub_one hd hbefore
  · exact Nat.le_of_pred_lt hafter

/-- The times of the samples are in order, each different from the one
before. -/
theorem pairwise_sampleTimes {interval duration : Duration} (hi : 0 < interval)
    (hd : 0 < duration) : (sampleTimes interval duration).Pairwise (· < ·) := by
  obtain ⟨m, hm, hlast, -⟩ := exists_last_boundary hi hd
  unfold sampleTimes
  rw [hm, List.pairwise_append]
  refine ⟨?_, List.pairwise_singleton _ _, ?_⟩
  · rw [List.pairwise_map]
    exact List.pairwise_lt_range.imp fun h => Nat.mul_lt_mul_of_pos_right h hi
  · intro time htime last hlast'
    obtain ⟨k, hk, rfl⟩ := List.mem_map.mp htime
    rw [List.mem_singleton.mp hlast']
    have hk' : k ≤ m := Nat.lt_succ_iff.mp (List.mem_range.mp hk)
    exact (Nat.mul_le_mul_right _ hk').trans_lt hlast

/-- **The number of points of a series** whose samples were taken on time. -/
theorem length_points_build (store : IntervalStore) (hi : 0 < store.interval) {duration : Duration}
    (hd : 0 < duration) {samples : List CounterSample}
    (htimes : samples.map Prod.fst = sampleTimes store.interval duration) (basis : String) :
    (build samples store basis).points.length = pointCount store.interval duration := by
  have hpairwise := pairwise_sampleTimes hi hd
  obtain ⟨m, hm, -, -⟩ := exists_last_boundary hi hd
  have hsplit : sampleTimes store.interval duration
      = (List.range m).map (· * store.interval) ++ [m * store.interval, duration] := by
    unfold sampleTimes
    rw [hm, List.range_succ, List.map_append, List.append_assoc]
    rfl
  cases samples with
  | nil =>
    rw [hsplit] at htimes
    simp at htimes
  | cons first rest =>
    -- on time, the samples are in order and no two are of one moment
    have hsorted : (first :: rest).Pairwise fun a b => a.1 ≤ b.1 := by
      rw [← htimes, List.pairwise_map] at hpairwise
      exact hpairwise.imp le_of_lt
    have hpoints := map_build_points hsorted store basis (fun _ => ()) (fun _ => ())
      (fun _ _ => rfl) fun _ _ => rfl
    have hlength := congrArg List.length hpoints
    rw [List.length_map, List.length_map, htimes] at hlength
    rw [hlength]
    unfold startTimes
    rw [List.dedup_eq_self.mpr (hpairwise.imp ne_of_lt), hsplit, length_dropSliver]
    unfold pointCount
    simp only [hm, Nat.add_sub_cancel, List.length_map, List.length_range]
    have hsome : (List.range m).map (· * store.interval) ≠ [] ↔ 2 ≤ m + 1 := by
      rw [Ne, List.map_eq_nil_iff, List.range_eq_nil]
      exact (Nat.succ_le_succ_iff.trans Nat.one_le_iff_ne_zero).symm
    simp only [hsome]

/-- A series stays within `maxPoints` up to a twentieth of an interval past
that many. -/
theorem pointCount_le_iff {interval duration : Duration} (hi : 0 < interval) :
    pointCount interval duration ≤ maxPoints ↔ 20 * duration < 12001 * interval := by
  rcases Nat.eq_zero_or_pos duration with hzero | hd
  · have hnone : (0 + interval - 1) / interval = 0 := by
      rw [Nat.zero_add]
      exact Nat.div_eq_of_lt (Nat.sub_lt hi Nat.one_pos)
    unfold pointCount
    simp only [hzero, hnone]
    refine ⟨fun _ => Nat.mul_pos (by decide) hi, fun _ => ?_⟩
    rw [if_neg fun h => absurd h.1 (by decide)]
    exact Nat.zero_le _
  · obtain ⟨m, hm, hlast, hend⟩ := exists_last_boundary hi hd
    unfold pointCount maxPoints
    simp only [hm, Nat.add_sub_cancel]
    rcases Nat.lt_trichotomy m 600 with hfew | rfl | hmany
    · have hmul : (m + 1) * interval ≤ 600 * interval := Nat.mul_le_mul_right _ hfew
      refine ⟨fun _ => ?_, fun _ => ?_⟩
      · show 20 * duration < 12001 * interval
        have h20 : 20 * duration ≤ 20 * (600 * interval) := Nat.mul_le_mul_left _ (hend.trans hmul)
        rw [← Nat.mul_assoc] at h20
        exact h20.trans_lt (Nat.mul_lt_mul_of_pos_right (by decide) hi)
      · split <;> omega
    · -- one interval too many, unless it is a sliver
      have hexcess : 20 * (duration - 600 * interval) < interval
          ↔ 20 * duration < 12001 * interval := by
        clear hm
        unfold Duration at *
        omega
      rw [← hexcess]
      split
      · rename_i hfold
        exact ⟨fun _ => hfold.2, fun _ => le_rfl⟩
      · rename_i hkept
        exact ⟨fun h => absurd h (by decide), fun h => absurd ⟨by decide, h⟩ hkept⟩
    · have hmul : 601 * interval ≤ m * interval := Nat.mul_le_mul_right _ hmany
      have hlong : 12001 * interval ≤ 20 * duration := by
        unfold Duration at *
        omega
      refine ⟨fun h => ?_, fun h => absurd h (not_lt.mpr hlong)⟩
      split at h <;> omega

/-! ## The interval that is chosen

An exact condition on the duration, in terms of what is left of it after whole
multiples of `maxPoints` seconds. -/

/-- The runs the interval length is right for. `whole` is how many times
`maxPoints` seconds fit into the run, and `excess` what is left: an excess of
less than a second is not counted when the length is chosen, so it has to be
folded; a longer one adds a second to the length, so it must not be. -/
def FitsSeries (duration : Duration) : Prop :=
  let whole := Duration.ofSecs (duration / Duration.ofSecs maxPoints)
  let excess := duration % Duration.ofSecs maxPoints
  if excess < Duration.ofSecs 1 then
    whole = 0 ∨ 20 * excess < whole ∧ whole ≤ Duration.ofSecs 12001 + 20 * excess
  else whole ≤ 20 * excess

/-- **When a series stays within `maxPoints`** at the smallest number of
seconds that lets it: exactly for the runs of `FitsSeries`. -/
theorem series_within_maxPoints_iff (duration : Duration) :
    (pointCount (intervalFor duration) duration ≤ maxPoints
      ∧ ∀ secs, 1 ≤ secs → pointCount (Duration.ofSecs secs) duration ≤ maxPoints →
        intervalFor duration ≤ Duration.ofSecs secs)
    ↔ FitsSeries duration := by
  have hpoints : ∀ secs, 1 ≤ secs → (pointCount (Duration.ofSecs secs) duration ≤ maxPoints
      ↔ 20 * duration < 12001 * Duration.ofSecs secs) := by
    intro secs hsecs
    exact pointCount_le_iff (Nat.mul_pos hsecs (by decide))
  obtain ⟨secs, hsecs, hpos⟩ : ∃ secs : ℕ, secs = max ((duration / 1000000000 + 599) / 600) 1
      ∧ 1 ≤ secs := ⟨_, rfl, le_max_right _ _⟩
  have hinterval : intervalFor duration = Duration.ofSecs secs := by
    rw [hsecs]
    rfl
  -- a length is right when it is long enough and one second less is not
  have hleast : (pointCount (intervalFor duration) duration ≤ maxPoints
      ∧ ∀ secs, 1 ≤ secs → pointCount (Duration.ofSecs secs) duration ≤ maxPoints →
        intervalFor duration ≤ Duration.ofSecs secs)
      ↔ 20 * duration < 12001 * Duration.ofSecs secs
        ∧ (secs = 1 ∨ 12001 * Duration.ofSecs (secs - 1) ≤ 20 * duration) := by
    rw [hinterval, hpoints secs hpos]
    refine and_congr_right fun _ => ⟨fun h => ?_, fun h shorter hone hfits => ?_⟩
    · by_contra hnot
      rw [not_or, not_le] at hnot
      have hle := h (secs - 1) (by omega) ((hpoints _ (by omega)).mpr hnot.2)
      have hsecs' : secs ≤ secs - 1 := Nat.le_of_mul_le_mul_right hle (by decide)
      omega
    · rw [hpoints shorter hone] at hfits
      unfold Duration.ofSecs at *
      unfold Duration at *
      omega
  rw [hleast]
  unfold FitsSeries Duration.ofSecs maxPoints
  dsimp only
  clear hleast hinterval hpoints
  unfold Duration at *
  split <;> omega

/-- A run of 600.5 seconds: its 601 intervals of a second are 601 points, the
last one half a second long. -/
theorem half_second_exceeds :
    ¬ (pointCount (intervalFor 600500000000) 600500000000 ≤ maxPoints
      ∧ ∀ secs, 1 ≤ secs → pointCount (Duration.ofSecs secs) 600500000000 ≤ maxPoints →
        intervalFor 600500000000 ≤ Duration.ofSecs secs) := by
  rintro ⟨hpoints, -⟩
  exact absurd hpoints (by decide)

end TimeSeries

end WsBlast
