import WsBlast.Builder

/-!
# The targets of a staged run

A stage moves the number of open connections along a straight line from the
target of the stage before it, or from zero, to its own. `Stage.line` is that
line over the rationals; the target of a moment is the line rounded to the
nearest connection (`Stage.interpolate_eq_round`), so it never leaves the
targets the line is between, moves in its direction and stays within half a
connection of it.

Which stage a moment falls in is found by adding durations up
(`Stage.targetFrom_append`). A boundary belongs to the stage after it, and
what is subtracted from the elapsed time is the start of a stage that has
begun (`Stage.targetAtChecked_eq`).

The line is computed in floating point in the source and rounded; here it is
computed over the rationals and rounded the same way, half away from zero.
Whether the two agree at an exact half is not part of the statements.
-/

namespace WsBlast

namespace Stage

/-! ## Along one stage

How far a stage has come is a number between 0 and 1, and everything here is
monotone in it. -/

/-- The exact number of connections at a moment of a stage that starts at
`start` from `previous` connections. -/
def line (previous : ℕ) (start : Duration) (stage : Stage) (elapsed : Duration) : ℚ :=
  previous + ((stage.target : ℚ) - previous)
    * (Duration.asSecs (elapsed - start) / Duration.asSecs stage.duration)

variable {previous : ℕ} {start elapsed later : Duration} {stage : Stage}

/-- How far a stage has come. -/
theorem progress_mem (hend : elapsed ≤ start + stage.duration) :
    0 ≤ Duration.asSecs (elapsed - start) / Duration.asSecs stage.duration
    ∧ Duration.asSecs (elapsed - start) / Duration.asSecs stage.duration ≤ 1 := by
  rw [Duration.asSecs_div_asSecs]
  refine ⟨by positivity, div_le_one_of_le₀ ?_ (by positivity)⟩
  exact_mod_cast Nat.sub_le_iff_le_add'.mpr hend

theorem progress_mono (hle : elapsed ≤ later) :
    Duration.asSecs (elapsed - start) / Duration.asSecs stage.duration
      ≤ Duration.asSecs (later - start) / Duration.asSecs stage.duration := by
  rw [Duration.asSecs_div_asSecs, Duration.asSecs_div_asSecs]
  have hsub : ((elapsed - start : ℕ) : ℚ) ≤ (later - start : ℕ) := by
    exact_mod_cast Nat.sub_le_sub_right hle start
  gcongr

/-- The line of a stage stays between the targets it joins. -/
theorem line_mem (hend : elapsed ≤ start + stage.duration) :
    ((min previous stage.target : ℕ) : ℚ) ≤ line previous start stage elapsed
    ∧ line previous start stage elapsed ≤ (max previous stage.target : ℕ) := by
  obtain ⟨hzero, hone⟩ := progress_mem hend
  unfold line
  push_cast
  rcases le_total (previous : ℚ) stage.target with hrises | hfalls
  · rw [min_eq_left hrises, max_eq_right hrises]
    constructor <;> nlinarith
  · rw [min_eq_right hfalls, max_eq_left hfalls]
    constructor <;> nlinarith

/-- The target of a moment is the line of its stage, rounded. -/
theorem interpolate_eq_round (hend : elapsed ≤ start + stage.duration) :
    (interpolate previous start stage elapsed : ℤ) = round (line previous start stage elapsed) := by
  refine Int.toNat_of_nonneg ?_
  have hline : 0 ≤ line previous start stage elapsed := (Nat.cast_nonneg _).trans (line_mem hend).1
  rw [round_eq]
  exact Int.floor_nonneg.mpr (add_nonneg hline (by norm_num))

/-- Rounding keeps an order of the lines. -/
theorem interpolate_le {q : ℕ} {origin at' : Duration} {next : Stage}
    (hend : elapsed ≤ start + stage.duration) (hend' : at' ≤ origin + next.duration)
    (hle : line previous start stage elapsed ≤ line q origin next at') :
    interpolate previous start stage elapsed ≤ interpolate q origin next at' := by
  have hround : round (line previous start stage elapsed) ≤ round (line q origin next at') := by
    rw [round_eq, round_eq]
    exact Int.floor_le_floor (by linarith)
  rw [← interpolate_eq_round hend, ← interpolate_eq_round hend'] at hround
  exact_mod_cast hround

/-- **A target stays between the targets its stage joins.** -/
theorem interpolate_mem (hend : elapsed ≤ start + stage.duration) :
    min previous stage.target ≤ interpolate previous start stage elapsed
    ∧ interpolate previous start stage elapsed ≤ max previous stage.target := by
  obtain ⟨hlow, hhigh⟩ := @line_mem previous start elapsed stage hend
  have hround := @interpolate_eq_round previous start elapsed stage hend
  constructor
  · have hmono : ((min previous stage.target : ℕ) : ℤ)
        ≤ round (line previous start stage elapsed) := by
      rw [round_eq, Int.le_floor]
      push_cast at hlow ⊢
      linarith
    rw [← hround] at hmono
    exact_mod_cast hmono
  · have hmono : round (line previous start stage elapsed)
        ≤ ((max previous stage.target : ℕ) : ℤ) := by
      rw [round_eq, ← Int.lt_add_one_iff, Int.floor_lt]
      push_cast at hhigh ⊢
      linarith
    rw [← hround] at hmono
    exact_mod_cast hmono

/-- A target is within half a connection of the line. -/
theorem abs_interpolate_sub_line_le (hend : elapsed ≤ start + stage.duration) :
    |(interpolate previous start stage elapsed : ℚ) - line previous start stage elapsed|
      ≤ 1 / 2 := by
  have hround : ((interpolate previous start stage elapsed : ℤ) : ℚ)
      = round (line previous start stage elapsed) := by
    rw [interpolate_eq_round hend]
  rw [Int.cast_natCast] at hround
  rw [hround, abs_sub_comm]
  exact abs_sub_round _

/-- A rising stage opens connections all along, a falling one closes them. -/
theorem line_mono (hle : elapsed ≤ later) :
    (previous ≤ stage.target → line previous start stage elapsed ≤ line previous start stage later)
    ∧ (stage.target ≤ previous →
      line previous start stage later ≤ line previous start stage elapsed) := by
  have hprogress := @progress_mono start elapsed later stage hle
  unfold line
  refine ⟨fun hrises => ?_, fun hfalls => ?_⟩
  · have hslope : (previous : ℚ) ≤ stage.target := by exact_mod_cast hrises
    have hmul := mul_le_mul_of_nonneg_left hprogress (sub_nonneg.mpr hslope)
    linarith
  · have hslope : (stage.target : ℚ) ≤ previous := by exact_mod_cast hfalls
    have hmul := mul_le_mul_of_nonpos_left hprogress (sub_nonpos.mpr hslope)
    linarith

/-- A stage starts where the one before it ended. -/
theorem interpolate_start : interpolate previous start stage start = previous := by
  unfold interpolate
  rw [Nat.sub_self, Duration.asSecs_div_asSecs]
  simp

/-! ## Over the stages

The stages that are over contribute their durations and the last of their
targets. -/

/-- The target some stages end with, from `previous` connections. -/
def lastTarget (previous : ℕ) (stages : List Stage) : ℕ :=
  (stages.getLast?.map target).getD previous

@[simp] theorem total_cons (stage : Stage) (rest : List Stage) :
    total (stage :: rest) = stage.duration + total rest := List.sum_cons

theorem lastTarget_cons (previous : ℕ) (stage : Stage) (rest : List Stage) :
    lastTarget previous (stage :: rest) = lastTarget stage.target rest := by
  unfold lastTarget
  cases rest with
  | nil => rfl
  | cons next rest =>
    rw [List.getLast?_cons_cons]
    rw [List.getLast?_cons]
    rfl

/-- **The stages that are over** leave their last target and their time. -/
theorem targetFrom_append (previous : ℕ) (start : Duration) {elapsed : Duration}
    {before : List Stage} (hover : start + total before ≤ elapsed) (rest : List Stage) :
    targetFrom previous start elapsed (before ++ rest)
      = targetFrom (lastTarget previous before) (start + total before) elapsed rest := by
  induction before generalizing previous start with
  | nil => rfl
  | cons stage before ih =>
    rw [total_cons, ← Nat.add_assoc] at hover ⊢
    have hpast : ¬ elapsed < start + stage.duration :=
      not_lt.mpr ((Nat.le_add_right _ _).trans hover)
    rw [lastTarget_cons, ← ih stage.target (start + stage.duration) hover, List.cons_append]
    exact if_neg hpast

variable {stages before after : List Stage}

/-- The stage in progress decides. -/
theorem targetAt_eq_interpolate (hstages : stages = before ++ stage :: after)
    (hstart : total before ≤ elapsed) (hend : elapsed < total before + stage.duration) :
    targetAt stages elapsed
      = interpolate (lastTarget 0 before) (total before) stage elapsed := by
  have hover : 0 + total before ≤ elapsed := (Nat.zero_add _).symm ▸ hstart
  unfold targetAt
  rw [hstages, targetFrom_append 0 0 hover, Nat.zero_add]
  exact if_pos hend

/-- Once all stages are over, their last target stays. -/
theorem targetAt_eq_lastTarget (hover : total stages ≤ elapsed) :
    targetAt stages elapsed = lastTarget 0 stages := by
  have hover' : 0 + total stages ≤ elapsed := (Nat.zero_add _).symm ▸ hover
  have happend := targetFrom_append 0 0 hover' []
  rwa [List.append_nil] at happend

/-- Before the end of the run some stage is in progress. -/
theorem exists_stage (hbefore : elapsed < total stages) :
    ∃ before stage after, stages = before ++ stage :: after
      ∧ total before ≤ elapsed ∧ elapsed < total before + stage.duration := by
  induction stages generalizing elapsed with
  | nil => exact absurd hbefore (Nat.not_lt_zero _)
  | cons first rest ih =>
    rcases lt_or_ge elapsed first.duration with hfirst | hpast
    · exact ⟨[], first, rest, rfl, Nat.zero_le _, (Nat.zero_add _).symm ▸ hfirst⟩
    · have hrest : elapsed - first.duration < total rest := by
        rw [total_cons] at hbefore
        exact Nat.sub_lt_left_of_lt_add hpast hbefore
      obtain ⟨before, stage, after, rfl, hstart, hend⟩ := ih hrest
      refine ⟨first :: before, stage, after, rfl, ?_, ?_⟩
      · rw [total_cons]
        exact Nat.add_le_of_le_sub' hpast hstart
      · rw [total_cons, Nat.add_assoc]
        exact (Nat.sub_lt_iff_lt_add' hpast).mp hend

theorem foldl_max_le (stages : List Stage) (least : ℕ) :
    least ≤ (stages.map target).foldl max least
    ∧ ∀ stage ∈ stages, stage.target ≤ (stages.map target).foldl max least := by
  induction stages generalizing least with
  | nil => exact ⟨le_rfl, fun _ h => absurd h List.not_mem_nil⟩
  | cons first rest ih =>
    obtain ⟨hleast, hrest⟩ := ih (max least first.target)
    refine ⟨(le_max_left _ _).trans hleast, fun stage hmem => ?_⟩
    rcases List.mem_cons.mp hmem with rfl | hin
    · exact (le_max_right _ _).trans hleast
    · exact hrest stage hin

theorem target_le_highest (hmem : stage ∈ stages) : stage.target ≤ highest stages :=
  (foldl_max_le stages 0).2 stage hmem

theorem lastTarget_le_highest (hsub : before ⊆ stages) : lastTarget 0 before ≤ highest stages := by
  unfold lastTarget
  cases hlast : before.getLast? with
  | none => exact Nat.zero_le _
  | some stage => exact target_le_highest (hsub (List.mem_of_getLast? hlast))

/-- **No moment asks for more connections than the highest target.** -/
theorem targetAt_le_highest (stages : List Stage) (elapsed : Duration) :
    targetAt stages elapsed ≤ highest stages := by
  rcases lt_or_ge elapsed (total stages) with hruns | hover
  · obtain ⟨before, stage, after, hstages, hstart, hend⟩ := exists_stage hruns
    have hsub : before ⊆ stages := hstages ▸ List.subset_append_left _ _
    have hmem : stage ∈ stages := hstages ▸ List.mem_append_right _ List.mem_cons_self
    rw [targetAt_eq_interpolate hstages hstart hend]
    exact (interpolate_mem hend.le).2.trans
      (max_le (lastTarget_le_highest hsub) (target_le_highest hmem))
  · rw [targetAt_eq_lastTarget hover]
    exact lastTarget_le_highest (List.Subset.refl _)

theorem total_append (before after : List Stage) :
    total (before ++ after) = total before + total after := by
  unfold total
  rw [List.map_append, List.sum_append]

/-- A stage ends with its target. -/
theorem targetAt_end (hpos : ∀ s ∈ stages, 0 < s.duration)
    (hstages : stages = before ++ stage :: after) :
    targetAt stages (total before + stage.duration) = stage.target := by
  have hsplit : stages = (before ++ [stage]) ++ after := by
    rw [hstages, List.append_assoc]
    rfl
  have htotal : total (before ++ [stage]) = total before + stage.duration := total_append _ _
  have hlast : lastTarget 0 (before ++ [stage]) = stage.target := by
    unfold lastTarget
    rw [List.getLast?_concat]
    rfl
  cases after with
  | nil =>
    rw [List.append_nil] at hsplit
    rw [hsplit, ← htotal, targetAt_eq_lastTarget le_rfl, hlast]
  | cons next after =>
    have hnext : 0 < next.duration := hpos next (by rw [hsplit]; simp)
    rw [← htotal, targetAt_eq_interpolate hsplit le_rfl (Nat.lt_add_of_pos_right hnext),
      interpolate_start, hlast]

/-! ## The subtraction of the source

The start of the stage in progress is subtracted from the time that has passed.
-/

/-- `targetFrom` where the start of a stage is subtracted from the elapsed
time as the source does it: `none` where the result would be negative. -/
def targetFromChecked (previous : ℕ) (start elapsed : Duration) : List Stage → Option ℕ
  | [] => some previous
  | stage :: rest =>
    if elapsed < start + stage.duration then
      if start ≤ elapsed then some (interpolate previous start stage elapsed) else none
    else targetFromChecked stage.target (start + stage.duration) elapsed rest

/-- The target of a moment, with that subtraction. -/
def targetAtChecked (stages : List Stage) (elapsed : Duration) : Option ℕ :=
  targetFromChecked 0 0 elapsed stages

theorem targetFromChecked_eq (previous : ℕ) {start elapsed : Duration} (hstart : start ≤ elapsed)
    (stages : List Stage) :
    targetFromChecked previous start elapsed stages
      = some (targetFrom previous start elapsed stages) := by
  induction stages generalizing previous start with
  | nil => rfl
  | cons stage rest ih =>
    unfold targetFromChecked targetFrom
    rcases lt_or_ge elapsed (start + stage.duration) with hin | hpast
    · rw [if_pos hin, if_pos hstart, if_pos hin]
    · rw [if_neg (not_lt.mpr hpast), if_neg (not_lt.mpr hpast)]
      exact ih stage.target hpast

/-- **What is subtracted has passed.** -/
theorem targetAtChecked_eq (stages : List Stage) (elapsed : Duration) :
    targetAtChecked stages elapsed = some (targetAt stages elapsed) :=
  targetFromChecked_eq 0 (Nat.zero_le _) stages

/-- A built configuration of a staged run is sized for its highest target. -/
theorem highest_eq_connections {builder : LoadTestConfigBuilder} {host : Host} {timeSeed : UInt64}
    {config : LoadTestConfig} (hbuild : builder.build host timeSeed = .ok config)
    (hne : builder.stages ≠ []) : config.connections = highest builder.stages := by
  obtain ⟨parts, chaos, -, -, rfl⟩ := LoadTestConfigBuilder.build_eq_ok_iff.mp hbuild
  exact if_neg hne

/-- **The targets of a staged run.** -/
theorem targetAt_within_bounds (stages : List Stage) (hne : stages ≠ [])
    (hpos : ∀ stage ∈ stages, 0 < stage.duration) :
    (∀ elapsed, elapsed < total stages → ∃ before stage after, stages = before ++ stage :: after
      ∧ total before ≤ elapsed ∧ elapsed < total before + stage.duration)
    ∧ (∀ before stage after, stages = before ++ stage :: after →
      let previous := lastTarget 0 before
      let start := total before
      (∀ elapsed, start ≤ elapsed → elapsed < start + stage.duration →
        min previous stage.target ≤ targetAt stages elapsed
        ∧ targetAt stages elapsed ≤ max previous stage.target
        ∧ |(targetAt stages elapsed : ℚ) - line previous start stage elapsed| ≤ 1 / 2)
      ∧ (∀ elapsed later, start ≤ elapsed → elapsed ≤ later → later < start + stage.duration →
        (previous ≤ stage.target → targetAt stages elapsed ≤ targetAt stages later
          ∧ targetAt stages later ≤ stage.target)
        ∧ (stage.target ≤ previous → targetAt stages later ≤ targetAt stages elapsed
          ∧ stage.target ≤ targetAt stages later))
      ∧ targetAt stages (start + stage.duration) = stage.target)
    ∧ (∀ elapsed, total stages ≤ elapsed →
      targetAt stages elapsed = (stages.getLast hne).target)
    ∧ (∀ elapsed, targetAt stages elapsed ≤ highest stages)
    ∧ (∀ (builder : LoadTestConfigBuilder) host timeSeed config, builder.stages = stages →
      builder.build host timeSeed = .ok config → config.connections = highest stages)
    ∧ ∀ elapsed, targetAtChecked stages elapsed = some (targetAt stages elapsed) := by
  refine ⟨fun elapsed hruns => exists_stage hruns, fun before stage after hstages => ?_, ?_,
    targetAt_le_highest stages, ?_, targetAtChecked_eq stages⟩
  · refine ⟨fun elapsed hstart hend => ?_, fun elapsed later hstart hle hend => ?_,
      targetAt_end hpos hstages⟩
    · -- within a stage: between the targets it joins, next to the line
      rw [targetAt_eq_interpolate hstages hstart hend]
      obtain ⟨hlow, hhigh⟩ := interpolate_mem hend.le
      exact ⟨hlow, hhigh, abs_interpolate_sub_line_le hend.le⟩
    · -- rounding keeps the order of the line
      have hend' := hle.trans_lt hend
      obtain ⟨hup, hdown⟩ := @line_mono (lastTarget 0 before) (total before) _ _ stage hle
      rw [targetAt_eq_interpolate hstages hstart hend',
        targetAt_eq_interpolate hstages (hstart.trans hle) hend]
      obtain ⟨hlow, hhigh⟩ := @interpolate_mem (lastTarget 0 before) _ _ _ hend.le
      refine ⟨fun hrises => ⟨interpolate_le hend'.le hend.le (hup hrises), ?_⟩,
        fun hfalls => ⟨interpolate_le hend.le hend'.le (hdown hfalls), ?_⟩⟩
      · rwa [max_eq_right hrises] at hhigh
      · rwa [min_eq_right hfalls] at hlow
  · intro elapsed hover
    rw [targetAt_eq_lastTarget hover]
    unfold lastTarget
    rw [List.getLast?_eq_getLast_of_ne_nil hne]
    rfl
  · rintro builder host timeSeed config rfl hbuild
    exact highest_eq_connections hbuild hne

/-- A profile that rises, holds and falls again. -/
theorem targetAt_within_bounds_ramp :
    let stages : List Stage := [⟨Duration.ofSecs 30, 100⟩, ⟨Duration.ofSecs 60, 100⟩,
      ⟨Duration.ofSecs 30, 1⟩]
    ∀ elapsed, targetAt stages elapsed ≤ highest stages :=
  (targetAt_within_bounds [⟨Duration.ofSecs 30, 100⟩, ⟨Duration.ofSecs 60, 100⟩,
    ⟨Duration.ofSecs 30, 1⟩] (by decide) (by decide)).2.2.2.1

end Stage

end WsBlast
