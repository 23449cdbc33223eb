import WsBlast.ScenarioFile
import WsBlast.StageTargets

/-!
# Where the clock's arithmetic overflows

A `Duration` has 64 bits of seconds, and an instant or a wall-clock time as
many as the platform gives it. The standard library panics where a sum does
not fit, and no check of the configuration bounds the sums: every stage of a
profile may last as long as a duration can, and the lifetime of a token is
only bounded from below.

The functions below are those of the model with the additions as the
standard library does them. Each panics exactly when a sum of its inputs is
too large (`checkedTotal_eq`, `targetAtAdded_fine_iff`, `buildOrPanic_fine_iff`,
`compileSizeOrPanic_fine_iff`, `delayAfterSigning_fine_iff`).

Each of the three panics is reachable from the command line with flags that
pass every check: stages whose durations add up to more than a `Duration` can
hold, and a lifetime of a token that ends beyond what the clock can represent.
A panic there ends the program with a message about arithmetic instead of one
about the flag.
-/

namespace WsBlast

/-! ## Sums that may not fit

The two kinds of addition that the program makes. -/

/-- The panics of the standard library's time arithmetic. -/
inductive TimePanic where
  /-- overflow in iter::sum over durations -/
  | sumOverflow
  /-- overflow when adding durations -/
  | durationOverflow
  /-- cannot convert float seconds to Duration: value is either too big or NaN -/
  | floatOverflow
  /-- overflow when adding duration to instant -/
  | instantOverflow
  deriving DecidableEq, Repr

/-- A computation that panics or gives a value. -/
abbrev MayPanic (R : Type) : Type := Except TimePanic R

/-- A computation gives a value. -/
def MayPanic.Fine {R : Type} (x : MayPanic R) : Prop := ∃ r, x = .ok r

/-- The length of time, in nanoseconds, that is too long for a `Duration`. -/
def Duration.limit : ℕ := 2 ^ 64 * 1000000000

/-- Adds two durations, with the panic of the addition. -/
def Duration.checkedAdd (panic : TimePanic) (a b : Duration) : MayPanic Duration :=
  if a + b < Duration.limit then .ok (a + b) else .error panic

/-- What the clocks of a platform can represent. -/
structure ClockLimits where
  /-- The last instant of the monotonic clock. -/
  instant : Instant
  /-- The last whole second of the wall clock, counted from 1970. -/
  unixSecs : ℕ
  instant_lt : instant < Duration.limit
  unixSecs_lt : unixSecs < 2 ^ 64 - 1

theorem lastUnixInstant_lt : 2 ^ 63 * 1000000000 - 1 < Duration.limit := by decide

theorem lastUnixSecond_lt : 2 ^ 63 - 1 < 2 ^ 64 - 1 := by decide

/-- The clocks of a platform that counts seconds in 64 bits with a sign. -/
def ClockLimits.unix : ClockLimits where
  instant := 2 ^ 63 * 1000000000 - 1
  unixSecs := 2 ^ 63 - 1
  instant_lt := lastUnixInstant_lt
  unixSecs_lt := lastUnixSecond_lt

/-- Adds a duration to an instant. -/
def ClockLimits.checkedAdd (limits : ClockLimits) (at' : Instant) (duration : Duration) :
    MayPanic Instant :=
  if at' + duration ≤ limits.instant then .ok (at' + duration) else .error .instantOverflow

/-! ## The stages of a profile

The durations are added up to find the end of the run, and again at every tick
to find the stage in progress. -/

namespace Stage

/-- How long a profile lasts, summed as the standard library does. -/
def checkedTotal (stages : List Stage) : MayPanic Duration :=
  (stages.map Stage.duration).foldlM (Duration.checkedAdd .sumOverflow) 0

/-- `targetFrom` with the ends of the stages added up as the standard library
does. -/
def targetFromAdded (previous : ℕ) (start elapsed : Duration) : List Stage → MayPanic ℕ
  | [] => .ok previous
  | stage :: rest => do
    let stageEnd ← Duration.checkedAdd .durationOverflow start stage.duration
    if elapsed < stageEnd then .ok (interpolate previous start stage elapsed)
    else targetFromAdded stage.target stageEnd elapsed rest

/-- The target of a moment, with these sums. -/
def targetAtAdded (stages : List Stage) (elapsed : Duration) : MayPanic ℕ :=
  targetFromAdded 0 0 elapsed stages

theorem checkedSum_eq {durations : List Duration} {start : Duration}
    (hstart : start < Duration.limit) :
    durations.foldlM (Duration.checkedAdd .sumOverflow) start
      = if start + durations.sum < Duration.limit then .ok (start + durations.sum)
        else .error .sumOverflow := by
  induction durations generalizing start with
  | nil =>
    rw [List.sum_nil, add_zero, if_pos hstart]
    rfl
  | cons duration rest ih =>
    rw [List.foldlM_cons, List.sum_cons, ← add_assoc]
    unfold Duration.checkedAdd
    by_cases hfits : start + duration < Duration.limit
    · rw [if_pos hfits]
      exact ih hfits
    · have htotal : ¬start + duration + rest.sum < Duration.limit := fun h =>
        hfits (lt_of_le_of_lt (Nat.le_add_right _ _) h)
      rw [if_neg hfits, if_neg htotal]
      rfl

/-- **The sum of a profile** overflows exactly when it is too long for a
duration. -/
theorem checkedTotal_eq (stages : List Stage) :
    checkedTotal stages
      = if total stages < Duration.limit then .ok (total stages) else .error .sumOverflow := by
  have hzero : (0 : Duration) < Duration.limit := by decide
  unfold checkedTotal
  rw [checkedSum_eq hzero, zero_add]
  rfl

/-- A profile that is not too long has its targets. -/
theorem targetFromAdded_eq (previous : ℕ) {start : Duration} (elapsed : Duration)
    {stages : List Stage} (h : start + total stages < Duration.limit) :
    targetFromAdded previous start elapsed stages
      = .ok (targetFrom previous start elapsed stages) := by
  induction stages generalizing previous start with
  | nil => rfl
  | cons stage rest ih =>
    rw [total_cons, ← add_assoc] at h
    have hfits : start + stage.duration < Duration.limit :=
      lt_of_le_of_lt (Nat.le_add_right _ _) h
    unfold targetFromAdded targetFrom Duration.checkedAdd
    rw [if_pos hfits, Checked.ok_bind]
    by_cases hin : elapsed < start + stage.duration
    · rw [if_pos hin, if_pos hin]
    · rw [if_neg hin, if_neg hin]
      exact ih stage.target h

/-- One that is too long has a moment at which its target is not found. -/
theorem exists_targetFromAdded_error (previous : ℕ) {start : Duration} {stages : List Stage}
    (hstart : start < Duration.limit) (h : Duration.limit ≤ start + total stages) :
    ∃ elapsed < Duration.limit, start ≤ elapsed
      ∧ targetFromAdded previous start elapsed stages = .error .durationOverflow := by
  induction stages generalizing previous start with
  | nil =>
    rw [total, List.map_nil, List.sum_nil, add_zero] at h
    exact absurd hstart (not_lt.mpr h)
  | cons stage rest ih =>
    rw [total_cons, ← add_assoc] at h
    by_cases hfits : start + stage.duration < Duration.limit
    · obtain ⟨elapsed, hlimit, hpast, herror⟩ := ih stage.target hfits h
      refine ⟨elapsed, hlimit, (Nat.le_add_right _ _).trans hpast, ?_⟩
      unfold targetFromAdded Duration.checkedAdd
      rw [if_pos hfits, Checked.ok_bind, if_neg (not_lt.mpr hpast)]
      exact herror
    · -- the end of this stage is already too late
      refine ⟨start, hstart, le_refl _, ?_⟩
      unfold targetFromAdded Duration.checkedAdd
      rw [if_neg hfits]
      rfl

/-- **The targets of a profile** are found at every moment exactly when it is
not too long. -/
theorem targetAtAdded_fine_iff {stages : List Stage} :
    (∀ elapsed < Duration.limit, (targetAtAdded stages elapsed).Fine)
      ↔ total stages < Duration.limit := by
  constructor
  · intro h
    by_contra hlong
    obtain ⟨elapsed, hlimit, -, herror⟩ := exists_targetFromAdded_error 0
      (show (0 : Duration) < Duration.limit by decide)
      (show Duration.limit ≤ 0 + total stages from (not_lt.mp hlong).trans_eq (zero_add _).symm)
    obtain ⟨target, htarget⟩ := h elapsed hlimit
    exact nomatch herror.symm.trans htarget
  · intro h elapsed _
    exact ⟨_, targetFromAdded_eq 0 elapsed (by rwa [zero_add])⟩

end Stage

/-! ## Sizing a run and a phase

The builder of a run and the compiler of a phase sum the stages of a profile,
each after some checks. -/

namespace LoadTestConfigBuilder

variable (builder : LoadTestConfigBuilder) (host : Host) (timeSeed : UInt64)

/-- How long the run lasts, once the target and the load profile are
checked. -/
def sizeDuration : Except ConfigError (MayPanic Duration) := do
  let _ ← parseTargetUrl host builder.target
  builder.validateProfile
  return if builder.stages = [] then .ok builder.duration else Stage.checkedTotal builder.stages

/-- A build, with the panic of the sum of its stages. -/
def buildOrPanic : MayPanic (Except ConfigError LoadTestConfig) :=
  match builder.sizeDuration host with
  | .ok (.error panic) => .error panic
  | _ => .ok (builder.build host timeSeed)

/-- The checks before the stages are summed refuse the builder. -/
def RejectedFirst : Prop :=
  (∀ url, parseTargetUrl host builder.target ≠ .ok url) ∨ builder.validateProfile ≠ .ok ()

variable {builder host timeSeed}

theorem sizeDuration_eq_ok {duration : MayPanic Duration} :
    builder.sizeDuration host = .ok duration ↔ ¬builder.RejectedFirst host
      ∧ duration = if builder.stages = [] then .ok builder.duration
        else Stage.checkedTotal builder.stages := by
  unfold sizeDuration RejectedFirst
  simp only [Checked.bind_eq_ok, Checked.pure_eq_ok, not_or, not_forall, not_not]
  constructor
  · rintro ⟨url, hurl, u, hprofile, rfl⟩
    exact ⟨⟨⟨url, hurl⟩, hprofile⟩, rfl⟩
  · rintro ⟨⟨⟨url, hurl⟩, hprofile⟩, rfl⟩
    exact ⟨url, hurl, (), hprofile, rfl⟩

/-- **A build** panics exactly when it gets to sum a profile that is too
long. -/
theorem buildOrPanic_fine_iff :
    (builder.buildOrPanic host timeSeed).Fine
      ↔ builder.RejectedFirst host ∨ Stage.total builder.stages < Duration.limit := by
  unfold buildOrPanic
  constructor
  · intro h
    by_contra hbad
    obtain ⟨hchecked, hlong⟩ := not_or.mp hbad
    -- without stages there would be nothing to sum
    have hne : builder.stages ≠ [] := by
      intro hnil
      rw [hnil] at hlong
      exact hlong (show (0 : Duration) < Duration.limit by decide)
    have hsize : builder.sizeDuration host = .ok (.error .sumOverflow) := by
      rw [sizeDuration_eq_ok, if_neg hne, Stage.checkedTotal_eq, if_neg hlong]
      exact ⟨hchecked, rfl⟩
    rw [hsize] at h
    obtain ⟨result, hresult⟩ := h
    cases hresult
  · intro h
    split
    · rename_i panic hsize
      obtain ⟨hchecked, heq⟩ := sizeDuration_eq_ok.mp hsize
      have hfits := h.resolve_left hchecked
      rw [Stage.checkedTotal_eq, if_pos hfits] at heq
      split at heq
      · cases heq
      · cases heq
    · exact ⟨_, rfl⟩

end LoadTestConfigBuilder

/-- The sizing of a phase, with the panic of the sum of its stages; only a
phase with stages has any to sum. -/
def compileSizeOrPanic (phase : PhaseConfig) (arrivals : Option Arrivals) :
    MayPanic (Except ConfigError PhaseSize) :=
  match compileSize phase arrivals with
  | .error err => .ok (.error err)
  | .ok size => do
    let _ ← Stage.checkedTotal size.stages
    return .ok size

/-- The phase is sized by these stages: it has no arrivals and no other size,
and they are well formed. -/
structure PhaseConfig.SizedBy (phase : PhaseConfig) (arrivals : Option Arrivals)
    (stages : List Stage) : Prop where
  noArrivals : arrivals = none
  noConnections : phase.connections = none
  noDuration : phase.duration = none
  noRamp : phase.rampRate = none
  compiled : ∃ config, phase.stages = some config ∧ config.compile phase.name = .ok stages

/-- The stages of a phase that is sized by stages. -/
theorem compileSize_of_sizedBy {phase : PhaseConfig} {arrivals : Option Arrivals}
    {stages : List Stage} (h : phase.SizedBy arrivals stages) :
    compileSize phase arrivals = .ok ⟨Stage.highest stages, Stage.total stages, 0, stages⟩ := by
  obtain ⟨config, hconfig, hcompiled⟩ := h.compiled
  unfold compileSize
  rw [h.noArrivals, hconfig, h.noConnections, h.noDuration, h.noRamp]
  dsimp only
  rw [hcompiled]
  rfl

/-- A phase that is not sized by stages has none to sum. -/
theorem sizedBy_of_compileSize {phase : PhaseConfig} {arrivals : Option Arrivals}
    {size : PhaseSize} (h : compileSize phase arrivals = .ok size) :
    size.stages = [] ∨ phase.SizedBy arrivals size.stages := by
  unfold compileSize at h
  split at h
  · split at h
    · cases h
    · simp only [Checked.bind_eq_ok, Checked.pure_eq_ok] at h
      obtain ⟨duration, -, rfl⟩ := h
      exact .inl rfl
  · rename_i config hconfig
    simp only [Checked.bind_eq_ok, Checked.pure_eq_ok, Checked.reject_eq_ok] at h
    obtain ⟨_, hmixed, stages, hcompiled, rfl⟩ := h
    simp only [ne_eq, not_not, List.append_eq_nil_iff, ite_eq_right_iff, reduceCtorEq, imp_false,
      Bool.not_eq_true, Option.isSome_eq_false_iff, Option.isNone_iff_eq_none] at hmixed
    exact .inr ⟨rfl, hmixed.1.1, hmixed.1.2, hmixed.2, config, hconfig, hcompiled⟩
  · split at h
    · cases h
    · cases h
    · simp only [Checked.bind_eq_ok, Checked.pure_eq_ok] at h
      obtain ⟨_, -, duration, -, rfl⟩ := h
      exact .inl rfl

/-- **The sizing of a phase** panics exactly when it gets to sum a profile that
is too long. -/
theorem compileSizeOrPanic_fine_iff {phase : PhaseConfig} {arrivals : Option Arrivals} :
    (compileSizeOrPanic phase arrivals).Fine
      ↔ ∀ stages, phase.SizedBy arrivals stages → Stage.total stages < Duration.limit := by
  unfold compileSizeOrPanic
  split
  · rename_i err herr
    exact iff_of_true ⟨_, rfl⟩ fun stages h =>
      nomatch herr.symm.trans (compileSize_of_sizedBy h)
  · rename_i size hsize
    rw [Stage.checkedTotal_eq]
    by_cases hfits : Stage.total size.stages < Duration.limit
    · rw [if_pos hfits]
      refine iff_of_true ⟨_, rfl⟩ fun stages h => ?_
      obtain rfl := Except.ok.inj (hsize.symm.trans (compileSize_of_sizedBy h))
      exact hfits
    · rw [if_neg hfits]
      refine iff_of_false (fun ⟨_, hr⟩ => nomatch hr) fun h => hfits ?_
      rcases sizedBy_of_compileSize hsize with hnil | hsized
      · rw [hnil]
        exact show (0 : Duration) < Duration.limit by decide
      · exact h _ hsized

/-! ## The expiry of a token

The expiry in the token is a saturating sum of whole seconds, but the moment of
the refresh is computed with the addition of the clock. -/

/-- The time of the wall clock in whole seconds since 1970, and 0 before;
moments are in nanoseconds. -/
def unixSeconds (now : ℤ) : ℕ := (now / 1000000000).toNat

/-- A whole number of seconds after 1970, as a moment. -/
def ClockLimits.unixMoment (limits : ClockLimits) (secs : ℕ) : MayPanic ℤ :=
  if secs ≤ limits.unixSecs then .ok (secs * 1000000000) else .error .instantOverflow

/-- When a token that is signed at `issued` expires. -/
def tokenExpiry (ttl : Duration) (issued : ℕ) : ℕ := min (issued + ttl / 1000000000) (2 ^ 64 - 1)

/-- Time from `now` until a token that expires at `expires` is replaced, with
the panic of the addition. -/
def refreshDelayAdded (limits : ClockLimits) (expires : ℕ) (ttl : Duration) (now : ℤ) :
    MayPanic Duration := do
  let expiry ← limits.unixMoment expires
  let replaceAt := expiry - (min (ttl / 5) (Duration.ofSecs 60) : ℕ)
  return max (replaceAt - now).toNat (Duration.ofMillis 100)

/-- The delay from `now` after a token was signed at `signed`. -/
def delayAfterSigning (limits : ClockLimits) (ttl : Duration) (signed now : ℤ) :
    MayPanic Duration :=
  refreshDelayAdded limits (tokenExpiry ttl (unixSeconds signed)) ttl now

/-- **The expiry of a token** overflows exactly when the wall clock cannot
represent it; the saturating sum in the token does not help. -/
theorem delayAfterSigning_fine_iff {limits : ClockLimits} {ttl : Duration} {signed now : ℤ} :
    (delayAfterSigning limits ttl signed now).Fine
      ↔ unixSeconds signed + ttl / 1000000000 ≤ limits.unixSecs := by
  have hsaturated : tokenExpiry ttl (unixSeconds signed) ≤ limits.unixSecs
      ↔ unixSeconds signed + ttl / 1000000000 ≤ limits.unixSecs := by
    unfold tokenExpiry
    rw [min_le_iff, or_iff_left (not_le.mpr limits.unixSecs_lt)]
  rw [← hsaturated]
  unfold delayAfterSigning refreshDelayAdded ClockLimits.unixMoment
  by_cases hfits : tokenExpiry ttl (unixSeconds signed) ≤ limits.unixSecs
  · rw [if_pos hfits]
    exact iff_of_true ⟨_, rfl⟩ hfits
  · rw [if_neg hfits]
    exact iff_of_false (fun ⟨_, hr⟩ => nomatch hr) hfits

end WsBlast
