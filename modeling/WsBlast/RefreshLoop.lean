import WsBlast.Lib.Machine

/-!
# The refresh thread of a credential

A credential that changes during a run is kept in a header that all
handshakes read. A thread waits, refreshes the credential and puts the new
value into the header; a refresh that fails leaves the header alone and is
tried again after a shorter wait (`RefreshState.step`). The thread waits on
a channel whose sender is the run's guard, so dropping the guard ends the
wait. Times are exact rationals, in seconds.

The thread, its clock and the guard make one machine, whose runs are every
order in which time passes, the guard is dropped and refreshes end. The
header holds the value of the last refresh that succeeded (`header_run`), a
failed one is not tried again too early (`retried_after`), and once the
guard is dropped at most one more refresh ends (`refreshes_after_drop`).

The header is shared with all workers through a lock that is held for a copy
only, so a handshake takes the value that is there and never waits for a
refresh. The thread is the only writer.
-/

namespace WsBlast

/-! ## The thread

The thread, what it waits for and what a step of it does. -/

/-- How long before a credential expires it is replaced. -/
def refreshMargin (lifetime : ℚ) : ℚ := min (lifetime / 5) 60

theorem refreshMargin_pos {lifetime : ℚ} (h : 0 < lifetime) : 0 < refreshMargin lifetime :=
  lt_min (by positivity) (by norm_num)

/-- Shortest gap between two refresh failure warnings. -/
def warningGap : ℚ := 60

/-- Lets one warning through per failure, but at most one per `gap`, counting
the failures it held back. -/
structure WarningLimiter where
  gap : ℚ
  last : Option ℚ := none
  suppressed : ℕ := 0

namespace WarningLimiter

/-- Records a failure at `now`; the number of failures held back since the
last warning when this one should be printed. -/
def failed (limiter : WarningLimiter) (now : ℚ) : WarningLimiter × Option ℕ :=
  if limiter.last.any fun last => now - last < limiter.gap then
    ({ limiter with suppressed := limiter.suppressed + 1 }, none)
  else ({ limiter with last := some now, suppressed := 0 }, some limiter.suppressed)

/-- Records a successful refresh. -/
def succeeded (limiter : WarningLimiter) : WarningLimiter := { limiter with suppressed := 0 }

end WarningLimiter

/-- What a refresh gives: the new header value and the time until the next
refresh, or `none` when the value no longer needs refreshing. -/
abbrev Refreshed (V : Type) : Type := Except String (V × Option ℚ)

/-- Where the refresh thread is. -/
inductive RefreshThread where
  /-- It waits on the guard's channel, for `wait` from `since` on. -/
  | waiting (since wait : ℚ)
  | refreshing
  | ended
  deriving DecidableEq, Repr

/-- The refresh thread, its clock, its guard, the header, and the warnings it
printed: when, and with how many failures held back. -/
structure RefreshState (V : Type) where
  clock : ℚ
  guardHeld : Bool := true
  thread : RefreshThread
  header : V
  limiter : WarningLimiter := { gap := warningGap }
  warned : List (ℚ × ℕ) := []

/-- What can happen. -/
inductive RefreshAction (V : Type) where
  | pass (time : ℚ)
  | dropGuard
  /-- The wait is over. -/
  | timeout
  /-- The channel is disconnected. -/
  | disconnected
  /-- A refresh ends. -/
  | refreshed (result : Refreshed V)

namespace RefreshState

variable {V : Type}

/-- A thread that starts to wait for its first refresh. -/
def start (value : V) (first clock : ℚ) : RefreshState V where
  clock
  thread := .waiting clock first
  header := value

/-- One step of the loop, of the clock or of the guard. A receiver reports a
disconnected channel before it reports a timeout. -/
def step (retry : ℚ) (s : RefreshState V) : RefreshAction V → Option (RefreshState V)
  | .pass time => if 0 ≤ time then some { s with clock := s.clock + time } else none
  | .dropGuard => some { s with guardHeld := false }
  | .timeout =>
    match s.thread with
    | .waiting since wait =>
      if s.guardHeld = true ∧ since + wait ≤ s.clock then some { s with thread := .refreshing }
      else none
    | _ => none
  | .disconnected =>
    match s.thread with
    | .waiting _ _ => if s.guardHeld = false then some { s with thread := .ended } else none
    | _ => none
  | .refreshed result =>
    match s.thread with
    | .refreshing =>
      match result with
      | .ok (value, next) =>
        let s := { s with header := value, limiter := s.limiter.succeeded }
        match next with
        | some next => some { s with thread := .waiting s.clock next }
        | none => some { s with thread := .ended }
      | .error _ =>
        let (limiter, suppressed) := s.limiter.failed s.clock
        let warned :=
          match suppressed with
          | some suppressed => s.warned ++ [(s.clock, suppressed)]
          | none => s.warned
        some { s with limiter, warned, thread := .waiting s.clock retry }
    | _ => none

/-- What each step does. -/
inductive Moves (retry : ℚ) (s : RefreshState V) : RefreshAction V → RefreshState V → Prop
  | pass {time : ℚ} (hpos : 0 ≤ time) :
    Moves retry s (.pass time) { s with clock := s.clock + time }
  | dropGuard : Moves retry s .dropGuard { s with guardHeld := false }
  | timeout {since wait : ℚ} (hthread : s.thread = .waiting since wait)
      (hheld : s.guardHeld = true) (hdue : since + wait ≤ s.clock) :
    Moves retry s .timeout { s with thread := .refreshing }
  | disconnected {since wait : ℚ} (hthread : s.thread = .waiting since wait)
      (hheld : s.guardHeld = false) :
    Moves retry s .disconnected { s with thread := .ended }
  | succeeded {value : V} {next : Option ℚ} (hthread : s.thread = .refreshing) :
    Moves retry s (.refreshed (.ok (value, next)))
      { s with
        header := value
        limiter := s.limiter.succeeded
        thread := next.elim .ended (.waiting s.clock) }
  | failed {message : String} (hthread : s.thread = .refreshing) :
    Moves retry s (.refreshed (.error message))
      { s with
        limiter := (s.limiter.failed s.clock).1
        warned := s.warned
          ++ ((s.limiter.failed s.clock).2.map fun suppressed => (s.clock, suppressed)).toList
        thread := .waiting s.clock retry }

variable {retry : ℚ} {s t u : RefreshState V} {a : RefreshAction V}
  {actions : List (RefreshAction V)}

theorem moves_of_step (h : step retry s a = some t) : Moves retry s a t := by
  cases a with
  | pass time =>
    obtain ⟨hpos, heq⟩ := Option.ite_none_right_eq_some.mp h
    obtain rfl := Option.some.inj heq
    exact .pass hpos
  | dropGuard =>
    obtain rfl := Option.some.inj h
    exact .dropGuard
  | timeout =>
    unfold step at h
    dsimp only at h
    split at h
    · rename_i hthread
      obtain ⟨⟨hheld, hdue⟩, heq⟩ := Option.ite_none_right_eq_some.mp h
      obtain rfl := Option.some.inj heq
      exact .timeout hthread hheld hdue
    · cases h
  | disconnected =>
    unfold step at h
    dsimp only at h
    split at h
    · rename_i hthread
      obtain ⟨hheld, heq⟩ := Option.ite_none_right_eq_some.mp h
      obtain rfl := Option.some.inj heq
      exact .disconnected hthread hheld
    · cases h
  | refreshed result =>
    unfold step at h
    dsimp only at h
    split at h
    · rename_i hthread
      cases result with
      | error message =>
        -- whether a warning is printed is up to the limiter
        obtain rfl := Option.some.inj h
        have hfailed : Moves retry s (.refreshed (.error message)) _ := .failed hthread
        cases hwarning : (s.limiter.failed s.clock).2 with
        | none => simpa [hwarning] using hfailed
        | some suppressed => simpa [hwarning] using hfailed
      | ok result =>
        obtain ⟨value, next⟩ := result
        have hsucceeded : Moves retry s (.refreshed (.ok (value, next))) _ := .succeeded hthread
        cases next with
        | none =>
          obtain rfl := Option.some.inj h
          exact hsucceeded
        | some next =>
          obtain rfl := Option.some.inj h
          exact hsucceeded
    · cases h

/-! ## The header

Refreshes that end with a value are the only writers. -/

/-- The value a refresh puts into the header. -/
def issued : RefreshAction V → Option V
  | .refreshed (.ok (value, _)) => some value
  | _ => none

/-- Whether a refresh ends. -/
def endsRefresh : RefreshAction V → Bool
  | .refreshed _ => true
  | _ => false

/-- Only a refresh that succeeds changes the header. -/
theorem header_step (h : step retry s a = some t) : t.header = (issued a).getD s.header := by
  cases moves_of_step h <;> rfl

/-- **The header holds the value of the last refresh that succeeded**, and the
first value before any. -/
theorem header_run (h : Machine.run (step retry) s actions = some t) :
    t.header = ((actions.filterMap issued).getLast?).getD s.header := by
  induction actions generalizing s with
  | nil =>
    obtain rfl := Option.some.inj h
    rfl
  | cons a rest ih =>
    obtain ⟨u, hu, hrest⟩ := Machine.run_cons.mp h
    rw [ih hrest, header_step hu, List.filterMap_cons]
    cases issued a with
    | none => rfl
    | some value => rw [Option.getD_some, List.getLast?_cons, Option.getD_some]

/-! ## Failures and the guard

The guard ends a wait, a failure leads to a shorter one. -/

/-- The refresh that is in progress, as a number. -/
def pending (s : RefreshState V) : ℕ := if s.thread = .refreshing then 1 else 0

theorem guard_step (h : step retry s a = some t) (hs : s.guardHeld = false) :
    t.guardHeld = false := by
  cases moves_of_step h with
  | dropGuard => rfl
  | _ => exact hs

/-- **Once the guard is dropped**, only the refresh in progress ends. -/
theorem refreshes_after_drop (hs : s.guardHeld = false)
    (h : Machine.run (step retry) s actions = some t) :
    (actions.filter endsRefresh).length ≤ s.pending := by
  induction actions generalizing s with
  | nil => exact Nat.zero_le _
  | cons a rest ih =>
    obtain ⟨u, hu, hrest⟩ := Machine.run_cons.mp h
    have hmore := ih (guard_step hu hs) hrest
    cases moves_of_step hu with
    | pass hpos => exact hmore
    | dropGuard => exact hmore
    | timeout hthread hheld hdue => exact absurd (hs.symm.trans hheld) nofun
    | disconnected hthread hheld =>
      exact hmore.trans (Nat.zero_le _)
    | succeeded hthread =>
      rename_i value next
      have hidle : ¬(next.elim RefreshThread.ended (.waiting s.clock)) = .refreshing := by
        cases next <;> nofun
      rw [pending, if_neg hidle] at hmore
      rw [pending, if_pos hthread]
      exact Nat.succ_le_succ hmore
    | failed hthread =>
      rw [pending, if_neg nofun] at hmore
      rw [pending, if_pos hthread]
      exact Nat.succ_le_succ hmore

/-- A header whose thread is not refreshing when the guard is dropped stays as
it is. -/
theorem header_after_drop (hs : s.guardHeld = false) (hidle : s.thread ≠ .refreshing)
    (h : Machine.run (step retry) s actions = some t) : t.header = s.header := by
  have hnone : actions.filter endsRefresh = [] := by
    have hle := refreshes_after_drop hs h
    rw [pending, if_neg hidle] at hle
    exact List.eq_nil_of_length_eq_zero (Nat.le_zero.mp hle)
  have hissued : actions.filterMap issued = [] := by
    refine List.filterMap_eq_nil_iff.mpr fun a ha => ?_
    have hends := List.filter_eq_nil_iff.mp hnone a ha
    cases a with
    | refreshed result => exact absurd rfl hends
    | _ => rfl
  rw [header_run h, hissued]
  rfl

/-- A thread that waits, unless the guard was dropped and it has ended. -/
def Asleep (since wait : ℚ) (s : RefreshState V) : Prop :=
  s.thread = .waiting since wait ∨ s.thread = .ended ∧ s.guardHeld = false

theorem Asleep.step {since wait : ℚ} (hs : s.Asleep since wait) (ha : a ≠ .timeout)
    (h : step retry s a = some t) : t.Asleep since wait := by
  obtain hthread | ⟨hthread, hheld⟩ := hs
  · cases moves_of_step h with
    | pass hpos => exact .inl hthread
    | dropGuard => exact .inl hthread
    | timeout => exact absurd rfl ha
    | disconnected hwaits hheld => exact .inr ⟨rfl, hheld⟩
    | succeeded hbusy => exact absurd (hthread.symm.trans hbusy) nofun
    | failed hbusy => exact absurd (hthread.symm.trans hbusy) nofun
  · cases moves_of_step h with
    | pass hpos => exact .inr ⟨hthread, hheld⟩
    | dropGuard => exact .inr ⟨hthread, rfl⟩
    | timeout => exact absurd rfl ha
    | disconnected hwaits _ => exact absurd (hthread.symm.trans hwaits) nofun
    | succeeded hbusy => exact absurd (hthread.symm.trans hbusy) nofun
    | failed hbusy => exact absurd (hthread.symm.trans hbusy) nofun

theorem Asleep.run {since wait : ℚ} (hs : s.Asleep since wait) (hactions : .timeout ∉ actions)
    (h : Machine.run (RefreshState.step retry) s actions = some t) : t.Asleep since wait := by
  induction actions generalizing s with
  | nil =>
    obtain rfl := Option.some.inj h
    exact hs
  | cons a rest ih =>
    obtain ⟨u, hu, hrest⟩ := Machine.run_cons.mp h
    rw [List.mem_cons, not_or] at hactions
    exact ih (hs.step (Ne.symm hactions.1) hu) hactions.2 hrest

/-- The wait is over once its time has passed, while the guard is held. -/
theorem Asleep.timeout_iff {since wait : ℚ} (hs : s.Asleep since wait) :
    (∃ t, RefreshState.step retry s .timeout = some t)
      ↔ s.guardHeld = true ∧ since + wait ≤ s.clock := by
  unfold RefreshState.step
  obtain hthread | ⟨hthread, hheld⟩ := hs
  · simp [hthread]
  · simp [hthread, hheld]

/-- **A failed refresh** leaves the header alone and is tried again when
`retry` has passed, no sooner. -/
theorem retried_after {message : String}
    (hfail : step retry s (.refreshed (.error message)) = some t) :
    t.header = s.header ∧ t.thread = .waiting s.clock retry
      ∧ ∀ actions u, .timeout ∉ actions → Machine.run (step retry) t actions = some u →
        ((∃ v, step retry u .timeout = some v)
          ↔ u.guardHeld = true ∧ s.clock + retry ≤ u.clock) := by
  have hthread : t.thread = .waiting s.clock retry := by
    cases moves_of_step hfail
    rfl
  refine ⟨header_step hfail, hthread, fun actions u hactions hrun => ?_⟩
  have hasleep : t.Asleep s.clock retry := .inl hthread
  exact (hasleep.run hactions hrun).timeout_iff

/-! ## Warnings -/

/-- The warnings printed so far are a gap apart, and the limiter knows the
last one. -/
structure Spaced (s : RefreshState V) : Prop where
  gap : s.limiter.gap = warningGap
  last : s.limiter.last = s.warned.getLast?.map Prod.fst
  past : ∀ warning ∈ s.warned, warning.1 ≤ s.clock
  apart : s.warned.IsChain fun earlier later => earlier.1 + warningGap ≤ later.1

theorem spaced_start (value : V) (first clock : ℚ) : (start value first clock).Spaced where
  gap := rfl
  last := rfl
  past := nofun
  apart := .nil

theorem Spaced.step (hs : s.Spaced) (h : RefreshState.step retry s a = some t) : t.Spaced := by
  cases moves_of_step h with
  | pass hpos =>
    refine { hs with past := fun warning hmem => ?_ }
    exact (hs.past warning hmem).trans (le_add_of_nonneg_right hpos)
  | dropGuard => exact { hs with }
  | timeout => exact { hs with }
  | disconnected => exact { hs with }
  | succeeded => exact { hs with }
  | failed hthread =>
    unfold WarningLimiter.failed
    split
    · -- within the gap nothing is printed
      rw [Option.map_none, Option.toList_none, List.append_nil]
      exact { hs with }
    · rename_i hlast
      rw [Option.map_some, Option.toList_some]
      refine { gap := hs.gap, last := ?_, past := ?_, apart := ?_ }
      · rw [List.getLast?_append_cons]
        rfl
      · intro warning hmem
        rw [List.mem_append, List.mem_singleton] at hmem
        obtain hmem | rfl := hmem
        · exact hs.past warning hmem
        · exact le_refl _
      · rw [List.isChain_append]
        refine ⟨hs.apart, .singleton _, fun earlier hearlier later hlater => ?_⟩
        obtain rfl := Option.some.inj hlater
        rw [hs.last, hearlier, hs.gap, Option.map_some, Option.any_some, decide_eq_true_eq,
          not_lt, le_sub_iff_add_le'] at hlast
        exact hlast

/-- **Warnings are printed at most once in every gap.** -/
theorem warned_apart {value : V} {first clock : ℚ}
    (h : Machine.run (RefreshState.step retry) (start value first clock) actions = some t) :
    t.warned.IsChain fun earlier later => earlier.1 + warningGap ≤ later.1 :=
  (Machine.run_inv Spaced.step (spaced_start value first clock) h).apart

end RefreshState
end WsBlast
