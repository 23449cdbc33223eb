import WsBlast.ArrivalLoop
import WsBlast.ClockLimits
import WsBlast.Lib.RunParts

/-!
# The clock of an arrival-rate run

`run_arrivals` adds the duration of the run to its start, and after every
arrival the offset of the next one. Here the loop is written with these
additions as the standard library does them (`runArrivalsAdded`), so a run
may end with a panic. It keeps the ledger of the loop without them as long
as the sums fit (`attends_runArrivalsAdded`), and where one does not there is
a run that gets to it (`representable_of_neverPanics`). With the other sums of
`ClockLimits` this says which accepted values overflow the clock.

Additions on the clock panic when the instant cannot be represented, and so does
the conversion of a number of seconds that is too large.
-/

namespace WsBlast

open Proc (StepRuns)
open Proc.Monitor (Triple StepTriple)

/-- A number of seconds to the nearest nanosecond, with the panic of the
conversion. -/
def Duration.ofSecsF64 (secs : ℚ) : MayPanic Duration :=
  if Duration.ofSecsNearest secs < Duration.limit then .ok (Duration.ofSecsNearest secs)
  else .error .floatOverflow

/-- A part of the arrival loop, which may panic. -/
abbrev ArrivalStep (S : Type) : Type 1 := Proc.Step ArrivalEff ArrivalEff.Answer TimePanic S

/-- Goes on with the value of a computation. -/
def ArrivalStep.orPanic {S : Type} : MayPanic S → ArrivalStep S
  | .ok value => pure value
  | .error panic => throw panic

namespace ArrivalRun

variable (limits : ClockLimits) (run : ArrivalRun)

/-- The end of the run, with the panic of the addition. -/
def checkedFinish : MayPanic Instant := limits.checkedAdd run.start run.duration

/-- When an arrival is due, with the panics of the conversion and of the
addition. -/
def checkedArrivalTime (arrived : ℕ) : MayPanic Instant := do
  let offset ← Duration.ofSecsF64 (arrived / run.arrivals.rate)
  limits.checkedAdd run.start offset

/-- Every arrival that is due. -/
def admitDueAdded (now : Instant) (state : ArrivalState) : ArrivalStep ArrivalState :=
  Proc.repeatUntil (fun state =>
    if state.next ≤ now ∧ state.next < run.finish then do
      let state ← liftM (run.admitOne now state)
      let next ← ArrivalStep.orPanic (run.checkedArrivalTime limits (state.arrived + 1))
      pure (.inl { state with arrived := state.arrived + 1, next })
    else pure (.inr state)) state

/-- One turn of the loop; it ends when the run is cancelled. -/
def arrivalRoundAdded (state : ArrivalState) : ArrivalStep (ArrivalState ⊕ ArrivalState) := do
  let woken ← liftM (AskArrival.sleepUntil (min state.next run.finish))
  if woken then do
    let moment ← liftM AskArrival.now
    let state ← liftM (reapFinished (run.observe state moment))
    let now ← liftM AskArrival.now
    if run.finish ≤ state.next then do
      let done ← liftM AskArrival.joinOrCancelled
      match done with
      | none => pure (.inr state)
      | some done => do
        let state ← liftM (collect state done)
        pure (.inl state)
    else do
      let state ← run.admitDueAdded limits now state
      pure (.inl state)
  else pure (.inr state)

/-- Starts sessions at the arrival rate until the run is cancelled, and adds up
what they counted. -/
def runArrivalsAdded (totals : MetricsTotals) : ArrivalStep (ArrivalCounts × MetricsTotals) := do
  let _ ← ArrivalStep.orPanic (run.checkedFinish limits)
  let state ← Proc.repeatUntil (run.arrivalRoundAdded limits) { next := run.start, totals }
  let state ← liftM (drain state)
  let heap ← liftM AskArrival.recorders
  pure (state.counts, state.totals.addRecorder heap.recorders run.latency)

/-- No run of the loop panics, whatever its environment does. -/
def NeverPanics (names : RecorderId → List String) : Prop :=
  ∀ trace panic, (ArrivalLedger.monitor run names).Accepts {} trace →
    ¬Proc.Runs (run.runArrivalsAdded limits .new).run trace (some (.error panic))

/-- The instants of the run can be represented: its end, and the first moment
at which an arrival would be due after it. -/
structure Representable : Prop where
  finish : run.finish ≤ limits.instant
  next : ∀ k, run.arrivalTime k < run.finish → run.arrivalTime (k + 1) ≤ limits.instant

variable {limits run} {names : RecorderId → List String} {wake : Option Instant}
  {state : ArrivalState}

/-! ## Sums that fit

Within the limits each checked sum is the plain one, and the loop with panics is
the loop without. -/

theorem checkedArrivalTime_eq {k : ℕ} :
    run.checkedArrivalTime limits k = .ok (run.arrivalTime k)
      ↔ run.arrivalTime k ≤ limits.instant := by
  unfold checkedArrivalTime Duration.ofSecsF64 ClockLimits.checkedAdd arrivalTime
  by_cases hsecs : Duration.ofSecsNearest (k / run.arrivals.rate) < Duration.limit
  · rw [if_pos hsecs, Checked.ok_bind]
    split
    · rename_i hfits
      exact iff_of_true rfl hfits
    · rename_i hfits
      exact iff_of_false nofun hfits
  · rw [if_neg hsecs]
    have hlate : ¬run.start + Duration.ofSecsNearest (k / run.arrivals.rate) ≤ limits.instant :=
      fun hfits => hsecs (((Nat.le_add_left _ _).trans hfits).trans_lt limits.instant_lt)
    exact iff_of_false nofun hlate

/-- A computation that gives a value. -/
theorem keeps_orPanic {S : Type} {x : MayPanic S} {value : S} (hx : x = .ok value)
    {pre : ArrivalLedger → Prop} {post : S → ArrivalLedger → Prop}
    {leave : TimePanic → ArrivalLedger → Prop} (h : ∀ s, pre s → post value s) :
    StepTriple (ArrivalLedger.monitor run names) pre (ArrivalStep.orPanic x) post leave := by
  subst hx
  exact StepTriple.pure h

/-- **The arrivals that are due** are admitted as in the loop that does not
check. -/
theorem attends_admitDueAdded (hfits : run.Representable limits) {now : Instant} :
    StepTriple (ArrivalLedger.monitor run names) (Arrives run names (some now) state)
      (run.admitDueAdded limits now state)
      (fun state' s => Arrives run names (some now) state' s ∧ CaughtUp run (some now) state')
      fun _ _ => False := by
  refine StepTriple.repeatUntil (fun state => Arrives run names (some now) state) fun state => ?_
  refine StepTriple.ite (fun hdue => ?_) fun hcaught => ?_
  · refine StepTriple.bind (StepTriple.lift (attends_admitOne hdue.1 hdue.2)) fun state' => ?_
    intro s harrives
    -- the arrival that was just admitted was due before the end
    have hnext : run.checkedArrivalTime limits (state'.arrived + 1)
        = .ok (run.arrivalTime (state'.arrived + 1)) :=
      checkedArrivalTime_eq.mpr (hfits.next _ (harrives.due state'.arrived (Nat.lt_succ_self _)).1)
    have hadd : StepTriple (ArrivalLedger.monitor run names)
        (Arrives run names (some now) { state' with
          arrived := state'.arrived + 1, next := run.arrivalTime (state'.arrived + 1) })
        (ArrivalStep.orPanic (run.checkedArrivalTime limits (state'.arrived + 1)))
        (fun next => Arrives run names (some now)
          { state' with arrived := state'.arrived + 1, next }) fun _ _ => False :=
      keeps_orPanic hnext fun _ h => h
    refine StepTriple.bind hadd (fun next => StepTriple.pure ?_) s harrives
    exact fun _ h => h
  · exact StepTriple.pure fun s harrives => ⟨harrives, caughtUp_of_not_due hcaught⟩

/-- **One turn of the loop.** -/
theorem attends_arrivalRoundAdded (hfits : run.Representable limits) (state : ArrivalState) :
    StepTriple (ArrivalLedger.monitor run names) (Between run names state)
      (run.arrivalRoundAdded limits state) (Sum.elim (Between run names) (Between run names))
      fun _ _ => False := by
  rintro s ⟨wake, harrives, hcaught⟩
  have hround : StepTriple (ArrivalLedger.monitor run names) (Arrives run names wake state)
      (run.arrivalRoundAdded limits state) (Sum.elim (Between run names) (Between run names))
      fun _ _ => False := by
    refine StepTriple.bind (StepTriple.lift (attends_sleepUntil _)) fun woken => ?_
    refine StepTriple.ite (fun _ => ?_) fun _ => StepTriple.pure fun s h => ⟨wake, h, hcaught⟩
    refine StepTriple.bind (StepTriple.lift attends_now) fun moment => ?_
    refine StepTriple.bind (StepTriple.lift (attends_reapObserved moment)) fun state => ?_
    refine StepTriple.bind (StepTriple.lift attends_now) fun now => ?_
    refine StepTriple.ite (fun hover => ?_) fun _ => ?_
    · refine StepTriple.bind (StepTriple.lift attends_joinOrCancelled) fun done => ?_
      cases done with
      | none => exact StepTriple.pure fun s h => ⟨some now, h, fun _ _ => .inr hover⟩
      | some done =>
        refine StepTriple.bind (StepTriple.lift (attends_collect done)) fun state' => ?_
        exact StepTriple.pure fun s h => ⟨some now, h.1, fun _ _ => .inr (h.2 ▸ hover)⟩
    · exact StepTriple.bind (attends_admitDueAdded hfits) fun state =>
        StepTriple.pure fun s h => ⟨some now, h⟩
  exact hround s harrives

/-- **A run whose instants can be represented does not panic.** -/
theorem attends_runArrivalsAdded (hfits : run.Representable limits) :
    StepTriple (ArrivalLedger.monitor run names) (fun s => s = {})
      (run.runArrivalsAdded limits .new) (fun _ s => s.Sound run) fun _ _ => False := by
  have hfinish : run.checkedFinish limits = .ok run.finish := if_pos hfits.finish
  have hstart : StepTriple (ArrivalLedger.monitor run names) (fun s => s = {})
      (ArrivalStep.orPanic (run.checkedFinish limits))
      (fun _ => Between run names { next := run.start, totals := .new }) fun _ _ => False := by
    refine keeps_orPanic hfinish ?_
    rintro s rfl
    exact ⟨none, arrives_init, nofun⟩
  refine StepTriple.bind hstart fun _ => ?_
  refine StepTriple.bind (StepTriple.repeatUntil (Between run names)
    fun state => attends_arrivalRoundAdded hfits state) fun state => ?_
  rintro s ⟨wake, harrives, hcaught⟩
  refine StepTriple.bind (StepTriple.lift (attends_drain hcaught)) (fun state => ?_) s harrives
  have hheap : Attends run names (fun s => Arrives run names wake state s
        ∧ CaughtUp run wake state ∧ s.opened = []) AskArrival.recorders fun _ s =>
      s.Sound run := by
    refine Triple.ask fun s heap h _ => ?_
    exact ⟨⟨h.1.sound.bound, h.1.sound.late⟩, h.1.sound.bound, h.1.sound.late⟩
  exact StepTriple.bind (StepTriple.lift hheap) fun heap => StepTriple.pure fun _ h => h

theorem neverPanics_of_representable (hfits : run.Representable limits) :
    run.NeverPanics limits names := by
  intro trace panic haccepts hruns
  have hwp : (ArrivalLedger.monitor run names).wps _ _ _ {} :=
    attends_runArrivalsAdded hfits {} rfl
  exact ((ArrivalLedger.monitor run names).wp_sound hruns (s := {}) ⟨Nat.zero_le _, rfl⟩ hwp
    haccepts).2 _ rfl

/-! ## A sum that does not fit

For the other direction an environment is made that lets the loop reach the sum:
it wakes the loop up late, after the arrival in question, and lets it admit
everything that is due. -/

/-- A computation that panics. -/
theorem runs_orPanic {S : Type} {x : MayPanic S} {panic : TimePanic} (hx : x = .error panic) :
    StepRuns (ArrivalStep.orPanic x) [] (.error panic) := by
  subst hx
  exact .throw panic

/-- A computation that gives a value. -/
theorem runs_orPanic_ok {S : Type} {x : MayPanic S} {value : S} (hx : x = .ok value) :
    StepRuns (ArrivalStep.orPanic x) [] (.ok value) := by
  subst hx
  exact .pure value

/-- An event that admits an arrival. -/
def Admission : ArrivalEvent → Prop
  | ⟨.spawn _, _⟩ => True
  | ⟨.skip, _⟩ => True
  | _ => False

/-- Every ledger takes admissions. -/
theorem accepts_admissions {events : List ArrivalEvent} (h : ∀ event ∈ events, Admission event)
    (s : ArrivalLedger) : (ArrivalLedger.monitor run names).Accepts s events := by
  induction events generalizing s with
  | nil => trivial
  | cons event rest ih =>
    refine ⟨?_, ih (fun event hmem => h event (List.mem_cons_of_mem _ hmem)) _⟩
    have hadmission := h event List.mem_cons_self
    obtain ⟨e, answer⟩ := event
    cases e with
    | spawn id => exact trivial
    | skip => exact trivial
    | _ => exact absurd hadmission id

/-- One arrival is admitted; when the next one is due is not up to it. -/
theorem runs_admitOne (now : Instant) (state : ArrivalState) :
    ∃ event state', Admission event ∧ state'.arrived = state.arrived
      ∧ Proc.Runs (run.admitOne now state) [event] (some state') := by
  by_cases hfull : run.maxOpen ≤ state.opened.length
  · have hask := Proc.Runs.ask (A := ArrivalEff.Answer) ArrivalEff.skip ()
    have hrun : Proc.Runs (run.admitOne now state) ([⟨.skip, ()⟩] ++ [])
        (some { state with counts.skipped := state.counts.skipped + 1 }) := by
      unfold admitOne
      rw [if_pos hfull]
      exact hask.bind (.done _)
    refine ⟨_, _, ?_, ?_, hrun⟩
    · exact trivial
    · rfl
  · have hask := Proc.Runs.ask (A := ArrivalEff.Answer) (ArrivalEff.spawn state.counts.started) ()
    have hrun : Proc.Runs (run.admitOne now state) ([⟨.spawn state.counts.started, ()⟩] ++ [])
        (some (run.observe { state with
          opened := state.opened ++ [state.counts.started]
          counts.started := state.counts.started + 1 } now)) := by
      unfold admitOne
      rw [if_neg hfull]
      exact hask.bind (.done _)
    refine ⟨_, _, ?_, ?_, hrun⟩
    · exact trivial
    · rfl

/-- What is added up is when the arrival is due. -/
theorem eq_arrivalTime {k : ℕ} {moment : Instant}
    (h : run.checkedArrivalTime limits k = .ok moment) : moment = run.arrivalTime k := by
  by_cases hfits : run.arrivalTime k ≤ limits.instant
  · exact Except.ok.inj (h.symm.trans (checkedArrivalTime_eq.mpr hfits))
  · unfold checkedArrivalTime Duration.ofSecsF64 ClockLimits.checkedAdd at h
    split at h
    · rw [Checked.ok_bind] at h
      split at h
      · exact (Except.ok.inj h).symm
      · cases h
    · cases h

/-- One that does not fit panics. -/
theorem exists_checkedArrivalTime_error {k : ℕ} (h : ¬run.arrivalTime k ≤ limits.instant) :
    ∃ panic, run.checkedArrivalTime limits k = .error panic := by
  cases hcheck : run.checkedArrivalTime limits k with
  | error panic => exact ⟨panic, rfl⟩
  | ok moment =>
    obtain rfl := eq_arrivalTime hcheck
    exact absurd (checkedArrivalTime_eq.mp hcheck) h

/-- A loop that is due for the arrivals up to `k` gets to the panic of one. -/
theorem runs_admitDueAdded (hrate : 0 < run.arrivals.rate) {k : ℕ}
    (hdue : run.arrivalTime k < run.finish) (hlate : ¬run.arrivalTime (k + 1) ≤ limits.instant)
    (left : ℕ) {state : ArrivalState} (hleft : state.arrived + left = k)
    (hnext : state.next = run.arrivalTime state.arrived) :
    ∃ events panic, (∀ event ∈ events, Admission event)
      ∧ StepRuns (run.admitDueAdded limits (run.arrivalTime k) state) events (.error panic) := by
  induction left generalizing state with
  | zero =>
    obtain rfl : state.arrived = k := hleft
    -- this arrival is admitted, and the next one cannot be represented
    obtain ⟨event, state', hevent, harrived, hadmit⟩ :=
      @runs_admitOne run (run.arrivalTime state.arrived) state
    obtain ⟨panic, hpanic⟩ := exists_checkedArrivalTime_error hlate
    rw [← harrived] at hpanic
    refine ⟨[event], panic, fun e he => List.mem_singleton.mp he ▸ hevent, .leave_turn ?_⟩
    rw [if_pos ⟨hnext.le, hnext.trans_lt hdue⟩]
    exact .bind (.lift hadmit) (.leave _ (runs_orPanic hpanic))
  | succ left ih =>
    have hle : state.arrived ≤ k := hleft ▸ Nat.le_add_right _ _
    have hnow : state.next ≤ run.arrivalTime k := hnext.trans_le (arrivalTime_mono hrate hle)
    obtain ⟨event, state', hevent, harrived, hadmit⟩ :=
      @runs_admitOne run (run.arrivalTime k) state
    cases hcheck : run.checkedArrivalTime limits (state'.arrived + 1) with
    | error panic =>
      -- an earlier arrival was too far away already
      refine ⟨[event], panic, fun e he => List.mem_singleton.mp he ▸ hevent, .leave_turn ?_⟩
      rw [if_pos ⟨hnow, hnow.trans_lt hdue⟩]
      exact .bind (.lift hadmit) (.leave _ (runs_orPanic hcheck))
    | ok next =>
      obtain rfl := eq_arrivalTime hcheck
      obtain ⟨events, panic, hevents, hrest⟩ := @ih
        { state' with
          arrived := state'.arrived + 1
          next := run.arrivalTime (state'.arrived + 1) } (by
            show state'.arrived + 1 + left = k
            rw [harrived, add_assoc, add_comm 1]
            exact hleft) rfl
      have hturn : StepRuns (run.admitDueAdded limits (run.arrivalTime k) state)
          ([event] ++ events) (.error panic) := by
        refine .turn ?_ hrest
        rw [if_pos ⟨hnow, hnow.trans_lt hdue⟩]
        exact .bind (.lift hadmit) (.bind (runs_orPanic_ok hcheck) (.pure _))
      refine ⟨event :: events, panic, fun e he => ?_, hturn⟩
      obtain rfl | he := List.mem_cons.mp he
      · exact hevent
      · exact hevents e he

/-- No session has finished yet. -/
theorem runs_reapFinished (state : ArrivalState) :
    Proc.Runs (reapFinished state) [⟨.tryJoinNext, none⟩] (some state) := by
  have hjoin := Proc.Runs.ask (A := ArrivalEff.Answer) ArrivalEff.tryJoinNext none
  exact .leave_loop (hjoin.bind (.done _))

/-- The loop that wakes up at `moment` for the first time. -/
def firstWake (run : ArrivalRun) (moment : Instant) : List ArrivalEvent :=
  [⟨.sleepUntil (min run.start run.finish), true⟩, ⟨.now, moment⟩, ⟨.tryJoinNext, none⟩,
    ⟨.now, moment⟩]

/-- Any environment can wake the loop up late. -/
theorem accepts_firstWake {moment : Instant} {events : List ArrivalEvent}
    (h : ∀ event ∈ events, Admission event) :
    (ArrivalLedger.monitor run names).Accepts {} (run.firstWake moment ++ events) := by
  refine ⟨trivial, nofun, trivial, ?_, accepts_admissions h _⟩
  rintro before ⟨⟩
  exact le_rfl

/-- A loop that is late for an arrival too far away gets to its panic in its
first turn. -/
theorem runs_arrivalRoundAdded (hrate : 0 < run.arrivals.rate) {k : ℕ}
    (hdue : run.arrivalTime k < run.finish) (hlate : ¬run.arrivalTime (k + 1) ≤ limits.instant)
    (totals : MetricsTotals) :
    ∃ events panic, (∀ event ∈ events, Admission event)
      ∧ StepRuns (run.arrivalRoundAdded limits { next := run.start, totals })
        (run.firstWake (run.arrivalTime k) ++ events) (.error panic) := by
  have hopen : ¬run.finish
      ≤ (run.observe { next := run.start, totals } (run.arrivalTime k)).next :=
    not_le.mpr (arrivalTime_zero.symm.trans_lt
      ((arrivalTime_mono hrate (Nat.zero_le k)).trans_lt hdue))
  obtain ⟨events, panic, hevents, hadmit⟩ := @runs_admitDueAdded limits run hrate k hdue hlate k
    (run.observe { next := run.start, totals } (run.arrivalTime k)) (Nat.zero_add k)
    arrivalTime_zero.symm
  refine ⟨events, panic, hevents, ?_⟩
  have hsleep := Proc.Runs.ask (A := ArrivalEff.Answer)
    (ArrivalEff.sleepUntil (min run.start run.finish)) true
  have hnow := Proc.Runs.ask (A := ArrivalEff.Answer) ArrivalEff.now (run.arrivalTime k)
  show StepRuns _ ([_] ++ ([_] ++ ([_] ++ ([_] ++ events)))) _
  refine .bind (.lift hsleep) ?_
  rw [if_pos rfl]
  refine .bind (.lift hnow) (.bind (.lift (runs_reapFinished _)) (.bind (.lift hnow) ?_))
  rw [if_neg hopen]
  exact .leave _ hadmit

/-- **A run whose instants cannot all be represented** panics for some
environment. -/
theorem representable_of_neverPanics (hrate : 0 < run.arrivals.rate)
    (h : run.NeverPanics limits names) : run.Representable limits := by
  by_contra hbad
  by_cases hfinish : run.finish ≤ limits.instant
  · have hnext : ∃ k, run.arrivalTime k < run.finish
        ∧ ¬run.arrivalTime (k + 1) ≤ limits.instant := by
      by_contra hnone
      exact hbad ⟨hfinish, fun k hdue => by_contra fun hlate => hnone ⟨k, hdue, hlate⟩⟩
    obtain ⟨k, hdue, hlate⟩ := hnext
    obtain ⟨events, panic, hevents, hround⟩ := runs_arrivalRoundAdded hrate hdue hlate .new
    have hchecked : run.checkedFinish limits = .ok run.finish := if_pos hfinish
    have hruns : StepRuns (run.runArrivalsAdded limits .new)
        ([] ++ (run.firstWake (run.arrivalTime k) ++ events)) (.error panic) :=
      .bind (runs_orPanic_ok hchecked) (.leave _ (.leave_turn hround))
    exact h _ panic (accepts_firstWake hevents) hruns
  · have hchecked : run.checkedFinish limits = .error .instantOverflow := if_neg hfinish
    have hruns : StepRuns (run.runArrivalsAdded limits .new) [] (.error .instantOverflow) :=
      .leave _ (runs_orPanic hchecked)
    exact h [] .instantOverflow trivial hruns

/-- **An arrival-rate run** never panics exactly when its instants can be
represented. -/
theorem neverPanics_iff (hrate : 0 < run.arrivals.rate) :
    run.NeverPanics limits names ↔ run.Representable limits :=
  ⟨representable_of_neverPanics hrate, neverPanics_of_representable⟩

/-- An arrival that is due after the run, and can be represented, is enough. -/
theorem Representable.of_le (hrate : 0 < run.arrivals.rate) {n : ℕ}
    (hend : run.finish ≤ run.arrivalTime n) (hfits : run.arrivalTime n ≤ limits.instant) :
    run.Representable limits where
  finish := hend.trans hfits
  next k hdue := by
    have hlt : k < n := by
      by_contra hle
      exact absurd (hdue.trans_le (hend.trans (arrivalTime_mono hrate (not_lt.mp hle))))
        (lt_irrefl _)
    exact (arrivalTime_mono hrate hlt).trans hfits

end ArrivalRun

theorem Arrivals.rate_pos {arrivals : Arrivals} {rate session cap : String}
    (h : arrivals.checkValues rate session cap = .ok ()) : 0 < arrivals.rate := by
  unfold Arrivals.checkValues at h
  simp only [Checked.bind_eq_ok, Checked.reject_eq_ok, not_not] at h
  obtain ⟨_, ⟨hpos, -⟩, -⟩ := h
  exact hpos

/-! ## Every sum on the clock

The arrival loop together with the other sums that `ClockLimits` has. -/

/-- **The sums of the clock fit** exactly for the inputs that keep them in
range: the stages of a run and of a phase, whatever else is rejected first; the
targets of a profile; the end of an arrival-rate run with an accepted rate and
its first arrival that is due after it; and the expiry of a token. -/
theorem clock_sums_fit_iff (limits : ClockLimits) (names : RecorderId → List String) :
    (∀ (builder : LoadTestConfigBuilder) host timeSeed,
      (builder.buildOrPanic host timeSeed).Fine
        ↔ builder.RejectedFirst host ∨ Stage.total builder.stages < Duration.limit)
    ∧ (∀ phase arrivals, (compileSizeOrPanic phase arrivals).Fine
        ↔ ∀ stages, phase.SizedBy arrivals stages → Stage.total stages < Duration.limit)
    ∧ (∀ stages, (∀ elapsed < Duration.limit, (Stage.targetAtAdded stages elapsed).Fine)
        ↔ Stage.total stages < Duration.limit)
    ∧ (∀ (run : ArrivalRun) rate session cap, run.arrivals.checkValues rate session cap = .ok () →
      (run.NeverPanics limits names ↔ run.Representable limits))
    ∧ ∀ ttl signed now, (delayAfterSigning limits ttl signed now).Fine
        ↔ unixSeconds signed + ttl / 1000000000 ≤ limits.unixSecs :=
  ⟨fun _ _ _ => LoadTestConfigBuilder.buildOrPanic_fine_iff,
    fun _ _ => compileSizeOrPanic_fine_iff, fun _ => Stage.targetAtAdded_fine_iff,
    fun _ _ _ _ hchecked => ArrivalRun.neverPanics_iff (Arrivals.rate_pos hchecked),
    fun _ _ _ => delayAfterSigning_fine_iff⟩

/-- A run at a rate, from the start of the clock. -/
def ArrivalRun.atRate (rate : ℚ) (duration : Duration) : ArrivalRun where
  arrivals := ⟨rate, Duration.ofSecs 1, none⟩
  start := 0
  duration
  interval := Duration.ofSecs 1
  latency := 0

theorem clock_sums_fit_iff_one :
    (ArrivalRun.atRate 1 (Duration.ofSecs 10)).NeverPanics .unix fun _ => [] := by
  have hchecked : (ArrivalRun.atRate 1 (Duration.ofSecs 10)).arrivals.checkValues
      "--arrival-rate" "--session-duration" "--max-connections" = .ok () := by decide +kernel
  have hrun := (clock_sums_fit_iff .unix fun _ => []).2.2.2.1 (.atRate 1 (Duration.ofSecs 10))
    _ _ _ hchecked
  exact hrun.mpr (@ArrivalRun.Representable.of_le _ _ (Arrivals.rate_pos hchecked) 10
    (by decide +kernel) (by decide +kernel))

/-- **Accepted values overflow the clock**: two stages, a duration, an arrival
rate and a token lifetime. -/
theorem clock_sums_overflow :
    (∃ stages, Stage.parseList "18446744073709551615s:1,1s:1" = .ok stages
      ∧ validateStages stages 0 = .ok () ∧ Stage.checkedTotal stages = .error .sumOverflow)
    ∧ (∃ duration, parseHumanDuration "18446744073709551615s" = .ok duration
      ∧ ¬(ArrivalRun.atRate 1 duration).NeverPanics .unix fun _ => [])
    ∧ ((ArrivalRun.atRate (1 / 10 ^ 30) (Duration.ofSecs 10)).arrivals.checkValues
        "--arrival-rate" "--session-duration" "--max-connections" = .ok ()
      ∧ ¬(ArrivalRun.atRate (1 / 10 ^ 30) (Duration.ofSecs 10)).NeverPanics .unix fun _ => [])
    ∧ ∃ ttl, parseHumanDuration "9223372036854775807s" = .ok ttl
      ∧ delayAfterSigning .unix ttl 1000000000 1000000000 = .error .instantOverflow := by
  refine ⟨⟨[⟨Duration.ofSecs 18446744073709551615, 1⟩, ⟨Duration.ofSecs 1, 1⟩], ?_⟩,
    ⟨Duration.ofSecs 18446744073709551615, ?_, fun h => ?_⟩, ⟨?_, fun h => ?_⟩,
    ⟨Duration.ofSecs 9223372036854775807, ?_⟩⟩
  · decide +kernel
  · decide +kernel
  · exact absurd (ArrivalRun.representable_of_neverPanics (by decide +kernel) h).finish
      (by decide +kernel)
  · decide +kernel
  · exact absurd ((ArrivalRun.representable_of_neverPanics (by decide +kernel) h).next 0
      (by decide +kernel)) (by decide +kernel)
  · decide +kernel

end WsBlast
