import WsBlast.WorkerIds

/-!
# Workers that follow a staged profile

A staged run looks at its profile at every tick: it starts workers until as
many are open as the profile asks for, or closes the most recently started
ones until no more are (`runStages`). When it is cancelled it returns every
worker it started, and the metrics of each are added to the run's totals
(`driveStages`). The loop is a program over the questions of `StagedEff`:
whether a tick came or the run was cancelled, how much time has passed, the
workers it starts and closes, and what each of them ends with.

What a run shows is read off its trace: the workers that were started, those
whose token was cancelled and those that are left (`running`). `StagedFine`
says what each event of a run is after the events before it; the loop keeps
`FollowsStages`, and what it keeps is what `StageSlots.tick` computes.

A tick looks at the clock once, and opens or closes as many as are needed to
get to the target of that moment. Opening is one spawn after the other with
the next number, closing takes the most recently opened first. Nothing else
changes what is open: a worker keeps its slot whatever becomes of its
connection.
-/

namespace WsBlast

open Proc.Monitor (Triple filterMap_snoc)

/-! ## The loop

The questions of a staged run, and the loop as the source has it. -/

/-- What a staged run asks its environment. -/
inductive StagedEff where
  /-- The next tick; false when the run was cancelled. -/
  | tick
  /-- The time since the run started. -/
  | elapsed
  /-- Spawns a worker. -/
  | spawn (id : ℕ)
  /-- Cancels a worker's token. -/
  | cancel (id : ℕ)
  /-- What a worker ends with; nothing when its task panicked. -/
  | join (id : ℕ)
  /-- The shared heap, as a finished worker flushes its samples into it. -/
  | flush (metrics : WorkerMetrics)

/-- What each question of a staged run is answered with. -/
def StagedEff.Answer : StagedEff → Type
  | .tick => Bool
  | .elapsed => Duration
  | .spawn _ => Unit
  | .cancel _ => Unit
  | .join _ => Option WorkerMetrics
  | .flush _ => Heap

/-- A program of a staged run. -/
abbrev StagedProc (R : Type) : Type 1 := Proc StagedEff StagedEff.Answer R

/-- One event of a staged run's trace. -/
abbrev StagedEvent : Type := Proc.Event StagedEff StagedEff.Answer

namespace AskStaged

/-- Waits for the next tick; whether it came before the run was cancelled. -/
def tick : StagedProc Bool := Proc.ask StagedEff.tick
/-- How much time has passed. -/
def elapsed : StagedProc Duration := Proc.ask StagedEff.elapsed
/-- Starts a worker. -/
def spawn (id : ℕ) : StagedProc Unit := Proc.ask (StagedEff.spawn id)
/-- Cancels the token of a worker. -/
def cancel (id : ℕ) : StagedProc Unit := Proc.ask (StagedEff.cancel id)
/-- Waits for a worker and takes what it ended with. -/
def join (id : ℕ) : StagedProc (Option WorkerMetrics) := Proc.ask (StagedEff.join id)
/-- Adds its metrics. -/
def flush (metrics : WorkerMetrics) : StagedProc Heap := Proc.ask (StagedEff.flush metrics)

end AskStaged

/-- What a staged run gives: the slots it was to open, those it did not, and
the totals of its workers. -/
structure StagedOutcome where
  attempted : ℕ
  notStarted : ℕ
  totals : MetricsTotals

namespace StagedRun

/-- Starts workers until as many as `wanted` are open. -/
def openWorkers (wanted : ℕ) (slots : StageSlots) : StagedProc StageSlots :=
  Proc.loop (fun slots =>
    if slots.opened.length < wanted then do
      AskStaged.spawn slots.nextId
      pure (.inl slots.pushNext)
    else pure (.inr slots)) slots

/-- Ramps down by closing the most recently started workers. -/
def closeWorkers (wanted : ℕ) (slots : StageSlots) : StagedProc StageSlots :=
  Proc.loop (fun slots =>
    if wanted < slots.opened.length then
      match slots.opened.getLast? with
      | none => pure (.inr slots)
      | some id => do
        AskStaged.cancel id
        pure (.inl slots.popLast)
    else pure (.inr slots)) slots

/-- One turn of the loop; it ends when the run is cancelled. -/
def stageRound (config : LoadTestConfig) (slots : StageSlots) :
    StagedProc (StageSlots ⊕ StageSlots) := do
  if ← AskStaged.tick then do
    let elapsed ← AskStaged.elapsed
    let wanted := config.stageTarget elapsed
    let slots ← openWorkers wanted slots
    let slots ← closeWorkers wanted slots
    pure (.inl slots)
  else pure (.inr slots)

/-- Opens and closes connections to follow the configured stages until the run
is cancelled, and returns every worker it started. -/
def runStages (config : LoadTestConfig) : StagedProc (List ℕ) := do
  let slots ← Proc.loop (stageRound config) {}
  pure slots.workers

/-- Adds the metrics of the workers to the totals, each once it has ended; one
that panicked has none. -/
def mergeWorkers (totals : MetricsTotals) : List ℕ → StagedProc MetricsTotals
  | [] => pure totals
  | id :: rest => do
    match ← AskStaged.join id with
    | none => mergeWorkers totals rest
    | some metrics => do
      let heap ← AskStaged.flush metrics
      mergeWorkers (totals.addWorker heap.recorders (metrics.flushInterval heap).1) rest

/-- The part of `drive` that runs the stages: every slot a staged run opens is
one it tried, so none is reported as not started. -/
def driveStages (config : LoadTestConfig) (totals : MetricsTotals) : StagedProc StagedOutcome := do
  let handles ← runStages config
  let totals ← mergeWorkers totals handles
  pure { attempted := handles.length, notStarted := 0, totals }

end StagedRun

/-! ## What the trace shows

Each list is what some kind of event adds to, in the order of the trace. -/

namespace StagedTrace

/-- The worker an event starts. -/
def startedOf : StagedEvent → Option ℕ
  | ⟨.spawn id, _⟩ => some id
  | _ => none

/-- The worker whose token an event cancels. -/
def cancelledOf : StagedEvent → Option ℕ
  | ⟨.cancel id, _⟩ => some id
  | _ => none

/-- The time an event reads. -/
def elapsedOf : StagedEvent → Option Duration
  | ⟨.elapsed, time⟩ => some time
  | _ => none

/-- The worker an event collects, with what it ended with. -/
def joinedOf : StagedEvent → Option (ℕ × Option WorkerMetrics)
  | ⟨.join id, metrics⟩ => some (id, metrics)
  | _ => none

/-- The metrics an event adds, with the heap as it is then. -/
def mergedOf : StagedEvent → Option (WorkerMetrics × Heap)
  | ⟨.flush metrics, heap⟩ => some (metrics, heap)
  | _ => none

variable (trace : List StagedEvent)

/-- The workers that were started, in order. -/
def started : List ℕ := trace.filterMap startedOf

/-- The workers whose tokens were cancelled, in order. -/
def cancelled : List ℕ := trace.filterMap cancelledOf

/-- The workers that were started and not cancelled, in order. -/
def running : List ℕ := (started trace).filter fun id => id ∉ cancelled trace

/-- The times of the ticks. -/
def ticks : List Duration := trace.filterMap elapsedOf

/-- The workers that were collected, in order. -/
def joined : List (ℕ × Option WorkerMetrics) := trace.filterMap joinedOf

/-- The metrics that were added to the totals, in order. -/
def merged : List (WorkerMetrics × Heap) := trace.filterMap mergedOf

/-- The totals that the added metrics make. -/
def mergedTotals (totals : MetricsTotals) (merged : List (WorkerMetrics × Heap)) : MetricsTotals :=
  merged.foldl (fun totals item =>
    totals.addWorker item.2.recorders (item.1.flushInterval item.2).1) totals

end StagedTrace

open StagedTrace

/-- What an event of a staged run is, after the events before it. When the
next tick is awaited, as many workers run as the last one asked for; a worker
is started with the next number while too few run, and the one that was
started last is cancelled while too many do; and no worker is collected
twice. -/
def StagedFine (config : LoadTestConfig) (before : List StagedEvent) : StagedEvent → Prop
  | ⟨.tick, _⟩ => ∀ time ∈ (ticks before).getLast?,
    (running before).length = config.stageTarget time
  | ⟨.spawn id, _⟩ => id = (started before).length
    ∧ ∃ time ∈ (ticks before).getLast?, (running before).length < config.stageTarget time
  | ⟨.cancel id, _⟩ => (running before).getLast? = some id
    ∧ ∃ time ∈ (ticks before).getLast?, config.stageTarget time < (running before).length
  | ⟨.join id, _⟩ => id ∈ started before ∧ id ∉ (joined before).map Prod.fst
  | _ => True

/-! ## The loop follows its profile

The slots of the loop are those that `StageSlots` computes from the targets, and
the trace shows the same workers. -/

namespace StageSlots

variable {slots : StageSlots} {wanted : ℕ}

theorem tick_pushNext (h : slots.opened.length < wanted) :
    slots.pushNext.tick wanted = slots.tick wanted := by
  unfold tick
  rw [openTo.eq_1 wanted slots, if_pos h]
  rfl

theorem tick_of_le (h : wanted ≤ slots.opened.length) :
    slots.tick wanted = slots.closeTo wanted := by
  unfold tick
  rw [openTo, if_neg (not_lt.mpr h)]

theorem closeTo_popLast (h : wanted < slots.opened.length) :
    slots.popLast.closeTo wanted = slots.closeTo wanted := by
  rw [closeTo.eq_1 wanted slots, if_pos h]
  rfl

theorem closeTo_of_le (h : slots.opened.length ≤ wanted) : slots.closeTo wanted = slots := by
  rw [closeTo, if_neg (not_lt.mpr h)]

/-- A number that was given is below the next one. -/
theorem Numbered.lt {slots : StageSlots} (h : slots.Numbered) {id : ℕ} (hid : id ∈ slots.workers) :
    id < slots.nextId := List.mem_range.mp (h.mem_iff.mp hid)

theorem Numbered.nodup {slots : StageSlots} (h : slots.Numbered) : slots.workers.Nodup :=
  h.nodup_iff.mpr List.nodup_range

end StageSlots

/-- What the loop keeps agrees with what the trace shows. -/
structure FollowsStages (slots : StageSlots) (past : List StagedEvent) : Prop where
  started : started past = List.range slots.nextId
  cancelled : cancelled past = slots.closed
  running : running past = slots.opened
  numbered : slots.Numbered
  joined : joined past = []
  merged : merged past = []

namespace FollowsStages

variable {slots : StageSlots} {past : List StagedEvent}

theorem init : FollowsStages {} [] := ⟨rfl, rfl, rfl, List.Perm.refl _, rfl, rfl⟩

/-- An event that says nothing about the workers. -/
theorem quiet (h : FollowsStages slots past) {event : StagedEvent}
    (hstarted : startedOf event = none) (hcancelled : cancelledOf event = none)
    (hjoined : joinedOf event = none) (hmerged : mergedOf event = none) :
    FollowsStages slots (past ++ [event]) := by
  have hs : StagedTrace.started (past ++ [event]) = StagedTrace.started past := by
    unfold StagedTrace.started
    rw [filterMap_snoc, hstarted]
    exact List.append_nil _
  have hc : StagedTrace.cancelled (past ++ [event]) = StagedTrace.cancelled past := by
    unfold StagedTrace.cancelled
    rw [filterMap_snoc, hcancelled]
    exact List.append_nil _
  refine ⟨hs.trans h.started, hc.trans h.cancelled, ?_, h.numbered, ?_, ?_⟩
  · unfold StagedTrace.running
    rw [hs, hc]
    exact h.running
  · unfold StagedTrace.joined
    rw [filterMap_snoc, hjoined]
    exact (List.append_nil _).trans h.joined
  · unfold StagedTrace.merged
    rw [filterMap_snoc, hmerged]
    exact (List.append_nil _).trans h.merged

theorem spawned (h : FollowsStages slots past) :
    FollowsStages slots.pushNext (past ++ [⟨.spawn slots.nextId, ()⟩]) := by
  have hstarted : StagedTrace.started (past ++ [⟨.spawn slots.nextId, ()⟩])
      = List.range (slots.nextId + 1) := by
    unfold StagedTrace.started
    rw [filterMap_snoc, List.range_succ]
    exact congrArg (· ++ [slots.nextId]) h.started
  have hcancelled : StagedTrace.cancelled (past ++ [⟨.spawn slots.nextId, ()⟩]) = slots.closed := by
    unfold StagedTrace.cancelled
    rw [filterMap_snoc]
    exact (List.append_nil _).trans h.cancelled
  -- the number was never given, so no worker of that number was cancelled
  have hnew : slots.nextId ∉ slots.closed := fun hmem =>
    absurd (h.numbered.lt (List.mem_append_left _ hmem)) (lt_irrefl _)
  refine ⟨hstarted, hcancelled, ?_, h.numbered.pushNext, ?_, ?_⟩
  · have hrunning := h.running
    unfold StagedTrace.running at hrunning ⊢
    rw [h.started, h.cancelled] at hrunning
    rw [hstarted, hcancelled, List.range_succ, List.filter_append, hrunning]
    show slots.opened ++ [slots.nextId].filter _ = slots.opened ++ [slots.nextId]
    rw [List.filter_cons_of_pos (by simpa using hnew), List.filter_nil]
  · unfold StagedTrace.joined
    rw [filterMap_snoc]
    exact (List.append_nil _).trans h.joined
  · unfold StagedTrace.merged
    rw [filterMap_snoc]
    exact (List.append_nil _).trans h.merged

theorem closed (h : FollowsStages slots past) {id : ℕ} (hid : slots.opened.getLast? = some id) :
    FollowsStages slots.popLast (past ++ [⟨.cancel id, ()⟩]) := by
  -- the worker that is closed is the last of those that run
  have hsplit : slots.opened = slots.opened.dropLast ++ [id] :=
    (List.dropLast_append_getLast? id hid).symm
  have hstarted : StagedTrace.started (past ++ [⟨.cancel id, ()⟩]) = List.range slots.nextId := by
    unfold StagedTrace.started
    rw [filterMap_snoc]
    exact (List.append_nil _).trans h.started
  have hcancelled : StagedTrace.cancelled (past ++ [⟨.cancel id, ()⟩]) = slots.closed ++ [id] := by
    unfold StagedTrace.cancelled
    rw [filterMap_snoc]
    exact congrArg (· ++ [id]) h.cancelled
  have hpop : slots.popLast.closed = slots.closed ++ [id] := by
    show slots.closed ++ slots.opened.getLast?.toList = _
    rw [hid]
    rfl
  refine ⟨hstarted, hcancelled.trans hpop.symm, ?_, h.numbered.popLast, ?_, ?_⟩
  · -- the worker that was cancelled is the last of those that ran
    have hrunning := h.running
    have hnodup : slots.opened.Nodup := (List.nodup_append.mp h.numbered.nodup).2.1
    rw [hsplit] at hnodup
    have hlast : id ∉ slots.opened.dropLast := fun hmem =>
      (List.nodup_append.mp hnodup).2.2 id hmem id List.mem_cons_self rfl
    unfold StagedTrace.running at hrunning ⊢
    rw [h.started, h.cancelled] at hrunning
    rw [hstarted, hcancelled]
    show _ = slots.opened.dropLast
    have hboth : (List.range slots.nextId).filter (fun n => n ∉ slots.closed ++ [id])
        = ((List.range slots.nextId).filter fun n => n ∉ slots.closed).filter fun n => n ≠ id := by
      rw [List.filter_filter]
      refine List.filter_congr fun n _ => ?_
      simp [and_comm]
    rw [hboth, hrunning, hsplit, List.filter_append, List.dropLast_concat]
    have hkept : slots.opened.dropLast.filter (fun n => n ≠ id) = slots.opened.dropLast :=
      List.filter_eq_self.mpr fun n hn => decide_eq_true fun heq => hlast (heq ▸ hn)
    rw [hkept]
    simp
  · unfold StagedTrace.joined
    rw [filterMap_snoc]
    exact (List.append_nil _).trans h.joined
  · unfold StagedTrace.merged
    rw [filterMap_snoc]
    exact (List.append_nil _).trans h.merged

end FollowsStages

/-! ## The turns of the loop

Between two ticks, on the way up and on the way down. -/

section Loop

variable (config : LoadTestConfig)

/-- A program of a staged run, read as a history in which every event is
fine. -/
abbrev Staged {R : Type} (pre : List StagedEvent → Prop) (p : StagedProc R)
    (post : R → List StagedEvent → Prop) : Prop :=
  Triple (Proc.Monitor.history (StagedFine config)) pre p post

/-- The slots that the ticks so far make. -/
def slotsAfter (past : List StagedEvent) : StageSlots :=
  ((ticks past).map config.stageTarget).foldl StageSlots.tick {}

/-- Between two ticks: the open slots are those the last tick asked for. -/
structure BetweenTicks (slots : StageSlots) (past : List StagedEvent) : Prop where
  follows : FollowsStages slots past
  ticked : slots = slotsAfter config past
  target : ∀ time ∈ (ticks past).getLast?, slots.opened.length = config.stageTarget time

/-- While workers are started. -/
structure RampingUp (wanted : ℕ) (slots : StageSlots) (past : List StagedEvent) : Prop where
  follows : FollowsStages slots past
  ticked : slots.tick wanted = slotsAfter config past
  target : ∃ time ∈ (ticks past).getLast?, wanted = config.stageTarget time

/-- While workers are closed. -/
structure RampingDown (wanted : ℕ) (slots : StageSlots) (past : List StagedEvent) : Prop where
  follows : FollowsStages slots past
  ticked : slots.closeTo wanted = slotsAfter config past
  target : ∃ time ∈ (ticks past).getLast?, wanted = config.stageTarget time
  enough : wanted ≤ slots.opened.length

variable {config}

/-- An event that reads no time leaves the ticks as they are. -/
theorem ticks_snoc {event : StagedEvent} (h : elapsedOf event = none) (past : List StagedEvent) :
    ticks (past ++ [event]) = ticks past := by
  unfold ticks
  rw [filterMap_snoc, h]
  exact List.append_nil _

theorem slotsAfter_snoc {event : StagedEvent} (h : elapsedOf event = none)
    (past : List StagedEvent) : slotsAfter config (past ++ [event]) = slotsAfter config past := by
  unfold slotsAfter
  rw [ticks_snoc h]

theorem staged_openWorkers (wanted : ℕ) (slots : StageSlots) :
    Staged config (RampingUp config wanted slots) (StagedRun.openWorkers wanted slots)
      (RampingDown config wanted) := by
  refine Triple.loop (RampingUp config wanted) fun slots => ?_
  refine Triple.ite (fun hlt => ?_) fun hge => ?_
  · have hspawn : Staged config (RampingUp config wanted slots) (AskStaged.spawn slots.nextId)
        fun _ => RampingUp config wanted slots.pushNext := by
      refine Triple.ask_history fun past _ h => ⟨⟨?_, ?_⟩, h.follows.spawned, ?_, ?_⟩
      · rw [h.follows.started, List.length_range]
      · obtain ⟨time, htime, hwanted⟩ := h.target
        refine ⟨time, htime, ?_⟩
        rw [h.follows.running, ← hwanted]
        exact hlt
      · rw [StageSlots.tick_pushNext hlt, slotsAfter_snoc rfl]
        exact h.ticked
      · rw [ticks_snoc rfl]
        exact h.target
    exact Triple.bind hspawn fun _ => Triple.pure fun _ h => h
  · refine Triple.pure fun past h => ⟨h.follows, ?_, h.target, not_lt.mp hge⟩
    rw [← StageSlots.tick_of_le (not_lt.mp hge)]
    exact h.ticked

theorem staged_closeWorkers (wanted : ℕ) (slots : StageSlots) :
    Staged config (RampingDown config wanted slots) (StagedRun.closeWorkers wanted slots)
      (BetweenTicks config) := by
  refine Triple.loop (RampingDown config wanted) fun slots => ?_
  refine Triple.ite (fun hgt => ?_) fun hle => ?_
  · cases hlast : slots.opened.getLast? with
    | none =>
      rw [List.getLast?_eq_none_iff.mp hlast] at hgt
      exact absurd hgt (Nat.not_lt_zero _)
    | some id =>
      have hcancel : Staged config (RampingDown config wanted slots) (AskStaged.cancel id)
          fun _ => RampingDown config wanted slots.popLast := by
        refine Triple.ask_history fun past _ h => ⟨⟨?_, ?_⟩, h.follows.closed hlast, ?_, ?_, ?_⟩
        · rw [h.follows.running]
          exact hlast
        · obtain ⟨time, htime, hwanted⟩ := h.target
          refine ⟨time, htime, ?_⟩
          rw [h.follows.running, ← hwanted]
          exact hgt
        · rw [StageSlots.closeTo_popLast hgt, slotsAfter_snoc rfl]
          exact h.ticked
        · rw [ticks_snoc rfl]
          exact h.target
        · show wanted ≤ slots.opened.dropLast.length
          rw [List.length_dropLast]
          omega
      exact Triple.bind hcancel fun _ => Triple.pure fun _ h => h
  · refine Triple.pure fun past h => ⟨h.follows, ?_, fun time htime => ?_⟩
    · rw [← h.ticked, StageSlots.closeTo_of_le (not_lt.mp hle)]
    · -- the loop is over: exactly as many are left as the last tick asked for
      obtain ⟨last, hmem, hwanted⟩ := h.target
      obtain rfl : time = last := Option.mem_unique htime hmem
      rw [← hwanted]
      exact le_antisymm (not_lt.mp hle) h.enough

theorem staged_stageRound (slots : StageSlots) :
    Staged config (BetweenTicks config slots) (StagedRun.stageRound config slots)
      (Sum.elim (BetweenTicks config) (BetweenTicks config)) := by
  have htick : Staged config (BetweenTicks config slots) AskStaged.tick
      fun _ => BetweenTicks config slots := by
    refine Triple.ask_history fun past _ h => ⟨?_, h.follows.quiet rfl rfl rfl rfl, ?_, ?_⟩
    · intro time htime
      rw [h.follows.running]
      exact h.target time htime
    · rw [slotsAfter_snoc rfl]
      exact h.ticked
    · rw [ticks_snoc rfl]
      exact h.target
  have helapsed : Staged config (BetweenTicks config slots) AskStaged.elapsed
      fun time => RampingUp config (config.stageTarget time) slots := by
    refine Triple.ask_history fun past time h =>
      ⟨trivial, h.follows.quiet rfl rfl rfl rfl, ?_, time, ?_, rfl⟩
    · unfold slotsAfter ticks
      rw [filterMap_snoc, List.map_append, List.foldl_append]
      exact congrArg (·.tick (config.stageTarget time)) h.ticked
    · unfold ticks
      rw [filterMap_snoc]
      exact List.getLast?_concat
  refine Triple.bind htick fun ticked => Triple.ite (fun _ => ?_) fun _ => Triple.pure fun _ h => h
  refine Triple.bind helapsed fun time => ?_
  refine Triple.bind (staged_openWorkers _ slots) fun opened => ?_
  exact Triple.bind (staged_closeWorkers _ opened) fun closed => Triple.pure fun _ h => h

end Loop

/-! ## Collecting the workers -/

/-- While the workers are collected: those of `handles` before `rest` are, and
their metrics, `pending` aside, are in the totals. -/
structure Collecting (base : MetricsTotals) (handles rest : List ℕ)
    (pending : Option WorkerMetrics) (totals : MetricsTotals) (past : List StagedEvent) : Prop where
  started : started past = List.range handles.length
  perm : handles.Perm (List.range handles.length)
  joined : (StagedTrace.joined past).map Prod.fst ++ rest = handles
  merged : (StagedTrace.merged past).map Prod.fst ++ pending.toList
    = (StagedTrace.joined past).filterMap Prod.snd
  totals : totals = mergedTotals base (StagedTrace.merged past)

namespace Collecting

variable {base totals : MetricsTotals} {handles rest : List ℕ} {past : List StagedEvent}

/-- The workers that the stages return are all of them. -/
theorem of_follows {slots : StageSlots} (h : FollowsStages slots past) :
    Collecting base slots.workers slots.workers none base past := by
  have hlength : slots.workers.length = slots.nextId := by
    rw [h.numbered.length_eq, List.length_range]
  refine ⟨?_, ?_, ?_, ?_, ?_⟩
  · rw [hlength, h.started]
  · rw [hlength]
    exact h.numbered
  · rw [h.joined]
    rfl
  · rw [h.merged, h.joined]
    rfl
  · rw [h.merged]
    rfl

theorem joining {id : ℕ} (h : Collecting base handles (id :: rest) none totals past)
    (metrics : Option WorkerMetrics) :
    Collecting base handles rest metrics totals (past ++ [⟨.join id, metrics⟩]) := by
  have hstarted : StagedTrace.started (past ++ [⟨.join id, metrics⟩])
      = StagedTrace.started past := by
    unfold StagedTrace.started
    rw [filterMap_snoc]
    exact List.append_nil _
  have hjoined : StagedTrace.joined (past ++ [⟨.join id, metrics⟩])
      = StagedTrace.joined past ++ [(id, metrics)] := filterMap_snoc _ _ _
  have hmerged : StagedTrace.merged (past ++ [⟨.join id, metrics⟩]) = StagedTrace.merged past := by
    unfold StagedTrace.merged
    rw [filterMap_snoc]
    exact List.append_nil _
  refine ⟨hstarted.trans h.started, h.perm, ?_, ?_, ?_⟩
  · rw [hjoined, List.map_append, List.append_assoc]
    exact h.joined
  · have hbefore := h.merged
    rw [Option.toList_none, List.append_nil] at hbefore
    rw [hmerged, hjoined, hbefore, filterMap_snoc]
  · rw [hmerged]
    exact h.totals

theorem merging {metrics : WorkerMetrics}
    (h : Collecting base handles rest (some metrics) totals past) (heap : Heap) :
    Collecting base handles rest none
      (totals.addWorker heap.recorders (metrics.flushInterval heap).1)
      (past ++ [⟨.flush metrics, heap⟩]) := by
  have hstarted : StagedTrace.started (past ++ [⟨.flush metrics, heap⟩])
      = StagedTrace.started past := by
    unfold StagedTrace.started
    rw [filterMap_snoc]
    exact List.append_nil _
  have hjoined : StagedTrace.joined (past ++ [⟨.flush metrics, heap⟩])
      = StagedTrace.joined past := by
    unfold StagedTrace.joined
    rw [filterMap_snoc]
    exact List.append_nil _
  have hmerged : StagedTrace.merged (past ++ [⟨.flush metrics, heap⟩])
      = StagedTrace.merged past ++ [(metrics, heap)] := filterMap_snoc _ _ _
  refine ⟨hstarted.trans h.started, h.perm, ?_, ?_, ?_⟩
  · rw [hjoined]
    exact h.joined
  · rw [hmerged, hjoined, List.map_append, Option.toList_none, List.append_nil]
    exact h.merged
  · unfold mergedTotals
    rw [hmerged, List.foldl_append, h.totals]
    rfl

/-- The worker to collect next was started and is not collected yet. -/
theorem next_mem {id : ℕ} (h : Collecting base handles (id :: rest) none totals past) :
    id ∈ StagedTrace.started past ∧ id ∉ (StagedTrace.joined past).map Prod.fst := by
  have hmem : id ∈ handles := h.joined ▸ List.mem_append_right _ List.mem_cons_self
  have hnodup : handles.Nodup := h.perm.nodup_iff.mpr List.nodup_range
  rw [← h.joined] at hnodup
  refine ⟨?_, fun hjoined => ?_⟩
  · rw [h.started]
    exact h.perm.mem_iff.mp hmem
  · exact (List.nodup_append.mp hnodup).2.2 id hjoined id List.mem_cons_self rfl

end Collecting

theorem staged_mergeWorkers {config : LoadTestConfig} {base : MetricsTotals} {handles : List ℕ}
    (rest : List ℕ) (totals : MetricsTotals) :
    Staged config (Collecting base handles rest none totals)
      (StagedRun.mergeWorkers totals rest)
      fun totals => Collecting base handles [] none totals := by
  induction rest generalizing totals with
  | nil => exact Triple.pure fun _ h => h
  | cons id rest ih =>
    have hjoin : Staged config (Collecting base handles (id :: rest) none totals)
        (AskStaged.join id) fun metrics => Collecting base handles rest metrics totals :=
      Triple.ask_history fun past metrics h => ⟨h.next_mem, h.joining metrics⟩
    refine Triple.bind hjoin fun metrics => ?_
    cases metrics with
    | none => exact ih totals
    | some metrics =>
      have hflush : Staged config (Collecting base handles rest (some metrics) totals)
          (AskStaged.flush metrics) fun heap => Collecting base handles rest none
            (totals.addWorker heap.recorders (metrics.flushInterval heap).1) :=
        Triple.ask_history fun past heap h => ⟨trivial, h.merging heap⟩
      exact Triple.bind hflush fun heap => ih _

/-- What a staged run that has ended gives: every worker it started was
collected once, and the totals are those of the workers that did not panic. -/
structure CollectsAll (base : MetricsTotals) (outcome : StagedOutcome) (trace : List StagedEvent) :
    Prop where
  attempted : outcome.attempted = (started trace).length
  notStarted : outcome.notStarted = 0
  joined : ((StagedTrace.joined trace).map Prod.fst).Perm (started trace)
  merged : (StagedTrace.merged trace).map Prod.fst
    = (StagedTrace.joined trace).filterMap Prod.snd
  totals : outcome.totals = mergedTotals base (StagedTrace.merged trace)

theorem staged_driveStages (config : LoadTestConfig) (base : MetricsTotals) :
    Staged config (BetweenTicks config {}) (StagedRun.driveStages config base)
      (CollectsAll base) := by
  have hstages : Staged config (BetweenTicks config {}) (StagedRun.runStages config)
      fun handles => Collecting base handles handles none base :=
    Triple.bind (Triple.loop (BetweenTicks config) fun slots => staged_stageRound slots)
      fun slots => Triple.pure fun past h => Collecting.of_follows h.follows
  refine Triple.bind hstages fun handles => ?_
  refine Triple.bind (staged_mergeWorkers handles base) fun totals => Triple.pure fun past h => ?_
  have hjoined := h.joined
  rw [List.append_nil] at hjoined
  have hmerged := h.merged
  rw [Option.toList_none, List.append_nil] at hmerged
  refine ⟨?_, rfl, ?_, hmerged, h.totals⟩
  · rw [h.started, List.length_range]
  · rw [hjoined, h.started]
    exact h.perm

theorem betweenTicks_init (config : LoadTestConfig) : BetweenTicks config {} [] :=
  ⟨FollowsStages.init, rfl, fun _ h => absurd h (Option.not_mem_none _)⟩

/-- Workers that are started with the next number are numbered from 0. -/
theorem started_eq_range {config : LoadTestConfig} {trace : List StagedEvent}
    (hfine : ∀ before event after, trace = before ++ event :: after →
      StagedFine config before event) :
    started trace = List.range (started trace).length := by
  induction trace using List.reverseRecOn with
  | nil => rfl
  | append_singleton trace event ih =>
    obtain ⟨hfirst, hevent⟩ := Proc.Monitor.fine_of_snoc hfine
    have hbefore := ih hfirst
    have hsnoc : started (trace ++ [event]) = started trace ++ (startedOf event).toList :=
      filterMap_snoc _ _ _
    rw [hsnoc]
    cases hid : startedOf event with
    | none =>
      rw [Option.toList_none, List.append_nil]
      exact hbefore
    | some id =>
      -- only a spawn starts a worker, and it takes the next number
      have hnext : id = (started trace).length := by
        obtain ⟨eff, answer⟩ := event
        cases eff with
        | spawn id' =>
          obtain rfl := Option.some.inj hid
          exact hevent.1
        | _ => exact absurd hid nofun
      rw [Option.toList_some, List.length_append, List.length_singleton, List.range_succ,
        ← hbefore, hnext]

/-- The agents of a run have ticked at `time`: each is about to wait for its
next tick, and the last one came then. -/
def TickedAt (config : LoadTestConfig) (time : Duration) (share : WireConfig)
    (trace : List StagedEvent) : Prop :=
  (∃ base ticked, Proc.Runs (StagedRun.driveStages (share.withStages config) base)
    (trace ++ [⟨.tick, ticked⟩]) none)
  ∧ (ticks trace).getLast? = some time

theorem length_running {config : LoadTestConfig} {time : Duration} {share : WireConfig}
    {trace : List StagedEvent} (h : TickedAt config time share trace) :
    (running trace).length = (share.withStages config).stageTarget time := by
  obtain ⟨⟨base, ticked, hrun⟩, htime⟩ := h
  exact Proc.Monitor.history_sound (staged_driveStages _ base) (betweenTicks_init _) hrun rfl
    time htime

theorem map_length_running {config : LoadTestConfig} {time : Duration} {shares : List WireConfig}
    {traces : List (List StagedEvent)} (h : List.Forall₂ (TickedAt config time) shares traces) :
    traces.map (fun trace => (running trace).length)
      = shares.map fun share => (share.withStages config).stageTarget time := by
  induction h with
  | nil => rfl
  | cons hhead _ ih => rw [List.map_cons, List.map_cons, length_running hhead, ih]

/-- **A staged run follows its profile.** Every event of a run is fine after
those before it: after each tick as many workers are left as the profile asks
for, the last ones started are closed first, and new ones are numbered on.
Every worker that was started is returned and merged once, and the agents of a
distributed run together have open what the undivided profile asks for. -/
theorem staged_run_follows_profile :
    (∀ (config : LoadTestConfig) (base : MetricsTotals) (trace : List StagedEvent)
      (result : Option StagedOutcome),
      Proc.Runs (StagedRun.driveStages config base) trace result →
      (∀ before event after, trace = before ++ event :: after → StagedFine config before event)
      ∧ started trace = List.range (started trace).length
      ∧ ∀ outcome ∈ result, CollectsAll base outcome trace)
    ∧ ∀ (config : LoadTestConfig) (agents : ℕ) (shares : List WireConfig) (time : Duration)
      (traces : List (List StagedEvent)),
      config.stages ≠ [] → plan config agents = .ok shares →
      List.Forall₂ (TickedAt config time) shares traces →
      (traces.map fun trace => (running trace).length).sum
        = Stage.targetAt config.stages time := by
  refine ⟨fun config base trace result hrun => ?_,
    fun config agents shares time traces hstages hplan hticked => ?_⟩
  · have hfine : ∀ before event after, trace = before ++ event :: after →
        StagedFine config before event := fun before event after heq =>
      Proc.Monitor.history_sound (staged_driveStages config base) (betweenTicks_init config)
        hrun heq
    exact ⟨hfine, started_eq_range hfine, Proc.Monitor.history_result
      (staged_driveStages config base) (betweenTicks_init config) hrun⟩
  · obtain ⟨hok, -⟩ := plan_eq_ok hplan
    rw [map_length_running hticked, plan_stageTarget hplan hstages]
    exact EvenSplit.sum_parts _ hok.agents_pos

/-- A profile that rises to four connections and falls to none. -/
def rampConfig : LoadTestConfig :=
  { LoadTestConfig.defaults "ws://localhost" with
    stages := [⟨Duration.ofSecs 2, 4⟩, ⟨Duration.ofSecs 10, 0⟩] }

/-- A tick one second after the start, later ones after eleven seconds, and
workers that all panic. -/
def rampAnswers (asked : ℕ) : (question : StagedEff) → question.Answer
  | .tick => decide (asked < 10)
  | .elapsed => if asked < 3 then Duration.ofSecs 1 else Duration.ofSecs 11
  | .spawn _ => ()
  | .cancel _ => ()
  | .join _ => none
  | .flush _ => Heap.fresh

/-- Two workers are started and closed in the opposite order. -/
theorem staged_run_follows_profile_ramp :
    let trace := (Proc.run rampAnswers 60 0 (StagedRun.driveStages rampConfig .new)).1
    started trace = [0, 1] ∧ cancelled trace = [1, 0]
      ∧ started trace = List.range (started trace).length :=
  ⟨by decide +kernel, by decide +kernel,
    (staged_run_follows_profile.1 rampConfig .new _ _ (Proc.runs_run rampAnswers 60 0 _)).2.1⟩

end WsBlast
