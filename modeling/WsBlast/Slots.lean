import WsBlast.FleetRuns
import WsBlast.WireTotals

/-!
# Connection slots are accounted for

What became of a worker's connection slot is not stored: the report infers
the established slots from the length of the handshake histogram and the
reconnects, the interrupted ones from a flag, and calls the rest failed. Here
the fate of a slot is read off the worker's own trace and counters, and shown
to be what every run adds up to.

* `Established`, `Interrupted`, `Failed` – the fates; a worker that has ended
  has exactly one (`FleetRun.fate`).
* `SlotRun` – a run that has ended, with the slots it was configured to open
  and the totals the runner collects from it.
* `Merged` – totals of any number of runs, added up in any grouping and sent
  over the wire in between.

The report has four numbers for the slots of a run and stores only two of them.
The handshake histogram has one sample for every handshake, so its length minus
the reconnects is the number of slots that connected; that is right only if
every reconnect follows a first handshake on the same slot.
-/

namespace WsBlast

/-! ## Fates

The three fates are defined on the trace and the flag, without the ledger. -/

/-- The handshakes that an event completes. -/
def completedBy : Event → ℕ
  | ⟨.record r, _⟩ => r.completed
  | _ => 0

/-- The failed attempts that an event records. -/
def connectionErrorBy : Event → ℕ
  | ⟨.record (.connectionFailed _), _⟩ => 1
  | _ => 0

/-- The handshakes recorded in some events, first ones and reconnects. -/
def handshakesIn (events : List Event) : ℕ := (events.map completedBy).sum

/-- The connection errors recorded in some events. -/
def connectionErrorsIn (events : List Event) : ℕ := (events.map connectionErrorBy).sum

/-- At least one handshake was recorded. -/
def Established (events : List Event) : Prop := 0 < handshakesIn events

/-- The flag is set, and neither a handshake nor an error was recorded. -/
def Interrupted (w : WorkerMetrics) (events : List Event) : Prop :=
  w.interrupted = true ∧ handshakesIn events = 0 ∧ w.errors.total = 0

/-- No handshake was recorded, and at least one connection error was. -/
def Failed (events : List Event) : Prop :=
  handshakesIn events = 0 ∧ 0 < connectionErrorsIn events

instance (events : List Event) : Decidable (Established events) :=
  inferInstanceAs (Decidable (_ < _))

instance (w : WorkerMetrics) (events : List Event) : Decidable (Interrupted w events) :=
  inferInstanceAs (Decidable (_ ∧ _ ∧ _))

instance (events : List Event) : Decidable (Failed events) := inferInstanceAs (Decidable (_ ∧ _))

namespace Ledger

/-- A record counts handshakes and failures as the events do. -/
theorem failures_record (s : Ledger) (r : Record) :
    (s.record r).slot.failures = s.slot.failures + connectionErrorBy ⟨.record r, ()⟩ := by
  cases r with
  | error err scope =>
    cases scope with
    | attempt => rfl
    | sentMessage => rfl
  | _ => rfl

/-- The slot of a ledger counts the handshakes and failures of the events. -/
theorem slot_step (cap : Option ℕ) (s : Ledger) (event : Event) :
    (s.step cap event).slot.completed = s.slot.completed + completedBy event
      ∧ (s.step cap event).slot.failures = s.slot.failures + connectionErrorBy event := by
  obtain ⟨e, answer⟩ := event
  cases e with
  | record r => exact ⟨s.completed_record r, s.failures_record r⟩
  | claimRequest max =>
    cases answer with
    | false => exact ⟨rfl, rfl⟩
    | true =>
      show (if cap = some max then _ else s).slot.completed = _
        ∧ (if cap = some max then _ else s).slot.failures = _
      split_ifs
      · exact ⟨rfl, rfl⟩
      · exact ⟨rfl, rfl⟩
  | _ =>
    obtain hsame | ⟨place, ending, hobserve⟩ :=
      s.step_of_quiet cap ⟨_, answer⟩ (fun _ => nofun) fun _ => nofun
    · rw [hsame]
      exact ⟨rfl, rfl⟩
    · rw [hobserve]
      exact ⟨rfl, rfl⟩

theorem slot_after (cap : Option ℕ) (s : Ledger) (events : List Event) :
    ((monitor cap).after s events).slot.completed = s.slot.completed + handshakesIn events
      ∧ ((monitor cap).after s events).slot.failures
        = s.slot.failures + connectionErrorsIn events := by
  induction events generalizing s with
  | nil => exact ⟨rfl, rfl⟩
  | cons event rest ih =>
    obtain ⟨hcompleted, hfailures⟩ := s.slot_step cap event
    obtain ⟨ihcompleted, ihfailures⟩ := ih (s.step cap event)
    unfold handshakesIn connectionErrorsIn
    rw [List.map_cons, List.sum_cons, List.map_cons, List.sum_cons, ← Nat.add_assoc,
      ← Nat.add_assoc, ← hcompleted, ← hfailures]
    exact ⟨ihcompleted, ihfailures⟩

end Ledger

namespace FleetRun

variable {ι : Type} [DecidableEq ι] [Fintype ι]

/-- The events of a worker. -/
def eventsOf (run : FleetRun ι) (i : ι) : List Event := Proc.ofProcess i run.trace

/-- The fates of a worker, as an exclusive choice, with what each says about
the counters. -/
inductive FateOf (w : WorkerMetrics) (events : List Event) : Prop where
  | established (h : handshakesIn events = 1 + w.reconnects) (hflag : w.interrupted = false)
  | interrupted (h : Interrupted w events) (hreconnects : w.reconnects = 0)
      (herrors : connectionErrorsIn events = 0)
  | failed (h : Failed events) (hreconnects : w.reconnects = 0) (hflag : w.interrupted = false)

/-- **A worker that has ended has a fate.** -/
theorem fate (run : FleetRun ι) (i : ι) (hended : run.result i = some ()) :
    FateOf (run.now.workers i) (run.eventsOf i) := by
  obtain ⟨hbooks, hledgers⟩ := run.books none nofun
  have htracks := hbooks.tracks i
  have houtcome := ((hledgers i).2 () hended).outcome
  obtain ⟨hcompleted, hfailures⟩ := Ledger.slot_after none {} (run.eventsOf i)
  have hhandshakes : handshakesIn (run.eventsOf i)
      = (run.ledger none i).slot.handshakes + (run.ledger none i).slot.reconnects :=
    (Nat.zero_add _).symm.trans hcompleted.symm
  have herrors : connectionErrorsIn (run.eventsOf i) = (run.ledger none i).slot.failures :=
    (Nat.zero_add _).symm.trans hfailures.symm
  cases houtcome with
  | established h h' =>
    refine .established ?_ (htracks.interrupted.trans h')
    rw [hhandshakes, h, htracks.reconnects]
  | interrupted h hr h' he hf =>
    refine .interrupted ⟨htracks.interrupted.trans h', ?_, htracks.errors.trans he⟩
      (htracks.reconnects.trans hr) (herrors.trans hf)
    rw [hhandshakes, h, hr]
  | failed h hr h' hf =>
    refine .failed ⟨?_, ?_⟩ (htracks.reconnects.trans hr) (htracks.interrupted.trans h')
    · rw [hhandshakes, h, hr]
    · rw [herrors]
      exact hf

end FleetRun

namespace FleetRun.FateOf

variable {w : WorkerMetrics} {events : List Event}

/-- The fates exclude each other. -/
theorem exactly_one (h : FateOf w events) :
    (Established events ∧ ¬Interrupted w events ∧ ¬Failed events)
      ∨ (¬Established events ∧ Interrupted w events ∧ ¬Failed events)
      ∨ (¬Established events ∧ ¬Interrupted w events ∧ Failed events) := by
  cases h with
  | established h hflag =>
    have hsome : handshakesIn events ≠ 0 := by
      rw [h]
      exact (Nat.add_pos_left Nat.one_pos _).ne'
    exact .inl ⟨Nat.pos_of_ne_zero hsome, fun hint => hsome hint.2.1, fun hfail => hsome hfail.1⟩
  | interrupted h hreconnects herrors =>
    exact .inr (.inl ⟨fun hest => hest.ne' h.2.1, h, fun hfail => hfail.2.ne' herrors⟩)
  | failed h hreconnects hflag =>
    refine .inr (.inr ⟨fun hest => hest.ne' h.1, fun hint => ?_, h⟩)
    exact Bool.false_ne_true (hflag.symm.trans hint.1)

/-- The handshakes of a worker. -/
theorem handshakes_eq (h : FateOf w events) :
    handshakesIn events = (if Established events then 1 else 0) + w.reconnects := by
  cases h with
  | established h hflag =>
    have hest : Established events := by
      show 0 < handshakesIn events
      rw [h]
      exact Nat.add_pos_left Nat.one_pos _
    rw [h, if_pos hest]
  | interrupted h hreconnects herrors =>
    rw [h.2.1, if_neg fun hest => hest.ne' h.2.1, hreconnects]
  | failed h hreconnects hflag => rw [h.1, if_neg fun hest => hest.ne' h.1, hreconnects]

/-- The flag says that the slot was interrupted. -/
theorem toNat_interrupted (h : FateOf w events) :
    w.interrupted.toNat = if Interrupted w events then 1 else 0 := by
  cases h with
  | established h hflag =>
    rw [if_neg fun hint => Bool.false_ne_true (hflag.symm.trans hint.1), hflag]
    rfl
  | interrupted h hreconnects herrors =>
    rw [if_pos h, h.1]
    rfl
  | failed h hreconnects hflag =>
    rw [if_neg fun hint => Bool.false_ne_true (hflag.symm.trans hint.1), hflag]
    rfl

/-- A worker counts once among the fates. -/
theorem count_eq_one (h : FateOf w events) :
    (if Established events then 1 else 0) + (if Failed events then 1 else 0)
      + (if Interrupted w events then 1 else 0) = 1 := by
  obtain ⟨he, hi, hf⟩ | ⟨he, hi, hf⟩ | ⟨he, hi, hf⟩ := h.exactly_one
  · rw [if_pos he, if_neg hf, if_neg hi]
  · rw [if_neg he, if_neg hf, if_pos hi]
  · rw [if_neg he, if_pos hf, if_neg hi]

end FleetRun.FateOf

/-! ## Runs that have ended

A run that has ended is a fleet run in which every worker has a result, together
with what the runner knows of it: how many slots it was to open, by which load
model, and the order in which workers are collected. -/

/-- How a run decides which slots it opens. -/
inductive LoadModel where
  /-- A constant number of connections, of which the ramp may not have
  reached all. -/
  | constant
  /-- Stages, which count the slots they open. -/
  | staged
  /-- Arrivals, which count the sessions they start. -/
  | arrivals
  deriving DecidableEq, Repr

/-- A run that has ended: its workers share one new recorder, all of them have
ended, and they are collected in some order. -/
structure SlotRun where
  ι : Type
  [decEq : DecidableEq ι]
  [fintype : Fintype ι]
  run : FleetRun ι
  ended : ∀ i, run.result i = some ()
  latency : RecorderId
  shared : ∀ i, (run.start.workers i).latency = latency
  unused : run.start.heap.handshakesIn latency = 0
  order : List ι
  nodup : order.Nodup
  complete : ∀ i, i ∈ order
  model : LoadModel
  /-- The connections of the configuration. -/
  configured : ℕ
  reached : model = .constant → Fintype.card ι ≤ configured

namespace SlotRun

variable (r : SlotRun)

instance : DecidableEq r.ι := r.decEq
instance : Fintype r.ι := r.fintype

/-- The slots the run was to open (`RunOutcome::connections`). -/
def connections : ℕ :=
  match r.model with
  | .constant => r.configured
  | .staged => r.order.length
  | .arrivals => r.order.length

/-- The slots the ramp had not reached. -/
def notStarted : ℕ :=
  match r.model with
  | .constant => r.configured - r.order.length
  | .staged => 0
  | .arrivals => 0

/-- The metrics of the workers, in the order they are collected. -/
def collected : List WorkerMetrics := r.order.map fun i => r.run.now.workers i

/-- The totals of the run: workers with their recorder, or sessions one by one
and the recorder once all of them have stopped. -/
def totals : MetricsTotals :=
  match r.model with
  | .constant => MetricsTotals.new.addWorkers r.run.now.heap.recorders r.collected
  | .staged => MetricsTotals.new.addWorkers r.run.now.heap.recorders r.collected
  | .arrivals =>
    (r.collected.foldl (MetricsTotals.addWorkerCounts r.run.now.heap.recorders)
      MetricsTotals.new).addRecorder r.run.now.heap.recorders r.latency

/-- The established slots. -/
def established : ℕ := (Finset.univ.filter fun i => Established (r.run.eventsOf i)).card

/-- The interrupted slots. -/
def interrupted : ℕ :=
  (Finset.univ.filter fun i => Interrupted (r.run.now.workers i) (r.run.eventsOf i)).card

/-- The failed slots. -/
def failed : ℕ := (Finset.univ.filter fun i => Failed (r.run.eventsOf i)).card

/-- The reconnects of all workers. -/
def reconnects : ℕ := ∑ i, (r.run.now.workers i).reconnects

/-- The handshakes recorded by all workers. -/
def handshakes : ℕ := ∑ i, handshakesIn (r.run.eventsOf i)

/-- **Handshakes are those of the established slots and the reconnects.** -/
theorem handshakes_eq : r.handshakes = r.established + r.reconnects := by
  unfold handshakes established reconnects
  rw [Finset.card_filter, ← Finset.sum_add_distrib]
  exact Finset.sum_congr rfl fun i _ => (r.run.fate i (r.ended i)).handshakes_eq

/-- The flags are those of the interrupted slots. -/
theorem sum_toNat_interrupted :
    ∑ i, (r.run.now.workers i).interrupted.toNat = r.interrupted := by
  unfold interrupted
  rw [Finset.card_filter]
  exact Finset.sum_congr rfl fun i _ => (r.run.fate i (r.ended i)).toNat_interrupted

/-- Every slot that was started has a fate. -/
theorem card_eq : Fintype.card r.ι = r.established + r.failed + r.interrupted := by
  unfold established failed interrupted
  rw [Finset.card_filter, Finset.card_filter, Finset.card_filter, ← Finset.sum_add_distrib,
    ← Finset.sum_add_distrib, Fintype.card_eq_sum_ones]
  exact Finset.sum_congr rfl fun i _ => (r.run.fate i (r.ended i)).count_eq_one.symm

/-- A sum over the workers, in the order they are collected. -/
theorem sum_collected {M : Type} [AddCommMonoid M] (f : WorkerMetrics → M) :
    (r.collected.map f).sum = ∑ i, f (r.run.now.workers i) := by
  unfold collected
  rw [List.map_map, ← List.sum_toFinset _ r.nodup]
  refine Finset.sum_congr ?_ fun _ _ => rfl
  ext i
  simp [r.complete i]

theorem length_order : r.order.length = Fintype.card r.ι := by
  have hones := r.sum_collected fun _ => 1
  rw [List.map_const', List.sum_replicate, smul_eq_mul, Nat.mul_one] at hones
  unfold collected at hones
  rw [List.length_map] at hones
  rw [hones, Fintype.card_eq_sum_ones]

/-- **Every slot is accounted for.** -/
theorem connections_eq :
    r.connections = r.established + r.failed + r.interrupted + r.notStarted := by
  unfold connections notStarted
  rw [← card_eq, r.length_order]
  cases hmodel : r.model with
  | constant => exact (Nat.add_sub_cancel' (r.reached hmodel)).symm
  | staged => rfl
  | arrivals => rfl

/-- The recorder has the handshakes of all workers. -/
theorem handshakesIn_latency : r.run.now.heap.handshakesIn r.latency = r.handshakes := by
  have hbooks := (r.run.books none nofun).1
  rw [hbooks.handshakes, r.unused, Nat.zero_add]
  refine Finset.sum_congr rfl fun i _ => ?_
  rw [if_pos ((r.run.latency_now i).trans (r.shared i))]
  exact (Ledger.slot_after none {} (r.run.eventsOf i)).1.trans (Nat.zero_add _)

end SlotRun

/-! ## Totals of runs

What the report needs of a sum is three numbers, and taking them is a
homomorphism; so totals of several runs have the sums of the runs' numbers,
through addition and through the wire. -/

namespace MetricsTotals

/-- What the report infers the slots from: the handshakes, the reconnects and
the interrupted workers of a sum. -/
def slotCounts : Tally →+ ℕ × ℕ × ℕ where
  toFun t := (t.1.total, t.2.2.2.1.2.2.2.2.1, t.2.2.2.1.2.2.2.2.2.2.2)
  map_zero' := by
    rw [show (0 : Tally).1.total = 0 from Hdr.Hist.total_zero]
    rfl
  map_add' := by
    intro t u
    simp only [Prod.fst_add, Prod.snd_add, Hdr.Hist.total_add, Prod.mk_add_mk]

theorem slotCounts_tally (totals : MetricsTotals) :
    slotCounts totals.tally = (totals.handshake.total, totals.reconnects, totals.interrupted) := rfl

theorem slotCounts_actionsTally (names : List String) (amount : ℕ → ActionTotals) :
    slotCounts (actionsTally names amount) = 0 := by
  unfold actionsTally
  rw [map_list_sum, List.map_map]
  refine List.sum_eq_zero fun counts hcounts => ?_
  obtain ⟨item, -, rfl⟩ := List.mem_map.mp hcounts
  show ((0 : Histogram).total, 0, 0) = 0
  rw [Hdr.Hist.total_zero]
  rfl

theorem slotCounts_workerTally (names : List String) (w : WorkerMetrics) :
    slotCounts (workerTally names w) = (0, w.reconnects, w.interrupted.toNat) := by
  unfold workerTally
  rw [map_add, slotCounts_actionsTally, zero_add]
  show ((0 : Histogram).total, _, _) = _
  rw [Hdr.Hist.total_zero]

theorem slotCounts_recorderTally (recorder : LatencyRecorder) :
    slotCounts (recorderTally recorder) = (recorder.handshake.counts.total, 0, 0) := by
  unfold recorderTally
  rw [map_add, slotCounts_actionsTally, add_zero]
  rfl

/-- The workers of a list, without their recorders. -/
theorem tally_foldl_addWorkerCounts (recorders : RecorderId → LatencyRecorder)
    (workers : List WorkerMetrics) (totals : MetricsTotals) :
    (workers.foldl (addWorkerCounts recorders) totals).tally
      = totals.tally
        + (workers.map fun w => workerTally (recorders w.latency).actionNames w).sum := by
  induction workers generalizing totals with
  | nil => exact (add_zero _).symm
  | cons w rest ih =>
    rw [List.foldl_cons, ih, tally_addWorkerCounts, List.map_cons, List.sum_cons, add_assoc]

theorem absorbed_foldl_addWorkerCounts (recorders : RecorderId → LatencyRecorder)
    (workers : List WorkerMetrics) (totals : MetricsTotals) :
    (workers.foldl (addWorkerCounts recorders) totals).absorbed = totals.absorbed := by
  induction workers generalizing totals with
  | nil => rfl
  | cons w rest ih => rw [List.foldl_cons, ih, absorbed_addWorkerCounts]

end MetricsTotals

namespace SlotRun

variable (r : SlotRun)

/-- The reconnects and interrupted workers of a run. -/
theorem slotCounts_collected :
    MetricsTotals.slotCounts (r.collected.map fun w =>
        MetricsTotals.workerTally (r.run.now.heap.recorders w.latency).actionNames w).sum
      = (0, r.reconnects, r.interrupted) := by
  rw [map_list_sum, List.map_map, r.sum_collected]
  simp only [Function.comp_def, MetricsTotals.slotCounts_workerTally]
  rw [← r.sum_toNat_interrupted]
  refine Prod.ext ?_ (Prod.ext ?_ ?_)
  · rw [Prod.fst_sum]
    exact Finset.sum_const_zero
  · rw [Prod.snd_sum, Prod.fst_sum]
    rfl
  · rw [Prod.snd_sum, Prod.snd_sum]

/-- The handshakes of a run are in its recorder. -/
theorem slotCounts_recorder :
    MetricsTotals.slotCounts (MetricsTotals.recorderTally (r.run.now.heap.recorders r.latency))
      = (r.handshakes, 0, 0) := by
  rw [MetricsTotals.slotCounts_recorderTally, ← r.handshakesIn_latency]
  rfl

/-- The recorders of a run: its own, unless no worker was started. -/
theorem toFinset_latency :
    (r.collected.map WorkerMetrics.latency).toFinset = if r.order = [] then ∅ else {r.latency} := by
  have hlatency : r.collected.map WorkerMetrics.latency = r.order.map fun _ => r.latency := by
    unfold collected
    rw [List.map_map]
    exact List.map_congr_left fun i _ => (r.run.latency_now i).trans (r.shared i)
  rw [hlatency]
  cases r.order with
  | nil => rfl
  | cons i rest =>
    ext id
    simp

/-- Workers with their recorder. -/
theorem slotCounts_addWorkers :
    MetricsTotals.slotCounts
        (MetricsTotals.new.addWorkers r.run.now.heap.recorders r.collected).tally
      = (r.handshakes, r.reconnects, r.interrupted) := by
  rw [MetricsTotals.tally_addWorkers, map_add, map_add, r.slotCounts_collected,
    show MetricsTotals.new.tally = 0 from rfl, map_zero, zero_add, map_sum]
  show (0, r.reconnects, r.interrupted) + ∑ id ∈ _ \ ∅, _ = _
  rw [Finset.sdiff_empty, r.toFinset_latency]
  by_cases hnone : r.order = []
  · have hhandshakes : r.handshakes = 0 := by
      refine Finset.sum_eq_zero fun i _ => ?_
      have hi := r.complete i
      rw [hnone] at hi
      cases hi
    rw [if_pos hnone, Finset.sum_empty, add_zero, hhandshakes]
  · rw [if_neg hnone, Finset.sum_singleton, r.slotCounts_recorder, Prod.mk_add_mk, Prod.mk_add_mk,
      Nat.zero_add, Nat.add_zero, Nat.add_zero]

/-- **What the totals of a run say about its slots.** -/
theorem slotCounts_totals :
    MetricsTotals.slotCounts r.totals.tally = (r.handshakes, r.reconnects, r.interrupted) := by
  unfold totals
  cases r.model with
  | constant => exact r.slotCounts_addWorkers
  | staged => exact r.slotCounts_addWorkers
  | arrivals =>
    dsimp only
    rw [MetricsTotals.tally_addRecorder, MetricsTotals.absorbed_foldl_addWorkerCounts,
      MetricsTotals.tally_foldl_addWorkerCounts, map_add, map_add, r.slotCounts_collected,
      show MetricsTotals.new.tally = 0 from rfl, map_zero, zero_add]
    rw [if_neg (by exact List.not_mem_nil), r.slotCounts_recorder, Prod.mk_add_mk, Prod.mk_add_mk,
      Nat.zero_add, Nat.add_zero, Nat.add_zero]

end SlotRun

/-- Totals of some runs: of one run, added to others in any grouping, or sent
over the wire. -/
inductive Merged : List SlotRun → MetricsTotals → Prop where
  | new : Merged [] .new
  | run (r : SlotRun) : Merged [r] r.totals
  | add {runs runs' : List SlotRun} {totals totals' : MetricsTotals} (h : Merged runs totals)
      (h' : Merged runs' totals') : Merged (runs ++ runs') (totals.add totals')
  | wire {runs : List SlotRun} {totals decoded : MetricsTotals} (h : Merged runs totals)
      (hdecoded : (WireTotals.ofTotals totals).intoTotals = .ok decoded) : Merged runs decoded

/-- Merged totals have the counts of all their runs. -/
theorem Merged.slotCounts {runs : List SlotRun} {totals : MetricsTotals} (h : Merged runs totals) :
    MetricsTotals.slotCounts totals.tally
      = (runs.map fun r => (r.handshakes, r.reconnects, r.interrupted)).sum := by
  induction h with
  | new => exact map_zero _
  | run r => rw [r.slotCounts_totals, List.map_singleton, List.sum_singleton]
  | add h h' ih ih' =>
    rw [MetricsTotals.tally_add, map_add, ih, ih', List.map_append, List.sum_append]
  | wire h hdecoded ih =>
    rw [WireTotals.intoTotals_ofTotals] at hdecoded
    cases hdecoded
    exact ih

/-! ## The report

The numbers of the report, for any number of runs, and that its clamps leave
them as they are. -/

/-- A number of all runs together. -/
def sumOver (runs : List SlotRun) (f : SlotRun → ℕ) : ℕ := (runs.map f).sum

theorem sumOver_congr {runs : List SlotRun} {f g : SlotRun → ℕ} (h : ∀ r, f r = g r) :
    sumOver runs f = sumOver runs g := congrArg List.sum (List.map_congr_left fun r _ => h r)

theorem sumOver_add (runs : List SlotRun) (f g : SlotRun → ℕ) :
    sumOver runs (fun r => f r + g r) = sumOver runs f + sumOver runs g := List.sum_map_add

/-- The three counts, one by one. -/
theorem Merged.counts {runs : List SlotRun} {totals : MetricsTotals} (h : Merged runs totals) :
    totals.handshake.total = sumOver runs SlotRun.handshakes
      ∧ totals.reconnects = sumOver runs SlotRun.reconnects
      ∧ totals.interrupted = sumOver runs SlotRun.interrupted := by
  have hsum : ∀ runs : List SlotRun,
      (runs.map fun r => (r.handshakes, r.reconnects, r.interrupted)).sum
        = (sumOver runs SlotRun.handshakes, sumOver runs SlotRun.reconnects,
          sumOver runs SlotRun.interrupted) := by
    intro runs
    induction runs with
    | nil => rfl
    | cons r rest ih =>
      rw [List.map_cons, List.sum_cons, ih]
      rfl
  have hcounts := h.slotCounts
  rw [MetricsTotals.slotCounts_tally, hsum, Prod.mk.injEq, Prod.mk.injEq] at hcounts
  exact hcounts

/-- The report of some runs: attempted and not-started slots are summed. -/
def reportOf (runs : List SlotRun) (totals : MetricsTotals) (elapsed : Duration) :
    AggregatedMetrics :=
  (totals.finish elapsed (sumOver runs SlotRun.connections)).withNotStarted
    (sumOver runs SlotRun.notStarted)

/-- The counts that the clamps of the report leave alone. -/
structure Unclamped (totals : MetricsTotals) (attempted notStarted : ℕ) : Prop where
  reconnects : totals.reconnects ≤ totals.handshake.total
  established : totals.handshake.total - totals.reconnects ≤ attempted
  interrupted : totals.interrupted ≤ attempted - totals.established attempted
  failed : totals.interruptedSlots attempted ≤ attempted - totals.established attempted
  notStarted : ∀ elapsed, notStarted ≤ (totals.finish elapsed attempted).totalConnectionsFailed

/-- Counts that add up need no clamp. -/
theorem unclamped_of_counts {totals : MetricsTotals}
    {attempted established failed notStarted : ℕ}
    (hhandshakes : totals.handshake.total = established + totals.reconnects)
    (hattempted : attempted = established + failed + totals.interrupted + notStarted) :
    Unclamped totals attempted notStarted := by
  have hest := established_of_counts hhandshakes hattempted
  refine ⟨?_, ?_, ?_, ?_, fun elapsed => ?_⟩
  · rw [hhandshakes]
    exact Nat.le_add_left _ _
  · omega
  · rw [hest]
    omega
  · rw [hest, interruptedSlots_of_counts hhandshakes hattempted]
    omega
  · rw [failed_finish_of_counts hhandshakes hattempted]
    exact Nat.le_add_left _ _

/-- **Connection slots are accounted for exactly.** A worker that has ended is
established, interrupted or failed, and only one of them; the handshakes of a
run are those of its established workers and the reconnects; and the report of
any number of runs says exactly what became of their slots. -/
theorem connection_slots_accounted :
    (∀ (ι : Type) [DecidableEq ι] [Fintype ι] (run : FleetRun ι) (i : ι),
      run.result i = some () →
        (Established (run.eventsOf i) ∧ ¬Interrupted (run.now.workers i) (run.eventsOf i)
            ∧ ¬Failed (run.eventsOf i))
          ∨ (¬Established (run.eventsOf i) ∧ Interrupted (run.now.workers i) (run.eventsOf i)
            ∧ ¬Failed (run.eventsOf i))
          ∨ (¬Established (run.eventsOf i) ∧ ¬Interrupted (run.now.workers i) (run.eventsOf i)
            ∧ Failed (run.eventsOf i)))
    ∧ (∀ r : SlotRun, r.handshakes = r.established + r.reconnects)
    ∧ ∀ runs totals, Merged runs totals →
      totals.handshake.total = sumOver runs SlotRun.handshakes
        ∧ Unclamped totals (sumOver runs SlotRun.connections) (sumOver runs SlotRun.notStarted)
        ∧ ∀ elapsed,
          (reportOf runs totals elapsed).totalConnectionsEstablished
              = sumOver runs SlotRun.established
            ∧ (reportOf runs totals elapsed).totalConnectionsInterrupted
              = sumOver runs SlotRun.interrupted
            ∧ (reportOf runs totals elapsed).totalConnectionsFailed = sumOver runs SlotRun.failed
            ∧ (reportOf runs totals elapsed).totalConnectionsNotStarted
              = sumOver runs SlotRun.notStarted
            ∧ (reportOf runs totals elapsed).totalReconnects = sumOver runs SlotRun.reconnects
            ∧ (reportOf runs totals elapsed).totalConnectionsAttempted
              = (reportOf runs totals elapsed).totalConnectionsEstablished
                + (reportOf runs totals elapsed).totalConnectionsFailed
                + (reportOf runs totals elapsed).totalConnectionsInterrupted
                + (reportOf runs totals elapsed).totalConnectionsNotStarted := by
  refine ⟨fun ι _ _ run i hended => (run.fate i hended).exactly_one,
    fun r => r.handshakes_eq, fun runs totals h => ?_⟩
  obtain ⟨hhandshakes, hreconnects, hinterrupted⟩ := h.counts
  have hlength : totals.handshake.total = sumOver runs SlotRun.established + totals.reconnects := by
    rw [hhandshakes, hreconnects, ← sumOver_add]
    exact sumOver_congr SlotRun.handshakes_eq
  -- every slot has exactly one fate, so the sums over the slots add up
  have hattempted : sumOver runs SlotRun.connections = sumOver runs SlotRun.established
      + sumOver runs SlotRun.failed + totals.interrupted + sumOver runs SlotRun.notStarted := by
    rw [hinterrupted, ← sumOver_add, ← sumOver_add, ← sumOver_add]
    exact sumOver_congr SlotRun.connections_eq
  refine ⟨hhandshakes, unclamped_of_counts hlength hattempted, fun elapsed => ?_⟩
  obtain ⟨hest, hint, hfailed, hnot⟩ :=
    finish_withNotStarted_of_counts hlength hattempted elapsed
  refine ⟨hest, hint.trans hinterrupted, hfailed, hnot, hreconnects, ?_⟩
  show sumOver runs SlotRun.connections = _
  unfold reportOf
  rw [hest, hint, hfailed, hnot]
  exact hattempted

/-- An echo worker that does not reconnect. -/
def onceEcho : Worker := plainWorker
  { LoadTestConfig.defaults "ws://localhost:9000/" with
    payload := .staticText "hello"
    noReconnect := true }

/-- A run of three slots that was over when the ramp had opened one, whose
server closed the connection. -/
def closedRun : SlotRun where
  ι := Unit
  run := .execute onceEcho .fresh (calm fun _ _ => .read (some (.ok (.close none)))) 60
    (by decide +kernel)
  ended := by decide +kernel
  latency := 0
  shared := fun _ => rfl
  unused := Heap.handshakesIn_fresh 0
  order := [()]
  nodup := by decide
  complete := by decide
  model := .constant
  configured := 3
  reached := by decide

/-- An arrival run of one session whose connection timed out. -/
def timedOutRun : SlotRun where
  ι := Unit
  run := .execute onceEcho .fresh
    (fun n e => match e with
      | .connect _ => .timedOut
      | e => calm (fun _ _ => .cancelled) n e) 60 (by decide +kernel)
  ended := by decide +kernel
  latency := 0
  shared := fun _ => rfl
  unused := Heap.handshakesIn_fresh 0
  order := [()]
  nodup := by decide
  complete := by decide
  model := .arrivals
  configured := 1
  reached := nofun

/-- Both runs in one report: of four slots, one is established, one failed and
two were not started. -/
theorem connection_slots_two_runs :
    let runs := [closedRun, timedOutRun]
    let report := reportOf runs (closedRun.totals.add timedOutRun.totals) (Duration.ofSecs 1)
    report.totalConnectionsAttempted = 4 ∧ report.totalConnectionsEstablished = 1
      ∧ report.totalConnectionsFailed = 1 ∧ report.totalConnectionsInterrupted = 0
      ∧ report.totalConnectionsNotStarted = 2 := by
  intro runs report
  have hmerged : Merged runs (closedRun.totals.add timedOutRun.totals) :=
    .add (.run closedRun) (.run timedOutRun)
  obtain ⟨hest, hint, hfailed, hnot, -, -⟩ :=
    (connection_slots_accounted.2.2 runs _ hmerged).2.2 (Duration.ofSecs 1)
  refine ⟨?_, hest.trans ?_, hfailed.trans ?_, hint.trans ?_, hnot.trans ?_⟩
  · show sumOver runs SlotRun.connections = 4
    decide +kernel
  · show sumOver [closedRun, timedOutRun] SlotRun.established = 1
    decide +kernel
  · show sumOver [closedRun, timedOutRun] SlotRun.failed = 1
    decide +kernel
  · show sumOver [closedRun, timedOutRun] SlotRun.interrupted = 0
    decide +kernel
  · show sumOver [closedRun, timedOutRun] SlotRun.notStarted = 2
    decide +kernel

end WsBlast
