import WsBlast.ScenarioMerge

/-!
# Several machines report what one would

Both ways of running a scenario add up what was measured in its phases. What
they report of it is determined by the sums behind the totals
(`MetricsTotals.tally`), the elapsed times and the slots, so the two agree as
soon as these do.

`Counter` names the numbers of a report that are counts. Counts of events are
read off the sum behind the totals. The counts of slots are inferred with
clamps, which do nothing on slots that are accounted for; so each count of the
scenario is the sum of the counts of its phases (`IsSum.counter_of`).

A comparison field by field would have a case for every number of the report,
twice. Instead the numbers are named by a type, and the type has two readings
of each: from a report, and from the sum behind the totals. That these agree is
shown once for events and once for slots; from then on a counter is a counter.
-/

namespace WsBlast

open MetricsTotals (Tally)

/-! ## Counters

Faults, slots and events are the three kinds of numbers. -/

/-- A kind of injected fault. -/
inductive Fault where
  | delayed
  | dropped
  | corrupted
  | closes
  | readPauses
  deriving DecidableEq, Repr

namespace Fault

/-- How often a fault was injected. -/
def count (chaos : ChaosSummary) : Fault → ℕ
  | delayed => chaos.delayed
  | dropped => chaos.dropped
  | corrupted => chaos.corrupted
  | closes => chaos.closes
  | readPauses => chaos.readPauses

/-- The same, from the counts alone. -/
def read (counts : ℕ × ℕ × ℕ × ℕ × ℕ) : Fault → ℕ
  | delayed => counts.1
  | dropped => counts.2.1
  | corrupted => counts.2.2.1
  | closes => counts.2.2.2.1
  | readPauses => counts.2.2.2.2

theorem read_counts (fault : Fault) (chaos : ChaosSummary) :
    fault.read chaos.counts = fault.count chaos := by
  cases fault <;> rfl

/-- Faults add up, -/
theorem read_add (fault : Fault) (a b : ℕ × ℕ × ℕ × ℕ × ℕ) :
    fault.read (a + b) = fault.read a + fault.read b := by
  cases fault <;> rfl

theorem read_zero (fault : Fault) : fault.read 0 = 0 := by
  cases fault <;> rfl

end Fault

/-- What became of a connection slot. -/
inductive SlotFate where
  | attempted
  | established
  | failed
  | interrupted
  | notStarted
  deriving DecidableEq, Repr

/-- The slots of a report that had a fate. -/
def SlotFate.of (metrics : AggregatedMetrics) : SlotFate → ℕ
  | attempted => metrics.totalConnectionsAttempted
  | established => metrics.totalConnectionsEstablished
  | failed => metrics.totalConnectionsFailed
  | interrupted => metrics.totalConnectionsInterrupted
  | notStarted => metrics.totalConnectionsNotStarted

/-- The established slots, as a rewrite rule that leaves the report closed. -/
theorem SlotFate.of_established (metrics : AggregatedMetrics) :
    SlotFate.established.of metrics = metrics.totalConnectionsEstablished := by
  cases metrics
  rfl

/-- A kind of event that is counted. -/
inductive EventKind where
  | reconnects
  | unsolicitedFrames
  | messagesSent
  | messagesRecv
  | bytesSent
  | bytesRecv
  | error (category : ErrorCategory)
  | actionSent (name : String)
  | actionErrors (name : String)
  | fault (kind : Fault)

namespace EventKind

/-- The metrics of the action with a name. -/
def action (metrics : AggregatedMetrics) (name : String) : Option ActionMetrics :=
  metrics.actions.find? fun action => action.name = name

/-- How often an event is reported. -/
def of (metrics : AggregatedMetrics) : EventKind → ℕ
  | reconnects => metrics.totalReconnects
  | unsolicitedFrames => metrics.totalUnsolicitedFrames
  | messagesSent => metrics.totalMessagesSent
  | messagesRecv => metrics.totalMessagesRecv
  | bytesSent => metrics.totalBytesSent
  | bytesRecv => metrics.totalBytesRecv
  | error category => (metrics.errorBreakdown[category]?).getD 0
  | actionSent name => ((action metrics name).map ActionMetrics.messagesSent).getD 0
  | actionErrors name => ((action metrics name).map ActionMetrics.errors).getD 0
  | fault kind => (metrics.chaos.map kind.count).getD 0

/-- The same, from the sum behind the totals. -/
def read (tally : Tally) : EventKind → ℕ
  | reconnects => tally.2.2.2.1.2.2.2.2.1
  | unsolicitedFrames => tally.2.2.2.1.2.2.2.2.2.1
  | messagesSent => tally.2.2.2.1.1
  | messagesRecv => tally.2.2.2.1.2.1
  | bytesSent => tally.2.2.2.1.2.2.1
  | bytesRecv => tally.2.2.2.1.2.2.2.1
  | error category => TallyMap.value (tally.2.2.2.2.1 category)
  | actionSent name => (TallyMap.value (tally.2.2.2.2.2.2 name)).counts.sent
  | actionErrors name => (TallyMap.value (tally.2.2.2.2.2.2 name)).counts.errors
  | fault kind => kind.read (TallyMap.value tally.2.2.2.2.2.1)

theorem read_zero (kind : EventKind) : kind.read 0 = 0 := by
  cases kind with
  | fault kind => exact kind.read_zero
  | _ => rfl

/-- Events add up. -/
theorem read_add (kind : EventKind) (a b : Tally) :
    kind.read (a + b) = kind.read a + kind.read b := by
  cases kind with
  | error category => exact TallyMap.value_add _ _
  | actionSent name =>
    exact congrArg (fun totals : ActionTotals => totals.counts.sent) (TallyMap.value_add _ _)
  | actionErrors name =>
    exact congrArg (fun totals : ActionTotals => totals.counts.errors) (TallyMap.value_add _ _)
  | fault kind =>
    show kind.read (TallyMap.value (_ + _)) = _
    rw [TallyMap.value_add, kind.read_add]
    rfl
  | _ => rfl

theorem read_sum (kind : EventKind) (tallies : List Tally) :
    kind.read tallies.sum = (tallies.map kind.read).sum := by
  induction tallies with
  | nil => exact kind.read_zero
  | cons tally rest ih => rw [List.sum_cons, kind.read_add, ih, List.map_cons, List.sum_cons]

end EventKind

/-- The entry of a map with a key is the one `lookup` has. -/
theorem find?_toList {V : Type} [AddCommMonoid V] (m : TallyMap String V) (k : String) :
    ((m.toList.find? fun e => e.1 = k).map Prod.snd).getD 0 = TallyMap.value (m.lookup k) := by
  rw [← m.sum_single_toList, TallyMap.sum_single_apply m.pairwise_keys_ne]
  cases m.toList.find? fun e => e.1 = k with
  | none => rfl
  | some e => rfl

/-- An action of a report is one of the totals. -/
theorem action_report (totals : MetricsTotals) (elapsed : Duration) (attempted notStarted : ℕ)
    (name : String) (f : ActionMetrics → ℕ) (g : ActionTotals → ℕ) (hzero : g 0 = 0)
    (hf : ∀ entry : String × ActionTotals, f (ActionMetrics.of entry.1 entry.2) = g entry.2) :
    ((EventKind.action (totals.report elapsed attempted notStarted).toAggregatedMetrics name).map
        f).getD 0
      = g (TallyMap.value (totals.actions.lookup name)) := by
  rw [← find?_toList]
  show (((totals.actions.toList.map fun entry => ActionMetrics.of entry.1 entry.2).find? _).map
    f).getD 0 = _
  rw [List.find?_map, Option.map_map]
  show Option.getD (Option.map _ (totals.actions.toList.find? fun entry => entry.1 = name)) 0 = _
  cases totals.actions.toList.find? fun entry => entry.1 = name with
  | none => exact hzero.symm
  | some entry => exact hf entry

/-- **A report counts the events of its totals.** -/
theorem EventKind.of_report (kind : EventKind) (totals : MetricsTotals) (elapsed : Duration)
    (attempted notStarted : ℕ) :
    kind.of (totals.report elapsed attempted notStarted).toAggregatedMetrics
      = kind.read totals.tally := by
  cases kind with
  | actionSent name =>
    exact action_report totals _ _ _ name ActionMetrics.messagesSent (fun action =>
      action.counts.sent) rfl fun _ => rfl
  | actionErrors name =>
    exact action_report totals _ _ _ name ActionMetrics.errors (fun action =>
      action.counts.errors) rfl fun _ => rfl
  | fault kind =>
    show (totals.chaos.map kind.count).getD 0
      = kind.read (TallyMap.value (MetricsTotals.chaosTally totals.chaos))
    cases totals.chaos with
    | none => exact kind.read_zero.symm
    | some chaos => exact (kind.read_counts chaos).symm
  | _ => rfl

/-! ## Sums of what was measured

A measurement is totals, an elapsed time and two numbers of slots. -/

/-- A count of a list of measurements. -/
def sumOf {A : Type} (parts : List A) (f : A → ℕ) : ℕ := (parts.map f).sum

@[simp] theorem sumOf_cons {A : Type} (x : A) (parts : List A) (f : A → ℕ) :
    sumOf (x :: parts) f = f x + sumOf parts f := List.sum_cons

theorem sumOf_congr {A : Type} {parts : List A} {f g : A → ℕ} (h : ∀ x ∈ parts, f x = g x) :
    sumOf parts f = sumOf parts g := congrArg List.sum (List.map_congr_left h)

theorem sumOf_add {A : Type} (parts : List A) (f g : A → ℕ) :
    sumOf parts (fun x => f x + g x) = sumOf parts f + sumOf parts g := List.sum_map_add

/-- The handshakes, reconnects and interrupted slots behind a sum. -/
theorem slotCounts_of_tally {totals : MetricsTotals} {parts : List Measured}
    (h : totals.tally = (parts.map fun part => part.totals.tally).sum) :
    totals.handshake.total = sumOf parts (fun part => part.totals.handshake.total)
      ∧ totals.reconnects = sumOf parts (fun part => part.totals.reconnects)
      ∧ totals.interrupted = sumOf parts (fun part => part.totals.interrupted) := by
  have hsum : ∀ parts : List Measured,
      MetricsTotals.slotCounts (parts.map fun part => part.totals.tally).sum
        = (sumOf parts (fun part => part.totals.handshake.total),
          sumOf parts (fun part => part.totals.reconnects),
          sumOf parts (fun part => part.totals.interrupted)) := by
    intro parts
    induction parts with
    | nil => exact map_zero _
    | cons part rest ih =>
      rw [List.map_cons, List.sum_cons, map_add, ih, MetricsTotals.slotCounts_tally,
        Prod.mk_add_mk, Prod.mk_add_mk, sumOf_cons, sumOf_cons, sumOf_cons]
  have hcounts := congrArg MetricsTotals.slotCounts h
  rw [MetricsTotals.slotCounts_tally, hsum, Prod.mk.injEq, Prod.mk.injEq] at hcounts
  exact hcounts

namespace Measured

/-- What is reported of a measurement. -/
def report (m : Measured) : AggregatedMetrics :=
  (m.totals.report m.elapsed m.connections m.notStarted).toAggregatedMetrics

/-- The slots of a measurement are reported as they are. -/
theorem slots (m : Measured) :
    m.totals.handshake.total = m.report.totalConnectionsEstablished + m.totals.reconnects
      ∧ m.connections = m.report.totalConnectionsEstablished + m.report.totalConnectionsFailed
          + m.totals.interrupted + m.notStarted
      ∧ m.report.totalConnectionsInterrupted = m.totals.interrupted
      ∧ m.report.totalConnectionsNotStarted = m.notStarted := by
  obtain ⟨established, failed, hhandshakes, hconnections⟩ := m.accounted
  obtain ⟨hest, hint, hfailed, hnot⟩ :=
    finish_withNotStarted_of_counts hhandshakes hconnections m.elapsed
  have hest' : m.report.totalConnectionsEstablished = established := hest
  have hfailed' : m.report.totalConnectionsFailed = failed := hfailed
  rw [hest', hfailed']
  exact ⟨hhandshakes, hconnections, hint, hnot⟩

end Measured

section Sum

variable {totals : MetricsTotals} {parts : List Measured}
  (h : totals.tally = (parts.map fun part => part.totals.tally).sum)

include h

/-- The handshakes of a sum are those of the established slots of its parts
and the reconnects. -/
theorem handshakes_of_tally :
    totals.handshake.total
      = sumOf parts (fun part => part.report.totalConnectionsEstablished) + totals.reconnects := by
  obtain ⟨hhandshakes, hreconnects, -⟩ := slotCounts_of_tally h
  rw [hhandshakes, hreconnects, ← sumOf_add]
  exact sumOf_congr fun part _ => part.slots.1

/-- The slots of a sum are those of its parts. -/
theorem connections_of_tally :
    sumOf parts Measured.connections
      = sumOf parts (fun part => part.report.totalConnectionsEstablished)
        + sumOf parts (fun part => part.report.totalConnectionsFailed)
        + totals.interrupted + sumOf parts Measured.notStarted := by
  obtain ⟨-, -, hinterrupted⟩ := slotCounts_of_tally h
  rw [hinterrupted, ← sumOf_add, ← sumOf_add, ← sumOf_add]
  exact sumOf_congr fun part _ => part.slots.2.1

/-- **Sums of slots that add up do.** -/
theorem accounted_of_tally :
    Accounted totals (sumOf parts Measured.connections) (sumOf parts Measured.notStarted) :=
  ⟨_, _, handshakes_of_tally h, connections_of_tally h⟩

end Sum

/-- A measurement that is the sum of others. -/
structure IsSum (sum : Measured) (parts : List Measured) : Prop where
  tally : sum.totals.tally = (parts.map fun part => part.totals.tally).sum
  /-- Phases run one after the other. -/
  elapsed : sum.elapsed = sumOf parts Measured.elapsed
  connections : sum.connections = sumOf parts Measured.connections
  notStarted : sum.notStarted = sumOf parts Measured.notStarted

/-- A number of a report that is a count. -/
inductive Counter where
  | slots (fate : SlotFate)
  | events (kind : EventKind)

/-- The count of a report. -/
def Counter.of (metrics : AggregatedMetrics) : Counter → ℕ
  | slots fate => fate.of metrics
  | events kind => kind.of metrics

namespace IsSum

variable {sum : Measured} {parts : List Measured} (h : IsSum sum parts)

include h

/-- The slots of a sum are reported as the sum of the slots of its parts. -/
theorem fate_of (fate : SlotFate) :
    fate.of sum.report = sumOf parts fun part => fate.of part.report := by
  have hconnections : sum.connections
      = sumOf parts (fun part => part.report.totalConnectionsEstablished)
        + sumOf parts (fun part => part.report.totalConnectionsFailed)
        + sum.totals.interrupted + sum.notStarted := by
    rw [h.connections, h.notStarted]
    exact connections_of_tally h.tally
  obtain ⟨hest, hint, hfailed, hnot⟩ :=
    finish_withNotStarted_of_counts (handshakes_of_tally h.tally) hconnections sum.elapsed
  cases fate with
  | attempted => exact h.connections
  | established =>
    simp only [SlotFate.of_established]
    exact hest
  | failed => exact hfailed
  | interrupted =>
    show sum.report.totalConnectionsInterrupted
      = sumOf parts fun part => part.report.totalConnectionsInterrupted
    rw [sumOf_congr fun part _ => part.slots.2.2.1, ← (slotCounts_of_tally h.tally).2.2]
    exact hint
  | notStarted =>
    show sum.report.totalConnectionsNotStarted
      = sumOf parts fun part => part.report.totalConnectionsNotStarted
    rw [sumOf_congr fun part _ => part.slots.2.2.2, ← h.notStarted]
    exact hnot

/-- The events of a sum are those of its parts. -/
theorem kind_of (kind : EventKind) :
    kind.of sum.report = sumOf parts fun part => kind.of part.report := by
  have hread : ∀ m : Measured, kind.of m.report = kind.read m.totals.tally :=
    fun m => kind.of_report m.totals _ _ _
  rw [hread, h.tally, kind.read_sum, List.map_map]
  exact sumOf_congr fun part _ => (hread part).symm

/-- **Every count of a sum is the sum of the counts of its parts.** -/
theorem counter_of (counter : Counter) :
    counter.of sum.report = sumOf parts fun part => counter.of part.report := by
  cases counter with
  | slots fate => exact h.fate_of fate
  | events kind => exact h.kind_of kind

end IsSum

/-- Totals that report the same, but for the seed, report the same with the
faults of the one in place of the other's. -/
theorem SameTotals.report_eq {a b : MetricsTotals} (h : SameTotals a b) (elapsed : Duration)
    (attempted notStarted : ℕ) :
    { (a.report elapsed attempted notStarted).toAggregatedMetrics with chaos := b.chaos }
      = (b.report elapsed attempted notStarted).toAggregatedMetrics := by
  cases a
  cases b
  obtain ⟨rfl, rfl, rfl, rfl, rfl, rfl, rfl, rfl, rfl, rfl, rfl, rfl, -, rfl⟩ := h
  simp only [MetricsTotals.report, MetricsTotals.finish, AggregatedMetrics.withNotStarted,
    MetricsTotals.established, MetricsTotals.interruptedSlots, MetricsTotals.attemptedOps]

/-- Faults with the same counts and the same seed are the same. -/
theorem chaos_ext {a b : Option ChaosSummary}
    (hcounts : a.map ChaosSummary.counts = b.map ChaosSummary.counts)
    (hseed : a.map ChaosSummary.seed = b.map ChaosSummary.seed) : a = b := by
  cases a with
  | none =>
    cases b with
    | none => rfl
    | some b => exact nomatch hcounts
  | some a =>
    cases b with
    | none => exact nomatch hcounts
    | some b =>
      cases a
      cases b
      simp only [Option.map_some, Option.some.injEq, ChaosSummary.counts, Prod.mk.injEq] at hcounts
      simp only [Option.map_some, Option.some.injEq] at hseed
      obtain ⟨rfl, rfl, rfl, rfl, rfl⟩ := hcounts
      rw [hseed]

end WsBlast
