import WsBlast.FleetRuns
import WsBlast.WireTotals

/-!
# The error rate needs no clamp

An error that ends a sent message adds no second attempted operation, so the
error rate stays at most 1 as long as every sent message is ended by at most
one error. That is what a sound ledger says of a worker's trace
(`Ledger.unended_of_matched`), and `Ledger.Tracks` says the same of its counters.

The inequalities between the counters are closed under addition, so they
carry over to whatever totals are built from workers: over a run, over the
phases of a scenario and over agents whose totals went over the wire
(`Collected`).

The rate is a quotient of errors and attempted operations. An error that ends a
sent message is one of the operations already, the send; any other error is an
operation of its own that failed. So the denominator is messages and errors
minus the errors that ended a message, and the quotient is at most 1 if and only
if these are no more than the messages.
-/

namespace WsBlast

/-! ## Every error ends one message

A statement about traces, without the ledger in it: whenever an error is
recorded that ends a message, the last message before it was sent under the same
action, and no other error stands between them. -/

namespace Ledger

/-- The action a worker is sending for after some events. -/
def actionAfter (events : List Event) : Option ℕ := ((monitor none).after {} events).action

/-- An event that sends a message, or records an error that ends one. -/
def SendsOrEnds (event : Event) : Prop :=
  (∃ bytes, event.1 = .record (.messageSent bytes))
    ∨ ∃ err, event.1 = .record (.error err .sentMessage)

/-- Some events of which the last message was sent under `action` and nothing
has ended it since. -/
def Unended (action : Option ℕ) (events : List Event) : Prop :=
  ∃ before bytes after, events = before ++ ⟨.record (.messageSent bytes), ()⟩ :: after
    ∧ (∀ event ∈ after, ¬SendsOrEnds event) ∧ actionAfter before = action

/-- A record sends a message, ends one, or leaves the one in flight alone. -/
theorem inFlight_record (s : Ledger) (r : Record) :
    (∃ bytes, r = .messageSent bytes ∧ (s.record r).inFlight = some s.action)
      ∨ (s.record r).inFlight = none
      ∨ ¬SendsOrEnds ⟨.record r, ()⟩ ∧ (s.record r).inFlight = s.inFlight := by
  cases r with
  | messageSent bytes => exact .inl ⟨bytes, rfl, rfl⟩
  | error err scope =>
    cases scope with
    | sentMessage => exact .inr (.inl rfl)
    | attempt =>
      refine .inr (.inr ⟨?_, rfl⟩)
      rintro (⟨_, h⟩ | ⟨_, h⟩)
      · cases h
      · cases h
  | _ =>
    refine .inr (.inr ⟨?_, rfl⟩)
    rintro (⟨_, h⟩ | ⟨_, h⟩)
    · cases h
    · cases h

/-- The same for all events. -/
theorem inFlight_step (s : Ledger) (event : Event) :
    (∃ bytes, event = ⟨.record (.messageSent bytes), ()⟩
        ∧ (s.step none event).inFlight = some s.action)
      ∨ (s.step none event).inFlight = none
      ∨ ¬SendsOrEnds event ∧ (s.step none event).inFlight = s.inFlight := by
  by_cases hrecord : ∃ r, event.1 = .record r
  · obtain ⟨e, answer⟩ := event
    obtain ⟨r, rfl⟩ := hrecord
    obtain ⟨bytes, rfl, hflight⟩ | hnone | hsame := s.inFlight_record r
    · exact .inl ⟨bytes, rfl, hflight⟩
    · exact .inr (.inl hnone)
    · exact .inr (.inr hsame)
  · refine .inr (.inr ⟨?_, ?_⟩)
    · rintro (⟨bytes, h⟩ | ⟨err, h⟩)
      · exact hrecord ⟨_, h⟩
      · exact hrecord ⟨_, h⟩
    · by_cases hclaim : ∃ max, event.1 = .claimRequest max
      · obtain ⟨e, answer⟩ := event
        obtain ⟨max, rfl⟩ := hclaim
        cases answer with
        | false => rfl
        | true => rfl
      · obtain hsame | ⟨place, ending, hobserve⟩ := s.step_of_quiet none event
          (fun r h => hrecord ⟨r, h⟩) fun max h => hclaim ⟨max, h⟩
        · rw [hsame]
        · rw [hobserve]
          rfl

/-- **The message in flight is the last one sent**, and nothing has ended it
since. -/
theorem unended_of_inFlight {events : List Event} {action : Option ℕ}
    (h : ((monitor none).after {} events).inFlight = some action) : Unended action events := by
  induction events using List.reverseRecOn with
  | nil => cases h
  | append_singleton events event ih =>
    rw [Proc.Monitor.after_append] at h
    obtain ⟨bytes, rfl, hsent⟩ | hnone | ⟨hquiet, hsame⟩ :=
      ((monitor none).after {} events).inFlight_step event
    · have haction : ((monitor none).after {} events).action = action :=
        Option.some.inj (hsent.symm.trans h)
      exact ⟨events, bytes, [], rfl, fun e he => absurd he List.not_mem_nil, haction⟩
    · exact absurd (hnone.symm.trans h) nofun
    · obtain ⟨before, bytes, after, rfl, hafter, haction⟩ := ih (hsame.symm.trans h)
      refine ⟨before, bytes, after ++ [event], ?_, ?_, haction⟩
      · rw [List.append_assoc, List.cons_append]
      · intro e he
        rw [List.mem_append, List.mem_singleton] at he
        obtain he | rfl := he
        · exact hafter e he
        · exact hquiet

/-- An error without a message stays on record. -/
theorem unmatched_step {s : Ledger} (event : Event) (h : s.unmatched = true) :
    (s.step none event).unmatched = true := by
  obtain ⟨e, answer⟩ := event
  cases e with
  | record r =>
    cases r with
    | error err scope =>
      cases scope with
      | attempt => exact h
      | sentMessage =>
        show (s.unmatched || _) = true
        rw [h, Bool.true_or]
    | _ => exact h
  | claimRequest max =>
    cases answer with
    | false => exact h
    | true => exact h
  | _ =>
    obtain hsame | ⟨place, ending, hobserve⟩ :=
      s.step_of_quiet none ⟨_, answer⟩ (fun _ => nofun) fun _ => nofun
    · rw [hsame]
      exact h
    · rw [hobserve]
      exact h

theorem unmatched_after {s : Ledger} (events : List Event) (h : s.unmatched = true) :
    ((monitor none).after s events).unmatched = true := by
  induction events generalizing s with
  | nil => exact h
  | cons event rest ih => exact ih (unmatched_step event h)

/-- **Every error that ends a message ends the last one sent**, which was sent
under the same action and which no other error has ended. -/
theorem unended_of_matched {before rest : List Event} {err : ErrorCategory}
    (h : ((monitor none).after {}
      (before ++ ⟨.record (.error err .sentMessage), ()⟩ :: rest)).unmatched = false) :
    Unended (actionAfter before) before := by
  refine unended_of_inFlight (@flying_of_matched _ err ?_)
  by_contra hunmatched
  rw [Proc.Monitor.after_append] at h
  have hstays := unmatched_after rest (Bool.eq_true_of_not_eq_false hunmatched)
  exact Bool.noConfusion (hstays.symm.trans h)

end Ledger

/-! ## Sums of counters

The inequalities cut out a submonoid: they hold of zero and are kept by
addition. -/

/-- Counts whose `SentMessage` errors are within the messages sent and within
the errors; closed under addition. -/
def ActionCounts.within : AddSubmonoid ActionCounts where
  carrier := {counts | counts.sentMessageErrors ≤ counts.sent
    ∧ counts.sentMessageErrors ≤ counts.errors}
  zero_mem' := ⟨le_rfl, le_rfl⟩
  add_mem' := fun ha hb => ⟨Nat.add_le_add ha.1 hb.1, Nat.add_le_add ha.2 hb.2⟩

namespace MetricsTotals

namespace Tally

/-- The messages sent. -/
def messagesSent (t : Tally) : ℕ := t.2.2.2.1.1

/-- The errors that ended a message. -/
def sentMessageErrors (t : Tally) : ℕ := t.2.2.2.1.2.2.2.2.2.2.1

/-- All errors. -/
def errors (t : Tally) : ℕ := ∑ category, TallyMap.value (t.2.2.2.2.1 category)

/-- The counts of an action. -/
def action (t : Tally) (name : String) : ActionCounts :=
  (TallyMap.value (t.2.2.2.2.2.2 name)).counts

theorem errors_add (t u : Tally) : (t + u).errors = t.errors + u.errors := by
  show ∑ category, TallyMap.value (t.2.2.2.2.1 category + u.2.2.2.2.1 category) = _
  simp only [TallyMap.value_add, Finset.sum_add_distrib]
  rfl

theorem action_add (t u : Tally) (name : String) :
    (t + u).action name = t.action name + u.action name := by
  show (TallyMap.value (t.2.2.2.2.2.2 name + u.2.2.2.2.2.2 name)).counts = _
  rw [TallyMap.value_add]
  rfl

/-- Sums whose `SentMessage` errors are within the messages sent and within
the errors, over all and for every action; closed under addition. -/
def within : AddSubmonoid Tally where
  carrier := {t | t.sentMessageErrors ≤ t.messagesSent ∧ t.sentMessageErrors ≤ t.errors
    ∧ ∀ name, t.action name ∈ ActionCounts.within}
  zero_mem' := ⟨le_rfl, Nat.zero_le _, fun _ => ActionCounts.within.zero_mem⟩
  add_mem' := by
    intro t u ht hu
    refine ⟨Nat.add_le_add ht.1 hu.1, ?_, fun name => ?_⟩
    · rw [errors_add]
      exact Nat.add_le_add ht.2.1 hu.2.1
    · rw [action_add]
      exact ActionCounts.within.add_mem (ht.2.2 name) (hu.2.2 name)

end Tally

/-- The totals of one action are within, when its counts are. -/
theorem actionTally_mem_within {totals : ActionTotals} (name : String)
    (h : totals.counts ∈ ActionCounts.within) : actionTally name totals ∈ Tally.within := by
  refine ⟨le_rfl, Nat.zero_le _, fun name' => ?_⟩
  show (TallyMap.value ((Pi.single name (totals : WithZero ActionTotals)
    : String → WithZero ActionTotals) name')).counts ∈ _
  by_cases hname : name' = name
  · rw [hname, Pi.single_eq_same]
    exact h
  · rw [Pi.single_eq_of_ne hname]
    exact ActionCounts.within.zero_mem

theorem actionsTally_mem_within (names : List String) {amount : ℕ → ActionTotals}
    (h : ∀ index, (amount index).counts ∈ ActionCounts.within) :
    actionsTally names amount ∈ Tally.within := by
  refine Tally.within.list_sum_mem fun t ht => ?_
  obtain ⟨item, -, rfl⟩ := List.mem_map.mp ht
  exact actionTally_mem_within item.1 (h item.2)

/-- A recorder has no counts. -/
theorem recorderTally_mem_within (r : LatencyRecorder) : recorderTally r ∈ Tally.within := by
  refine Tally.within.add_mem ⟨le_rfl, Nat.zero_le _, fun _ => ActionCounts.within.zero_mem⟩
    (actionsTally_mem_within _ fun index => ?_)
  have hcounts : (recordedAction r index).counts = 0 := by
    unfold recordedAction
    cases r.actions[index]? with
    | none => rfl
    | some action => rfl
  rw [hcounts]
  exact ActionCounts.within.zero_mem

/-- All errors of a map, as a sum over the categories. -/
theorem sum_value_lookup (errors : TallyMap ErrorCategory ℕ) :
    ∑ category, TallyMap.value (errors.lookup category) = errors.total := by
  rw [TallyMap.total_eq_finsum, finsum_eq_sum_of_fintype]

/-- A worker whose ledger tracks its counters. -/
theorem workerTally_mem_within {s : Ledger} {w : WorkerMetrics} (h : s.Tracks w)
    (names : List String) : workerTally names w ∈ Tally.within := by
  refine Tally.within.add_mem (actionsTally_mem_within _ fun index => ?_) ⟨?_, ?_, ?_⟩
  · exact ⟨le_of_add_le_left (h.actionMessages index), h.actionWithin index⟩
  · exact le_of_add_le_left h.messages
  · refine h.within.trans (Nat.le_of_eq ?_)
    exact (sum_value_lookup w.errors).symm
  · exact fun _ => ActionCounts.within.zero_mem

/-- Totals whose `SentMessage` errors are within the messages sent and within
the errors. -/
structure Within (totals : MetricsTotals) : Prop where
  sent : totals.sentMessageErrors ≤ totals.messagesSent
  errors : totals.sentMessageErrors ≤ totals.errors.total
  actions : ∀ entry ∈ totals.actions.toList, entry.2.counts ∈ ActionCounts.within

theorem Within.of_tally {totals : MetricsTotals} (h : totals.tally ∈ Tally.within) :
    totals.Within where
  sent := h.1
  errors := h.2.1.trans (Nat.le_of_eq (sum_value_lookup totals.errors))
  actions := by
    intro entry hentry
    have hlookup : totals.actions.lookup entry.1 = (entry.2 : WithZero ActionTotals) :=
      Std.ExtTreeMap.mem_toList_iff_getElem?_eq_some.mp hentry
    have haction := h.2.2 entry.1
    show entry.2.counts ∈ _
    unfold Tally.action at haction
    rw [show totals.tally.2.2.2.2.2.2 = totals.actions.lookup from rfl, hlookup] at haction
    exact haction

end MetricsTotals

/-! ## Totals of workers, phases and agents

`Collected` lists the ways in which the program builds totals. -/

/-- Totals built from workers at any moment of any run: their counters and
recorders are added, totals are added to totals, and totals go over the
wire. -/
inductive Collected : MetricsTotals → Prop where
  | new : Collected .new
  | worker {ι : Type} [DecidableEq ι] [Fintype ι] (run : FleetRun ι) (i : ι)
      (recorders : RecorderId → LatencyRecorder) {totals : MetricsTotals} (h : Collected totals) :
      Collected (totals.addWorkerCounts recorders (run.now.workers i))
  | recorder (recorders : RecorderId → LatencyRecorder) (id : RecorderId) {totals : MetricsTotals}
      (h : Collected totals) : Collected (totals.addRecorder recorders id)
  | add {totals other : MetricsTotals} (h : Collected totals) (hother : Collected other) :
      Collected (totals.add other)
  | wire {totals decoded : MetricsTotals} (h : Collected totals)
      (hdecoded : (WireTotals.ofTotals totals).intoTotals = .ok decoded) : Collected decoded

/-- A worker added with its recorder. -/
theorem Collected.addWorker {ι : Type} [DecidableEq ι] [Fintype ι] (run : FleetRun ι) (i : ι)
    (recorders : RecorderId → LatencyRecorder) {totals : MetricsTotals} (h : Collected totals) :
    Collected (totals.addWorker recorders (run.now.workers i)) :=
  (h.recorder recorders _).worker run i recorders

/-- **All such totals are within.** -/
theorem Collected.within {totals : MetricsTotals} (h : Collected totals) : totals.Within := by
  refine .of_tally ?_
  induction h with
  | new => exact MetricsTotals.Tally.within.zero_mem
  | worker run i recorders h ih =>
    rw [MetricsTotals.tally_addWorkerCounts]
    have htracks := (run.books none nofun).1.tracks i
    exact MetricsTotals.Tally.within.add_mem ih (MetricsTotals.workerTally_mem_within htracks _)
  | recorder recorders id h ih =>
    rw [MetricsTotals.tally_addRecorder]
    refine MetricsTotals.Tally.within.add_mem ih ?_
    split_ifs
    · exact MetricsTotals.Tally.within.zero_mem
    · exact MetricsTotals.recorderTally_mem_within _
  | add h hother ih ihother =>
    rw [MetricsTotals.tally_add]
    exact MetricsTotals.Tally.within.add_mem ih ihother
  | @wire totals decoded h hdecoded ih =>
    rw [WireTotals.intoTotals_ofTotals] at hdecoded
    cases hdecoded
    exact ih

/-- **The error rate needs no clamp.** At every moment of every run, each
worker's `SentMessage` errors are within its messages sent, over all of them
and for every action, since each of these errors ends the last message sent,
which was sent under the same action and not ended before. In all totals
built from workers the errors are then within the attempted operations, and
the error rates are the plain quotients. -/
theorem error_rate_needs_no_clamp :
    (∀ (ι : Type) [DecidableEq ι] [Fintype ι] (run : FleetRun ι) (i : ι),
      (run.now.workers i).sentMessageErrors ≤ (run.now.workers i).messagesSent
        ∧ (∀ action, ((run.now.workers i).actionCounts action).sentMessageErrors
            ≤ ((run.now.workers i).actionCounts action).sent)
        ∧ ∀ before err rest, Proc.ofProcess i run.trace
            = before ++ ⟨.record (.error err .sentMessage), ()⟩ :: rest →
          Ledger.Unended (Ledger.actionAfter before) before)
    ∧ ∀ totals, Collected totals →
      totals.sentMessageErrors ≤ totals.errors.total
        ∧ totals.errors.total ≤ totals.attemptedOps
        ∧ (∀ elapsed attempted, (totals.finish elapsed attempted).errorRate
            = (totals.errors.total : ℚ) / totals.attemptedOps)
        ∧ ∀ entry ∈ totals.actions.toList,
          entry.2.counts.sentMessageErrors ≤ entry.2.counts.errors
            ∧ entry.2.counts.errors ≤ attemptedOps entry.2.counts.sent entry.2.counts.errors
                entry.2.counts.sentMessageErrors
            ∧ (ActionMetrics.of entry.1 entry.2).errorRate
              = (entry.2.counts.errors : ℚ) / attemptedOps entry.2.counts.sent
                  entry.2.counts.errors entry.2.counts.sentMessageErrors := by
  refine ⟨fun ι _ _ run i => ?_, fun totals h => ?_⟩
  · obtain ⟨hbooks, hledgers⟩ := run.books none nofun
    refine ⟨le_of_add_le_left (hbooks.tracks i).messages,
      fun action => le_of_add_le_left ((hbooks.tracks i).actionMessages action), ?_⟩
    intro before err rest htrace
    have hmatched := (hledgers i).1.matched
    unfold FleetRun.ledger Proc.System.monitors at hmatched
    rw [htrace] at hmatched
    exact Ledger.unended_of_matched hmatched
  · have hwithin := h.within
    have hall : totals.errors.total ≤ totals.attemptedOps := errors_le_attemptedOps hwithin.sent
    refine ⟨hwithin.errors, hall, fun _ _ => errorRate_eq_div hall, fun entry hentry => ?_⟩
    obtain ⟨hsent, herrors⟩ := hwithin.actions entry hentry
    exact ⟨herrors, errors_le_attemptedOps hsent, errorRate_eq_div (errors_le_attemptedOps hsent)⟩

/-- An echo worker whose server never replies. -/
def mutedEcho : Worker := plainWorker
  { LoadTestConfig.defaults "ws://localhost:9000/" with
    payload := .staticText "hello"
    noReconnect := true }

/-- Its run, from the handshake to the end after the timeout. -/
def mutedRun : FleetRun Unit :=
  .execute mutedEcho .fresh (calm fun _ _ => .timedOut) 60 (by decide +kernel)

/-- The totals of that run: one message was sent, and its timeout is the only
error. The rate is 1 without the clamp. -/
theorem error_rate_mutedRun :
    mutedRun.result () = some ()
      ∧ (MetricsTotals.new.addWorker Heap.fresh.recorders (mutedRun.now.workers ())).attemptedOps = 1
      ∧ ∀ elapsed attempted,
        ((MetricsTotals.new.addWorker Heap.fresh.recorders (mutedRun.now.workers ())).finish
            elapsed attempted).errorRate
          = ((MetricsTotals.new.addWorker Heap.fresh.recorders
              (mutedRun.now.workers ())).errors.total : ℚ)
            / (MetricsTotals.new.addWorker Heap.fresh.recorders
              (mutedRun.now.workers ())).attemptedOps := by
  refine ⟨by decide +kernel, by decide +kernel, ?_⟩
  exact (error_rate_needs_no_clamp.2 _ (Collected.new.addWorker mutedRun () _)).2.2.1

end WsBlast
