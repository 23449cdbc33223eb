import WsBlast.Lib.Interleave
import WsBlast.Summary
import WsBlast.WorkerLedger

/-!
# Workers side by side

The workers of a run, of a scenario or of several phases at once are programs
that run in any interleaving on one heap (`Fleet`): a record changes the
worker's metrics and the heap, a claim takes its number from the shared
counter, and everything else the environment decides.

What a worker's metrics say is tied to its ledger by `Tracks`, which every
event keeps as long as the ledger is sound. That is how the ledger, which the
session loops are known to keep, speaks about the program's own counters.

The heap holds what is not a worker's own: the live counters, the recorders and
the interval store. A worker's metrics are its own, and it is the only one to
write them; so the interleaving of workers matters for the heap and for claims,
and not for what a worker's own counters say. That is why `Tracks` is about one
worker and one ledger.
-/

namespace WsBlast

/-! ## The shared state

A system in the sense of `Proc`: one state, many programs, and an event of one
of them at a time. -/

/-- What some workers share, and the metrics of each. -/
structure Fleet (ι : Type) where
  heap : Heap
  workers : ι → WorkerMetrics

namespace Fleet

variable {ι : Type} [DecidableEq ι]

/-- What an event of a worker changes. -/
def step (fleet : Fleet ι) : ι × Event → Fleet ι
  | (i, ⟨.record r, _⟩) =>
    let (w, heap) := (fleet.workers i).apply fleet.heap r
    ⟨heap, Function.update fleet.workers i w⟩
  | (_, ⟨.claimRequest max, _⟩) =>
    { fleet with heap.live := (fleet.heap.live.claimRequest max).2 }
  | _ => fleet

/-- Whether an answer is the one the shared state gives, where it decides it,
and a branch of the wait, where it is one. -/
def admits (fleet : Fleet ι) : ι × Event → Bool
  | (_, ⟨.claimRequest max, granted⟩) =>
    (fleet.heap.live.claimRequest max).1 == granted
  | (_, ⟨.requestsExhausted max, exhausted⟩) =>
    fleet.heap.live.requestsExhausted max == exhausted
  | (i, ⟨.errorsEmpty, empty⟩) => (fleet.workers i).errors.isEmpty == empty
  | (_, ⟨.select wait, woken⟩) => wait.has woken
  | _ => true

/-- Workers on a heap, as a system. -/
def system : Proc.System ι Eff Eff.Answer (Fleet ι) where
  step := step
  Admits := fun fleet item => fleet.admits item = true

instance (fleet : Fleet ι) (item : ι × Event) : Decidable (system.Admits fleet item) :=
  inferInstanceAs (Decidable (fleet.admits item = true))

end Fleet

/-! ## A worker's counters

The counters that depend only on what was recorded, without the latency samples,
and what each update does to them. -/

/-- The counters of a worker that depend only on what it records. -/
@[ext]
structure Account where
  latency : RecorderId
  messagesSent : ℕ
  errors : TallyMap ErrorCategory ℕ
  sentMessageErrors : ℕ
  reconnects : ℕ
  interrupted : Bool
  actions : List ActionCounts
  currentAction : Option ℕ

/-- The `SentMessage` errors that an error of a scope adds. -/
def ErrorScope.ends (scope : ErrorScope) : ℕ := if scope = .sentMessage then 1 else 0

theorem ErrorScope.ends_le_one (scope : ErrorScope) : scope.ends ≤ 1 := by
  unfold ends
  split_ifs
  · exact le_rfl
  · exact Nat.zero_le 1

namespace WorkerMetrics

/-- A worker's counters. -/
def account (w : WorkerMetrics) : Account where
  latency := w.latency
  messagesSent := w.messagesSent
  errors := w.errors
  sentMessageErrors := w.sentMessageErrors
  reconnects := w.reconnects
  interrupted := w.interrupted
  actions := w.actions
  currentAction := w.currentAction

/-- What a worker counted for the action at a position. -/
def actionCounts (w : WorkerMetrics) (action : ℕ) : ActionCounts := (w.actions[action]?).getD 0

theorem account_recordInterval (w : WorkerMetrics) (heap : Heap) (now : Instant) (micros : ℕ) :
    (w.recordInterval heap now micros).1.account = w.account := by
  unfold recordInterval
  cases w.interval with
  | none => rfl
  | some interval => rfl

theorem account_recordMessageRecv (w : WorkerMetrics) (heap : Heap) (now : Instant) (bytes : ℕ)
    (rtt : Option Duration) : (w.recordMessageRecv heap now bytes rtt).1.account = w.account := by
  unfold recordMessageRecv
  cases rtt with
  | none => rfl
  | some rtt =>
    dsimp only
    split_ifs
    · rfl
    · exact account_recordInterval _ _ _ _

theorem account_recordUnsolicitedFrames (w : WorkerMetrics) (heap : Heap) (count : ℕ) :
    (w.recordUnsolicitedFrames heap count).1.account = w.account := by
  unfold recordUnsolicitedFrames
  split_ifs
  · rfl
  · rfl

/-- The action counters are the only ones that `updateAction` changes. -/
theorem account_updateAction (w : WorkerMetrics) (f : ActionCounts → ActionCounts) :
    (w.updateAction f).account = { w.account with actions := (w.updateAction f).actions } := by
  unfold updateAction
  split
  · rfl
  · rfl

/-- The counters after a message was sent, those of the actions apart. -/
theorem account_recordMessageSent (w : WorkerMetrics) (heap : Heap) (bytes : ℕ) :
    (w.recordMessageSent heap bytes).1.account
      = { w.account with
          messagesSent := w.messagesSent + 1
          actions := (w.recordMessageSent heap bytes).1.actions } :=
  account_updateAction
    { w with messagesSent := w.messagesSent + 1, bytesSent := w.bytesSent + bytes }
    fun action => { action with sent := action.sent + 1 }

/-- The counters after an error, those of the actions apart. -/
theorem account_recordError (w : WorkerMetrics) (heap : Heap) (err : ErrorCategory)
    (scope : ErrorScope) :
    (w.recordError heap err scope).1.account
      = { w.account with
          errors := w.errors.bump err 1
          sentMessageErrors := w.sentMessageErrors + scope.ends
          actions := (w.recordError heap err scope).1.actions } :=
  account_updateAction
    { w with
      errors := w.errors.bump err 1
      sentMessageErrors := w.sentMessageErrors + scope.ends }
    fun action =>
      { action with
        errors := action.errors + 1
        sentMessageErrors := action.sentMessageErrors + scope.ends }

/-- The counts of each action after an update: those of the current action
are updated. -/
theorem actionCounts_updateAction (w : WorkerMetrics) (f : ActionCounts → ActionCounts)
    (action : ℕ) :
    (w.updateAction f).actionCounts action
      = if w.currentAction = some action then f (w.actionCounts action)
        else w.actionCounts action := by
  unfold updateAction actionCounts
  cases hcurrent : w.currentAction with
  | none => rfl
  | some index =>
    -- the list is first padded with zeros up to the action's place
    have hpadded : ∀ a : ℕ, ((w.actions ++ List.replicate (index + 1 - w.actions.length)
        ({} : ActionCounts))[a]?).getD 0 = (w.actions[a]?).getD 0 := by
      intro a
      by_cases ha : a < w.actions.length
      · rw [List.getElem?_append_left ha]
      · rw [List.getElem?_append_right (not_lt.mp ha), List.getElem?_replicate,
          List.getElem?_eq_none (not_lt.mp ha)]
        split_ifs
        · rfl
        · rfl
    have hlength : index < (w.actions ++ List.replicate (index + 1 - w.actions.length)
        ({} : ActionCounts)).length := by
      rw [List.length_append, List.length_replicate]
      omega
    show ((List.modify _ index f)[action]?).getD 0 = _
    rw [List.getElem?_modify]
    by_cases hsame : index = action
    · subst hsame
      rw [if_pos rfl, ← hpadded index, List.getElem?_eq_getElem hlength]
      show (if index = index then _ else _) = _
      rw [if_pos rfl]
      rfl
    · rw [if_neg (fun h => hsame (Option.some.inj h)), ← hpadded action]
      cases (w.actions ++ List.replicate (index + 1 - w.actions.length)
        ({} : ActionCounts))[action]? with
      | none => rfl
      | some counts => simp [hsame]

/-- The metrics of a worker that has done nothing yet. -/
structure Fresh (w : WorkerMetrics) : Prop where
  messagesSent : w.messagesSent = 0
  errors : w.errors = ∅
  sentMessageErrors : w.sentMessageErrors = 0
  reconnects : w.reconnects = 0
  interrupted : w.interrupted = false
  actions : w.actions = []
  currentAction : w.currentAction = none

end WorkerMetrics

/-! ## The ledger tracks the counters

The inequalities that the bounds on rates rest on are kept with the message in
flight on their left side: a message that may still fail has its place among the
messages sent. -/

namespace Ledger

/-- The messages of an action that may still fail. -/
def flying (s : Ledger) (action : Option ℕ) : ℕ := if s.inFlight = some action then 1 else 0

/-- A ledger and a worker's metrics tell the same: the counters agree, and the
`SentMessage` errors together with the message in flight are within the
messages sent, over all messages and for every action. -/
structure Tracks (s : Ledger) (w : WorkerMetrics) : Prop where
  action : w.currentAction = s.action
  errors : w.errors.total = s.errors
  empty : w.errors.isEmpty = decide (s.errors = 0)
  reconnects : w.reconnects = s.slot.reconnects
  interrupted : w.interrupted = s.slot.interrupted
  messages : w.sentMessageErrors + (if s.inFlight.isSome then 1 else 0) ≤ w.messagesSent
  within : w.sentMessageErrors ≤ w.errors.total
  actionMessages : ∀ a, (w.actionCounts a).sentMessageErrors + s.flying (some a)
    ≤ (w.actionCounts a).sent
  actionWithin : ∀ a, (w.actionCounts a).sentMessageErrors ≤ (w.actionCounts a).errors

variable {s : Ledger} {w : WorkerMetrics}

theorem tracks_of_fresh (h : w.Fresh) : Tracks {} w where
  action := h.currentAction
  errors := by
    rw [h.errors]
    rfl
  empty := by
    rw [h.errors]
    rfl
  reconnects := h.reconnects
  interrupted := h.interrupted
  messages := by
    rw [h.sentMessageErrors]
    exact Nat.zero_le _
  within := by
    rw [h.sentMessageErrors]
    exact Nat.zero_le _
  actionMessages := by
    intro a
    rw [WorkerMetrics.actionCounts, h.actions]
    exact Nat.zero_le _
  actionWithin := by
    intro a
    rw [WorkerMetrics.actionCounts, h.actions]
    exact Nat.zero_le _

/-- Only the counters matter. -/
theorem Tracks.of_account {w' : WorkerMetrics} (h : Tracks s w) (heq : w'.account = w.account) :
    Tracks s w' where
  action := (congrArg Account.currentAction heq).trans h.action
  errors := (congrArg (TallyMap.total ∘ Account.errors) heq).trans h.errors
  empty := (congrArg (fun a => a.errors.isEmpty) heq).trans h.empty
  reconnects := (congrArg Account.reconnects heq).trans h.reconnects
  interrupted := (congrArg Account.interrupted heq).trans h.interrupted
  messages := by
    have hsent := congrArg Account.messagesSent heq
    have hfailed := congrArg Account.sentMessageErrors heq
    exact (congrArg (· + _) hfailed).le.trans (h.messages.trans hsent.ge)
  within := by
    have herrors := congrArg (TallyMap.total ∘ Account.errors) heq
    have hfailed := congrArg Account.sentMessageErrors heq
    exact hfailed.le.trans (h.within.trans herrors.ge)
  actionMessages := by
    have hactions : w'.actions = w.actions := congrArg Account.actions heq
    intro a
    rw [WorkerMetrics.actionCounts, hactions]
    exact h.actionMessages a
  actionWithin := by
    have hactions : w'.actions = w.actions := congrArg Account.actions heq
    intro a
    rw [WorkerMetrics.actionCounts, hactions]
    exact h.actionWithin a

/-- The message in flight is counted for the action that sent it. -/
theorem Tracks.recordMessageSent (h : Tracks s w) (heap : Heap) (bytes : ℕ) :
    Tracks (s.record (.messageSent bytes)) (w.recordMessageSent heap bytes).1 := by
  have hfields := w.account_recordMessageSent heap bytes
  have hcounts : ∀ a, (w.recordMessageSent heap bytes).1.actionCounts a
      = if s.action = some a then
          { w.actionCounts a with sent := (w.actionCounts a).sent + 1 }
        else w.actionCounts a := by
    intro a
    rw [← h.action]
    exact WorkerMetrics.actionCounts_updateAction
      { w with messagesSent := w.messagesSent + 1, bytesSent := w.bytesSent + bytes }
      (fun action => { action with sent := action.sent + 1 }) a
  -- fields first, and then the bounds, over all messages and action by action
  refine ⟨(congrArg Account.currentAction hfields).trans h.action,
    (congrArg (TallyMap.total ∘ Account.errors) hfields).trans h.errors,
    (congrArg (fun a => a.errors.isEmpty) hfields).trans h.empty,
    (congrArg Account.reconnects hfields).trans h.reconnects,
    (congrArg Account.interrupted hfields).trans h.interrupted, ?_, ?_, ?_, ?_⟩
  · have hsent : (w.recordMessageSent heap bytes).1.messagesSent = w.messagesSent + 1 :=
      congrArg Account.messagesSent hfields
    have hfailed : (w.recordMessageSent heap bytes).1.sentMessageErrors = w.sentMessageErrors :=
      congrArg Account.sentMessageErrors hfields
    rw [hsent, hfailed]
    show w.sentMessageErrors + 1 ≤ w.messagesSent + 1
    exact Nat.succ_le_succ (le_of_add_le_left h.messages)
  · have herrors := congrArg (TallyMap.total ∘ Account.errors) hfields
    have hfailed := congrArg Account.sentMessageErrors hfields
    exact hfailed.le.trans (h.within.trans herrors.ge)
  · intro a
    rw [hcounts]
    have hbefore : (w.actionCounts a).sentMessageErrors ≤ (w.actionCounts a).sent :=
      le_of_add_le_left (h.actionMessages a)
    show _ + (if some s.action = some (some a) then 1 else 0) ≤ _
    by_cases hsame : s.action = some a
    · rw [if_pos hsame, if_pos (congrArg some hsame)]
      exact Nat.succ_le_succ hbefore
    · rw [if_neg hsame, if_neg (fun heq => hsame (Option.some.inj heq))]
      exact hbefore
  · intro a
    rw [hcounts]
    split_ifs
    · exact h.actionWithin a
    · exact h.actionWithin a

/-- An error that ends a message ends the one in flight. -/
theorem flying_of_matched {err : ErrorCategory}
    (hmatched : (s.record (.error err .sentMessage)).unmatched = false) :
    s.inFlight = some s.action := by
  have h : (s.unmatched || s.inFlight != some s.action) = false := hmatched
  exact bne_eq_false_iff_eq.mp (Bool.or_eq_false_iff.mp h).2

/-- An error keeps the counters within the messages sent when it ends the
message in flight. -/
theorem Tracks.recordError (h : Tracks s w) (heap : Heap) (err : ErrorCategory)
    (scope : ErrorScope) (hmatched : (s.record (.error err scope)).unmatched = false) :
    Tracks (s.record (.error err scope)) (w.recordError heap err scope).1 := by
  have hfields := w.account_recordError heap err scope
  have hcounts : ∀ a, (w.recordError heap err scope).1.actionCounts a
      = if s.action = some a then
          { w.actionCounts a with
            errors := (w.actionCounts a).errors + 1
            sentMessageErrors := (w.actionCounts a).sentMessageErrors + scope.ends }
        else w.actionCounts a := by
    intro a
    rw [← h.action]
    exact WorkerMetrics.actionCounts_updateAction
      { w with
        errors := w.errors.bump err 1
        sentMessageErrors := w.sentMessageErrors + scope.ends }
      (fun action =>
        { action with
          errors := action.errors + 1
          sentMessageErrors := action.sentMessageErrors + scope.ends }) a
  have htotal : (w.recordError heap err scope).1.errors.total = w.errors.total + 1 :=
    (congrArg (TallyMap.total ∘ Account.errors) hfields).trans (TallyMap.total_bump _ _ _)
  have hfailed : (w.recordError heap err scope).1.sentMessageErrors
      = w.sentMessageErrors + scope.ends := congrArg Account.sentMessageErrors hfields
  -- what is left in flight makes room for the error of this scope
  have hroom : ∀ action, scope.ends * (if s.action = action then 1 else 0)
      + (s.record (.error err scope)).flying action ≤ s.flying action := by
    intro action
    cases scope with
    | attempt => exact (Nat.zero_mul _).symm ▸ (Nat.zero_add _).le
    | sentMessage =>
      unfold flying
      rw [flying_of_matched hmatched]
      show 1 * (if s.action = action then 1 else 0) + (if none = some action then 1 else 0) ≤ _
      rw [if_neg (nofun : ¬none = some action), Nat.one_mul, Nat.add_zero]
      by_cases hsame : s.action = action
      · rw [if_pos hsame, if_pos (congrArg some hsame)]
      · rw [if_neg hsame]
        exact Nat.zero_le _
  have herrors : (s.record (.error err scope)).errors = s.errors + 1 := by
    cases scope with
    | attempt => rfl
    | sentMessage => rfl
  have hslot : (s.record (.error err scope)).slot = s.slot := by
    cases scope with
    | attempt => rfl
    | sentMessage => rfl
  have haction : (s.record (.error err scope)).action = s.action := by
    cases scope with
    | attempt => rfl
    | sentMessage => rfl
  refine ⟨?_, ?_, ?_, ?_, ?_, ?_, ?_, ?_, ?_⟩
  · rw [haction]
    exact (congrArg Account.currentAction hfields).trans h.action
  · rw [htotal, herrors, h.errors]
  · rw [herrors]
    exact (congrArg (fun a => a.errors.isEmpty) hfields).trans (TallyMap.isEmpty_bump _ _ _)
  · rw [hslot]
    exact (congrArg Account.reconnects hfields).trans h.reconnects
  · rw [hslot]
    exact (congrArg Account.interrupted hfields).trans h.interrupted
  · have hsent : (w.recordError heap err scope).1.messagesSent = w.messagesSent :=
      congrArg Account.messagesSent hfields
    have hmessages := h.messages
    rw [hsent, hfailed]
    cases scope with
    | attempt => exact hmessages
    | sentMessage =>
      rw [flying_of_matched hmatched] at hmessages
      exact hmessages
  · rw [hfailed, htotal]
    exact Nat.add_le_add h.within scope.ends_le_one
  · intro a
    rw [hcounts]
    have hmessages := h.actionMessages a
    have hleft := hroom (some a)
    by_cases hsame : s.action = some a
    · rw [if_pos hsame] at hleft ⊢
      show (w.actionCounts a).sentMessageErrors + scope.ends + _ ≤ (w.actionCounts a).sent
      rw [Nat.mul_one] at hleft
      rw [Nat.add_assoc]
      exact (Nat.add_le_add_left hleft _).trans hmessages
    · rw [if_neg hsame] at hleft ⊢
      rw [Nat.mul_zero, Nat.zero_add] at hleft
      exact (Nat.add_le_add_left hleft _).trans hmessages
  · intro a
    rw [hcounts]
    split_ifs
    · exact Nat.add_le_add (h.actionWithin a) scope.ends_le_one
    · exact h.actionWithin a

/-- **Every record keeps the ledger and the counters together**, as long as
the ledger is sound. -/
theorem Tracks.apply (h : Tracks s w) (heap : Heap) (r : Record)
    (hmatched : (s.record r).unmatched = false) : Tracks (s.record r) (w.apply heap r).1 := by
  cases r with
  | handshake duration => exact ⟨h.1, h.2, h.3, h.4, h.5, h.6, h.7, h.8, h.9⟩
  | reconnect duration =>
    exact ⟨h.1, h.2, h.3, congrArg (· + 1) h.4, h.5, h.6, h.7, h.8, h.9⟩
  | connectionFailed err =>
    have herror := h.recordError heap err .attempt hmatched
    exact ⟨herror.1, herror.2, herror.3, herror.4, herror.5, herror.6, herror.7, herror.8,
      herror.9⟩
  | connectionClosed => exact ⟨h.1, h.2, h.3, h.4, h.5, h.6, h.7, h.8, h.9⟩
  | messageSent bytes => exact h.recordMessageSent heap bytes
  | messageRecv now bytes rtt => exact h.of_account (w.account_recordMessageRecv heap now bytes rtt)
  | responseTime now duration => exact h.of_account (w.account_recordInterval _ now _)
  | unsolicitedFrames count => exact h.of_account (w.account_recordUnsolicitedFrames heap count)
  | error err scope => exact h.recordError heap err scope hmatched
  | chaosDelayed => exact h.of_account rfl
  | chaosDropped => exact h.of_account rfl
  | chaosCorrupted => exact h.of_account rfl
  | chaosReadPause => exact h.of_account rfl
  | chaosClose => exact h.of_account rfl
  | interrupted => exact ⟨h.1, h.2, h.3, h.4, rfl, h.6, h.7, h.8, h.9⟩
  | currentAction action => exact ⟨rfl, h.2, h.3, h.4, h.5, h.6, h.7, h.8, h.9⟩
  | intervalUsesResponse uses => exact h.of_account rfl

end Ledger

end WsBlast
