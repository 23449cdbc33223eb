import WsBlast.MergedCapture

/-!
# Every record of a distributed capture is accounted for

`Carried` says where the records of one agent's phase are while the
coordinator follows it: in its queue, in a batch, lost on the agent, on their
way to the coordinator, or received. `Merged` says it for the whole run: what
was received was handed to the writer, which counts every record as written,
lost or over the limit.

A record of a distributed run passes six places before it is counted, and at
any of them the agent may be lost. What the summary then promises is different
for the two cases: for an agent that finished, every record its sessions
produced is accounted for; for one that was lost, every record that reached the
coordinator is. `expected` grows accordingly when an agent is through with its
phase.
-/

namespace WsBlast

/-! ## Where an agent's records are

Once the result was sent nothing follows it on the link, and before it only
batches do. -/

/-- The records of some batches. -/
def batchRecords (batches : List (List WireRecord)) : ℕ := (batches.map List.length).sum

/-- The records in a message. -/
def AgentMessage.records : AgentMessage → ℕ
  | capture records => records.length
  | result _ => 0

/-- A message with records. -/
def AgentMessage.isCapture : AgentMessage → Bool
  | capture _ => true
  | result _ => false

/-- The records in some messages. -/
def linkRecords (link : List AgentMessage) : ℕ := (link.map AgentMessage.records).sum

namespace AgentCapture

variable {κ : Type} [DecidableEq κ] [Fintype κ]

/-- The records the forwarding thread has taken, wherever they are now. -/
def taken (a : AgentCapture κ) : ℕ :=
  a.batch.length + a.lost + batchRecords a.out + linkRecords a.link + a.received

/-- The thread has taken the finish marker. -/
def drained (a : AgentCapture κ) : Bool := a.stage = .leaving ∨ a.stage = .finished

/-- What an agent sends: batches, and at the very end the number of records it
dropped. -/
def Reports (a : AgentCapture κ) : Prop :=
  match a.reported with
  | true => a.stage = .finished ∧ a.out = [] ∧ ∃ captures,
      a.link = captures ++ [.result (a.queue.dropped + a.lost)] ∧ captures.all AgentMessage.isCapture
  | false => a.link.all AgentMessage.isCapture

/-- **Where the records of an agent's phase are**, while the coordinator
follows it. -/
structure Carried (a : AgentCapture κ) : Prop where
  feeding : a.queue.Feeding a.taken a.drained
  /-- The thread returns with an empty batch. -/
  returned : a.stage = .finished → a.batch = []
  reports : a.Reports

omit [DecidableEq κ] in
theorem carried_start (limit capacity : ℕ) : (start limit capacity : AgentCapture κ).Carried where
  feeding := CaptureQueue.feeding_start limit capacity
  returned h := by simp [start] at h
  reports := by simp [start, Reports]

end AgentCapture

/-- Behind the finish marker the sessions do nothing any more. -/
theorem CaptureQueue.Feeding.stuck {κ : Type} [DecidableEq κ] [Fintype κ] {q q' : CaptureQueue κ}
    {taken : ℕ} (h : q.Feeding taken true) {action : CaptureAction κ} (haction : action ≠ .take)
    (hstep : q.step action = some q') : False := by
  obtain ⟨hfin, -⟩ := h.marker
  have hended := h.closing hfin
  have hidle := fun i => h.resting i (hended i)
  cases action with
  | call i frame =>
    have hopen := (call_cases hstep).2.1
    rw [hended i] at hopen
    cases hopen
  | claim i =>
    obtain ⟨frame, hcall, -⟩ := claim_cases hstep
    rw [hidle i] at hcall
    cases hcall
  | trySend i tUs =>
    obtain ⟨frame, hcall, -⟩ := trySend_cases hstep
    rw [hidle i] at hcall
    cases hcall
  | refund i =>
    obtain ⟨frame, hcall, -⟩ := refund_cases hstep
    rw [hidle i] at hcall
    cases hcall
  | endSession i =>
    have hopen := (endSession_cases hstep).2.1
    rw [hended i] at hopen
    cases hopen
  | finish =>
    have hopen := (finish_cases hstep).2.1
    rw [hfin] at hopen
    cases hopen
  | take => exact haction rfl

namespace AgentCapture

variable {κ : Type} [DecidableEq κ] [Fintype κ]

/-- A step of the sessions keeps the records of an agent accounted for. -/
theorem Carried.sessions {a : AgentCapture κ} (h : a.Carried) {action : CaptureAction κ}
    (haction : action ≠ .take) {queue : CaptureQueue κ} (hstep : a.queue.step action = some queue) :
    ({ a with queue } : AgentCapture κ).Carried where
  feeding := h.feeding.step haction hstep
  returned := h.returned
  reports := by
    have hreports := h.reports
    unfold Reports at hreports ⊢
    cases hreported : a.reported with
    | false =>
      rw [hreported] at hreports
      exact hreports
    | true =>
      rw [hreported] at hreports
      have hdrained : a.drained = true := by simp [drained, hreports.1]
      have hfeeding := h.feeding
      rw [hdrained] at hfeeding
      exact (hfeeding.stuck haction hstep).elim

omit [DecidableEq κ] in
/-- Before the result is sent only batches are on their way. -/
theorem Carried.captures {a : AgentCapture κ} (h : a.Carried) (hreported : a.reported = false) :
    a.link.all AgentMessage.isCapture := by
  have hreports := h.reports
  unfold Reports at hreports
  rw [hreported] at hreports
  exact hreports

omit [DecidableEq κ] in
/-- The result is sent after the thread has returned. -/
theorem Carried.unreported {a : AgentCapture κ} (h : a.Carried) (hstage : a.stage ≠ .finished) :
    a.reported = false := by
  by_contra hreported
  rw [Bool.not_eq_false] at hreported
  have hreports := h.reports
  unfold Reports at hreports
  rw [hreported] at hreports
  exact hstage hreports.1

omit [DecidableEq κ] in
/-- An agent that has not sent its result yet. -/
theorem carried_of_captures {a : AgentCapture κ} (hfeeding : a.queue.Feeding a.taken a.drained)
    (hreturned : a.stage = .finished → a.batch = []) (hreported : a.reported = false)
    (hcaptures : a.link.all AgentMessage.isCapture) : a.Carried where
  feeding := hfeeding
  returned := hreturned
  reports := by
    unfold Reports
    rw [hreported]
    exact hcaptures

omit [DecidableEq κ] in
/-- The thread's poll keeps them accounted for. -/
theorem Carried.gather {a a' : AgentCapture κ} (h : a.Carried) (hstep : a.gather = some a') :
    a'.Carried := by
  unfold AgentCapture.gather at hstep
  split at hstep
  · rename_i hstage
    have hdrained : a.drained = false := by simp [drained, hstage]
    have hreported := h.unreported (by simp [hstage])
    have hfeeding := h.feeding
    rw [hdrained] at hfeeding
    split at hstep
    · split at hstep
      · cases hstep
      · obtain rfl := Option.some.inj hstep
        exact carried_of_captures hfeeding nofun hreported (h.captures hreported)
    · rename_i queue htake
      obtain rfl := Option.some.inj hstep
      exact carried_of_captures (hfeeding.take_finish htake) nofun hreported (h.captures hreported)
    · -- a record leaves the queue for the batch, so the sum is the same
      rename_i record queue htake
      obtain rfl := Option.some.inj hstep
      refine carried_of_captures ?_ ?_ hreported (h.captures hreported)
      · have hdrained' : ∀ stage, stage = .sending ∨ stage = .gathering →
            drained ({ a with queue, batch := a.batch ++ [wireRecord record], stage } : AgentCapture κ)
              = false := by
          rintro stage (rfl | rfl) <;> rfl
        have hone := hfeeding.take_record htake
        have htaken : a.taken + 1
            = (a.batch ++ [wireRecord record]).length + a.lost + batchRecords a.out
              + linkRecords a.link + a.received := by
          simp only [taken, List.length_append, List.length_singleton]
          omega
        rw [htaken] at hone
        rw [hdrained' _ (ite_eq_or_eq _ _ _)]
        exact hone
      · intro hfin
        dsimp only at hfin
        split at hfin <;> cases hfin
  · cases hstep

omit [DecidableEq κ] in
/-- Handing a batch over keeps them accounted for. -/
theorem Carried.send {a a' : AgentCapture κ} (h : a.Carried) (hstep : a.send = some a') :
    a'.Carried := by
  unfold AgentCapture.send at hstep
  split at hstep
  · rename_i hstage
    have hnot : a.stage ≠ .finished := by
      obtain hstage | hstage := hstage <;> simp [hstage]
    have hreported := h.unreported hnot
    have hcaptures := h.captures hreported
    -- the thread has the marker afterwards if and only if it had it before
    have hdrained : (decide (nextStage a.stage = .leaving ∨ nextStage a.stage = .finished) : Bool)
        = a.drained := by
      obtain hstage | hstage := hstage <;> simp [hstage, drained, nextStage]
    have hfeeding : ∀ batch lost out,
        batch.length + lost + batchRecords out = a.batch.length + a.lost + batchRecords a.out →
        a.queue.Feeding (taken ({ a with batch, lost, out } : AgentCapture κ))
          (decide (nextStage a.stage = .leaving ∨ nextStage a.stage = .finished)) := by
      intro batch lost out hsum
      have htaken : taken ({ a with batch, lost, out } : AgentCapture κ) = a.taken := by
        simp only [taken]
        omega
      rw [htaken, hdrained]
      exact h.feeding
    dsimp only at hstep
    split at hstep
    · rename_i hempty
      obtain rfl := Option.some.inj hstep
      exact carried_of_captures (hfeeding a.batch a.lost a.out rfl) (fun _ => hempty) hreported
        hcaptures
    · split at hstep
      · obtain rfl := Option.some.inj hstep
        refine carried_of_captures (hfeeding [] (a.lost + a.batch.length) a.out ?_) (fun _ => rfl)
          hreported hcaptures
        simp only [List.length_nil]
        omega
      · split at hstep
        · obtain rfl := Option.some.inj hstep
          refine carried_of_captures (hfeeding [] a.lost (a.out ++ [a.batch]) ?_) (fun _ => rfl)
            hreported hcaptures
          simp only [batchRecords, List.length_nil, List.map_append, List.sum_append, List.map_cons,
            List.map_nil, List.sum_cons, List.sum_nil]
          omega
        · cases hstep
  · cases hstep

omit [DecidableEq κ] in
/-- Sending a batch to the coordinator keeps them accounted for. -/
theorem Carried.forward {a a' : AgentCapture κ} (h : a.Carried) (hstep : a.forward = some a') :
    a'.Carried := by
  unfold AgentCapture.forward at hstep
  split at hstep
  · cases hstep
  · rename_i hopen
    have hreported : a.reported = false := by
      rw [not_or, Bool.not_eq_true, Bool.not_eq_true] at hopen
      exact hopen.2
    split at hstep
    · cases hstep
    · rename_i records rest hout
      obtain rfl := Option.some.inj hstep
      refine carried_of_captures ?_ h.returned hreported ?_
      · have htaken : a.taken = taken ({ a with
            out := rest, link := a.link ++ [.capture records] } : AgentCapture κ) := by
          simp only [taken, hout, batchRecords, linkRecords, List.map_cons, List.sum_cons,
            List.map_append, List.sum_append, List.map_nil, List.sum_nil, AgentMessage.records]
          omega
        have hfeeding := h.feeding
        rw [htaken] at hfeeding
        exact hfeeding
      · have hcaptures := h.captures hreported
        simp only [List.all_append, hcaptures, List.all_cons, AgentMessage.isCapture, List.all_nil,
          Bool.and_self]

omit [DecidableEq κ] in
/-- So does sending the result. -/
theorem Carried.report {a a' : AgentCapture κ} (h : a.Carried) (hstep : a.report = some a') :
    a'.Carried := by
  unfold AgentCapture.report at hstep
  split at hstep
  · rename_i hready
    obtain ⟨-, hreported, hstage, hout⟩ := hready
    obtain rfl := Option.some.inj hstep
    refine ⟨?_, h.returned, ⟨hstage, hout, a.link, rfl, h.captures hreported⟩⟩
    have htaken : a.taken = taken ({ a with
        reported := true
        link := a.link ++ [.result (a.queue.dropped + a.lost)] } : AgentCapture κ) := by
      simp only [taken, linkRecords, List.map_append, List.sum_append, List.map_cons, List.map_nil,
        List.sum_cons, List.sum_nil, AgentMessage.records, add_zero]
    have hfeeding := h.feeding
    rw [htaken] at hfeeding
    exact hfeeding
  · cases hstep

/-- **Every step of an agent keeps the records of its phase accounted
for.** -/
theorem Carried.step {a a' : AgentCapture κ} {action : ForwardAction κ}
    (h : a.Carried) (hstep : a.step action = some a') : a'.Carried := by
  cases action with
  | sessions action =>
    cases action with
    | take => cases hstep
    | _ =>
      obtain ⟨queue, hqueue, rfl⟩ := Option.map_eq_some_iff.mp hstep
      refine h.sessions ?_ hqueue
      nofun
  | gather => exact h.gather hstep
  | send => exact h.send hstep
  | forward => exact h.forward hstep
  | fail =>
    obtain rfl := Option.some.inj hstep
    exact ⟨h.feeding, h.returned, h.reports⟩
  | report => exact h.report hstep

/-- Nothing an agent does changes what the coordinator holds of it. -/
theorem step_standing {a a' : AgentCapture κ} {action : ForwardAction κ}
    (hstep : a.step action = some a') : a'.standing = a.standing ∧ a'.received = a.received := by
  cases action with
  | sessions action =>
    cases action with
    | take => cases hstep
    | _ =>
      obtain ⟨queue, -, rfl⟩ := Option.map_eq_some_iff.mp hstep
      exact ⟨rfl, rfl⟩
  | gather =>
    simp only [step, gather] at hstep
    repeat' split at hstep
    all_goals first
      | (obtain rfl := Option.some.inj hstep; exact ⟨rfl, rfl⟩)
      | cases hstep
  | send =>
    simp only [step, send] at hstep
    repeat' split at hstep
    all_goals first
      | (obtain rfl := Option.some.inj hstep; exact ⟨rfl, rfl⟩)
      | cases hstep
  | forward =>
    simp only [step, forward] at hstep
    repeat' split at hstep
    all_goals first
      | (obtain rfl := Option.some.inj hstep; exact ⟨rfl, rfl⟩)
      | cases hstep
  | fail =>
    obtain rfl := Option.some.inj hstep
    exact ⟨rfl, rfl⟩
  | report =>
    simp only [step, report] at hstep
    split at hstep
    · obtain rfl := Option.some.inj hstep
      exact ⟨rfl, rfl⟩
    · cases hstep

/-- The records received from an agent that the coordinator still follows. -/
def outstanding (a : AgentCapture κ) : ℕ := if a.standing = .following then a.received else 0

omit [DecidableEq κ] in
/-- **When its result is read, the records of an agent are the ones it dropped
and the ones received from it.** -/
theorem Carried.produced_eq {a : AgentCapture κ} (h : a.Carried) {captureDropped : ℕ}
    {rest : List AgentMessage} (hlink : a.link = .result captureDropped :: rest) :
    a.queue.produced = captureDropped + a.received := by
  have hreports := h.reports
  unfold Reports at hreports
  cases hreported : a.reported with
  | false =>
    rw [hreported, hlink] at hreports
    cases hreports
  | true =>
    rw [hreported, hlink] at hreports
    obtain ⟨hstage, hout, captures, hsplit, hcaptures⟩ := hreports
    cases captures with
    | cons first captures =>
      obtain ⟨rfl, -⟩ := List.cons.inj hsplit
      simp [AgentMessage.isCapture] at hcaptures
    | nil =>
      obtain ⟨hresult, rfl⟩ := List.cons.inj hsplit
      obtain rfl := AgentMessage.result.inj hresult
      have hdrained : a.drained = true := by simp [drained, hstage]
      have hfeeding := h.feeding
      rw [hdrained] at hfeeding
      have hsettled := hfeeding.settled
      have htaken : a.taken = a.lost + a.received := by
        simp [taken, h.returned hstage, hout, hlink, batchRecords, linkRecords,
          AgentMessage.records]
      omega

omit [DecidableEq κ] in
/-- Reading a batch keeps the records of an agent accounted for. -/
theorem Carried.receive {a : AgentCapture κ} (h : a.Carried) {records : List WireRecord}
    {rest : List AgentMessage} (hlink : a.link = .capture records :: rest) :
    ({ a with link := rest, received := a.received + records.length } : AgentCapture κ).Carried where
  feeding := by
    have htaken : a.taken = taken ({ a with
        link := rest, received := a.received + records.length } : AgentCapture κ) := by
      simp only [taken, hlink, linkRecords, List.map_cons, List.sum_cons, AgentMessage.records]
      omega
    have hfeeding := h.feeding
    rw [htaken] at hfeeding
    exact hfeeding
  returned := h.returned
  reports := by
    have hreports := h.reports
    unfold Reports at hreports ⊢
    cases hreported : a.reported with
    | false =>
      rw [hreported, hlink] at hreports
      exact hreports
    | true =>
      rw [hreported, hlink] at hreports
      obtain ⟨hstage, hout, captures, hsplit, hcaptures⟩ := hreports
      cases captures with
      | nil => cases (List.cons.inj hsplit).1
      | cons first captures =>
        exact ⟨hstage, hout, captures, (List.cons.inj hsplit).2,
          (Bool.and_eq_true_iff.mp hcaptures).2⟩

end AgentCapture

/-! ## Where the records of the whole run are

The coordinator holds records of the agents it follows. -/

/-- The records of some batches on their way to the writer. -/
def channelRecords (channel : List MergedBatch) : ℕ := (channel.map (·.records.length)).sum

/-- The records a writer has gone past. -/
def MergedWriter.done (w : MergedWriter) : ℕ := w.written + w.lost + w.overLimit

namespace ClusterCapture

variable {agents : ℕ} {κ : Type} [DecidableEq κ] [Fintype κ]

/-- The records received from agents the coordinator still follows. -/
def outstanding (s : ClusterCapture agents κ) : ℕ := ∑ i, (s.agents i).outstanding

/-- **Where the records of a distributed capture are.** -/
structure Merged (s : ClusterCapture agents κ) : Prop where
  carried : ∀ i, (s.agents i).standing = .following → (s.agents i).Carried
  /-- What was handed to the writer is on its way, in its hands, or counted. -/
  handed : s.queued = channelRecords s.channel + s.writer.current.records.length + s.writer.done
  accounted : s.expected + s.outstanding = s.agentsDropped + s.queued
  within : s.writer.written + s.writer.lost ≤ effectiveLimit s.limit
  closing : s.closed = true → ∀ i, (s.agents i).standing ≠ .following
  flushed : s.writer.finished = true →
    s.closed = true ∧ s.channel = [] ∧ s.writer.current.records = []

omit [DecidableEq κ] in
theorem merged_start (limit capacity : ℕ) (ok : Bool) :
    (start limit capacity ok : ClusterCapture agents κ).Merged where
  carried _ _ := AgentCapture.carried_start _ _
  handed := rfl
  accounted := by simp [start, outstanding, AgentCapture.outstanding, AgentCapture.start]
  within := Nat.zero_le _
  closing h := by simp [start] at h
  flushed h := by simp [start] at h

section Steps

variable {s s' : ClusterCapture agents κ}

omit [DecidableEq κ] in
/-- An agent's part changes, and with it what the coordinator holds. -/
theorem Merged.setAgent {r : ClusterCapture agents κ} (h : s.Merged) {i : Fin agents}
    {a : AgentCapture κ} (hagents : r.agents = s.agents) (hlimit : r.limit = s.limit)
    (hclosed : r.closed = s.closed) (hwriter : r.writer = s.writer)
    (hcarried : a.standing = .following → a.Carried)
    (hhanded : r.queued + channelRecords s.channel = s.queued + channelRecords r.channel)
    (haccounted : r.expected + a.outstanding + s.agentsDropped + s.queued
      = s.expected + (s.agents i).outstanding + r.agentsDropped + r.queued)
    (hclosing : s.closed = true → a.standing ≠ .following)
    (hchannel : s.closed = true → r.channel = s.channel) : (r.setAgent i a).Merged where
  carried j hj := by
    by_cases hji : j = i
    · subst hji
      simp only [ClusterCapture.setAgent, Function.update_self] at hj ⊢
      exact hcarried hj
    · simp only [ClusterCapture.setAgent, Function.update_of_ne hji, hagents] at hj ⊢
      exact h.carried j hj
  handed := by
    have := h.handed
    show r.queued = channelRecords r.channel + r.writer.current.records.length + r.writer.done
    rw [hwriter]
    omega
  accounted := by
    -- what the agents hold changes by what this one holds
    have hsum : (r.setAgent i a).outstanding + (r.agents i).outstanding
        = r.outstanding + a.outstanding :=
      Machine.sum_update AgentCapture.outstanding r.agents i a
    have hsame : r.outstanding = s.outstanding := by
      unfold outstanding
      rw [hagents]
    rw [hagents] at hsum
    have := h.accounted
    show r.expected + (r.setAgent i a).outstanding = r.agentsDropped + r.queued
    omega
  within := by
    show r.writer.written + r.writer.lost ≤ effectiveLimit r.limit
    rw [hwriter, hlimit]
    exact h.within
  closing hclose j := by
    have hclose' : s.closed = true := by
      rw [← hclosed]
      exact hclose
    by_cases hji : j = i
    · subst hji
      simp only [ClusterCapture.setAgent, Function.update_self]
      exact hclosing hclose'
    · simp only [ClusterCapture.setAgent, Function.update_of_ne hji, hagents]
      exact h.closing hclose' j
  flushed hfin := by
    have hfin' : s.writer.finished = true := by
      rw [← hwriter]
      exact hfin
    obtain ⟨hclose, hempty, hdone⟩ := h.flushed hfin'
    refine ⟨hclosed.trans hclose, (hchannel hclose).trans hempty, ?_⟩
    show r.writer.current.records = []
    rw [hwriter]
    exact hdone

/-- A step of an agent. -/
theorem Merged.agent (h : s.Merged) {i : Fin agents} {action : ForwardAction κ}
    {a : AgentCapture κ} (hstep : (s.agents i).step action = some a) : (s.setAgent i a).Merged := by
  obtain ⟨hstanding, hreceived⟩ := AgentCapture.step_standing hstep
  refine h.setAgent rfl rfl rfl rfl ?_ rfl ?_ ?_ fun _ => rfl
  · intro hfollowing
    rw [hstanding] at hfollowing
    exact (h.carried i hfollowing).step hstep
  · simp only [AgentCapture.outstanding, hstanding, hreceived]
  · intro hclose
    rw [hstanding]
    exact h.closing hclose i

omit [DecidableEq κ] in
/-- The coordinator reads a message. -/
theorem Merged.receive (h : s.Merged) {i : Fin agents} {decodes : Bool}
    (hstep : s.receive i decodes = some s') : s'.Merged := by
  unfold ClusterCapture.receive at hstep
  dsimp only at hstep
  split at hstep
  · rename_i hfollowing
    have hcarried := h.carried i hfollowing
    have hopen : s.closed ≠ true := fun hclose => h.closing hclose i hfollowing
    split at hstep
    · cases hstep
    · rename_i records rest hlink
      split at hstep
      · obtain rfl := Option.some.inj hstep
        refine h.setAgent rfl rfl rfl rfl (fun _ => hcarried.receive hlink) ?_ ?_
          (fun hclose => absurd hclose hopen) (fun hclose => absurd hclose hopen)
        · simp only [channelRecords, List.map_append, List.sum_append, List.map_cons, List.map_nil,
            List.sum_cons, List.sum_nil]
          omega
        · simp only [AgentCapture.outstanding, if_pos hfollowing]
          omega
      · cases hstep
    · rename_i captureDropped rest hlink
      split at hstep
      · obtain rfl := Option.some.inj hstep
        refine h.setAgent rfl rfl rfl rfl nofun rfl ?_ (fun _ => nofun) (fun _ => rfl)
        have hproduced := hcarried.produced_eq hlink
        simp only [AgentCapture.outstanding, if_pos hfollowing, reduceCtorEq, if_false]
        omega
      · obtain rfl := Option.some.inj hstep
        refine h.setAgent rfl rfl rfl rfl nofun rfl ?_ (fun _ => nofun) (fun _ => rfl)
        simp only [AgentCapture.outstanding, if_pos hfollowing, reduceCtorEq, if_false]
        omega
  · cases hstep

omit [DecidableEq κ] in
/-- An agent is lost. -/
theorem Merged.lose (h : s.Merged) {i : Fin agents} (hstep : s.lose i = some s') : s'.Merged := by
  unfold ClusterCapture.lose at hstep
  dsimp only at hstep
  split at hstep
  · rename_i hfollowing
    obtain rfl := Option.some.inj hstep
    refine h.setAgent rfl rfl rfl rfl nofun rfl ?_ (fun _ => nofun) (fun _ => rfl)
    simp only [AgentCapture.outstanding, if_pos hfollowing, reduceCtorEq, if_false]
    omega
  · cases hstep

omit [DecidableEq κ] [Fintype κ] in
/-- With no agent followed, nothing received is left to be accounted for. -/
theorem outstanding_eq_zero (hnone : ∀ i, (s.agents i).standing ≠ .following) :
    s.outstanding = 0 :=
  Finset.sum_eq_zero fun i _ => if_neg (hnone i)

omit [DecidableEq κ] in
/-- The next phase starts. -/
theorem Merged.nextPhase (h : s.Merged) {offsetUs : ℕ} (hstep : s.nextPhase offsetUs = some s') :
    s'.Merged := by
  unfold ClusterCapture.nextPhase at hstep
  split at hstep
  · rename_i hready
    obtain ⟨hopen, hnone⟩ := hready
    obtain rfl := Option.some.inj hstep
    refine ⟨?_, h.handed, ?_, h.within, ?_, h.flushed⟩
    · intro i hi
      dsimp only at hi ⊢
      split
      · exact AgentCapture.carried_start _ _
      · rename_i hrest
        rw [if_neg hrest] at hi
        exact absurd hi (hnone i)
    · -- a fresh capture has not received anything
      have hzero : ∀ i, (if (s.agents i).standing = .finished then
          AgentCapture.start (agentLimit s.limit s.queued) s.capacity
          else s.agents i : AgentCapture κ).outstanding = 0 := by
        intro i
        split
        · simp [AgentCapture.outstanding, AgentCapture.start]
        · exact if_neg (hnone i)
      have haccounted := h.accounted
      rw [outstanding_eq_zero hnone] at haccounted
      simp only [outstanding, hzero, Finset.sum_const_zero]
      exact haccounted
    · intro hclose
      rw [hopen] at hclose
      cases hclose
  · cases hstep

omit [DecidableEq κ] in
/-- The writer takes a batch. -/
theorem Merged.takeBatch (h : s.Merged) (hstep : s.takeBatch = some s') : s'.Merged := by
  unfold ClusterCapture.takeBatch at hstep
  split at hstep
  · rename_i batch rest hempty hchannel
    obtain rfl := Option.some.inj hstep
    refine ⟨h.carried, ?_, h.accounted, h.within, h.closing, ?_⟩
    · have := h.handed
      rw [hempty, hchannel] at this
      simp only [channelRecords, List.map_cons, List.sum_cons, List.length_nil] at this
      show s.queued = channelRecords rest + batch.records.length + s.writer.done
      unfold channelRecords
      omega
    · intro hfin
      have hnone := (h.flushed hfin).2.1
      rw [hchannel] at hnone
      cases hnone
  · cases hstep

/-- A record the writer goes past is counted once, and within the limit when it
is written or lost. -/
theorem writeRecord_spec (limit : ℕ) (w : MergedWriter) (ok : Bool)
    (hwithin : w.written + w.lost ≤ effectiveLimit limit) :
    (writeRecord limit w ok).done = w.done + 1
      ∧ (writeRecord limit w ok).written + (writeRecord limit w ok).lost ≤ effectiveLimit limit
      ∧ (writeRecord limit w ok).finished = w.finished := by
  unfold writeRecord MergedWriter.done
  split
  · exact ⟨rfl, hwithin, rfl⟩
  · rename_i hroom
    split
    · refine ⟨?_, ?_, rfl⟩ <;> dsimp only <;> omega
    · split
      · refine ⟨?_, ?_, rfl⟩ <;> dsimp only <;> omega
      · refine ⟨?_, ?_, rfl⟩ <;> dsimp only <;> omega

omit [DecidableEq κ] in
/-- The writer goes past a record. -/
theorem Merged.write (h : s.Merged) {ok : Bool} (hstep : s.write ok = some s') : s'.Merged := by
  unfold ClusterCapture.write at hstep
  split at hstep
  · cases hstep
  · rename_i record rest hcurrent
    obtain rfl := Option.some.inj hstep
    obtain ⟨hdone, hwithin, hfinished⟩ := writeRecord_spec s.limit s.writer ok h.within
    refine ⟨h.carried, ?_, h.accounted, hwithin, h.closing, ?_⟩
    · have := h.handed
      rw [hcurrent, List.length_cons] at this
      show s.queued = channelRecords s.channel + rest.length + (writeRecord s.limit s.writer ok).done
      omega
    · intro hfin
      have hnone := (h.flushed (hfinished.symm.trans hfin)).2.2
      rw [hcurrent] at hnone
      cases hnone

/-- **Every step of a distributed capture keeps every record accounted
for.** -/
theorem Merged.step {action : ClusterCaptureAction agents κ} (h : s.Merged)
    (hstep : s.step action = some s') : s'.Merged := by
  cases action with
  | agent i action =>
    obtain ⟨a, ha, rfl⟩ := Option.map_eq_some_iff.mp hstep
    exact h.agent ha
  | receive i decodes => exact h.receive hstep
  | lose i => exact h.lose hstep
  | nextPhase offsetUs => exact h.nextPhase hstep
  | takeBatch => exact h.takeBatch hstep
  | write ok => exact h.write hstep
  | finish =>
    simp only [ClusterCapture.step, ClusterCapture.finish] at hstep
    split at hstep
    · rename_i hready
      obtain rfl := Option.some.inj hstep
      refine ⟨h.carried, h.handed, h.accounted, h.within, fun _ => hready.2, ?_⟩
      intro hfin
      exact ⟨rfl, (h.flushed hfin).2⟩
    · cases hstep
  | flush ok =>
    simp only [ClusterCapture.step, ClusterCapture.flush] at hstep
    split at hstep
    · rename_i hready
      obtain rfl := Option.some.inj hstep
      exact ⟨h.carried, h.handed, h.accounted, h.within, h.closing,
        fun _ => ⟨hready.1, hready.2.1, hready.2.2.1⟩⟩
    · cases hstep

/-- The limit of a distributed capture stays. -/
theorem limit_step {action : ClusterCaptureAction agents κ} (hstep : s.step action = some s') :
    s'.limit = s.limit := by
  cases action with
  | agent i action =>
    obtain ⟨a, ha, rfl⟩ := Option.map_eq_some_iff.mp hstep
    rfl
  | takeBatch =>
    simp only [ClusterCapture.step, ClusterCapture.takeBatch] at hstep
    split at hstep
    · obtain rfl := Option.some.inj hstep
      rfl
    · cases hstep
  | write ok =>
    simp only [ClusterCapture.step, ClusterCapture.write] at hstep
    split at hstep
    · cases hstep
    · obtain rfl := Option.some.inj hstep
      rfl
  | _ =>
    simp only [ClusterCapture.step, ClusterCapture.receive, ClusterCapture.lose,
      ClusterCapture.nextPhase, ClusterCapture.finish, ClusterCapture.flush] at hstep
    repeat' split at hstep
    all_goals first
      | (obtain rfl := Option.some.inj hstep; rfl)
      | cases hstep

end Steps

end ClusterCapture

/-! ## The agents' own limits

Each agent is given what is left of the limit when a phase starts. -/

/-- What a step of an agent does to its queue: a step of the queue, or
nothing. -/
theorem AgentCapture.queue_step {κ : Type} [DecidableEq κ] [Fintype κ] {a a' : AgentCapture κ}
    {action : ForwardAction κ} (hstep : a.step action = some a') :
    a'.queue = a.queue ∨ ∃ step, a.queue.step step = some a'.queue := by
  -- the thread's only access to the queue is to take from it
  have htaken : ∀ {command : CaptureCommand} {queue : CaptureQueue κ},
      a.queue.take = some (command, queue) → a.queue.step .take = some queue :=
    fun htake => congrArg (Option.map Prod.snd) htake
  cases action with
  | sessions action =>
    cases action with
    | take => cases hstep
    | _ =>
      obtain ⟨queue, hqueue, rfl⟩ := Option.map_eq_some_iff.mp hstep
      exact .inr ⟨_, hqueue⟩
  | gather =>
    simp only [AgentCapture.step, AgentCapture.gather] at hstep
    split at hstep
    · split at hstep
      · split at hstep
        · cases hstep
        · obtain rfl := Option.some.inj hstep
          exact .inl rfl
      · rename_i queue htake
        obtain rfl := Option.some.inj hstep
        exact .inr ⟨.take, htaken htake⟩
      · rename_i record queue htake
        obtain rfl := Option.some.inj hstep
        exact .inr ⟨.take, htaken htake⟩
    · cases hstep
  | fail =>
    obtain rfl := Option.some.inj hstep
    exact .inl rfl
  | _ =>
    simp only [AgentCapture.step, AgentCapture.send, AgentCapture.forward, AgentCapture.report]
      at hstep
    repeat' split at hstep
    all_goals first
      | (obtain rfl := Option.some.inj hstep; exact .inl rfl)
      | cases hstep

namespace ClusterCapture

variable {agents : ℕ} {κ : Type} [DecidableEq κ] [Fintype κ]

/-- Every agent keeps the claims of its sessions, within the limit of the
run. -/
structure Bounded (limit : ℕ) (s : ClusterCapture agents κ) : Prop where
  limit_eq : s.limit = limit
  claims : ∀ i, ∃ own ≤ limit, (s.agents i).queue.Claims own

omit [DecidableEq κ] in
/-- A fresh capture of a phase keeps what is left of the limit. -/
theorem claims_fresh {limit : ℕ} (hzero : 0 < limit) (hmax : limit < u64Max) (queued capacity : ℕ) :
    ∃ own ≤ limit, (AgentCapture.start (agentLimit limit queued) capacity
      : AgentCapture κ).queue.Claims own := by
  have hown : agentLimit limit queued = limit - queued := if_neg hzero.ne'
  refine ⟨limit - queued, Nat.sub_le _ _, ?_⟩
  rw [hown]
  exact CaptureQueue.claims_start capacity (by omega)

/-- What a step does to an agent's queue: a step of the queue, nothing, or a
fresh one. -/
theorem queue_step {s s' : ClusterCapture agents κ} {action : ClusterCaptureAction agents κ}
    (hstep : s.step action = some s') (i : Fin agents) :
    (s'.agents i).queue = (s.agents i).queue
      ∨ (∃ step, (s.agents i).queue.step step = some (s'.agents i).queue)
      ∨ s'.agents i = .start (agentLimit s.limit s.queued) s.capacity := by
  -- giving an agent another place in its phase leaves every queue alone
  have hset : ∀ {r : ClusterCapture agents κ} {j : Fin agents} {a : AgentCapture κ},
      r.agents = s.agents → a.queue = (s.agents j).queue →
      ((r.setAgent j a).agents i).queue = (s.agents i).queue := by
    intro r j a hagents hqueue
    by_cases hij : i = j
    · subst hij
      simp only [setAgent, Function.update_self]
      exact hqueue
    · simp only [setAgent, Function.update_of_ne hij, hagents]
  cases action with
  | agent j action =>
    obtain ⟨a, ha, rfl⟩ := Option.map_eq_some_iff.mp hstep
    by_cases hij : i = j
    · subst hij
      simp only [setAgent, Function.update_self]
      obtain hsame | hmoved := AgentCapture.queue_step ha
      · exact .inl hsame
      · exact .inr (.inl hmoved)
    · simp only [setAgent, Function.update_of_ne hij, true_or]
  | receive j decodes =>
    simp only [ClusterCapture.step, ClusterCapture.receive] at hstep
    repeat' split at hstep
    all_goals first
      | (obtain rfl := Option.some.inj hstep; exact .inl (hset rfl rfl))
      | cases hstep
  | lose j =>
    simp only [ClusterCapture.step, ClusterCapture.lose] at hstep
    split at hstep
    · obtain rfl := Option.some.inj hstep
      exact .inl (hset rfl rfl)
    · cases hstep
  | nextPhase offsetUs =>
    simp only [ClusterCapture.step, ClusterCapture.nextPhase] at hstep
    split at hstep
    · obtain rfl := Option.some.inj hstep
      dsimp only
      split
      · exact .inr (.inr rfl)
      · exact .inl rfl
    · cases hstep
  | _ =>
    simp only [ClusterCapture.step, ClusterCapture.takeBatch, ClusterCapture.write,
      ClusterCapture.finish, ClusterCapture.flush] at hstep
    repeat' split at hstep
    all_goals first
      | (obtain rfl := Option.some.inj hstep; exact .inl rfl)
      | cases hstep

/-- Every step keeps the agents' claims within the limit. -/
theorem Bounded.step {limit : ℕ} (hzero : 0 < limit) (hmax : limit < u64Max)
    {s s' : ClusterCapture agents κ} {action : ClusterCaptureAction agents κ}
    (h : s.Bounded limit) (hstep : s.step action = some s') : s'.Bounded limit := by
  refine ⟨(limit_step hstep).trans h.limit_eq, fun i => ?_⟩
  obtain ⟨own, hle, hclaims⟩ := h.claims i
  obtain hsame | ⟨step, hmoved⟩ | hfresh := queue_step hstep i
  · rw [hsame]
    exact ⟨own, hle, hclaims⟩
  · exact ⟨own, hle, hclaims.step hmoved⟩
  · rw [hfresh, h.limit_eq]
    exact claims_fresh hzero hmax s.queued s.capacity

end ClusterCapture

/-! ## What the summary says

At any moment of any run, and when the writer has returned. -/

section Summary

variable {κ : Type} [DecidableEq κ] [Fintype κ] {limit capacity : ℕ} {ok : Bool}

/-- Every moment of a local capture. -/
theorem LocalCapture.accounted_run {actions : List (LocalAction κ)} {s : LocalCapture κ}
    (hrun : Machine.run LocalCapture.step (.start limit capacity ok) actions = some s) :
    s.Accounted := by
  have hstart : (LocalCapture.start limit capacity ok : LocalCapture κ).Accounted :=
    CaptureQueue.feeding_start _ _
  exact Machine.run_inv LocalCapture.Accounted.step hstart hrun

/-- A local capture queues no more records than its limit. The largest limit
stands for none, and then the records queued are still among those
produced. -/
theorem LocalCapture.queued_le {actions : List (LocalAction κ)} {s : LocalCapture κ}
    (hrun : Machine.run LocalCapture.step (.start limit capacity ok) actions = some s)
    (hlimit : 0 < limit) (hcount : limit ≠ u64Max ∨ s.queue.produced ≤ u64Max) :
    s.queue.queued ≤ limit := by
  have heffective : effectiveLimit limit = limit := if_neg hlimit.ne'
  by_cases hmax : limit = u64Max
  · have hbalance := (accounted_run hrun).balance
    obtain hcount | hcount := hcount
    · exact absurd hmax hcount
    · omega
  · have hstart : (LocalCapture.start limit capacity ok : LocalCapture κ).queue.Claims limit := by
      unfold LocalCapture.start
      rw [heffective]
      exact CaptureQueue.claims_start capacity hmax
    have hclaims : s.queue.Claims limit :=
      Machine.run_inv (P := fun s => s.queue.Claims limit) LocalCapture.claims_step hstart hrun
    have hwithin := hclaims.within
    omega

/-- When the writer of a local capture returns, every record is written or
counted as dropped. -/
theorem LocalCapture.summary_sum {actions : List (LocalAction κ)} {s : LocalCapture κ}
    (hrun : Machine.run LocalCapture.step (.start limit capacity ok) actions = some s)
    (hfinished : s.writer.finished = true) :
    (s.summary limit).framesWritten + (s.summary limit).framesDropped = s.queue.produced := by
  have haccounted := accounted_run hrun
  unfold LocalCapture.Accounted at haccounted
  rw [hfinished] at haccounted
  have hsettled := haccounted.settled
  show s.writer.written + (s.queue.dropped + s.writer.lost) = s.queue.produced
  omega

variable {agents : ℕ}

/-- Every moment of a distributed capture. -/
theorem ClusterCapture.merged_run {actions : List (ClusterCaptureAction agents κ)}
    {s : ClusterCapture agents κ}
    (hrun : Machine.run ClusterCapture.step (.start limit capacity ok) actions = some s) :
    s.Merged ∧ s.limit = limit :=
  Machine.run_inv (P := fun s => s.Merged ∧ s.limit = limit)
    (fun h hstep => ⟨h.1.step hstep, (limit_step hstep).trans h.2⟩)
    ⟨merged_start limit capacity ok, rfl⟩ hrun

/-- When the writer of a distributed capture returns, the records accounted for
are those the finished agents produced and those received from the lost
ones. -/
theorem ClusterCapture.summary_sum {actions : List (ClusterCaptureAction agents κ)}
    {s : ClusterCapture agents κ}
    (hrun : Machine.run ClusterCapture.step (.start limit capacity ok) actions = some s)
    (hfinished : s.writer.finished = true) :
    s.summary.framesWritten + s.summary.framesDropped = s.expected := by
  obtain ⟨hmerged, -⟩ := merged_run hrun
  obtain ⟨hclosed, hchannel, hcurrent⟩ := hmerged.flushed hfinished
  have hnone := outstanding_eq_zero (hmerged.closing hclosed)
  have hhanded := hmerged.handed
  rw [hchannel, hcurrent] at hhanded
  have hqueued : s.queued = s.writer.done := by
    simpa [channelRecords] using hhanded
  have haccounted := hmerged.accounted
  unfold MergedWriter.done at hqueued
  show s.writer.written + (s.agentsDropped + s.writer.lost + s.writer.overLimit) = s.expected
  omega

/-- The merged file never holds more records than the limit. -/
theorem ClusterCapture.framesWritten_le {actions : List (ClusterCaptureAction agents κ)}
    {s : ClusterCapture agents κ}
    (hrun : Machine.run ClusterCapture.step (.start limit capacity ok) actions = some s)
    (hlimit : 0 < limit) : s.summary.framesWritten ≤ limit := by
  obtain ⟨hmerged, rfl⟩ := merged_run hrun
  have hwithin := hmerged.within
  rw [effectiveLimit, if_neg hlimit.ne'] at hwithin
  show s.writer.written ≤ s.limit
  omega

/-- No agent queues more records than the limit. -/
theorem ClusterCapture.queued_le {actions : List (ClusterCaptureAction agents κ)}
    {s : ClusterCapture agents κ}
    (hrun : Machine.run ClusterCapture.step (.start limit capacity ok) actions = some s)
    (hlimit : 0 < limit) (hmax : limit < u64Max) (i : Fin agents) :
    (s.agents i).queue.queued ≤ limit := by
  have hstart : (ClusterCapture.start limit capacity ok : ClusterCapture agents κ).Bounded limit :=
    ⟨rfl, fun _ => claims_fresh hlimit hmax 0 capacity⟩
  have hbounded : s.Bounded limit := Machine.run_inv (Bounded.step hlimit hmax) hstart hrun
  obtain ⟨own, hle, hclaims⟩ := hbounded.claims i
  have hwithin := hclaims.within
  omega

end Summary

/-- **Every record of a capture is accounted for**, in every interleaving of
the sessions with the threads behind them and for every write that may fail.
A local capture queues no more than its limit, and its summary adds up to the
records the sessions produced. The summary of a distributed capture adds up to
the records the finished agents produced and those received from agents that
were lost, and the merged file stays within the limit. -/
theorem records_accounted (κ : Type) [DecidableEq κ] [Fintype κ] (agents limit capacity : ℕ)
    (ok : Bool) :
    (∀ (actions : List (LocalAction κ)) (s : LocalCapture κ),
      Machine.run LocalCapture.step (.start limit capacity ok) actions = some s →
        (0 < limit → limit ≠ u64Max ∨ s.queue.produced ≤ u64Max → s.queue.queued ≤ limit)
        ∧ (s.writer.finished = true →
          (s.summary limit).framesWritten + (s.summary limit).framesDropped = s.queue.produced))
    ∧ ∀ (actions : List (ClusterCaptureAction agents κ)) (s : ClusterCapture agents κ),
      Machine.run ClusterCapture.step (.start limit capacity ok) actions = some s →
        (0 < limit → limit < u64Max → ∀ i, (s.agents i).queue.queued ≤ limit)
        ∧ (0 < limit → s.summary.framesWritten ≤ limit)
        ∧ (s.writer.finished = true →
          s.summary.framesWritten + s.summary.framesDropped = s.expected) := by
  refine ⟨fun actions s hrun => ⟨?_, ?_⟩, fun actions s hrun => ⟨?_, ?_, ?_⟩⟩
  · exact LocalCapture.queued_le hrun
  · exact LocalCapture.summary_sum hrun
  · exact ClusterCapture.queued_le hrun
  · exact ClusterCapture.framesWritten_le hrun
  · exact ClusterCapture.summary_sum hrun

/-! ### A limit of one record for two agents

A local run and a distributed one in which every kind of loss happens once: over
the limit, at the flush, with the agent. -/

/-- A local capture: a second record is over the limit, and the file cannot be
flushed. -/
def overLimitCapture : List (LocalAction (Fin 1)) :=
  [.sessions (.call 0 ⟨0, .sent, .opened⟩), .sessions (.claim 0), .sessions (.trySend 0 5),
    .sessions (.call 0 ⟨0, .recv, .opened⟩), .sessions (.endSession 0), .sessions .finish,
    .write true, .write false]

/-- A session of an agent records one frame, and the agent's thread takes
it. -/
def oneRecord (i : Fin 2) : List (ClusterCaptureAction 2 (Fin 1)) :=
  [.agent i (.sessions (.call 0 ⟨0, .sent, .opened⟩)), .agent i (.sessions (.claim 0)),
    .agent i (.sessions (.trySend 0 5)), .agent i .gather]

/-- Both agents forward a record. The first finishes, the second is lost, and
its record comes after the limit is reached. -/
def sharedLimit : List (ClusterCaptureAction 2 (Fin 1)) :=
  let first : Fin 2 := ⟨0, Nat.zero_lt_two⟩
  let second : Fin 2 := ⟨1, Nat.one_lt_two⟩
  let rest : List (ClusterCaptureAction 2 (Fin 1)) :=
    [.agent first (.sessions (.endSession 0)), .agent first (.sessions .finish),
      .agent first .gather, .agent first .send, .agent first .forward, .agent first .report,
      .agent second .gather, .agent second .send, .agent second .forward, .receive first true,
      .receive second true, .receive first true, .lose second, .finish, .takeBatch, .write true,
      .takeBatch, .write true, .flush true]
  oneRecord first ++ oneRecord second ++ rest

theorem overLimitCapture_sharedLimit_accounted :
    (∃ s, Machine.run LocalCapture.step (.start 1 4 true) overLimitCapture = some s
      ∧ s.queue.queued ≤ 1 ∧ (s.summary 1).framesWritten + (s.summary 1).framesDropped = 2)
    ∧ ∃ s, Machine.run ClusterCapture.step (.start 1 4 true) sharedLimit = some s
      ∧ s.summary.framesWritten ≤ 1 ∧ s.summary.framesWritten + s.summary.framesDropped = 2 := by
  obtain ⟨hlocal, hcluster⟩ := records_accounted (Fin 1) 2 1 4 true
  have hlast : (Machine.run LocalCapture.step (.start 1 4 true) overLimitCapture).map
      (fun s => (s.writer.finished, s.queue.produced)) = some (true, 2) := by decide +kernel
  have hmerged : (Machine.run ClusterCapture.step (.start 1 4 true) sharedLimit).map
      (fun s => (s.writer.finished, s.expected)) = some (true, 2) := by decide +kernel
  obtain ⟨s, hs, hlast⟩ := Option.map_eq_some_iff.mp hlast
  obtain ⟨t, ht, hmerged⟩ := Option.map_eq_some_iff.mp hmerged
  obtain ⟨hfinished, hproduced⟩ := Prod.mk.inj hlast
  obtain ⟨hflushed, hexpected⟩ := Prod.mk.inj hmerged
  refine ⟨⟨s, hs, ?_, ?_⟩, ⟨t, ht, ?_, ?_⟩⟩
  · exact (hlocal overLimitCapture s hs).1 Nat.one_pos (.inl (by decide))
  · rw [(hlocal overLimitCapture s hs).2 hfinished, hproduced]
  · exact (hcluster sharedLimit t ht).2.1 Nat.one_pos
  · rw [(hcluster sharedLimit t ht).2.2 hflushed, hexpected]

end WsBlast
