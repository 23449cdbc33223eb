import WsBlast.CaptureLimit
import WsBlast.CaptureLine

/-!
# Every record of a capture is accounted for

A record that a session produced is in a call, counted as dropped by its
session or by all of them, on its way to the thread behind the channel, or
taken by that thread: `Feeding` says so of the sessions and the channel, with
the number of records the thread took as a parameter. It is kept by every step
of the sessions, and when the thread takes the finish marker nothing is left
on the way.

On a local run the thread writes the capture file, and every record it takes
is written or lost. On a distributed run it forwards the records in batches to
the agent's control task, which sends them to the coordinator, which hands
them to the thread that writes the merged file: `Carried` follows the records
of one agent, and `Merged` those of the whole run.

An accounting equation over a queue needs to know that the queue ends. The
finish marker is the last thing in the channel, and the thread stops at it; were
a record queued behind the marker, it would be neither written nor counted.
-/

namespace WsBlast

/-! ## The sessions and the channel

Two equations, one for what was produced and one for what was queued, and the
shape of the channel's end. -/

/-- The records a session has dropped or is in the middle of. -/
def CaptureSession.held (s : CaptureSession) : ℕ :=
  (if s.ended then 0 else s.dropped) + s.call.inProgress

/-- The records among some commands. -/
def recordsIn (channel : List CaptureCommand) : ℕ := channel.countP (· ≠ .finish)

@[simp] theorem recordsIn_nil : recordsIn [] = 0 := rfl

@[simp] theorem recordsIn_append (a b : List CaptureCommand) :
    recordsIn (a ++ b) = recordsIn a + recordsIn b := List.countP_append

@[simp] theorem recordsIn_cons_record (r : CaptureRecord) (rest : List CaptureCommand) :
    recordsIn (.record r :: rest) = recordsIn rest + 1 := by
  unfold recordsIn
  rw [List.countP_cons]
  rfl

@[simp] theorem recordsIn_cons_finish (rest : List CaptureCommand) :
    recordsIn (.finish :: rest) = recordsIn rest := by
  unfold recordsIn
  rw [List.countP_cons]
  rfl

namespace CaptureQueue

variable {κ : Type} [DecidableEq κ] [Fintype κ]

/-- The records the sessions have dropped or are in the middle of. -/
def held (q : CaptureQueue κ) : ℕ := ∑ i, (q.sessions i).held

/-- Nothing comes after the finish marker: the channel before the marker is
sent, with the marker in it, and after the marker was taken. -/
def Marked (drained finished : Bool) (channel : List CaptureCommand) : Prop :=
  match drained, finished with
  | true, finished => finished = true ∧ channel = []
  | false, true => ∃ records, channel = records ++ [.finish] ∧ .finish ∉ records
  | false, false => .finish ∉ channel

/-- **Where the records of a capture are**, when the thread behind the channel
took `taken` of them; `drained` says that it took the finish marker too. -/
structure Feeding (q : CaptureQueue κ) (taken : ℕ) (drained : Bool) : Prop where
  balance : q.produced = q.held + q.dropped + q.queued
  onTheWay : q.queued = taken + recordsIn q.channel
  /-- A session that has ended is in no call. -/
  resting : ∀ i, (q.sessions i).ended = true → (q.sessions i).call = .idle
  closing : q.finished = true → ∀ i, (q.sessions i).ended = true
  marker : Marked drained q.finished q.channel

omit [DecidableEq κ] in
theorem feeding_start (limit capacity : ℕ) :
    Feeding (start limit capacity : CaptureQueue κ) 0 false where
  balance := by simp [start, held, CaptureSession.held, RecordCall.inProgress]
  onTheWay := rfl
  resting i h := by simp [start] at h
  closing h := by simp [start] at h
  marker := List.not_mem_nil

/-- A session moves on, and the records it holds change by what the counters
say. -/
theorem Feeding.setSession {q r : CaptureQueue κ} {taken : ℕ} {drained : Bool}
    (h : Feeding q taken drained) {i : κ} {s : CaptureSession} (hsessions : r.sessions = q.sessions)
    (hfinished : r.finished = q.finished)
    (hbalance : r.produced + (q.sessions i).held + q.dropped + q.queued
      = q.produced + s.held + r.dropped + r.queued)
    (hchannel : r.queued + recordsIn q.channel = q.queued + recordsIn r.channel)
    (hresting : s.ended = true → s.call = .idle) (hclosing : q.finished = true → s.ended = true)
    (hmarker : r.channel = q.channel ∨ q.finished = false ∧ drained = false
      ∧ ∃ record, r.channel = q.channel ++ [.record record]) :
    Feeding (r.setSession i s) taken drained where
  balance := by
    -- what the sessions hold changes by what this one holds
    have hsum : (r.setSession i s).held + (r.sessions i).held = r.held + s.held :=
      Machine.sum_update CaptureSession.held r.sessions i s
    have hsame : r.held = q.held := by
      unfold held
      rw [hsessions]
    rw [hsessions] at hsum
    have := h.balance
    show r.produced = (r.setSession i s).held + r.dropped + r.queued
    omega
  onTheWay := by
    have := h.onTheWay
    show r.queued = taken + recordsIn r.channel
    omega
  resting := by
    intro j hj
    by_cases hji : j = i
    · subst hji
      simp only [CaptureQueue.setSession, Function.update_self] at hj ⊢
      exact hresting hj
    · simp only [CaptureQueue.setSession, Function.update_of_ne hji, hsessions] at hj ⊢
      exact h.resting j hj
  closing := by
    intro hfin j
    have hfin' : q.finished = true := by
      rw [← hfinished]
      exact hfin
    by_cases hji : j = i
    · subst hji
      simp only [CaptureQueue.setSession, Function.update_self]
      exact hclosing hfin'
    · simp only [CaptureQueue.setSession, Function.update_of_ne hji, hsessions]
      exact h.closing hfin' j
  marker := by
    have hold := h.marker
    show Marked drained r.finished r.channel
    rw [hfinished]
    -- a record may be added to the channel only in front of the marker
    obtain hsame | ⟨hopen, hdrained, record, hadded⟩ := hmarker
    · rw [hsame]
      exact hold
    · subst hdrained
      rw [hopen] at hold ⊢
      show CaptureCommand.finish ∉ r.channel
      rw [hadded]
      have hold' : CaptureCommand.finish ∉ q.channel := hold
      simpa using hold'

/-- **Every step of the sessions keeps every record accounted for.** -/
theorem Feeding.step {q q' : CaptureQueue κ} {taken : ℕ} {drained : Bool}
    (h : Feeding q taken drained) {action : CaptureAction κ} (haction : action ≠ .take)
    (hstep : q.step action = some q') : Feeding q' taken drained := by
  -- a session that moves has not ended, so no finish marker was sent
  have hopen : ∀ i, (q.sessions i).ended = false ∨ (q.sessions i).call ≠ .idle →
      q.finished = false ∧ drained = false := by
    intro i hi
    have hfin : q.finished = false := by
      by_contra hfin
      rw [Bool.not_eq_false] at hfin
      have hended := h.closing hfin i
      obtain hi | hi := hi
      · rw [hi] at hended
        cases hended
      · exact hi (h.resting i hended)
    refine ⟨hfin, ?_⟩
    have hmarker := h.marker
    cases drained with
    | false => rfl
    | true =>
      rw [hfin] at hmarker
      exact absurd hmarker.1 Bool.false_ne_true
  have hactive : ∀ i, (q.sessions i).call ≠ .idle → (q.sessions i).ended = false := by
    intro i hi
    by_contra hended
    rw [Bool.not_eq_false] at hended
    exact hi (h.resting i hended)
  cases action with
  | call i frame =>
    obtain ⟨hidle, hended, ⟨-, -, rfl⟩ | ⟨-, -, rfl⟩ | ⟨-, rfl⟩⟩ := call_cases hstep
    all_goals
      refine h.setSession rfl rfl ?_ rfl ?_ ?_ (.inl rfl)
      · simp [CaptureSession.held, RecordCall.inProgress, hidle, hended]
        omega
      · simp [hended]
      · simp [(hopen i (.inl hended)).1]
  | claim i =>
    obtain ⟨frame, hcall, ⟨-, rfl⟩ | ⟨-, rfl⟩⟩ := claim_cases hstep
    all_goals
      have hended := hactive i (by simp [hcall])
      refine h.setSession rfl rfl ?_ rfl ?_ ?_ (.inl rfl)
      · simp [CaptureSession.held, RecordCall.inProgress, hcall, hended]
      · simp [hended]
      · simp [(hopen i (.inl hended)).1]
  | trySend i tUs =>
    obtain ⟨frame, hcall, rfl | ⟨-, rfl⟩ | ⟨-, rfl⟩⟩ := trySend_cases hstep
    · have hended := hactive i (by simp [hcall])
      obtain ⟨hfin, hdrained⟩ := hopen i (.inl hended)
      refine h.setSession rfl rfl ?_ ?_ ?_ ?_ (.inr ⟨hfin, hdrained, _, rfl⟩)
      · simp [CaptureSession.held, RecordCall.inProgress, hcall, hended]
        omega
      · simp
        omega
      · simp [hended]
      · simp [hfin]
    all_goals
      have hended := hactive i (by simp [hcall])
      refine h.setSession rfl rfl ?_ rfl ?_ ?_ (.inl rfl)
      · simp [CaptureSession.held, RecordCall.inProgress, hcall, hended]
      · simp [hended]
      · simp [(hopen i (.inl hended)).1]
  | refund i =>
    obtain ⟨frame, hcall, rfl⟩ := refund_cases hstep
    have hended := hactive i (by simp [hcall])
    refine h.setSession rfl rfl ?_ rfl ?_ ?_ (.inl rfl)
    · simp [CaptureSession.held, RecordCall.inProgress, hcall, hended]
    · simp [hended]
    · simp [(hopen i (.inl hended)).1]
  | endSession i =>
    obtain ⟨hidle, hended, rfl⟩ := endSession_cases hstep
    refine h.setSession rfl rfl ?_ rfl ?_ ?_ (.inl rfl)
    · simp [CaptureSession.held, RecordCall.inProgress, hidle, hended]
      omega
    · simp [hidle]
    · simp
  | finish =>
    obtain ⟨hended, hfin, rfl⟩ := finish_cases hstep
    refine ⟨h.balance, ?_, h.resting, fun _ => hended, ?_⟩
    · simpa using h.onTheWay
    · have hmarker := h.marker
      rw [hfin] at hmarker
      cases drained with
      | true => exact absurd hmarker.1 Bool.false_ne_true
      | false => exact ⟨q.channel, rfl, hmarker⟩
  | take => exact absurd rfl haction

omit [DecidableEq κ] in
/-- The thread takes a record. -/
theorem Feeding.take_record {q q' : CaptureQueue κ} {taken : ℕ} {drained : Bool}
    (h : Feeding q taken drained) {r : CaptureRecord} (htake : q.take = some (.record r, q')) :
    Feeding q' (taken + 1) drained := by
  obtain ⟨rest, hchannel, rfl⟩ := take_cases htake
  refine ⟨h.balance, ?_, h.resting, h.closing, ?_⟩
  · have := h.onTheWay
    rw [hchannel, recordsIn_cons_record] at this
    show q.queued = taken + 1 + recordsIn rest
    omega
  · have hmarker := h.marker
    rw [hchannel] at hmarker
    show Marked drained q.finished rest
    cases drained with
    | true => exact absurd hmarker.2 (List.cons_ne_nil _ _)
    | false =>
      cases hfin : q.finished with
      | false =>
        rw [hfin] at hmarker
        exact fun hmem => hmarker (List.mem_cons_of_mem _ hmem)
      | true =>
        rw [hfin] at hmarker
        obtain ⟨records, hsplit, hnone⟩ := hmarker
        cases records with
        | nil => cases (List.cons.inj hsplit).1
        | cons first records =>
          exact ⟨records, (List.cons.inj hsplit).2, fun hmem => hnone (List.mem_cons_of_mem _ hmem)⟩

omit [DecidableEq κ] in
/-- The thread takes the finish marker, behind which nothing is left. -/
theorem Feeding.take_finish {q q' : CaptureQueue κ} {taken : ℕ} {drained : Bool}
    (h : Feeding q taken drained) (htake : q.take = some (.finish, q')) :
    Feeding q' taken true := by
  obtain ⟨rest, hchannel, rfl⟩ := take_cases htake
  have hmarker := h.marker
  rw [hchannel] at hmarker
  have hlast : q.finished = true ∧ rest = [] := by
    cases drained with
    | true => exact absurd hmarker.2 (List.cons_ne_nil _ _)
    | false =>
      cases hfin : q.finished with
      | false =>
        rw [hfin] at hmarker
        exact absurd List.mem_cons_self hmarker
      | true =>
        rw [hfin] at hmarker
        obtain ⟨records, hsplit, hnone⟩ := hmarker
        cases records with
        | nil => exact ⟨rfl, (List.cons.inj hsplit).2⟩
        | cons first records =>
          refine absurd ?_ hnone
          rw [← (List.cons.inj hsplit).1]
          exact List.mem_cons_self
  refine ⟨h.balance, ?_, h.resting, h.closing, hlast⟩
  have := h.onTheWay
  rw [hchannel, recordsIn_cons_finish] at this
  exact this

omit [DecidableEq κ] in
/-- **Once the thread has taken the finish marker, every record was dropped or
taken.** -/
theorem Feeding.settled {q : CaptureQueue κ} {taken : ℕ} (h : Feeding q taken true) :
    q.produced = q.dropped + taken := by
  obtain ⟨hfin, hempty⟩ := h.marker
  have hheld : q.held = 0 := by
    refine Finset.sum_eq_zero fun i _ => ?_
    have hended := h.closing hfin i
    simp [CaptureSession.held, RecordCall.inProgress, hended, h.resting i hended]
  have hbalance := h.balance
  have hway := h.onTheWay
  rw [hempty, recordsIn_nil] at hway
  omega

end CaptureQueue

/-! ## A local run -/

/-- The thread that writes a capture file. -/
structure CaptureWriter where
  written : ℕ := 0
  /-- Records taken from the channel when a write failed, or after. -/
  lost : ℕ := 0
  /-- A write has failed. -/
  failed : Bool := false
  /-- The thread has returned. -/
  finished : Bool := false
  deriving DecidableEq, Repr

namespace CaptureWriter

/-- A record is taken: nothing is written after an error, and `ok` says
whether the write of this record succeeds. -/
def takeRecord (w : CaptureWriter) (ok : Bool) : CaptureWriter :=
  if w.failed then { w with lost := w.lost + 1 }
  else if ok then { w with written := w.written + 1 }
  else { w with lost := w.lost + 1, failed := true }

/-- The thread leaves its loop; `ok` says whether the flush succeeds. -/
def leave (w : CaptureWriter) (ok : Bool) : CaptureWriter :=
  { w with failed := w.failed || !ok, finished := true }

/-- A record that is taken is written or lost. -/
theorem takeRecord_sum (w : CaptureWriter) (ok : Bool) :
    (w.takeRecord ok).written + (w.takeRecord ok).lost = w.written + w.lost + 1 := by
  unfold takeRecord
  split
  · exact (Nat.add_assoc _ _ _).symm
  · split
    · exact Nat.add_right_comm _ _ _
    · exact (Nat.add_assoc _ _ _).symm

theorem finished_takeRecord (w : CaptureWriter) (ok : Bool) :
    (w.takeRecord ok).finished = w.finished := by
  unfold takeRecord
  split
  · rfl
  · split <;> rfl

end CaptureWriter

/-- What the report says of a capture. -/
structure CaptureSummary where
  framesWritten : ℕ
  framesDropped : ℕ
  limit : ℕ
  deriving DecidableEq, Repr

/-- A capture of a local run. -/
structure LocalCapture (κ : Type) where
  queue : CaptureQueue κ
  writer : CaptureWriter

/-- A step of a local capture. -/
inductive LocalAction (κ : Type) where
  /-- A step of the sessions, or the call of `finish`. -/
  | sessions (action : CaptureAction κ)
  /-- The writer takes the next command; `ok` says whether the write, or the
  flush behind the finish marker, succeeds. -/
  | write (ok : Bool)
  deriving DecidableEq, Repr

namespace LocalCapture

variable {κ : Type} [DecidableEq κ] [Fintype κ]

/-- A capture with a configured limit; `ok` says whether the header is
written. -/
def start (limit capacity : ℕ) (ok : Bool) : LocalCapture κ where
  queue := .start (effectiveLimit limit) capacity
  writer := { failed := !ok }

/-- The writer takes the next command. -/
def write (s : LocalCapture κ) (ok : Bool) : Option (LocalCapture κ) :=
  if s.writer.finished then none
  else match s.queue.take with
    | none => none
    | some (.record _, queue) => some ⟨queue, s.writer.takeRecord ok⟩
    | some (.finish, queue) => some ⟨queue, s.writer.leave ok⟩

/-- One step of a local capture. -/
def step (s : LocalCapture κ) : LocalAction κ → Option (LocalCapture κ)
  | .sessions .take => none
  | .sessions action => (s.queue.step action).map fun queue => { s with queue }
  | .write ok => s.write ok

/-- What `finish` returns, once the writer has returned. -/
def summary (s : LocalCapture κ) (limit : ℕ) : CaptureSummary where
  framesWritten := s.writer.written
  framesDropped := s.queue.dropped + s.writer.lost
  limit := limit

/-- Every record is accounted for, those the writer took as written or lost. -/
def Accounted (s : LocalCapture κ) : Prop :=
  s.queue.Feeding (s.writer.written + s.writer.lost) s.writer.finished

/-- Every step of a local capture keeps every record accounted for. -/
theorem Accounted.step {s s' : LocalCapture κ} {action : LocalAction κ} (h : s.Accounted)
    (hstep : s.step action = some s') : s'.Accounted := by
  cases action with
  | sessions action =>
    by_cases htake : action = .take
    · subst htake
      cases hstep
    · have hsessions : (s.queue.step action).map (fun queue => { s with queue }) = some s' := by
        cases action with
        | take => exact absurd rfl htake
        | _ => exact hstep
      obtain ⟨queue, hqueue, rfl⟩ := Option.map_eq_some_iff.mp hsessions
      exact CaptureQueue.Feeding.step h htake hqueue
  | write ok =>
    have hwrite : s.write ok = some s' := hstep
    unfold write at hwrite
    split at hwrite
    · cases hwrite
    · split at hwrite
      · cases hwrite
      · rename_i record queue htake
        obtain rfl := Option.some.inj hwrite
        unfold Accounted
        rw [CaptureWriter.takeRecord_sum, CaptureWriter.finished_takeRecord]
        exact CaptureQueue.Feeding.take_record h htake
      · rename_i queue htake
        obtain rfl := Option.some.inj hwrite
        exact CaptureQueue.Feeding.take_finish h htake

/-- A capture with a limit keeps the claims of its sessions. -/
theorem claims_step {limit : ℕ} {s s' : LocalCapture κ} {action : LocalAction κ}
    (h : s.queue.Claims limit) (hstep : s.step action = some s') : s'.queue.Claims limit := by
  have htaken : ∀ {command : CaptureCommand} {queue : CaptureQueue κ},
      s.queue.take = some (command, queue) → queue.Claims limit := by
    intro command queue htake
    have hqueue : s.queue.step .take = some queue := congrArg (Option.map Prod.snd) htake
    exact h.step hqueue
  cases action with
  | sessions action =>
    cases action with
    | take => cases hstep
    | _ =>
      obtain ⟨queue, hqueue, rfl⟩ := Option.map_eq_some_iff.mp hstep
      exact h.step hqueue
  | write ok =>
    have hwrite : s.write ok = some s' := hstep
    unfold write at hwrite
    split at hwrite
    · cases hwrite
    · split at hwrite
      · cases hwrite
      · rename_i record queue htake
        obtain rfl := Option.some.inj hwrite
        exact htaken htake
      · rename_i queue htake
        obtain rfl := Option.some.inj hwrite
        exact htaken htake

end LocalCapture

end WsBlast
