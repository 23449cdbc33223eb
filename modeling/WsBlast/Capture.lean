import WsBlast.Message
import WsBlast.Lib.Machine

/-!
# Recording frames for a capture

With `--capture` every session hands its frames to one queue, which a thread
empties. `CaptureHandle::record` never waits: it claims a slot when the
capture has a limit, and offers the record to a bounded channel. It is four
accesses to what the sessions share, a load, a `fetch_add`, a `try_send` and a
`fetch_sub`, and the sessions interleave them in any order
(`CaptureQueue.step`). A record that cannot be queued is counted by its
session, which adds its count to the shared one when it ends.

`Balanced` says where the records of a capture are at any moment: in a call,
dropped, or queued. `Claims` says what the shared claim counter stands for.

The call is cut at its accesses because that is where another session can come
in between. The load is a shortcut for captures that are long past their limit;
the `fetch_add` is what decides.
-/

namespace WsBlast

/-! ## Records

A frame as the session hands it over, and the record that the thread gets: the
same with a time. -/

/-- Direction of a recorded frame, from the client's point of view. -/
inductive Dir where
  | sent
  | recv
  deriving DecidableEq, Repr

/-- The direction as a capture file spells it. -/
def Dir.asStr : Dir → String
  | sent => "sent"
  | recv => "recv"

/-- What a record holds. -/
inductive CaptureEvent where
  | opened
  | text (text : String)
  | binary (bytes : Bytes)
  | close (frame : Option CloseFrame)
  deriving DecidableEq, Repr

/-- What a session asks to be recorded. -/
structure CaptureFrame where
  worker : ℕ
  dir : Dir
  event : CaptureEvent
  deriving DecidableEq, Repr

/-- A record: a frame and the microseconds since the start of the capture. -/
structure CaptureRecord extends CaptureFrame where
  tUs : ℕ
  deriving DecidableEq, Repr

/-- What travels to the thread that empties the queue. -/
inductive CaptureCommand where
  | record (record : CaptureRecord)
  /-- Sent once, when the capture finishes. -/
  | finish
  deriving DecidableEq, Repr

/-- The largest 64-bit value; as a limit it stands for none. -/
def u64Max : ℕ := 2 ^ 64 - 1

/-- The limit the sessions check, for a configured one: 0 means unlimited. -/
def effectiveLimit (limit : ℕ) : ℕ := if limit = 0 then u64Max else limit

/-! ## Sessions -/

/-- Where a session is in a call of `record`. -/
inductive RecordCall where
  | idle
  /-- The load found the limit not used up; the `fetch_add` is next. -/
  | claiming (frame : CaptureFrame)
  /-- The record has its slot, or needs none; the `try_send` is next. -/
  | sending (frame : CaptureFrame)
  /-- The channel did not take the record; the `fetch_sub` is next. -/
  | refunding (frame : CaptureFrame)
  deriving DecidableEq, Repr

/-- A session's wrapped socket. -/
structure CaptureSession where
  call : RecordCall := .idle
  /-- Records this session dropped. -/
  dropped : ℕ := 0
  /-- The session has ended and added its count to the shared one. -/
  ended : Bool := false
  deriving DecidableEq, Repr

/-- What the sessions of a capture share, with the sessions. `produced` and
`queued` count the calls and the records that went into the channel; nothing
reads them. -/
structure CaptureQueue (κ : Type) where
  /-- The effective limit. -/
  limit : ℕ
  /-- Records the channel holds at most. -/
  capacity : ℕ
  claimed : ℕ := 0
  dropped : ℕ := 0
  channel : List CaptureCommand := []
  /-- The finish marker was sent. -/
  finished : Bool := false
  sessions : κ → CaptureSession := fun _ => {}
  produced : ℕ := 0
  queued : ℕ := 0

/-- A step of a session, or the end of the capture. -/
inductive CaptureAction (κ : Type) where
  /-- `record` is called and loads the claim counter. -/
  | call (session : κ) (frame : CaptureFrame)
  /-- The `fetch_add`. -/
  | claim (session : κ)
  /-- The record is made and offered to the channel. -/
  | trySend (session : κ) (tUs : ℕ)
  /-- The `fetch_sub`. -/
  | refund (session : κ)
  /-- The session is dropped. -/
  | endSession (session : κ)
  /-- `finish` is called, with every session dropped, and sends its marker. -/
  | finish
  /-- The thread behind the channel takes the next command. -/
  | take
  deriving DecidableEq, Repr

namespace CaptureQueue

variable {κ : Type} [DecidableEq κ]

/-- Whether the sessions check a limit. -/
def Limited (q : CaptureQueue κ) : Prop := q.limit ≠ u64Max

instance (q : CaptureQueue κ) : Decidable q.Limited := inferInstanceAs (Decidable (q.limit ≠ u64Max))

/-- One session goes on. -/
def setSession (q : CaptureQueue κ) (i : κ) (session : CaptureSession) : CaptureQueue κ :=
  { q with sessions := Function.update q.sessions i session }

/-- A session counts the record of its call as dropped and returns. -/
def drop (q : CaptureQueue κ) (i : κ) : CaptureQueue κ :=
  q.setSession i { q.sessions i with call := .idle, dropped := (q.sessions i).dropped + 1 }

/-- A session's call goes on to its next access. -/
def goOn (q : CaptureQueue κ) (i : κ) (call : RecordCall) : CaptureQueue κ :=
  q.setSession i { q.sessions i with call }

/-- `record` is called: over the limit, a load is enough. -/
def call (q : CaptureQueue κ) (i : κ) (frame : CaptureFrame) : Option (CaptureQueue κ) :=
  if (q.sessions i).call = .idle ∧ (q.sessions i).ended = false then
    let q := { q with produced := q.produced + 1 }
    if q.Limited then
      if q.limit ≤ q.claimed then some (q.drop i) else some (q.goOn i (.claiming frame))
    else some (q.goOn i (.sending frame))
  else none

/-- Claims a slot, so racing sessions never queue more than the limit. -/
def claim (q : CaptureQueue κ) (i : κ) : Option (CaptureQueue κ) :=
  match (q.sessions i).call with
  | .claiming frame =>
    let held := q.claimed
    let q := { q with claimed := q.claimed + 1 }
    if q.limit ≤ held then some (q.drop i) else some (q.goOn i (.sending frame))
  | _ => none

/-- Offers the record to the channel. -/
def trySend (q : CaptureQueue κ) (i : κ) (tUs : ℕ) : Option (CaptureQueue κ) :=
  match (q.sessions i).call with
  | .sending frame =>
    if q.channel.length < q.capacity then
      let q := { q with
        channel := q.channel ++ [CaptureCommand.record ⟨frame, tUs⟩]
        queued := q.queued + 1 }
      some (q.goOn i .idle)
    else if q.Limited then some (q.goOn i (.refunding frame))
    else some (q.drop i)
  | _ => none

/-- Gives the slot of a record back that was not queued. -/
def refund (q : CaptureQueue κ) (i : κ) : Option (CaptureQueue κ) :=
  match (q.sessions i).call with
  | .refunding _ =>
    let q := { q with claimed := q.claimed - 1 }
    some (q.drop i)
  | _ => none

/-- A session is dropped between two calls. -/
def endSession (q : CaptureQueue κ) (i : κ) : Option (CaptureQueue κ) :=
  if (q.sessions i).call = .idle ∧ (q.sessions i).ended = false then
    let held := (q.sessions i).dropped
    let q := { q with dropped := q.dropped + held }
    some (q.setSession i { q.sessions i with ended := true })
  else none

/-- The thread behind the channel takes the next command. -/
def take (q : CaptureQueue κ) : Option (CaptureCommand × CaptureQueue κ) :=
  match q.channel with
  | [] => none
  | command :: rest => some (command, { q with channel := rest })

section Finish

variable [Fintype κ]

/-- Sends the finish marker, once there is room for it. -/
def finish (q : CaptureQueue κ) : Option (CaptureQueue κ) :=
  if (∀ i, (q.sessions i).ended = true) ∧ q.finished = false ∧ q.channel.length < q.capacity then
    some { q with channel := q.channel ++ [.finish], finished := true }
  else none

/-- One step of a capture. -/
def step (q : CaptureQueue κ) : CaptureAction κ → Option (CaptureQueue κ)
  | .call i frame => q.call i frame
  | .claim i => q.claim i
  | .trySend i tUs => q.trySend i tUs
  | .refund i => q.refund i
  | .endSession i => q.endSession i
  | .finish => q.finish
  | .take => q.take.map Prod.snd

end Finish

/-- A capture before its first record, for an effective limit. -/
def start (limit capacity : ℕ) : CaptureQueue κ := { limit, capacity }

/-! ## What a step can do

One lemma for each step, with everything the step changes. -/

section Steps

variable {q q' : CaptureQueue κ} {i : κ}

/-- A call starts: it is dropped for the limit, or goes on to claim or, without
a limit, to send. -/
theorem call_cases {frame : CaptureFrame} (h : q.call i frame = some q') :
    (q.sessions i).call = .idle ∧ (q.sessions i).ended = false
      ∧ (q.Limited ∧ q.limit ≤ q.claimed ∧ q' = drop { q with produced := q.produced + 1 } i
        ∨ q.Limited ∧ q.claimed < q.limit
          ∧ q' = goOn { q with produced := q.produced + 1 } i (.claiming frame)
        ∨ ¬q.Limited ∧ q' = goOn { q with produced := q.produced + 1 } i (.sending frame)) := by
  unfold call at h
  split at h
  · rename_i hidle
    refine ⟨hidle.1, hidle.2, ?_⟩
    dsimp only at h
    split at h
    · rename_i hlimited
      split at h
      · rename_i hover
        exact .inl ⟨hlimited, hover, (Option.some.inj h).symm⟩
      · rename_i hunder
        exact .inr (.inl ⟨hlimited, Nat.lt_of_not_le hunder, (Option.some.inj h).symm⟩)
    · rename_i hunlimited
      exact .inr (.inr ⟨hunlimited, (Option.some.inj h).symm⟩)
  · cases h

/-- A claim takes a slot, or finds the limit used up and keeps what it added. -/
theorem claim_cases (h : q.claim i = some q') : ∃ frame, (q.sessions i).call = .claiming frame
    ∧ (q.limit ≤ q.claimed ∧ q' = drop { q with claimed := q.claimed + 1 } i
      ∨ q.claimed < q.limit
        ∧ q' = goOn { q with claimed := q.claimed + 1 } i (.sending frame)) := by
  unfold claim at h
  split at h
  · rename_i frame hcall
    refine ⟨frame, hcall, ?_⟩
    by_cases hover : q.limit ≤ q.claimed
    · exact .inl ⟨hover, by simpa [hover] using h.symm⟩
    · exact .inr ⟨Nat.lt_of_not_le hover, by simpa [hover] using h.symm⟩
  · cases h

/-- A send queues the record, or finds the channel full. -/
theorem trySend_cases {tUs : ℕ} (h : q.trySend i tUs = some q') :
    ∃ frame, (q.sessions i).call = .sending frame
      ∧ (q' = goOn { q with
          channel := q.channel ++ [CaptureCommand.record ⟨frame, tUs⟩]
          queued := q.queued + 1 } i .idle
        ∨ q.Limited ∧ q' = q.goOn i (.refunding frame)
        ∨ ¬q.Limited ∧ q' = q.drop i) := by
  unfold trySend at h
  split at h
  · rename_i frame hcall
    refine ⟨frame, hcall, ?_⟩
    split at h
    · exact .inl (Option.some.inj h).symm
    · split at h
      · rename_i hlimited
        exact .inr (.inl ⟨hlimited, (Option.some.inj h).symm⟩)
      · rename_i hlimited
        exact .inr (.inr ⟨hlimited, (Option.some.inj h).symm⟩)
  · cases h

theorem refund_cases (h : q.refund i = some q') : ∃ frame, (q.sessions i).call = .refunding frame
    ∧ q' = drop { q with claimed := q.claimed - 1 } i := by
  unfold refund at h
  split at h
  · rename_i frame hcall
    exact ⟨frame, hcall, (Option.some.inj h).symm⟩
  · cases h

theorem endSession_cases (h : q.endSession i = some q') :
    (q.sessions i).call = .idle ∧ (q.sessions i).ended = false
      ∧ q' = setSession { q with dropped := q.dropped + (q.sessions i).dropped } i
        { q.sessions i with ended := true } := by
  unfold endSession at h
  split at h
  · rename_i hidle
    exact ⟨hidle.1, hidle.2, (Option.some.inj h).symm⟩
  · cases h

omit [DecidableEq κ] in
theorem finish_cases [Fintype κ] (h : q.finish = some q') :
    (∀ i, (q.sessions i).ended = true) ∧ q.finished = false
      ∧ q' = { q with channel := q.channel ++ [.finish], finished := true } := by
  unfold finish at h
  split at h
  · rename_i hended
    exact ⟨hended.1, hended.2.1, (Option.some.inj h).symm⟩
  · cases h

omit [DecidableEq κ] in
theorem take_cases {command : CaptureCommand} (h : q.take = some (command, q')) :
    ∃ rest, q.channel = command :: rest ∧ q' = { q with channel := rest } := by
  unfold take at h
  split at h
  · cases h
  · rename_i next rest hchannel
    obtain ⟨rfl, rfl⟩ := Prod.mk.inj (Option.some.inj h)
    exact ⟨rest, hchannel, rfl⟩

end Steps

end CaptureQueue

end WsBlast
