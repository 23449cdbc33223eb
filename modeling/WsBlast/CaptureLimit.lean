import WsBlast.Capture

/-!
# The limit of a capture

The sessions of a capture with a limit claim a slot before they queue a
record. `slots` counts the calls that hold one, those about to send and those
about to give it back, and the claim counter is never below the records queued
and the slots held (`Claims`). So no more records than the limit are ever
queued.

The counter can be above: a session that finds the limit used up between its
load and its `fetch_add` does not give back what it added. From then on the
counter says that a record was queued which was not. In a run without such a
claim the counter is exact (`Exact`), and a record is dropped for the limit
only when the limit is used up, unless another call stands between a refused
send and its `fetch_sub`.

The amounts are counted by the steps: an `Effect` says of each step how the
claim counter, the records queued and the calls in between move. Keeping a
bound is then arithmetic, with one case that is not: a claim below the limit
takes a slot, a claim at the limit takes none and is over.
-/

namespace WsBlast

namespace RecordCall

/-- 1 for a call that is not over. -/
def inProgress : RecordCall → ℕ
  | idle => 0
  | _ => 1

/-- 1 for a call between its `fetch_add` and its `try_send`. -/
def sends : RecordCall → ℕ
  | sending _ => 1
  | _ => 0

/-- 1 for a call between a refused `try_send` and its `fetch_sub`. -/
def refunds : RecordCall → ℕ
  | refunding _ => 1
  | _ => 0

end RecordCall

namespace CaptureQueue

variable {κ : Type} [DecidableEq κ] [Fintype κ]

/-- The calls between their `fetch_add` and their `try_send`. -/
def sending (q : CaptureQueue κ) : ℕ := ∑ i, (q.sessions i).call.sends

/-- The calls between a refused `try_send` and their `fetch_sub`. -/
def refunding (q : CaptureQueue κ) : ℕ := ∑ i, (q.sessions i).call.refunds

/-- No call is in progress. -/
def Quiet (q : CaptureQueue κ) : Prop := ∀ i, (q.sessions i).call = .idle

section Sums

variable (q : CaptureQueue κ) (i : κ)

theorem sending_setSession (s : CaptureSession) :
    (q.setSession i s).sending + (q.sessions i).call.sends = q.sending + s.call.sends :=
  Machine.sum_update (fun s : CaptureSession => s.call.sends) q.sessions i s

theorem refunding_setSession (s : CaptureSession) :
    (q.setSession i s).refunding + (q.sessions i).call.refunds = q.refunding + s.call.refunds :=
  Machine.sum_update (fun s : CaptureSession => s.call.refunds) q.sessions i s

omit [DecidableEq κ] in
theorem sending_of_quiet (h : q.Quiet) : q.sending = 0 :=
  Finset.sum_eq_zero fun i _ => by rw [h i]; rfl

omit [DecidableEq κ] in
theorem refunding_of_quiet (h : q.Quiet) : q.refunding = 0 :=
  Finset.sum_eq_zero fun i _ => by rw [h i]; rfl

end Sums

/-! ## What the claim counter stands for

Steps in terms of amounts, over the integers, since a refund takes one back. -/

/-- What a step does to the claim counter, the records queued and the calls
that hold a slot. -/
structure Moved (q q' : CaptureQueue κ) (claimed queued sending refunding : ℤ) : Prop where
  limit : q'.limit = q.limit
  claimed : (q'.claimed : ℤ) = q.claimed + claimed
  queued : (q'.queued : ℤ) = q.queued + queued
  sending : (q'.sending : ℤ) = q.sending + sending
  refunding : (q'.refunding : ℤ) = q.refunding + refunding

/-- A step that moves session `i` on, and perhaps the counters. -/
theorem moved_setSession {q r : CaptureQueue κ} {i : κ} {s : CaptureSession}
    {claimed queued sending refunding : ℤ} (hsessions : r.sessions = q.sessions)
    (hlimit : r.limit = q.limit) (hclaimed : (r.claimed : ℤ) = q.claimed + claimed)
    (hqueued : (r.queued : ℤ) = q.queued + queued)
    (hsends : (s.call.sends : ℤ) = (q.sessions i).call.sends + sending)
    (hrefunds : (s.call.refunds : ℤ) = (q.sessions i).call.refunds + refunding) :
    Moved q (r.setSession i s) claimed queued sending refunding where
  limit := hlimit
  claimed := hclaimed
  queued := hqueued
  sending := by
    have h := sending_setSession r i s
    rw [hsessions] at h
    have hsame : r.sending = q.sending := by
      unfold CaptureQueue.sending
      rw [hsessions]
    omega
  refunding := by
    have h := refunding_setSession r i s
    rw [hsessions] at h
    have hsame : r.refunding = q.refunding := by
      unfold CaptureQueue.refunding
      rw [hsessions]
    omega

omit [DecidableEq κ] in
/-- A step that touches no session, no claim and no count. -/
theorem moved_of_same {q q' : CaptureQueue κ} (hlimit : q'.limit = q.limit)
    (hclaimed : q'.claimed = q.claimed) (hqueued : q'.queued = q.queued)
    (hsessions : q'.sessions = q.sessions) : Moved q q' 0 0 0 0 where
  limit := hlimit
  claimed := by rw [hclaimed, add_zero]
  queued := by rw [hqueued, add_zero]
  sending := by
    unfold sending
    rw [hsessions, add_zero]
  refunding := by
    unfold refunding
    rw [hsessions, add_zero]

/-- **What a step does to the claims** of a capture with a limit. -/
inductive Effect (q : CaptureQueue κ) : CaptureAction κ → CaptureQueue κ → Prop where
  /-- The load finds the limit used up. -/
  | overLimit {i : κ} {frame : CaptureFrame} {q' : CaptureQueue κ} (h : q.limit ≤ q.claimed)
      (moved : Moved q q' 0 0 0 0) : Effect q (.call i frame) q'
  | begins {i : κ} {frame : CaptureFrame} {q' : CaptureQueue κ} (h : q.claimed < q.limit)
      (moved : Moved q q' 0 0 0 0) : Effect q (.call i frame) q'
  /-- The `fetch_add` finds the limit used up, and is not undone. -/
  | overClaim {i : κ} {q' : CaptureQueue κ} (h : q.limit ≤ q.claimed)
      (moved : Moved q q' 1 0 0 0) : Effect q (.claim i) q'
  | claims {i : κ} {q' : CaptureQueue κ} (h : q.claimed < q.limit)
      (moved : Moved q q' 1 0 1 0) : Effect q (.claim i) q'
  | queues {i : κ} {tUs : ℕ} {q' : CaptureQueue κ} (moved : Moved q q' 0 1 (-1) 0) :
      Effect q (.trySend i tUs) q'
  | refuses {i : κ} {tUs : ℕ} {q' : CaptureQueue κ} (moved : Moved q q' 0 0 (-1) 1) :
      Effect q (.trySend i tUs) q'
  | refunds {i : κ} {q' : CaptureQueue κ}
      (moved : Moved q q' ((q.claimed - 1 : ℕ) - q.claimed) 0 0 (-1)) : Effect q (.refund i) q'
  /-- A session ends, the capture finishes or a command is taken. -/
  | other {action : CaptureAction κ} {q' : CaptureQueue κ} (moved : Moved q q' 0 0 0 0) :
      Effect q action q'

theorem step_effect {q q' : CaptureQueue κ} {action : CaptureAction κ} (hlimited : q.Limited)
    (h : q.step action = some q') : Effect q action q' := by
  cases action with
  | call i frame =>
    obtain ⟨hidle, -, ⟨-, hover, rfl⟩ | ⟨-, hunder, rfl⟩ | ⟨hunlimited, -⟩⟩ := call_cases h
    · refine .overLimit hover (moved_setSession rfl rfl ?_ ?_ ?_ ?_) <;>
        simp [hidle, RecordCall.sends, RecordCall.refunds]
    · refine .begins hunder (moved_setSession rfl rfl ?_ ?_ ?_ ?_) <;>
        simp [hidle, RecordCall.sends, RecordCall.refunds]
    · exact absurd hlimited hunlimited
  | claim i =>
    obtain ⟨frame, hcall, ⟨hover, rfl⟩ | ⟨hunder, rfl⟩⟩ := claim_cases h
    · refine .overClaim hover (moved_setSession rfl rfl ?_ ?_ ?_ ?_) <;>
        simp [hcall, RecordCall.sends, RecordCall.refunds]
    · refine .claims hunder (moved_setSession rfl rfl ?_ ?_ ?_ ?_) <;>
        simp [hcall, RecordCall.sends, RecordCall.refunds]
  | trySend i tUs =>
    obtain ⟨frame, hcall, rfl | ⟨-, rfl⟩ | ⟨hunlimited, -⟩⟩ := trySend_cases h
    · refine .queues (moved_setSession rfl rfl ?_ ?_ ?_ ?_) <;>
        simp [hcall, RecordCall.sends, RecordCall.refunds]
    · refine .refuses (moved_setSession rfl rfl ?_ ?_ ?_ ?_) <;>
        simp [hcall, RecordCall.sends, RecordCall.refunds]
    · exact absurd hlimited hunlimited
  | refund i =>
    obtain ⟨frame, hcall, rfl⟩ := refund_cases h
    refine .refunds (moved_setSession rfl rfl ?_ ?_ ?_ ?_) <;>
      simp [hcall, RecordCall.sends, RecordCall.refunds]
  | endSession i =>
    obtain ⟨hidle, -, rfl⟩ := endSession_cases h
    refine .other (moved_setSession rfl rfl ?_ ?_ ?_ ?_) <;> simp
  | finish =>
    obtain ⟨-, -, rfl⟩ := finish_cases h
    exact .other (moved_of_same rfl rfl rfl rfl)
  | take =>
    obtain ⟨⟨command, rest⟩, htake, rfl⟩ := Option.map_eq_some_iff.mp h
    obtain ⟨rest, -, rfl⟩ := take_cases htake
    exact .other (moved_of_same rfl rfl rfl rfl)

/-- The limit of a capture stays. -/
theorem limit_step {q q' : CaptureQueue κ} {action : CaptureAction κ} (hlimited : q.Limited)
    (h : q.step action = some q') : q'.limit = q.limit := by
  cases step_effect hlimited h with
  | refunds moved => exact moved.limit
  | _ => exact Moved.limit ‹_›

/-! ## No more than the limit is queued

The counter is at least what was queued and what is held, and slots are taken
below the limit only. -/

/-- **The claims of a capture with a limit**: every record queued and every
slot held is claimed, and they are within the limit. -/
structure Claims (limit : ℕ) (q : CaptureQueue κ) : Prop where
  limit_eq : q.limit = limit
  limited : q.Limited
  covered : q.queued + q.sending + q.refunding ≤ q.claimed
  within : q.queued + q.sending + q.refunding ≤ limit

omit [DecidableEq κ] in
theorem claims_start {limit : ℕ} (capacity : ℕ) (hlimit : limit ≠ u64Max) :
    Claims limit (start limit capacity : CaptureQueue κ) where
  limit_eq := rfl
  limited := hlimit
  covered := by simp [start, sending, refunding, RecordCall.sends, RecordCall.refunds]
  within := by simp [start, sending, refunding, RecordCall.sends, RecordCall.refunds]

/-- Every step keeps the claims: a slot is taken only below the limit. -/
theorem Claims.step {limit : ℕ} {q q' : CaptureQueue κ} {action : CaptureAction κ}
    (hq : Claims limit q) (h : q.step action = some q') : Claims limit q' := by
  obtain ⟨rfl, hlimited, hcovered, hwithin⟩ := hq
  have hlimit := limit_step hlimited h
  have hkeeps : q'.queued + q'.sending + q'.refunding ≤ q'.claimed
      ∧ q'.queued + q'.sending + q'.refunding ≤ q.limit := by
    cases step_effect hlimited h with
    | overLimit _ moved | begins _ moved | other moved =>
      obtain ⟨-, hclaimed, hqueued, hsending, hrefunding⟩ := moved
      omega
    | overClaim _ moved =>
      obtain ⟨-, hclaimed, hqueued, hsending, hrefunding⟩ := moved
      omega
    | claims hunder moved =>
      obtain ⟨-, hclaimed, hqueued, hsending, hrefunding⟩ := moved
      omega
    | queues moved =>
      obtain ⟨-, hclaimed, hqueued, hsending, hrefunding⟩ := moved
      omega
    | refuses moved =>
      obtain ⟨-, hclaimed, hqueued, hsending, hrefunding⟩ := moved
      omega
    | refunds moved =>
      obtain ⟨-, hclaimed, hqueued, hsending, hrefunding⟩ := moved
      omega
  refine ⟨hlimit, ?_, hkeeps.1, hkeeps.2⟩
  unfold Limited
  rw [hlimit]
  exact hlimited

/-! ## A drop for the limit is justified

With an exact counter, a load that finds the limit used up is right about the
slots and may be wrong about the records: a slot that is about to be given back
is not a record. -/

/-- A step whose limit check drops its record. -/
def DropsForLimit (q : CaptureQueue κ) : CaptureAction κ → Prop
  | .call _ _ => q.Limited ∧ q.limit ≤ q.claimed
  | .claim _ => q.limit ≤ q.claimed
  | _ => False

/-- A step whose limit check can be trusted: no `fetch_add` comes after the
last slot was taken, and no load finds the limit used up while a call stands
between a refused send and its `fetch_sub`. -/
def Trusted (q : CaptureQueue κ) : CaptureAction κ → Prop
  | .call _ _ => q.limit ≤ q.claimed → q.refunding = 0
  | .claim _ => q.claimed < q.limit
  | _ => True

instance (q : CaptureQueue κ) : (action : CaptureAction κ) → Decidable (q.Trusted action)
  | .call _ _ => inferInstanceAs (Decidable (q.limit ≤ q.claimed → q.refunding = 0))
  | .claim _ => inferInstanceAs (Decidable (q.claimed < q.limit))
  | .trySend _ _ => .isTrue trivial
  | .refund _ => .isTrue trivial
  | .endSession _ => .isTrue trivial
  | .finish => .isTrue trivial
  | .take => .isTrue trivial

/-- The claim counter is exactly the records queued and the slots held. -/
structure Exact (limit : ℕ) (q : CaptureQueue κ) : Prop extends Claims limit q where
  claimed_eq : q.claimed = q.queued + q.sending + q.refunding

/-- A step whose limit check can be trusted keeps the counter exact. -/
theorem Exact.step {limit : ℕ} {q q' : CaptureQueue κ} {action : CaptureAction κ}
    (hq : Exact limit q) (htrusted : q.Trusted action) (h : q.step action = some q') :
    Exact limit q' := by
  refine ⟨hq.toClaims.step h, ?_⟩
  have hexact := hq.claimed_eq
  cases step_effect hq.limited h with
  | overLimit _ moved | begins _ moved | other moved =>
    obtain ⟨-, hclaimed, hqueued, hsending, hrefunding⟩ := moved
    omega
  | overClaim hover moved => exact absurd htrusted (Nat.not_lt_of_le hover)
  | claims _ moved =>
    obtain ⟨-, hclaimed, hqueued, hsending, hrefunding⟩ := moved
    omega
  | queues moved =>
    obtain ⟨-, hclaimed, hqueued, hsending, hrefunding⟩ := moved
    omega
  | refuses moved =>
    obtain ⟨-, hclaimed, hqueued, hsending, hrefunding⟩ := moved
    omega
  | refunds moved =>
    obtain ⟨-, hclaimed, hqueued, hsending, hrefunding⟩ := moved
    omega

omit [DecidableEq κ] in
/-- **With an exact counter a drop for the limit is justified if and only if
its limit check can be trusted**: the counter is at the limit, and a slot about
to be given back is missing from the records queued or about to be. -/
theorem Exact.justified_iff {limit : ℕ} {q : CaptureQueue κ} (hq : Exact limit q)
    {i : κ} {frame : CaptureFrame} (hdrops : q.DropsForLimit (.call i frame)) :
    limit ≤ q.queued + q.sending ↔ q.Trusted (.call i frame) := by
  have hexact := hq.claimed_eq
  have hwithin := hq.within
  have hover : q.limit ≤ q.claimed := hdrops.2
  have hlimit := hq.limit_eq
  show _ ↔ (q.limit ≤ q.claimed → q.refunding = 0)
  constructor
  · intro hused _
    omega
  · intro htrusted
    have := htrusted hover
    omega

end CaptureQueue

section Limit

variable {κ : Type} [DecidableEq κ] [Fintype κ]

/-- **A capture drops for the limit only when the limit is used up**, in every
run whose limit checks can all be trusted: at every drop the records queued and
those of calls between their `fetch_add` and their `try_send` make up the
limit, and when no call is in progress the counter is the number of records
queued. -/
theorem limit_drops_justified {limit : ℕ} (hlimit : limit ≠ u64Max) (capacity : ℕ)
    {actions : List (CaptureAction κ)} {q : CaptureQueue κ}
    (hrun : Machine.run CaptureQueue.step (.start limit capacity) actions = some q)
    (htrusted : Machine.Throughout CaptureQueue.step CaptureQueue.Trusted
      (.start limit capacity) actions) :
    (∀ action, q.Trusted action → q.DropsForLimit action → limit ≤ q.queued + q.sending)
      ∧ (q.Quiet → q.claimed = q.queued) := by
  have hstart : CaptureQueue.Exact limit (.start limit capacity : CaptureQueue κ) := by
    refine ⟨CaptureQueue.claims_start capacity hlimit, ?_⟩
    simp [CaptureQueue.start, CaptureQueue.sending, CaptureQueue.refunding, RecordCall.sends,
      RecordCall.refunds]
  have hexact : CaptureQueue.Exact limit q := htrusted.run_inv CaptureQueue.Exact.step hstart hrun
  refine ⟨?_, ?_⟩
  · intro action hok hdrops
    cases action with
    | call i frame => exact (hexact.justified_iff hdrops).mpr hok
    | claim i => exact absurd hok (Nat.not_lt_of_le hdrops)
    | _ => exact absurd hdrops id
  · intro hquiet
    rw [hexact.claimed_eq, q.sending_of_quiet hquiet, q.refunding_of_quiet hquiet]
    rfl

end Limit

/-! ### Three sessions and a channel for one record

An example in which a record takes from the limit before the channel refuses it.
-/

/-- Three sessions with a limit of 2: the first record fills the channel, the
second session takes the last slot, the third adds to the counter for nothing,
the second finds the channel full and gives its slot back, and the channel is
emptied. -/
def racingClaims : List (CaptureAction (Fin 3)) :=
  let frame : CaptureFrame := ⟨0, .sent, .opened⟩
  [.call 0 frame, .claim 0, .trySend 0 5, .call 1 frame, .call 2 frame, .claim 1, .claim 2,
    .trySend 1 6, .refund 1, .take]

/-- The next record is dropped for the limit though one of two was queued, and
the counter stays above the records queued when no call is in progress. -/
theorem racingClaims_drops : ∃ q, Machine.run CaptureQueue.step (.start 2 1) racingClaims = some q
    ∧ q.Quiet ∧ q.DropsForLimit (.call 0 ⟨0, .sent, .opened⟩)
    ∧ (q.step (.call 0 ⟨0, .sent, .opened⟩)).isSome
    ∧ ¬(2 ≤ q.queued + q.sending) ∧ ¬(q.claimed = q.queued) := by
  -- the run is evaluated, and so are its counters
  refine ⟨_, rfl, ?_, ?_, rfl, ?_, ?_⟩
  · unfold CaptureQueue.Quiet
    decide
  · exact ⟨by decide, by decide⟩
  · decide
  · decide

/-- Two sessions that record one after the other. -/
def oneByOne : List (CaptureAction (Fin 2)) :=
  let frame : CaptureFrame := ⟨0, .sent, .opened⟩
  [.call 0 frame, .claim 0, .trySend 0 5, .call 1 frame, .claim 1, .trySend 1 6]

/-- With a limit of 2 the next record is dropped because the limit is used
up. -/
theorem oneByOne_drops : ∃ q, Machine.run CaptureQueue.step (.start 2 4) oneByOne = some q
    ∧ q.DropsForLimit (.call 0 ⟨0, .sent, .opened⟩) ∧ 2 ≤ q.queued + q.sending := by
  refine ⟨_, rfl, ⟨by decide, by decide⟩, ?_⟩
  have htrusted :
      Machine.Throughout CaptureQueue.step CaptureQueue.Trusted (.start 2 4) oneByOne := by
    decide
  refine (limit_drops_justified (by decide) 4 rfl htrusted).1 (.call 0 ⟨0, .sent, .opened⟩)
    ?_ ⟨by decide, by decide⟩
  exact fun _ => by decide

end WsBlast
