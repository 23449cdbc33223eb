import WsBlast.Ledger

/-!
# Every session keeps its ledger

One specification for each piece of the session loops, over the ledger of
`Ledger`: what the piece needs, what holds when it goes on, and that the
session is over with nothing left to count when it leaves. Each loop keeps
`Running` from turn to turn, so each session ends with every error counted
(`keeps_modeLoop`).

The specifications are triples over the ledger as a monitor: they speak of
every trace of a program, however its questions are answered. `Keeps` is the
form for pieces of a loop, which may leave the session instead of going on;
leaving is only allowed with nothing due, so a piece that finds its connection
gone has to record its errors first.
-/

namespace WsBlast

open Proc.Monitor (Triple StepTriple)

namespace Ledger

variable {cap : Option ℕ} {slot : Slot} {R : Type} {pre : Ledger → Prop}

/-- A piece of a session: it goes on in `post`, or leaves with no error due. -/
abbrev Keeps (cap : Option ℕ) (slot : Slot) (pre : Ledger → Prop) (p : Round R)
    (post : R → Ledger → Prop) : Prop :=
  StepTriple (monitor cap) pre p post fun _ => Due cap slot 0

/-- A program of a session that cannot leave. -/
abbrev Holds (cap : Option ℕ) (pre : Ledger → Prop) (p : Session R) (post : R → Ledger → Prop) :
    Prop :=
  Triple (monitor cap) pre p post

/-! ## Questions

Most questions leave the ledger as it is, and one theorem says so for all of
them. -/

/-- Questions the ledger does not react to. -/
theorem holds_silent {e : Eff} (hsound : ∀ s, pre s → Sound cap s)
    (hstep : ∀ (s : Ledger) a, s.step cap ⟨e, a⟩ = s) :
    Holds cap pre (Proc.ask e : Session e.Answer) fun _ => pre :=
  Triple.ask_of_silent hsound hstep

section Silent

variable (hsound : ∀ s, pre s → Sound cap s)

include hsound

theorem holds_isCancelled : Holds cap pre Ask.isCancelled fun _ => pre :=
  holds_silent hsound fun _ _ => rfl

theorem holds_cancel : Holds cap pre Ask.cancel fun _ => pre :=
  holds_silent hsound fun _ _ => rfl

theorem holds_now : Holds cap pre Ask.now fun _ => pre :=
  holds_silent hsound fun _ _ => rfl

theorem holds_wallClock : Holds cap pre Ask.wallClock fun _ => pre :=
  holds_silent hsound fun _ _ => rfl

theorem holds_sleep (timer : Timer) : Holds cap pre (Ask.sleep timer) fun _ => pre :=
  holds_silent hsound fun _ _ => rfl

theorem holds_sendIgnored (message : Message) :
    Holds cap pre (Ask.sendIgnored message) fun _ => pre :=
  holds_silent hsound fun _ _ => rfl

/-- Records the ledger does not react to. -/
theorem holds_record {r : Record} (hr : ∀ s : Ledger, s.record r = s) :
    Holds cap pre (Ask.record r) fun _ => pre :=
  holds_silent hsound fun s _ => hr s

end Silent

/-- A wait, by the branch that was ready. -/
theorem holds_select (wait : Wait) (hsound : ∀ s, pre s → Sound cap s) :
    Holds cap pre (Ask.select wait) fun woken s => wait.has woken = true ∧
      ∃ s₀, pre s₀ ∧ s = s₀.observe wait.place woken.ending := by
  refine Triple.ask fun s woken hs hadm => ⟨?_, hadm, s, hs, rfl⟩
  exact ⟨(hsound s hs).matched, (hsound s hs).covered, (hsound s hs).turns⟩

/-- A send whose result is looked at. -/
theorem holds_send (message : Message) (hsound : ∀ s, pre s → Sound cap s) :
    Holds cap pre (Ask.send message) fun result s =>
      ∃ s₀, pre s₀ ∧ s = s₀.observe .write (sendEnding result) := by
  refine Triple.ask fun s result hs _ => ⟨?_, s, hs, rfl⟩
  exact ⟨(hsound s hs).matched, (hsound s hs).covered, (hsound s hs).turns⟩

/-- An error that was due. -/
theorem holds_recordError_due (err : ErrorCategory) (n : ℕ) :
    Holds cap (Due cap slot (n + 1)) (recordError err .attempt)
      fun _ => Due cap slot n :=
  Triple.ask fun _ _ hs _ => ⟨(hs.record_attempt err).toSound, hs.record_attempt err⟩

/-- An error that was due and ends the message in flight. -/
theorem holds_recordError_sentDue (err : ErrorCategory) (n : ℕ) :
    Holds cap (SentDue cap slot (n + 1)) (recordError err .sentMessage)
      fun _ => Due cap slot n :=
  Triple.ask fun _ _ hs _ => ⟨(hs.record err).toSound, hs.record err⟩

/-- An error while the session goes on. -/
theorem holds_recordError_running (err : ErrorCategory) :
    Holds cap (Running cap slot) (recordError err .attempt)
      fun _ => Running cap slot :=
  Triple.ask fun _ _ hs _ =>
    ⟨⟨hs.matched, hs.covered, hs.turns⟩, ⟨⟨hs.matched, hs.covered, hs.turns⟩, hs.going, hs.kept⟩⟩

/-- An error of the message in flight while the session goes on. -/
theorem holds_recordError_sent (err : ErrorCategory) :
    Holds cap (Sent cap slot) (recordError err .sentMessage) fun _ => Running cap slot :=
  Triple.ask fun _ _ hs _ => ⟨(hs.record err).toSound, hs.record err⟩

/-- A message is sent for the claim that was made. -/
theorem holds_messageSent (bytes : ℕ) :
    Holds cap (Claimed cap slot) (Ask.record (.messageSent bytes))
      fun _ => Sent cap slot :=
  Triple.ask fun _ _ hs _ => ⟨(hs.record bytes).toSound, hs.record bytes⟩

/-! ## Leaving a session

A session is left by `breakSession`, with a Close or without. -/

theorem Due.sound {n : ℕ} (s : Ledger) (h : Due cap slot n s) : Sound cap s := h.toSound

theorem Running.sound (s : Ledger) (h : Running cap slot s) : Sound cap s := h.toSound

theorem Claimed.sound (s : Ledger) (h : Claimed cap slot s) : Sound cap s := h.toSound

theorem Sent.sound (s : Ledger) (h : Sent cap slot s) : Sound cap s := h.toSound

theorem holds_sessionEnd (hsound : ∀ s, pre s → Sound cap s) :
    Holds cap pre sessionEnd fun _ => pre :=
  Triple.bind (holds_isCancelled hsound) fun _ =>
    Triple.ite (fun _ => Triple.pure fun _ h => h) fun _ => Triple.pure fun _ h => h

theorem keeps_breakSession {post : R → Ledger → Prop} :
    Keeps cap slot (Due cap slot 0) breakSession post :=
  StepTriple.bind (StepTriple.lift (holds_sessionEnd Due.sound)) fun _ =>
    StepTriple.throw fun _ h => h

theorem keeps_closeAndBreak {post : R → Ledger → Prop} (hover : ∀ s, pre s → Due cap slot 0 s) :
    Keeps cap slot pre closeAndBreak post := by
  refine StepTriple.weaken ?_ hover fun _ _ h => h
  exact StepTriple.bind (StepTriple.lift (holds_sendIgnored Due.sound _)) fun _ =>
    keeps_breakSession

/-- A session that is going on can be left at any time. -/
theorem Running.over (s : Ledger) (h : Running cap slot s) : Due cap slot 0 s := h.due 0

theorem Sent.over (s : Ledger) (h : Sent cap slot s) : Due cap slot 0 s := h.due 0

theorem Claimed.over (s : Ledger) (h : Claimed cap slot s) : Due cap slot 0 s := h.due 0

theorem keeps_failWrite {post : R → Ledger → Prop} (err : WsError) :
    Keeps cap slot (Due cap slot 1) (failWrite err) post :=
  StepTriple.bind (StepTriple.lift (holds_recordError_due _ 0)) fun _ => keeps_breakSession

theorem keeps_failSent {post : R → Ledger → Prop} (category : ErrorCategory) :
    Keeps cap slot (SentDue cap slot 1) (failSent category) post :=
  StepTriple.bind (StepTriple.lift (holds_recordError_sentDue _ 0)) fun _ => keeps_breakSession

/-! ## What the loops share

Keepalives, think times, faults and pauses count nothing. -/

variable {config : LoadTestConfig} {scenario : Option ScenarioPhase}

section Shared

variable (hsound : ∀ s, pre s → Sound cap s)

include hsound

theorem holds_sendKeepalive : Holds cap pre (sendKeepalive config) fun _ => pre :=
  Triple.ite (fun _ => holds_sendIgnored hsound _) fun _ => Triple.pure fun _ h => h

theorem holds_applyThinkTime : Holds cap pre (applyThinkTime scenario) fun _ => pre := by
  unfold applyThinkTime
  cases scenario with
  | none => exact Triple.pure fun _ h => h
  | some phase =>
    exact Triple.ite (fun _ => Triple.pure fun _ h => h) fun _ => holds_sleep hsound _

theorem holds_chaosPlan : Holds cap pre (chaosPlan config) fun _ => pre :=
  Triple.ite (fun _ => holds_silent hsound fun _ _ => rfl) fun _ => Triple.pure fun _ h => h

theorem holds_chaosDelay (delay : Duration) : Holds cap pre (chaosDelay delay) fun _ => pre :=
  Triple.bind (holds_record hsound fun _ => rfl) fun _ => holds_sleep hsound _

theorem holds_chaosReadPause : Holds cap pre (chaosReadPause config) fun _ => pre := by
  refine Triple.ite (fun _ => ?_) fun _ => Triple.pure fun _ h => h
  refine Triple.bind (holds_silent hsound fun _ _ => rfl) fun pause => ?_
  cases pause with
  | none => exact Triple.pure fun _ h => h
  | some pause =>
    exact Triple.bind (holds_record hsound fun _ => rfl) fun _ => Triple.pure fun _ h => h

theorem holds_chaosCorrupt (message : Message) (corrupt : Bool) :
    Holds cap pre (chaosCorrupt config message corrupt) fun _ => pre := by
  refine Triple.ite (fun _ => ?_) fun _ => Triple.pure fun _ h => h
  refine Triple.bind (holds_silent hsound fun _ _ => rfl) fun result => ?_
  obtain ⟨message, changed⟩ := result
  refine Triple.ite (fun _ => ?_) fun _ => Triple.pure fun _ h => h
  exact Triple.bind (holds_record hsound fun _ => rfl) fun _ => Triple.pure fun _ h => h

theorem holds_chaosCloseNow : Holds cap pre (chaosCloseNow config) fun _ => pre :=
  Triple.ite (fun _ => holds_silent hsound fun _ _ => rfl) fun _ => Triple.pure fun _ h => h

theorem holds_restartAfterPause (schedule : Option SendSchedule) :
    Holds cap pre (restartAfterPause schedule) fun _ => pre := by
  unfold restartAfterPause
  cases schedule with
  | none => exact Triple.pure fun _ h => h
  | some schedule =>
    exact Triple.bind (holds_now hsound) fun _ => Triple.pure fun _ h => h

theorem holds_maxRequestsReached : Holds cap pre (maxRequestsReached config) fun _ => pre := by
  unfold maxRequestsReached
  cases config.maxRequests with
  | none => exact Triple.pure fun _ h => h
  | some max => exact holds_silent hsound fun _ _ => rfl

end Shared

section Leave

variable (hover : ∀ s, pre s → Due cap slot 0 s)

include hover

theorem keeps_chaosClose : Keeps cap slot pre (chaosClose config) fun _ => pre := by
  have hsound : ∀ s, pre s → Sound cap s := fun s hs => (hover s hs).toSound
  refine StepTriple.bind (StepTriple.lift (holds_chaosCloseNow hsound)) fun close => ?_
  cases close with
  | none => exact StepTriple.pure fun _ h => h
  | some graceful =>
    refine StepTriple.bind (StepTriple.lift (holds_record hsound fun _ => rfl)) fun _ => ?_
    refine StepTriple.ite (fun _ => ?_) fun _ => ?_
    · exact StepTriple.bind (StepTriple.lift (holds_sendIgnored hsound _)) fun _ =>
        StepTriple.weaken keeps_breakSession hover fun _ _ h => h
    · exact StepTriple.weaken keeps_breakSession hover fun _ _ h => h

theorem keeps_sleepOrBreak (timer : Timer) :
    Keeps cap slot pre (sleepOrBreak timer) fun _ => pre :=
  StepTriple.bind (StepTriple.lift (holds_sleep (fun s hs => (hover s hs).toSound) _)) fun _ =>
    StepTriple.ite (fun _ => StepTriple.pure fun _ h => h) fun _ => keeps_closeAndBreak hover

theorem keeps_delaySend (delay : Duration) (schedule : Option SendSchedule)
    (due : Option Instant) :
    Keeps cap slot pre (delaySend delay schedule due) fun _ => pre := by
  refine StepTriple.ite (fun _ => StepTriple.pure fun _ h => h) fun _ => ?_
  refine StepTriple.bind (StepTriple.lift
    (holds_chaosDelay (fun s hs => (hover s hs).toSound) delay)) fun _ => ?_
  exact StepTriple.ite (fun _ => StepTriple.pure fun _ h => h) fun _ => keeps_closeAndBreak hover

theorem keeps_pauseReads (schedule : Option SendSchedule) :
    Keeps cap slot pre (pauseReads config schedule) fun _ => pre := by
  have hsound : ∀ s, pre s → Sound cap s := fun s hs => (hover s hs).toSound
  refine StepTriple.bind (StepTriple.lift (holds_chaosReadPause hsound)) fun pause => ?_
  cases pause with
  | none => exact StepTriple.pure fun _ h => h
  | some pause =>
    refine StepTriple.bind (StepTriple.lift (holds_sleep hsound _)) fun _ => ?_
    exact StepTriple.ite (fun _ => StepTriple.pure fun _ h => h) fun _ =>
      keeps_closeAndBreak hover

end Leave

/-- A claim that is granted is there for the next message. Without a limit
there is nothing to claim. -/
theorem holds_claimSend (hcap : cap.isSome → config.maxRequests = cap) :
    Holds cap (Running cap slot) (claimSend config) fun granted s =>
      Running cap slot s ∧ (granted = true → Claimed cap slot s) := by
  unfold claimSend
  cases hmax : config.maxRequests with
  | none =>
    refine Triple.pure fun s hs => ⟨hs, fun _ => ⟨hs, fun hcapped => ?_⟩⟩
    -- sends are only capped where there is a limit
    rw [← hcap hcapped, hmax] at hcapped
    exact absurd hcapped Bool.false_ne_true
  | some max =>
    refine Triple.ask fun s granted hs _ => ?_
    cases granted with
    | false => exact ⟨hs.toSound, hs, nofun⟩
    | true =>
      show Sound cap (if cap = some max then { s with credit := s.credit + 1 } else s) ∧ _
      by_cases hsame : cap = some max
      · have hcredit : Running cap slot { s with credit := s.credit + 1 } :=
          ⟨⟨hs.matched, hs.covered, hs.turns⟩, hs.going, hs.kept⟩
        have hstep : (monitor cap).step s ⟨.claimRequest max, true⟩
            = { s with credit := s.credit + 1 } := if_pos hsame
        rw [if_pos hsame, hstep]
        exact ⟨hcredit.toSound, hcredit, fun _ => ⟨hcredit, fun _ => Nat.succ_pos _⟩⟩
      · have hstep : (monitor cap).step s ⟨.claimRequest max, true⟩ = s := if_neg hsame
        rw [if_neg hsame, hstep]
        refine ⟨hs.toSound, hs, fun _ => ⟨hs, fun hcapped => ?_⟩⟩
        exact absurd ((hcap hcapped).symm.trans hmax) hsame

theorem keeps_claimOrBreak (hcap : cap.isSome → config.maxRequests = cap) :
    Keeps cap slot (Running cap slot) (claimOrBreak config)
      fun _ => Claimed cap slot := by
  refine StepTriple.bind (StepTriple.lift (holds_claimSend hcap)) fun granted => ?_
  refine StepTriple.ite (fun hgranted => StepTriple.pure fun _ h => h.2 hgranted) fun _ => ?_
  refine StepTriple.bind (StepTriple.lift (holds_cancel fun _ h => h.1.toSound)) fun _ => ?_
  exact keeps_closeAndBreak fun s h => Running.over s h.1

/-! ## The wait for a reply

A reply is waited for in a loop that counts what arrives unsolicited. -/

/-- What the end of a wait for a reply leaves to be counted. -/
def Replied (cap : Option ℕ) (slot : Slot) : Reply → Ledger → Prop
  | .cancelled => Sent cap slot
  | .received _ => Sent cap slot
  | .timedOut => SentDue cap slot 1
  | .failed _ => SentDue cap slot 1
  | .closed => Due cap slot 0

theorem Replied.sound {reply : Reply} (s : Ledger) (h : Replied cap slot reply s) :
    Sound cap s := by
  cases reply with
  | cancelled => exact Sent.sound s h
  | received _ => exact Sent.sound s h
  | timedOut => exact Due.sound s (SentDue.toDue h)
  | failed _ => exact Due.sound s (SentDue.toDue h)
  | closed => exact Due.sound s h

variable {serde : Serde}

/-- What the wait does with a frame. -/
theorem holds_readReply (sent : Option Message) (seq : ℕ) (corrupted : Bool) (unsolicited : ℕ)
    (message : Message) :
    Holds cap (fun s => ∃ s₀, Sent cap slot s₀
        ∧ s = s₀.observe .reply (Woken.read (some (.ok message))).ending)
      (readReply serde config sent seq corrupted unsolicited message)
      (Sum.elim (fun _ => Sent cap slot) fun result => Replied cap slot result.1) := by
  -- every frame but a Close lets the session go on
  have hgoing : ∀ s, (∃ s₀, Sent cap slot s₀ ∧ s = s₀.observe .reply none) →
      Sent cap slot s := by
    rintro _ ⟨s, hs, rfl⟩
    exact hs.observe .reply
  cases message with
  | close frame =>
    refine Triple.pure ?_
    rintro _ ⟨s, hs, rfl⟩
    exact (hs.observe_ending .reply .close).toDue
  | ping bytes =>
    exact Triple.bind (holds_sendIgnored (fun s hs => Sent.sound s (hgoing s hs)) _) fun _ =>
      Triple.pure hgoing
  | pong bytes => exact Triple.pure hgoing
  | frame => exact Triple.pure hgoing
  | text text =>
    exact Triple.ite (fun _ => Triple.pure hgoing) fun _ => Triple.pure hgoing
  | binary bytes =>
    exact Triple.ite (fun _ => Triple.pure hgoing) fun _ => Triple.pure hgoing

theorem holds_awaitReply (sent : Option Message) (seq : ℕ) (corrupted : Bool) :
    Holds cap (Sent cap slot) (awaitReply serde config sent seq corrupted)
      fun result => Replied cap slot result.1 := by
  refine Triple.loop (fun _ => Sent cap slot) fun unsolicited => ?_
  refine Triple.bind (holds_select _ Sent.sound) fun woken => ?_
  -- a reply is waited for without a schedule, so three of the branches are never ready
  cases woken with
  | due => exact fun s hs => absurd hs.1 Bool.false_ne_true
  | keepalive => exact fun s hs => absurd hs.1 Bool.false_ne_true
  | resume => exact fun s hs => absurd hs.1 Bool.false_ne_true
  | timedOut =>
    refine Triple.pure ?_
    rintro _ ⟨-, s, hs, rfl⟩
    exact hs.observe_ending .reply .timeout
  | cancelled =>
    refine Triple.pure ?_
    rintro _ ⟨-, s, hs, rfl⟩
    exact hs.observe .reply
  | read item =>
    cases item with
    | none =>
      refine Triple.pure ?_
      rintro _ ⟨-, s, hs, rfl⟩
      exact hs.observe_ending .reply .ended
    | some result =>
      cases result with
      | error err =>
        refine Triple.pure ?_
        rintro _ ⟨-, s, hs, rfl⟩
        exact hs.observe_ending .reply .failure
      | ok message =>
        exact Triple.weaken (holds_readReply sent seq corrupted unsolicited message)
          (fun s hs => hs.2) fun _ _ h => h

theorem holds_checkReply (reply : Message) (expect : Option Check) (captures : List Capture)
    (vars : List String) :
    Holds cap (Sent cap slot) (checkReply serde config reply expect captures vars)
      fun _ => Running cap slot := by
  refine Triple.ite (fun _ => Triple.pure fun _ h => h.toRunning) fun _ => ?_
  refine Triple.ite (fun _ => Triple.pure fun _ h => h.toRunning) fun _ => ?_
  exact Triple.bind (holds_recordError_sent _) fun _ => Triple.pure fun _ h => h

theorem holds_checkAnswer (request : Request) (reply : Message) (expect : Option Check)
    (captures : List Capture) (vars : List String) :
    Holds cap (Sent cap slot) (checkAnswer serde config request reply expect captures vars)
      fun _ => Running cap slot :=
  Triple.ite (fun _ => Triple.pure fun _ h => h.toRunning) fun _ => holds_checkReply _ _ _ _

theorem holds_recordPaced (hsound : ∀ s, pre s → Sound cap s) (request : Request)
    (recordResponse : Bool) (rtt : Duration) :
    Holds cap pre (recordPaced request recordResponse rtt) fun _ => pre := by
  unfold recordPaced
  cases request.due with
  | none => exact Triple.pure fun _ h => h
  | some due =>
    refine Triple.ite (fun _ => ?_) fun _ => Triple.pure fun _ h => h
    exact Triple.bind (holds_now hsound) fun _ => holds_record hsound fun _ => rfl

/-- **A request is settled**: by its reply, or by one error. -/
theorem keeps_settleReply (request : Request) (recordResponse : Bool) (expect : Option Check)
    (captures : List Capture) (vars : List String) :
    Keeps cap slot (Sent cap slot)
      (settleReply serde config request recordResponse expect captures vars)
      fun _ => Running cap slot := by
  refine StepTriple.bind (StepTriple.lift (holds_awaitReply _ _ _)) fun result => ?_
  obtain ⟨reply, unsolicited⟩ := result
  refine StepTriple.bind (StepTriple.lift (holds_record Replied.sound fun _ => rfl)) fun _ => ?_
  cases reply with
  | cancelled => exact keeps_closeAndBreak Sent.over
  | timedOut =>
    exact StepTriple.bind (StepTriple.lift (holds_recordError_sentDue _ 0)) fun _ =>
      keeps_breakSession
  | failed category =>
    exact StepTriple.bind (StepTriple.lift (holds_recordError_sentDue _ 0)) fun _ =>
      keeps_breakSession
  | closed => exact keeps_breakSession
  | received reply =>
    refine StepTriple.bind (StepTriple.lift (holds_now Sent.sound)) fun receivedAt => ?_
    refine StepTriple.bind (StepTriple.lift (holds_now Sent.sound)) fun recordedAt => ?_
    refine StepTriple.bind (StepTriple.lift (holds_record Sent.sound fun _ => rfl)) fun _ => ?_
    refine StepTriple.bind (StepTriple.lift (holds_checkAnswer _ _ _ _ _)) fun vars => ?_
    exact StepTriple.bind (StepTriple.lift (holds_recordPaced Running.sound _ _ _)) fun _ =>
      StepTriple.pure fun _ h => h

/-! ## The echo loop

One turn waits for its slot, claims, sends, waits for the reply and settles. -/

theorem holds_waitForSlot (due : Instant) :
    Holds cap (Running cap slot) (waitForSlot config due) fun _ => Running cap slot := by
  refine Triple.loop (fun _ => Running cap slot) fun _ => ?_
  refine Triple.bind (holds_select _ Running.sound) fun woken => ?_
  -- no branch of this wait reads from the connection
  have hgoing : woken.ending = none → ∀ s, ((Wait.slot due).has woken = true
      ∧ ∃ s₀, Running cap slot s₀ ∧ s = s₀.observe .reply woken.ending) →
      Running cap slot s := by
    rintro hnone _ ⟨-, s, hs, rfl⟩
    rw [hnone]
    exact hs.observe .reply
  cases woken with
  | due => exact Triple.pure (hgoing rfl)
  | cancelled => exact Triple.pure (hgoing rfl)
  | resume => exact Triple.pure (hgoing rfl)
  | keepalive =>
    refine Triple.bind (holds_sendKeepalive fun s hs => Running.sound s (hgoing rfl s hs)) fun _ =>
      Triple.pure (hgoing rfl)
  | timedOut => exact fun s hs => absurd hs.1 Bool.false_ne_true
  | read item => exact fun s hs => absurd hs.1 Bool.false_ne_true

theorem keeps_paceEcho (due : Option Instant) :
    Keeps cap slot (Running cap slot) (paceEcho config due) fun _ => Running cap slot := by
  unfold paceEcho
  cases due with
  | some due =>
    refine StepTriple.bind (StepTriple.lift (holds_waitForSlot due)) fun _ => ?_
    exact StepTriple.ite (fun _ => StepTriple.pure fun _ h => h) fun _ =>
      keeps_closeAndBreak Running.over
  | none =>
    refine StepTriple.ite (fun _ => ?_) fun _ => StepTriple.pure fun _ h => h
    refine StepTriple.bind (StepTriple.lift (holds_silent Running.sound fun _ _ => rfl))
      fun _ => ?_
    exact StepTriple.ite (fun _ => StepTriple.lift (holds_sendIgnored Running.sound _)) fun _ =>
      StepTriple.pure fun _ h => h

/-- A claim outlasts an answer that lets the session go on. -/
theorem Claimed.observe {s : Ledger} (h : Claimed cap slot s) (place : Place) :
    Claimed cap slot (s.observe place none) where
  toRunning := h.toRunning.observe place
  claim := h.claim

theorem keeps_sendEcho {workerId : ℕ} (seq : ℕ) (plan : SendPlan) (due : Option Instant) :
    Keeps cap slot (Claimed cap slot) (sendEcho config workerId seq plan due)
      fun _ => Sent cap slot := by
  refine StepTriple.bind (StepTriple.lift (holds_wallClock Claimed.sound)) fun nowMs => ?_
  refine StepTriple.bind (StepTriple.lift (holds_chaosCorrupt Claimed.sound _ _)) fun result => ?_
  obtain ⟨message, corrupted⟩ := result
  refine StepTriple.bind (StepTriple.lift (holds_now Claimed.sound)) fun startTime => ?_
  -- the claim outlasts the send, whatever its result
  have hsend : Holds cap (Claimed cap slot) (Ask.sendOrCancelled message)
      fun result s => ∃ s₀, Claimed cap slot s₀
        ∧ s = s₀.observe .write (result.bind sendEnding) := by
    refine Triple.ask fun s result hs _ => ?_
    cases result with
    | none => exact ⟨⟨hs.matched, hs.covered, hs.turns⟩, s, hs, rfl⟩
    | some result => exact ⟨⟨hs.matched, hs.covered, hs.turns⟩, s, hs, rfl⟩
  refine StepTriple.bind (StepTriple.lift hsend) fun result => ?_
  cases result with
  | none =>
    refine keeps_closeAndBreak ?_
    rintro _ ⟨s, hs, rfl⟩
    exact Claimed.over _ (hs.observe .write)
  | some result =>
    cases result with
    | error err =>
      refine StepTriple.weaken (keeps_failWrite err) ?_ fun _ _ h => h
      rintro _ ⟨s, hs, rfl⟩
      exact hs.toRunning.observe_ending .write .failure
    | ok _ =>
      have hgoing : ∀ s, (∃ s₀, Claimed cap slot s₀ ∧ s = s₀.observe .write none) →
          Claimed cap slot s := by
        rintro _ ⟨s, hs, rfl⟩
        exact hs.observe .write
      refine StepTriple.weaken ?_ hgoing fun _ _ h => h
      exact StepTriple.bind (StepTriple.lift (holds_messageSent _)) fun _ =>
        StepTriple.pure fun _ h => h

theorem keeps_pauseAfterReply (schedule : Option SendSchedule) :
    Keeps cap slot (Running cap slot) (pauseAfterReply config scenario schedule)
      fun _ => Running cap slot := by
  refine StepTriple.bind (keeps_pauseReads Running.over _) fun schedule => ?_
  refine StepTriple.bind (StepTriple.lift (holds_applyThinkTime Running.sound)) fun _ => ?_
  refine StepTriple.ite (fun _ => ?_) fun _ => keeps_closeAndBreak Running.over
  exact StepTriple.ite (fun _ => StepTriple.pure fun _ h => h) fun _ =>
    StepTriple.lift (holds_restartAfterPause Running.sound _)

theorem keeps_echoRound {workerId : ℕ} (hcap : cap.isSome → config.maxRequests = cap)
    (state : EchoState) :
    Keeps cap slot (Running cap slot) (echoRound serde config workerId scenario state)
      fun _ => Running cap slot := by
  refine StepTriple.bind (StepTriple.lift (holds_isCancelled Running.sound)) fun _ => ?_
  refine StepTriple.ite (fun _ => keeps_closeAndBreak Running.over) fun _ => ?_
  refine StepTriple.bind (keeps_paceEcho _) fun _ => ?_
  refine StepTriple.bind (keeps_claimOrBreak hcap) fun _ => ?_
  refine StepTriple.bind (StepTriple.lift (holds_chaosPlan Claimed.sound)) fun plan => ?_
  refine StepTriple.ite (fun _ => ?_) fun _ => ?_
  · exact StepTriple.bind (StepTriple.lift (holds_record Claimed.sound fun _ => rfl)) fun _ =>
      StepTriple.pure fun _ h => h.toRunning
  · refine StepTriple.bind (keeps_delaySend Claimed.over _ _ _) fun delayed => ?_
    obtain ⟨schedule, due⟩ := delayed
    refine StepTriple.bind (keeps_sendEcho _ _ _) fun request => ?_
    refine StepTriple.bind (keeps_settleReply _ _ _ _ _) fun _ => ?_
    refine StepTriple.bind (keeps_chaosClose Running.over) fun _ => ?_
    exact StepTriple.bind (keeps_pauseAfterReply _) fun _ => StepTriple.pure fun _ h => h

/-- **The echo loop.** -/
theorem holds_runEchoLoop {workerId : ℕ} (hcap : cap.isSome → config.maxRequests = cap) :
    Holds cap (Running cap slot) (runEchoLoop serde config workerId scenario)
      fun _ => Due cap slot 0 := by
  refine Triple.bind (holds_now Running.sound) fun now => ?_
  refine Triple.bind (holds_record Running.sound fun _ => rfl) fun _ => ?_
  exact Triple.forever (fun _ => Running cap slot) fun state => keeps_echoRound hcap state

end Ledger

end WsBlast
