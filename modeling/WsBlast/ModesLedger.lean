import WsBlast.SessionLedger

/-!
# Every mode keeps its ledger

The specifications of the stream, listen, script, graphql-ws and Socket.IO
sessions, and with them of whatever session a worker runs (`holds_modeLoop`).

The graphql-ws loop is the one that sends without a claim, so its ledger is
only kept where sends are not capped.
-/

namespace WsBlast

open Proc.Monitor (Triple StepTriple)

namespace Ledger

variable {cap : Option ℕ} {slot : Slot} {R : Type} {pre : Ledger → Prop} {serde : Serde}
  {config : LoadTestConfig} {scenario : Option ScenarioPhase} {workerId : ℕ}

/-- The states after a wait in which the session was `Running`. -/
def AfterWait (cap : Option ℕ) (slot : Slot) (wait : Wait) (woken : Woken) (s : Ledger) : Prop :=
  wait.has woken = true ∧ ∃ s₀, Running cap slot s₀ ∧ s = s₀.observe wait.place woken.ending

/-- A wake-up that says nothing about the connection lets the session go
on. -/
theorem AfterWait.running {wait : Wait} {woken : Woken} (hnone : woken.ending = none) (s : Ledger)
    (h : AfterWait cap slot wait woken s) : Running cap slot s := by
  obtain ⟨-, s₀, hs, rfl⟩ := h
  rw [hnone]
  exact hs.observe wait.place

/-- A wake-up that does leaves what `errorsFor` says to be counted. -/
theorem AfterWait.due {wait : Wait} {woken : Woken} {n : ℕ} (ending : Ending)
    (hsome : woken.ending = some ending) (hn : errorsFor (ending, wait.place) = n) (s : Ledger)
    (h : AfterWait cap slot wait woken s) : Due cap slot n s := by
  obtain ⟨-, s₀, hs, rfl⟩ := h
  rw [hsome, ← hn]
  exact hs.observe_ending wait.place ending

/-- A wait never wakes on a branch it does not have. -/
theorem AfterWait.absurd {wait : Wait} {woken : Woken} (hhas : wait.has woken = false) (s : Ledger)
    (h : AfterWait cap slot wait woken s) : False := by
  rw [AfterWait, hhas] at h
  exact Bool.false_ne_true h.1

/-! ## Stream and listen

Both loops read in the same way and for both the end of the stream is no error.
-/

theorem holds_receiveFrame (bytes : ℕ) :
    Holds cap (Running cap slot) (receiveFrame config bytes) fun _ => Running cap slot := by
  refine Triple.bind (holds_record Running.sound fun _ => rfl) fun _ => ?_
  refine Triple.bind (holds_chaosReadPause Running.sound) fun pause => ?_
  cases pause with
  | none => exact Triple.pure fun _ h => h
  | some pause => exact Triple.bind (holds_now Running.sound) fun _ => Triple.pure fun _ h => h

/-- What the stream and the listen loop read: a failed read is one error, a
Close or the end of the stream none. -/
theorem keeps_readFrame {wait : Wait} (hplace : wait.place = .reading) (item : Item) :
    Keeps cap slot (AfterWait cap slot wait (.read item)) (readFrame config item)
      fun _ => Running cap slot := by
  -- the two loops wait in different words and in one place
  have hcount : ∀ ending, errorsFor (ending, wait.place) = errorsFor (ending, .reading) := by
    intro ending
    rw [hplace]
  cases item with
  | none =>
    exact StepTriple.weaken keeps_breakSession (AfterWait.due .ended rfl (hcount _))
      fun _ _ h => h
  | some result =>
    cases result with
    | error err =>
      refine StepTriple.weaken ?_ (AfterWait.due .failure rfl (hcount _)) fun _ _ h => h
      exact StepTriple.bind (StepTriple.lift (holds_recordError_due _ 0)) fun _ =>
        keeps_breakSession
    | ok message =>
      cases message with
      | close frame =>
        exact StepTriple.weaken keeps_breakSession (AfterWait.due .close rfl (hcount _))
          fun _ _ h => h
      | text text =>
        exact StepTriple.weaken (StepTriple.lift (holds_receiveFrame _)) (AfterWait.running rfl)
          fun _ _ h => h
      | binary bytes =>
        exact StepTriple.weaken (StepTriple.lift (holds_receiveFrame _)) (AfterWait.running rfl)
          fun _ _ h => h
      | ping bytes =>
        refine StepTriple.weaken ?_ (AfterWait.running rfl) fun _ _ h => h
        exact StepTriple.bind (StepTriple.lift (holds_sendIgnored Running.sound _)) fun _ =>
          StepTriple.pure fun _ h => h
      | pong bytes => exact StepTriple.pure (AfterWait.running rfl)
      | frame => exact StepTriple.pure (AfterWait.running rfl)

/-- A send, and its failure. -/
theorem keeps_send {f : Except WsError Unit → Round R} {post : R → Ledger → Prop}
    (message : Message) (hrunning : ∀ s, pre s → Running cap slot s)
    (hobserve : ∀ s, pre s → pre (s.observe .write none))
    (herror : ∀ err, f (.error err) = failWrite err)
    (hok : Keeps cap slot pre (f (.ok ())) post) :
    Keeps cap slot pre (liftM (Ask.send message) >>= f) post := by
  refine StepTriple.bind (StepTriple.lift
    (holds_send message fun s hs => Running.sound s (hrunning s hs))) fun result => ?_
  cases result with
  | error err =>
    rw [herror]
    refine StepTriple.weaken (keeps_failWrite err) ?_ fun _ _ h => h
    rintro _ ⟨s, hs, rfl⟩
    exact (hrunning s hs).observe_ending .write .failure
  | ok _ =>
    refine StepTriple.weaken hok ?_ fun _ _ h => h
    rintro _ ⟨s, hs, rfl⟩
    exact hobserve s hs

theorem keeps_streamSend (hcap : cap.isSome → config.maxRequests = cap)
    (state : StreamState) :
    Keeps cap slot (Running cap slot) (streamSend config workerId scenario state)
      fun _ => Running cap slot := by
  refine StepTriple.bind (keeps_claimOrBreak hcap) fun _ => ?_
  refine StepTriple.bind (StepTriple.lift (holds_chaosPlan Claimed.sound)) fun plan => ?_
  refine StepTriple.ite (fun _ => ?_) fun _ => ?_
  · exact StepTriple.bind (StepTriple.lift (holds_record Claimed.sound fun _ => rfl)) fun _ =>
      StepTriple.pure fun _ h => h.toRunning
  · refine StepTriple.bind (keeps_delaySend Claimed.over _ _ _) fun _ => ?_
    refine StepTriple.bind (StepTriple.lift (holds_wallClock Claimed.sound)) fun nowMs => ?_
    refine StepTriple.bind (StepTriple.lift (holds_chaosCorrupt Claimed.sound _ _))
      fun result => ?_
    obtain ⟨message, changed⟩ := result
    refine keeps_send message (fun _ h => h.toRunning) (fun _ h => h.observe .write)
      (fun _ => rfl) ?_
    refine StepTriple.bind (StepTriple.lift (holds_messageSent _)) fun _ => ?_
    refine StepTriple.bind (keeps_chaosClose Sent.over) fun _ => ?_
    refine StepTriple.bind (StepTriple.lift (holds_applyThinkTime Sent.sound)) fun _ => ?_
    exact StepTriple.ite (fun _ => StepTriple.pure fun _ h => h.toRunning) fun _ =>
      keeps_closeAndBreak Sent.over

theorem keeps_streamRound (hcap : cap.isSome → config.maxRequests = cap)
    (state : StreamState) :
    Keeps cap slot (Running cap slot) (streamRound config workerId scenario state)
      fun _ => Running cap slot := by
  refine StepTriple.bind (StepTriple.lift (holds_select _ Running.sound)) fun woken => ?_
  show Keeps cap slot (AfterWait cap slot _ woken) _ _
  cases woken with
  | due =>
    exact StepTriple.weaken (keeps_streamSend hcap state) (AfterWait.running rfl) fun _ _ h => h
  | keepalive =>
    refine StepTriple.weaken ?_ (AfterWait.running rfl) fun _ _ h => h
    exact StepTriple.bind (StepTriple.lift (holds_sendKeepalive Running.sound)) fun _ =>
      StepTriple.pure fun _ h => h
  | resume => exact StepTriple.pure (AfterWait.running rfl)
  | timedOut => exact fun s hs => (AfterWait.absurd rfl s hs).elim
  | cancelled => exact keeps_closeAndBreak fun s hs => Running.over s (AfterWait.running rfl s hs)
  | read item =>
    refine StepTriple.ite (fun hpaused => ?_) fun _ => ?_
    · -- reads are switched off during a pause
      refine fun s hs => (AfterWait.absurd ?_ s hs).elim
      show (!state.readResume.isSome) = false
      rw [hpaused]
      rfl
    · exact StepTriple.bind (keeps_readFrame rfl item) fun _ => StepTriple.pure fun _ h => h

/-- **The stream loop.** -/
theorem holds_runStreamLoop (hcap : cap.isSome → config.maxRequests = cap) :
    Holds cap (Running cap slot) (runStreamLoop config workerId scenario)
      fun _ => Due cap slot 0 :=
  Triple.forever (fun _ => Running cap slot) fun state => keeps_streamRound hcap state

theorem keeps_listenRound (readResume : Option Instant) :
    Keeps cap slot (Running cap slot) (listenRound config readResume)
      fun _ => Running cap slot := by
  refine StepTriple.bind (StepTriple.lift (holds_select _ Running.sound)) fun woken => ?_
  show Keeps cap slot (AfterWait cap slot _ woken) _ _
  cases woken with
  | due => exact StepTriple.pure (AfterWait.running rfl)
  | keepalive =>
    refine StepTriple.weaken ?_ (AfterWait.running rfl) fun _ _ h => h
    exact StepTriple.bind (StepTriple.lift (holds_sendKeepalive Running.sound)) fun _ =>
      StepTriple.pure fun _ h => h
  | resume => exact StepTriple.pure (AfterWait.running rfl)
  | timedOut => exact fun s hs => (AfterWait.absurd rfl s hs).elim
  | cancelled => exact keeps_closeAndBreak fun s hs => Running.over s (AfterWait.running rfl s hs)
  | read item =>
    refine StepTriple.ite (fun hpaused => ?_) fun _ => keeps_readFrame rfl item
    refine fun s hs => (AfterWait.absurd ?_ s hs).elim
    show (!readResume.isSome) = false
    rw [hpaused]
    rfl

/-- **The listen loop.** -/
theorem holds_runListenLoop :
    Holds cap (Running cap slot) (runListenLoop config) fun _ => Due cap slot 0 :=
  Triple.forever (fun _ => Running cap slot) fun readResume => keeps_listenRound readResume

/-! ## Action scripts

A script is a list of actions that is run from the start again when it is over.
-/

theorem keeps_paceScript (due : Option Instant) :
    Keeps cap slot (Running cap slot) (paceScript config due)
      fun _ => Running cap slot := by
  unfold paceScript
  cases due with
  | some due => exact keeps_sleepOrBreak Running.over _
  | none =>
    cases scriptTick config with
    | some period => exact keeps_sleepOrBreak Running.over _
    | none => exact StepTriple.pure fun _ h => h

theorem keeps_sendScript (payload : Option PayloadConfig) (state : ScriptState) (plan : SendPlan)
    (due : Option Instant) :
    Keeps cap slot (Claimed cap slot) (sendScript config workerId payload state plan due)
      fun _ => Sent cap slot := by
  refine StepTriple.bind (StepTriple.lift (holds_wallClock Claimed.sound)) fun nowMs => ?_
  refine StepTriple.bind (StepTriple.lift (holds_chaosCorrupt Claimed.sound _ _)) fun result => ?_
  obtain ⟨message, corrupted⟩ := result
  refine StepTriple.bind (StepTriple.lift (holds_now Claimed.sound)) fun startTime => ?_
  refine keeps_send message (fun _ h => h.toRunning) (fun _ h => h.observe .write)
    (fun _ => rfl) ?_
  exact StepTriple.bind (StepTriple.lift (holds_messageSent _)) fun _ =>
    StepTriple.pure fun _ h => h

theorem keeps_settleScript (request : Request) (expect : Option Check) (captures : List Capture)
    (schedule : Option SendSchedule) (vars : List String) :
    Keeps cap slot (Sent cap slot)
      (settleScript serde config request expect captures schedule vars)
      fun _ => Running cap slot := by
  refine StepTriple.ite (fun _ => ?_) fun _ => StepTriple.pure fun _ h => h.toRunning
  refine StepTriple.bind (keeps_settleReply _ _ _ _ _) fun vars => ?_
  exact StepTriple.bind (keeps_pauseReads Running.over _) fun _ => StepTriple.pure fun _ h => h

theorem keeps_sendOnce (hcap : cap.isSome → config.maxRequests = cap)
    (payload : Option PayloadConfig) (expect : Option Check) (captures : List Capture)
    (state : ScriptState) :
    Keeps cap slot (Running cap slot)
      (sendOnce serde config workerId payload expect captures state)
      fun _ => Running cap slot := by
  refine StepTriple.bind (StepTriple.lift (holds_isCancelled Running.sound)) fun _ => ?_
  refine StepTriple.ite (fun _ => keeps_closeAndBreak Running.over) fun _ => ?_
  refine StepTriple.bind (keeps_paceScript _) fun _ => ?_
  refine StepTriple.bind (keeps_claimOrBreak hcap) fun _ => ?_
  refine StepTriple.bind (StepTriple.lift (holds_chaosPlan Claimed.sound)) fun plan => ?_
  refine StepTriple.ite (fun _ => ?_) fun _ => ?_
  · exact StepTriple.bind (StepTriple.lift (holds_record Claimed.sound fun _ => rfl)) fun _ =>
      StepTriple.pure fun _ h => h.toRunning
  · refine StepTriple.bind (keeps_delaySend Claimed.over _ _ _) fun delayed => ?_
    obtain ⟨schedule, due⟩ := delayed
    refine StepTriple.bind (keeps_sendScript _ _ _ _) fun request => ?_
    refine StepTriple.bind (keeps_settleScript _ _ _ _ _) fun settled => ?_
    obtain ⟨schedule, vars⟩ := settled
    exact StepTriple.bind (keeps_chaosClose Running.over) fun _ => StepTriple.pure fun _ h => h

theorem keeps_sendBurst (hcap : cap.isSome → config.maxRequests = cap)
    (payload : Option PayloadConfig) (expect : Option Check) (captures : List Capture) (count : ℕ)
    (state : ScriptState) :
    Keeps cap slot (Running cap slot)
      (sendBurst serde config workerId payload expect captures count state)
      fun _ => Running cap slot := by
  induction count generalizing state with
  | zero => exact StepTriple.pure fun _ h => h
  | succ count ih => exact StepTriple.bind (keeps_sendOnce hcap _ _ _ _) fun state => ih state

theorem holds_restartScript (state : ScriptState) :
    Holds cap (Running cap slot) (restartScript state) fun _ => Running cap slot :=
  Triple.bind (holds_restartAfterPause Running.sound _) fun _ => Triple.pure fun _ h => h

/-- Naming the action whose messages follow. -/
theorem holds_currentAction (action : Option ℕ) :
    Holds cap (Running cap slot) (Ask.record (.currentAction action))
      fun _ => Running cap slot :=
  Triple.ask fun _ _ hs _ =>
    ⟨⟨hs.matched, hs.covered, hs.turns⟩, ⟨⟨hs.matched, hs.covered, hs.turns⟩, hs.going, hs.kept⟩⟩

theorem keeps_runAction (hcap : cap.isSome → config.maxRequests = cap) (state : ScriptState)
    (action : ScenarioAction) :
    Keeps cap slot (Running cap slot)
      (runAction serde config workerId scenario state action) fun _ => Running cap slot := by
  have hpause : ∀ timer, Keeps cap slot (Running cap slot)
      (sleepOrBreak timer >>= fun _ => liftM (restartScript state))
      fun _ => Running cap slot := fun timer =>
    StepTriple.bind (keeps_sleepOrBreak Running.over timer) fun _ =>
      StepTriple.lift (holds_restartScript state)
  cases action with
  | send payload count expect captures name =>
    refine StepTriple.bind (StepTriple.lift (holds_currentAction name)) fun _ => ?_
    refine StepTriple.bind (keeps_sendBurst hcap _ _ _ _ _) fun state => ?_
    refine StepTriple.bind (StepTriple.lift (holds_currentAction none)) fun _ => ?_
    refine StepTriple.bind (StepTriple.lift (holds_applyThinkTime Running.sound)) fun _ => ?_
    refine StepTriple.ite (fun _ => ?_) fun _ => keeps_closeAndBreak Running.over
    exact StepTriple.ite (fun _ => StepTriple.pure fun _ h => h) fun _ =>
      StepTriple.lift (holds_restartScript state)
  | wait duration => exact hpause (.after duration)
  | ping interval =>
    exact keeps_send keepalive (fun _ h => h) (fun _ h => h.observe .write) (fun _ => rfl)
      (hpause (.after interval))
  | close code reason =>
    exact StepTriple.bind (StepTriple.lift (holds_sendIgnored Running.sound _)) fun _ =>
      StepTriple.throw Running.over

theorem holds_scriptStops :
    Holds cap (Running cap slot) (scriptStops config) fun _ => Running cap slot :=
  Triple.bind (holds_isCancelled Running.sound) fun _ =>
    Triple.ite (fun _ => Triple.pure fun _ h => h) fun _ => holds_maxRequestsReached Running.sound

theorem keeps_runActions (hcap : cap.isSome → config.maxRequests = cap)
    (actions : List ScenarioAction) (state : ScriptState) :
    Keeps cap slot (Running cap slot)
      (runActions serde config workerId scenario actions state) fun _ => Running cap slot := by
  induction actions generalizing state with
  | nil => exact StepTriple.pure fun _ h => h
  | cons action rest ih =>
    refine StepTriple.bind (StepTriple.lift holds_scriptStops) fun _ => ?_
    refine StepTriple.ite (fun _ => ?_) fun _ => ?_
    · refine StepTriple.bind (StepTriple.lift (holds_maxRequestsReached Running.sound)) fun _ => ?_
      refine StepTriple.ite (fun _ => ?_) fun _ => keeps_closeAndBreak Running.over
      exact StepTriple.bind (StepTriple.lift (holds_cancel Running.sound)) fun _ =>
        keeps_closeAndBreak Running.over
    · exact StepTriple.bind (keeps_runAction hcap state action) fun state => ih state

/-- **The script loop.** -/
theorem holds_runActionLoop (hcap : cap.isSome → config.maxRequests = cap)
    (phase : ScenarioPhase) :
    Holds cap (Running cap slot) (runActionLoop serde config workerId phase)
      fun _ => Due cap slot 0 := by
  refine Triple.bind (holds_now Running.sound) fun now => ?_
  refine Triple.bind (holds_record Running.sound fun _ => rfl) fun _ => ?_
  refine Triple.forever (fun _ => Running cap slot) fun state => ?_
  refine StepTriple.bind (StepTriple.lift (holds_isCancelled Running.sound)) fun _ => ?_
  exact StepTriple.ite (fun _ => keeps_closeAndBreak Running.over) fun _ =>
    keeps_runActions hcap _ _

/-! ## graphql-ws

The only mode whose endings do not all cost one error. -/

section GraphQL

variable {codec : GraphQLCodec}

/-- Where sends are not capped, a message needs no claim. -/
theorem keeps_sendGraphQL (hfree : cap = none) (message : GraphQLWSMessage) :
    Keeps cap slot (Running cap slot) (sendGraphQL codec message)
      fun _ => Sent cap slot := by
  have hclaimed : ∀ s, Running cap slot s → Claimed cap slot s := by
    intro s hs
    refine ⟨hs, fun hcapped => ?_⟩
    rw [hfree] at hcapped
    exact absurd hcapped Bool.false_ne_true
  unfold sendGraphQL
  cases codec.toText message with
  | none =>
    exact StepTriple.bind (StepTriple.lift (holds_recordError_running _)) fun _ =>
      StepTriple.throw Running.over
  | some json =>
    refine keeps_send (.text json) (fun _ h => h) (fun _ h => h.observe .write) (fun _ => rfl) ?_
    exact StepTriple.lift (Triple.weaken (holds_messageSent _) hclaimed fun _ _ h => h)

theorem holds_sendGraphQLPong (hsound : ∀ s, pre s → Sound cap s) :
    Holds cap pre (sendGraphQLPong codec) fun _ => pre := by
  unfold sendGraphQLPong
  cases codec.toText .pong with
  | none => exact Triple.pure fun _ h => h
  | some json => exact holds_sendIgnored hsound _

/-- What the wait for the ack does with a text frame. -/
theorem keeps_readAck (text : String) :
    Keeps cap slot (Sent cap slot) (readAck codec text)
      (Sum.elim (fun _ => Sent cap slot) fun _ => Running cap slot) := by
  have hstay : Keeps cap slot (Sent cap slot) (pure (.inl ()) : Round (Unit ⊕ Unit))
      (Sum.elim (fun _ => Sent cap slot) fun _ => Running cap slot) :=
    StepTriple.pure fun _ h => h
  unfold readAck
  cases codec.fromText text with
  | none => exact hstay
  | some message =>
    cases message with
    | connectionAck => exact StepTriple.pure fun _ h => h.toRunning
    | connectionError payload =>
      refine StepTriple.weaken (keeps_failSent _) (fun s hs => ?_) fun _ _ h => h
      exact ⟨hs.toRunning.due 1, hs.sent⟩
    | ping =>
      exact StepTriple.bind (StepTriple.lift (holds_sendGraphQLPong Sent.sound)) fun _ => hstay
    | connectionInit _ => exact hstay
    | connectionKeepAlive => exact hstay
    | connectionTerminate => exact hstay
    | pong => exact hstay
    | start _ _ => exact hstay
    | stop _ => exact hstay
    | subscribe _ _ => exact hstay
    | data _ _ => exact hstay
    | next _ _ => exact hstay
    | error _ _ => exact hstay
    | complete _ => exact hstay

/-- The wait for the ack: whatever ends it is one error of the
`connection_init`. -/
theorem keeps_ackRound (x : Unit) :
    Keeps cap slot (Sent cap slot) (ackRound config codec x)
      (Sum.elim (fun _ => Sent cap slot) fun _ => Running cap slot) := by
  refine StepTriple.bind (StepTriple.lift (holds_select _ Sent.sound)) fun woken => ?_
  -- two facts serve every branch: the message stays in flight, or it is failed once
  have hgoing : woken.ending = none → ∀ s, ((Wait.ack config.messageTimeout).has woken = true
      ∧ ∃ s₀, Sent cap slot s₀ ∧ s = s₀.observe .ack woken.ending) → Sent cap slot s := by
    rintro hnone _ ⟨-, s, hs, rfl⟩
    rw [hnone]
    exact hs.observe .ack
  have hdue : ∀ ending, woken.ending = some ending → errorsFor (ending, .ack) = 1 → ∀ s,
      ((Wait.ack config.messageTimeout).has woken = true
        ∧ ∃ s₀, Sent cap slot s₀ ∧ s = s₀.observe .ack woken.ending) →
      SentDue cap slot 1 s := by
    rintro ending hsome hone _ ⟨-, s, hs, rfl⟩
    rw [hsome, ← hone]
    exact hs.observe_ending .ack ending
  cases woken with
  | due => exact StepTriple.pure (hgoing rfl)
  | resume => exact StepTriple.pure (hgoing rfl)
  | cancelled => exact keeps_closeAndBreak fun s hs => Sent.over s (hgoing rfl s hs)
  | timedOut => exact StepTriple.weaken (keeps_failSent _) (hdue _ rfl rfl) fun _ _ h => h
  | keepalive =>
    refine StepTriple.weaken ?_ (hgoing rfl) fun _ _ h => h
    exact StepTriple.bind (StepTriple.lift (holds_sendKeepalive Sent.sound)) fun _ =>
      StepTriple.pure fun _ h => h
  | read item =>
    cases item with
    | none => exact StepTriple.weaken (keeps_failSent _) (hdue _ rfl rfl) fun _ _ h => h
    | some result =>
      cases result with
      | error err => exact StepTriple.weaken (keeps_failSent _) (hdue _ rfl rfl) fun _ _ h => h
      | ok message =>
        cases message with
        | close frame => exact StepTriple.weaken (keeps_failSent _) (hdue _ rfl rfl) fun _ _ h => h
        | binary bytes => exact StepTriple.pure (hgoing rfl)
        | ping bytes => exact StepTriple.pure (hgoing rfl)
        | pong bytes => exact StepTriple.pure (hgoing rfl)
        | frame => exact StepTriple.pure (hgoing rfl)
        | text text =>
          refine StepTriple.weaken ?_ (hgoing rfl) fun _ _ h => h
          exact keeps_readAck text

/-- What the end of the subscription loop leaves to be counted. -/
def Subscribed (cap : Option ℕ) (slot : Slot) : SubscriptionEnd → Ledger → Prop
  | .cancelled => Running cap slot
  | .complete => Running cap slot
  | .closed => Due cap slot 1

theorem holds_readSubscription (bytes : ℕ) (message : GraphQLWSMessage) :
    Holds cap (Running cap slot) (readSubscription config codec bytes message)
      (Sum.elim (fun _ => Running cap slot) (Subscribed cap slot)) := by
  -- three things that a message of the server can lead to
  have hreceive : Holds cap (Running cap slot)
      (receiveFrame config bytes >>= fun readResume =>
        (pure (.inl readResume) : Session (Option Instant ⊕ SubscriptionEnd)))
      (Sum.elim (fun _ => Running cap slot) (Subscribed cap slot)) :=
    Triple.bind (holds_receiveFrame bytes) fun _ => Triple.pure fun _ h => h
  have herror : Holds cap (Running cap slot)
      (recordError .protocolError .attempt >>= fun _ =>
        (pure (.inl none) : Session (Option Instant ⊕ SubscriptionEnd)))
      (Sum.elim (fun _ => Running cap slot) (Subscribed cap slot)) :=
    Triple.bind (holds_recordError_running _) fun _ => Triple.pure fun _ h => h
  have hstay : Holds cap (Running cap slot)
      (pure (.inl none) : Session (Option Instant ⊕ SubscriptionEnd))
      (Sum.elim (fun _ => Running cap slot) (Subscribed cap slot)) :=
    Triple.pure fun _ h => h
  cases message with
  | data _ _ => exact hreceive
  | next _ _ => exact hreceive
  | error _ _ => exact herror
  | connectionError _ => exact herror
  | complete _ => exact Triple.pure fun _ h => h
  | ping => exact Triple.bind (holds_sendGraphQLPong Running.sound) fun _ => hstay
  | connectionInit _ => exact hstay
  | connectionAck => exact hstay
  | connectionKeepAlive => exact hstay
  | connectionTerminate => exact hstay
  | pong => exact hstay
  | start _ _ => exact hstay
  | stop _ => exact hstay
  | subscribe _ _ => exact hstay

/-- What the subscription loop reads: after the error of a failed read, after
a Close and after the end of the stream one more error is due. -/
theorem holds_readSubscriptionItem (paused : Bool) (item : Item) :
    Holds cap (AfterWait cap slot (.subscription paused) (.read item))
      (readSubscriptionItem config codec item)
      (Sum.elim (fun _ => Running cap slot) (Subscribed cap slot)) := by
  cases item with
  | none => exact Triple.pure (AfterWait.due .ended rfl rfl)
  | some result =>
    cases result with
    | error err =>
      refine Triple.weaken ?_ (AfterWait.due .failure rfl rfl) fun _ _ h => h
      exact Triple.bind (holds_recordError_due _ 1) fun _ => Triple.pure fun _ h => h
    | ok message =>
      cases message with
      | close frame => exact Triple.pure (AfterWait.due .close rfl rfl)
      | binary bytes => exact Triple.pure (AfterWait.running rfl)
      | ping bytes => exact Triple.pure (AfterWait.running rfl)
      | pong bytes => exact Triple.pure (AfterWait.running rfl)
      | frame => exact Triple.pure (AfterWait.running rfl)
      | text text =>
        refine Triple.weaken ?_ (AfterWait.running rfl) fun _ _ h => h
        show Holds cap _ (readSubscriptionText config codec text) _
        unfold readSubscriptionText
        cases codec.fromText text with
        | none => exact Triple.pure fun _ h => h
        | some message => exact holds_readSubscription _ message

theorem holds_subscriptionRound (readResume : Option Instant) :
    Holds cap (Running cap slot) (subscriptionRound config codec readResume)
      (Sum.elim (fun _ => Running cap slot) (Subscribed cap slot)) := by
  refine Triple.bind (holds_select _ Running.sound) fun woken => ?_
  show Holds cap (AfterWait cap slot _ woken) _ _
  cases woken with
  | due => exact Triple.pure (AfterWait.running rfl)
  | resume => exact Triple.pure (AfterWait.running rfl)
  | cancelled => exact Triple.pure (AfterWait.running rfl)
  | timedOut => exact fun s hs => (AfterWait.absurd rfl s hs).elim
  | keepalive =>
    refine Triple.weaken ?_ (AfterWait.running rfl) fun _ _ h => h
    exact Triple.bind (holds_sendKeepalive Running.sound) fun _ => Triple.pure fun _ h => h
  | read item =>
    refine Triple.ite (fun hpaused => ?_) fun _ => holds_readSubscriptionItem _ item
    refine fun s hs => (AfterWait.absurd ?_ s hs).elim
    show (!readResume.isSome) = false
    rw [hpaused]
    rfl

theorem holds_endSubscription (stop : GraphQLWSMessage) (ended : SubscriptionEnd) :
    Holds cap (Subscribed cap slot ended) (endSubscription codec stop ended)
      fun _ => Due cap slot 0 := by
  have hdue : ∀ s, Subscribed cap slot ended s → Due cap slot 1 s := by
    intro s hs
    cases ended with
    | cancelled => exact Running.due hs 1
    | complete => exact Running.due hs 1
    | closed => exact hs
  unfold endSubscription
  cases codec.toText stop with
  | none =>
    refine Triple.weaken ?_ hdue fun _ _ h => h
    exact Triple.bind (holds_recordError_due _ 0) fun _ => Triple.pure fun _ h => h
  | some json =>
    refine Triple.bind (holds_sendIgnored (fun s hs => Due.sound s (hdue s hs)) _) fun _ => ?_
    cases ended with
    | cancelled =>
      exact Triple.bind (holds_sendIgnored Running.sound _) fun _ => Triple.pure Running.over
    | complete => exact Triple.pure Running.over
    | closed =>
      exact Triple.bind (holds_recordError_due _ 0) fun _ => holds_sessionEnd Due.sound

theorem keeps_openSubscription (hfree : cap = none) :
    Keeps cap slot (Running cap slot) (openSubscription config workerId codec)
      fun _ => Running cap slot := by
  unfold openSubscription
  cases config.graphqlWs with
  | none =>
    exact StepTriple.bind (StepTriple.lift (holds_recordError_running _)) fun _ =>
      StepTriple.throw Running.over
  | some graphql =>
    refine StepTriple.bind (keeps_sendGraphQL hfree _) fun _ => ?_
    refine StepTriple.bind (StepTriple.repeatUntil (fun _ => Sent cap slot) keeps_ackRound)
      fun _ => ?_
    exact StepTriple.bind (keeps_sendGraphQL hfree _) fun _ =>
      StepTriple.pure fun _ h => h.toRunning

/-- **The graphql-ws loop.** -/
theorem holds_runGraphQLWsLoop (hfree : cap = none) :
    Holds cap (Running cap slot) (runGraphQLWsLoop config workerId codec)
      fun _ => Due cap slot 0 := by
  refine Triple.bind (Triple.run (keeps_openSubscription hfree)) fun result => ?_
  cases result with
  | error ended => exact Triple.pure fun _ h => h
  | ok stop =>
    exact Triple.bind (Triple.loop (fun _ => Running cap slot) holds_subscriptionRound)
      fun ended => holds_endSubscription stop ended

end GraphQL

/-! ## Socket.IO

An opening ends by leaving its loop, with the category of its failure still to
be recorded: the session does that, so one error is due when an opening has
failed. -/

section Opening

variable {sio : SocketIoConfig}

/-- What the end of an opening leaves to be counted. -/
def OpenedLedger (cap : Option ℕ) (slot : Slot) : Opened → Ledger → Prop
  | some (.error _) => Due cap slot 1
  | _ => Running cap slot

/-- A piece of an opening. -/
abbrev KeepsOpening (cap : Option ℕ) (slot : Slot) (pre : Ledger → Prop) (p : Opening R)
    (post : R → Ledger → Prop) : Prop :=
  StepTriple (monitor cap) pre p post (OpenedLedger cap slot)

theorem keeps_failOpening {post : R → Ledger → Prop} (category : ErrorCategory) :
    KeepsOpening cap slot (Due cap slot 1) (failOpening category) post :=
  StepTriple.throw fun _ h => h

/-- An opening that the server does not let go on fails for its own
reasons. -/
theorem keeps_failOpening_running {post : R → Ledger → Prop} (category : ErrorCategory) :
    KeepsOpening cap slot (Running cap slot) (failOpening category) post :=
  StepTriple.throw fun _ h => h.due 1

theorem keeps_sendOpening (message : Message) :
    KeepsOpening cap slot (Running cap slot) (sendOpening message)
      fun _ => Running cap slot := by
  -- a send while the session opens is a wait as well
  have hsend : Holds cap (Running cap slot) (Ask.sendOpening message)
      fun outcome s =>
        ∃ s₀, Running cap slot s₀ ∧ s = s₀.step cap ⟨.sendOpening message, outcome⟩ := by
    refine Triple.ask fun s outcome hs _ => ⟨?_, s, hs, rfl⟩
    cases outcome with
    | cancelled => exact ⟨hs.matched, hs.covered, hs.turns⟩
    | timedOut => exact ⟨hs.matched, hs.covered, hs.turns⟩
    | done result => exact ⟨hs.matched, hs.covered, hs.turns⟩
  refine StepTriple.bind (StepTriple.lift hsend) fun outcome => ?_
  cases outcome with
  | cancelled =>
    refine StepTriple.throw ?_
    rintro _ ⟨s, hs, rfl⟩
    exact hs.observe .opening
  | timedOut =>
    refine StepTriple.weaken (keeps_failOpening _) ?_ fun _ _ h => h
    rintro _ ⟨s, hs, rfl⟩
    exact hs.observe_ending .opening .timeout
  | done result =>
    cases result with
    | error err =>
      refine StepTriple.weaken (keeps_failOpening _) ?_ fun _ _ h => h
      rintro _ ⟨s, hs, rfl⟩
      exact hs.observe_ending .opening .failure
    | ok _ =>
      refine StepTriple.pure ?_
      rintro _ ⟨s, hs, rfl⟩
      exact hs.observe .opening

theorem keeps_readOpen (auth : Option String) (text : String) :
    KeepsOpening cap slot (Running cap slot) (readOpen serde sio auth text)
      fun _ => Running cap slot := by
  have hconnect : ∀ state, KeepsOpening cap slot (Running cap slot)
      (sendOpening (.text (connectPacket sio auth)) >>= fun _ => pure state)
      fun (_ : OpenState) => Running cap slot := fun state =>
    StepTriple.bind (keeps_sendOpening _) fun _ => StepTriple.pure fun _ h => h
  unfold readOpen
  split
  · split
    · exact keeps_failOpening_running _
    · split
      · exact hconnect _
      · split
        · exact keeps_failOpening_running _
        · exact StepTriple.ite (fun _ => StepTriple.pure fun _ h => h) fun _ => hconnect _
  · exact keeps_failOpening_running _

theorem keeps_readConnect (state : OpenState) (text : String) :
    KeepsOpening cap slot (Running cap slot) (readConnect sio state text)
      fun _ => Running cap slot := by
  refine StepTriple.ite (fun _ => ?_) fun _ => ?_
  · exact StepTriple.bind (keeps_sendOpening _) fun _ => StepTriple.pure fun _ h => h
  · refine StepTriple.ite (fun _ => keeps_failOpening_running _) fun _ => ?_
    split
    · exact StepTriple.pure fun _ h => h
    · refine StepTriple.ite (fun _ => ?_) fun _ => StepTriple.pure fun _ h => h
      split
      · exact StepTriple.throw fun _ h => h
      · exact keeps_failOpening_running _
      · exact keeps_failOpening_running _
      · exact StepTriple.pure fun _ h => h

/-- What an opening session reads: whatever ends it is one error. -/
theorem keeps_readOpening (auth : Option String) (state : OpenState) (timeout : Duration)
    (item : Item) :
    KeepsOpening cap slot (AfterWait cap slot (.opening timeout) (.read item))
      (readOpening serde sio auth state item) fun _ => Running cap slot := by
  cases item with
  | none =>
    exact StepTriple.weaken (keeps_failOpening _) (AfterWait.due .ended rfl rfl) fun _ _ h => h
  | some result =>
    cases result with
    | error err =>
      exact StepTriple.weaken (keeps_failOpening _) (AfterWait.due .failure rfl rfl) fun _ _ h => h
    | ok message =>
      cases message with
      | close frame =>
        exact StepTriple.weaken (keeps_failOpening _) (AfterWait.due .close rfl rfl) fun _ _ h => h
      | text text =>
        refine StepTriple.weaken ?_ (AfterWait.running rfl) fun _ _ h => h
        exact StepTriple.ite (fun _ => keeps_readConnect state text) fun _ =>
          keeps_readOpen auth text
      | binary bytes =>
        refine StepTriple.weaken ?_ (AfterWait.running rfl) fun _ _ h => h
        exact StepTriple.ite (fun _ => StepTriple.pure fun _ h => h) fun _ =>
          keeps_failOpening_running _
      | ping bytes =>
        refine StepTriple.weaken ?_ (AfterWait.running rfl) fun _ _ h => h
        exact StepTriple.bind (StepTriple.lift (holds_sendIgnored Running.sound _)) fun _ =>
          StepTriple.pure fun _ h => h
      | pong bytes => exact StepTriple.pure (AfterWait.running rfl)
      | frame => exact StepTriple.pure (AfterWait.running rfl)

theorem holds_openSocketIo (timeout : Duration) (auth : Option String) :
    Holds cap (Running cap slot) (openSocketIo serde sio timeout auth)
      (OpenedLedger cap slot) := by
  refine Triple.forever (fun _ => Running cap slot) fun state => ?_
  refine StepTriple.bind (StepTriple.lift (holds_select _ Running.sound)) fun woken => ?_
  show StepTriple _ (AfterWait cap slot _ woken) _ _ _
  cases woken with
  | cancelled => exact StepTriple.throw (AfterWait.running rfl)
  | timedOut =>
    exact StepTriple.weaken (keeps_failOpening _) (AfterWait.due .timeout rfl rfl) fun _ _ h => h
  | read item => exact keeps_readOpening auth state timeout item
  | due => exact StepTriple.pure (AfterWait.running rfl)
  | keepalive => exact StepTriple.pure (AfterWait.running rfl)
  | resume => exact StepTriple.pure (AfterWait.running rfl)

end Opening

theorem holds_runScriptOr (hcap : cap.isSome → config.maxRequests = cap)
    {loop : Session SessionEnd}
    (hloop : scenario.all (·.actions = []) →
      Holds cap (Running cap slot) loop fun _ => Due cap slot 0) :
    Holds cap (Running cap slot) (runScriptOr serde config workerId scenario loop)
      fun _ => Due cap slot 0 := by
  cases scenario with
  | none => exact hloop rfl
  | some phase =>
    refine Triple.ite (fun hnil => hloop ?_) fun _ => holds_runActionLoop hcap phase
    exact decide_eq_true hnil

/-- **A Socket.IO session.** -/
theorem holds_runSocketIo (hcap : cap.isSome → config.maxRequests = cap) :
    Holds cap (Running cap slot) (runSocketIo serde config workerId scenario)
      fun _ => Due cap slot 0 := by
  unfold runSocketIo
  cases config.socketio with
  | none => exact Triple.pure Running.over
  | some sio =>
    refine Triple.bind (holds_wallClock Running.sound) fun nowMs => ?_
    refine Triple.bind (holds_openSocketIo _ _) fun opened => ?_
    cases opened with
    | none =>
      exact Triple.bind (holds_sendIgnored Running.sound _) fun _ => Triple.pure Running.over
    | some result =>
      cases result with
      | error category =>
        refine Triple.bind (holds_recordError_due _ 0) fun _ => ?_
        exact Triple.bind (holds_sendIgnored Due.sound _) fun _ => holds_sessionEnd Due.sound
      | ok pingEvery =>
        refine Triple.bind (holds_silent Running.sound fun _ _ => rfl) fun _ => ?_
        refine Triple.bind (holds_runScriptOr hcap fun _ => holds_runEchoLoop hcap)
          fun ended => ?_
        refine Triple.bind (holds_silent Due.sound fun _ _ => rfl) fun unsolicited => ?_
        exact Triple.bind (holds_record Due.sound fun _ => rfl) fun _ => Triple.pure fun _ h => h

/-- **Whatever session a worker runs**, it ends with what ended it counted as
`errorsFor` says. -/
theorem holds_modeLoop {codec : GraphQLCodec}
    (hcap : cap.isSome → config.maxRequests = cap ∧ runsGraphQL config scenario = false) :
    Holds cap (Running cap slot) (modeLoop serde config workerId scenario codec)
      fun _ => Due cap slot 0 := by
  have hlimit : cap.isSome → config.maxRequests = cap := fun h => (hcap h).1
  unfold modeLoop
  cases hmode : config.mode with
  | socketIo => exact holds_runSocketIo hlimit
  | echo => exact holds_runScriptOr hlimit fun _ => holds_runEchoLoop hlimit
  | stream => exact holds_runScriptOr hlimit fun _ => holds_runStreamLoop hlimit
  | listen => exact holds_runScriptOr hlimit fun _ => holds_runListenLoop
  | graphQLWS =>
    refine holds_runScriptOr hlimit fun hnil => holds_runGraphQLWsLoop ?_
    have hruns : runsGraphQL config scenario = true := decide_eq_true ⟨hmode, hnil⟩
    cases hcapped : cap with
    | none => rfl
    | some max =>
      rw [(hcap (by rw [hcapped]; rfl)).2] at hruns
      exact absurd hruns Bool.false_ne_true

end Ledger

end WsBlast
