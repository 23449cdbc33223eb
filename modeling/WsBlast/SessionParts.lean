import WsBlast.Worker

/-!
# What the parts of a session ask

Most of a session has nothing to do with any one thing that a theorem about it
is about. What its parts ask is listed here once, as questions that a `P` has
to have: the quiet ones, which everything asks, then sleeps, the clock and the
wait for a send slot.

Each property of a session names the questions that it is about, and all others
leave it alone. A proof that goes through the whole session would then have to
say for each part of it which questions it asks. The lemmas here do so once: a
part asks quiet questions, and those that its hypotheses name.
-/

namespace WsBlast

open Proc

/-! ## Quiet parts

The questions that everything asks, and the parts that ask no others. -/

/-- Questions that no data frame, no draw and no clock has a part in. -/
def Eff.Quiet : Eff → Prop
  | .isCancelled => True
  | .cancel => True
  | .wallClock => True
  | .claimRequest _ => True
  | .requestsExhausted _ => True
  | .errorsEmpty => True
  | .keepaliveDue => True
  | .sendIgnored _ => True
  | .record (.error _ _) => True
  | .record .chaosCorrupted => True
  | .record .chaosClose => True
  | .record .interrupted => True
  | .record (.currentAction _) => True
  | .record (.intervalUsesResponse _) => True
  | _ => False

section Parts

variable {P : Eff → Prop} {serde : Serde} {config : LoadTestConfig}
  {scenario : Option ScenarioPhase} {R : Type}

/-- The pause after a reply or a burst. -/
theorem within_applyThinkTime (hsleep : ∀ timer, P (.sleep timer)) :
    Within P (applyThinkTime scenario) := by
  unfold applyThinkTime
  cases scenario with
  | none => exact Within.pure
  | some phase => exact Within.ite (fun _ => Within.pure) fun _ => Within.ask (hsleep _)

theorem within_chaosReadPause (hdraw : P .chaosReadPause) (hpaused : P (.record .chaosReadPause)) :
    Within P (chaosReadPause config) := by
  refine Within.ite (fun _ => Within.bind (Within.ask hdraw) fun pause => ?_) fun _ => Within.pure
  cases pause with
  | none => exact Within.pure
  | some pause => exact Within.bind (Within.ask hpaused) fun _ => Within.pure

theorem within_chaosPlan (hplan : P .chaosPlan) : Within P (chaosPlan config) :=
  Within.ite (fun _ => Within.ask hplan) fun _ => Within.pure

section Quiet

variable (hquiet : ∀ e : Eff, e.Quiet → P e)

include hquiet

theorem within_sessionEnd : Within P sessionEnd :=
  Within.bind (Within.ask (hquiet _ trivial)) fun _ =>
    Within.ite (fun _ => Within.pure) fun _ => Within.pure

theorem within_breakSession : StepWithin P (breakSession : Round R) :=
  StepWithin.bind (StepWithin.lift (within_sessionEnd hquiet)) fun _ => StepWithin.throw

theorem within_closeAndBreak : StepWithin P (closeAndBreak : Round R) :=
  StepWithin.bind (StepWithin.lift (Within.ask (hquiet _ trivial))) fun _ =>
    within_breakSession hquiet

theorem within_maxRequestsReached : Within P (maxRequestsReached config) := by
  unfold maxRequestsReached
  cases config.maxRequests with
  | none => exact Within.pure
  | some max => exact Within.ask (hquiet _ trivial)

theorem within_claimSend : Within P (claimSend config) := by
  unfold claimSend
  cases config.maxRequests with
  | none => exact Within.pure
  | some max => exact Within.ask (hquiet _ trivial)

theorem within_claimOrBreak : StepWithin P (claimOrBreak config) :=
  StepWithin.bind (StepWithin.lift (within_claimSend hquiet)) fun _ =>
    StepWithin.ite (fun _ => StepWithin.pure) fun _ =>
      StepWithin.bind (StepWithin.lift (Within.ask (hquiet _ trivial))) fun _ =>
        within_closeAndBreak hquiet

theorem within_recordError (err : ErrorCategory) (scope : ErrorScope) :
    Within P (recordError err scope) :=
  Within.ask (hquiet _ trivial)

theorem within_sendKeepalive : Within P (sendKeepalive config) :=
  Within.ite (fun _ => Within.ask (hquiet _ trivial)) fun _ => Within.pure

theorem within_checkAnswer (request : Request) (reply : Message) (expect : Option Check)
    (captures : List Capture) (vars : List String) :
    Within P (checkAnswer serde config request reply expect captures vars) :=
  Within.ite (fun _ => Within.pure) fun _ =>
    Within.ite (fun _ => Within.pure) fun _ =>
      Within.ite (fun _ => Within.pure) fun _ =>
        Within.bind (within_recordError hquiet _ _) fun _ => Within.pure

theorem within_scriptStops : Within P (scriptStops config) :=
  Within.bind (Within.ask (hquiet _ trivial)) fun _ =>
    Within.ite (fun _ => Within.pure) fun _ => within_maxRequestsReached hquiet

/-- What closes a connection, when the draw says so. -/
theorem within_chaosClose (hdraw : P .chaosCloseNow) : StepWithin P (chaosClose config) := by
  unfold chaosClose
  refine StepWithin.bind (StepWithin.lift ?_) fun graceful => ?_
  · exact Within.ite (fun _ => Within.ask hdraw) fun _ => Within.pure
  · cases graceful with
    | none => exact StepWithin.pure
    | some graceful =>
      refine StepWithin.bind (StepWithin.lift (Within.ask (hquiet _ trivial))) fun _ => ?_
      exact StepWithin.ite
        (fun _ => StepWithin.bind (StepWithin.lift (Within.ask (hquiet _ trivial))) fun _ =>
          within_breakSession hquiet)
        fun _ => within_breakSession hquiet


theorem within_chaosCorrupt (hcorrupt : ∀ message, P (.chaosCorrupt message)) (message : Message)
    (corrupt : Bool) : Within P (chaosCorrupt config message corrupt) :=
  Within.ite
    (fun _ => Within.bind (Within.ask (hcorrupt _)) fun _ =>
      Within.ite (fun _ => Within.bind (Within.ask (hquiet _ trivial)) fun _ => Within.pure)
        fun _ => Within.pure)
    fun _ => Within.pure

/-- What a frame that a reply is awaited with asks. -/
theorem within_readReply (sent : Option Message) (seq : ℕ) (corrupted : Bool) (unsolicited : ℕ)
    (message : Message) :
    Within P (readReply serde config sent seq corrupted unsolicited message) := by
  cases message with
  | close frame => exact Within.pure
  | ping bytes => exact Within.bind (Within.ask (hquiet _ trivial)) fun _ => Within.pure
  | pong bytes => exact Within.pure
  | frame => exact Within.pure
  | text text => exact Within.ite (fun _ => Within.pure) fun _ => Within.pure
  | binary bytes => exact Within.ite (fun _ => Within.pure) fun _ => Within.pure

theorem within_awaitReply (hreply : ∀ timeout, P (.select (.reply timeout)))
    (sent : Option Message) (seq : ℕ) (corrupted : Bool) :
    Within P (awaitReply serde config sent seq corrupted) := by
  refine Within.loop fun unsolicited => Within.bind (Within.ask (hreply _)) fun woken => ?_
  cases woken with
  | read item =>
    match item with
    | none => exact Within.pure
    | some (.error err) => exact Within.pure
    | some (.ok message) => exact within_readReply hquiet _ _ _ _ message
  | due => exact Within.pure
  | keepalive => exact Within.pure
  | resume => exact Within.pure
  | timedOut => exact Within.pure
  | cancelled => exact Within.pure

theorem within_retry {worker : Worker} (hsleep : ∀ duration, P (.sleep (.after duration)))
    (state : WorkerState) : StepWithin P (worker.retry state) :=
  StepWithin.ite (fun _ => StepWithin.throw) fun _ =>
    StepWithin.bind (StepWithin.lift (Within.ask (hquiet _ trivial))) fun _ =>
      StepWithin.ite (fun _ => StepWithin.throw) fun _ =>
        StepWithin.bind (StepWithin.lift (Within.ask (hsleep _))) fun _ =>
          StepWithin.ite (fun _ => StepWithin.pure) fun _ => StepWithin.throw

section Pauses

variable (hsleep : ∀ timer, P (.sleep timer))

include hsleep

theorem within_sleepOrBreak (timer : Timer) : StepWithin P (sleepOrBreak timer) :=
  StepWithin.bind (StepWithin.lift (Within.ask (hsleep _))) fun _ =>
    StepWithin.ite (fun _ => StepWithin.pure) fun _ => within_closeAndBreak hquiet

theorem within_delaySend (hdelayed : P (.record .chaosDelayed)) (delay : Duration)
    (schedule : Option SendSchedule) (due : Option Instant) :
    StepWithin P (delaySend delay schedule due) := by
  refine StepWithin.ite (fun _ => StepWithin.pure) fun _ => StepWithin.bind (StepWithin.lift ?_)
    fun _ => StepWithin.ite (fun _ => StepWithin.pure) fun _ => within_closeAndBreak hquiet
  exact Within.bind (Within.ask hdelayed) fun _ => Within.ask (hsleep _)

theorem within_pauseReads (hdraw : P .chaosReadPause) (hpaused : P (.record .chaosReadPause))
    (schedule : Option SendSchedule) : StepWithin P (pauseReads config schedule) := by
  refine StepWithin.bind (StepWithin.lift (within_chaosReadPause hdraw hpaused)) fun pause => ?_
  cases pause with
  | none => exact StepWithin.pure
  | some pause =>
    exact StepWithin.bind (StepWithin.lift (Within.ask (hsleep _))) fun _ =>
      StepWithin.ite (fun _ => StepWithin.pure) fun _ => within_closeAndBreak hquiet

theorem within_paceScript (due : Option Instant) : StepWithin P (paceScript config due) := by
  cases due with
  | some due => exact within_sleepOrBreak hquiet hsleep _
  | none =>
    unfold paceScript
    dsimp only
    cases scriptTick config with
    | some period => exact within_sleepOrBreak hquiet hsleep _
    | none => exact StepWithin.pure

end Pauses

section Slots

variable (hslot : ∀ due, P (.select (.slot due)))

include hslot

theorem within_waitForSlot (due : Instant) : Within P (waitForSlot config due) := by
  refine Within.loop fun _ => Within.bind (Within.ask (hslot _)) fun woken => ?_
  cases woken with
  | keepalive => exact Within.bind (within_sendKeepalive hquiet) fun _ => Within.pure
  | due => exact Within.pure
  | resume => exact Within.pure
  | timedOut => exact Within.pure
  | cancelled => exact Within.pure
  | read item => exact Within.pure

theorem within_paceEcho (due : Option Instant) : StepWithin P (paceEcho config due) := by
  cases due with
  | some due =>
    exact StepWithin.bind (StepWithin.lift (within_waitForSlot hquiet hslot due)) fun _ =>
      StepWithin.ite (fun _ => StepWithin.pure) fun _ => within_closeAndBreak hquiet
  | none =>
    exact StepWithin.ite
      (fun _ => StepWithin.bind (StepWithin.lift (Within.ask (hquiet _ trivial))) fun _ =>
        StepWithin.ite (fun _ => StepWithin.lift (Within.ask (hquiet _ trivial))) fun _ =>
          StepWithin.pure)
      fun _ => StepWithin.pure

end Slots

end Quiet

/-- What opens a connection, or fails to. -/
theorem within_handshake {worker : Worker} (hquiet : ∀ e : Eff, e.Quiet → P e) (hnow : P .now)
    (hconnect : ∀ request, P (.connect request))
    (hopened : ∀ duration, P (.record (.handshake duration)) ∧ P (.record (.reconnect duration)))
    (hfailed : ∀ err, P (.record (.connectionFailed err))) (request : HandshakeRequest)
    (connectedBefore : Bool) : Within P (worker.handshake request connectedBefore) := by
  refine Within.bind (Within.ask (hquiet _ trivial)) fun _ => ?_
  refine Within.bind (Within.ask hnow) fun start => ?_
  refine Within.bind (Within.ask (hconnect _)) fun outcome => ?_
  cases outcome with
  | cancelled =>
    refine Within.bind (Within.ite (fun _ => Within.pure) fun _ => ?_) fun _ => Within.pure
    exact Within.bind (Within.ask (hquiet _ trivial)) fun _ =>
      Within.ite (fun _ => Within.ask (hquiet _ trivial)) fun _ => Within.pure
  | opened =>
    refine Within.bind (Within.ask hnow) fun now => Within.bind ?_ fun _ => Within.pure
    exact Within.ite (fun _ => Within.ask (hopened _).2) fun _ => Within.ask (hopened _).1
  | static category => exact Within.bind (Within.ask (hfailed _)) fun _ => Within.pure
  | failed err => exact Within.bind (Within.ask (hfailed _)) fun _ => Within.pure
  | timedOut => exact Within.bind (Within.ask (hfailed _)) fun _ => Within.pure

section Clock

variable (hnow : P .now)

include hnow

theorem within_restartAfterPause (schedule : Option SendSchedule) :
    Within P (restartAfterPause schedule) := by
  cases schedule with
  | none => exact Within.pure
  | some schedule => exact Within.bind (Within.ask hnow) fun _ => Within.pure

theorem within_restartScript (state : ScriptState) : Within P (restartScript state) :=
  Within.bind (within_restartAfterPause hnow _) fun _ => Within.pure

end Clock

end Parts

end WsBlast
