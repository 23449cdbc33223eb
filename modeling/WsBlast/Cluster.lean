import WsBlast.Lib.Fifo
import WsBlast.Lib.Machine
import WsBlast.LiveCounters
import WsBlast.ScenarioMerge

/-!
# A coordinator and its agents

A distributed run goes through its phases one after another. In each the
coordinator prepares every agent it still has a link to, waits until all of
them are ready (the barrier), starts them together and follows each until its
result is in. Agents that fail are lost, and the phase goes on without them.

`ClusterRun.step` is one step of one party: the coordinator, the control task
of one agent, an agent, or a link that fails. A run is any list of steps, so
messages take any time, and the parties go in any order. Some data is there
only to say what happened: a message says which phase it belongs to, a channel
keeps what it delivered, and an agent which loads it started and which results
it sent. Neither party reads any of it.

The two parties are asymmetric. The coordinator has a task for every agent,
which prepares it, waits for its answer, starts it and follows it; the tasks of
one phase meet at the barrier. An agent has a loop that takes one message after
the other and is in one of a few stages of its test. Both end a link by
dropping it, and either may find it dropped at any time.
-/

namespace WsBlast

/-! ## Links

Messages, the stages of the two ends, and what is between them. -/

/-- A control message. Prepare stands for an agent's share of a phase; the
phase of a message is not on the wire. -/
inductive ControlMessage (W : Type) where
  | prepare (phase : ℕ)
  | ready (phase : ℕ)
  | start (phase : ℕ)
  /-- The live counters of an agent; the last ones of a phase say so. -/
  | snapshot (last : Option ℕ) (live : LiveSnapshot)
  | token (value : String)
  | capture
  | stop
  | result (phase : ℕ) (wire : W)
  | error (message : String)
  deriving DecidableEq

/-- The name of the kind of a message. -/
def ControlMessage.kind {W : Type} : ControlMessage W → String
  | prepare _ => "prepare"
  | ready _ => "ready"
  | start _ => "start"
  | snapshot _ _ => "snapshot"
  | token _ => "token"
  | capture => "capture"
  | stop => "stop"
  | result _ _ => "result"
  | error _ => "error"

/-- Where an agent is in its test. -/
inductive AgentStage where
  /-- It waits for the next prepare. -/
  | idle
  /-- It checks its share and resolves the target. -/
  | preparing (phase : ℕ)
  /-- It is ready and waits for start. -/
  | waiting (phase : ℕ)
  | running (phase : ℕ)
  /-- Its workers have stopped; it forwards the rest of the capture. -/
  | ending (phase : ℕ)
  /-- It sent its last snapshot. -/
  | reporting (phase : ℕ)
  /-- Its coordinator is gone, and its workers are stopping. -/
  | abandoned (phase : ℕ)
  | gone
  deriving DecidableEq

/-- What the coordinator makes of one agent: the link of the session, or what
the task of the agent has come to. -/
inductive Hold (W : Type) where
  /-- The session has no link. -/
  | absent
  | held
  | preparing
  /-- It was sent its share. -/
  | awaiting
  /-- Its answer is in; with a reason it failed the barrier. -/
  | prepared (failure : Option String)
  | starting
  /-- Start was sent, or could not be. -/
  | started (failure : Option String)
  /-- Its task follows it, and was told to stop it or not. -/
  | following (stopped : Bool)
  /-- The task ended, with the agent's result or without. -/
  | followed (outcome : Except String W)

/-- Whether the coordinator has a link to the agent. -/
def Hold.present {W : Type} : Hold W → Bool
  | .absent => false
  | _ => true

theorem Hold.present_iff {W : Type} {hold : Hold W} : hold.present = true ↔ hold ≠ .absent := by
  cases hold with
  | absent => exact ⟨nofun, fun h => absurd rfl h⟩
  | _ => exact ⟨fun _ => nofun, fun _ => rfl⟩

/-- One agent, its link, and what the coordinator has of it. -/
structure AgentLink (W : Type) where
  hold : Hold W := .held
  /-- Why it was lost, once it was. -/
  lost : Option String := none
  /-- The latest counters it reported. -/
  snapshot : LiveSnapshot := {}
  /-- From the coordinator to the agent. -/
  down : Fifo (ControlMessage W) := {}
  up : Fifo (ControlMessage W) := {}
  agent : AgentStage := .idle
  /-- Its live counters, from the start of the test. -/
  live : LiveMetrics
  /-- The phases whose load it started. -/
  loads : List ℕ := []
  /-- The results it sent, each with its phase. -/
  results : List (ℕ × W) := []

/-- A step of one link, of its ends, or of the task of its agent. A send that
fails says why, and may still have got through. -/
inductive LinkAction (W : Type) where
  /-- The link fails, and loses some of what is in flight. -/
  | fail (keptDown keptUp : ℕ)
  -- the coordinator
  | sendPrepare (through : Bool) (failure : Option String)
  /-- The next message, or the reason why there is none. -/
  | hearReady (reason : String)
  | notReady
  | sendStart (through : Bool) (failure : Option String)
  | follow (reason : String)
  | sendToken (value : String)
  | sendStop
  /-- No result by the deadline, or the task panicked. -/
  | giveUp (panic : Option String)
  -- the agent
  | hear
  | ready
  | refuse (message : String)
  /-- A worker records something in its shard of the live counters. -/
  | work (shard : ℕ) (record : Record)
  | report
  | forward
  | endLoad
  | failRun (message : String)
  | lastReport
  | sendResult (wire : W)
  /-- A send failed, on a link that is closed. -/
  | sendFailed
  /-- It waited too long, or is shutting down. -/
  | leave

namespace AgentLink

variable {W : Type} (link : AgentLink W)

/-- The link is dropped at one end. -/
def hangUp : AgentLink W := { link with down := link.down.close, up := link.up.close }

/-- A message to the agent. -/
def tell (m : ControlMessage W) : AgentLink W := { link with down := link.down.send m }

/-- A message to the coordinator. -/
def answer (m : ControlMessage W) : AgentLink W := { link with up := link.up.send m }

/-! ## The coordinator's side

What the task of one agent does with a link, by the stage it is in. -/

/-- A message that may be lost when its send fails. -/
def tellOr (through : Bool) (failure : Option String) (m : ControlMessage W) : AgentLink W :=
  if through || failure.isNone then link.tell m else link

@[simp] theorem tellOr_none (through : Bool) (m : ControlMessage W) :
    link.tellOr through none m = link.tell m := by
  unfold tellOr
  rw [Option.isNone_none, Bool.or_true, if_pos rfl]

/-- What an answer to prepare makes of an agent: nothing when it is ready. -/
def answerFailure : ControlMessage W → Option String
  | .ready _ => none
  | .error message => some s!"rejected the test: {message}"
  | other => some s!"answered prepare with {other.kind}"

/-- The task of an agent ends without a result and drops the link. -/
def dropped (reason : String) : AgentLink W :=
  { link.hangUp with hold := .followed (.error reason) }

/-- `follow_agent` with the next message. -/
def followMessage : ControlMessage W → AgentLink W
  | .snapshot _ live => { link with snapshot := live }
  | .capture => link
  | .result _ wire => { link with hold := .followed (.ok wire) }
  | .error message => link.dropped s!"reported an error: {message}"
  | other => link.dropped s!"sent an unexpected {other.kind} message"

/-- `prepare`, `follow_agent` and the start message: one step of the task of an
agent, in a phase of a run that is cancelled or not. -/
def coordinatorStep (agentTimeout : String) (phase : ℕ) (cancelled : Bool) :
    LinkAction W → Option (AgentLink W)
  | .sendPrepare through failure =>
    match link.hold with
    | .preparing => some { link.tellOr through failure (.prepare phase) with
        hold := match failure with
          | none => .awaiting
          | some err => .prepared (some s!"control connection failed: {err}") }
    | _ => none
  | .hearReady reason =>
    match link.hold with
    | .awaiting =>
      match link.up.receive with
      | some (m, up) => some { link with up, hold := .prepared (answerFailure m) }
      | none =>
        if link.up.closed then some { link with
          hold := .prepared (some s!"closed the control connection ({reason})") }
        else none
    | _ => none
  | .notReady =>
    match link.hold with
    | .preparing | .awaiting => some { link with
        hold := .prepared (some s!"not ready within {agentTimeout} (--agent-timeout)") }
    | _ => none
  | .sendStart through failure =>
    match link.hold with
    | .starting => some { link.tellOr through failure (.start phase) with
        hold := .started (failure.map fun err => s!"could not be started: {err}") }
    | _ => none
  | .follow reason =>
    match link.hold with
    | .following _ =>
      match link.up.receive with
      | some (m, up) => some (followMessage { link with up } m)
      | none =>
        if link.up.closed then
          some (link.dropped s!"disconnected before sending its result ({reason})")
        else none
    | _ => none
  | .sendToken value =>
    match link.hold with
    | .following _ => some (link.tell (.token value))
    | _ => none
  | .sendStop =>
    match link.hold with
    | .following false =>
      if cancelled then some { link.tell .stop with hold := .following true } else none
    | _ => none
  | .giveUp panic =>
    match link.hold with
    | .following _ => some (link.dropped (match panic with
      | none =>
        s!"sent no result within {agentTimeout} of the end of the run (--agent-timeout)"
      | some err => s!"its control task failed: {err}"))
    | _ => none
  | _ => none

/-! ## The agent's side -/

/-- The agent ends the test without a word. -/
def gone : AgentLink W := { link.hangUp with agent := .gone }

/-- The agent says why the test cannot go on, and ends it. -/
def refused (message : String) : AgentLink W := (link.answer (.error message)).gone

/-- `run_test` and `run_phase` of the agent with the next message. -/
def agentMessage (m : ControlMessage W) : AgentLink W :=
  match link.agent with
  | .idle =>
    match m with
    | .prepare phase => { link with agent := .preparing phase }
    | .token _ => link
    | .stop => link.gone
    | other => link.refused s!"expected a prepare message, received {other.kind}"
  | .waiting phase =>
    match m with
    | .start _ => { link with agent := .running phase, loads := link.loads ++ [phase] }
    | .token _ => link
    | .stop => link.gone
    | other => link.refused s!"expected a start message, received {other.kind}"
  -- a stop only makes the load end sooner
  | _ => link

/-- What the agent does when the link is closed. -/
def agentClosed : AgentLink W :=
  match link.agent with
  | .running phase => { link with agent := .abandoned phase }
  | _ => link.gone

/-- Whether the agent reads its messages. -/
def listens : Bool :=
  match link.agent with
  | .idle | .waiting _ | .running _ => true
  | _ => false

/-- One step of the agent. -/
def agentStep : LinkAction W → Option (AgentLink W)
  | .hear =>
    if link.listens then
      match link.down.receive with
      | some (m, down) => some (agentMessage { link with down } m)
      | none => if link.down.closed then some link.agentClosed else none
    else none
  | .ready =>
    match link.agent with
    | .preparing phase => some { link.answer (.ready phase) with agent := .waiting phase }
    | _ => none
  | .refuse message =>
    match link.agent with
    | .preparing _ => some (link.refused message)
    | _ => none
  | .work shard record =>
    match link.agent with
    | .running _ | .abandoned _ =>
      some { link with live := link.live.update shard record.onShard }
    | _ => none
  | .report =>
    match link.agent with
    | .running _ => some (link.answer (.snapshot none link.live.snapshot))
    | _ => none
  | .forward =>
    match link.agent with
    | .running _ | .ending _ => some (link.answer .capture)
    | _ => none
  | .endLoad =>
    match link.agent with
    | .running phase => some { link with agent := .ending phase }
    | _ => none
  | .failRun message =>
    match link.agent with
    | .running _ => some (link.refused message)
    | _ => none
  | .lastReport =>
    match link.agent with
    | .ending phase => some { link.answer (.snapshot (some phase) link.live.snapshot) with
        agent := .reporting phase }
    | _ => none
  | .sendResult wire =>
    match link.agent with
    | .reporting phase => some { link.answer (.result phase wire) with
        agent := .idle
        results := link.results ++ [(phase, wire)] }
    | _ => none
  | .sendFailed =>
    if link.up.closed then
      match link.agent with
      | .preparing _ | .ending _ | .reporting _ => some link.gone
      | .running phase => some { link with agent := .abandoned phase }
      | _ => none
    else none
  | .leave =>
    match link.agent with
    | .idle | .waiting _ | .abandoned _ => some link.gone
    | _ => none
  | _ => none

/-- One step of a link. -/
def step (agentTimeout : String) (phase : ℕ) (cancelled : Bool) (action : LinkAction W) :
    Option (AgentLink W) :=
  match action with
  | .fail keptDown keptUp =>
    some { link with down := link.down.cut keptDown, up := link.up.cut keptUp }
  | .hear | .ready | .refuse _ | .work _ _ | .report | .forward | .endLoad | .failRun _
  | .lastReport | .sendResult _ | .sendFailed | .leave => link.agentStep action
  | _ => link.coordinatorStep agentTimeout phase cancelled action

/-! ## What a step can be -/

/-- What a step of the coordinator can make of a link. -/
inductive CoordinatorMove (phase : ℕ) : AgentLink W → Prop
  | prepare (through : Bool) (failure : Option String) (hcase : link.hold = .preparing) :
    CoordinatorMove phase { link.tellOr through failure (.prepare phase) with
      hold := match failure with
        | none => .awaiting
        | some err => .prepared (some s!"control connection failed: {err}") }
  | answer {m : ControlMessage W} {up : Fifo (ControlMessage W)} (hcase : link.hold = .awaiting)
      (hreceive : link.up.receive = some (m, up)) :
    CoordinatorMove phase { link with up, hold := .prepared (answerFailure m) }
  | fail (reason : String) (hcase : link.hold = .preparing ∨ link.hold = .awaiting) :
    CoordinatorMove phase { link with hold := .prepared (some reason) }
  | start (through : Bool) (failure : Option String) (hcase : link.hold = .starting) :
    CoordinatorMove phase { link.tellOr through failure (.start phase) with
      hold := .started (failure.map fun err => s!"could not be started: {err}") }
  | message {m : ControlMessage W} {up : Fifo (ControlMessage W)} {stopped : Bool}
      (hcase : link.hold = .following stopped) (hreceive : link.up.receive = some (m, up)) :
    CoordinatorMove phase (followMessage { link with up } m)
  | drop {stopped : Bool} (reason : String) (hcase : link.hold = .following stopped) :
    CoordinatorMove phase (link.dropped reason)
  | token {stopped : Bool} (value : String) (hcase : link.hold = .following stopped) :
    CoordinatorMove phase (link.tell (.token value))
  | stop (hcase : link.hold = .following false) :
    CoordinatorMove phase { link.tell .stop with hold := .following true }

/-- What a step of the agent can make of a link. -/
inductive AgentMove : AgentLink W → Prop
  | hear {m : ControlMessage W} {down : Fifo (ControlMessage W)}
      (hreceive : link.down.receive = some (m, down)) :
    AgentMove (agentMessage { link with down } m)
  | ready {p : ℕ} (hcase : link.agent = .preparing p) :
    AgentMove { link.answer (.ready p) with agent := .waiting p }
  | work {p : ℕ} (shard : ℕ) (record : Record)
      (hcase : link.agent = .running p ∨ link.agent = .abandoned p) :
    AgentMove { link with live := link.live.update shard record.onShard }
  | report {p : ℕ} (hcase : link.agent = .running p) :
    AgentMove (link.answer (.snapshot none link.live.snapshot))
  | forward : AgentMove (link.answer .capture)
  | endLoad {p : ℕ} (hcase : link.agent = .running p) : AgentMove { link with agent := .ending p }
  | abandon {p : ℕ} (hcase : link.agent = .running p) :
    AgentMove { link with agent := .abandoned p }
  | lastReport {p : ℕ} (hcase : link.agent = .ending p) :
    AgentMove { link.answer (.snapshot (some p) link.live.snapshot) with agent := .reporting p }
  | result {p : ℕ} (wire : W) (hcase : link.agent = .reporting p) :
    AgentMove { link.answer (.result p wire) with
      agent := .idle
      results := link.results ++ [(p, wire)] }
  | refuse (message : String) : AgentMove (link.refused message)
  | leave : AgentMove link.gone

variable {link} {link' : AgentLink W} {agentTimeout : String} {phase : ℕ} {cancelled : Bool}
  {action : LinkAction W}

theorem coordinatorStep_move
    (h : link.coordinatorStep agentTimeout phase cancelled action = some link') :
    link.CoordinatorMove phase link' := by
  unfold coordinatorStep at h
  -- in the order of the steps: prepare, what comes of it, start, and following the agent
  split at h
  · split at h
    · obtain rfl := Option.some.inj h
      exact .prepare _ _ ‹_›
    · cases h
  · split at h
    · split at h
      · obtain rfl := Option.some.inj h
        exact .answer ‹_› ‹_›
      · split at h
        · obtain rfl := Option.some.inj h
          exact .fail _ (.inr ‹_›)
        · cases h
    · cases h
  · split at h
    · obtain rfl := Option.some.inj h
      exact .fail _ (.inl ‹_›)
    · obtain rfl := Option.some.inj h
      exact .fail _ (.inr ‹_›)
    · cases h
  · split at h
    · obtain rfl := Option.some.inj h
      exact .start _ _ ‹_›
    · cases h
  · split at h
    · split at h
      · obtain rfl := Option.some.inj h
        exact .message ‹_› ‹_›
      · split at h
        · obtain rfl := Option.some.inj h
          exact .drop _ ‹_›
        · cases h
    · cases h
  · split at h
    · obtain rfl := Option.some.inj h
      exact .token _ ‹_›
    · cases h
  · split at h
    · split at h
      · obtain rfl := Option.some.inj h
        exact .stop ‹_›
      · cases h
    · cases h
  · split at h
    · obtain rfl := Option.some.inj h
      exact .drop _ ‹_›
    · cases h
  · cases h

theorem agentClosed_move : link.AgentMove link.agentClosed := by
  unfold agentClosed
  split
  · exact .abandon ‹_›
  · exact .leave

theorem agentStep_move (h : link.agentStep action = some link') : link.AgentMove link' := by
  unfold agentStep at h
  -- in the order of the steps: a message or its end, an answer to prepare, the load, what
  -- it reports
  split at h
  · split at h
    · split at h
      · obtain rfl := Option.some.inj h
        exact .hear ‹_›
      · split at h
        · obtain rfl := Option.some.inj h
          exact agentClosed_move
        · cases h
    · cases h
  · split at h
    · obtain rfl := Option.some.inj h
      exact .ready ‹_›
    · cases h
  · split at h
    · obtain rfl := Option.some.inj h
      exact .refuse _
    · cases h
  · split at h
    · obtain rfl := Option.some.inj h
      exact .work _ _ (.inl ‹_›)
    · obtain rfl := Option.some.inj h
      exact .work _ _ (.inr ‹_›)
    · cases h
  · split at h
    · obtain rfl := Option.some.inj h
      exact .report ‹_›
    · cases h
  · split at h
    · obtain rfl := Option.some.inj h
      exact .forward
    · obtain rfl := Option.some.inj h
      exact .forward
    · cases h
  · split at h
    · obtain rfl := Option.some.inj h
      exact .endLoad ‹_›
    · cases h
  · split at h
    · obtain rfl := Option.some.inj h
      exact .refuse _
    · cases h
  · split at h
    · obtain rfl := Option.some.inj h
      exact .lastReport ‹_›
    · cases h
  · split at h
    · obtain rfl := Option.some.inj h
      exact .result _ ‹_›
    · cases h
  · split at h
    · split at h
      · obtain rfl := Option.some.inj h
        exact .leave
      · obtain rfl := Option.some.inj h
        exact .leave
      · obtain rfl := Option.some.inj h
        exact .leave
      · obtain rfl := Option.some.inj h
        exact .abandon ‹_›
      · cases h
    · cases h
  · split at h
    · obtain rfl := Option.some.inj h
      exact .leave
    · obtain rfl := Option.some.inj h
      exact .leave
    · obtain rfl := Option.some.inj h
      exact .leave
    · cases h
  · cases h

/-- **What a step of a link can be.** -/
theorem step_cases (h : link.step agentTimeout phase cancelled action = some link') :
    (∃ keptDown keptUp,
        link' = { link with down := link.down.cut keptDown, up := link.up.cut keptUp })
      ∨ link.AgentMove link' ∨ link.CoordinatorMove phase link' := by
  cases action with
  | fail keptDown keptUp => exact .inl ⟨keptDown, keptUp, (Option.some.inj h).symm⟩
  | hear | ready | refuse | work | report | forward | endLoad | failRun | lastReport | sendResult
  | sendFailed | leave =>
    simp only [step] at h
    exact .inr (.inl (agentStep_move h))
  | _ =>
    simp only [step] at h
    exact .inr (.inr (coordinatorStep_move h))

end AgentLink

/-! ## The whole run

The coordinator between the phases, in a barrier, and at the end of a phase. -/

/-- Where the coordinator is in a run. -/
inductive ClusterStage where
  | between
  | barrier
  | starting
  | following
  /-- The run is over, with its error if it failed. -/
  | over (failure : Option String)
  deriving DecidableEq

/-- A distributed run on `n` agents. -/
structure Cluster (n : ℕ) (W : Type) where
  /-- How many phases are over; the one that runs has this number. -/
  phase : ℕ := 0
  stage : ClusterStage := .between
  cancelled : Bool := false
  links : Fin n → AgentLink W
  /-- What became of the agents in this phase. -/
  parts : Fin n → AgentPart := fun _ => .absent
  /-- The phases that will be merged. -/
  runs : List (ℕ × (Fin n → AgentPart)) := []
  /-- The live counters that were published. -/
  published : List LiveSnapshot := []

/-- What a distributed run is given. -/
structure ClusterRun (n : ℕ) (W : Type) where
  /-- The names of the agents. -/
  agents : Fin n → String
  /-- How many cores each agent has. -/
  cores : Fin n → ℕ
  phases : ℕ
  /-- The names of the phases; a test without phases has one without a
  name. -/
  name : ℕ → Option String
  /-- Reads a result off the wire. -/
  decode : W → Except String AgentResult
  /-- `--agent-timeout`, as it is printed. -/
  agentTimeout : String

/-- A step of the coordinator, or of one link. -/
inductive ClusterAction (n : ℕ) (W : Type) where
  | cancel
  | beginPhase
  /-- The plan of a phase, or its capture file, fails. -/
  | fail (message : String)
  /-- The barrier sees that the run is cancelled; stop gets through to some
  agents. -/
  | interrupt (stopped : Fin n → Bool)
  /-- Every answer is in; where the run fails, stop gets through to some
  agents. -/
  | decide (stopped : Fin n → Bool)
  | startAll
  | publish
  | collect
  | finish
  | link (i : Fin n) (action : LinkAction W)

namespace Cluster

variable {n : ℕ} {W : Type} (s : Cluster n W)

/-- The session has a link to some agent. -/
def anyPresent : Bool := decide (∃ i, (s.links i).hold.present = true)

/-- The sum that `publish_live` stores. -/
def liveSum : LiveSnapshot := ∑ i, (s.links i).snapshot

/-- `publish_live`. -/
def publishLive : Cluster n W := { s with published := s.published ++ [s.liveSum] }

/-- Asks the agents to stop. -/
def stopAll (stopped : Fin n → Bool) : Cluster n W :=
  { s with links := fun i =>
      if stopped i && (s.links i).hold.present then (s.links i).tell .stop else s.links i }

/-- Closes every link; the run is over. -/
def close (failure : Option String) : Cluster n W :=
  { s with
    stage := .over failure
    links := fun i => { (s.links i).hangUp with hold := .absent } }

end Cluster

namespace ClusterRun

variable {n : ℕ} {W : Type} (run : ClusterRun n W)

/-- The session after the hellos. -/
def init : Cluster n W where
  links i := { live := .new (run.cores i) }

/-- `phase_reason`: why an agent was lost, with the phase it was lost in. -/
def phaseReason (phase : ℕ) (reason : String) : String :=
  match run.name phase with
  | some name => s!"phase '{name}': {reason}"
  | none => reason

/-- `agent NAME: reason` for every agent that has one. -/
def failures (reason : Fin n → Option String) : List String :=
  (List.finRange n).filterMap fun i =>
    (reason i).map fun reason => s!"agent {run.agents i}: {reason}"

/-- What a run says that was stopped before it began. -/
def interrupted : String := "interrupted before the agents started; nothing was run"

/-- What there is to say after the last phase when no phase can be merged. -/
def outcome (s : Cluster n W) : Option String :=
  if s.runs.isEmpty then
    let lost i := (s.links i).lost
    if ∀ i, lost i = none then some interrupted
    else
      let reasons := "; ".intercalate (run.failures fun i => some ((lost i).getD "lost"))
      some s!"every agent was lost, so there is nothing to report: {reasons}"
  else none

/-- Whether another phase is begun: a scenario stops when it is cancelled or
every agent is lost. -/
def begins (s : Cluster n W) : Bool :=
  match run.name s.phase with
  | none => true
  | some _ => !s.cancelled && s.anyPresent

/-- A link that takes part in a phase. -/
def enter (link : AgentLink W) : AgentLink W :=
  match link.hold with
  | .held => { link with hold := .preparing }
  | _ => link

/-- Why an agent failed the barrier. -/
def barrierFailure (link : AgentLink W) : Option String :=
  match link.hold with
  | .prepared failure => failure
  | _ => none

/-- Whether the answer of an agent is in, if it takes part. -/
def answered (link : AgentLink W) : Bool :=
  match link.hold with
  | .absent | .prepared _ => true
  | _ => false

/-- The agent is lost, and its link is dropped. -/
def lose (reason : String) (link : AgentLink W) : AgentLink W :=
  { link.hangUp with hold := .absent, lost := some reason }

/-- A link after a barrier that was passed. -/
def pass (phase : ℕ) (link : AgentLink W) : AgentLink W :=
  match link.hold with
  | .prepared (some reason) => lose (run.phaseReason phase reason) link
  | .prepared none => { link with hold := .starting }
  | _ => link

/-- What became of an agent in the barrier. -/
def barrierPart (phase : ℕ) (link : AgentLink W) : AgentPart :=
  match barrierFailure link with
  | some reason => .lost (run.phaseReason phase reason)
  | none => .absent

/-- Whether start was sent to the agent, if it takes part. -/
def startSent (link : AgentLink W) : Bool :=
  match link.hold with
  | .absent | .started _ => true
  | _ => false

/-- A link is given to the task that follows its agent. -/
def spawn (link : AgentLink W) : AgentLink W :=
  match link.hold with
  | .started none => { link with hold := .following false }
  | .started (some reason) => link.dropped reason
  | _ => link

/-- Whether the task of the agent ended, if it takes part. -/
def joined (link : AgentLink W) : Bool :=
  match link.hold with
  | .absent | .followed _ => true
  | _ => false

/-- The result of an agent, read off the wire. -/
def decoded (link : AgentLink W) : Option (Except String AgentResult) :=
  match link.hold with
  | .followed outcome => some (outcome.bind run.decode)
  | _ => none

/-- What becomes of an agent when its task has ended. -/
def partOf (phase : ℕ) (link : AgentLink W) (part : AgentPart) : AgentPart :=
  match run.decoded link with
  | some (.ok result) => .finished result
  | some (.error reason) => .lost (run.phaseReason phase reason)
  | none => part

/-- And of its link: a lost agent has no active connections left. -/
def takeBack (phase : ℕ) (link : AgentLink W) : AgentLink W :=
  match run.decoded link with
  | some (.ok _) => { link with hold := .held }
  | some (.error reason) =>
    { lose (run.phaseReason phase reason) link with
      snapshot := { link.snapshot with activeConnections := 0 } }
  | none => link

/-- A phase is over; it is merged when some agent finished it. -/
def endPhase (s : Cluster n W) : Cluster n W :=
  { s with
    stage := .between
    phase := s.phase + 1
    runs := if ∃ i, (s.parts i).result?.isSome then s.runs ++ [(s.phase, s.parts)] else s.runs }

/-- One step of a run. -/
def step (s : Cluster n W) : ClusterAction n W → Option (Cluster n W)
  | .cancel => some { s with cancelled := true }
  | .beginPhase =>
    if s.stage = .between ∧ s.phase < run.phases ∧ run.begins s then
      some { s with stage := .barrier, links := fun i => enter (s.links i) }
    else none
  | .fail message =>
    match s.stage with
    | .between =>
      if s.phase < run.phases ∧ run.begins s then some (s.close (some message)) else none
    | .starting => if ∀ i, startSent (s.links i) then some (s.close (some message)) else none
    | _ => none
  | .interrupt stopped =>
    if s.stage = .barrier ∧ s.cancelled then
      some ((s.stopAll stopped).close (if s.phase = 0 then some interrupted else run.outcome s))
    else none
  | .decide stopped =>
    if s.stage = .barrier ∧ ∀ i, answered (s.links i) then
      let failures := run.failures fun i => barrierFailure (s.links i)
      if s.phase = 0 ∧ failures ≠ [] then
        let reasons := "; ".intercalate failures
        some ((s.stopAll stopped).close (some s!"{reasons}; nothing was run"))
      else
        let passed := { s with
          links := fun i => run.pass s.phase (s.links i)
          parts := fun i => run.barrierPart s.phase (s.links i) }
        if passed.anyPresent then some { passed with stage := .starting }
        else some (endPhase passed)
    else none
  | .startAll =>
    if s.stage = .starting ∧ ∀ i, startSent (s.links i) then
      some { s with stage := .following, links := fun i => spawn (s.links i) }
    else none
  | .publish => if s.stage = .following then some s.publishLive else none
  | .collect =>
    if s.stage = .following ∧ ∀ i, joined (s.links i) then
      some (endPhase { s.publishLive with
        links := fun i => run.takeBack s.phase (s.links i)
        parts := fun i => run.partOf s.phase (s.links i) (s.parts i) })
    else none
  | .finish =>
    if s.stage = .between ∧ (run.phases ≤ s.phase ∨ run.begins s = false) then
      some (s.close (run.outcome s))
    else none
  | .link i action =>
    ((s.links i).step run.agentTimeout s.phase s.cancelled action).map fun link =>
      { s with links := Function.update s.links i link }

/-- What a step of a run can be. -/
inductive Move (s : Cluster n W) : Cluster n W → Prop
  | cancel : Move s { s with cancelled := true }
  | enter (hstage : s.stage = .between) :
    Move s { s with stage := .barrier, links := fun i => enter (s.links i) }
  | close (failure : Option String) : Move s (s.close failure)
  | stop (stopped : Fin n → Bool) (failure : Option String) (hstage : s.stage = .barrier) :
    Move s ((s.stopAll stopped).close failure)
  | pass (hstage : s.stage = .barrier) (hanswered : ∀ i, answered (s.links i) = true)
      (hfirst : s.phase = 0 → ∀ i, barrierFailure (s.links i) = none) :
    Move s { s with
      stage := .starting
      links := fun i => run.pass s.phase (s.links i)
      parts := fun i => run.barrierPart s.phase (s.links i) }
  | passNobody (hstage : s.stage = .barrier) (hanswered : ∀ i, answered (s.links i) = true)
      (hfirst : s.phase = 0 → ∀ i, barrierFailure (s.links i) = none)
      (habsent : ∀ i, (run.pass s.phase (s.links i)).hold = .absent) :
    Move s (endPhase { s with
      links := fun i => run.pass s.phase (s.links i)
      parts := fun i => run.barrierPart s.phase (s.links i) })
  | spawn (hstage : s.stage = .starting) (hsent : ∀ i, startSent (s.links i) = true) :
    Move s { s with stage := .following, links := fun i => spawn (s.links i) }
  | publish (hstage : s.stage = .following) : Move s s.publishLive
  | collect (hstage : s.stage = .following) (hjoined : ∀ i, joined (s.links i) = true) :
    Move s (endPhase { s.publishLive with
      links := fun i => run.takeBack s.phase (s.links i)
      parts := fun i => run.partOf s.phase (s.links i) (s.parts i) })
  | link (i : Fin n) {action : LinkAction W} {link : AgentLink W}
      (hstep : (s.links i).step run.agentTimeout s.phase s.cancelled action = some link) :
    Move s { s with links := Function.update s.links i link }

variable {run} {s t : Cluster n W} {action : ClusterAction n W}

theorem failures_ne_nil {reason : Fin n → Option String} {i : Fin n} (h : reason i ≠ none) :
    run.failures reason ≠ [] := by
  obtain ⟨text, htext⟩ := Option.ne_none_iff_exists'.mp h
  refine List.ne_nil_of_mem (a := s!"agent {run.agents i}: {text}")
    (List.mem_filterMap.mpr ⟨i, List.mem_finRange i, ?_⟩)
  rw [htext]
  rfl

/-- **What a step of a run can be.** -/
theorem step_move (h : run.step s action = some t) : run.Move s t := by
  unfold step at h
  split at h
  · obtain rfl := Option.some.inj h
    exact .cancel
  · split at h
    · rename_i hguard
      obtain rfl := Option.some.inj h
      exact .enter hguard.1
    · cases h
  · split at h
    · split at h
      · obtain rfl := Option.some.inj h
        exact .close _
      · cases h
    · split at h
      · obtain rfl := Option.some.inj h
        exact .close _
      · cases h
    · cases h
  · split at h
    · rename_i hguard
      obtain rfl := Option.some.inj h
      exact .stop _ _ hguard.1
    · cases h
  · split at h
    · rename_i hguard
      dsimp only at h
      split at h
      · obtain rfl := Option.some.inj h
        exact .stop _ _ hguard.1
      · -- the barrier is passed; the run is over when that leaves nobody to start
        rename_i hpassed
        have hfirst (hphase : s.phase = 0) (i : Fin n) : barrierFailure (s.links i) = none := by
          by_contra hfailed
          exact hpassed ⟨hphase, failures_ne_nil hfailed⟩
        split at h
        · obtain rfl := Option.some.inj h
          exact .pass hguard.1 hguard.2 hfirst
        · rename_i hnone
          obtain rfl := Option.some.inj h
          refine .passNobody hguard.1 hguard.2 hfirst fun i => ?_
          by_contra hpresent
          exact hnone (decide_eq_true ⟨i, Hold.present_iff.mpr hpresent⟩)
    · cases h
  · split at h
    · rename_i hguard
      obtain rfl := Option.some.inj h
      exact .spawn hguard.1 hguard.2
    · cases h
  · split at h
    · rename_i hguard
      obtain rfl := Option.some.inj h
      exact .publish hguard
    · cases h
  · split at h
    · rename_i hguard
      obtain rfl := Option.some.inj h
      exact .collect hguard.1 hguard.2
    · cases h
  · split at h
    · obtain rfl := Option.some.inj h
      exact .close _
    · cases h
  · obtain ⟨link, hlink, rfl⟩ := Option.map_eq_some_iff.mp h
    exact .link _ hlink

end ClusterRun

end WsBlast
