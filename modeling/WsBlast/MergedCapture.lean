import WsBlast.CaptureAccounting

/-!
# A capture of a distributed run

Every agent captures as a local run does, but the thread behind its channel
collects the records into batches and hands them to the agent's control task,
which sends them to the coordinator and, after the last of them, the number of
records dropped. The coordinator hands the batches to the thread that writes
the merged file, which keeps the limit for the whole run. A phase starts with
a fresh capture on every agent that is still in the run, with what is left of
the limit.

`ClusterCapture.step` interleaves all of this: the agents' sessions, threads
and control tasks, the control channels, the coordinator and its writer. An
agent can be lost at any moment. `expected` adds up what a phase is to account
for when an agent is through with it: the records it produced when it
finished, and the records received from it when it was lost.

Nothing is shared between agents but the coordinator. Each has a queue, a thread
that empties it and a control task that owns the connection, with a bounded
channel between the last two: a slow connection holds the thread up, then the
queue fills, and then sessions drop records.
-/

namespace WsBlast

/-! ## An agent

The thread's loop, cut at the points where it waits, and the control task's two
sends. -/

/-- Records an agent formats and sends to its coordinator at a time. -/
def forwardBatch : ℕ := 1024

/-- Batches of capture records a phase may hold before its forwarding thread
waits for the control channel. -/
def captureBatches : ℕ := 16

/-- Where the forwarding thread is. -/
inductive ForwardStage where
  /-- It polls the channel. -/
  | gathering
  /-- It hands a batch over. -/
  | sending
  /-- It took the finish marker and hands its last batch over. -/
  | leaving
  | finished
  deriving DecidableEq, Repr

/-- What an agent sends to its coordinator. -/
inductive AgentMessage where
  | capture (records : List WireRecord)
  /-- The result of the phase, with the number of records dropped. -/
  | result (captureDropped : ℕ)
  deriving DecidableEq, Repr

/-- What the coordinator holds of an agent in a phase. -/
inductive Standing where
  | following
  | finished
  | lost
  deriving DecidableEq, Repr

/-- The capture of one agent in one phase, the control channel and the
coordinator's end of it. `received` counts the records the coordinator has
read; nothing reads it. -/
structure AgentCapture (κ : Type) where
  queue : CaptureQueue κ
  stage : ForwardStage := .gathering
  batch : List WireRecord := []
  /-- Records the thread could not hand over. -/
  lost : ℕ := 0
  /-- Batches on their way to the control task. -/
  out : List (List WireRecord) := []
  /-- The phase ended on the agent with an error, and nothing reads `out`. -/
  gone : Bool := false
  reported : Bool := false
  /-- Messages on their way to the coordinator. -/
  link : List AgentMessage := []
  standing : Standing := .following
  received : ℕ := 0

/-- A step of an agent. -/
inductive ForwardAction (κ : Type) where
  /-- A step of the sessions, or the call of `finish`. -/
  | sessions (action : CaptureAction κ)
  /-- The thread polls the channel. -/
  | gather
  /-- The thread hands its batch over. -/
  | send
  /-- The control task sends a batch to the coordinator. -/
  | forward
  /-- The phase ends with an error. -/
  | fail
  /-- The control task sends the result. -/
  | report
  deriving DecidableEq, Repr

namespace AgentCapture

variable {κ : Type} [DecidableEq κ] [Fintype κ]

/-- The thread polls the channel: a record joins the batch, which is handed
over when it is full or the channel is empty. -/
def gather (a : AgentCapture κ) : Option (AgentCapture κ) :=
  if a.stage = .gathering then
    match a.queue.take with
    | none => if a.batch = [] then none else some { a with stage := .sending }
    | some (.finish, queue) => some { a with queue, stage := .leaving }
    | some (.record record, queue) =>
      let batch := a.batch ++ [wireRecord record]
      some { a with queue, batch, stage := if forwardBatch ≤ batch.length then .sending else .gathering }
  else none

/-- Where the thread goes after a batch. -/
def nextStage : ForwardStage → ForwardStage
  | .leaving => .finished
  | _ => .gathering

/-- The thread hands its batch over, waiting for room; after the phase has
ended it cannot. -/
def send (a : AgentCapture κ) : Option (AgentCapture κ) :=
  if a.stage = .sending ∨ a.stage = .leaving then
    let stage := nextStage a.stage
    if a.batch = [] then some { a with stage }
    else if a.gone then some { a with stage, batch := [], lost := a.lost + a.batch.length }
    else if a.out.length < captureBatches then
      some { a with stage, batch := [], out := a.out ++ [a.batch] }
    else none
  else none

/-- The control task sends a batch to the coordinator. -/
def forward (a : AgentCapture κ) : Option (AgentCapture κ) :=
  if a.gone ∨ a.reported then none
  else match a.out with
    | [] => none
    | records :: rest => some { a with out := rest, link := a.link ++ [.capture records] }

/-- The control task sends the result, after every batch. -/
def report (a : AgentCapture κ) : Option (AgentCapture κ) :=
  if a.gone = false ∧ a.reported = false ∧ a.stage = .finished ∧ a.out = [] then
    some { a with reported := true, link := a.link ++ [.result (a.queue.dropped + a.lost)] }
  else none

/-- One step of an agent. -/
def step (a : AgentCapture κ) : ForwardAction κ → Option (AgentCapture κ)
  | .sessions .take => none
  | .sessions action => (a.queue.step action).map fun queue => { a with queue }
  | .gather => a.gather
  | .send => a.send
  | .forward => a.forward
  | .fail => some { a with gone := true }
  | .report => a.report

/-- A fresh capture for a phase. -/
def start (limit capacity : ℕ) : AgentCapture κ := { queue := .start limit capacity }

end AgentCapture

/-! ## The coordinator -/

/-- Batches on their way to the thread that writes the merged file. -/
def mergedBatches : ℕ := 64

/-- The thread that writes the merged file. -/
structure MergedWriter where
  written : ℕ := 0
  lost : ℕ := 0
  /-- Records that arrived after the limit was reached. -/
  overLimit : ℕ := 0
  failed : Bool := false
  /-- What is left of the batch it writes. -/
  current : MergedBatch := ⟨0, 0, []⟩
  finished : Bool := false
  deriving DecidableEq, Repr

/-- The coordinator's capture with the captures of its agents. -/
structure ClusterCapture (agents : ℕ) (κ : Type) where
  /-- The configured limit; 0 means unlimited. -/
  limit : ℕ
  capacity : ℕ
  agents : Fin agents → AgentCapture κ
  /-- When the phase started, counted from the start of the capture. -/
  offsetUs : ℕ := 0
  /-- Records handed to the writer so far. -/
  queued : ℕ := 0
  channel : List MergedBatch := []
  /-- What the agents reported dropping. -/
  agentsDropped : ℕ := 0
  /-- `finish` was called and the channel has no sender left. -/
  closed : Bool := false
  writer : MergedWriter
  expected : ℕ := 0

/-- A step of a distributed capture. -/
inductive ClusterCaptureAction (agents : ℕ) (κ : Type) where
  | agent (i : Fin agents) (action : ForwardAction κ)
  /-- The coordinator reads the next message of an agent; `decodes` says
  whether a result can be decoded. -/
  | receive (i : Fin agents) (decodes : Bool)
  /-- An agent is lost. -/
  | lose (i : Fin agents)
  /-- The next phase starts. -/
  | nextPhase (offsetUs : ℕ)
  /-- The writer takes the next batch. -/
  | takeBatch
  /-- The writer goes on to the next record; `ok` says whether its write would
  succeed. -/
  | write (ok : Bool)
  /-- `finish` is called. -/
  | finish
  /-- The writer finds the channel closed and flushes. -/
  | flush (ok : Bool)
  deriving DecidableEq, Repr

/-- The limit of an agent's capture when `queued` records were handed to the
writer. -/
def agentLimit (limit queued : ℕ) : ℕ := if limit = 0 then u64Max else limit - queued

namespace ClusterCapture

variable {agents : ℕ} {κ : Type} [DecidableEq κ] [Fintype κ]

/-- A capture before the first phase; `ok` says whether the header is
written. -/
def start (limit capacity : ℕ) (ok : Bool) : ClusterCapture agents κ where
  limit := limit
  capacity := capacity
  agents := fun _ => .start (agentLimit limit 0) capacity
  writer := { failed := !ok }

/-- One agent's part changes. -/
def setAgent (s : ClusterCapture agents κ) (i : Fin agents) (a : AgentCapture κ) :
    ClusterCapture agents κ :=
  { s with agents := Function.update s.agents i a }

/-- The coordinator reads a message of an agent it follows. -/
def receive (s : ClusterCapture agents κ) (i : Fin agents) (decodes : Bool) :
    Option (ClusterCapture agents κ) :=
  let a := s.agents i
  if a.standing = .following then
    match a.link with
    | [] => none
    | .capture records :: rest =>
      if s.channel.length < mergedBatches then
        let s := { s with
          queued := s.queued + records.length
          channel := s.channel ++ [MergedBatch.mk i s.offsetUs records] }
        some (s.setAgent i { a with link := rest, received := a.received + records.length })
      else none
    | .result captureDropped :: rest =>
      if decodes then
        let s := { s with
          agentsDropped := s.agentsDropped + captureDropped
          expected := s.expected + a.queue.produced }
        some (s.setAgent i { a with link := rest, standing := .finished })
      else
        let s := { s with expected := s.expected + a.received }
        some (s.setAgent i { a with link := rest, standing := .lost })
  else none

/-- An agent is lost. -/
def lose (s : ClusterCapture agents κ) (i : Fin agents) : Option (ClusterCapture agents κ) :=
  let a := s.agents i
  if a.standing = .following then
    let s := { s with expected := s.expected + a.received }
    some (s.setAgent i { a with standing := .lost })
  else none

/-- The next phase starts on every agent that finished this one. -/
def nextPhase (s : ClusterCapture agents κ) (offsetUs : ℕ) : Option (ClusterCapture agents κ) :=
  if s.closed = false ∧ ∀ i, (s.agents i).standing ≠ .following then
    let fresh := AgentCapture.start (agentLimit s.limit s.queued) s.capacity
    some { s with
      offsetUs
      agents := fun i => if (s.agents i).standing = .finished then fresh else s.agents i }
  else none

/-- The writer takes the next batch. -/
def takeBatch (s : ClusterCapture agents κ) : Option (ClusterCapture agents κ) :=
  match s.writer.current.records, s.channel with
  | [], batch :: rest => some { s with channel := rest, writer := { s.writer with current := batch } }
  | _, _ => none

/-- What becomes of a record: nothing is written past the limit, or after an
error. -/
def writeRecord (limit : ℕ) (w : MergedWriter) (ok : Bool) : MergedWriter :=
  if effectiveLimit limit ≤ w.written + w.lost then { w with overLimit := w.overLimit + 1 }
  else if w.failed then { w with lost := w.lost + 1 }
  else if ok then { w with written := w.written + 1 }
  else { w with lost := w.lost + 1, failed := true }

/-- The writer goes on to the next record of its batch. -/
def write (s : ClusterCapture agents κ) (ok : Bool) : Option (ClusterCapture agents κ) :=
  match s.writer.current.records with
  | [] => none
  | _ :: rest =>
    let writer := writeRecord s.limit s.writer ok
    some { s with writer := { writer with current := { writer.current with records := rest } } }

/-- `finish` is called once every agent's control task has ended. -/
def finish (s : ClusterCapture agents κ) : Option (ClusterCapture agents κ) :=
  if s.closed = false ∧ ∀ i, (s.agents i).standing ≠ .following then some { s with closed := true }
  else none

/-- The writer flushes, with nothing left to write and no sender left. -/
def flush (s : ClusterCapture agents κ) (ok : Bool) : Option (ClusterCapture agents κ) :=
  if s.closed ∧ s.channel = [] ∧ s.writer.current.records = [] ∧ s.writer.finished = false then
    some { s with writer := { s.writer with failed := s.writer.failed || !ok, finished := true } }
  else none

/-- One step of a distributed capture. -/
def step (s : ClusterCapture agents κ) :
    ClusterCaptureAction agents κ → Option (ClusterCapture agents κ)
  | .agent i action => ((s.agents i).step action).map (s.setAgent i)
  | .receive i decodes => s.receive i decodes
  | .lose i => s.lose i
  | .nextPhase offsetUs => s.nextPhase offsetUs
  | .takeBatch => s.takeBatch
  | .write ok => s.write ok
  | .finish => s.finish
  | .flush ok => s.flush ok

/-- What `finish` returns, once the writer has returned. -/
def summary (s : ClusterCapture agents κ) : CaptureSummary where
  framesWritten := s.writer.written
  framesDropped := s.agentsDropped + s.writer.lost + s.writer.overLimit
  limit := s.limit

end ClusterCapture

end WsBlast
