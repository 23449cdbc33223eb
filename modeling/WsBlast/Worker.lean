import WsBlast.Host
import WsBlast.SocketIo

/-!
# The life of a worker

A worker opens its connection, runs the session loop of its mode on it and,
unless reconnects are off, starts over after a failed handshake or a lost
session, until the run is cancelled (`Worker.run`).

What a worker does between two sessions decides the failure figures of a report.
A failed handshake is counted under a category and tried again after a growing
delay; a failure that every retry would repeat ends the slot. The first
handshake that succeeds is a connection that was established, every later one is
a reconnect.
-/

namespace WsBlast

/-- What the program uses of the libraries that build an HTTP request. -/
structure Http where
  /-- The headers of a WebSocket request to a URL, when its text gives one. -/
  intoClientRequest : String → Option (List Header)
  /-- The bytes of a header value, when the text is one. -/
  headerValue : String → Option Bytes
  /-- The URL of an Engine.IO 3 session whose auth object is sent as query
  parameters. -/
  authQuery : String → String → String

/-- What one handshake attempt of a connection slot produced. -/
inductive Handshake where
  | opened
  /-- The attempt failed; the slot may retry. -/
  | failed
  /-- The run ended, or the failure is one a retry cannot fix. -/
  | stop
  deriving DecidableEq, Repr

/-- What a worker keeps from one attempt to the next. -/
structure WorkerState where
  backoff : ReconnectBackoff
  connectedBefore : Bool
  deriving DecidableEq, Repr

/-- Everything a worker is started with. -/
structure Worker where
  serde : Serde
  codec : GraphQLCodec
  http : Http
  config : LoadTestConfig
  workerId : ℕ
  /-- The scenario phase that drives think time and actions. -/
  scenario : Option ScenarioPhase

/-! ## The request of a handshake

The library makes a request for the URL, with the headers a WebSocket handshake
needs, and the configuration's headers are then laid over it. -/

/-- What going through a map gives: the name is there for the first of its
values only, as the library's iterator has it. -/
def intoIter (last : Option String) : List Header → List (Option String × Bytes)
  | [] => []
  | header :: rest =>
    (if last = some header.name then none else some header.name, header.value)
      :: intoIter (some header.name) rest

/-- Puts the items of a map into another: a named value takes the place of the
values of its name, and those that follow are added to it. -/
def extendItems (headers : List Header) :
    Option String → List (Option String × Bytes) → List Header
  | _, [] => headers
  | _, (some name, value) :: items =>
    extendItems (insertHeader headers ⟨name, value⟩) (some name) items
  | some name, (none, value) :: items =>
    extendItems (appendHeader headers ⟨name, value⟩) (some name) items
  | none, (none, _) :: items => extendItems headers none items

/-- Puts the headers of a map in place of those of another. -/
def extendHeaders (headers more : List Header) : List Header :=
  extendItems headers none (intoIter none more)

/-- The offers of a configuration take the place of headers of their names. -/
def setOffers (worker : Worker) (request : List Header) : List Header :=
  let request :=
    if worker.config.compression then
      insertHeader request ⟨"sec-websocket-extensions", "permessage-deflate".toUTF8.toList⟩
    else request
  match worker.config.subprotocol.bind worker.http.headerValue with
  | none => request
  | some value => insertHeader request ⟨"sec-websocket-protocol", value⟩

/-- Adds a template, filled in for the connection. -/
def appendFilled (worker : Worker) (vars : List String) (nowMs : ℕ) (request : List Header)
    (template : String × Template) : Except ErrorCategory (List Header) :=
  match worker.http.headerValue
      (template.2.render (templateValues worker.config worker.workerId vars 0 nowMs)) with
  | none => .error .other
  | some value => .ok (appendHeader request ⟨template.1, value⟩)

/-- Puts the headers of a configuration into a request that the WebSocket
library made: the fixed ones, the templates filled in for the connection, the
compression offer and the subprotocol. -/
def finishHandshakeRequest (worker : Worker) (vars : List String) (nowMs : ℕ)
    (request : List Header) : Except ErrorCategory (List Header) := do
  let request := extendHeaders request worker.config.headers
  let request ← worker.config.headerTemplates.foldlM (appendFilled worker vars nowMs) request
  return setOffers worker request

namespace Worker

variable (worker : Worker)

/-- The URL of the handshake: a Socket.IO 2 client sends its auth as query
parameters. -/
def handshakeUrl (nowMs : ℕ) : String :=
  let config := worker.config
  match config.socketio with
  | none => config.targetUrl
  | some sio =>
    match sio.engine, sio.auth with
    | .v3, some auth => worker.http.authQuery config.targetUrl
        (auth.render (templateValues config worker.workerId [] 0 nowMs))
    | _, _ => config.targetUrl

/-- The request every handshake of the worker sends. -/
def buildHandshakeRequest (nowMs : ℕ) : Except ErrorCategory HandshakeRequest := do
  let url := worker.handshakeUrl nowMs
  match worker.http.intoClientRequest url with
  | none => .error .other
  | some request =>
    let headers ← finishHandshakeRequest worker [] nowMs request
    return ⟨url, headers⟩

/-- The request of one attempt: a refreshed token is read per attempt. -/
def withLiveAuth (request : HandshakeRequest) : HandshakeRequest :=
  match worker.config.liveAuth with
  | none => request
  | some auth => { request with headers := insertHeader request.headers ⟨auth.name, auth.value⟩ }

/-- The run ended during an attempt. A slot's first handshake, ended before it
could succeed or fail, is reported apart from failures. -/
def cancelledAttempt (connectedBefore : Bool) : Session Unit :=
  if connectedBefore then pure ()
  else do
    if ← Ask.errorsEmpty then Ask.record .interrupted else pure ()

/-- An attempt succeeded. -/
def openedAttempt (connectedBefore : Bool) (duration : Duration) : Session Unit :=
  if connectedBefore then Ask.record (.reconnect duration) else Ask.record (.handshake duration)

/-- Opens one connection, recording its handshake latency or why it
failed. -/
def handshake (request : HandshakeRequest) (connectedBefore : Bool) : Session Handshake := do
  -- a failed handshake belongs to no action, even when the last session ended in one
  Ask.record (.currentAction none)
  let start ← Ask.now
  match ← Ask.connect (worker.withLiveAuth request) with
  | .cancelled => do
    cancelledAttempt connectedBefore
    pure .stop
  | .opened => do
    let now ← Ask.now
    openedAttempt connectedBefore (now - start)
    pure .opened
  | .static category => do
    Ask.record (.connectionFailed category)
    pure .stop
  | .failed err => do
    Ask.record (.connectionFailed (categorizeTungsteniteError err))
    pure .failed
  | .timedOut => do
    Ask.record (.connectionFailed .timeout)
    pure .failed

/-- The session loop on the worker's connection. -/
def session : Session SessionEnd :=
  modeLoop worker.serde worker.config worker.workerId worker.scenario worker.codec

/-- A piece of the worker's life: it goes on, or the worker ends. -/
abbrev Life (R : Type) : Type 1 := Proc.Step Eff Eff.Answer Unit R

/-- Waits before the next attempt, unless the worker ends here. -/
def retry (state : WorkerState) : Life WorkerState := do
  if worker.config.noReconnect then throw ()
  else if ← Ask.isCancelled then throw ()
  else
    let (delay, backoff) := state.backoff.nextDelay
    if ← Ask.sleep (.after delay) then pure { state with backoff } else throw ()

/-- One attempt: a handshake and, when it succeeds, a session. -/
def attempt (request : HandshakeRequest) (state : WorkerState) : Life WorkerState := do
  match ← worker.handshake request state.connectedBefore with
  | .stop => throw ()
  | .failed => worker.retry state
  | .opened => do
    let ended ← worker.session
    Ask.record .connectionClosed
    if ended = .finished then throw ()
    else worker.retry ⟨ReconnectBackoff.new, true⟩

/-- The full life of a worker. -/
def run : Session Unit := do
  let nowMs ← Ask.wallClock
  match worker.buildHandshakeRequest nowMs with
  | .error category => Ask.record (.connectionFailed category)
  | .ok request => Proc.forever (worker.attempt request) ⟨ReconnectBackoff.new, false⟩

end Worker

end WsBlast
