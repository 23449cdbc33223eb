import WsBlast.Lib.Interleave
import WsBlast.Text

/-!
# One test at a time per agent

Coordinators reach an agent over control connections, any number of them at
once. A connection presents the agent's token and claims the agent in the
callback of its WebSocket handshake, and the claim has to be given back
however the connection ends: cancelled during the handshake, by a handshake
that fails or times out after the claim, or at the end of the test.

`control` is the program of one connection and `Agent.system` any number of
them on one busy flag. The main result, `one_test_at_a_time`, follows from
what one connection keeps (`ControlState.holds_serve`): it gives back only
what it claimed, and has given it back when it returns.

The claim is made in a callback that the handshake library runs, and the answer
to the handshake is sent after it. Between the two the connection may fail, time
out, or be cancelled with the agent; each of these paths has to give the claim
back, and the source does so partly by hand and partly with a guard whose drop
releases.
-/

namespace WsBlast

/-! ## The token

The comparison runs over all bytes of the shorter token and its result is
collected in one byte. -/

/-- Compares two tokens in a time that does not depend on where they
differ. -/
def tokensMatch (expected presented : String) : Bool :=
  let expected := expected.toUTF8.data.toList
  let presented := presented.toUTF8.data.toList
  let diff : UInt8 := if expected.length ≠ presented.length then 1 else 0
  let diff := expected.zipIdx.foldl (fun diff item =>
    diff ||| (item.1 ^^^ (presented[item.2]?).getD (~~~item.1))) diff
  diff == 0

theorem foldl_or_eq_zero {α : Type} (f : α → UInt8) (items : List α) (diff : UInt8) :
    items.foldl (fun diff item => diff ||| f item) diff = 0
      ↔ diff = 0 ∧ ∀ item ∈ items, f item = 0 := by
  induction items generalizing diff with
  | nil => simp
  | cons item rest ih => simp [ih, UInt8.or_eq_zero_iff, and_assoc]

/-- **Only the token itself matches.** -/
theorem tokensMatch_iff (expected presented : String) :
    tokensMatch expected presented = true ↔ expected = presented := by
  unfold tokensMatch
  rw [beq_iff_eq, foldl_or_eq_zero]
  constructor
  · rintro ⟨hlength, hbytes⟩
    have hlength : expected.toUTF8.data.toList.length = presented.toUTF8.data.toList.length := by
      by_contra hne
      rw [if_pos hne] at hlength
      exact absurd hlength (by decide)
    have hlist : expected.toUTF8.data.toList = presented.toUTF8.data.toList := by
      refine List.ext_getElem hlength fun i hi hi' => ?_
      have hbyte := hbytes (expected.toUTF8.data.toList[i], i)
        (List.mem_zipIdx_iff_getElem?.mpr (List.getElem?_eq_getElem hi))
      rw [UInt8.xor_eq_zero_iff, List.getElem?_eq_getElem hi'] at hbyte
      exact hbyte
    have hdata : expected.toUTF8.data = presented.toUTF8.data := Array.toList_inj.mp hlist
    exact String.toByteArray_inj.mp (ByteArray.ext hdata)
  · rintro rfl
    refine ⟨if_neg (not_not_intro rfl), ?_⟩
    rintro ⟨byte, i⟩ hmem
    have hget : expected.toUTF8.data.toList[i]? = some byte := List.mem_zipIdx_iff_getElem?.mp hmem
    show byte ^^^ (expected.toUTF8.data.toList[i]?).getD (~~~byte) = 0
    rw [hget]
    exact UInt8.xor_self

/-- The token of an `Authorization: Bearer <token>` header value. -/
def bearerToken (header : String) : Option String :=
  let text := trimChars header.toList
  match text.span (· ≠ ' ') with
  | (_, []) => none
  | (scheme, _ :: token) =>
    let token := trimChars token
    if scheme.map Char.toLower = "bearer".toList ∧ token ≠ [] then some (String.ofList token)
    else none

/-! ## A control connection

The questions a connection asks, and its program with all the ways a step can
end. -/

/-- Why the agent refuses a connection: the status and the text of the
response. -/
structure Refusal where
  status : ℕ
  message : String
  deriving DecidableEq, Repr

/-- The answer to a request without the right token. -/
def unauthorized : Refusal := ⟨401, "missing or wrong agent token"⟩

/-- The answer while a test runs. -/
def conflict : Refusal := ⟨409, "agent is busy running another test"⟩

/-- How the TLS handshake of a connection ends. -/
inductive TlsOutcome where
  | accepted
  | failed
  | timedOut
  | cancelled
  deriving DecidableEq, Repr

/-- How the WebSocket handshake goes until the callback has a request to
decide. -/
inductive RequestOutcome where
  /-- A request, with its `Authorization` header when it has one that is
  text. -/
  | request (authorization : Option String)
  | failed
  | timedOut
  | cancelled
  deriving DecidableEq, Repr

/-- How the WebSocket handshake goes after the callback. -/
inductive UpgradeOutcome where
  | opened
  | failed
  | timedOut
  | cancelled
  deriving DecidableEq, Repr

/-- What a control connection asks of the agent and of its peer. -/
inductive ControlEff where
  | acceptTls
  | awaitRequest
  /-- `busy.compare_exchange(false, true)`. -/
  | compareExchange
  /-- The rest of the handshake, after the callback's answer. -/
  | awaitUpgrade (answer : Except Refusal Unit)
  | runTest
  | sendError (message : String)
  | close
  /-- `busy.store(false)`. -/
  | release

/-- What each of them is answered with. -/
def ControlEff.Answer : ControlEff → Type
  | .acceptTls => TlsOutcome
  | .awaitRequest => RequestOutcome
  | .compareExchange => Bool
  | .awaitUpgrade _ => UpgradeOutcome
  | .runTest => Except String Unit
  | .sendError _ => Unit
  | .close => Unit
  | .release => Unit

/-- A step of a control connection. -/
abbrev ControlEvent := Proc.Event ControlEff ControlEff.Answer

/-- A program of a control connection. -/
abbrev ControlProc (R : Type) : Type 1 := Proc ControlEff ControlEff.Answer R

namespace ControlAsk

/-- Waits for the TLS handshake. -/
def acceptTls : ControlProc TlsOutcome := Proc.ask ControlEff.acceptTls

/-- Waits for the upgrade request. -/
def awaitRequest : ControlProc RequestOutcome := Proc.ask ControlEff.awaitRequest

/-- Takes the flag if it is free; whether it was. -/
def compareExchange : ControlProc Bool := Proc.ask ControlEff.compareExchange

/-- Answers the request, and waits for the upgrade. -/
def awaitUpgrade (answer : Except Refusal Unit) : ControlProc UpgradeOutcome :=
  Proc.ask (ControlEff.awaitUpgrade answer)

/-- Runs the test of the coordinator. -/
def runTest : ControlProc (Except String Unit) := Proc.ask ControlEff.runTest

/-- Tells the coordinator of an error. -/
def sendError (message : String) : ControlProc Unit := Proc.ask (ControlEff.sendError message)

/-- Closes the connection. -/
def close : ControlProc Unit := Proc.ask ControlEff.close

/-- Gives the flag back. -/
def release : ControlProc Unit := Proc.ask ControlEff.release

end ControlAsk

section Control

variable (token : String)

/-- Decides on a connection from its upgrade request: the token has to be
right, and the agent free. -/
def callback (authorization : Option String) : ControlProc (Except Refusal Unit) :=
  let presented := (authorization.bind bearerToken).getD ""
  if tokensMatch token presented then do
    if ← ControlAsk.compareExchange then pure (.ok ()) else pure (.error conflict)
  else pure (.error unauthorized)

/-- Gives a claim back, when there is one. -/
def releaseClaim (claimed : Bool) : ControlProc Unit :=
  if claimed then ControlAsk.release else pure ()

/-- Reports a test that failed; an empty message means that the connection is
already gone. -/
def reportFailure : Except String Unit → ControlProc Unit
  | .ok () => pure ()
  | .error message => if message = "" then pure () else ControlAsk.sendError message

/-- Runs the test and closes the connection. -/
def testSession : ControlProc Unit := do
  let result ← ControlAsk.runTest
  reportFailure result
  ControlAsk.close

/-- Authenticates the control connection, claims the agent and runs the test.
The claim is given back in the branch of the cancelled handshake, or by the
guard that is taken after the handshake. -/
def control : ControlProc Unit := do
  match ← ControlAsk.awaitRequest with
  | .cancelled => releaseClaim false
  | .failed => releaseClaim false
  | .timedOut => releaseClaim false
  | .request authorization => do
    let answer ← callback token authorization
    let claimed := answer.toBool
    match ← ControlAsk.awaitUpgrade answer with
    | .cancelled => releaseClaim claimed
    | .failed => releaseClaim claimed
    | .timedOut => releaseClaim claimed
    | .opened => do
      testSession
      releaseClaim claimed

/-- Serves one TCP connection, over TLS when the agent has a certificate. -/
def serve (tls : Bool) : ControlProc Unit :=
  if tls then do
    match ← ControlAsk.acceptTls with
    | .accepted => control token
    | .failed => pure ()
    | .timedOut => pure ()
    | .cancelled => pure ()
  else control token

end Control

/-! ## Connections side by side

The flag is the only thing that connections share. -/

/-- The busy flag that the connections of an agent share. -/
structure Agent where
  busy : Bool := false
  deriving DecidableEq, Repr

namespace Agent

variable {ι : Type}

/-- What a step of a connection changes. -/
def step (agent : Agent) : ι × ControlEvent → Agent
  | (_, ⟨.compareExchange, true⟩) => { agent with busy := true }
  | (_, ⟨.release, _⟩) => { agent with busy := false }
  | _ => agent

/-- Whether an answer is possible: the exchange succeeds exactly when the flag
is not set, and a handshake whose callback refused is not completed. -/
def admits (agent : Agent) : ι × ControlEvent → Bool
  | (_, ⟨.compareExchange, (won : Bool)⟩) => won == !agent.busy
  | (_, ⟨.awaitUpgrade answer, .opened⟩) => answer.toBool
  | _ => true

/-- Connections on an agent, as a system. -/
def system : Proc.System ι ControlEff ControlEff.Answer Agent where
  step := step
  Admits := fun agent item => agent.admits item = true

instance (agent : Agent) (item : ι × ControlEvent) : Decidable (system.Admits agent item) :=
  inferInstanceAs (Decidable (agent.admits item = true))

end Agent

/-! ## What one connection keeps

A small state for the reader of one connection's trace, and a specification for
each piece of its program. -/

/-- Where a connection is with its claim. -/
structure ControlState where
  /-- The connection claimed the agent and has not given it back. -/
  holds : Bool := false
  /-- The handshake is complete and the test has not ended. -/
  testing : Bool := false
  /-- The flag was cleared without a claim. -/
  stray : Bool := false
  deriving DecidableEq, Repr

namespace ControlState

open Proc.Monitor (Triple)

/-- What an event changes. -/
def step (s : ControlState) : ControlEvent → ControlState
  | ⟨.compareExchange, true⟩ => { s with holds := true }
  | ⟨.release, _⟩ => { s with holds := false, stray := s.stray || !s.holds }
  | ⟨.awaitUpgrade _, .opened⟩ => { s with testing := true }
  | ⟨.runTest, _⟩ => { s with testing := false }
  | _ => s

/-- A handshake whose callback refused is not completed. -/
def Admits (_ : ControlState) : ControlEvent → Prop
  | ⟨.awaitUpgrade answer, .opened⟩ => answer.toBool = true
  | _ => True

/-- The flag is cleared only by the connection that set it, which holds it
for the time of its test. -/
structure Safe (s : ControlState) : Prop where
  own : s.stray = false
  held : s.testing = true → s.holds = true

/-- The state of a connection as a reader of traces. -/
def monitor : Proc.Monitor ControlEff ControlEff.Answer ControlState := ⟨step, Admits, Safe⟩

/-- A connection that holds the agent, or does not, outside its test. -/
structure Waiting (claimed : Bool) (s : ControlState) : Prop where
  own : s.stray = false
  idle : s.testing = false
  holds : s.holds = claimed

variable {claimed : Bool}

theorem Waiting.safe {s : ControlState} (h : Waiting claimed s) : Safe s where
  own := h.own
  held := by
    rw [h.idle]
    exact nofun

/-- A question that neither the flag nor the test depends on. -/
theorem Waiting.ask {e : ControlEff} (hstep : ∀ s a, step s ⟨e, a⟩ = s) :
    monitor.Triple (Waiting claimed) (Proc.ask e) fun _ => Waiting claimed :=
  Triple.ask_of_silent (fun _ hs => hs.safe) hstep

/-- The claim is made exactly when the callback lets the connection in. -/
theorem holds_callback (token : String) (authorization : Option String) :
    monitor.Triple (Waiting false) (callback token authorization)
      fun answer => Waiting answer.toBool := by
  refine Triple.ite (fun _ => ?_) fun _ => Triple.pure fun _ hs => hs
  have hclaim : monitor.Triple (Waiting false) ControlAsk.compareExchange
      fun won => Waiting won := by
    refine Triple.ask fun s won hs _ => ?_
    cases won with
    | false => exact ⟨hs.safe, hs⟩
    | true =>
      have hheld : Waiting true { s with holds := true } := ⟨hs.own, hs.idle, rfl⟩
      exact ⟨hheld.safe, hheld⟩
  refine Triple.bind hclaim fun won => ?_
  cases won with
  | false => exact Triple.pure fun _ hs => hs
  | true => exact Triple.pure fun _ hs => hs

/-- A claim is given back once. -/
theorem holds_releaseClaim (claimed : Bool) :
    monitor.Triple (Waiting claimed) (releaseClaim claimed) fun _ => Waiting false := by
  cases claimed with
  | false => exact Triple.pure fun _ hs => hs
  | true =>
    refine Triple.ask fun s _ hs _ => ?_
    have hfree : Waiting false { s with holds := false, stray := s.stray || !s.holds } := by
      refine ⟨?_, hs.idle, rfl⟩
      show (s.stray || !s.holds) = false
      rw [hs.own, hs.holds]
      rfl
    exact ⟨hfree.safe, hfree⟩

/-- A test is over when the connection goes on. -/
theorem holds_testSession :
    monitor.Triple (fun s => Waiting true { s with testing := false }) testSession
      fun _ => Waiting true := by
  have htest : monitor.Triple (fun s => Waiting true { s with testing := false }) ControlAsk.runTest
      fun _ => Waiting true := Triple.ask fun _ _ hs _ => ⟨hs.safe, hs⟩
  have hclose : monitor.Triple (Waiting true) ControlAsk.close fun _ => Waiting true :=
    Waiting.ask fun _ _ => rfl
  refine Triple.bind htest fun result => Triple.bind ?_ fun _ => hclose
  cases result with
  | ok _ => exact Triple.pure fun _ hs => hs
  | error message =>
    exact Triple.ite (fun _ => Triple.pure fun _ hs => hs) fun _ => Waiting.ask fun _ _ => rfl

/-- **A connection gives back what it claimed**, whatever ends it. -/
theorem holds_control (token : String) :
    monitor.Triple (Waiting false) (control token) fun _ => Waiting false := by
  refine Triple.bind (Waiting.ask fun _ _ => rfl) fun request => ?_
  cases request with
  | cancelled => exact holds_releaseClaim false
  | failed => exact holds_releaseClaim false
  | timedOut => exact holds_releaseClaim false
  | request authorization =>
    refine Triple.bind (holds_callback token authorization) fun answer => ?_
    -- a handshake that is completed was accepted, so the connection holds the agent
    have hupgrade : monitor.Triple (Waiting answer.toBool) (ControlAsk.awaitUpgrade answer)
        fun outcome s => if outcome = .opened then
            answer.toBool = true ∧ Waiting true { s with testing := false }
          else Waiting answer.toBool s := by
      refine Triple.ask fun s outcome hs hadmits => ?_
      cases outcome with
      | opened =>
        have haccepted : answer.toBool = true := hadmits
        rw [haccepted] at hs
        exact ⟨⟨hs.own, fun _ => hs.holds⟩, haccepted, hs.own, rfl, hs.holds⟩
      | failed => exact ⟨hs.safe, hs⟩
      | timedOut => exact ⟨hs.safe, hs⟩
      | cancelled => exact ⟨hs.safe, hs⟩
    refine Triple.bind hupgrade fun outcome => ?_
    cases outcome with
    | cancelled => exact holds_releaseClaim _
    | failed => exact holds_releaseClaim _
    | timedOut => exact holds_releaseClaim _
    | opened =>
      intro s hs
      have htest := Triple.bind holds_testSession fun _ => holds_releaseClaim true
      show monitor.wp (testSession >>= fun _ => releaseClaim answer.toBool) _ s
      rw [hs.1]
      exact htest s hs.2

theorem holds_serve (token : String) (tls : Bool) :
    monitor.Triple (Waiting false) (serve token tls) fun _ => Waiting false := by
  refine Triple.ite (fun _ => ?_) fun _ => holds_control token
  refine Triple.bind (Waiting.ask fun _ _ => rfl) fun outcome => ?_
  cases outcome with
  | accepted => exact holds_control token
  | failed => exact Triple.pure fun _ hs => hs
  | timedOut => exact Triple.pure fun _ hs => hs
  | cancelled => exact Triple.pure fun _ hs => hs

/-- A connection starts without a claim. -/
theorem waiting_init : Waiting false {} := ⟨rfl, rfl, rfl⟩

end ControlState

/-! ## The flag and its holder

The flag of an agent is taken by one connection at a time, and given back by the
one that took it, however its task ends. -/

section Runs

variable {ι : Type} [DecidableEq ι]

/-- The flag is set exactly while a connection holds it, and only one
does. -/
structure Exclusive (agent : Agent) (states : ι → ControlState) : Prop where
  unique : ∀ i j, (states i).holds = true → (states j).holds = true → i = j
  busy_iff : agent.busy = true ↔ ∃ i, (states i).holds = true

namespace Exclusive

variable {agent : Agent} {states : ι → ControlState}

/-- A step that leaves the flag and the claim alone. -/
theorem update (h : Exclusive agent states) {i : ι} {s : ControlState}
    (hs : s.holds = (states i).holds) : Exclusive agent (Function.update states i s) := by
  have hsame : ∀ j, (Function.update states i s j).holds = (states j).holds := by
    intro j
    by_cases hj : j = i
    · subst hj
      rw [Function.update_self, hs]
    · rw [Function.update_of_ne hj]
  refine ⟨fun j k => ?_, ?_⟩
  · rw [hsame, hsame]
    exact h.unique j k
  · simp only [hsame]
    exact h.busy_iff

/-- The exchange succeeds when nobody holds the flag. -/
theorem claim (h : Exclusive agent states) {i : ι} {s : ControlState} (hs : s.holds = true)
    (hfree : agent.busy = false) :
    Exclusive { agent with busy := true } (Function.update states i s) := by
  have hnone : ∀ j, (states j).holds ≠ true := by
    intro j hj
    exact Bool.false_ne_true (hfree.symm.trans (h.busy_iff.mpr ⟨j, hj⟩))
  have honly : ∀ j, (Function.update states i s j).holds = true → j = i := by
    intro j hj
    by_contra hne
    rw [Function.update_of_ne hne] at hj
    exact hnone j hj
  refine ⟨fun j k hj hk => (honly j hj).trans (honly k hk).symm, fun _ => ⟨i, ?_⟩, fun _ => rfl⟩
  rw [Function.update_self, hs]

/-- The holder clears the flag. -/
theorem release (h : Exclusive agent states) {i : ι} {s : ControlState} (hs : s.holds = false)
    (hheld : (states i).holds = true) :
    Exclusive { agent with busy := false } (Function.update states i s) := by
  have hnone : ∀ j, (Function.update states i s j).holds ≠ true := by
    intro j hj
    by_cases hji : j = i
    · subst hji
      rw [Function.update_self, hs] at hj
      exact Bool.false_ne_true hj
    · rw [Function.update_of_ne hji] at hj
      exact hji (h.unique j i hj hheld)
  refine ⟨fun j _ hj => absurd hj (hnone j), fun hbusy => absurd hbusy Bool.false_ne_true, ?_⟩
  rintro ⟨j, hj⟩
  exact absurd hj (hnone j)

/-- **Every step keeps the flag with its holder.** -/
theorem fits : (Agent.system : Proc.System ι ControlEff ControlEff.Answer Agent).Fits
    ControlState.monitor Exclusive where
  admits := by
    intro agent states i event _ hadmits
    obtain ⟨e, answer⟩ := event
    cases e with
    | awaitUpgrade callbackAnswer =>
      cases answer with
      | opened => exact hadmits
      | _ => exact trivial
    | _ => exact trivial
  step := by
    intro agent states i event h hadmits hsafe
    obtain ⟨e, answer⟩ := event
    cases e with
    | compareExchange =>
      cases answer with
      | false => exact h.update rfl
      | true =>
        -- the exchange succeeded, so the flag was not set
        have hwon : (true == !agent.busy) = true := hadmits
        refine h.claim rfl ?_
        simpa using hwon
    | release =>
      -- a release that is not stray is the holder's
      have hstray : ((states i).stray || !(states i).holds) = false := hsafe.own
      have hheld : (states i).holds = true := by
        simpa using (Bool.or_eq_false_iff.mp hstray).2
      exact h.release rfl hheld
    | awaitUpgrade callbackAnswer =>
      cases answer with
      | _ => exact h.update rfl
    | _ => exact h.update rfl

end Exclusive

/-- A run of the control connections of an agent up to some moment: each is
served by `serve`, and has ended when it has a result. -/
structure AgentRun (ι : Type) [DecidableEq ι] where
  token : String
  tls : Bool
  trace : List (ι × ControlEvent)
  result : ι → Option Unit
  accepted : Agent.system.Accepts {} trace
  runs : ∀ i, Proc.Runs (serve token tls) (Proc.ofProcess i trace) (result i)

/-- Whether a connection with these events is between a successful claim and
its release. -/
def holdsAgent (events : List ControlEvent) : Bool := (ControlState.monitor.after {} events).holds

/-- Whether a connection with these events has begun a test and not ended
it. -/
def runsTest (events : List ControlEvent) : Bool := (ControlState.monitor.after {} events).testing

namespace AgentRun

/-- The agent at the moment. -/
def now (run : AgentRun ι) : Agent := Agent.system.after {} run.trace

/-- The steps of a connection. -/
def eventsOf (run : AgentRun ι) (i : ι) : List ControlEvent := Proc.ofProcess i run.trace

omit [DecidableEq ι] in
/-- Nobody holds the flag at first. -/
theorem exclusive_start : Exclusive {} fun _ : ι => ({} : ControlState) where
  unique := fun _ _ h => absurd h Bool.false_ne_true
  busy_iff := ⟨fun h => absurd h Bool.false_ne_true, fun ⟨_, h⟩ => absurd h Bool.false_ne_true⟩

/-- **The flag and the connections of every run fit together.** -/
theorem exclusive (run : AgentRun ι) :
    Exclusive run.now (fun i => ControlState.monitor.after {} (run.eventsOf i))
      ∧ ∀ i, (ControlState.monitor.after {} (run.eventsOf i)).Safe
        ∧ ∀ r ∈ run.result i, (ControlState.monitor.after {} (run.eventsOf i)).Waiting false :=
  Agent.system.sound Exclusive.fits exclusive_start (fun _ => ControlState.waiting_init.safe)
    (fun _ => ControlState.holds_serve run.token run.tls {} ControlState.waiting_init)
    run.accepted run.runs

/-- A run up to an earlier moment. -/
def upTo (run : AgentRun ι) {trace rest : List (ι × ControlEvent)}
    (h : run.trace = trace ++ rest) : AgentRun ι where
  token := run.token
  tls := run.tls
  trace := trace
  result := fun _ => none
  accepted := ((Agent.system.accepts_append _ _ _).mp (h ▸ run.accepted)).1
  runs := by
    intro i
    have hrun := run.runs i
    rw [h, Proc.ofProcess, List.filter_append, List.map_append] at hrun
    exact hrun.of_append

/-- **The flag is cleared by its holder only.** -/
theorem holdsAgent_of_release (run : AgentRun ι) {trace rest : List (ι × ControlEvent)} {i : ι}
    (h : run.trace = trace ++ (i, ⟨.release, ()⟩) :: rest) :
    holdsAgent (Proc.ofProcess i trace) = true := by
  have hwhole : run.trace = (trace ++ [(i, ⟨.release, ()⟩)]) ++ rest := by
    rw [h, List.append_assoc]
    rfl
  have hsafe := ((run.upTo hwhole).exclusive.2 i).1
  have hevents : (run.upTo hwhole).eventsOf i
      = Proc.ofProcess i trace ++ [⟨.release, ()⟩] := by
    show Proc.ofProcess i (trace ++ [_]) = _
    rw [Proc.System.ofProcess_append_singleton, if_pos rfl]
  rw [hevents, Proc.Monitor.after_append] at hsafe
  have hstray : (_ || !holdsAgent (Proc.ofProcess i trace)) = false := hsafe.own
  simpa using (Bool.or_eq_false_iff.mp hstray).2

end AgentRun

/-- A connection that never won the exchange holds nothing. -/
theorem holdsAgent_eq_false {events : List ControlEvent}
    (h : ∀ event ∈ events, event ≠ ⟨.compareExchange, true⟩) : holdsAgent events = false := by
  induction events using List.reverseRecOn with
  | nil => rfl
  | append_singleton events event ih =>
    have hbefore : holdsAgent events = false :=
      ih fun event hevent => h event (List.mem_append_left _ hevent)
    have hlast := h event (List.mem_append_right _ (List.mem_singleton_self event))
    unfold holdsAgent at hbefore ⊢
    rw [Proc.Monitor.after_append]
    show (ControlState.step _ event).holds = false
    obtain ⟨e, answer⟩ := event
    cases e with
    | compareExchange =>
      cases answer with
      | false => exact hbefore
      | true => exact absurd rfl hlast
    | release => rfl
    | awaitUpgrade callbackAnswer =>
      cases answer with
      | _ => exact hbefore
    | _ => exact hbefore

/-- **One test at a time per agent**: in every interleaving of the steps of
any number of control connections, at most one holds the agent, the busy flag
is set exactly while one does, a connection that has returned holds it no
longer, only the holder clears the flag, one that was refused never does, and
no two connections run a test. -/
theorem one_test_at_a_time (run : AgentRun ι) :
    (∀ i j, holdsAgent (run.eventsOf i) = true → holdsAgent (run.eventsOf j) = true → i = j)
    ∧ (run.now.busy = true ↔ ∃ i, holdsAgent (run.eventsOf i) = true)
    ∧ (∀ i, run.result i = some () → holdsAgent (run.eventsOf i) = false)
    ∧ (∀ trace i rest, run.trace = trace ++ (i, ⟨.release, ()⟩) :: rest →
      holdsAgent (Proc.ofProcess i trace) = true)
    ∧ (∀ i, (∀ event ∈ run.eventsOf i, event ≠ ⟨.compareExchange, true⟩) →
      ∀ event ∈ run.eventsOf i, event ≠ ⟨.release, ()⟩)
    ∧ ∀ i j, runsTest (run.eventsOf i) = true → runsTest (run.eventsOf j) = true → i = j := by
  obtain ⟨hexclusive, hstates⟩ := run.exclusive
  refine ⟨hexclusive.unique, hexclusive.busy_iff, fun i hended => ((hstates i).2 () hended).holds,
    fun trace i rest h => run.holdsAgent_of_release h, ?_, ?_⟩
  · intro i hrefused event hevent hrelease
    subst hrelease
    -- the release came while the connection held what it never claimed
    obtain ⟨item, hitem, hsnd⟩ := List.mem_map.mp hevent
    obtain ⟨hmem, hi⟩ := List.mem_filter.mp hitem
    obtain ⟨j, event⟩ := item
    obtain rfl : j = i := of_decide_eq_true hi
    obtain rfl : event = ⟨.release, ()⟩ := hsnd
    obtain ⟨trace, rest, htrace⟩ := List.append_of_mem hmem
    have hheld := run.holdsAgent_of_release htrace
    have hnever : holdsAgent (Proc.ofProcess j trace) = false := by
      refine holdsAgent_eq_false fun event hevent => hrefused event ?_
      unfold AgentRun.eventsOf Proc.ofProcess
      rw [htrace, List.filter_append, List.map_append]
      exact List.mem_append_left _ hevent
    exact Bool.false_ne_true (hnever.symm.trans hheld)
  · intro i j hi hj
    exact hexclusive.unique i j ((hstates i).1.held hi) ((hstates j).1.held hj)

end Runs

/-- A peer that presents the token and lets its handshake time out, after it
won the exchange or did not. -/
def timingOut (won : Bool) (_ : ℕ) : (e : ControlEff) → e.Answer
  | .acceptTls => TlsOutcome.accepted
  | .awaitRequest => RequestOutcome.request (some "Bearer secret")
  | .compareExchange => won
  | .awaitUpgrade _ => UpgradeOutcome.timedOut
  | .runTest => (Except.ok () : Except String Unit)
  | .sendError _ => ()
  | .close => ()
  | .release => ()

/-- The steps of a connection to that peer. -/
def timedOutSteps (won : Bool) : List ControlEvent × Option Unit :=
  Proc.run (timingOut won) 10 0 (serve "secret" false)

/-- One connection comes and is refused while another one, which claimed the
agent, waits for the end of its handshake. -/
def refusedMeanwhile : List (Bool × ControlEvent) :=
  ((timedOutSteps true).1.take 2).map (true, ·) ++ (timedOutSteps false).1.map (false, ·)
    ++ ((timedOutSteps true).1.drop 2).map (true, ·)

theorem ofProcess_refusedMeanwhile (i : Bool) :
    Proc.ofProcess i refusedMeanwhile = (timedOutSteps i).1 := by
  cases i with
  | false => rfl
  | true => rfl

/-- The two connections, as a run. -/
def refusedRun : AgentRun Bool where
  token := "secret"
  tls := false
  trace := refusedMeanwhile
  result := fun i => (timedOutSteps i).2
  accepted := by decide +kernel
  runs := by
    intro i
    rw [ofProcess_refusedMeanwhile]
    exact Proc.runs_run _ _ _ _

/-- Both have returned, and the agent is free. -/
theorem refusedRun_leaves_agent_free :
    refusedRun.result true = some () ∧ refusedRun.result false = some ()
      ∧ refusedRun.now.busy = false := by
  have hended : ∀ i, refusedRun.result i = some () := by decide +kernel
  refine ⟨hended true, hended false, Bool.eq_false_iff.mpr fun hbusy => ?_⟩
  obtain ⟨-, hholder, hreturned, -⟩ := one_test_at_a_time refusedRun
  obtain ⟨i, hi⟩ := hholder.mp hbusy
  exact Bool.false_ne_true ((hreturned i (hended i)).symm.trans hi)

end WsBlast
