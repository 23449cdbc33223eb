import WsBlast.Lib.Machine
import WsBlast.Metrics
import WsBlast.MockSessions

/-!
# The mock server

The accept loop of the mock decides about every connection before it serves it
in a task of its own: whether to reject it, the seed of its session and, for
replay, which recorded connection it gets. The tasks count in counters that
they share, and go on in any order.

`MockConnection.step` is what the task of one connection does, `MockServer.step`
a step of the loop or of a task. Whatever the tasks do, the plan of a
connection is that of its place in the order of arrival (`planAt`), and the
counters are what the connections make of them one by one (`Books`).

The accept loop draws from one generator, in the order in which connections
arrive: one draw decides whether a connection is rejected, and another gives the
seed of its session, whatever the first one was.
-/

namespace WsBlast

/-! ## Plans

What the loop decides about a connection before it spawns its task. -/

/-- Decisions the accept loop makes for one TCP connection. -/
structure ConnectionPlan where
  reject : Bool
  seed : UInt64
  /-- Position among accepted connections, for replay round robin. -/
  index : ℕ
  deriving DecidableEq

/-- The plan of the next connection. -/
def drawPlan (rejectRatio : ℚ) (rng : XorShift64) (nextIndex : ℕ) : ConnectionPlan × XorShift64 :=
  let (draw, rng) := rng.nextF64
  let (seed, rng) := rng.nextU64
  (⟨draw < rejectRatio, seed, nextIndex⟩, rng)

/-! ## One connection

A task goes through stages, and each step of it changes the shared counters by a
known amount. -/

/-- Counters of a mock server. -/
structure MockStats where
  /-- WebSocket handshakes the server completed. -/
  accepted : ℕ := 0
  /-- Upgrade requests answered with HTTP 503 by the reject ratio. -/
  rejected : ℕ := 0
  /-- Connections currently open. -/
  active : ℕ := 0
  /-- Frames received from clients. -/
  received : ℕ := 0
  /-- Frames sent to clients. -/
  sent : ℕ := 0
  deriving DecidableEq

/-- Where the task of a connection is. -/
inductive MockStage where
  | tlsHandshake
  | handshake
  /-- The upgrade request was answered with 503. -/
  | rejected
  /-- The upgrade request was answered, and the answer may still fail. -/
  | answered
  /-- Counted as accepted. -/
  | accepted
  /-- Counted as open; its session runs. -/
  | serving
  /-- Its session has ended. -/
  | closed
  /-- Given up before there was a session. -/
  | dropped
  deriving DecidableEq

/-- A connection of the mock server. -/
structure MockConnection where
  plan : ConnectionPlan
  /-- Whether the client asked for Engine.IO 3. -/
  engineIo3 : Bool := false
  stage : MockStage
  /-- What its session has done. -/
  trace : List MockEvent := []

/-- A step of the task of a connection. -/
inductive ConnectionStep where
  | tlsAccepted
  /-- The upgrade request is read, with or without `EIO=3`. -/
  | request (eio3 : Bool)
  /-- The handshake is complete. -/
  | upgraded
  | opened
  | session (event : MockEvent)
  | sessionEnds
  /-- A handshake fails, or the server stops during one. -/
  | drop

/-- What an event of a session adds to the counters. -/
def MockStats.count (stats : MockStats) (event : MockEvent) : MockStats :=
  match event.1 with
  | .countReceived => { stats with received := stats.received + 1 }
  | .countSent => { stats with sent := stats.sent + 1 }
  | _ => stats

/-- One step of the task, where it can be taken. -/
def MockConnection.step (socketio : Bool) (c : MockConnection) (stats : MockStats) :
    ConnectionStep → Option (MockConnection × MockStats)
  | .tlsAccepted => if c.stage = .tlsHandshake then
      some ({ c with stage := .handshake }, stats) else none
  | .request eio3 => if c.stage = .handshake then
      if c.plan.reject = true then
        some ({ c with stage := .rejected }, { stats with rejected := stats.rejected + 1 })
      else some ({ c with stage := .answered, engineIo3 := socketio && eio3 }, stats) else none
  | .upgraded => if c.stage = .answered then
      some ({ c with stage := .accepted }, { stats with accepted := stats.accepted + 1 }) else none
  | .opened => if c.stage = .accepted then
      some ({ c with stage := .serving }, { stats with active := stats.active + 1 }) else none
  | .session event => if c.stage = .serving then
      some ({ c with trace := c.trace ++ [event] }, stats.count event) else none
  | .sessionEnds => if c.stage = .serving then
      some ({ c with stage := .closed }, { stats with active := wrappingPred stats.active })
      else none
  | .drop => if c.stage = .tlsHandshake ∨ c.stage = .handshake ∨ c.stage = .answered then
      some ({ c with stage := .dropped }, stats) else none

/-! ## The server

The state of the loop and the list of connections in the order of their arrival.
-/

/-- A running mock server. -/
structure MockServer where
  rng : XorShift64
  nextIndex : ℕ := 0
  /-- The loop sleeps, as an accept failed. -/
  resting : Bool := false
  cancelled : Bool := false
  stopped : Bool := false
  /-- The connections, in the order in which they arrived. -/
  connections : List MockConnection := []
  stats : MockStats := {}

/-- A step of the accept loop, of the task of a connection, or of who stops
the server. -/
inductive MockServerStep where
  | accept
  | acceptFails
  | wake
  | connection (k : ℕ) (step : ConnectionStep)
  | cancel
  | stop

namespace MockServer

variable (rejectRatio : ℚ) (tls socketio : Bool) (seed : UInt64)

/-- A server that accepts its first connection. -/
def start : MockServer where
  rng := .new seed

/-- One step, where it can be taken. -/
def step (s : MockServer) : MockServerStep → Option MockServer
  | .accept => if s.resting = false ∧ s.cancelled = false ∧ s.stopped = false then
      let (plan, rng) := drawPlan rejectRatio s.rng s.nextIndex
      some { s with
        rng
        nextIndex := if plan.reject then s.nextIndex else s.nextIndex + 1
        connections := s.connections
          ++ [{ plan, stage := if tls then .tlsHandshake else .handshake }] }
      else none
  | .acceptFails => if s.resting = false ∧ s.cancelled = false ∧ s.stopped = false then
      some { s with resting := true } else none
  | .wake => if s.resting = true then some { s with resting := false } else none
  | .connection k step =>
    s.connections[k]?.bind fun c => (c.step socketio s.stats step).map fun (c, stats) =>
      { s with connections := s.connections.set k c, stats }
  | .cancel => some { s with cancelled := true }
  | .stop => if s.resting = false ∧ s.cancelled = true then some { s with stopped := true }
      else none

/-! ## Plans by the order of arrival

The plans as a function of the seed and the place in the order. -/

/-- The generator after the plans of `k` connections. -/
def rngAt : ℕ → XorShift64
  | 0 => .new seed
  | k + 1 => (rngAt k).nextF64.2.nextU64.2

/-- Whether the `k`-th connection is rejected. -/
def rejects (k : ℕ) : Bool := (rngAt seed k).nextF64.1 < rejectRatio

/-- The plan of the `k`-th connection: it depends on the seed and on how many
came before it, not on what became of them. -/
def planAt (k : ℕ) : ConnectionPlan where
  reject := rejects rejectRatio seed k
  seed := (rngAt seed k).nextF64.2.nextU64.1
  index := (List.range k).countP fun j => !rejects rejectRatio seed j

end MockServer

/-! ## What the connections have counted

Every connection has a share in the counters, given its stage and its trace. -/

/-- What a connection has counted so far. -/
def MockConnection.share (c : MockConnection) : MockStats where
  accepted := if c.stage = .accepted ∨ c.stage = .serving ∨ c.stage = .closed then 1 else 0
  rejected := if c.stage = .rejected then 1 else 0
  active := if c.stage = .serving then 1 else 0
  received := c.trace.countP countsReceived
  sent := c.trace.countP countsSent

/-- The counters moved as the share of the connection did. -/
structure MovedBy (c c' : MockConnection) (stats stats' : MockStats) : Prop where
  accepted : stats'.accepted + c.share.accepted = stats.accepted + c'.share.accepted
  rejected : stats'.rejected + c.share.rejected = stats.rejected + c'.share.rejected
  active : stats'.active + c.share.active = stats.active + c'.share.active
  received : stats'.received + c.share.received = stats.received + c'.share.received
  sent : stats'.sent + c.share.sent = stats.sent + c'.share.sent

/-- What the stage of a connection says about its plan and its session. -/
structure MockConnection.Sound (socketio : Bool) (c : MockConnection) : Prop where
  rejected : c.stage = .rejected → c.plan.reject = true
  served : c.stage = .answered ∨ c.stage = .accepted ∨ c.stage = .serving ∨ c.stage = .closed →
    c.plan.reject = false
  quiet : c.stage ≠ .serving → c.stage ≠ .closed → c.trace = []
  engine : c.engineIo3 = true → socketio = true

section Steps

variable {socketio : Bool} {c c' : MockConnection} {stats stats' : MockStats}
  {step : ConnectionStep}

theorem countP_snoc (p : MockEvent → Bool) (trace : List MockEvent) (event : MockEvent) :
    (trace ++ [event]).countP p = trace.countP p + if p event = true then 1 else 0 := by
  rw [List.countP_append, List.countP_singleton]

theorem MockStats.count_received (stats : MockStats) (event : MockEvent) :
    (stats.count event).received
      = stats.received + if countsReceived event = true then 1 else 0 := by
  obtain ⟨e, a⟩ := event
  cases e <;> rfl

theorem MockStats.count_sent (stats : MockStats) (event : MockEvent) :
    (stats.count event).sent = stats.sent + if countsSent event = true then 1 else 0 := by
  obtain ⟨e, a⟩ := event
  cases e <;> rfl

theorem MockStats.count_others (stats : MockStats) (event : MockEvent) :
    (stats.count event).accepted = stats.accepted ∧ (stats.count event).rejected = stats.rejected
      ∧ (stats.count event).active = stats.active := by
  obtain ⟨e, a⟩ := event
  cases e <;> exact ⟨rfl, rfl, rfl⟩

/-- What a step of a connection leaves: the plan, and counters that moved as
its share did. -/
theorem MockConnection.moved (hsound : c.Sound socketio) (hactive : c.share.active ≤ stats.active)
    (hstep : c.step socketio stats step = some (c', stats')) :
    c'.plan = c.plan ∧ c'.Sound socketio ∧ MovedBy c c' stats stats' := by
  have hquiet : c.stage ≠ .serving → c.stage ≠ .closed → c.trace = [] := hsound.quiet
  -- by the step that was taken; each moves one stage on
  cases step with
  | tlsAccepted =>
    simp only [MockConnection.step, Option.ite_none_right_eq_some, Option.some.injEq,
      Prod.mk.injEq] at hstep
    obtain ⟨hstage, rfl, rfl⟩ := hstep
    refine ⟨rfl, ⟨by simp, by simp, fun _ _ => hquiet (by simp [hstage]) (by simp [hstage]),
      hsound.engine⟩, ⟨?_, ?_, ?_, rfl, rfl⟩⟩ <;> simp [share, hstage]
  | request eio3 =>
    unfold MockConnection.step at hstep
    by_cases hstage : c.stage = .handshake
    · have htrace : c.trace = [] := hquiet (by simp [hstage]) (by simp [hstage])
      by_cases hreject : c.plan.reject = true
      · simp only [if_pos hstage, if_pos hreject, Option.some.injEq, Prod.mk.injEq] at hstep
        obtain ⟨rfl, rfl⟩ := hstep
        refine ⟨rfl, ⟨fun _ => hreject, by simp, fun _ _ => htrace, hsound.engine⟩,
          ⟨?_, ?_, ?_, rfl, rfl⟩⟩ <;> simp [share, hstage]
      · simp only [if_pos hstage, if_neg hreject, Option.some.injEq, Prod.mk.injEq] at hstep
        obtain ⟨rfl, rfl⟩ := hstep
        have hserved : c.plan.reject = false := Bool.eq_false_iff.mpr hreject
        refine ⟨rfl, ⟨by simp, fun _ => hserved, fun _ _ => htrace, fun h => ?_⟩,
          ⟨?_, ?_, ?_, rfl, rfl⟩⟩
        · exact (Bool.and_eq_true _ _ ▸ h).1
        all_goals simp [share, hstage]
    · exact absurd hstep (by simp [hstage])
  | upgraded =>
    simp only [MockConnection.step, Option.ite_none_right_eq_some, Option.some.injEq,
      Prod.mk.injEq] at hstep
    obtain ⟨hstage, rfl, rfl⟩ := hstep
    refine ⟨rfl, ⟨by simp, fun _ => hsound.served (.inl hstage),
      fun _ _ => hquiet (by simp [hstage]) (by simp [hstage]), hsound.engine⟩,
      ⟨?_, ?_, ?_, rfl, rfl⟩⟩ <;> simp [share, hstage]
  | opened =>
    simp only [MockConnection.step, Option.ite_none_right_eq_some, Option.some.injEq,
      Prod.mk.injEq] at hstep
    obtain ⟨hstage, rfl, rfl⟩ := hstep
    refine ⟨rfl, ⟨by simp, fun _ => hsound.served (.inr (.inl hstage)), fun h => absurd rfl h,
      hsound.engine⟩, ⟨?_, ?_, ?_, rfl, rfl⟩⟩ <;> simp [share, hstage]
  | session event =>
    simp only [MockConnection.step, Option.ite_none_right_eq_some, Option.some.injEq,
      Prod.mk.injEq] at hstep
    obtain ⟨hstage, rfl, rfl⟩ := hstep
    obtain ⟨haccepted, hrejected, hopen⟩ := stats.count_others event
    refine ⟨rfl, ⟨hsound.rejected, hsound.served, fun h => absurd hstage h, hsound.engine⟩,
      ⟨?_, ?_, ?_, ?_, ?_⟩⟩
    · rw [haccepted]
      rfl
    · rw [hrejected]
      rfl
    · rw [hopen]
      rfl
    · simp only [share, countP_snoc, stats.count_received event]
      omega
    · simp only [share, countP_snoc, stats.count_sent event]
      omega
  | sessionEnds =>
    simp only [MockConnection.step, Option.ite_none_right_eq_some, Option.some.injEq,
      Prod.mk.injEq] at hstep
    obtain ⟨hstage, rfl, rfl⟩ := hstep
    have hpos : stats.active ≠ 0 := by
      simp only [share, hstage, if_pos] at hactive
      omega
    refine ⟨rfl, ⟨by simp, fun _ => hsound.served (.inr (.inr (.inl hstage))),
      fun _ h => absurd rfl h, hsound.engine⟩, ⟨?_, ?_, ?_, rfl, rfl⟩⟩
    · simp [share, hstage]
    · simp [share, hstage]
    · simp [share, hstage, wrappingPred, hpos]
      omega
  | drop =>
    simp only [MockConnection.step, Option.ite_none_right_eq_some, Option.some.injEq,
      Prod.mk.injEq] at hstep
    obtain ⟨hstage, rfl, rfl⟩ := hstep
    have htrace : c.trace = [] := by
      rcases hstage with hstage | hstage | hstage <;>
        exact hquiet (by simp [hstage]) (by simp [hstage])
    refine ⟨rfl, ⟨by simp, by simp, fun _ _ => htrace, hsound.engine⟩, ⟨?_, ?_, ?_, rfl, rfl⟩⟩ <;>
      rcases hstage with hstage | hstage | hstage <;> simp [share, hstage]

end Steps

/-! ## The books of the server

The invariant of the whole server: every connection has its plan, every stage is
sound, and the counters are the sums of the shares. -/

/-- What adds up over a list, when one entry of it changes. -/
theorem sum_map_set {α : Type} (f : α → ℕ) {l : List α} {k : ℕ} {x : α} (h : l[k]? = some x)
    (y : α) : ((l.set k y).map f).sum + f x = (l.map f).sum + f y := by
  induction l generalizing k with
  | nil => exact absurd h (by simp)
  | cons first rest ih =>
    cases k with
    | zero =>
      obtain rfl := Option.some.inj h
      simp only [List.set_cons_zero, List.map_cons, List.sum_cons]
      omega
    | succ k =>
      have hrest := ih h
      simp only [List.set_cons_succ, List.map_cons, List.sum_cons]
      omega

/-- A total that moves as one entry does stays the total. -/
theorem sum_of_moved {α : Type} (f : α → ℕ) {l : List α} {k : ℕ} {x y : α} {total total' : ℕ}
    (h : l[k]? = some x) (hbefore : total = (l.map f).sum) (hmoved : total' + f x = total + f y) :
    total' = ((l.set k y).map f).sum := by
  have hset := sum_map_set f h y
  omega

/-- What holds of a server in every state. -/
structure MockServer.Books (rejectRatio : ℚ) (socketio : Bool) (seed : UInt64) (s : MockServer) :
    Prop where
  rng : s.rng = rngAt seed s.connections.length
  nextIndex : s.nextIndex
    = (List.range s.connections.length).countP fun j => !rejects rejectRatio seed j
  plans : ∀ k c, s.connections[k]? = some c → c.plan = planAt rejectRatio seed k
  sound : ∀ c ∈ s.connections, c.Sound socketio
  accepted : s.stats.accepted = (s.connections.map fun c => c.share.accepted).sum
  rejected : s.stats.rejected = (s.connections.map fun c => c.share.rejected).sum
  active : s.stats.active = (s.connections.map fun c => c.share.active).sum
  received : s.stats.received = (s.connections.map fun c => c.share.received).sum
  sent : s.stats.sent = (s.connections.map fun c => c.share.sent).sum

namespace MockServer

variable {rejectRatio : ℚ} {tls socketio : Bool} {seed : UInt64} {s t : MockServer}

theorem drawPlan_rngAt (k : ℕ) (nextIndex : ℕ)
    (h : nextIndex = (List.range k).countP fun j => !rejects rejectRatio seed j) :
    drawPlan rejectRatio (rngAt seed k) nextIndex
      = (planAt rejectRatio seed k, rngAt seed (k + 1)) := by
  rw [h]
  rfl

theorem books_start : (start seed).Books rejectRatio socketio seed where
  rng := rfl
  nextIndex := rfl
  plans := fun _ _ h => absurd h (by simp [start])
  sound := fun _ h => absurd h (by simp [start])
  accepted := rfl
  rejected := rfl
  active := rfl
  received := rfl
  sent := rfl

/-- A connection arrives. -/
theorem Books.arrive (h : s.Books rejectRatio socketio seed) {stage : MockStage}
    (hstage : stage = .tlsHandshake ∨ stage = .handshake) :
    Books rejectRatio socketio seed { s with
      rng := rngAt seed (s.connections.length + 1)
      nextIndex := if (planAt rejectRatio seed s.connections.length).reject then s.nextIndex
        else s.nextIndex + 1
      connections := s.connections
        ++ [⟨planAt rejectRatio seed s.connections.length, false, stage, []⟩] } := by
  have hnone : MockConnection.share ⟨planAt rejectRatio seed s.connections.length, false, stage, []⟩
      = {} := by
    rcases hstage with rfl | rfl <;> rfl
  refine ⟨?_, ?_, ?_, ?_, ?_, ?_, ?_, ?_, ?_⟩
  · simp
  · have hreject : (planAt rejectRatio seed s.connections.length).reject
        = rejects rejectRatio seed s.connections.length := rfl
    rw [List.length_append, List.length_singleton, List.range_succ, List.countP_append,
      List.countP_singleton, ← h.nextIndex, hreject]
    cases rejects rejectRatio seed s.connections.length <;> rfl
  · intro k c hc
    rcases Nat.lt_or_ge k s.connections.length with hk | hk
    · rw [List.getElem?_append_left hk] at hc
      exact h.plans k c hc
    · rw [List.getElem?_append_right hk, List.getElem?_singleton] at hc
      obtain ⟨hzero, hc⟩ := Option.ite_none_right_eq_some.mp hc
      obtain rfl := Option.some.inj hc
      rw [Nat.le_antisymm (Nat.sub_eq_zero_iff_le.mp hzero) hk]
  · intro c hc
    rcases List.mem_append.mp hc with hc | hc
    · exact h.sound c hc
    · obtain rfl := List.mem_singleton.mp hc
      refine ⟨?_, ?_, fun _ _ => rfl, by simp⟩ <;> rcases hstage with rfl | rfl <;> simp
  all_goals
    rw [List.map_append, List.sum_append, List.map_singleton, List.sum_singleton, hnone]
  · exact h.accepted
  · exact h.rejected
  · exact h.active
  · exact h.received
  · exact h.sent

/-- The task of a connection goes on. -/
theorem Books.goOn (h : s.Books rejectRatio socketio seed) {k : ℕ} {c c' : MockConnection}
    {stats : MockStats} {step : ConnectionStep} (hc : s.connections[k]? = some c)
    (hstep : c.step socketio s.stats step = some (c', stats)) :
    Books rejectRatio socketio seed { s with connections := s.connections.set k c', stats } := by
  have hmem : c ∈ s.connections := List.mem_of_getElem? hc
  have hactive : c.share.active ≤ s.stats.active := by
    rw [h.active]
    exact List.le_sum_of_mem (List.mem_map_of_mem hmem)
  obtain ⟨hplan, hsound, hmoved⟩ := c.moved (h.sound c hmem) hactive hstep
  have hlength : (s.connections.set k c').length = s.connections.length := List.length_set
  refine ⟨?_, ?_, ?_, ?_, ?_, ?_, ?_, ?_, ?_⟩
  · exact hlength ▸ h.rng
  · exact hlength ▸ h.nextIndex
  · intro j d hd
    rcases eq_or_ne k j with rfl | hne
    · rw [List.getElem?_set_self (List.getElem?_eq_some_iff.mp hc).1] at hd
      obtain rfl := Option.some.inj hd
      rw [hplan]
      exact h.plans k c hc
    · rw [List.getElem?_set_ne hne] at hd
      exact h.plans j d hd
  · intro d hd
    rcases List.mem_or_eq_of_mem_set hd with hd | rfl
    · exact h.sound d hd
    · exact hsound
  · exact sum_of_moved _ hc h.accepted hmoved.accepted
  · exact sum_of_moved _ hc h.rejected hmoved.rejected
  · exact sum_of_moved _ hc h.active hmoved.active
  · exact sum_of_moved _ hc h.received hmoved.received
  · exact sum_of_moved _ hc h.sent hmoved.sent

theorem Books.step (h : s.Books rejectRatio socketio seed) {a : MockServerStep}
    (hstep : s.step rejectRatio tls socketio a = some t) : t.Books rejectRatio socketio seed := by
  cases a with
  | accept =>
    have hdraw : drawPlan rejectRatio s.rng s.nextIndex
        = (planAt rejectRatio seed s.connections.length,
          rngAt seed (s.connections.length + 1)) := by
      rw [h.rng, drawPlan_rngAt _ _ h.nextIndex]
    simp only [MockServer.step, hdraw, Option.ite_none_right_eq_some, Option.some.injEq] at hstep
    obtain ⟨-, rfl⟩ := hstep
    refine h.arrive ?_
    cases tls
    · exact .inr rfl
    · exact .inl rfl
  | connection k step =>
    obtain ⟨c, hc, hstep⟩ := Option.bind_eq_some_iff.mp hstep
    obtain ⟨⟨c', stats⟩, hmoves, rfl⟩ := Option.map_eq_some_iff.mp hstep
    exact h.goOn hc hmoves
  | acceptFails | wake | stop =>
    simp only [MockServer.step, Option.ite_none_right_eq_some, Option.some.injEq] at hstep
    obtain ⟨-, rfl⟩ := hstep
    exact ⟨h.rng, h.nextIndex, h.plans, h.sound, h.accepted, h.rejected, h.active, h.received,
      h.sent⟩
  | cancel =>
    obtain rfl := Option.some.inj hstep
    exact ⟨h.rng, h.nextIndex, h.plans, h.sound, h.accepted, h.rejected, h.active, h.received,
      h.sent⟩

theorem books_of_run {steps : List MockServerStep}
    (hrun : Machine.run (MockServer.step rejectRatio tls socketio) (start seed) steps = some s) :
    s.Books rejectRatio socketio seed :=
  Machine.run_inv (fun h hstep => h.step hstep) books_start hrun

/-! ## Sessions

The theorem puts the books together with what is known of every session. -/

/-- What a connection has done is a run of its session, one that has ended
when the connection is closed. -/
def Serves (serde : Serde) (config : MockConfig) (epoch : Instant) (s : MockServer) : Prop :=
  ∀ c ∈ s.connections, ∃ result,
    Proc.Runs (runSession serde config epoch c.engineIo3 c.plan.seed c.plan.index) c.trace result
      ∧ (c.stage = .closed → result = some ())

theorem sum_map_ite {α : Type} (p : α → Prop) [DecidablePred p] (l : List α) :
    (l.map fun x => if p x then 1 else 0).sum = l.countP p := by
  induction l with
  | nil => rfl
  | cons x rest ih =>
    rw [List.map_cons, List.sum_cons, ih, List.countP_cons, Nat.add_comm]
    simp

variable {serde : Serde} {config : MockConfig} {epoch : Instant}

/-- Once no session runs, the frames that were counted are those that
passed. -/
theorem Books.frames (h : s.Books rejectRatio socketio seed) (hserves : s.Serves serde config epoch)
    (hsocketio : config.socketio = none) (hover : ∀ c ∈ s.connections, c.stage ≠ .serving) :
    s.stats.received = (s.connections.map fun c => (arrivals c.trace).length).sum
      ∧ s.stats.sent = (s.connections.map fun c => (sentFrames c.trace).length).sum := by
  have hcounted : ∀ c ∈ s.connections, AllCounted c.trace := by
    intro c hc
    by_cases hclosed : c.stage = .closed
    · obtain ⟨result, hrun, hresult⟩ := hserves c hc
      rw [hresult hclosed] at hrun
      exact allCounted_of_runs hsocketio hrun
    · rw [(h.sound c hc).quiet (hover c hc) hclosed]
      exact ⟨rfl, rfl⟩
  refine ⟨?_, ?_⟩
  · rw [h.received]
    exact congrArg List.sum (List.map_congr_left fun c hc => (hcounted c hc).1)
  · rw [h.sent]
    exact congrArg List.sum (List.map_congr_left fun c hc => (hcounted c hc).2)

/-- **What the mock server counts**: however its connections interleave, the
plan of the `k`-th one depends only on the seed and on `k`, it is rejected only
if its plan says so and served only if not, the counters are what became of the
connections, and once no session runs they are the frames that passed. -/
theorem mock_server_counts {steps : List MockServerStep}
    (hrun : Machine.run (MockServer.step rejectRatio tls config.socketio.isSome) (start seed) steps
      = some s)
    (hserves : s.Serves serde config epoch) :
    (∀ k c, s.connections[k]? = some c → c.plan = planAt rejectRatio seed k
        ∧ (c.stage = .rejected → rejects rejectRatio seed k = true)
        ∧ (c.stage = .accepted ∨ c.stage = .serving ∨ c.stage = .closed →
          rejects rejectRatio seed k = false))
      ∧ s.stats.accepted = s.connections.countP
        (fun c => c.stage = .accepted ∨ c.stage = .serving ∨ c.stage = .closed)
      ∧ s.stats.rejected = s.connections.countP (fun c => c.stage = .rejected)
      ∧ s.stats.active = s.connections.countP (fun c => c.stage = .serving)
      ∧ (config.socketio = none → (∀ c ∈ s.connections, c.stage ≠ .serving) →
        s.stats.received = (s.connections.map fun c => (arrivals c.trace).length).sum
          ∧ s.stats.sent = (s.connections.map fun c => (sentFrames c.trace).length).sum) := by
  have h := books_of_run hrun
  refine ⟨fun k c hc => ?_, ?_, ?_, ?_, h.frames hserves⟩
  · have hplan := h.plans k c hc
    have hreject : c.plan.reject = rejects rejectRatio seed k := by rw [hplan]; rfl
    have hsound := h.sound c (List.mem_of_getElem? hc)
    exact ⟨hplan, fun hstage => hreject ▸ hsound.rejected hstage,
      fun hstage => hreject ▸ hsound.served (.inr hstage)⟩
  · rw [h.accepted]
    exact sum_map_ite _ _
  · rw [h.rejected]
    exact sum_map_ite _ _
  · rw [h.active]
    exact sum_map_ite _ _

/-- Every second connection is rejected, more or less. -/
def rejectHalf : ℚ := 1 / 2

/-- The session of a connection, whose client sends one frame. -/
def oneFrame (k : ℕ) : List MockEvent × Option Unit :=
  (runSession silentSerde stalledConfig 0 false (planAt rejectHalf 2 k).seed
    (planAt rejectHalf 2 k).index).run stalledAnswers 60 0

/-- A step of the session of a connection. -/
def inSession (k : ℕ) (event : MockEvent) : MockServerStep := .connection k (.session event)

/-- A server that rejects the second of three connections, and serves the other
two at the same time. -/
def threeSteps : List MockServerStep :=
  [.accept, .connection 0 (.request false), .accept, .connection 1 (.request false), .accept,
    .connection 2 (.request false), .connection 2 .upgraded, .connection 0 .upgraded,
    .connection 0 .opened, .connection 2 .opened]
    ++ ((oneFrame 0).1.take 4).map (inSession 0)
    ++ (oneFrame 2).1.map (inSession 2)
    ++ ((oneFrame 0).1.drop 4).map (inSession 0)
    ++ [.connection 2 .sessionEnds, .connection 0 .sessionEnds, .cancel, .stop]

/-- Where that leaves the server. -/
def threeServed : MockServer where
  rng := rngAt 2 3
  nextIndex := 2
  cancelled := true
  stopped := true
  connections :=
    [⟨planAt rejectHalf 2 0, false, .closed, (oneFrame 0).1⟩, ⟨planAt rejectHalf 2 1, false, .rejected, []⟩,
      ⟨planAt rejectHalf 2 2, false, .closed, (oneFrame 2).1⟩]
  stats := { accepted := 2, rejected := 1, received := 2, sent := 2 }

theorem run_threeSteps :
    Machine.run (MockServer.step rejectHalf false stalledConfig.socketio.isSome) (start 2) threeSteps
      = some threeServed := by
  have hfirst : rejects rejectHalf 2 0 = false := by decide +kernel
  have hsecond : rejects rejectHalf 2 1 = true := by decide +kernel
  have hthird : rejects rejectHalf 2 2 = false := by decide +kernel
  have hdraw (k index : ℕ) (h : index = (List.range k).countP fun j => !rejects rejectHalf 2 j) :
      drawPlan rejectHalf (rngAt 2 k) index = (planAt rejectHalf 2 k, rngAt 2 (k + 1)) :=
    drawPlan_rngAt k index h
  have hreject (k : ℕ) : (planAt rejectHalf 2 k).reject = rejects rejectHalf 2 k := rfl
  -- the draws and the answers to the requests, one by one; the rest computes
  refine Machine.run_cons.mpr ⟨⟨rngAt 2 1, 1, false, false, false,
    [⟨planAt rejectHalf 2 0, false, .handshake, []⟩], {}⟩, ?_, ?_⟩
  · have h := hdraw 0 0 rfl
    simp [step, start, show XorShift64.new 2 = rngAt 2 0 from rfl, h, hreject, hfirst]
  refine Machine.run_cons.mpr ⟨⟨rngAt 2 1, 1, false, false, false,
    [⟨planAt rejectHalf 2 0, false, .answered, []⟩], {}⟩, ?_, ?_⟩
  · simp [step, MockConnection.step, hreject, hfirst]
  refine Machine.run_cons.mpr ⟨⟨rngAt 2 2, 1, false, false, false,
    [⟨planAt rejectHalf 2 0, false, .answered, []⟩, ⟨planAt rejectHalf 2 1, false, .handshake, []⟩],
    {}⟩, ?_, ?_⟩
  · have h := hdraw 1 1 (by simp [List.range_succ, hfirst])
    simp [step, h, hreject, hsecond]
  refine Machine.run_cons.mpr ⟨⟨rngAt 2 2, 1, false, false, false,
    [⟨planAt rejectHalf 2 0, false, .answered, []⟩, ⟨planAt rejectHalf 2 1, false, .rejected, []⟩],
    { rejected := 1 }⟩, ?_, ?_⟩
  · simp [step, MockConnection.step, hreject, hsecond]
  refine Machine.run_cons.mpr ⟨⟨rngAt 2 3, 2, false, false, false,
    [⟨planAt rejectHalf 2 0, false, .answered, []⟩, ⟨planAt rejectHalf 2 1, false, .rejected, []⟩,
      ⟨planAt rejectHalf 2 2, false, .handshake, []⟩], { rejected := 1 }⟩, ?_, ?_⟩
  · have h := hdraw 2 1 (by simp [List.range_succ, hfirst, hsecond])
    simp [step, h, hreject, hthird]
  refine Machine.run_cons.mpr ⟨⟨rngAt 2 3, 2, false, false, false,
    [⟨planAt rejectHalf 2 0, false, .answered, []⟩, ⟨planAt rejectHalf 2 1, false, .rejected, []⟩,
      ⟨planAt rejectHalf 2 2, false, .answered, []⟩], { rejected := 1 }⟩, ?_, ?_⟩
  · simp [step, MockConnection.step, hreject, hthird]
  · rfl

/-- What became of the three connections is what the counters say. -/
theorem mock_server_counts_three :
    threeServed.stats.accepted = threeServed.connections.countP
        (fun c => c.stage = .accepted ∨ c.stage = .serving ∨ c.stage = .closed)
      ∧ threeServed.stats.rejected = threeServed.connections.countP (fun c => c.stage = .rejected)
      ∧ threeServed.stats.received
        = (threeServed.connections.map fun c => (arrivals c.trace).length).sum
      ∧ threeServed.stats.sent
        = (threeServed.connections.map fun c => (sentFrames c.trace).length).sum := by
  have hserves : threeServed.Serves silentSerde stalledConfig 0 := by
    have hsession (k : ℕ) (hresult : (oneFrame k).2 = some ()) :
        Proc.Runs (runSession silentSerde stalledConfig 0 false (planAt rejectHalf 2 k).seed
          (planAt rejectHalf 2 k).index) (oneFrame k).1 (some ()) :=
      hresult ▸ Proc.runs_run stalledAnswers 60 0 _
    intro c hc
    simp only [threeServed, List.mem_cons, List.not_mem_nil, or_false] at hc
    rcases hc with rfl | rfl | rfl
    · exact ⟨some (), hsession 0 (by decide +kernel), fun _ => rfl⟩
    · exact ⟨none, .stop _, nofun⟩
    · exact ⟨some (), hsession 2 (by decide +kernel), fun _ => rfl⟩
  have hover : ∀ c ∈ threeServed.connections, c.stage ≠ .serving := by
    intro c hc
    simp only [threeServed, List.mem_cons, List.not_mem_nil, or_false] at hc
    rcases hc with rfl | rfl | rfl <;> decide
  obtain ⟨-, haccepted, hrejected, -, hframes⟩ := mock_server_counts run_threeSteps hserves
  exact ⟨haccepted, hrejected, hframes rfl hover⟩

end MockServer

end WsBlast
