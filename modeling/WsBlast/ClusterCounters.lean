import WsBlast.StartBarrier

/-!
# The counters of a cluster never go back

While a phase runs, the coordinator publishes the sum of the latest live
counters of all agents. An agent counts from the start of its test, over all
phases, and reports what it has counted; the coordinator keeps the latest
report of an agent, also of one that is lost. So what it keeps of an agent is
never more than a report that is still on its way, and that never more than
what the agent has counted by now (`Reported.chain`). A sum of what can only
grow only grows.

The last report of a phase is sent after the workers have stopped, so the
coordinator then has all that the agent has counted (`Reported.final`).

Live counters are shown while a run goes on, and exported for monitoring
systems that take a counter that decreases for a restart of the process. So the
sum must not go down when an agent is lost, when a phase ends or when reports
arrive late.
-/

namespace WsBlast

variable {n : ℕ} {W : Type}

/-! ## The counters

The counters of a snapshot as one enumeration, each with its value in a snapshot
and what a record adds to it. -/

/-- The live counters that only count up. -/
inductive LiveCounter where
  | messagesSent
  | messagesReceived
  | bytesSent
  | bytesReceived
  | totalErrors
  | connectionsEstablished
  | connectionsFailed
  | reconnects
  | unsolicitedFrames
  deriving DecidableEq

namespace LiveCounter

/-- The value of a counter. -/
def of : LiveCounter → LiveSnapshot → ℕ
  | messagesSent => LiveSnapshot.messagesSent
  | messagesReceived => LiveSnapshot.messagesReceived
  | bytesSent => LiveSnapshot.bytesSent
  | bytesReceived => LiveSnapshot.bytesReceived
  | totalErrors => LiveSnapshot.totalErrors
  | connectionsEstablished => LiveSnapshot.connectionsEstablished
  | connectionsFailed => LiveSnapshot.connectionsFailed
  | reconnects => LiveSnapshot.reconnects
  | unsolicitedFrames => LiveSnapshot.unsolicitedFrames

variable (c : LiveCounter)

theorem of_zero : c.of 0 = 0 := by
  cases c <;> rfl

theorem of_add (a b : LiveSnapshot) : c.of (a + b) = c.of a + c.of b := by
  cases c <;> rfl

theorem of_sum {ι : Type} (s : Finset ι) (f : ι → LiveSnapshot) :
    c.of (∑ i ∈ s, f i) = ∑ i ∈ s, c.of (f i) :=
  LiveSnapshot.counter_sum c.of c.of_zero c.of_add s f

/-- A counter starts at zero. -/
theorem of_new (cores : ℕ) : c.of (LiveMetrics.new cores).snapshot = 0 := by
  have hsum : (LiveMetrics.new cores).snapshot = (List.replicate (max cores 1 * 2) 0).sum :=
    List.sum_eq_foldl.symm
  rw [hsum, List.sum_replicate, smul_zero, of_zero]

/-- It does not count the connections that are open. -/
theorem of_active (live : LiveSnapshot) (active : ℕ) :
    c.of { live with activeConnections := active } = c.of live := by
  cases c <;> rfl

/-- A record adds to it. -/
theorem of_onShard (record : Record) (live : LiveSnapshot) :
    c.of (record.onShard live) = c.of live + c.of (record.counted + record.opened) := by
  by_cases hclosed : record = .connectionClosed
  · subst hclosed
    have hnothing : c.of (Record.connectionClosed.counted + Record.connectionClosed.opened) = 0 :=
      c.of_zero
    rw [hnothing]
    exact c.of_active live _
  · rw [Record.onShard_eq_add hclosed, of_add]

/-- A record in one shard adds as much to the whole. -/
theorem of_update (live : LiveMetrics) (shard : ℕ) (record : Record) :
    c.of (live.update shard record.onShard).snapshot
      = c.of live.snapshot + c.of (record.counted + record.opened) := by
  have hlist (shards : List LiveSnapshot) (k : ℕ) (hk : k < shards.length) :
      c.of (shards.modify k record.onShard).sum
        = c.of shards.sum + c.of (record.counted + record.opened) := by
    induction shards generalizing k with
    | nil => exact absurd hk (Nat.not_lt_zero k)
    | cons first rest ih =>
      cases k with
      | zero =>
        rw [List.modify_zero_cons, List.sum_cons, List.sum_cons, of_add, of_add, of_onShard]
        exact Nat.add_right_comm _ _ _
      | succ k =>
        rw [List.modify_succ_cons, List.sum_cons, List.sum_cons, of_add, of_add,
          ih k (Nat.lt_of_succ_lt_succ hk)]
        exact (Nat.add_assoc _ _ _).symm
  have hsum (live : LiveMetrics) : live.snapshot = live.shards.sum := List.sum_eq_foldl.symm
  have hlength : 0 < live.shards.length := List.length_pos_iff.mpr live.nonempty
  rw [hsum, hsum]
  exact hlist live.shards (shard % live.shards.length) (Nat.mod_lt _ hlength)

end LiveCounter

/-- The workers of the agent have not all stopped, or it has yet to report
that they have. -/
def AgentStage.Loading : AgentStage → Prop
  | .running _ => True
  | .ending _ => True
  | .abandoned _ => True
  | _ => False

/-- What a message says of a counter. -/
def ControlMessage.reported (c : LiveCounter) : ControlMessage W → Option ℕ
  | .snapshot _ live => some (c.of live)
  | _ => none

/-- Something that grows at its end. -/
theorem pairwise_le_concat {α : Type} [Preorder α] {l : List α} {a b : α}
    (h : (l ++ [a]).Pairwise (· ≤ ·)) (hab : a ≤ b) : (l ++ [a] ++ [b]).Pairwise (· ≤ ·) := by
  refine List.pairwise_append.mpr ⟨h, List.pairwise_singleton _ _, fun x hx y hy => ?_⟩
  obtain rfl := List.mem_singleton.mp hy
  rcases List.mem_append.mp hx with hl | ha
  · exact ((List.pairwise_append.mp h).2.2 x hl a List.mem_cons_self).trans hab
  · rwa [List.mem_singleton.mp ha]

theorem pairwise_le_grow {α : Type} [Preorder α] {l : List α} {a b : α}
    (h : (l ++ [a]).Pairwise (· ≤ ·)) (hab : a ≤ b) : (l ++ [b]).Pairwise (· ≤ ·) :=
  (pairwise_le_concat h hab).sublist
    ((List.sublist_append_left l [a]).append (List.Sublist.refl [b]))

open ControlMessage

/-! ## What is known of the counters of an agent

The invariant of one link and one counter, with a lemma for each thing that may
happen to either. -/

/-- A step that no counter notices. -/
structure Unnoticed (c : LiveCounter) (link link' : AgentLink W) : Prop where
  snapshot : c.of link'.snapshot = c.of link.snapshot
  live : link'.live = link.live
  agent : link'.agent = link.agent
  heard : link'.down.received = link.down.received
  received : link'.up.received = link.up.received
  inFlight : link'.up.inFlight = link.up.inFlight

/-- What the coordinator has of a counter, what is on its way to it and what
the agent has counted. -/
structure Reported (c : LiveCounter) (phase : ℕ) (link : AgentLink W) : Prop where
  chain : (c.of link.snapshot
    :: (link.up.inFlight.filterMap (reported c) ++ [c.of link.live.snapshot])).Pairwise (· ≤ ·)
  /-- The coordinator has the last report of the phase, once it arrived. -/
  stored : ∀ live, .snapshot (some phase) live ∈ link.up.received →
    c.of live ≤ c.of link.snapshot
  /-- Nothing is counted between the last report of a phase and the next
  start. -/
  final : ∀ p live, .snapshot (some p) live ∈ link.up.all →
    2 * p + 2 ≤ link.down.count downNumber
      ∧ (link.down.count downNumber < 2 * p + 4 →
        ¬link.agent.Loading ∧ link.live.snapshot = live)

/-- What an agent does changes nothing that the coordinator has. -/
theorem AgentLink.AgentMove.snapshot_eq {link link' : AgentLink W} (h : link.AgentMove link') :
    link'.snapshot = link.snapshot := by
  cases h with
  | @hear m down hreceive =>
    unfold agentMessage
    split
    · split <;> rfl
    · split <;> rfl
    · rfl
  | _ => rfl

namespace Reported

variable {c : LiveCounter} {phase sent answered : ℕ} {link link' : AgentLink W}
  {m : ControlMessage W} {down up : Fifo (ControlMessage W)} {agent : AgentStage}

/-- The coordinator has no more than the agent has counted. -/
theorem snapshot_le (h : Reported c phase link) : c.of link.snapshot ≤ c.of link.live.snapshot :=
  (List.pairwise_cons.mp h.chain).1 _ (List.mem_append_right _ List.mem_cons_self)

/-- A step that it does not notice keeps it. -/
theorem unnoticed (h : Reported c phase link) (hsame : Unnoticed c link link') :
    Reported c phase link' where
  chain := by
    rw [hsame.snapshot, hsame.live, hsame.inFlight]
    exact h.chain
  stored live hlive := by
    rw [hsame.snapshot]
    rw [hsame.received] at hlive
    exact h.stored live hlive
  final p live hlive := by
    have hcount : link'.down.count downNumber = link.down.count downNumber := by
      unfold Fifo.count
      rw [hsame.heard]
    have hall : link'.up.all = link.up.all := by
      unfold Fifo.all
      rw [hsame.received, hsame.inFlight]
    rw [hcount, hsame.agent, hsame.live]
    rw [hall] at hlive
    exact h.final p live hlive

/-- No agent has reported the end of a phase that was not started. -/
theorem not_final (h : Reported c phase link) (hlink : LinkAt phase sent answered link) {p : ℕ}
    (hsent : sent < 2 * p + 2) (live : LiveSnapshot) :
    .snapshot (some p) live ∉ link.up.all := fun hlive => by
  have hheard := (h.final p live hlive).1
  have hle := hlink.down.count_le
  omega

/-- The phase is over. -/
theorem next (h : Reported c phase link) (hlink : LinkAt phase sent answered link) :
    Reported c (phase + 1) link where
  chain := h.chain
  stored live hlive := by
    have hsent := hlink.sent_le
    exact absurd (List.mem_append_left _ hlive) (h.not_final hlink (by omega) live)
  final := h.final

/-! ### The coordinator's side -/

/-- The coordinator hears something and makes nothing of it. -/
theorem receive (h : Reported c phase link) (hreceive : link.up.receive = some (m, up))
    (hm : ∀ live, m ≠ .snapshot (some phase) live) : Reported c phase { link with up } where
  chain := by
    obtain ⟨hflight, -, -⟩ := Fifo.receive_eq_some.mp hreceive
    have hchain := h.chain
    rw [hflight] at hchain
    refine hchain.sublist (List.Sublist.cons_cons _ (List.Sublist.append_right ?_ _))
    exact (List.sublist_cons_self m up.inFlight).filterMap _
  stored live hlive := by
    refine h.stored live ?_
    exact ((Fifo.mem_received_receive hreceive).mp hlive).resolve_right fun heq => hm live heq.symm
  final p live hlive := by
    rw [show Fifo.all up = _ from Fifo.all_receive hreceive] at hlive
    exact h.final p live hlive

/-- It keeps what an agent reports. -/
theorem store (h : Reported c phase link) {last : Option ℕ} {live : LiveSnapshot}
    (hreceive : link.up.receive = some (.snapshot last live, up)) :
    Reported c phase { link with up, snapshot := live } ∧ c.of link.snapshot ≤ c.of live := by
  obtain ⟨hflight, -, -⟩ := Fifo.receive_eq_some.mp hreceive
  have hchain := h.chain
  have hsays : (ControlMessage.snapshot last live : ControlMessage W).reported c
      = some (c.of live) := rfl
  rw [hflight, List.filterMap_cons_some hsays, List.cons_append] at hchain
  have hle : c.of link.snapshot ≤ c.of live :=
    (List.pairwise_cons.mp hchain).1 _ List.mem_cons_self
  refine ⟨⟨(List.pairwise_cons.mp hchain).2, fun live' hlive => ?_, fun p live' hlive => ?_⟩, hle⟩
  · rcases (Fifo.mem_received_receive hreceive).mp hlive with hold | hnew
    · exact (h.stored live' hold).trans hle
    · obtain ⟨-, rfl⟩ := ControlMessage.snapshot.inj hnew
      exact le_rfl
  · rw [show Fifo.all up = _ from Fifo.all_receive hreceive] at hlive
    exact h.final p live' hlive

/-- What it makes of a message of an agent that it follows. -/
theorem followMessage (h : Reported c phase link) (hreceive : link.up.receive = some (m, up)) :
    Reported c phase (AgentLink.followMessage { link with up } m)
      ∧ c.of link.snapshot ≤ c.of (AgentLink.followMessage { link with up } m).snapshot := by
  cases m with
  | snapshot last live => exact h.store hreceive
  | capture => exact ⟨h.receive hreceive nofun, le_rfl⟩
  | _ => exact ⟨(h.receive hreceive nofun).unnoticed ⟨rfl, rfl, rfl, rfl, rfl, rfl⟩, le_rfl⟩

theorem unnoticed_tellOr (through : Bool) (failure : Option String) (hold : Hold W) :
    Unnoticed c link { link.tellOr through failure m with hold } := by
  unfold AgentLink.tellOr
  split
  · exact ⟨rfl, rfl, rfl, Fifo.received_send, rfl, rfl⟩
  · exact ⟨rfl, rfl, rfl, rfl, rfl, rfl⟩

/-- **A step of the coordinator** keeps what is known, and it only hears of
more. -/
theorem coordinatorMove (h : Reported c phase link) (hlink : LinkAt phase sent answered link)
    (hmove : link.CoordinatorMove phase link') :
    Reported c phase link' ∧ c.of link.snapshot ≤ c.of link'.snapshot := by
  have hsame (hsame : Unnoticed c link link') :
      Reported c phase link' ∧ c.of link.snapshot ≤ c.of link'.snapshot :=
    ⟨h.unnoticed hsame, hsame.snapshot.ge⟩
  cases hmove with
  | prepare through failure hcase => exact hsame (unnoticed_tellOr through failure _)
  | @answer m up hcase hreceive =>
    have hat := hlink.hold
    rw [hcase] at hat
    have hfirst (live : LiveSnapshot) : m ≠ .snapshot (some phase) live := fun heq => by
      refine h.not_final hlink (hat.1.trans_lt (Nat.lt_succ_self _)) live ?_
      rw [← heq]
      exact Fifo.mem_all_of_receive hreceive
    exact ⟨(h.receive hreceive hfirst).unnoticed ⟨rfl, rfl, rfl, rfl, rfl, rfl⟩, le_rfl⟩
  | start through failure hcase => exact hsame (unnoticed_tellOr through failure _)
  | message hcase hreceive => exact h.followMessage hreceive
  | token value hcase => exact hsame ⟨rfl, rfl, rfl, Fifo.received_send, rfl, rfl⟩
  | stop hcase => exact hsame ⟨rfl, rfl, rfl, Fifo.received_send, rfl, rfl⟩
  | _ => exact hsame ⟨rfl, rfl, rfl, rfl, rfl, rfl⟩

/-! ### The agent's side -/

/-- The agent gets to another stage. -/
theorem restage (h : Reported c phase link) (hagent : agent.Loading → link.agent.Loading) :
    Reported c phase { link with agent } where
  chain := h.chain
  stored := h.stored
  final p live hlive := (h.final p live hlive).imp_right fun hcounted hheard =>
    (hcounted hheard).imp_left (mt hagent)

/-- It hears the next message; only start makes it count. -/
theorem listen (h : Reported c phase link) (hreceive : link.down.receive = some (m, down))
    {loads : List ℕ}
    (hagent : agent.Loading → link.agent.Loading
      ∨ ∀ p, 2 * p + 2 ≤ link.down.count downNumber → 2 * p + 4 ≤ down.count downNumber) :
    Reported c phase { link with down, agent, loads } where
  chain := h.chain
  stored := h.stored
  final p live hlive := by
    obtain ⟨hstarted, hcounted⟩ := h.final p live hlive
    have hle : link.down.count downNumber ≤ down.count downNumber :=
      Fifo.count_le_of_receive hreceive
    refine ⟨hstarted.trans hle, fun hheard => ?_⟩
    refine (hcounted (hle.trans_lt hheard)).imp_left fun hrests hloading => ?_
    rcases hagent hloading with hbefore | hnext
    · exact hrests hbefore
    · exact absurd (hnext p hstarted) (Nat.not_le_of_lt hheard)

/-- It sends something that is no report. -/
theorem answer (h : Reported c phase link) (hm : m.reported c = none) :
    Reported c phase (link.answer m) where
  chain := by
    show (c.of link.snapshot :: ((link.up.send m).inFlight.filterMap (reported c)
      ++ [c.of link.live.snapshot])).Pairwise (· ≤ ·)
    rcases Fifo.inFlight_send (c := link.up) (m := m) with hlost | hsent
    · rw [hlost]
      exact h.chain
    · rw [hsent, List.filterMap_append, List.filterMap_cons_none hm, List.filterMap_nil,
        List.append_nil]
      exact h.chain
  stored live hlive := by
    rw [show (link.answer m).up.received = _ from Fifo.received_send] at hlive
    exact h.stored live hlive
  final p live hlive := by
    rcases Fifo.mem_all_send hlive with hold | hnew
    · exact h.final p live hold
    · rw [← hnew] at hm
      cases hm

/-- It reports what it has counted by now. -/
theorem report (h : Reported c phase link) {last : Option ℕ}
    (hagent : agent.Loading → link.agent.Loading)
    (hlast : ∀ p, last = some p → 2 * p + 2 ≤ link.down.count downNumber ∧ ¬agent.Loading) :
    Reported c phase { link.answer (.snapshot last link.live.snapshot) with agent } where
  chain := by
    show (c.of link.snapshot :: ((link.up.send _).inFlight.filterMap (reported c)
      ++ [c.of link.live.snapshot])).Pairwise (· ≤ ·)
    rcases Fifo.inFlight_send (c := link.up) (m := .snapshot last link.live.snapshot) with
      hlost | hsent
    · rw [hlost]
      exact h.chain
    · rw [hsent, List.filterMap_append]
      have hchain := h.chain
      rw [← List.cons_append] at hchain ⊢
      exact pairwise_le_concat hchain le_rfl
  stored live hlive := by
    rw [show (link.answer _).up.received = _ from Fifo.received_send] at hlive
    exact h.stored live hlive
  final p live hlive := by
    rcases Fifo.mem_all_send hlive with hold | hnew
    · exact (h.restage hagent).final p live hold
    · obtain ⟨rfl, rfl⟩ := ControlMessage.snapshot.inj hnew
      exact ⟨(hlast p rfl).1, fun _ => ⟨(hlast p rfl).2, rfl⟩⟩

/-- A worker records something. -/
theorem work (h : Reported c phase link) (shard : ℕ) (record : Record)
    (hloading : link.agent.Loading) :
    Reported c phase { link with live := link.live.update shard record.onShard } where
  chain := by
    have hchain := h.chain
    rw [← List.cons_append] at hchain ⊢
    exact pairwise_le_grow hchain ((Nat.le_add_right _ _).trans_eq (c.of_update _ _ _).symm)
  stored := h.stored
  final p live hlive := (h.final p live hlive).imp_right fun hcounted hheard =>
    absurd hloading (hcounted hheard).1

/-- The agent ends the test. -/
theorem gone (h : Reported c phase link) : Reported c phase link.gone := by
  have hgone : Reported c phase { link with agent := .gone } := h.restage nofun
  exact hgone.unnoticed ⟨rfl, rfl, rfl, rfl, rfl, rfl⟩

theorem refused (h : Reported c phase link) (message : String) :
    Reported c phase (link.refused message) := (h.answer rfl).gone

/-- What it makes of the next message. -/
theorem agentMessage (h : Reported c phase link) (hlink : LinkAt phase sent answered link)
    (hreceive : link.down.receive = some (m, down)) :
    Reported c phase (AgentLink.agentMessage { link with down } m) := by
  have hat := hlink.agent
  have hsame : Reported c phase { link with down } := h.listen hreceive .inl
  unfold AgentLink.agentMessage
  dsimp only
  cases hcase : link.agent with
  | idle =>
    rw [hcase] at hsame
    cases m with
    | prepare p => exact h.listen hreceive fun hloading => hloading.elim
    | token value => exact hsame
    | stop => exact hsame.gone
    | _ => exact hsame.refused _
  | waiting q =>
    rw [hcase] at hat hsame
    cases m with
    | start p =>
      obtain ⟨hnumber, hcount⟩ := hlink.down.eq_count hreceive rfl
      refine h.listen hreceive fun _ => .inr fun p' hp' => ?_
      have hgot : link.down.count downNumber = 2 * q + 1 := hat.1
      omega
    | token value => exact hsame
    | stop => exact hsame.gone
    | _ => exact hsame.refused _
  | _ =>
    rw [hcase] at hsame
    exact hsame

/-- **A step of the agent** keeps what is known. -/
theorem agentMove (h : Reported c phase link) (hlink : LinkAt phase sent answered link)
    (hmove : link.AgentMove link') : Reported c phase link' := by
  have hat := hlink.agent
  cases hmove with
  | hear hreceive => exact h.agentMessage hlink hreceive
  | ready hcase => exact (h.answer rfl).restage nofun
  | work shard record hcase =>
    refine h.work shard record ?_
    rcases hcase with hcase | hcase <;> rw [hcase] <;> trivial
  | report hcase => exact h.report id nofun
  | forward => exact h.answer rfl
  | endLoad hcase =>
    refine h.restage fun _ => ?_
    rw [hcase]
    trivial
  | abandon hcase =>
    refine h.restage fun _ => ?_
    rw [hcase]
    trivial
  | lastReport hcase =>
    rw [hcase] at hat
    refine h.report nofun fun p hp => ⟨?_, nofun⟩
    obtain rfl := Option.some.inj hp
    exact hat.1.ge
  | @result p wire hcase =>
    have hidle : Reported c phase { link.answer (.result p wire) with agent := .idle } :=
      (h.answer rfl).restage nofun
    exact hidle.unnoticed ⟨rfl, rfl, rfl, rfl, rfl, rfl⟩
  | refuse message => exact h.refused message
  | leave => exact h.gone

/-- The link fails. -/
theorem cut (h : Reported c phase link) (keptDown keptUp : ℕ) :
    Reported c phase { link with down := link.down.cut keptDown, up := link.up.cut keptUp } where
  chain := by
    refine h.chain.sublist (List.Sublist.cons_cons _ (List.Sublist.append_right ?_ _))
    exact (List.take_sublist keptUp link.up.inFlight).filterMap _
  stored := h.stored
  final p live hlive := h.final p live (Fifo.mem_all_cut hlive)

variable {agentTimeout : String} {cancelled : Bool} {action : LinkAction W}

/-- **Every step of a link** keeps what is known of a counter, and the
coordinator only hears of more. -/
theorem step (h : Reported c phase link) (hlink : LinkAt phase sent answered link)
    (hstep : link.step agentTimeout phase cancelled action = some link') :
    Reported c phase link' ∧ c.of link.snapshot ≤ c.of link'.snapshot := by
  rcases AgentLink.step_cases hstep with ⟨keptDown, keptUp, rfl⟩ | hmove | hmove
  · exact ⟨h.cut keptDown keptUp, le_rfl⟩
  · exact ⟨h.agentMove hlink hmove, (congrArg c.of hmove.snapshot_eq).ge⟩
  · exact h.coordinatorMove hlink hmove

end Reported

/-! ## What the coordinator publishes -/

namespace Unnoticed

variable {c : LiveCounter} {run : ClusterRun n W} {phase : ℕ} {link link' link'' : AgentLink W}

theorem refl (link : AgentLink W) : Unnoticed c link link := ⟨rfl, rfl, rfl, rfl, rfl, rfl⟩

theorem trans (h : Unnoticed c link link') (h' : Unnoticed c link' link'') :
    Unnoticed c link link'' :=
  ⟨h'.snapshot.trans h.snapshot, h'.live.trans h.live, h'.agent.trans h.agent,
    h'.heard.trans h.heard, h'.received.trans h.received, h'.inFlight.trans h.inFlight⟩

theorem enter (link : AgentLink W) : Unnoticed c link (ClusterRun.enter link) := by
  unfold ClusterRun.enter
  split <;> exact ⟨rfl, rfl, rfl, rfl, rfl, rfl⟩

theorem pass (link : AgentLink W) : Unnoticed c link (run.pass phase link) := by
  unfold ClusterRun.pass
  split <;> exact ⟨rfl, rfl, rfl, rfl, rfl, rfl⟩

theorem spawn (link : AgentLink W) : Unnoticed c link (ClusterRun.spawn link) := by
  unfold ClusterRun.spawn
  split <;> exact ⟨rfl, rfl, rfl, rfl, rfl, rfl⟩

/-- Of an agent that is lost, only the open connections are forgotten. -/
theorem takeBack (link : AgentLink W) : Unnoticed c link (run.takeBack phase link) := by
  unfold ClusterRun.takeBack
  split
  · exact ⟨rfl, rfl, rfl, rfl, rfl, rfl⟩
  · exact ⟨c.of_active _ _, rfl, rfl, rfl, rfl, rfl⟩
  · exact ⟨rfl, rfl, rfl, rfl, rfl, rfl⟩

theorem close (link : AgentLink W) :
    Unnoticed c link { link.hangUp with hold := .absent } := ⟨rfl, rfl, rfl, rfl, rfl, rfl⟩

theorem stop (link : AgentLink W) (stopped : Bool) :
    Unnoticed c link (if stopped then link.tell .stop else link) := by
  split
  · exact ⟨rfl, rfl, rfl, Fifo.received_send, rfl, rfl⟩
  · exact ⟨rfl, rfl, rfl, rfl, rfl, rfl⟩

end Unnoticed

namespace ClusterRun

variable {run : ClusterRun n W} {s t : Cluster n W} {action : ClusterAction n W}

/-- What was published of a counter, and what would be published next. -/
structure Counting (c : LiveCounter) (s : Cluster n W) : Prop where
  links : ∀ i, Reported c s.phase (s.links i)
  published : ((s.published ++ [s.liveSum]).map c.of).Pairwise (· ≤ ·)

namespace Counting

variable {c : LiveCounter}

theorem init (run : ClusterRun n W) : Counting c run.init where
  links i := ⟨by
      show (c.of 0 :: [_]).Pairwise (· ≤ ·)
      rw [c.of_zero, List.pairwise_pair]
      exact Nat.zero_le _,
    fun _ h => absurd h List.not_mem_nil, fun _ _ h => absurd h List.not_mem_nil⟩
  published := List.pairwise_singleton _ _

/-- The coordinator heard of more, or of nothing. -/
theorem next (h : Counting c s) (hlinks : ∀ i, Reported c t.phase (t.links i))
    (hgrown : ∀ i, c.of (s.links i).snapshot ≤ c.of (t.links i).snapshot)
    (hpublished : t.published = s.published) : Counting c t where
  links := hlinks
  published := by
    have hsum : c.of s.liveSum ≤ c.of t.liveSum := by
      unfold Cluster.liveSum
      rw [c.of_sum, c.of_sum]
      exact Finset.sum_le_sum fun i _ => hgrown i
    have hbefore := h.published
    rw [List.map_append] at hbefore ⊢
    rw [hpublished]
    exact pairwise_le_grow hbefore hsum

/-- It goes on, and publishes nothing. -/
theorem unnoticed (h : Counting c s) (hphase : t.phase = s.phase)
    (hsame : ∀ i, Unnoticed c (s.links i) (t.links i))
    (hpublished : t.published = s.published) : Counting c t := by
  refine h.next (fun i => ?_) (fun i => (hsame i).snapshot.ge) hpublished
  rw [hphase]
  exact (h.links i).unnoticed (hsame i)

/-- The phase is over. -/
theorem endPhase (h : Counting c s) (hin : Cluster.InStep s) {links : Fin n → AgentLink W}
    {parts : Fin n → AgentPart} (hsame : ∀ i, Unnoticed c (s.links i) (links i)) :
    Counting c (ClusterRun.endPhase { s with links, parts }) := by
  refine h.next (fun i => ?_) (fun i => (hsame i).snapshot.ge) rfl
  obtain ⟨sent, answered, hlink⟩ := hin.links i
  exact ((h.links i).next hlink).unnoticed (hsame i)

theorem publishLive (h : Counting c s) : Counting c s.publishLive where
  links := h.links
  published := by
    have hbefore := h.published
    rw [List.map_append] at hbefore
    show ((s.published ++ [s.liveSum] ++ [s.liveSum]).map c.of).Pairwise _
    rw [List.map_append, List.map_append]
    exact pairwise_le_concat hbefore le_rfl

theorem close (h : Counting c s) (failure : Option String) : Counting c (s.close failure) :=
  h.unnoticed rfl (fun _ => Unnoticed.close _) rfl

theorem stopAll (h : Counting c s) (stopped : Fin n → Bool) : Counting c (s.stopAll stopped) :=
  h.unnoticed rfl (fun _ => Unnoticed.stop _ _) rfl

/-- **Every step** keeps what was published in order. -/
theorem step (h : Counting c s) (hin : Cluster.InStep s) (hstep : run.step s action = some t) :
    Counting c t := by
  cases step_move hstep with
  | cancel => exact h.unnoticed rfl (fun _ => .refl _) rfl
  | enter hstage => exact h.unnoticed rfl (fun _ => Unnoticed.enter _) rfl
  | close failure => exact h.close failure
  | stop stopped failure hstage => exact (h.stopAll stopped).close failure
  | pass hstage hanswered hfirst =>
    exact h.unnoticed rfl (fun _ => Unnoticed.pass _) rfl
  | passNobody hstage hanswered hfirst habsent =>
    exact h.endPhase hin fun _ => Unnoticed.pass _
  | spawn hstage hsent => exact h.unnoticed rfl (fun _ => Unnoticed.spawn _) rfl
  | publish hstage => exact h.publishLive
  | collect hstage hjoined =>
    have hin' : Cluster.InStep s.publishLive := ⟨hin.during, hin.links, hin.started, hin.lost⟩
    exact h.publishLive.endPhase hin' fun _ => Unnoticed.takeBack _
  | @link i action link hlink =>
    obtain ⟨sent, answered, hat⟩ := hin.links i
    obtain ⟨hlinked, hgrown⟩ := (h.links i).step hat hlink
    refine h.next ?_ ?_ rfl
    · exact (Function.forall_update_iff s.links fun _ link => Reported c s.phase link).mpr
        ⟨hlinked, fun j _ => h.links j⟩
    · exact (Function.forall_update_iff s.links
        fun i link => c.of (s.links i).snapshot ≤ c.of link.snapshot).mpr
        ⟨hgrown, fun j _ => le_rfl⟩

/-- The coordinator has all that an agent counted once its last report of the
phase arrived. -/
theorem snapshot_eq (h : Counting c s) (hin : Cluster.InStep s) {i : Fin n} {live : LiveSnapshot}
    (hlive : .snapshot (some s.phase) live ∈ (s.links i).up.received) :
    c.of (s.links i).snapshot = c.of (s.links i).live.snapshot := by
  obtain ⟨sent, answered, hlink⟩ := hin.links i
  have hheard : (s.links i).down.count downNumber < 2 * s.phase + 4 := by
    have hle := hlink.down.count_le
    have hsent := hlink.sent_le
    omega
  have hcounted := ((h.links i).final _ _ (List.mem_append_left _ hlive)).2 hheard
  refine le_antisymm (h.links i).snapshot_le ?_
  rw [hcounted.2]
  exact (h.links i).stored live hlive

end Counting

end ClusterRun

/-! ## What the agents counted

A second reading of the same runs, in which what an agent has counted is
computed from the records of its workers. -/

/-- What an agent records in a step of a run. -/
def ClusterAction.recordBy (i : Fin n) : ClusterAction n W → Option Record
  | .link j (.work _ record) => if j = i then some record else none
  | _ => none

/-- What an agent counted in a run, in all of its phases. -/
def LiveCounter.recordedBy (c : LiveCounter) (i : Fin n) (actions : List (ClusterAction n W)) :
    ℕ :=
  ((actions.filterMap (ClusterAction.recordBy i)).map fun record =>
    c.of (record.counted + record.opened)).sum

/-- A step in which it records nothing. -/
theorem recordedBy_other (c : LiveCounter) {i : Fin n} {action : ClusterAction n W}
    (hother : ∀ shard record, action ≠ .link i (.work shard record)) :
    c.recordedBy i [action] = 0 := by
  have hnothing : action.recordBy i = none := by
    unfold ClusterAction.recordBy
    split
    · exact if_neg fun heq => hother _ _ (by rw [heq])
    · rfl
  unfold LiveCounter.recordedBy
  rw [List.filterMap_cons_none hnothing]
  rfl

namespace AgentLink

variable {link link' : AgentLink W} {agentTimeout : String} {phase : ℕ} {cancelled : Bool}
  {action : LinkAction W}

theorem agentMessage_live (link : AgentLink W) (m : ControlMessage W) :
    (link.agentMessage m).live = link.live := by
  unfold agentMessage
  split
  · split <;> rfl
  · split <;> rfl
  · rfl

theorem agentClosed_live (link : AgentLink W) : link.agentClosed.live = link.live := by
  unfold agentClosed
  split <;> rfl

theorem CoordinatorMove.live_eq (h : link.CoordinatorMove phase link') :
    link'.live = link.live := by
  cases h with
  | @message m up stopped hcase hreceive => cases m <;> rfl
  | prepare through failure hcase | start through failure hcase =>
    unfold tellOr
    split <;> rfl
  | _ => rfl

/-- Only a worker counts. -/
theorem step_live (h : link.step agentTimeout phase cancelled action = some link')
    (hwork : ∀ shard record, action ≠ .work shard record) : link'.live = link.live := by
  cases action with
  | work shard record => exact absurd rfl (hwork shard record)
  | fail keptDown keptUp =>
    obtain rfl := Option.some.inj h
    rfl
  | hear =>
    simp only [step, agentStep] at h
    split at h
    · split at h
      · obtain rfl := Option.some.inj h
        exact agentMessage_live _ _
      · split at h
        · obtain rfl := Option.some.inj h
          exact agentClosed_live link
        · cases h
    · cases h
  | ready | refuse | report | forward | endLoad | failRun | lastReport | sendResult | sendFailed
  | leave =>
    simp only [step, agentStep] at h
    repeat' split at h
    all_goals cases h
    all_goals rfl
  | _ =>
    simp only [step] at h
    exact (coordinatorStep_move h).live_eq

theorem step_work {shard : ℕ} {record : Record}
    (h : link.step agentTimeout phase cancelled (.work shard record) = some link') :
    link'.live = link.live.update shard record.onShard := by
  simp only [step, agentStep] at h
  split at h
  all_goals cases h
  all_goals rfl

end AgentLink

namespace ClusterRun

variable {run : ClusterRun n W} {s t : Cluster n W} {action : ClusterAction n W}
  {actions : List (ClusterAction n W)}

/-- The coordinator counts nothing itself. -/
theorem step_unnoticed (c : LiveCounter) (hstep : run.step s action = some t)
    (haction : ∀ i step, action ≠ .link i step) (i : Fin n) :
    Unnoticed c (s.links i) (t.links i) := by
  cases action with
  | link i step => exact absurd rfl (haction i step)
  | cancel =>
    obtain rfl := Option.some.inj hstep
    exact .refl _
  | beginPhase =>
    simp only [step] at hstep
    split at hstep
    · obtain rfl := Option.some.inj hstep
      exact .enter _
    · cases hstep
  | fail message =>
    simp only [step] at hstep
    repeat' split at hstep
    all_goals cases hstep
    all_goals exact .close _
  | interrupt stopped =>
    simp only [step] at hstep
    split at hstep
    · obtain rfl := Option.some.inj hstep
      exact (Unnoticed.stop _ _).trans (.close _)
    · cases hstep
  | decide stopped =>
    simp only [step] at hstep
    split at hstep
    · split at hstep
      · obtain rfl := Option.some.inj hstep
        exact (Unnoticed.stop _ _).trans (.close _)
      · split at hstep
        · obtain rfl := Option.some.inj hstep
          exact .pass _
        · obtain rfl := Option.some.inj hstep
          exact .pass _
    · cases hstep
  | startAll =>
    simp only [step] at hstep
    split at hstep
    · obtain rfl := Option.some.inj hstep
      exact .spawn _
    · cases hstep
  | publish =>
    simp only [step] at hstep
    split at hstep
    · obtain rfl := Option.some.inj hstep
      exact .refl _
    · cases hstep
  | collect =>
    simp only [step] at hstep
    split at hstep
    · obtain rfl := Option.some.inj hstep
      exact .takeBack _
    · cases hstep
  | finish =>
    simp only [step] at hstep
    split at hstep
    · obtain rfl := Option.some.inj hstep
      exact .close _
    · cases hstep

/-- One step adds what it records. -/
theorem step_counted (c : LiveCounter) (hstep : run.step s action = some t) (i : Fin n) :
    c.of (t.links i).live.snapshot
      = c.of (s.links i).live.snapshot + c.recordedBy i [action] := by
  by_cases hlink : ∃ j step, action = .link j step
  · obtain ⟨j, step, rfl⟩ := hlink
    obtain ⟨link, hlink, rfl⟩ := Option.map_eq_some_iff.mp hstep
    show c.of (Function.update s.links j link i).live.snapshot = _
    by_cases hj : j = i
    · subst hj
      rw [Function.update_self]
      by_cases hwork : ∃ shard record, step = .work shard record
      · obtain ⟨shard, record, rfl⟩ := hwork
        have hrecorded : c.recordedBy j [.link j (.work shard record : LinkAction W)]
            = c.of (record.counted + record.opened) := by
          simp [LiveCounter.recordedBy, ClusterAction.recordBy]
        rw [AgentLink.step_work hlink, c.of_update, hrecorded]
      · push Not at hwork
        rw [AgentLink.step_live hlink hwork, recordedBy_other c fun shard record h => ?_]
        · rfl
        · exact hwork shard record (ClusterAction.link.inj h).2
    · rw [Function.update_of_ne (Ne.symm hj), recordedBy_other c fun shard record h => ?_]
      · rfl
      · exact hj (ClusterAction.link.inj h).1
  · push Not at hlink
    rw [(step_unnoticed c hstep hlink i).live, recordedBy_other c fun shard record => hlink _ _]
    rfl

/-- **What an agent has counted** is what it recorded in all phases so far. -/
theorem run_counted (c : LiveCounter) (hrun : Machine.run run.step s actions = some t) (i : Fin n) :
    c.of (t.links i).live.snapshot
      = c.of (s.links i).live.snapshot + c.recordedBy i actions := by
  induction actions generalizing s with
  | nil =>
    obtain rfl := Option.some.inj hrun
    rfl
  | cons action rest ih =>
    obtain ⟨u, hstep, hrest⟩ := Machine.run_cons.mp hrun
    rw [ih hrest, step_counted c hstep, Nat.add_assoc]
    congr 1
    unfold LiveCounter.recordedBy
    rw [← List.sum_append, ← List.map_append, ← List.filterMap_append, List.singleton_append]

/-- Only a step that publishes adds to what was published. -/
theorem step_published (hstep : run.step s action = some t) :
    t.published = s.published ∨ t.published = s.published ++ [s.liveSum] := by
  cases step_move hstep with
  | publish hstage => exact .inr rfl
  | collect hstage hjoined => exact .inr rfl
  | _ => exact .inl rfl

/-- **The counters of a cluster never go back.** In every run the values of a
counter that were published never decrease; and what is published once the
last report of every agent in this phase has arrived is the sum of what the
agents counted, in all phases so far. -/
theorem counters_never_go_back (hrun : Machine.run run.step run.init actions = some s)
    (c : LiveCounter) :
    (s.published.map c.of).Pairwise (· ≤ ·)
      ∧ ∀ action t, run.step s action = some t →
        t.published = s.published
          ∨ ∃ sum, t.published = s.published ++ [sum]
            ∧ c.of sum ≤ ∑ i, c.recordedBy i actions
            ∧ ((∀ i, ∃ live, .snapshot (some s.phase) live ∈ (s.links i).up.received) →
              c.of sum = ∑ i, c.recordedBy i actions) := by
  obtain ⟨hin, hcounting⟩ := Machine.run_inv (P := fun u => Cluster.InStep u ∧ Counting c u)
    (fun h hstep => ⟨h.1.step hstep, h.2.step h.1 hstep⟩) ⟨.init run, .init run⟩ hrun
  have hcounted (i : Fin n) :
      c.of (s.links i).live.snapshot = c.recordedBy i actions := by
    have hzero : c.of (run.init.links i).live.snapshot = 0 := c.of_new _
    rw [run_counted c hrun i, hzero, Nat.zero_add]
  have hsum : c.of s.liveSum = ∑ i, c.of (s.links i).snapshot := c.of_sum _ _
  refine ⟨?_, fun action t hstep => (step_published hstep).imp_right fun hpublished =>
    ⟨s.liveSum, hpublished, ?_, fun hreported => ?_⟩⟩
  · have hpublished := hcounting.published
    rw [List.map_append] at hpublished
    exact (List.pairwise_append.mp hpublished).1
  · rw [hsum]
    exact Finset.sum_le_sum fun i _ => (hcounting.links i).snapshot_le.trans_eq (hcounted i)
  · rw [hsum]
    refine Finset.sum_congr rfl fun i _ => ?_
    obtain ⟨live, hlive⟩ := hreported i
    exact (hcounting.snapshot_eq hin hlive).trans (hcounted i)

/-- Two agents send one message each, of five bytes and of seven, and report it
when their loads are over. The coordinator publishes before the first report and
between the two. -/
def untilReported (first second : Fin 2) : List (ClusterAction 2 Unit) :=
  untilReady 2 ++ untilRunning 2 ++ [.startAll, .publish,
    .link first (.work 0 (.messageSent 5)), .link second (.work 0 (.messageSent 7)),
    .link first .endLoad, .link first .lastReport, .link first (.follow ""), .publish,
    .link second .endLoad, .link second .lastReport, .link second (.follow "")]

/-- What is published after both reports. -/
theorem counters_never_go_back_twoAgents :
    ∃ s t sum, Machine.run (testOn 2).step (testOn 2).init (untilReported 0 1) = some s
      ∧ (testOn 2).step s .publish = some t ∧ t.published = s.published ++ [sum]
      ∧ s.published.map LiveCounter.bytesSent.of = [0, 5] ∧ LiveCounter.bytesSent.of sum = 12 := by
  obtain ⟨s, t, hrun, hstep, hold, hnew, hreported⟩ :
      ∃ s t, Machine.run (testOn 2).step (testOn 2).init (untilReported 0 1) = some s
        ∧ (testOn 2).step s .publish = some t
        ∧ s.published.map LiveCounter.bytesSent.of = [0, 5] ∧ t.published.length = 3
        ∧ ∀ i, ∃ live, .snapshot (some s.phase) live ∈ (s.links i).up.received := by
    have hrun : Machine.run (testOn 2).step (testOn 2).init (untilReported 0 1) = some _ := rfl
    refine ⟨_, _, hrun, rfl, by decide, rfl, fun i => ?_⟩
    fin_cases i
    · exact ⟨_, List.mem_append_right _ List.mem_cons_self⟩
    · exact ⟨_, List.mem_append_right _ List.mem_cons_self⟩
  rcases (counters_never_go_back hrun .bytesSent).2 .publish t hstep with
    hsame | ⟨sum, hpublished, -, hall⟩
  · have hlength := congrArg List.length hold
    rw [List.length_map, ← hsame, hnew] at hlength
    cases hlength
  · have hcounted : ∑ i, LiveCounter.bytesSent.recordedBy i (untilReported 0 1) = 12 := by decide
    exact ⟨s, t, sum, hrun, hstep, hpublished, hold, (hall hreported).trans hcounted⟩

end ClusterRun

end WsBlast
