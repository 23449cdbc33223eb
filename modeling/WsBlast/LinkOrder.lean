import WsBlast.Cluster

/-!
# The two ends of a link keep in step

Neither prepare nor start says on the wire which phase it is for, and neither
does ready or the result. The order of the messages does. The coordinator
sends prepare, start, prepare, start, …, and the agent answers each in turn, so
the messages of each direction can be numbered: prepare and ready of phase `p`
are `2 * p`, start and result `2 * p + 1`.

`LinkAt` says how many of each were sent, and where the two ends then are: the
coordinator never sends a number before it has heard the one before it, and
the agent never answers one that it has not heard. Every step of a link keeps
it (`LinkAt.step`), whatever else is in flight and wherever the link fails, so
what an end hears next is the answer it waits for, for the phase it is in.

Numbers are assigned to the messages of the model by their kind and the phase
they were sent for. A report or a failure has none, since it may come between
any two. The numbers in flight of one direction are consecutive and increase,
so it is enough to know how many were sent and how many were heard.
-/

namespace WsBlast

variable {W : Type}

namespace ControlMessage

/-! ## Numbers

The number of a message, and where the two ends are by the numbers they have
sent and heard. -/

/-- The number of a message to the agent. -/
def downNumber : ControlMessage W → Option ℕ
  | prepare phase => some (2 * phase)
  | start phase => some (2 * phase + 1)
  | _ => none

/-- The number of a message to the coordinator. -/
def upNumber : ControlMessage W → Option ℕ
  | ready phase => some (2 * phase)
  | result phase _ => some (2 * phase + 1)
  | _ => none

theorem downNumber_even {m : ControlMessage W} {p : ℕ} (h : m.downNumber = some (2 * p)) :
    m = prepare p := by
  cases m with
  | prepare phase => exact congrArg prepare (by simpa [downNumber] using h)
  | start phase => exact absurd (Option.some.inj h) (by omega)
  | _ => exact absurd h nofun

theorem upNumber_even {m : ControlMessage W} {p : ℕ} (h : m.upNumber = some (2 * p)) :
    m = ready p := by
  cases m with
  | ready phase => exact congrArg ready (by simpa [upNumber] using h)
  | result phase wire => exact absurd (Option.some.inj h) (by omega)
  | _ => exact absurd h nofun

end ControlMessage

open ControlMessage

/-- Where the coordinator is with an agent in a phase, by the numbers it sent
and heard. An agent that failed may not have been sent the last of them. -/
def HoldAt (phase sent heard : ℕ) : Hold W → Prop
  | .absent => sent ≤ 2 * phase + 2
  | .held => sent = 2 * phase ∧ heard = 2 * phase
  | .preparing => sent = 2 * phase ∧ heard = 2 * phase
  | .awaiting => sent = 2 * phase + 1 ∧ heard = 2 * phase
  | .prepared none => sent = 2 * phase + 1 ∧ heard = 2 * phase + 1
  | .prepared (some _) => sent ≤ 2 * phase + 1
  | .starting => sent = 2 * phase + 1 ∧ heard = 2 * phase + 1
  | .started none => sent = 2 * phase + 2 ∧ heard = 2 * phase + 1
  | .started (some _) => sent ≤ 2 * phase + 2 ∧ heard = 2 * phase + 1
  | .following _ => sent = 2 * phase + 2 ∧ heard = 2 * phase + 1
  | .followed (.ok _) => sent = 2 * phase + 2 ∧ heard = 2 * phase + 2
  | .followed (.error _) => sent ≤ 2 * phase + 2

/-- Where the agent is, by the numbers it got and answered. -/
def AgentAt (got answered : ℕ) : AgentStage → Prop
  | .idle => ∃ phase, got = 2 * phase ∧ answered = 2 * phase
  | .preparing phase => got = 2 * phase + 1 ∧ answered = 2 * phase
  | .waiting phase => got = 2 * phase + 1 ∧ answered = 2 * phase + 1
  | .running phase => got = 2 * phase + 2 ∧ answered = 2 * phase + 1
  | .ending phase => got = 2 * phase + 2 ∧ answered = 2 * phase + 1
  | .reporting phase => got = 2 * phase + 2 ∧ answered = 2 * phase + 1
  | .abandoned phase => got = 2 * phase + 2 ∧ answered = 2 * phase + 1
  | .gone => answered ≤ got

/-- The coordinator sent the first `sent` numbers in this phase, and the agent
answered with the first `answered`. -/
structure LinkAt (phase sent answered : ℕ) (link : AgentLink W) : Prop where
  down : link.down.Carries downNumber sent
  up : link.up.Carries upNumber answered
  hold : HoldAt phase sent (link.up.count upNumber) link.hold
  agent : AgentAt (link.down.count downNumber) answered link.agent
  /-- Nothing is sent before the number before it was answered. -/
  in_turn : sent ≤ link.up.count upNumber + 1
  /-- An agent starts the load of a phase when it has heard start. -/
  loads : ∀ p ∈ link.loads, .start p ∈ link.down.received
  /-- It sends one result for a phase. -/
  results : link.results.Pairwise fun r r' => r.1 < r'.1
  results_le : ∀ r ∈ link.results, 2 * r.1 + 2 ≤ answered
  logged : ∀ p wire, .result p wire ∈ link.up.all → (p, wire) ∈ link.results
  /-- The result that the task of the agent ended with is one of them. -/
  followed : ∀ wire, link.hold = .followed (.ok wire) → (phase, wire) ∈ link.results

namespace LinkAt

variable {phase phase' sent answered sent' : ℕ} {link link' : AgentLink W} {m : ControlMessage W}
  {hold : Hold W} {down up : Fifo (ControlMessage W)}

/-! ## The coordinator's side

First what any end does to a queue, then each thing the coordinator does. -/

/-- The coordinator sends something, or nothing. -/
theorem write (h : LinkAt phase sent answered link) (hdown : down.Carries downNumber sent')
    (hreceived : down.received = link.down.received)
    (hhold : HoldAt phase' sent' (link.up.count upNumber) hold)
    (hturn : sent' ≤ link.up.count upNumber + 1)
    (hfollowed : ∀ wire, hold = .followed (.ok wire) → (phase', wire) ∈ link.results) :
    LinkAt phase' sent' answered { link with hold, down } where
  down := hdown
  up := h.up
  hold := hhold
  agent := by
    have hcount : down.count downNumber = link.down.count downNumber := by
      unfold Fifo.count
      rw [hreceived]
    show AgentAt (down.count downNumber) answered link.agent
    rw [hcount]
    exact h.agent
  in_turn := hturn
  loads p hp := by
    show _ ∈ down.received
    rw [hreceived]
    exact h.loads p hp
  results := h.results
  results_le := h.results_le
  logged := h.logged
  followed := hfollowed

/-- The coordinator makes something else of the agent, or goes to the next
phase. -/
theorem rehold (h : LinkAt phase sent answered link)
    (hhold : HoldAt phase' sent (link.up.count upNumber) hold)
    (hfollowed : ∀ wire, hold = .followed (.ok wire) → (phase', wire) ∈ link.results) :
    LinkAt phase' sent answered { link with hold } := h.write h.down rfl hhold h.in_turn hfollowed

/-- It hears the next message. -/
theorem read (h : LinkAt phase sent answered link) (hreceive : link.up.receive = some (m, up))
    (hhold : HoldAt phase sent (up.count upNumber) hold)
    (hfollowed : ∀ wire, hold = .followed (.ok wire) → (phase, wire) ∈ link.results) :
    LinkAt phase sent answered { link with up, hold } where
  down := h.down
  up := h.up.receive hreceive
  hold := hhold
  agent := h.agent
  in_turn := h.in_turn.trans (Nat.succ_le_succ (Fifo.count_le_of_receive hreceive))
  loads := h.loads
  results := h.results
  results_le := h.results_le
  logged p wire hresult := by
    refine h.logged p wire ?_
    rw [← Fifo.all_receive hreceive]
    exact hresult
  followed := hfollowed

/-- Either end may drop the link. -/
theorem hangUp (h : LinkAt phase sent answered link) : LinkAt phase sent answered link.hangUp where
  down := h.down.close
  up := h.up.close
  hold := h.hold
  agent := h.agent
  in_turn := h.in_turn
  loads := h.loads
  results := h.results
  results_le := h.results_le
  logged := h.logged
  followed := h.followed

/-- The counters are no part of it. -/
theorem snapshot (h : LinkAt phase sent answered link) (live : LiveSnapshot) :
    LinkAt phase sent answered { link with snapshot := live } :=
  ⟨h.down, h.up, h.hold, h.agent, h.in_turn, h.loads, h.results, h.results_le, h.logged,
    h.followed⟩

theorem work (h : LinkAt phase sent answered link) (shard : ℕ) (record : Record) :
    LinkAt phase sent answered
      { link with live := link.live.update shard record.onShard } :=
  ⟨h.down, h.up, h.hold, h.agent, h.in_turn, h.loads, h.results, h.results_le, h.logged,
    h.followed⟩

/-- An agent never answers what it has not heard. -/
theorem answered_le (h : LinkAt phase sent answered link) :
    answered ≤ link.down.count downNumber := by
  have hat := h.agent
  cases hcase : link.agent with
  | idle =>
    rw [hcase] at hat
    obtain ⟨q, hgot, hanswered⟩ := hat
    rw [hgot, hanswered]
  | waiting q =>
    rw [hcase] at hat
    rw [hat.1, hat.2]
  | gone =>
    rw [hcase] at hat
    exact hat
  | _ =>
    rw [hcase] at hat
    rw [hat.1, hat.2]
    exact Nat.le_succ _

/-- An agent that was heard to be ready has got its share. -/
theorem ready_received (h : LinkAt phase sent answered link)
    (hheard : 2 * phase + 1 ≤ link.up.count upNumber) :
    .prepare phase ∈ link.down.received ∧ .ready phase ∈ link.up.received := by
  have hgot : 2 * phase < link.down.count downNumber := by
    have hup := h.up.count_le
    have hanswered := h.answered_le
    omega
  obtain ⟨share, hshare, hnumber⟩ := h.down.exists_received hgot
  obtain ⟨answer, hanswer, hnumber'⟩ := h.up.exists_received hheard
  rw [downNumber_even hnumber] at hshare
  rw [upNumber_even hnumber'] at hanswer
  exact ⟨hshare, hanswer⟩

theorem sent_le (h : LinkAt phase sent answered link) : sent ≤ 2 * phase + 2 := by
  have hhold := h.hold
  cases hcase : link.hold with
  | prepared failure =>
    rw [hcase] at hhold
    cases failure <;> simp only [HoldAt] at hhold <;> omega
  | started failure =>
    rw [hcase] at hhold
    cases failure <;> simp only [HoldAt] at hhold <;> omega
  | followed outcome =>
    rw [hcase] at hhold
    cases outcome <;> simp only [HoldAt] at hhold <;> omega
  | _ =>
    rw [hcase] at hhold
    simp only [HoldAt] at hhold
    omega

/-- The task of an agent ends without a result. -/
theorem dropped (h : LinkAt phase sent answered link) (reason : String) :
    LinkAt phase sent answered (link.dropped reason) :=
  h.hangUp.rehold h.sent_le nofun

/-- It sends the next number. -/
theorem tellNext (h : LinkAt phase sent answered link) (hm : m.downNumber = some sent)
    (hheard : link.up.count upNumber = sent)
    (hhold : HoldAt phase (sent + 1) (link.up.count upNumber) hold)
    (hfollowed : ∀ wire, hold = .followed (.ok wire) → (phase, wire) ∈ link.results) :
    LinkAt phase (sent + 1) answered { link.tell m with hold } :=
  h.write (h.down.send_next hm) Fifo.received_send hhold (by rw [hheard]) hfollowed

/-- It sends something between two numbers. -/
theorem tellOther (h : LinkAt phase sent answered link) (hm : m.downNumber = none)
    (hhold : HoldAt phase sent (link.up.count upNumber) hold)
    (hfollowed : ∀ wire, hold = .followed (.ok wire) → (phase, wire) ∈ link.results) :
    LinkAt phase sent answered { link.tell m with hold } :=
  h.write (h.down.send_other hm) Fifo.received_send hhold h.in_turn hfollowed

/-- A send that fails may get through all the same. -/
theorem tellFailed (h : LinkAt phase sent answered link) {err : String} (through : Bool)
    (hm : m.downNumber = some sent) (hheard : link.up.count upNumber = sent)
    (hhold : HoldAt phase (sent + 1) (link.up.count upNumber) hold)
    (hhold' : HoldAt phase sent (link.up.count upNumber) hold)
    (hfollowed : ∀ wire, hold = .followed (.ok wire) → (phase, wire) ∈ link.results) :
    ∃ sent', LinkAt phase sent' answered { link.tellOr through (some err) m with hold } := by
  cases through with
  | true => exact ⟨sent + 1, h.tellNext hm hheard hhold hfollowed⟩
  | false => exact ⟨sent, h.rehold hhold' hfollowed⟩

/-- What it makes of an answer to prepare. -/
theorem hearReady (h : LinkAt phase sent answered link) (hcase : link.hold = .awaiting)
    (hreceive : link.up.receive = some (m, up)) :
    LinkAt phase sent answered
      { link with up, hold := .prepared (AgentLink.answerFailure m) } := by
  have hat := h.hold
  rw [hcase] at hat
  refine h.read hreceive ?_ nofun
  cases m with
  | ready p =>
    obtain ⟨hnumber, hcount⟩ := h.up.eq_count hreceive rfl
    refine ⟨hat.1, ?_⟩
    rw [hcount, hnumber, hat.2]
  | _ => exact hat.1.le

/-- What it makes of a message of an agent that it follows: the next number is
the result of this phase. -/
theorem followMessage (h : LinkAt phase sent answered link) {stopped : Bool}
    (hcase : link.hold = .following stopped) (hreceive : link.up.receive = some (m, up)) :
    LinkAt phase sent answered (AgentLink.followMessage { link with up } m) := by
  have hat := h.hold
  rw [hcase] at hat
  have hother (hm : m.upNumber = none) : LinkAt phase sent answered { link with up } := by
    have hread : LinkAt phase sent answered { link with up, hold := .following stopped } := by
      refine h.read hreceive ?_ nofun
      rw [HoldAt, Fifo.count_receive_other hreceive hm]
      exact hat
    rwa [← hcase] at hread
  obtain ⟨hsent, hheard⟩ : sent = 2 * phase + 2 ∧ link.up.count upNumber = 2 * phase + 1 := hat
  cases m with
  | snapshot last live => exact (hother rfl).snapshot live
  | capture => exact hother rfl
  | result p wire =>
    obtain ⟨hnumber, hcount⟩ := h.up.eq_count hreceive rfl
    obtain rfl : p = phase := by omega
    refine h.read hreceive ⟨hsent, ?_⟩ fun wire' hwire => ?_
    · rw [hcount]
    · obtain rfl : wire = wire' := by simpa using hwire
      exact h.logged p wire (Fifo.mem_all_of_receive hreceive)
  | ready p =>
    have hnumber := (h.up.eq_count hreceive rfl).1
    omega
  | _ => exact (hother rfl).dropped _

/-- **A step of the coordinator** keeps the ends in step. -/
theorem coordinatorMove (h : LinkAt phase sent answered link)
    (hmove : link.CoordinatorMove phase link') :
    ∃ sent', LinkAt phase sent' answered link' := by
  have hat := h.hold
  cases hmove with
  | prepare through failure hcase =>
    rw [hcase] at hat
    have hm : (ControlMessage.prepare phase : ControlMessage W).downNumber = some sent := by
      rw [hat.1]
      rfl
    have hheard := hat.2.trans hat.1.symm
    cases failure with
    | none =>
      rw [AgentLink.tellOr_none]
      exact ⟨_, h.tellNext hm hheard ⟨by rw [hat.1], hat.2⟩ nofun⟩
    | some err =>
      have hlast : sent + 1 ≤ 2 * phase + 1 := by rw [hat.1]
      exact h.tellFailed through hm hheard hlast ((Nat.le_succ _).trans hlast) nofun
  | answer hcase hreceive => exact ⟨sent, h.hearReady hcase hreceive⟩
  | fail reason hcase =>
    have hlast : sent ≤ 2 * phase + 1 := by
      rcases hcase with hcase | hcase <;> rw [hcase] at hat
      · exact hat.1.le.trans (Nat.le_succ _)
      · exact hat.1.le
    exact ⟨sent, h.rehold hlast nofun⟩
  | start through failure hcase =>
    rw [hcase] at hat
    have hm : (ControlMessage.start phase : ControlMessage W).downNumber = some sent := by
      rw [hat.1]
      rfl
    have hheard := hat.2.trans hat.1.symm
    cases failure with
    | none =>
      rw [AgentLink.tellOr_none]
      exact ⟨_, h.tellNext hm hheard ⟨by rw [hat.1], hat.2⟩ nofun⟩
    | some err =>
      have hlast : sent + 1 ≤ 2 * phase + 2 := by rw [hat.1]
      exact h.tellFailed through hm hheard ⟨hlast, hat.2⟩ ⟨(Nat.le_succ _).trans hlast, hat.2⟩ nofun
  | message hcase hreceive => exact ⟨sent, h.followMessage hcase hreceive⟩
  | drop reason hcase => exact ⟨sent, h.dropped reason⟩
  | token value hcase => exact ⟨sent, h.tellOther rfl h.hold h.followed⟩
  | stop hcase =>
    rw [hcase] at hat
    exact ⟨sent, h.tellOther rfl hat nofun⟩

/-! ## The agent's side

Likewise for the agent, by what it sends: nothing that has a number, an answer
to prepare, a result. -/

/-- The agent goes. -/
theorem gone (h : LinkAt phase sent answered link) : LinkAt phase sent answered link.gone :=
  ⟨h.down.close, h.up.close, h.hold, h.answered_le, h.in_turn, h.loads, h.results, h.results_le,
    h.logged, h.followed⟩

variable {answered' : ℕ} {agent : AgentStage}

/-- It gets to another stage. -/
theorem restage (h : LinkAt phase sent answered link)
    (hagent : AgentAt (link.down.count downNumber) answered agent) :
    LinkAt phase sent answered { link with agent } :=
  ⟨h.down, h.up, h.hold, hagent, h.in_turn, h.loads, h.results, h.results_le, h.logged,
    h.followed⟩

/-- What it sent that is no result. -/
theorem logged_answer (h : LinkAt phase sent answered link) (hm : ∀ p wire, m ≠ .result p wire)
    {p : ℕ} {wire : W} (hresult : .result p wire ∈ (link.up.send m).all) :
    (p, wire) ∈ link.results := by
  rcases Fifo.mem_all_send hresult with hold | hnew
  · exact h.logged p wire hold
  · exact absurd hnew.symm (hm p wire)

/-- It sends something between two numbers. -/
theorem answerOther (h : LinkAt phase sent answered link) (hm : m.upNumber = none) :
    LinkAt phase sent answered (link.answer m) where
  down := h.down
  up := h.up.send_other hm
  hold := by
    show HoldAt phase sent ((link.up.send m).count upNumber) link.hold
    rw [Fifo.count_send]
    exact h.hold
  agent := h.agent
  in_turn := by
    show sent ≤ (link.up.send m).count upNumber + 1
    rw [Fifo.count_send]
    exact h.in_turn
  loads := h.loads
  results := h.results
  results_le := h.results_le
  logged _ _ := h.logged_answer fun p wire heq => by
    rw [heq] at hm
    cases hm
  followed := h.followed

/-- It is ready. -/
theorem answerReady (h : LinkAt phase sent answered link) {p : ℕ}
    (hcase : link.agent = .preparing p) :
    LinkAt phase sent (answered + 1) { link.answer (.ready p) with agent := .waiting p } := by
  have hat := h.agent
  rw [hcase] at hat
  obtain ⟨hgot, hanswered⟩ : link.down.count downNumber = 2 * p + 1 ∧ answered = 2 * p := hat
  exact
    { down := h.down
      up := h.up.send_next (by rw [hanswered]; rfl)
      hold := by
        show HoldAt phase sent ((link.up.send _).count upNumber) link.hold
        rw [Fifo.count_send]
        exact h.hold
      agent := ⟨hgot, by rw [hanswered]⟩
      in_turn := by
        show sent ≤ (link.up.send _).count upNumber + 1
        rw [Fifo.count_send]
        exact h.in_turn
      loads := h.loads
      results := h.results
      results_le := fun r hr => (h.results_le r hr).trans (Nat.le_succ _)
      logged := fun _ _ => h.logged_answer fun _ _ heq => by cases heq
      followed := h.followed }

/-- It sends its result, which no earlier one is for the same phase. -/
theorem answerResult (h : LinkAt phase sent answered link) {p : ℕ}
    (hcase : link.agent = .reporting p) (wire : W) :
    LinkAt phase sent (answered + 1) { link.answer (.result p wire) with
      agent := .idle
      results := link.results ++ [(p, wire)] } := by
  have hat := h.agent
  rw [hcase] at hat
  obtain ⟨hgot, hanswered⟩ : link.down.count downNumber = 2 * p + 2 ∧ answered = 2 * p + 1 := hat
  exact
    { down := h.down
      up := h.up.send_next (by rw [hanswered]; rfl)
      hold := by
        show HoldAt phase sent ((link.up.send _).count upNumber) link.hold
        rw [Fifo.count_send]
        exact h.hold
      agent := ⟨p + 1, hgot, by rw [hanswered]; rfl⟩
      in_turn := by
        show sent ≤ (link.up.send _).count upNumber + 1
        rw [Fifo.count_send]
        exact h.in_turn
      loads := h.loads
      results := by
        rw [List.pairwise_append]
        refine ⟨h.results, List.pairwise_singleton _ _, fun r hr r' hr' => ?_⟩
        obtain rfl := List.mem_singleton.mp hr'
        -- results before it are of earlier phases
        have hle := h.results_le r hr
        show r.1 < p
        omega
      results_le := fun r hr => by
        rcases List.mem_append.mp hr with hold | hnew
        · exact (h.results_le r hold).trans (Nat.le_succ _)
        · rw [List.mem_singleton.mp hnew, hanswered]
      logged := fun p' wire' hresult => by
        rcases Fifo.mem_all_send hresult with hold | hnew
        · exact List.mem_append_left _ (h.logged p' wire' hold)
        · obtain ⟨rfl, rfl⟩ := ControlMessage.result.inj hnew
          exact List.mem_append_right _ (List.mem_singleton_self _)
      followed := fun wire' hwire => List.mem_append_left _ (h.followed wire' hwire) }

/-- It hears the next message. -/
theorem listen (h : LinkAt phase sent answered link)
    (hreceive : link.down.receive = some (m, down)) {loads : List ℕ}
    (hagent : AgentAt (down.count downNumber) answered agent)
    (hloads : ∀ p ∈ loads, p ∈ link.loads ∨ .start p = m) :
    LinkAt phase sent answered { link with down, agent, loads } where
  down := h.down.receive hreceive
  up := h.up
  hold := h.hold
  agent := hagent
  in_turn := h.in_turn
  loads p hp := by
    rw [Fifo.mem_received_receive hreceive]
    exact (hloads p hp).imp_left (h.loads p)
  results := h.results
  results_le := h.results_le
  logged := h.logged
  followed := h.followed

/-- It says why the test cannot go on. -/
theorem refused (h : LinkAt phase sent answered link) (message : String) :
    LinkAt phase sent answered (link.refused message) := (h.answerOther rfl).gone

/-- While an answer of it is due, nothing with a number is sent to it. -/
theorem no_number (h : LinkAt phase sent answered link)
    (hreceive : link.down.receive = some (m, down))
    (hdue : link.down.count downNumber = answered + 1) : m.downNumber = none := by
  cases hm : m.downNumber with
  | none => rfl
  | some k =>
    obtain ⟨hk, hcount⟩ := h.down.eq_count hreceive hm
    have hsent := (h.down.receive hreceive).count_le
    have hheard := h.up.count_le
    have hturn := h.in_turn
    omega

/-- What it makes of the next message: the next number is for the phase that it
waits in. -/
theorem agentMessage (h : LinkAt phase sent answered link)
    (hreceive : link.down.receive = some (m, down)) :
    LinkAt phase sent answered (AgentLink.agentMessage { link with down } m) := by
  have hat := h.agent
  have hsame (hm : m.downNumber = none) : LinkAt phase sent answered { link with down } := by
    refine h.listen hreceive ?_ fun p => Or.inl
    rw [Fifo.count_receive_other hreceive hm]
    exact hat
  have hgone : LinkAt phase sent answered { link with down, agent := .gone } :=
    h.listen hreceive (h.answered_le.trans (Fifo.count_le_of_receive hreceive)) fun p => Or.inl
  unfold AgentLink.agentMessage
  dsimp only
  cases hcase : link.agent with
  | idle =>
    rw [hcase] at hat hsame
    obtain ⟨q, hgot, hanswered⟩ := hat
    cases m with
    | prepare p =>
      obtain ⟨hnumber, hcount⟩ := h.down.eq_count hreceive rfl
      obtain rfl : p = q := by omega
      exact h.listen hreceive ⟨hcount, hanswered⟩ fun p => Or.inl
    | token value => exact hsame rfl
    | stop => exact hgone.gone
    | _ => exact hgone.refused _
  | waiting q =>
    rw [hcase] at hat hsame
    obtain ⟨hgot, hanswered⟩ : link.down.count downNumber = 2 * q + 1 ∧ answered = 2 * q + 1 := hat
    cases m with
    | start p =>
      obtain ⟨hnumber, hcount⟩ := h.down.eq_count hreceive rfl
      obtain rfl : p = q := by omega
      refine h.listen hreceive ⟨hcount, hanswered⟩ fun p' hp' => ?_
      rw [List.mem_append, List.mem_singleton] at hp'
      exact hp'.imp_right (congrArg start)
    | token value => exact hsame rfl
    | stop => exact hgone.gone
    | _ => exact hgone.refused _
  | gone => exact hgone
  -- an answer is due in every other stage
  | _ =>
    rw [hcase] at hat hsame
    exact hsame (h.no_number hreceive (hat.1.trans (congrArg (· + 1) hat.2.symm)))

/-- **A step of the agent** keeps the ends in step. -/
theorem agentMove (h : LinkAt phase sent answered link) (hmove : link.AgentMove link') :
    ∃ answered', LinkAt phase sent answered' link' := by
  have hat := h.agent
  cases hmove with
  | hear hreceive => exact ⟨answered, h.agentMessage hreceive⟩
  | ready hcase => exact ⟨answered + 1, h.answerReady hcase⟩
  | work shard record hcase => exact ⟨answered, h.work shard record⟩
  | report hcase => exact ⟨answered, h.answerOther rfl⟩
  | forward => exact ⟨answered, h.answerOther rfl⟩
  | endLoad hcase =>
    rw [hcase] at hat
    exact ⟨answered, h.restage hat⟩
  | abandon hcase =>
    rw [hcase] at hat
    exact ⟨answered, h.restage hat⟩
  | lastReport hcase =>
    rw [hcase] at hat
    exact ⟨answered, (h.answerOther rfl).restage hat⟩
  | result wire hcase => exact ⟨answered + 1, h.answerResult hcase wire⟩
  | refuse message => exact ⟨answered, h.refused message⟩
  | leave => exact ⟨answered, h.gone⟩

/-- The link fails. -/
theorem cut (h : LinkAt phase sent answered link) (keptDown keptUp : ℕ) :
    LinkAt phase sent answered
      { link with down := link.down.cut keptDown, up := link.up.cut keptUp } where
  down := h.down.cut keptDown
  up := h.up.cut keptUp
  hold := h.hold
  agent := h.agent
  in_turn := h.in_turn
  loads := h.loads
  results := h.results
  results_le := h.results_le
  logged p wire hresult := h.logged p wire (Fifo.mem_all_cut hresult)
  followed := h.followed

variable {agentTimeout : String} {cancelled : Bool} {action : LinkAction W}

/-- **Every step of a link** keeps its ends in step. -/
theorem step (h : LinkAt phase sent answered link)
    (hstep : link.step agentTimeout phase cancelled action = some link') :
    ∃ sent' answered', LinkAt phase sent' answered' link' := by
  rcases AgentLink.step_cases hstep with ⟨keptDown, keptUp, rfl⟩ | hmove | hmove
  · exact ⟨sent, answered, h.cut keptDown keptUp⟩
  · obtain ⟨answered', h'⟩ := h.agentMove hmove
    exact ⟨sent, answered', h'⟩
  · obtain ⟨sent', h'⟩ := h.coordinatorMove hmove
    exact ⟨sent', answered, h'⟩

end LinkAt

end WsBlast
