import WsBlast.LinkOrder

/-!
# The start barrier

What holds in any order of the steps of a coordinator and its agents.
`Cluster.InStep` is what every step keeps: the ends of every link are in step
(`LinkAt`), the coordinator treats every link as its stage says, nobody was
started in a phase before its barrier was passed, and every result that was
merged is one that its agent sent for that phase.

From it follow the promises of the barrier: a load only starts after start,
which is only sent when every agent that is left is ready; an agent that is
lost is sent nothing more that would make it run; and a phase is merged from
one result of each agent, which is of that phase.

The first barrier should also keep a run that is stopped from starting
anything. It does so unless the last answer and the stop are both there when
the coordinator looks: then it may go on as if the run was not stopped.

Starting together is what a distributed test needs and a network does not give.
The coordinator starts the agents of a phase only when each of them has
answered that it is prepared, or has failed; after that, it sends start to all
without waiting for any. An agent that failed is told nothing more that would
make it begin.
-/

namespace WsBlast

open ControlMessage

variable {n : ℕ} {W : Type}

/-! ## What a step leaves as it was

Frame lemmas for the steps of a link: which of the coordinator's records, the
agent's results and the messages in flight can change. -/

/-- The stage in which the coordinator treats a link like this. -/
def Hold.During (stage : ClusterStage) : Hold W → Prop
  | .absent => True
  | .held => stage = .between
  | .preparing => stage = .barrier
  | .awaiting => stage = .barrier
  | .prepared _ => stage = .barrier
  | .starting => stage = .starting
  | .started _ => stage = .starting
  | .following _ => stage = .following
  | .followed _ => stage = .following

/-- The agent failed, or there is no link to it. -/
def Hold.Out : Hold W → Prop
  | .absent => True
  | .prepared (some _) => True
  | .started (some _) => True
  | .followed (.error _) => True
  | _ => False

namespace AgentLink

variable {phase : ℕ} {stage : ClusterStage} {link link' : AgentLink W} {m : ControlMessage W}

theorem agentMessage_kept (link : AgentLink W) (m : ControlMessage W) :
    (link.agentMessage m).hold = link.hold ∧ (link.agentMessage m).lost = link.lost
      ∧ (link.agentMessage m).results = link.results
      ∧ (link.agentMessage m).down.all = link.down.all
      ∧ (link.agentMessage m).up.received = link.up.received := by
  have hrefused (link : AgentLink W) (message : String) :
      (link.refused message).up.received = link.up.received := Fifo.received_send
  unfold agentMessage
  split
  · split <;> first | exact ⟨rfl, rfl, rfl, rfl, rfl⟩ | exact ⟨rfl, rfl, rfl, rfl, hrefused _ _⟩
  · split <;> first | exact ⟨rfl, rfl, rfl, rfl, rfl⟩ | exact ⟨rfl, rfl, rfl, rfl, hrefused _ _⟩
  · exact ⟨rfl, rfl, rfl, rfl, rfl⟩

theorem followMessage_kept (link : AgentLink W) (m : ControlMessage W) :
    (link.followMessage m).lost = link.lost ∧ (link.followMessage m).results = link.results
      ∧ (link.followMessage m).down.all = link.down.all
      ∧ (link.followMessage m).up.received = link.up.received := by
  cases m <;> exact ⟨rfl, rfl, rfl, rfl⟩

theorem AgentMove.hold_eq (h : link.AgentMove link') : link'.hold = link.hold := by
  cases h with
  | hear hreceive => exact (agentMessage_kept _ _).1
  | _ => rfl

/-- A step of a link is no loss for the run. -/
theorem lost_eq (h : link.AgentMove link' ∨ link.CoordinatorMove phase link') :
    link'.lost = link.lost := by
  rcases h with h | h
  · cases h with
    | hear hreceive => exact (agentMessage_kept _ _).2.1
    | _ => rfl
  · cases h with
    | message hcase hreceive => exact (followMessage_kept _ _).1
    | prepare through failure hcase | start through failure hcase =>
      unfold tellOr
      split <;> rfl
    | _ => rfl

/-- An agent never takes a result back. -/
theorem results_subset (h : link.AgentMove link' ∨ link.CoordinatorMove phase link') :
    link.results ⊆ link'.results := by
  rcases h with h | h
  · cases h with
    | hear hreceive =>
      rw [(agentMessage_kept _ _).2.2.1]
      exact List.Subset.refl _
    | result wire hcase => exact List.subset_append_left _ _
    | _ => exact List.Subset.refl _
  · cases h with
    | message hcase hreceive =>
      rw [(followMessage_kept _ _).2.1]
      exact List.Subset.refl _
    | prepare through failure hcase | start through failure hcase =>
      unfold tellOr
      split <;> exact List.Subset.refl _
    | _ => exact List.Subset.refl _

/-- An agent sends nothing to itself. -/
theorem AgentMove.mem_down (h : link.AgentMove link') (hm : m ∈ link'.down.all) :
    m ∈ link.down.all := by
  cases h with
  | hear hreceive =>
    rw [(agentMessage_kept _ _).2.2.2.1] at hm
    rwa [← Fifo.all_receive hreceive]
  | _ => exact hm

/-- What the coordinator has heard it has heard. -/
theorem received_subset (h : link.AgentMove link' ∨ link.CoordinatorMove phase link') :
    link.up.received ⊆ link'.up.received := by
  have hread {m : ControlMessage W} {up : Fifo (ControlMessage W)}
      (hreceive : link.up.receive = some (m, up)) : link.up.received ⊆ up.received :=
    fun _ hm => (Fifo.mem_received_receive hreceive).mpr (.inl hm)
  rcases h with h | h
  · cases h with
    | hear hreceive =>
      rw [(agentMessage_kept _ _).2.2.2.2]
      exact List.Subset.refl _
    | ready hcase | report hcase | forward | lastReport hcase | result wire hcase
    | refuse message =>
      exact (Fifo.received_send (c := link.up)).symm ▸ List.Subset.refl _
    | _ => exact List.Subset.refl _
  · cases h with
    | answer hcase hreceive => exact hread hreceive
    | message hcase hreceive =>
      rw [(followMessage_kept _ _).2.2.2]
      exact hread hreceive
    | prepare through failure hcase | start through failure hcase =>
      unfold tellOr
      split <;> exact List.Subset.refl _
    | _ => exact List.Subset.refl _

/-- What the coordinator sends that has a number. -/
theorem CoordinatorMove.mem_down (h : link.CoordinatorMove phase link') {k : ℕ}
    (hm : m ∈ link'.down.all) (hnumber : m.downNumber = some k) :
    m ∈ link.down.all ∨ m = .prepare phase ∧ link.hold = .preparing
      ∨ m = .start phase ∧ link.hold = .starting := by
  cases h with
  | prepare through failure hcase =>
    unfold tellOr at hm
    split at hm
    · exact (Fifo.mem_all_send hm).imp_right fun heq => .inl ⟨heq, hcase⟩
    · exact .inl hm
  | start through failure hcase =>
    unfold tellOr at hm
    split at hm
    · exact (Fifo.mem_all_send hm).imp_right fun heq => .inr ⟨heq, hcase⟩
    · exact .inl hm
  | message hcase hreceive =>
    rw [(followMessage_kept _ _).2.2.1] at hm
    exact .inl hm
  | token value hcase =>
    refine .inl ((Fifo.mem_all_send hm).resolve_right ?_)
    rintro rfl
    cases hnumber
  | stop hcase =>
    refine .inl ((Fifo.mem_all_send hm).resolve_right ?_)
    rintro rfl
    cases hnumber
  | _ => exact .inl hm

/-- It does not drop a link before the stage is over. -/
theorem CoordinatorMove.kept (h : link.CoordinatorMove phase link') : link'.hold ≠ .absent := by
  cases h with
  | prepare through failure hcase => cases failure <;> nofun
  | @message m up stopped hcase hreceive =>
    cases m with
    | snapshot last live | capture => exact fun habsent => by cases hcase.symm.trans habsent
    | _ => nofun
  | token value hcase => exact fun habsent => by cases hcase.symm.trans habsent
  | _ => nofun

/-- The coordinator treats a link as its stage says, all through the stage. -/
theorem CoordinatorMove.during (h : link.CoordinatorMove phase link')
    (hduring : link.hold.During stage) : link'.hold.During stage := by
  cases h with
  | prepare through failure hcase =>
    rw [hcase] at hduring
    cases failure <;> exact hduring
  | answer hcase hreceive =>
    rw [hcase] at hduring
    exact hduring
  | fail reason hcase =>
    rcases hcase with hcase | hcase <;> rw [hcase] at hduring <;> exact hduring
  | start through failure hcase =>
    rw [hcase] at hduring
    exact hduring
  | @message m up stopped hcase hreceive =>
    cases m with
    | snapshot last live => exact hduring
    | capture => exact hduring
    | _ => rw [hcase] at hduring; exact hduring
  | drop reason hcase =>
    rw [hcase] at hduring
    exact hduring
  | token value hcase => exact hduring
  | stop hcase =>
    rw [hcase] at hduring
    exact hduring

/-- It takes no step with an agent that failed. -/
theorem CoordinatorMove.not_out (h : link.CoordinatorMove phase link') : ¬link.hold.Out := by
  intro hout
  cases h with
  | fail reason hcase => rcases hcase with hcase | hcase <;> rw [hcase] at hout <;> exact hout
  | prepare _ _ hcase | answer hcase _ | start _ _ hcase | message hcase _ | drop _ hcase
  | token _ hcase | stop hcase => rw [hcase] at hout; exact hout

theorem CoordinatorMove.not_absent (h : link.CoordinatorMove phase link') :
    link.hold ≠ .absent := fun habsent => h.not_out (by rw [habsent]; trivial)

/-- A step that tells an agent to do nothing new. -/
structure Silent (link link' : AgentLink W) : Prop where
  absent : link.hold = .absent → link'.hold = .absent
  out : link.hold.Out → link'.hold.Out
  lost : link'.lost = link.lost ∨ link'.hold = .absent
  results : link'.results = link.results
  down : ∀ m ∈ link'.down.all, m.downNumber ≠ none → m ∈ link.down.all
  received : link'.up.received = link.up.received

theorem Silent.results_subset (h : Silent link link') : link.results ⊆ link'.results := by
  rw [h.results]
  exact List.Subset.refl _

end AgentLink

/-! ## What becomes of a link when the coordinator goes on

The coordinator changes all links at once when it enters a phase, passes a
barrier, follows the agents or ends a phase. -/

namespace ClusterRun

open AgentLink

variable (run : ClusterRun n W) {phase sent answered : ℕ} {stage : ClusterStage}
  {link : AgentLink W}

theorem silent_enter (link : AgentLink W) : Silent link (enter link) := by
  unfold enter
  split
  · rename_i hcase
    exact ⟨fun habsent => absurd (hcase.symm.trans habsent) nofun,
      fun hout => by rw [hcase] at hout; exact hout.elim, .inl rfl, rfl, fun _ hm _ => hm, rfl⟩
  · exact ⟨id, id, .inl rfl, rfl, fun _ hm _ => hm, rfl⟩

theorem linkAt_enter (h : LinkAt phase sent answered link) :
    LinkAt phase sent answered (enter link) := by
  unfold enter
  split
  · rename_i hcase
    have hat := h.hold
    rw [hcase] at hat
    exact h.rehold hat nofun
  · exact h

theorem during_enter (h : link.hold.During .between) : (enter link).hold.During .barrier := by
  unfold enter
  split
  · rfl
  · rename_i hheld
    cases hcase : link.hold with
    | absent => trivial
    | held => exact absurd hcase hheld
    | _ => rw [hcase] at h; cases h

theorem silent_lose (reason : String) (link : AgentLink W) : Silent link (lose reason link) :=
  ⟨fun _ => rfl, fun _ => trivial, .inr rfl, rfl, fun _ hm _ => hm, rfl⟩

/-- Without a link there is nothing to send in the next phase. -/
theorem linkAt_absent (h : LinkAt phase sent answered link) (habsent : link.hold = .absent)
    {next : ℕ} (hnext : phase ≤ next) : LinkAt next sent answered link := by
  have hsent : sent ≤ 2 * next + 2 := by
    have hle := h.sent_le
    omega
  have habsents : LinkAt next sent answered { link with hold := .absent } := h.rehold hsent nofun
  rwa [← habsent] at habsents

theorem linkAt_lose (h : LinkAt phase sent answered link) {next : ℕ} (hnext : phase ≤ next)
    (reason : String) : LinkAt next sent answered (lose reason link) := by
  have hdropped : LinkAt phase sent answered { link.hangUp with hold := .absent } :=
    h.hangUp.rehold h.sent_le nofun
  obtain ⟨h1, h2, h3, h4, h5, h6, h7, h8, h9, h10⟩ := linkAt_absent hdropped rfl hnext
  exact ⟨h1, h2, h3, h4, h5, h6, h7, h8, h9, h10⟩

theorem silent_pass (link : AgentLink W) : Silent link (run.pass phase link) := by
  unfold pass
  split
  · exact silent_lose _ link
  · rename_i hcase
    exact ⟨fun habsent => absurd (hcase.symm.trans habsent) nofun,
      fun hout => by rw [hcase] at hout; exact hout.elim, .inl rfl, rfl, fun _ hm _ => hm, rfl⟩
  · exact ⟨id, id, .inl rfl, rfl, fun _ hm _ => hm, rfl⟩

theorem linkAt_pass (h : LinkAt phase sent answered link) :
    LinkAt phase sent answered (run.pass phase link) := by
  unfold pass
  split
  · exact linkAt_lose h le_rfl _
  · rename_i hcase
    have hat := h.hold
    rw [hcase] at hat
    exact h.rehold hat nofun
  · exact h

theorem during_pass (hanswered : ClusterRun.answered link = true) :
    (run.pass phase link).hold.During .starting := by
  unfold ClusterRun.answered at hanswered
  unfold pass
  cases hcase : link.hold with
  | absent =>
    dsimp only
    rw [hcase]
    trivial
  | prepared failure =>
    cases failure with
    | none => rfl
    | some reason => trivial
  | _ => simp [hcase] at hanswered

theorem silent_spawn (link : AgentLink W) : Silent link (spawn link) := by
  unfold spawn
  split
  · rename_i hcase
    exact ⟨fun habsent => absurd (hcase.symm.trans habsent) nofun,
      fun hout => by rw [hcase] at hout; exact hout.elim, .inl rfl, rfl, fun _ hm _ => hm, rfl⟩
  · rename_i reason hcase
    exact ⟨fun habsent => absurd (hcase.symm.trans habsent) nofun, fun _ => trivial, .inl rfl, rfl,
      fun _ hm _ => hm, rfl⟩
  · exact ⟨id, id, .inl rfl, rfl, fun _ hm _ => hm, rfl⟩

theorem linkAt_spawn (h : LinkAt phase sent answered link) :
    LinkAt phase sent answered (spawn link) := by
  unfold spawn
  split
  · rename_i hcase
    have hat := h.hold
    rw [hcase] at hat
    exact h.rehold hat nofun
  · exact h.dropped _
  · exact h

theorem during_spawn (hsent : startSent link = true) : (spawn link).hold.During .following := by
  unfold startSent at hsent
  unfold spawn
  cases hcase : link.hold with
  | absent =>
    dsimp only
    rw [hcase]
    trivial
  | started failure => cases failure <;> rfl
  | _ => simp [hcase] at hsent

/-- What the task of an agent ended with. -/
theorem decoded_eq_some {outcome : Except String AgentResult}
    (h : run.decoded link = some outcome) :
    ∃ received, link.hold = .followed received ∧ outcome = received.bind run.decode := by
  unfold decoded at h
  split at h
  · rename_i received hcase
    exact ⟨received, hcase, (Option.some.inj h).symm⟩
  · cases h

/-- A result that could be read. -/
theorem decoded_eq_ok {result : AgentResult} (h : run.decoded link = some (.ok result)) :
    ∃ wire, link.hold = .followed (.ok wire) ∧ run.decode wire = .ok result := by
  obtain ⟨received, hcase, hbind⟩ := run.decoded_eq_some h
  cases received with
  | ok wire => exact ⟨wire, hcase, hbind.symm⟩
  | error reason => cases hbind

theorem silent_takeBack (link : AgentLink W) : Silent link (run.takeBack phase link) := by
  unfold takeBack
  split
  · rename_i result hdecoded
    obtain ⟨wire, hcase, -⟩ := run.decoded_eq_ok hdecoded
    exact ⟨fun habsent => absurd (hcase.symm.trans habsent) nofun,
      fun hout => by rw [hcase] at hout; exact hout.elim, .inl rfl, rfl, fun _ hm _ => hm, rfl⟩
  · exact ⟨fun _ => rfl, fun _ => trivial, .inr rfl, rfl, fun _ hm _ => hm, rfl⟩
  · exact ⟨id, id, .inl rfl, rfl, fun _ hm _ => hm, rfl⟩

theorem not_followed_of_decoded (hjoined : joined link = true) (h : run.decoded link = none) :
    link.hold = .absent := by
  unfold joined at hjoined
  unfold decoded at h
  cases hcase : link.hold with
  | absent => rfl
  | followed outcome => simp [hcase] at h
  | _ => simp [hcase] at hjoined

/-- The links that are taken back are those of the next phase. -/
theorem linkAt_takeBack (h : LinkAt phase sent answered link) (hjoined : joined link = true) :
    LinkAt (phase + 1) sent answered (run.takeBack phase link) := by
  have hat := h.hold
  unfold takeBack
  split
  · rename_i result hdecoded
    obtain ⟨wire, hcase, -⟩ := run.decoded_eq_ok hdecoded
    rw [hcase] at hat
    exact h.rehold hat nofun
  · exact (linkAt_lose h (Nat.le_succ phase) _).snapshot _
  · rename_i hdecoded
    exact linkAt_absent h (run.not_followed_of_decoded hjoined hdecoded) (Nat.le_succ phase)

theorem during_takeBack (hjoined : joined link = true) :
    (run.takeBack phase link).hold.During .between := by
  unfold takeBack
  split
  · rfl
  · trivial
  · rename_i hdecoded
    rw [run.not_followed_of_decoded hjoined hdecoded]
    trivial

theorem silent_close (link : AgentLink W) :
    Silent link { link.hangUp with hold := .absent } :=
  ⟨fun _ => rfl, fun _ => trivial, .inr rfl, rfl, fun _ hm _ => hm, rfl⟩

/-- A link of a session that is closed. -/
theorem linkAt_close (h : LinkAt phase sent answered link) :
    LinkAt phase sent answered { link.hangUp with hold := .absent } :=
  h.hangUp.rehold h.sent_le nofun

theorem silent_stop (link : AgentLink W) : Silent link (link.tell .stop) := by
  refine ⟨id, id, .inl rfl, rfl, fun m hm hnumber => (Fifo.mem_all_send hm).resolve_right ?_, rfl⟩
  rintro rfl
  exact hnumber rfl

theorem silent_stopAll {s : Cluster n W} (stopped : Fin n → Bool) (i : Fin n) :
    Silent (s.links i) ((s.stopAll stopped).links i) := by
  unfold Cluster.stopAll
  dsimp only
  split
  · exact silent_stop _
  · exact ⟨id, id, .inl rfl, rfl, fun _ hm _ => hm, rfl⟩

/-- What a step of the run is to one link. -/
theorem Move.link_cases {run : ClusterRun n W} {s t : Cluster n W} (h : run.Move s t) (i : Fin n) :
    Silent (s.links i) (t.links i)
      ∨ ∃ action, (s.links i).step run.agentTimeout s.phase s.cancelled action
          = some (t.links i) := by
  have hsame : Silent (s.links i) (s.links i) := ⟨id, id, .inl rfl, rfl, fun _ hm _ => hm, rfl⟩
  cases h with
  | cancel => exact .inl hsame
  | enter hstage => exact .inl (silent_enter _)
  | close failure => exact .inl (silent_close _)
  | stop stopped failure hstage =>
    obtain ⟨-, -, -, hresults, hdown, hreceived⟩ := silent_stopAll stopped i (s := s)
    exact .inl ⟨fun _ => rfl, fun _ => trivial, .inr rfl, hresults, hdown, hreceived⟩
  | pass hstage hanswered hfirst => exact .inl (run.silent_pass _)
  | passNobody hstage hanswered hfirst habsent => exact .inl (run.silent_pass _)
  | spawn hstage hsent => exact .inl (silent_spawn _)
  | publish hstage => exact .inl hsame
  | collect hstage hjoined => exact .inl (run.silent_takeBack _)
  | @link j action link hstep =>
    by_cases hij : i = j
    · subst hij
      refine .inr ⟨action, ?_⟩
      rw [hstep]
      exact congrArg some (Function.update_self i link s.links).symm
    · refine .inl ?_
      show Silent (s.links i) (Function.update s.links j link i)
      rw [Function.update_of_ne hij]
      exact hsame

/-- The session never gets a link back. -/
theorem Move.absent {run : ClusterRun n W} {s t : Cluster n W} (h : run.Move s t) {i : Fin n}
    (habsent : (s.links i).hold = .absent) : (t.links i).hold = .absent := by
  rcases h.link_cases i with hquiet | ⟨action, hlink⟩
  · exact hquiet.absent habsent
  · rcases step_cases hlink with ⟨keptDown, keptUp, heq⟩ | hmove | hmove
    · rw [heq]
      exact habsent
    · rw [hmove.hold_eq]
      exact habsent
    · exact absurd habsent hmove.not_absent

end ClusterRun

/-! ## Every step keeps the run in step

The invariant for all links, with the stage of the coordinator. -/

/-- Start may have been sent in the phase. -/
def ClusterStage.Begun : ClusterStage → Prop
  | between => False
  | barrier => False
  | _ => True

/-- The coordinator and the agents are in step. -/
structure Cluster.InStep (s : Cluster n W) : Prop where
  during : ∀ i, (s.links i).hold.During s.stage
  links : ∀ i, ∃ sent answered, LinkAt s.phase sent answered (s.links i)
  /-- Nobody is started in a phase before its barrier was passed. -/
  started : ∀ i p, .start p ∈ (s.links i).down.all → p < s.phase ∨ p = s.phase ∧ s.stage.Begun
  /-- The session has no link to an agent that was lost. -/
  lost : ∀ i, (s.links i).lost ≠ none → (s.links i).hold = .absent

namespace Cluster.InStep

open AgentLink ClusterRun

variable {run : ClusterRun n W} {s t : Cluster n W} {action : ClusterAction n W}

theorem init (run : ClusterRun n W) : Cluster.InStep run.init where
  during _ := rfl
  links i := ⟨0, 0, Fifo.carries_empty, Fifo.carries_empty, ⟨rfl, rfl⟩, ⟨0, rfl, rfl⟩,
    Nat.zero_le _, fun _ hp => absurd hp List.not_mem_nil, List.Pairwise.nil,
    fun _ hr => absurd hr List.not_mem_nil, fun _ _ h => absurd h List.not_mem_nil,
    fun _ h => by cases h⟩
  started _ _ h := absurd h List.not_mem_nil
  lost _ h := absurd rfl h

/-- The coordinator goes on with all links, to another stage or phase. -/
theorem next (h : Cluster.InStep s) {links : Fin n → AgentLink W} {stage : ClusterStage} {phase : ℕ}
    (hquiet : ∀ i, Silent (s.links i) (links i))
    (hduring : ∀ i, (links i).hold.During stage)
    (hlinks : ∀ i sent answered, LinkAt s.phase sent answered (s.links i) →
      LinkAt phase sent answered (links i))
    (hphase : s.phase < phase ∨ s.phase = phase ∧ (s.stage.Begun → stage.Begun)) :
    Cluster.InStep { s with links, stage, phase } where
  during := hduring
  links i := by
    obtain ⟨sent, answered, hlink⟩ := h.links i
    exact ⟨sent, answered, hlinks i sent answered hlink⟩
  started i p hp := by
    have hbefore := h.started i p ((hquiet i).down _ hp nofun)
    show p < phase ∨ p = phase ∧ stage.Begun
    rcases hphase with hlt | ⟨rfl, hbegun⟩
    · left
      omega
    · exact hbefore.imp_right (And.imp_right hbegun)
  lost i hlost := by
    rcases (hquiet i).lost with hsame | habsent
    · rw [hsame] at hlost
      exact (hquiet i).absent (h.lost i hlost)
    · exact habsent

/-- One link takes a step. -/
theorem link (h : Cluster.InStep s) {i : Fin n} {link : AgentLink W} {action : LinkAction W}
    (hstep : (s.links i).step run.agentTimeout s.phase s.cancelled action = some link) :
    Cluster.InStep { s with links := Function.update s.links i link } where
  during := by
    refine (Function.forall_update_iff s.links fun _ link => link.hold.During s.stage).mpr
      ⟨?_, fun j _ => h.during j⟩
    rcases step_cases hstep with ⟨keptDown, keptUp, rfl⟩ | hmove | hmove
    · exact h.during i
    · rw [hmove.hold_eq]
      exact h.during i
    · exact hmove.during (h.during i)
  links := by
    refine (Function.forall_update_iff s.links fun _ link =>
      ∃ sent answered, LinkAt s.phase sent answered link).mpr ⟨?_, fun j _ => h.links j⟩
    obtain ⟨sent, answered, hlink⟩ := h.links i
    exact hlink.step hstep
  started := by
    refine (Function.forall_update_iff s.links fun _ link => ∀ p, .start p ∈ link.down.all →
      p < s.phase ∨ p = s.phase ∧ s.stage.Begun).mpr ⟨fun p hp => ?_, fun j _ => h.started j⟩
    rcases step_cases hstep with ⟨keptDown, keptUp, rfl⟩ | hmove | hmove
    · exact h.started i p (Fifo.mem_all_cut hp)
    · exact h.started i p (hmove.mem_down hp)
    · rcases hmove.mem_down hp rfl with hbefore | ⟨heq, -⟩ | ⟨heq, hcase⟩
      · exact h.started i p hbefore
      · cases heq
      -- the coordinator only sends start once the barrier was passed
      · have hstage := h.during i
        rw [hcase] at hstage
        refine .inr ⟨ControlMessage.start.inj heq, ?_⟩
        rw [show s.stage = .starting from hstage]
        trivial
  lost := by
    refine (Function.forall_update_iff s.links fun _ link =>
      link.lost ≠ none → link.hold = .absent).mpr ⟨fun hlost => ?_, fun j _ => h.lost j⟩
    rcases step_cases hstep with ⟨keptDown, keptUp, rfl⟩ | hmove | hmove
    · exact h.lost i hlost
    · rw [hmove.hold_eq]
      have hlost' : _ = (s.links i).lost := lost_eq (.inl hmove : _ ∨ CoordinatorMove _ s.phase _)
      rw [hlost'] at hlost
      exact h.lost i hlost
    · rw [lost_eq (.inr hmove)] at hlost
      exact absurd (h.lost i hlost) hmove.not_absent

/-- The session is closed. -/
theorem close (h : Cluster.InStep s) (failure : Option String) : Cluster.InStep (s.close failure) :=
  h.next (fun i => silent_close (s.links i)) (fun _ => trivial) (fun _ _ _ => linkAt_close)
    (.inr ⟨rfl, fun _ => trivial⟩)

/-- Stop gets through to some agents. -/
theorem stopAll (h : Cluster.InStep s) (stopped : Fin n → Bool) :
    Cluster.InStep (s.stopAll stopped) := by
  refine h.next (silent_stopAll stopped) (fun i => ?_) (fun i sent answered hlink => ?_)
    (.inr ⟨rfl, id⟩)
  · split <;> exact h.during i
  · split
    · exact hlink.tellOther rfl hlink.hold hlink.followed
    · exact hlink

/-- The phase is over. -/
theorem endPhase (h : Cluster.InStep s) {links : Fin n → AgentLink W} {parts : Fin n → AgentPart}
    {published : List LiveSnapshot} (hquiet : ∀ i, Silent (s.links i) (links i))
    (hduring : ∀ i, (links i).hold.During .between)
    (hlinks : ∀ i sent answered, LinkAt s.phase sent answered (s.links i) →
      LinkAt (s.phase + 1) sent answered (links i)) :
    Cluster.InStep (ClusterRun.endPhase { s with links, parts, published }) := by
  have hnext : Cluster.InStep { s with links, stage := .between, phase := s.phase + 1 } :=
    h.next hquiet hduring hlinks (.inl (Nat.lt_succ_self _))
  exact ⟨hnext.during, hnext.links, hnext.started, hnext.lost⟩

/-- **Every step** keeps the coordinator and the agents in step. -/
theorem step (h : Cluster.InStep s) (hstep : run.step s action = some t) : Cluster.InStep t := by
  cases step_move hstep with
  | cancel => exact ⟨h.during, h.links, h.started, h.lost⟩
  | enter hstage =>
    have hbetween := h.during
    rw [hstage] at hbetween
    refine h.next (fun i => silent_enter _) (fun i => during_enter (hbetween i))
      (fun i _ _ => linkAt_enter) (.inr ⟨rfl, ?_⟩)
    rw [hstage]
    exact id
  | close failure => exact h.close failure
  | stop stopped failure hstage => exact (h.stopAll stopped).close failure
  | pass hstage hanswered hfirst =>
    have hpassed := h.next (fun i => run.silent_pass (s.links i))
      (fun i => run.during_pass (hanswered i)) (fun i _ _ => run.linkAt_pass)
      (.inr ⟨rfl, fun _ => trivial⟩)
    exact ⟨hpassed.during, hpassed.links, hpassed.started, hpassed.lost⟩
  | passNobody hstage hanswered hfirst habsent =>
    refine h.endPhase (fun i => run.silent_pass _) (fun i => ?_) fun i _ _ hlink =>
      linkAt_absent (run.linkAt_pass hlink) (habsent i) (Nat.le_succ s.phase)
    rw [habsent i]
    trivial
  | spawn hstage hsent =>
    exact h.next (fun i => silent_spawn _) (fun i => during_spawn (hsent i))
      (fun i _ _ => linkAt_spawn) (.inr ⟨rfl, fun _ => trivial⟩)
  | publish hstage => exact ⟨h.during, h.links, h.started, h.lost⟩
  | collect hstage hjoined =>
    exact h.endPhase (fun i => run.silent_takeBack _) (fun i => run.during_takeBack (hjoined i))
      fun i _ _ hlink => run.linkAt_takeBack hlink (hjoined i)
  | link i hlink => exact h.link hlink

end Cluster.InStep

/-! ## What is merged

Results are collected while a phase runs and merged at its end. -/

/-- Every result that is merged is one that its agent sent for that phase. -/
structure ResultsSent (run : ClusterRun n W) (s : Cluster n W) : Prop where
  /-- Nobody is finished before the agents are followed to the end. -/
  unfinished : s.stage = .starting ∨ s.stage = .following →
    ∀ i result, s.parts i ≠ .finished result
  runs_lt : ∀ r ∈ s.runs, r.1 < s.phase
  runs_sorted : s.runs.Pairwise fun r r' => r.1 < r'.1
  sound : ∀ r ∈ s.runs, ∀ i result, r.2 i = .finished result →
    ∃ wire, (r.1, wire) ∈ (s.links i).results ∧ run.decode wire = .ok result

namespace ResultsSent

open AgentLink ClusterRun

variable {run : ClusterRun n W} {s t : Cluster n W} {action : ClusterAction n W}

theorem init (run : ClusterRun n W) : ResultsSent run run.init where
  unfinished h := by rcases h with h | h <;> cases h
  runs_lt _ h := absurd h List.not_mem_nil
  runs_sorted := .nil
  sound _ h := absurd h List.not_mem_nil

/-- The links take a step, or the coordinator does. -/
theorem next (h : ResultsSent run s) {links : Fin n → AgentLink W} {stage : ClusterStage}
    {parts : Fin n → AgentPart} (hresults : ∀ i, (s.links i).results ⊆ (links i).results)
    (hparts : stage = .starting ∨ stage = .following → ∀ i result, parts i ≠ .finished result) :
    ResultsSent run { s with links, stage, parts } where
  unfinished := hparts
  runs_lt := h.runs_lt
  runs_sorted := h.runs_sorted
  sound r hr i result hresult := by
    obtain ⟨wire, hwire, hdecode⟩ := h.sound r hr i result hresult
    exact ⟨wire, hresults i hwire, hdecode⟩

/-- nor when the session is closed, -/
theorem close (h : ResultsSent run s) (failure : Option String) :
    ResultsSent run (s.close failure) :=
  h.next (fun _ => List.Subset.refl _) fun hstage => by rcases hstage with h | h <;> cases h

/-- nor when it is stopped. -/
theorem stopAll (h : ResultsSent run s) (stopped : Fin n → Bool) :
    ResultsSent run (s.stopAll stopped) := by
  refine h.next (fun i => ?_) h.unfinished
  split <;> exact List.Subset.refl _

/-- The phase is over, with results of this phase. -/
theorem endPhase (h : ResultsSent run s) {links : Fin n → AgentLink W} {parts : Fin n → AgentPart}
    {published : List LiveSnapshot} (hresults : ∀ i, (links i).results = (s.links i).results)
    (hparts : ∀ i result, parts i = .finished result →
      ∃ wire, (s.phase, wire) ∈ (s.links i).results ∧ run.decode wire = .ok result) :
    ResultsSent run (ClusterRun.endPhase { s with links, parts, published }) where
  unfinished hstage := by rcases hstage with h | h <;> cases h
  runs_lt r hr := by
    show r.1 < s.phase + 1
    unfold ClusterRun.endPhase at hr
    dsimp only at hr
    split at hr
    · rcases List.mem_append.mp hr with hold | hnew
      · exact (h.runs_lt r hold).trans (Nat.lt_succ_self _)
      · rw [List.mem_singleton.mp hnew]
        exact Nat.lt_succ_self _
    · exact (h.runs_lt r hr).trans (Nat.lt_succ_self _)
  runs_sorted := by
    unfold ClusterRun.endPhase
    dsimp only
    split
    · rw [List.pairwise_append]
      refine ⟨h.runs_sorted, List.pairwise_singleton _ _, fun r hr r' hr' => ?_⟩
      rw [List.mem_singleton.mp hr']
      exact h.runs_lt r hr
    · exact h.runs_sorted
  sound r hr i result hresult := by
    show ∃ wire, (r.1, wire) ∈ (links i).results ∧ run.decode wire = .ok result
    rw [hresults i]
    unfold ClusterRun.endPhase at hr
    dsimp only at hr
    split at hr
    · rcases List.mem_append.mp hr with hold | hnew
      · exact h.sound r hold i result hresult
      · obtain rfl := List.mem_singleton.mp hnew
        exact hparts i result hresult
    · exact h.sound r hr i result hresult

/-- Who failed the barrier is not finished. -/
theorem barrierPart_ne (link : AgentLink W) (phase : ℕ) (result : AgentResult) :
    run.barrierPart phase link ≠ .finished result := by
  unfold barrierPart
  split <;> nofun

/-- **Every step** merges only what an agent sent. -/
theorem step (hin : Cluster.InStep s) (h : ResultsSent run s) (hstep : run.step s action = some t) :
    ResultsSent run t := by
  cases step_move hstep with
  | cancel => exact ⟨h.unfinished, h.runs_lt, h.runs_sorted, h.sound⟩
  | enter hstage =>
    exact h.next (fun i => (silent_enter _).results_subset) fun hstage => by
      rcases hstage with h | h <;> cases h
  | close failure => exact h.close failure
  | stop stopped failure hstage => exact (h.stopAll stopped).close failure
  | pass hstage hanswered hfirst =>
    exact h.next (fun i => (run.silent_pass _).results_subset) fun _ i result =>
      barrierPart_ne _ _ result
  | passNobody hstage hanswered hfirst habsent =>
    exact h.endPhase (fun i => (run.silent_pass _).results) fun i result hresult =>
      absurd hresult (barrierPart_ne _ _ result)
  | spawn hstage hsent =>
    exact h.next (fun i => (silent_spawn _).results_subset) fun _ => h.unfinished (.inl hstage)
  | publish hstage => exact ⟨h.unfinished, h.runs_lt, h.runs_sorted, h.sound⟩
  | collect hstage hjoined =>
    refine h.endPhase (fun i => (run.silent_takeBack _).results) fun i result hresult => ?_
    unfold partOf at hresult
    split at hresult
    · rename_i received hdecoded
      obtain rfl := AgentPart.finished.inj hresult
      obtain ⟨wire, hcase, hdecode⟩ := run.decoded_eq_ok hdecoded
      obtain ⟨sent, answered, hlink⟩ := hin.links i
      exact ⟨wire, hlink.followed wire hcase, hdecode⟩
    · cases hresult
    · exact absurd hresult (h.unfinished (.inr hstage) i result)
  | @link i action link hlink =>
    have hresults (j : Fin n) :
        (s.links j).results ⊆ (Function.update s.links i link j).results := by
      refine (Function.forall_update_iff s.links
        fun i link => (s.links i).results ⊆ link.results).mpr ⟨?_, fun j _ => List.Subset.refl _⟩ j
      rcases step_cases hlink with ⟨keptDown, keptUp, rfl⟩ | hmove
      · exact List.Subset.refl _
      · exact results_subset hmove
    exact h.next hresults h.unfinished

end ResultsSent

/-! ## An agent that failed

Two things are kept of an agent that was lost: it is sent nothing that would
make it run, and its reason is in the phase in which it was lost. -/

/-- The agent failed, and was sent nothing since that would make it run. -/
structure Frozen (before link : AgentLink W) : Prop where
  out : link.hold.Out
  down : ∀ m ∈ link.down.all, m.downNumber ≠ none → m ∈ before.down.all

namespace Frozen

open AgentLink ClusterRun

variable {run : ClusterRun n W} {s t : Cluster n W} {action : ClusterAction n W} {i : Fin n}
  {before : AgentLink W}

/-- Every step keeps it so. -/
theorem step (h : Frozen before (s.links i)) (hstep : run.step s action = some t) :
    Frozen before (t.links i) := by
  rcases (step_move hstep).link_cases i with hquiet | ⟨action, hlink⟩
  · exact ⟨hquiet.out h.out, fun m hm hnumber => h.down m (hquiet.down m hm hnumber) hnumber⟩
  · rcases step_cases hlink with ⟨keptDown, keptUp, heq⟩ | hmove | hmove
    · rw [heq]
      exact ⟨h.out, fun m hm => h.down m (Fifo.mem_all_cut hm)⟩
    · refine ⟨?_, fun m hm => h.down m (hmove.mem_down hm)⟩
      rw [hmove.hold_eq]
      exact h.out
    · exact absurd h.out hmove.not_out

/-- A run never makes an agent run that failed. -/
theorem run_frozen {rest : List (ClusterAction n W)} (hout : (s.links i).hold.Out)
    (hrun : Machine.run run.step s rest = some t) : Frozen (s.links i) (t.links i) :=
  Machine.run_inv (P := fun u => Frozen (s.links i) (u.links i)) (fun h hstep => h.step hstep)
    ⟨hout, fun _ hm _ => hm⟩ hrun

end Frozen

/-- An agent that was lost in a phase is lost in it wherever the phase is
merged. -/
structure LostIn (phase : ℕ) (i : Fin n) (reason : String) (s : Cluster n W) : Prop where
  runs : ∀ r ∈ s.runs, r.1 = phase → r.2 i = .lost reason
  parts : phase < s.phase ∨ phase = s.phase
    ∧ ((s.stage = .starting ∨ s.stage = .following) ∧ (s.links i).hold = .absent
        ∧ s.parts i = .lost reason
      ∨ ∃ failure, s.stage = .over failure)

namespace LostIn

open AgentLink ClusterRun

variable {run : ClusterRun n W} {s t : Cluster n W} {action : ClusterAction n W} {i : Fin n}
  {phase : ℕ} {reason : String}

/-- The end of a phase. -/
theorem endPhase (h : LostIn phase i reason s) {links : Fin n → AgentLink W}
    {parts : Fin n → AgentPart} {published : List LiveSnapshot}
    (hparts : phase = s.phase → parts i = .lost reason) :
    LostIn phase i reason (ClusterRun.endPhase { s with links, parts, published }) where
  runs r hr hphase := by
    unfold ClusterRun.endPhase at hr
    dsimp only at hr
    split at hr
    · rcases List.mem_append.mp hr with hold | hnew
      · exact h.runs r hold hphase
      · rw [List.mem_singleton.mp hnew] at hphase ⊢
        exact hparts hphase.symm
    · exact h.runs r hr hphase
  parts := by
    left
    show phase < s.phase + 1
    rcases h.parts with hlt | ⟨heq, -⟩ <;> omega

/-- Where an agent was lost in this phase, the barrier was passed. -/
theorem begun (h : LostIn phase i reason s) (hphase : phase = s.phase) : s.stage.Begun := by
  rcases h.parts with hlt | ⟨-, ⟨hstage | hstage, -⟩ | ⟨failure, hstage⟩⟩
  · omega
  · rw [hstage]
    trivial
  · rw [hstage]
    trivial
  · rw [hstage]
    trivial

/-- Every step leaves it lost there. -/
theorem step (h : LostIn phase i reason s) (hstep : run.step s action = some t) :
    LostIn phase i reason t := by
  have hmove := step_move hstep
  have habsent := fun habsent => hmove.absent (i := i) habsent
  cases hmove with
  | cancel => exact ⟨h.runs, h.parts⟩
  | enter hstage =>
    refine ⟨h.runs, .inl (h.parts.resolve_right fun hphase => ?_)⟩
    have hbegun := h.begun hphase.1
    rw [hstage] at hbegun
    exact hbegun
  | close failure => exact ⟨h.runs, h.parts.imp_right fun hphase => ⟨hphase.1, .inr ⟨_, rfl⟩⟩⟩
  | stop stopped failure hstage =>
    exact ⟨h.runs, h.parts.imp_right fun hphase => ⟨hphase.1, .inr ⟨_, rfl⟩⟩⟩
  | pass hstage hanswered hfirst =>
    refine ⟨h.runs, .inl (h.parts.resolve_right fun hphase => ?_)⟩
    have hbegun := h.begun hphase.1
    rw [hstage] at hbegun
    exact hbegun
  | passNobody hstage hanswered hfirst hnobody =>
    refine h.endPhase fun hphase => ?_
    have hbegun := h.begun hphase
    rw [hstage] at hbegun
    exact hbegun.elim
  | spawn hstage hsent =>
    refine ⟨h.runs, h.parts.imp_right fun hphase => ⟨hphase.1, ?_⟩⟩
    rcases hphase.2 with ⟨-, hhold, hpart⟩ | ⟨failure, hover⟩
    · exact .inl ⟨.inr rfl, habsent hhold, hpart⟩
    · cases hstage.symm.trans hover
  | publish hstage => exact ⟨h.runs, h.parts⟩
  | collect hstage hjoined =>
    refine h.endPhase fun hphase => ?_
    rcases h.parts with hlt | ⟨-, ⟨-, hhold, hpart⟩ | ⟨failure, hover⟩⟩
    · omega
    · have hnone : run.decoded (s.links i) = none := by
        unfold decoded
        rw [hhold]
      unfold partOf
      rw [hnone]
      exact hpart
    · cases hstage.symm.trans hover
  | link j hlink =>
    refine ⟨h.runs, h.parts.imp_right fun hphase => ⟨hphase.1, hphase.2.imp_left fun hlost => ?_⟩⟩
    exact ⟨hlost.1, habsent hlost.2.1, hlost.2.2⟩

/-- The end of the phase in which the agent is lost. -/
theorem of_endPhase (hruns : ∀ r ∈ s.runs, r.1 < s.phase) {links : Fin n → AgentLink W}
    {parts : Fin n → AgentPart} {published : List LiveSnapshot} (hpart : parts i = .lost reason) :
    LostIn s.phase i reason (ClusterRun.endPhase { s with links, parts, published }) where
  runs r hr hphase := by
    unfold ClusterRun.endPhase at hr
    dsimp only at hr
    split at hr
    · rcases List.mem_append.mp hr with hold | hnew
      · exact absurd hphase (hruns r hold).ne
      · rw [List.mem_singleton.mp hnew]
        exact hpart
    · exact absurd hphase (hruns r hr).ne
  parts := .inl (Nat.lt_succ_self s.phase)

/-- Who is lost in a barrier has it as his part of the phase. -/
theorem pass_lost {link : AgentLink W} (h : (run.pass phase link).lost ≠ link.lost) :
    ∃ reason, (run.pass phase link).lost = some reason
      ∧ (run.pass phase link).hold = .absent ∧ run.barrierPart phase link = .lost reason := by
  unfold ClusterRun.pass at h ⊢
  unfold barrierPart barrierFailure
  cases hcase : link.hold with
  | prepared failure =>
    cases failure with
    | some reason => exact ⟨_, rfl, rfl, rfl⟩
    | none => simp [hcase] at h
  | _ => simp [hcase] at h

/-- And so has who is lost while it runs. -/
theorem takeBack_lost {link : AgentLink W} (part : AgentPart)
    (h : (run.takeBack phase link).lost ≠ link.lost) :
    ∃ reason, (run.takeBack phase link).lost = some reason
      ∧ run.partOf phase link part = .lost reason := by
  unfold takeBack at h ⊢
  unfold partOf
  split at h
  · exact absurd rfl h
  · exact ⟨_, rfl, rfl⟩
  · exact absurd rfl h

/-- **An agent that a step records as lost** is lost in that phase. -/
theorem of_step (hsent : ResultsSent run s) (hstep : run.step s action = some t)
    (hlost : (t.links i).lost ≠ (s.links i).lost) :
    ∃ reason, (t.links i).lost = some reason ∧ LostIn s.phase i reason t := by
  have hbefore (r : ℕ × (Fin n → AgentPart)) (hr : r ∈ s.runs) (hphase : r.1 = s.phase) : False :=
    (hsent.runs_lt r hr).ne hphase
  cases step_move hstep with
  | cancel => exact absurd rfl hlost
  | enter hstage =>
    refine absurd ?_ hlost
    show (enter (s.links i)).lost = _
    unfold enter
    split <;> rfl
  | close failure => exact absurd rfl hlost
  | stop stopped failure hstage =>
    refine absurd ?_ hlost
    show (if _ then _ else _ : AgentLink W).lost = _
    split <;> rfl
  | pass hstage hanswered hfirst =>
    obtain ⟨reason, hreason, habsent, hpart⟩ := pass_lost hlost
    exact ⟨reason, hreason, fun r hr hphase => (hbefore r hr hphase).elim,
      .inr ⟨rfl, .inl ⟨.inl rfl, habsent, hpart⟩⟩⟩
  | passNobody hstage hanswered hfirst hnobody =>
    obtain ⟨reason, hreason, habsent, hpart⟩ := pass_lost hlost
    exact ⟨reason, hreason, of_endPhase hsent.runs_lt hpart⟩
  | spawn hstage hstarted =>
    refine absurd ?_ hlost
    show (spawn (s.links i)).lost = _
    unfold spawn
    split <;> rfl
  | publish hstage => exact absurd rfl hlost
  | collect hstage hjoined =>
    obtain ⟨reason, hreason, hpart⟩ := takeBack_lost (s.parts i) hlost
    exact ⟨reason, hreason, of_endPhase hsent.runs_lt hpart⟩
  | @link j action link hlink =>
    refine absurd ?_ hlost
    refine (Function.forall_update_iff s.links fun i link => link.lost = (s.links i).lost).mpr
      ⟨?_, fun _ _ => rfl⟩ i
    rcases step_cases hlink with ⟨keptDown, keptUp, rfl⟩ | hmove
    · rfl
    · exact lost_eq hmove

end LostIn

/-! ## The first barrier

Before the first barrier nobody was started, and who passes it is ready. -/

namespace ClusterRun

open AgentLink

variable {run : ClusterRun n W} {s t : Cluster n W} {action : ClusterAction n W}

/-- A step that puts start on a link. -/
theorem new_start (hin : Cluster.InStep s) (hstep : run.step s action = some t) {i : Fin n} {p : ℕ}
    (hnew : .start p ∈ (t.links i).down.all) (hold : .start p ∉ (s.links i).down.all) :
    p = s.phase ∧ s.stage = .starting := by
  rcases (step_move hstep).link_cases i with hquiet | ⟨action, hlink⟩
  · exact absurd (hquiet.down _ hnew nofun) hold
  · rcases step_cases hlink with ⟨keptDown, keptUp, heq⟩ | hmove | hmove
    · rw [heq] at hnew
      exact absurd (Fifo.mem_all_cut hnew) hold
    · exact absurd (hmove.mem_down hnew) hold
    · rcases hmove.mem_down hnew rfl with hbefore | ⟨heq, -⟩ | ⟨heq, hcase⟩
      · exact absurd hbefore hold
      · cases heq
      · have hstage := hin.during i
        rw [hcase] at hstage
        exact ⟨ControlMessage.start.inj heq, hstage⟩

end ClusterRun

namespace Cluster

/-- Some agent failed the barrier. -/
def barrierFailed (s : Cluster n W) : Prop :=
  ∃ i, ClusterRun.barrierFailure (s.links i) ≠ none

/-- Every agent that is left got its share of the phase, and answered that it
is ready. -/
def AllReady (s : Cluster n W) : Prop :=
  ∀ j, (s.links j).hold.present = true →
    .prepare s.phase ∈ (s.links j).down.received ∧ .ready s.phase ∈ (s.links j).up.received

/-- The first barrier will not be passed: an agent failed it, or the run is
stopped. -/
def Doomed (s : Cluster n W) : Prop :=
  s.phase = 0 ∧ (∀ i p, .start p ∉ (s.links i).down.all)
    ∧ (s.stage = .barrier ∧ (s.cancelled = true ∨ s.barrierFailed)
      ∨ ∃ failure, s.stage = .over failure)

end Cluster

/-- Start is only ever sent after every agent of the run was ready once. -/
def FirstReady (s : Cluster n W) : Prop :=
  (s.phase = 0 ∧ (s.stage = .between ∨ s.stage = .barrier) ∧ ∀ i, (s.links i).hold ≠ .absent)
    ∨ (∃ failure, s.stage = .over failure ∧ ∀ i p, .start p ∉ (s.links i).down.all)
    ∨ ∀ i, .ready 0 ∈ (s.links i).up.received

namespace FirstReady

open AgentLink ClusterRun

variable {run : ClusterRun n W} {s t : Cluster n W} {action : ClusterAction n W}

theorem init (run : ClusterRun n W) : FirstReady run.init :=
  .inl ⟨rfl, .inl rfl, fun _ => nofun⟩

/-- Before the first barrier is passed nobody was started. -/
theorem not_started (hin : Cluster.InStep s) (hphase : s.phase = 0)
    (hstage : s.stage = .between ∨ s.stage = .barrier) (i : Fin n) (p : ℕ) :
    .start p ∉ (s.links i).down.all := by
  intro hp
  rcases hin.started i p hp with hlt | ⟨-, hbegun⟩
  · omega
  · rcases hstage with hstage | hstage <;> rw [hstage] at hbegun <;> exact hbegun

/-- An agent that passes a barrier was heard to be ready. -/
theorem ready_of_answered (hin : Cluster.InStep s) {i : Fin n}
    (hpresent : (s.links i).hold ≠ .absent) (hanswered : answered (s.links i) = true)
    (hpassed : barrierFailure (s.links i) = none) :
    .ready s.phase ∈ (s.links i).up.received ∧ (s.links i).hold = .prepared none := by
  obtain ⟨sent, got, hlink⟩ := hin.links i
  have hat := hlink.hold
  unfold answered at hanswered
  unfold barrierFailure at hpassed
  cases hcase : (s.links i).hold with
  | absent => exact absurd hcase hpresent
  | prepared failure =>
    rw [hcase] at hpassed hat
    obtain rfl : failure = none := hpassed
    exact ⟨(hlink.ready_received hat.2.ge).2, rfl⟩
  | _ => simp [hcase] at hanswered

/-- Every step keeps this. -/
theorem step (hin : Cluster.InStep s) (h : FirstReady s) (hstep : run.step s action = some t) :
    FirstReady t := by
  have hmove := step_move hstep
  have hin' := hin.step hstep
  rcases h with ⟨hphase, hstage, hpresent⟩ | ⟨failure, hover, hquiet⟩ | hready
  · have hnone := not_started hin hphase hstage
    cases hmove with
    | cancel => exact .inl ⟨hphase, hstage, hpresent⟩
    | enter hbetween =>
      refine .inl ⟨hphase, .inr rfl, fun i => ?_⟩
      show (enter (s.links i)).hold ≠ .absent
      unfold enter
      split
      · nofun
      · exact hpresent i
    | close failure => exact .inr (.inl ⟨_, rfl, hnone⟩)
    | stop stopped failure hbarrier =>
      refine .inr (.inl ⟨_, rfl, fun i p hp => hnone i p ?_⟩)
      exact (silent_stopAll stopped i).down _ hp nofun
    -- who is asked in the first barrier has answered, and answered that it is ready
    | pass hbarrier hanswered hfirst =>
      refine .inr (.inr fun i => ?_)
      have hheard := ready_of_answered hin (hpresent i) (hanswered i) (hfirst hphase i)
      rw [hphase] at hheard
      show _ ∈ (run.pass s.phase (s.links i)).up.received
      rw [(run.silent_pass _).received]
      exact hheard.1
    | passNobody hbarrier hanswered hfirst habsent =>
      refine .inr (.inr fun i => absurd (habsent i) ?_)
      have hheard := ready_of_answered hin (hpresent i) (hanswered i) (hfirst hphase i)
      unfold ClusterRun.pass
      rw [hheard.2]
      nofun
    | link i hlink =>
      refine .inl ⟨hphase, hstage, ?_⟩
      refine (Function.forall_update_iff s.links fun _ link => link.hold ≠ .absent).mpr
        ⟨?_, fun j _ => hpresent j⟩
      rcases step_cases hlink with ⟨keptDown, keptUp, rfl⟩ | hmove | hmove
      · exact hpresent i
      · rw [hmove.hold_eq]
        exact hpresent i
      · exact hmove.kept
    | spawn hstarting _ => rcases hstage with h | h <;> cases h.symm.trans hstarting
    | publish hfollowing => rcases hstage with h | h <;> cases h.symm.trans hfollowing
    | collect hfollowing _ => rcases hstage with h | h <;> cases h.symm.trans hfollowing
  · refine .inr (.inl ?_)
    have hnone (i : Fin n) (p : ℕ) : .start p ∉ (t.links i).down.all := fun hnew => by
      have hstarting := (new_start hin hstep hnew (hquiet i p)).2
      cases hover.symm.trans hstarting
    cases hmove with
    | cancel => exact ⟨failure, hover, hnone⟩
    | close failure' => exact ⟨failure', rfl, hnone⟩
    | link i hlink => exact ⟨failure, hover, hnone⟩
    | enter hstage | stop _ _ hstage | pass hstage _ _ | passNobody hstage _ _ _ | spawn hstage _
    | publish hstage | collect hstage _ => cases hover.symm.trans hstage
  · refine .inr (.inr fun i => ?_)
    rcases hmove.link_cases i with hquiet | ⟨action, hlink⟩
    · rw [hquiet.received]
      exact hready i
    · rcases step_cases hlink with ⟨keptDown, keptUp, heq⟩ | hmove
      · rw [heq]
        exact hready i
      · exact received_subset hmove (hready i)

end FirstReady

namespace ClusterRun

open AgentLink

variable {run : ClusterRun n W} {s t : Cluster n W} {action : ClusterAction n W}

/-- The coordinator does not pass the first barrier of a run that is stopped
already. -/
def StopSeen (s : Cluster n W) : ClusterAction n W → Prop
  | .decide _ => s.phase = 0 → s.cancelled = true → s.barrierFailed
  | _ => True

/-- While start is sent, everybody who is left is ready. -/
theorem allReady (hin : Cluster.InStep s) (hstage : s.stage = .starting) : s.AllReady := by
  intro j hpresent
  obtain ⟨sent, answered, hlink⟩ := hin.links j
  have hduring := hin.during j
  have hat := hlink.hold
  rw [hstage] at hduring
  refine hlink.ready_received (Nat.le_of_eq ?_)
  cases hcase : (s.links j).hold with
  | absent => exact absurd hcase (Hold.present_iff.mp hpresent)
  | starting =>
    rw [hcase] at hat
    exact hat.2.symm
  | started failure =>
    rw [hcase] at hat
    cases failure <;> exact hat.2.symm
  | _ => rw [hcase] at hduring; cases hduring

/-- Start is only sent in the stage for it. -/
theorem sendStart_stage (hin : Cluster.InStep s) {i : Fin n} {through : Bool}
    {failure : Option String} (hstep : run.step s (.link i (.sendStart through failure)) = some t) :
    s.stage = .starting := by
  obtain ⟨link, hlink, -⟩ := Option.map_eq_some_iff.mp hstep
  have hduring := hin.during i
  simp only [AgentLink.step, coordinatorStep] at hlink
  split at hlink
  · rename_i hcase
    rw [hcase] at hduring
    exact hduring
  · cases hlink

/-- An agent that failed the barrier has failed it. -/
theorem barrierFailed_link {i : Fin n} {link : AgentLink W} {action : LinkAction W}
    (hstep : (s.links i).step run.agentTimeout s.phase s.cancelled action = some link)
    (h : s.barrierFailed) : ({ s with links := Function.update s.links i link } :
      Cluster n W).barrierFailed := by
  obtain ⟨j, hj⟩ := h
  refine ⟨j, ?_⟩
  show barrierFailure (Function.update s.links i link j) ≠ none
  by_cases hij : j = i
  · subst hij
    rw [Function.update_self]
    have hout : (s.links j).hold.Out := by
      unfold barrierFailure at hj
      split at hj
      · rename_i failure hcase
        rw [hcase]
        obtain ⟨reason, rfl⟩ := Option.ne_none_iff_exists'.mp hj
        trivial
      · exact absurd rfl hj
    unfold barrierFailure at hj ⊢
    rcases step_cases hstep with ⟨keptDown, keptUp, rfl⟩ | hmove | hmove
    · exact hj
    · rw [hmove.hold_eq]
      exact hj
    · exact absurd hout hmove.not_out
  · rw [Function.update_of_ne hij]
    exact hj

/-- **The first barrier of a run that is stopped** is not passed. -/
theorem doomed_step (hin : Cluster.InStep s) (h : s.Doomed) (hseen : StopSeen s action)
    (hstep : run.step s action = some t) : t.Doomed := by
  obtain ⟨hphase, hquiet, hstage⟩ := h
  have hstart (i : Fin n) (p : ℕ) : .start p ∉ (t.links i).down.all := fun hnew => by
    have hstarting := (new_start hin hstep hnew (hquiet i p)).2
    rcases hstage with ⟨hbarrier, -⟩ | ⟨failure, hover⟩
    · cases hbarrier.symm.trans hstarting
    · cases hover.symm.trans hstarting
  -- so only the barrier itself can go on, and it gives up
  have hwhere : s.stage ≠ .between ∧ s.stage ≠ .starting ∧ s.stage ≠ .following := by
    rcases hstage with ⟨hbarrier, -⟩ | ⟨failure, hover⟩
    · rw [hbarrier]
      decide
    · rw [hover]
      exact ⟨nofun, nofun, nofun⟩
  cases action with
  | cancel =>
    obtain rfl := Option.some.inj hstep
    exact ⟨hphase, hstart, hstage.imp_left fun hbarrier => ⟨hbarrier.1, .inl rfl⟩⟩
  | beginPhase =>
    simp only [step] at hstep
    split at hstep
    · rename_i hguard
      exact absurd hguard.1 hwhere.1
    · cases hstep
  | fail message =>
    simp only [step] at hstep
    split at hstep
    · exact absurd ‹_› hwhere.1
    · exact absurd ‹_› hwhere.2.1
    · cases hstep
  | interrupt stopped =>
    simp only [step] at hstep
    split at hstep
    · obtain rfl := Option.some.inj hstep
      exact ⟨hphase, hstart, .inr ⟨_, rfl⟩⟩
    · cases hstep
  | decide stopped =>
    simp only [step] at hstep
    split at hstep
    · rename_i hguard
      split at hstep
      · obtain rfl := Option.some.inj hstep
        exact ⟨hphase, hstart, .inr ⟨_, rfl⟩⟩
      · rename_i hnone
        -- the barrier decides after a stop only when some agent has failed it
        have hfailed : s.barrierFailed := by
          rcases hstage with ⟨-, hcancelled | hfailed⟩ | ⟨failure, hover⟩
          · exact hseen hphase hcancelled
          · exact hfailed
          · cases hguard.1.symm.trans hover
        obtain ⟨i, hi⟩ := hfailed
        exact absurd ⟨hphase, failures_ne_nil hi⟩ hnone
    · cases hstep
  | startAll =>
    simp only [step] at hstep
    split at hstep
    · rename_i hguard
      exact absurd hguard.1 hwhere.2.1
    · cases hstep
  | publish =>
    simp only [step] at hstep
    split at hstep
    · exact absurd ‹_› hwhere.2.2
    · cases hstep
  | collect =>
    simp only [step] at hstep
    split at hstep
    · rename_i hguard
      exact absurd hguard.1 hwhere.2.2
    · cases hstep
  | finish =>
    simp only [step] at hstep
    split at hstep
    · rename_i hguard
      exact absurd hguard.1 hwhere.1
    · cases hstep
  | link i action =>
    obtain ⟨link, hlink, rfl⟩ := Option.map_eq_some_iff.mp hstep
    exact ⟨hphase, hstart, hstage.imp_left fun hbarrier =>
      ⟨hbarrier.1, hbarrier.2.imp_right (barrierFailed_link hlink)⟩⟩

/-- What every run keeps. -/
theorem run_inv {actions : List (ClusterAction n W)}
    (hrun : Machine.run run.step run.init actions = some s) :
    Cluster.InStep s ∧ ResultsSent run s ∧ FirstReady s :=
  Machine.run_inv (P := fun u => Cluster.InStep u ∧ ResultsSent run u ∧ FirstReady u)
    (fun h hstep => ⟨h.1.step hstep, h.2.1.step h.1 hstep, h.2.2.step h.1 hstep⟩)
    ⟨.init run, .init run, .init run⟩ hrun

/-- Only a stop stops a run. -/
theorem cancelled_eq (hstep : run.step s action = some t) (haction : action ≠ .cancel) :
    t.cancelled = s.cancelled := by
  cases action with
  | cancel => exact absurd rfl haction
  | link i action =>
    obtain ⟨link, -, rfl⟩ := Option.map_eq_some_iff.mp hstep
    rfl
  | _ =>
    simp only [step] at hstep
    repeat' split at hstep
    all_goals cases hstep
    all_goals rfl

/-- A run that nobody stops passes no barrier too late. -/
theorem stopSeen_of_not_cancelled {actions : List (ClusterAction n W)} (hs : s.cancelled = false)
    (hactions : ∀ action ∈ actions, action ≠ .cancel) :
    Machine.Throughout run.step StopSeen s actions := by
  induction actions generalizing s with
  | nil => trivial
  | cons action rest ih =>
    refine ⟨?_, fun t hstep => ih ?_ fun a ha => hactions a (List.mem_cons_of_mem _ ha)⟩
    · cases action with
      | decide stopped => exact fun _ hcancelled => by rw [hs] at hcancelled; cases hcancelled
      | _ => trivial
    · rw [cancelled_eq hstep (hactions action List.mem_cons_self)]
      exact hs

/-- From the moment `u` on, an agent is not sent any new share or start. -/
structure NoLongerStarted (u s : Cluster n W) (i : Fin n) : Prop where
  prepare : ∀ p, .prepare p ∈ (s.links i).down.received → .prepare p ∈ (u.links i).down.all
  start : ∀ p, .start p ∈ (s.links i).down.received → .start p ∈ (u.links i).down.all
  /-- In the barrier, the start of the phase is not sent yet. -/
  barrier : u.stage = .barrier → .start u.phase ∉ (s.links i).down.received

variable (run) in
/-- What the start barrier is for, between two moments `u` and `s` of a run. -/
structure StartsTogether (u s : Cluster n W) : Prop where
  /-- A load starts after start ... -/
  loads : ∀ i, ∀ p ∈ (s.links i).loads, .start p ∈ (s.links i).down.received
  /-- ... which is sent when everybody who is left is ready ... -/
  sendStart : ∀ i through failure t,
    run.step s (.link i (.sendStart through failure)) = some t → s.AllReady
  /-- ... and by no other step, and only for the phase in progress. -/
  newStart : ∀ action t i p, run.step s action = some t → .start p ∈ (t.links i).down.all →
    .start p ∉ (s.links i).down.all → p = s.phase ∧ s.AllReady
  /-- Nobody is started before all agents of the run were ready once ... -/
  firstReady : ∀ i p, .start p ∈ (s.links i).down.received →
    ∀ j, .ready 0 ∈ (s.links j).up.received
  /-- ... or when the first barrier fails, or is stopped. -/
  firstFailed : u.phase = 0 → u.stage = .barrier → u.cancelled = true ∨ u.barrierFailed →
    ∀ i p, .start p ∉ (s.links i).down.received
  /-- An agent that failed is sent nothing more. -/
  out : ∀ i, (u.links i).hold.Out ∨ (u.links i).lost ≠ none → NoLongerStarted u s i
  /-- Each phase is merged once ... -/
  runs : s.runs.Pairwise fun r r' => r.1 < r'.1
  results : ∀ i, (s.links i).results.Pairwise fun r r' => r.1 < r'.1
  /-- ... from results that the agents sent for it ... -/
  merged : ∀ r ∈ s.runs, ∀ i result, r.2 i = .finished result →
    ∃ wire, (r.1, wire) ∈ (s.links i).results ∧ run.decode wire = .ok result
  /-- ... and from nothing of an agent that was lost in it. -/
  lost : ∀ action t i, run.step u action = some t → (t.links i).lost ≠ (u.links i).lost →
    ∀ later v, Machine.run run.step t later = some v → ∀ r ∈ v.runs, r.1 = u.phase →
      ∃ reason, r.2 i = .lost reason ∧ ∀ sum address, Coordinator.addPart sum (address, r.2 i)
        = { sum with agents := sum.agents ++ [⟨address, none, some reason, none⟩] }

/-- **The start barrier.** In any order of the steps, between two moments of a
run: a load starts after start, which is sent when everybody who is left is
ready; nobody is started when the first barrier fails, or is stopped; an agent
that failed is sent nothing more; and a phase is merged from at most one result
of each agent, which it sent for that phase, and from nothing of an agent that
was lost in it. -/
theorem start_barrier {first rest : List (ClusterAction n W)} {u : Cluster n W}
    (hfirst : Machine.run run.step run.init first = some u)
    (hrest : Machine.run run.step u rest = some s)
    (hseen : Machine.Throughout run.step StopSeen run.init (first ++ rest)) :
    run.StartsTogether u s := by
  have hall : Machine.run run.step run.init (first ++ rest) = some s :=
    Machine.run_append.mpr ⟨u, hfirst, hrest⟩
  obtain ⟨hin, hsent, hready⟩ := run_inv hall
  obtain ⟨hin', hsent', -⟩ := run_inv hfirst
  exact
    { loads := fun i p hp => by
        obtain ⟨sent, answered, hlink⟩ := hin.links i
        exact hlink.loads p hp
      sendStart := fun i through failure t hstep => allReady hin (sendStart_stage hin hstep)
      newStart := fun action t i p hstep hnew hold => by
        obtain ⟨hp, hstage⟩ := new_start hin hstep hnew hold
        exact ⟨hp, allReady hin hstage⟩
      firstReady := fun i p hp j => by
        have hp' : .start p ∈ (s.links i).down.all := List.mem_append_left _ hp
        rcases hready with ⟨hphase, hstage, -⟩ | ⟨failure, -, hquiet⟩ | hready
        · exact absurd hp' (FirstReady.not_started hin hphase hstage i p)
        · exact absurd hp' (hquiet i p)
        · exact hready j
      firstFailed := fun hphase hstage hstopped i p hp => by
        -- no step out of the doomed barrier starts anybody
        have hdoomed : u.Doomed := ⟨hphase, FirstReady.not_started hin' hphase (.inr hstage),
          .inl ⟨hstage, hstopped⟩⟩
        have hkept := ((Machine.Throughout.append hfirst).mp hseen).2.run_inv
          (P := fun u => Cluster.InStep u ∧ u.Doomed)
          (fun h hok hstep => ⟨h.1.step hstep, doomed_step h.1 h.2 hok hstep⟩) ⟨hin', hdoomed⟩ hrest
        exact hkept.2.2.1 i p (List.mem_append_left _ hp)
      out := fun i hout => by
        have hout' : (u.links i).hold.Out := by
          rcases hout with hout | hlost
          · exact hout
          · rw [hin'.lost i hlost]
            trivial
        have hfrozen := Frozen.run_frozen hout' hrest
        refine ⟨fun p hp => hfrozen.down _ (List.mem_append_left _ hp) nofun,
          fun p hp => hfrozen.down _ (List.mem_append_left _ hp) nofun, fun hstage hp => ?_⟩
        have hsent := hfrozen.down _ (List.mem_append_left _ hp) nofun
        rcases hin'.started i _ hsent with hlt | ⟨-, hbegun⟩
        · exact absurd hlt (Nat.lt_irrefl _)
        · rw [hstage] at hbegun
          exact hbegun
      runs := hsent.runs_sorted
      results := fun i => by
        obtain ⟨sent, answered, hlink⟩ := hin.links i
        exact hlink.results
      merged := hsent.sound
      lost := fun action t i hstep hlost later v hlater => by
        obtain ⟨reason, -, hlostIn⟩ := LostIn.of_step hsent' hstep hlost
        have hlater := Machine.run_inv (P := LostIn u.phase i reason) (fun h hstep => h.step hstep)
          hlostIn hlater
        refine fun r hr hphase => ⟨reason, hlater.runs r hr hphase, fun sum address => ?_⟩
        rw [hlater.runs r hr hphase]
        rfl }

/-- A test of one phase on some agents, whose results cannot be read. -/
def testOn (n : ℕ) : ClusterRun n Unit where
  agents _ := "localhost:9000"
  cores _ := 1
  phases := 1
  name _ := none
  decode _ := .error "malformed result"
  agentTimeout := "30s"

/-- The agents are prepared and ready, one after the other. -/
def untilReady (n : ℕ) : List (ClusterAction n Unit) :=
  .beginPhase :: (List.finRange n).flatMap fun i =>
    [.link i (.sendPrepare true none), .link i .hear, .link i .ready]

/-- The coordinator hears all of them, and starts them. -/
def untilRunning (n : ℕ) : List (ClusterAction n Unit) :=
  (List.finRange n).map (fun i => .link i (.hearReady "")) ++ [.decide fun _ => true]
    ++ (List.finRange n).flatMap fun i => [.link i (.sendStart true none), .link i .hear]

/-- Nobody stops the test. -/
theorem not_cancel_untilRunning (n : ℕ) :
    ∀ action ∈ untilReady n ++ untilRunning n, action ≠ .cancel := by
  intro action haction
  rintro rfl
  simp [untilReady, untilRunning] at haction

/-- A run on two agents until both load the target. -/
theorem start_barrier_twoAgents :
    ∃ u s, Machine.run (testOn 2).step (testOn 2).init (untilReady 2) = some u
      ∧ Machine.run (testOn 2).step u (untilRunning 2) = some s
      ∧ (∀ i, (s.links i).agent = .running 0)
      ∧ (∀ i, .start 0 ∈ (s.links i).down.received)
      ∧ ∀ j, .ready 0 ∈ (s.links j).up.received := by
  have hrun : Machine.run (testOn 2).step (testOn 2).init (untilReady 2 ++ untilRunning 2)
      = some _ := rfl
  obtain ⟨u, hfirst, hrest⟩ := Machine.run_append.mp hrun
  have hseen : Machine.Throughout (testOn 2).step StopSeen (testOn 2).init
      (untilReady 2 ++ untilRunning 2) :=
    stopSeen_of_not_cancelled rfl (not_cancel_untilRunning 2)
  exact ⟨_, _, hfirst, hrest, fun i => by fin_cases i <;> rfl, fun i => by fin_cases i <;> decide,
    (start_barrier hfirst hrest hseen).firstReady 0 0 (by decide)⟩

/-- A stop that comes before the last answer is heard may be missed: the agent
is started all the same. -/
theorem start_barrier_stop_missed :
    ∃ u s, Machine.run (testOn 1).step (testOn 1).init (untilReady 1 ++ [.cancel]) = some u
      ∧ Machine.run (testOn 1).step u (untilRunning 1) = some s
      ∧ u.phase = 0 ∧ u.stage = .barrier ∧ u.cancelled = true
      ∧ .start 0 ∈ (s.links 0).down.received ∧ (s.links 0).agent = .running 0 :=
  ⟨_, _, rfl, rfl, rfl, rfl, rfl, by decide, rfl⟩

end ClusterRun

end WsBlast
