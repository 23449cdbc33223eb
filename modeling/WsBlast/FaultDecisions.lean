import WsBlast.ChaosState
import WsBlast.FleetRuns
import WsBlast.SessionParts

/-!
# When two runs of a slot inject the same faults

One generator of a slot decides what happens to its sends, which byte of a
frame is changed and which reply closes the connection. How far a send moves
it depends on what the send met (`FaultSend`): a corrupted frame without bytes
draws nothing, and the close is drawn after a reply only. `FaultLedger` reads
the trace of an echo worker and keeps the list of its sends; every plan is the
generator's after the sends before it, so two runs plan a send alike once the
sends before it met the same (`plans_agree`), and a request that got no reply
shifts every later plan (`plans_shift`).

A seeded run is meant to repeat. It does as far as the generator goes: the same
seed gives the same sequence of draws. But draws are made as things happen, and
what happens depends on the server. A reply that does not come takes a draw away
from the sequence, and from then on every decision is made with a number that
was meant for another one.
-/

namespace WsBlast

open Proc (Within StepWithin)
open Proc.Monitor (Triple StepTriple)

/-! ## How far a draw moves the generator

A draw below a bound takes one number whatever the bound, and a corrupted frame
takes two whatever its length. -/

theorem XorShift64.atMost_le (rng : XorShift64) (max : UInt64) :
    (rng.atMost max).1.toNat ≤ max.toNat := by
  show (if max.toNat + 1 < 2 ^ 64 then rng.nextU64.1 % (max + 1) else rng.nextU64.1).toNat ≤ _
  split_ifs with hlt
  · have hsucc : (max + 1).toNat = max.toNat + 1 := by
      rw [UInt64.toNat_add]
      exact Nat.mod_eq_of_lt hlt
    rw [UInt64.toNat_mod, hsucc]
    exact Nat.lt_succ_iff.mp (Nat.mod_lt _ (Nat.succ_pos _))
  · have hbound := rng.nextU64.1.toNat_lt
    omega

/-- The position drawn for a list is one of it. -/
theorem XorShift64.atMost_length_lt (rng : XorShift64) {α : Type} {items : List α}
    (h : items ≠ []) : (rng.atMost (UInt64.ofNat (items.length - 1))).1.toNat < items.length := by
  have hle := rng.atMost_le (UInt64.ofNat (items.length - 1))
  have hpos := List.length_pos_of_ne_nil h
  have hofNat : (UInt64.ofNat (items.length - 1)).toNat ≤ items.length - 1 := Nat.mod_le _ _
  omega

/-- Whether a frame has a byte that can be changed. -/
def Message.carriesBytes : Message → Bool
  | .text value => value.toUTF8.data.toList ≠ []
  | .binary value => value ≠ []
  | _ => false

namespace ChaosState

/-- Two states that make the same decisions about sends. -/
structure SameDraws (a b : ChaosState) : Prop where
  config : a.config = b.config
  rng : a.rng = b.rng

namespace SameDraws

variable {a b c : ChaosState}

theorem refl (a : ChaosState) : SameDraws a a := ⟨rfl, rfl⟩

theorem trans (h : SameDraws a b) (h' : SameDraws b c) : SameDraws a c :=
  ⟨h.config.trans h'.config, h.rng.trans h'.rng⟩

/-- The plan of a send, and where it leaves the generator. -/
theorem planSend (h : SameDraws a b) :
    a.planSend.1 = b.planSend.1 ∧ SameDraws a.planSend.2 b.planSend.2 := by
  obtain ⟨config, rng, readRng⟩ := a
  obtain ⟨config', rng', readRng'⟩ := b
  obtain ⟨hconfig, hrng⟩ := h
  subst hconfig hrng
  simp only [ChaosState.planSend, ChaosState.drawDelay]
  split_ifs <;> exact ⟨rfl, rfl, rfl⟩

theorem closeNow (h : SameDraws a b) : SameDraws a.closeNow.2 b.closeNow.2 := by
  obtain ⟨config, rng, readRng⟩ := a
  obtain ⟨config', rng', readRng'⟩ := b
  obtain ⟨hconfig, hrng⟩ := h
  subst hconfig hrng
  simp only [ChaosState.closeNow]
  split_ifs <;> exact ⟨rfl, rfl⟩

end SameDraws

variable (state : ChaosState)

/-- Reads draw from a generator of their own. -/
theorem readPause_sameDraws : SameDraws state.readPause.2 state := by
  unfold readPause
  split_ifs <;> exact ⟨rfl, rfl⟩

/-- Where a corrupted frame leaves the generator: two draws on, when there is
a byte to change. -/
def skipCorrupt (changes : Bool) : ChaosState :=
  if changes then { state with rng := state.rng.nextU64.2.nextU64.2 } else state

/-- **A corruption moves the generator by the same draws for all frames with a
byte.** -/
theorem corrupt_snd (message : Message) :
    (state.corrupt message).2 = state.skipCorrupt message.carriesBytes := by
  cases message with
  | text text =>
    unfold corrupt skipCorrupt Message.carriesBytes
    dsimp only
    by_cases hnone : asciiPositions text.toUTF8.data.toList = []
    · by_cases hempty : text.toUTF8.data.toList = []
      · rw [if_pos hnone, if_pos hempty, if_neg]
        exact fun h => of_decide_eq_true h hempty
      · simp only [hnone, hempty, if_true, if_false, ne_eq, not_false_eq_true, decide_true]
        rfl
    · have hsome : text.toUTF8.data.toList ≠ [] := by
        intro hempty
        rw [hempty] at hnone
        exact hnone rfl
      -- the position drawn is one of those there are
      have hlt := state.rng.atMost_length_lt hnone
      simp only [hnone, hsome, if_false, ne_eq, not_false_eq_true, decide_true, if_true,
        List.getElem?_eq_getElem hlt]
      split <;> rfl
  | binary bytes =>
    unfold corrupt skipCorrupt Message.carriesBytes
    by_cases hempty : bytes = []
    · simp only [hempty, if_true, ne_eq, not_true_eq_false, decide_false, Bool.false_eq_true,
        if_false]
    · simp only [hempty, if_false, ne_eq, not_false_eq_true, decide_true, if_true]
      rfl
  | _ => rfl

theorem SameDraws.skipCorrupt {a b : ChaosState} (h : SameDraws a b) (changes : Bool) :
    SameDraws (a.skipCorrupt changes) (b.skipCorrupt changes) := by
  obtain ⟨hconfig, hrng⟩ := h
  cases changes with
  | true => exact ⟨hconfig, congrArg (fun rng => rng.nextU64.2.nextU64.2) hrng⟩
  | false => exact ⟨hconfig, hrng⟩

end ChaosState

/-! ## Sends

A send is its plan and what became of it, and a list of sends leaves the
generator somewhere. -/

/-- A data send of a slot: what was planned, and what it met. -/
structure FaultSend where
  plan : SendPlan
  /-- The frame that was to be corrupted. -/
  payload : Option Message := none
  /-- A reply to it was received in time. -/
  replied : Bool := false
  deriving DecidableEq

/-- A send that changes a byte of its frame. -/
def FaultSend.changesByte (send : FaultSend) : Bool := send.payload.any (·.carriesBytes)

namespace ChaosState

/-- The generator after a send. -/
def afterSend (state : ChaosState) (send : FaultSend) : ChaosState :=
  let state := state.planSend.2.skipCorrupt send.changesByte
  if send.replied then state.closeNow.2 else state

/-- The generator after a list of sends, the latest first. -/
def afterSends (start : ChaosState) : List FaultSend → ChaosState
  | [] => start
  | send :: earlier => (start.afterSends earlier).afterSend send

/-- Every plan is the generator's after the sends before it. -/
def Planned (start : ChaosState) : List FaultSend → Prop
  | [] => True
  | send :: earlier =>
    send.plan = (start.afterSends earlier).planSend.1 ∧ Planned start earlier

theorem Planned.plan {start : ChaosState} {later : List FaultSend} {send : FaultSend}
    {earlier : List FaultSend} (h : start.Planned (later ++ send :: earlier)) :
    send.plan = (start.afterSends earlier).planSend.1 := by
  induction later with
  | nil => exact h.1
  | cons _ later ih => exact ih h.2

end ChaosState

/-- Two sends that move the generator alike: where connections are closed,
both got a reply or neither did, and both had a byte of their frame changed or
neither had. -/
structure FaultSend.Alike (chaos : ChaosConfig) (a b : FaultSend) : Prop where
  replied : 0 < chaos.closePercent → a.replied = b.replied
  changesByte : a.changesByte = b.changesByte

namespace ChaosState

theorem closeNow_snd_of_nonpos (state : ChaosState) (h : state.config.closePercent ≤ 0) :
    state.closeNow.2 = state := by
  unfold closeNow
  rw [if_pos h]

theorem planSend_config (state : ChaosState) : state.planSend.2.config = state.config := by
  simp only [planSend, drawDelay]
  split_ifs <;> rfl

theorem skipCorrupt_config (state : ChaosState) (changes : Bool) :
    (state.skipCorrupt changes).config = state.config := by
  cases changes <;> rfl

theorem SameDraws.afterSend {a b : ChaosState} {send send' : FaultSend} (h : SameDraws a b)
    (halike : FaultSend.Alike a.config send send') :
    SameDraws (a.afterSend send) (b.afterSend send') := by
  have hskip : SameDraws (a.planSend.2.skipCorrupt send.changesByte)
      (b.planSend.2.skipCorrupt send'.changesByte) := by
    rw [halike.changesByte]
    exact h.planSend.2.skipCorrupt _
  unfold ChaosState.afterSend
  by_cases hclose : 0 < a.config.closePercent
  · rw [halike.replied hclose]
    dsimp only
    split_ifs
    · exact hskip.closeNow
    · exact hskip
  · have hstay : ∀ changes, (a.planSend.2.skipCorrupt changes).closeNow.2
        = a.planSend.2.skipCorrupt changes := fun changes =>
      closeNow_snd_of_nonpos _ (by
        rw [skipCorrupt_config, planSend_config]
        exact not_lt.mp hclose)
    have hstay' : ∀ changes, (b.planSend.2.skipCorrupt changes).closeNow.2
        = b.planSend.2.skipCorrupt changes := fun changes =>
      closeNow_snd_of_nonpos _ (by
        rw [skipCorrupt_config, planSend_config, ← h.config]
        exact not_lt.mp hclose)
    dsimp only
    rw [hstay, hstay', ite_self, ite_self]
    exact hskip

theorem afterSend_config (state : ChaosState) (send : FaultSend) :
    (state.afterSend send).config = state.config := by
  have hclose : ∀ state : ChaosState, state.closeNow.2.config = state.config := by
    intro state
    unfold closeNow
    split_ifs <;> rfl
  have hskip : (state.planSend.2.skipCorrupt send.changesByte).config = state.config :=
    (skipCorrupt_config _ _).trans (planSend_config _)
  unfold afterSend
  dsimp only
  split_ifs
  · exact (hclose _).trans hskip
  · exact hskip

theorem afterSends_config (start : ChaosState) (sends : List FaultSend) :
    (start.afterSends sends).config = start.config := by
  induction sends with
  | nil => rfl
  | cons send earlier ih => exact (afterSend_config _ _).trans ih

/-- **Sends that met the same leave the generator at the same place.** -/
theorem sameDraws_afterSends {start : ChaosState} {sends sends' : List FaultSend}
    (h : List.Forall₂ (FaultSend.Alike start.config) sends sends') :
    SameDraws (start.afterSends sends) (start.afterSends sends') := by
  induction h with
  | nil => exact SameDraws.refl start
  | cons halike _ ih =>
    refine ih.afterSend ?_
    rw [afterSends_config]
    exact halike

/-- A plan for which nothing is drawn. -/
theorem planSend_of_fixed {state : ChaosState} (hjitter : state.config.jitter = 0)
    (hdrop : state.config.dropPercent ≤ 0) (hcorrupt : state.config.corruptPercent ≤ 0) :
    state.planSend.1 = { delay := state.config.delay } := by
  have hnone : ¬(0 < state.config.dropPercent ∨ 0 < state.config.corruptPercent) :=
    not_or.mpr ⟨not_lt.mpr hdrop, not_lt.mpr hcorrupt⟩
  unfold planSend drawDelay
  rw [if_pos hjitter]
  dsimp only
  rw [if_neg hnone]

end ChaosState

/-! ## The ledger

The trace shows plans, corrupted frames, replies and draws for a close, in this
order for one send. -/

/-- What the trace of a worker shows of a slot's faults. -/
structure FaultLedger where
  chaos : ChaosState
  /-- The sends, the latest first. -/
  sends : List FaultSend := []
  /-- The run was seen to be cancelled. -/
  cancelled : Bool := false

namespace FaultLedger

/-- Whether an event shows that the run is cancelled. -/
def showsCancelled : Event → Bool
  | ⟨.isCancelled, cancelled⟩ => cancelled
  | ⟨.cancel, _⟩ => true
  | ⟨.sleep _, slept⟩ => !slept
  | ⟨.select _, .cancelled⟩ => true
  | ⟨.sendOrCancelled _, none⟩ => true
  | ⟨.connect _, .cancelled⟩ => true
  | _ => false

/-- What an event changes. -/
def step (s : FaultLedger) : Event → FaultLedger
  | ⟨.chaosPlan, plan⟩ =>
    { s with chaos := s.chaos.planSend.2, sends := { plan } :: s.sends }
  | ⟨.chaosCorrupt message, _⟩ =>
    { s with
      chaos := (s.chaos.corrupt message).2
      sends := s.sends.modifyHead fun send => { send with payload := some message } }
  | ⟨.chaosCloseNow, _⟩ => { s with chaos := s.chaos.closeNow.2 }
  | ⟨.chaosReadPause, _⟩ => { s with chaos := s.chaos.readPause.2 }
  | ⟨.record (.messageRecv _ _ _), _⟩ =>
    { s with sends := s.sends.modifyHead fun send => { send with replied := true } }
  | event => { s with cancelled := s.cancelled || showsCancelled event }

/-- Whether an answer is possible: draws are the generator's, and a run that
was cancelled stays so. -/
def possible (s : FaultLedger) : Event → Bool
  | ⟨.chaosPlan, plan⟩ => s.chaos.planSend.1 == plan
  | ⟨.chaosCorrupt message, out⟩ => (s.chaos.corrupt message).1 == out
  | ⟨.chaosCloseNow, graceful⟩ => s.chaos.closeNow.1 == graceful
  | ⟨.chaosReadPause, pause⟩ => s.chaos.readPause.1 == pause
  | ⟨.isCancelled, cancelled⟩ => cancelled || !s.cancelled
  | _ => true

/-- The ledger as a reader of traces: every plan is the generator's after the
sends before it. -/
def monitor (start : ChaosState) : Proc.Monitor Eff Eff.Answer FaultLedger where
  step := step
  Admits := fun s event => s.possible event = true
  Safe := fun s => start.Planned s.sends

instance decidableAdmits (start : ChaosState) (s : FaultLedger) (event : Event) :
    Decidable ((monitor start).Admits s event) :=
  inferInstanceAs (Decidable (s.possible event = true))

/-! ## The states between two questions

A send is planned, then sent, then perhaps replied to, and after a reply a draw
is owed. -/

/-- How far the latest send is. -/
inductive Stage where
  /-- All its draws were made. -/
  | settled
  /-- It was planned. -/
  | planned
  /-- Its frame is final, and no reply was received. -/
  | sent
  /-- The reply was received, and the close is still to be drawn. -/
  | owing

/-- What is known of the latest send. -/
def Stage.Knows : Stage → List FaultSend → Prop
  | .planned, send :: _ => send.payload = none ∧ send.replied = false
  | .sent, send :: _ => send.replied = false
  | .planned, [] => False
  | .sent, [] => False
  | .settled, _ => True
  | .owing, _ => True

/-- The generator after the draws still to be made. -/
def Stage.settle : Stage → ChaosState → ChaosState
  | .owing, state => state.closeNow.2
  | _, state => state

theorem Stage.sameDraws_settle (stage : Stage) {a b : ChaosState} (h : a.SameDraws b) :
    (stage.settle a).SameDraws (stage.settle b) := by
  cases stage with
  | owing => exact h.closeNow
  | _ => exact h

/-- The generator is where the sends so far left it. -/
structure AtStage (start : ChaosState) (stage : Stage) (s : FaultLedger) : Prop where
  planned : start.Planned s.sends
  here : (stage.settle s.chaos).SameDraws (start.afterSends s.sends)
  knows : stage.Knows s.sends

/-- A ledger that shows the same sends and makes the same decisions about
later ones. -/
structure Steady (s s' : FaultLedger) : Prop where
  sends : s'.sends = s.sends
  chaos : s'.chaos.SameDraws s.chaos
  cancelled : s.cancelled = true → s'.cancelled = true

section Stages

variable {start : ChaosState} {stage : Stage} {s s' : FaultLedger}

theorem AtStage.steady (h : AtStage start stage s) (hsteady : Steady s s') :
    AtStage start stage s' where
  planned := hsteady.sends ▸ h.planned
  here := hsteady.sends ▸ (stage.sameDraws_settle hsteady.chaos).trans h.here
  knows := hsteady.sends ▸ h.knows

theorem AtStage.settled_of_planned (h : AtStage start .planned s) : AtStage start .settled s :=
  ⟨h.planned, h.here, trivial⟩

theorem AtStage.settled_of_sent (h : AtStage start .sent s) : AtStage start .settled s :=
  ⟨h.planned, h.here, trivial⟩

/-- A frame that is sent as it is. -/
theorem AtStage.sent_of_planned (h : AtStage start .planned s) : AtStage start .sent s := by
  refine ⟨h.planned, h.here, ?_⟩
  have hknows := h.knows
  cases hsends : s.sends with
  | nil =>
    rw [hsends] at hknows
    exact hknows.elim
  | cons send earlier =>
    rw [hsends] at hknows
    exact hknows.2

/-- The latest send of a stage that has one. -/
theorem AtStage.exists_send (h : AtStage start stage s) (hstage : stage = .planned ∨ stage = .sent) :
    ∃ send earlier, s.sends = send :: earlier ∧ send.replied = false
      ∧ (stage = .planned → send.payload = none) := by
  have hknows := h.knows
  obtain rfl | rfl := hstage
  · cases hsends : s.sends with
    | nil =>
      rw [hsends] at hknows
      exact hknows.elim
    | cons send earlier =>
      rw [hsends] at hknows
      exact ⟨send, earlier, rfl, hknows.2, fun _ => hknows.1⟩
  · cases hsends : s.sends with
    | nil =>
      rw [hsends] at hknows
      exact hknows.elim
    | cons send earlier =>
      rw [hsends] at hknows
      exact ⟨send, earlier, rfl, hknows, nofun⟩

/-- A send is planned. -/
theorem AtStage.chaosPlan (h : AtStage start .settled s) {plan : SendPlan}
    (hplan : plan = s.chaos.planSend.1) :
    AtStage start .planned (s.step ⟨.chaosPlan, plan⟩) where
  planned := ⟨hplan.trans h.here.planSend.1, h.planned⟩
  here := h.here.planSend.2
  knows := ⟨rfl, rfl⟩

/-- Its frame is corrupted. -/
theorem AtStage.chaosCorrupt (h : AtStage start .planned s) (message : Message)
    (out : Message × Bool) : AtStage start .sent (s.step ⟨.chaosCorrupt message, out⟩) := by
  obtain ⟨send, earlier, hsends, hreplied, hpayload⟩ := h.exists_send (.inl rfl)
  have hnone := hpayload rfl
  have hplanned := h.planned
  have hhere := h.here
  rw [hsends] at hplanned hhere
  have hsent : (s.step ⟨.chaosCorrupt message, out⟩).sends
      = { send with payload := some message } :: earlier := by
    show s.sends.modifyHead _ = _
    rw [hsends]
    rfl
  -- without a frame and a reply, the plan is all that was drawn for the send
  have hdrawn : s.chaos.SameDraws (start.afterSends earlier).planSend.2 := by
    refine hhere.trans ?_
    show ((start.afterSends earlier).afterSend send).SameDraws _
    unfold ChaosState.afterSend FaultSend.changesByte
    rw [hnone, hreplied]
    exact ⟨rfl, rfl⟩
  refine ⟨?_, ?_, ?_⟩
  · rw [hsent]
    exact hplanned
  · rw [hsent]
    show (s.chaos.corrupt message).2.SameDraws
      ((start.afterSends earlier).afterSend { send with payload := some message })
    unfold ChaosState.afterSend FaultSend.changesByte
    rw [ChaosState.corrupt_snd, hreplied]
    exact hdrawn.skipCorrupt _
  · rw [hsent]
    exact hreplied

/-- A reply is received. -/
theorem AtStage.messageRecv (h : AtStage start .sent s) (now : Instant) (bytes : ℕ)
    (rtt : Option Duration) :
    AtStage start .owing (s.step ⟨.record (.messageRecv now bytes rtt), ()⟩) := by
  obtain ⟨send, earlier, hsends, hreplied, -⟩ := h.exists_send (.inr rfl)
  have hplanned := h.planned
  have hhere := h.here
  rw [hsends] at hplanned hhere
  have hrecv : (s.step ⟨.record (.messageRecv now bytes rtt), ()⟩).sends
      = { send with replied := true } :: earlier := by
    show s.sends.modifyHead _ = _
    rw [hsends]
    rfl
  have hdrawn : s.chaos.SameDraws
      ((start.afterSends earlier).planSend.2.skipCorrupt send.changesByte) := by
    refine hhere.trans ?_
    show ((start.afterSends earlier).afterSend send).SameDraws _
    unfold ChaosState.afterSend
    rw [hreplied]
    exact ⟨rfl, rfl⟩
  refine ⟨?_, ?_, trivial⟩
  · rw [hrecv]
    exact hplanned
  · rw [hrecv]
    exact hdrawn.closeNow

/-- The close is drawn. -/
theorem AtStage.chaosCloseNow (h : AtStage start .owing s) (graceful : Option Bool) :
    AtStage start .settled (s.step ⟨.chaosCloseNow, graceful⟩) :=
  ⟨h.planned, h.here, trivial⟩

end Stages

/-! ## What the parts of the session do

As for the counters of an echo worker, with one difference: a session that is
cancelled may leave while a draw is owed, since no send follows. -/

section Parts

variable {start : ChaosState} {R : Type} {serde : Serde} {config : LoadTestConfig}
  {scenario : Option ScenarioPhase} {workerId : ℕ} {stage : Stage}

/-- A program of a session that cannot leave. -/
abbrev Holds (start : ChaosState) (pre : FaultLedger → Prop) (p : Session R)
    (post : R → FaultLedger → Prop) : Prop :=
  Triple (monitor start) pre p post

/-- The end of a session: where it goes on with another one, all draws were
made. -/
def Left (start : ChaosState) (ended : SessionEnd) (s : FaultLedger) : Prop :=
  start.Planned s.sends ∧ (ended = .lost → AtStage start .settled s)

/-- A piece of a session: it goes on in `post`, or the session is over. -/
abbrev Keeps (start : ChaosState) (pre : FaultLedger → Prop) (p : Round R)
    (post : R → FaultLedger → Prop) : Prop :=
  StepTriple (monitor start) pre p post (Left start)

theorem AtStage.left {s : FaultLedger} (h : AtStage start .settled s) (ended : SessionEnd) :
    Left start ended s := ⟨h.planned, fun _ => h⟩

theorem Left.steady {ended : SessionEnd} {s s' : FaultLedger} (h : Left start ended s)
    (hsteady : Steady s s') : Left start ended s' :=
  ⟨hsteady.sends ▸ h.1, fun hlost => (h.2 hlost).steady hsteady⟩

/-- Questions that have no part in the decisions about sends. -/
def Undrawn : Eff → Prop
  | .chaosPlan => False
  | .chaosCorrupt _ => False
  | .chaosCloseNow => False
  | .record (.messageRecv _ _ _) => False
  | _ => True

theorem undrawn_of_quiet (e : Eff) (h : e.Quiet) : Undrawn e := by
  cases e with
  | record r => cases r <;> trivial
  | chaosPlan => exact absurd h not_false
  | chaosCorrupt message => exact absurd h not_false
  | chaosCloseNow => exact absurd h not_false
  | _ => trivial

theorem steady_step (s : FaultLedger) (e : Eff) (a : e.Answer) (h : Undrawn e) :
    Steady s (s.step ⟨e, a⟩) := by
  have hflag : ∀ flag : Bool, Steady s { s with cancelled := s.cancelled || flag } := fun flag =>
    ⟨rfl, ChaosState.SameDraws.refl _, fun hs => by
      show (s.cancelled || flag) = true
      rw [hs, Bool.true_or]⟩
  cases e with
  | chaosReadPause => exact ⟨rfl, s.chaos.readPause_sameDraws, id⟩
  | record r =>
    cases r with
    | messageRecv now bytes rtt => exact absurd h not_false
    | _ => exact hflag _
  | chaosPlan => exact absurd h not_false
  | chaosCorrupt message => exact absurd h not_false
  | chaosCloseNow => exact absurd h not_false
  | _ => exact hflag _

theorem holds_within {p : Session R} (hp : Within Undrawn p) :
    Holds start (AtStage start stage) p fun _ => AtStage start stage :=
  Triple.of_within hp fun s e a he hs _ =>
    ⟨(hs.steady (steady_step s e a he)).planned, hs.steady (steady_step s e a he)⟩

theorem keeps_within {p : Round R} (hp : StepWithin Undrawn p)
    (hover : ∀ s, AtStage start stage s → AtStage start .settled s) :
    Keeps start (AtStage start stage) p fun _ => AtStage start stage :=
  StepTriple.of_within hp (fun s e a he hs _ =>
    ⟨(hs.steady (steady_step s e a he)).planned, hs.steady (steady_step s e a he)⟩)
    fun ended s hs => (hover s hs).left ended

theorem keeps_breakSession {post : R → FaultLedger → Prop}
    (hover : ∀ s, AtStage start stage s → AtStage start .settled s) :
    Keeps start (AtStage start stage) (breakSession : Round R) post :=
  StepTriple.bind (StepTriple.lift (holds_within (within_sessionEnd undrawn_of_quiet))) fun _ =>
    StepTriple.throw fun s hs => (hover s hs).left _

theorem keeps_closeAndBreak {post : R → FaultLedger → Prop}
    (hover : ∀ s, AtStage start stage s → AtStage start .settled s) :
    Keeps start (AtStage start stage) (closeAndBreak : Round R) post :=
  StepTriple.bind (StepTriple.lift (holds_within (Within.ask trivial))) fun _ =>
    keeps_breakSession hover

theorem keeps_failWrite {post : R → FaultLedger → Prop}
    (hover : ∀ s, AtStage start stage s → AtStage start .settled s) (err : WsError) :
    Keeps start (AtStage start stage) (failWrite err : Round R) post :=
  StepTriple.bind (StepTriple.lift (holds_within (Within.ask trivial))) fun _ =>
    keeps_breakSession hover

/-- A run that was cancelled stays so. -/
theorem answer_of_cancelled {s : FaultLedger} {cancelled : Bool} (hs : s.cancelled = true)
    (h : s.possible ⟨.isCancelled, cancelled⟩ = true) : cancelled = true := by
  have hanswer : (cancelled || !s.cancelled) = true := h
  rw [hs, Bool.not_true, Bool.or_false] at hanswer
  exact hanswer

/-- A cancelled session is finished, whatever draws it still had to make. -/
theorem keeps_closeAndBreak_cancelled {post : R → FaultLedger → Prop} :
    Keeps start (fun s => AtStage start stage s ∧ s.cancelled = true) (closeAndBreak : Round R)
      post := by
  have hclose : Holds start (fun s => AtStage start stage s ∧ s.cancelled = true)
      (Ask.sendIgnored (.close none)) fun _ s => AtStage start stage s ∧ s.cancelled = true :=
    Triple.ask fun s a hs _ =>
      have hsteady := steady_step s (.sendIgnored (.close none)) a trivial
      ⟨(hs.1.steady hsteady).planned, hs.1.steady hsteady, hsteady.cancelled hs.2⟩
  have hcancelled : Holds start (fun s => AtStage start stage s ∧ s.cancelled = true)
      Ask.isCancelled fun cancelled s => cancelled = true ∧ AtStage start stage s := by
    refine Triple.ask fun s cancelled hs hadm => ?_
    have hsteady := steady_step s .isCancelled cancelled trivial
    exact ⟨(hs.1.steady hsteady).planned, answer_of_cancelled hs.2 hadm, hs.1.steady hsteady⟩
  have hend : Holds start (fun s => AtStage start stage s ∧ s.cancelled = true) sessionEnd
      fun ended => Left start ended := by
    refine Triple.bind hcancelled fun cancelled => Triple.ite (fun _ => ?_) fun hnot => ?_
    · exact Triple.pure fun s hs => ⟨hs.2.planned, nofun⟩
    · exact Triple.pure fun s hs => absurd hs.1 hnot
  exact StepTriple.bind (StepTriple.lift hclose) fun _ =>
    StepTriple.bind (StepTriple.lift hend) fun _ => StepTriple.throw fun s hs => hs

/-- A question that moves the latest send on. -/
theorem holds_ask {pre : FaultLedger → Prop} {e : Eff} {post : e.Answer → FaultLedger → Prop}
    {next : Stage} (h : ∀ s a, pre s → (monitor start).Admits s ⟨e, a⟩ →
      AtStage start next (s.step ⟨e, a⟩)) (hpost : ∀ s a, AtStage start next s → post a s) :
    Holds start pre (Proc.ask e) post :=
  Triple.ask fun s a hs hadm => ⟨(h s a hs hadm).planned, hpost _ a (h s a hs hadm)⟩

/-- **A request is settled**: its reply was received, and the close is still to
be drawn. -/
theorem keeps_settleReply (request : Request) (recordResponse : Bool) (expect : Option Check)
    (captures : List Capture) (vars : List String) :
    Keeps start (AtStage start .sent)
      (settleReply serde config request recordResponse expect captures vars)
      fun _ => AtStage start .owing := by
  have hover : ∀ s, AtStage start .sent s → AtStage start .settled s :=
    fun _ hs => hs.settled_of_sent
  refine StepTriple.bind (StepTriple.lift (holds_within
    (within_awaitReply undrawn_of_quiet (fun _ => trivial) _ _ _))) fun result => ?_
  obtain ⟨reply, unsolicited⟩ := result
  refine StepTriple.bind (StepTriple.lift (holds_within (Within.ask trivial))) fun _ => ?_
  -- only a reply leaves a draw owed; every other end of the wait leaves the session
  cases reply with
  | cancelled => exact keeps_closeAndBreak hover
  | timedOut =>
    exact StepTriple.bind (StepTriple.lift (holds_within (Within.ask trivial))) fun _ =>
      keeps_breakSession hover
  | failed category =>
    exact StepTriple.bind (StepTriple.lift (holds_within (Within.ask trivial))) fun _ =>
      keeps_breakSession hover
  | closed => exact keeps_breakSession hover
  | received reply =>
    refine StepTriple.bind (StepTriple.lift (holds_within (Within.ask trivial)))
      fun receivedAt => ?_
    refine StepTriple.bind (StepTriple.lift (holds_within (Within.ask trivial)))
      fun recordedAt => ?_
    refine StepTriple.bind (StepTriple.lift (holds_ask (fun s _ hs _ => hs.messageRecv _ _ _)
      fun _ _ hs => hs)) fun _ => ?_
    refine StepTriple.bind (StepTriple.lift (holds_within
      (within_checkAnswer undrawn_of_quiet _ _ _ _ _))) fun vars => ?_
    refine StepTriple.bind (StepTriple.lift (holds_within ?_)) fun _ =>
      StepTriple.pure fun s hs => hs
    unfold recordPaced
    cases request.due with
    | none => exact Within.pure
    | some due =>
      exact Within.ite (fun _ => Within.bind (Within.ask trivial) fun _ => Within.ask trivial)
        fun _ => Within.pure

/-- The pause after a reply, while the close is still to be drawn. -/
theorem keeps_pauseReads_owing (schedule : Option SendSchedule) :
    Keeps start (AtStage start .owing) (pauseReads config schedule)
      fun _ => AtStage start .owing := by
  refine StepTriple.bind (StepTriple.lift (holds_within
    (within_chaosReadPause trivial trivial))) fun pause => ?_
  cases pause with
  | none => exact StepTriple.pure fun s hs => hs
  | some pause =>
    have hsleep : Holds start (AtStage start .owing) (Ask.sleep (.after pause))
        fun slept s => AtStage start .owing s ∧ (slept = false → s.cancelled = true) := by
      refine Triple.ask fun s slept hs _ => ?_
      have hsteady := steady_step s (.sleep (.after pause)) slept trivial
      refine ⟨(hs.steady hsteady).planned, hs.steady hsteady, ?_⟩
      rintro rfl
      exact Bool.or_true _
    refine StepTriple.bind (StepTriple.lift hsleep) fun slept => ?_
    refine StepTriple.ite (fun _ => StepTriple.pure fun s hs => hs.1) fun hnot => ?_
    exact StepTriple.weaken keeps_closeAndBreak_cancelled
      (fun s hs => ⟨hs.1, hs.2 (Bool.eq_false_iff.mpr hnot)⟩) fun _ _ h => h

/-- A frame is corrupted, or sent as it is. -/
theorem holds_chaosCorrupt (message : Message) (corrupt : Bool) :
    Holds start (AtStage start .planned) (chaosCorrupt config message corrupt)
      fun _ => AtStage start .sent := by
  refine Triple.ite (fun _ => ?_) fun _ => Triple.pure fun s hs => hs.sent_of_planned
  refine Triple.bind (holds_ask (fun s out hs _ => hs.chaosCorrupt message out)
    fun _ _ hs => hs) fun out => ?_
  refine Triple.ite (fun _ => ?_) fun _ => Triple.pure fun s hs => hs
  exact Triple.bind (holds_within (Within.ask trivial)) fun _ => Triple.pure fun s hs => hs

/-! ### The echo loop

One plan to a turn, one draw for a close after its reply. -/

theorem keeps_sendEcho (seq : ℕ) (plan : SendPlan) (due : Option Instant) :
    Keeps start (AtStage start .planned) (sendEcho config workerId seq plan due)
      fun _ => AtStage start .sent := by
  refine StepTriple.bind (StepTriple.lift (holds_within (Within.ask trivial))) fun nowMs => ?_
  refine StepTriple.bind (StepTriple.lift (holds_chaosCorrupt _ _)) fun result => ?_
  obtain ⟨message, corrupted⟩ := result
  refine StepTriple.bind (StepTriple.lift (holds_within (Within.ask trivial))) fun startTime => ?_
  refine StepTriple.bind (StepTriple.lift (holds_within (Within.ask trivial))) fun result => ?_
  match result with
  | none => exact keeps_closeAndBreak fun _ hs => hs.settled_of_sent
  | some (.error err) => exact keeps_failWrite (fun _ hs => hs.settled_of_sent) err
  | some (.ok ()) =>
    exact StepTriple.bind (StepTriple.lift (holds_within (Within.ask trivial))) fun _ =>
      StepTriple.pure fun s hs => hs

theorem stepWithin_pauseAfterReply (schedule : Option SendSchedule) :
    StepWithin Undrawn (pauseAfterReply config scenario schedule) := by
  refine StepWithin.bind (within_pauseReads undrawn_of_quiet (fun _ => trivial) trivial trivial _)
    fun schedule => ?_
  refine StepWithin.bind (StepWithin.lift (within_applyThinkTime fun _ => trivial)) fun _ => ?_
  refine StepWithin.ite (fun _ => ?_) fun _ => within_closeAndBreak undrawn_of_quiet
  exact StepWithin.ite (fun _ => StepWithin.pure) fun _ =>
    StepWithin.lift (within_restartAfterPause trivial _)

section Draws

variable (hchaos : config.chaos.isSome = true)

include hchaos

/-- The draw that closes a connection. -/
theorem keeps_chaosClose :
    Keeps start (AtStage start .owing) (chaosClose config) fun _ => AtStage start .settled := by
  have hdraw : Holds start (AtStage start .owing) (chaosCloseNow config)
      fun _ => AtStage start .settled := by
    unfold chaosCloseNow
    rw [if_pos hchaos]
    exact holds_ask (fun s graceful hs _ => hs.chaosCloseNow graceful) fun _ _ hs => hs
  unfold chaosClose
  refine StepTriple.bind (StepTriple.lift hdraw) fun graceful => ?_
  cases graceful with
  | none => exact StepTriple.pure fun s hs => hs
  | some graceful =>
    refine StepTriple.bind (StepTriple.lift (holds_within (Within.ask trivial))) fun _ => ?_
    refine StepTriple.ite (fun _ => ?_) fun _ => keeps_breakSession fun _ hs => hs
    exact StepTriple.bind (StepTriple.lift (holds_within (Within.ask trivial))) fun _ =>
      keeps_breakSession fun _ hs => hs

theorem holds_chaosPlan :
    Holds start (AtStage start .settled) (chaosPlan config) fun _ => AtStage start .planned := by
  unfold chaosPlan
  rw [if_pos hchaos]
  exact holds_ask (fun s plan hs hadm => hs.chaosPlan (eq_of_beq hadm).symm) fun _ _ hs => hs

/-- One turn of the echo loop. -/
theorem keeps_echoRound (state : EchoState) :
    Keeps start (AtStage start .settled) (echoRound serde config workerId scenario state)
      fun _ => AtStage start .settled := by
  refine StepTriple.bind (StepTriple.lift (holds_within (Within.ask trivial))) fun _ => ?_
  refine StepTriple.ite (fun _ => keeps_closeAndBreak fun _ hs => hs) fun _ => ?_
  refine StepTriple.bind (keeps_within (within_paceEcho undrawn_of_quiet (fun _ => trivial) _)
    fun _ hs => hs) fun _ => ?_
  refine StepTriple.bind (keeps_within (within_claimOrBreak undrawn_of_quiet) fun _ hs => hs)
    fun _ => ?_
  refine StepTriple.bind (StepTriple.lift (holds_chaosPlan hchaos)) fun plan => ?_
  refine StepTriple.ite (fun _ => ?_) fun _ => ?_
  · exact StepTriple.bind (StepTriple.lift (holds_within (Within.ask trivial))) fun _ =>
      StepTriple.pure fun s hs => hs.settled_of_planned
  · refine StepTriple.bind (keeps_within
      (within_delaySend undrawn_of_quiet (fun _ => trivial) trivial _ _ _)
      fun _ hs => hs.settled_of_planned) fun delayed => ?_
    obtain ⟨schedule, due⟩ := delayed
    refine StepTriple.bind (keeps_sendEcho _ _ _) fun request => ?_
    refine StepTriple.bind (keeps_settleReply _ _ _ _ _) fun _ => ?_
    refine StepTriple.bind (keeps_chaosClose hchaos) fun _ => ?_
    exact StepTriple.bind (keeps_within (stepWithin_pauseAfterReply _) fun _ hs => hs) fun _ =>
      StepTriple.pure fun s hs => hs

theorem holds_runEchoLoop :
    Holds start (AtStage start .settled) (runEchoLoop serde config workerId scenario)
      (Left start) := by
  refine Triple.bind (holds_within (Within.ask trivial)) fun now => ?_
  refine Triple.bind (holds_within (Within.ask trivial)) fun _ => ?_
  exact Triple.forever (fun _ => AtStage start .settled) fun state => keeps_echoRound hchaos state

/-! ### The script loop

A burst plans each of its sends, and a script draws in the same order as the
loop does. -/

variable (hreplies : config.mode.awaitsReplies = true)

include hreplies

/-- One send of a burst. -/
theorem keeps_sendOnce (payload : Option PayloadConfig) (expect : Option Check)
    (captures : List Capture) (state : ScriptState) :
    Keeps start (AtStage start .settled)
      (sendOnce serde config workerId payload expect captures state)
      fun _ => AtStage start .settled := by
  refine StepTriple.bind (StepTriple.lift (holds_within (Within.ask trivial))) fun _ => ?_
  refine StepTriple.ite (fun _ => keeps_closeAndBreak fun _ hs => hs) fun _ => ?_
  refine StepTriple.bind (keeps_within (within_paceScript undrawn_of_quiet (fun _ => trivial) _)
    fun _ hs => hs) fun _ => ?_
  refine StepTriple.bind (keeps_within (within_claimOrBreak undrawn_of_quiet) fun _ hs => hs)
    fun _ => ?_
  refine StepTriple.bind (StepTriple.lift (holds_chaosPlan hchaos)) fun plan => ?_
  refine StepTriple.ite (fun _ => ?_) fun _ => ?_
  · exact StepTriple.bind (StepTriple.lift (holds_within (Within.ask trivial))) fun _ =>
      StepTriple.pure fun s hs => hs.settled_of_planned
  · refine StepTriple.bind (keeps_within
      (within_delaySend undrawn_of_quiet (fun _ => trivial) trivial _ _ _)
      fun _ hs => hs.settled_of_planned) fun delayed => ?_
    obtain ⟨schedule, due⟩ := delayed
    -- a script builds its frame after the plan, as the echo loop does
    have hsend : Keeps start (AtStage start .planned)
        (sendScript config workerId payload state plan due) fun _ => AtStage start .sent := by
      refine StepTriple.bind (StepTriple.lift (holds_within (Within.ask trivial))) fun nowMs => ?_
      refine StepTriple.bind (StepTriple.lift (holds_chaosCorrupt _ _)) fun result => ?_
      obtain ⟨message, corrupted⟩ := result
      refine StepTriple.bind (StepTriple.lift (holds_within (Within.ask trivial)))
        fun startTime => ?_
      refine StepTriple.bind (StepTriple.lift (holds_within (Within.ask trivial)))
        fun result => ?_
      match result with
      | .error err => exact keeps_failWrite (fun _ hs => hs.settled_of_sent) err
      | .ok () =>
        exact StepTriple.bind (StepTriple.lift (holds_within (Within.ask trivial))) fun _ =>
          StepTriple.pure fun s hs => hs
    have hsettle : ∀ request, Keeps start (AtStage start .sent)
        (settleScript serde config request expect captures schedule state.vars)
        fun _ => AtStage start .owing := by
      intro request
      unfold settleScript
      rw [if_pos hreplies]
      refine StepTriple.bind (keeps_settleReply _ _ _ _ _) fun vars => ?_
      exact StepTriple.bind (keeps_pauseReads_owing _) fun schedule => StepTriple.pure fun s hs => hs
    refine StepTriple.bind hsend fun request => StepTriple.bind (hsettle request) fun settled => ?_
    obtain ⟨schedule, vars⟩ := settled
    exact StepTriple.bind (keeps_chaosClose hchaos) fun _ => StepTriple.pure fun s hs => hs

theorem keeps_sendBurst (payload : Option PayloadConfig) (expect : Option Check)
    (captures : List Capture) (count : ℕ) (state : ScriptState) :
    Keeps start (AtStage start .settled)
      (sendBurst serde config workerId payload expect captures count state)
      fun _ => AtStage start .settled := by
  induction count generalizing state with
  | zero => exact StepTriple.pure fun s hs => hs
  | succ count ih =>
    exact StepTriple.bind (keeps_sendOnce hchaos hreplies _ _ _ _) fun state => ih state

theorem keeps_runAction (state : ScriptState) (action : ScenarioAction) :
    Keeps start (AtStage start .settled) (runAction serde config workerId scenario state action)
      fun _ => AtStage start .settled := by
  have hpause : ∀ timer, Keeps start (AtStage start .settled)
      (sleepOrBreak timer >>= fun _ => liftM (restartScript state))
      fun _ => AtStage start .settled := fun timer =>
    keeps_within (StepWithin.bind
      (within_sleepOrBreak undrawn_of_quiet (fun _ => trivial) timer) fun _ =>
        StepWithin.lift (within_restartScript trivial _)) fun _ hs => hs
  cases action with
  | send payload count expect captures name =>
    refine StepTriple.bind (StepTriple.lift (holds_within (Within.ask trivial))) fun _ => ?_
    refine StepTriple.bind (keeps_sendBurst hchaos hreplies _ _ _ _ _) fun state => ?_
    refine StepTriple.bind (StepTriple.lift (holds_within (Within.ask trivial))) fun _ => ?_
    refine StepTriple.bind (StepTriple.lift (holds_within
      (within_applyThinkTime fun _ => trivial))) fun _ => ?_
    refine StepTriple.ite (fun _ => ?_) fun _ => keeps_closeAndBreak fun _ hs => hs
    exact StepTriple.ite (fun _ => StepTriple.pure fun s hs => hs) fun _ =>
      StepTriple.lift (holds_within (within_restartScript trivial _))
  | wait duration => exact hpause (.after duration)
  | ping interval =>
    refine StepTriple.bind (StepTriple.lift (holds_within (Within.ask trivial))) fun result => ?_
    match result with
    | .error err => exact keeps_failWrite (fun _ hs => hs) err
    | .ok () => exact hpause (.after interval)
  | close code reason =>
    exact StepTriple.bind (StepTriple.lift (holds_within (Within.ask trivial))) fun _ =>
      StepTriple.throw fun s hs => hs.left _

theorem keeps_runActions (actions : List ScenarioAction) (state : ScriptState) :
    Keeps start (AtStage start .settled) (runActions serde config workerId scenario actions state)
      fun _ => AtStage start .settled := by
  induction actions generalizing state with
  | nil => exact StepTriple.pure fun s hs => hs
  | cons action rest ih =>
    refine StepTriple.bind (StepTriple.lift (holds_within
      (within_scriptStops undrawn_of_quiet))) fun _ => ?_
    refine StepTriple.ite (fun _ => ?_) fun _ =>
      StepTriple.bind (keeps_runAction hchaos hreplies state action) fun state => ih state
    refine StepTriple.bind (StepTriple.lift (holds_within
      (within_maxRequestsReached undrawn_of_quiet))) fun _ => ?_
    refine StepTriple.ite (fun _ => ?_) fun _ => keeps_closeAndBreak fun _ hs => hs
    exact StepTriple.bind (StepTriple.lift (holds_within (Within.ask trivial))) fun _ =>
      keeps_closeAndBreak fun _ hs => hs

theorem holds_runActionLoop (phase : ScenarioPhase) :
    Holds start (AtStage start .settled) (runActionLoop serde config workerId phase)
      (Left start) := by
  refine Triple.bind (holds_within (Within.ask trivial)) fun now => ?_
  refine Triple.bind (holds_within (Within.ask trivial)) fun _ => ?_
  refine Triple.forever (fun _ => AtStage start .settled) fun state => ?_
  exact StepTriple.bind (StepTriple.lift (holds_within (Within.ask trivial))) fun _ =>
    StepTriple.ite (fun _ => keeps_closeAndBreak fun _ hs => hs) fun _ =>
      keeps_runActions hchaos hreplies _ state

end Draws

/-! ### The life of a worker

The generator outlives the session: a slot that reconnects goes on where it was.
-/

variable {worker : Worker}

/-- **An echo session draws for its sends only.** -/
theorem holds_session (hmode : worker.config.mode = .echo)
    (hchaos : worker.config.chaos.isSome = true) :
    Holds start (AtStage start .settled) worker.session (Left start) := by
  have hreplies : worker.config.mode.awaitsReplies = true := by rw [hmode]; rfl
  unfold Worker.session modeLoop
  rw [hmode]
  cases worker.scenario with
  | none => exact holds_runEchoLoop hchaos
  | some phase =>
    exact Triple.ite (fun _ => holds_runEchoLoop hchaos) fun _ =>
      holds_runActionLoop hchaos hreplies phase

theorem keeps_attempt (hmode : worker.config.mode = .echo)
    (hchaos : worker.config.chaos.isSome = true) (request : HandshakeRequest)
    (state : WorkerState) :
    StepTriple (monitor start) (AtStage start .settled) (worker.attempt request state)
      (fun _ => AtStage start .settled) fun _ s => start.Planned s.sends := by
  have hretry : ∀ state, StepTriple (monitor start) (AtStage start .settled) (worker.retry state)
      (fun _ => AtStage start .settled) fun _ s => start.Planned s.sends := fun state =>
    StepTriple.of_within (within_retry undrawn_of_quiet (fun _ => trivial) state)
      (fun s e a he hs _ =>
        ⟨(hs.steady (steady_step s e a he)).planned, hs.steady (steady_step s e a he)⟩)
      fun _ s hs => hs.planned
  refine StepTriple.bind (StepTriple.lift (holds_within (within_handshake undrawn_of_quiet trivial
    (fun _ => trivial) (fun _ => ⟨trivial, trivial⟩) (fun _ => trivial) _ _))) fun result => ?_
  cases result with
  | stop => exact StepTriple.throw fun s hs => hs.planned
  | failed => exact hretry state
  | opened =>
    refine StepTriple.bind (StepTriple.lift (holds_session hmode hchaos)) fun ended => ?_
    have hclosed : Holds start (Left start ended) (Ask.record .connectionClosed)
        fun _ => Left start ended :=
      Triple.ask fun s a hs _ =>
        have hleft := hs.steady (steady_step s (.record .connectionClosed) a trivial)
        ⟨hleft.1, hleft⟩
    refine StepTriple.bind (StepTriple.lift hclosed) fun _ => ?_
    refine StepTriple.ite (fun _ => StepTriple.throw fun s hs => hs.1) fun hnot => ?_
    have hlost : ended = .lost := by
      cases ended with
      | finished => exact absurd rfl hnot
      | lost => rfl
    exact StepTriple.weaken (hretry _) (fun s hs => hs.2 hlost) fun _ _ h => h

theorem holds_run (hmode : worker.config.mode = .echo)
    (hchaos : worker.config.chaos.isSome = true) :
    Holds start (AtStage start .settled) worker.run fun _ s => start.Planned s.sends := by
  refine Triple.bind (holds_within (Within.ask trivial)) fun nowMs => ?_
  cases worker.buildHandshakeRequest nowMs with
  | error category =>
    exact Triple.weaken (holds_within (Within.ask trivial)) (fun _ h => h)
      fun _ s hs => hs.planned
  | ok request =>
    exact Triple.forever (fun _ => AtStage start .settled)
      fun state => keeps_attempt hmode hchaos request state

theorem settled_init (start : ChaosState) : AtStage start .settled ⟨start, [], false⟩ :=
  ⟨trivial, ChaosState.SameDraws.refl start, trivial⟩

end Parts

end FaultLedger

/-! ## Runs

A run is a trace that a worker can have, with the draws of its slot's generator.
-/

/-- A run of a worker whose faults are drawn by the generator of its slot. -/
structure FaultRun (worker : Worker) (chaos : ChaosConfig) where
  timeSeed : UInt64
  trace : List Event
  result : Option Unit
  runs : Proc.Runs worker.run trace result
  draws : (FaultLedger.monitor (ChaosState.new timeSeed chaos worker.workerId)).Accepts
    ⟨ChaosState.new timeSeed chaos worker.workerId, [], false⟩ trace

namespace FaultRun

variable {worker : Worker} {chaos : ChaosConfig}

/-- The generator of the slot before its first draw. -/
def start (run : FaultRun worker chaos) : ChaosState :=
  ChaosState.new run.timeSeed chaos worker.workerId

/-- What the trace of the run shows. -/
def ledger (run : FaultRun worker chaos) : FaultLedger :=
  (FaultLedger.monitor run.start).after ⟨run.start, [], false⟩ run.trace

/-- The data sends of the slot, in order. -/
def sends (run : FaultRun worker chaos) : List FaultSend := run.ledger.sends.reverse

/-- **Every plan of a run is the generator's after the sends before it.** -/
theorem plan_eq (run : FaultRun worker chaos) (hmode : worker.config.mode = .echo)
    (hchaos : worker.config.chaos.isSome = true) {before after : List FaultSend}
    {send : FaultSend} (hsends : run.sends = before ++ send :: after) :
    send.plan = (run.start.afterSends before.reverse).planSend.1 := by
  have hsafe : (FaultLedger.monitor run.start).Safe ⟨run.start, [], false⟩ := trivial
  have hplanned : run.start.Planned run.ledger.sends :=
    ((FaultLedger.monitor run.start).wp_sound run.runs hsafe
      (FaultLedger.holds_run hmode hchaos _ (FaultLedger.settled_init _)) run.draws).1
  have hreverse : run.ledger.sends = after.reverse ++ send :: before.reverse := by
    refine List.reverse_injective (Eq.trans hsends ?_)
    rw [List.reverse_append, List.reverse_cons, List.reverse_reverse, List.reverse_reverse,
      List.append_assoc, List.singleton_append]
  rw [hreverse] at hplanned
  exact hplanned.plan

end FaultRun

/-- **Two runs of a seeded slot plan a send alike** when nothing is drawn for a
plan, or when the sends before it met the same in both: a reply in time where
connections are closed at random, and a byte to change in a frame that was to
be corrupted. -/
theorem plans_agree {worker : Worker} {chaos : ChaosConfig} (hmode : worker.config.mode = .echo)
    (hchaos : worker.config.chaos = some chaos) (hseed : chaos.seed.isSome = true)
    (run run' : FaultRun worker chaos) {before before' after after' : List FaultSend}
    {send send' : FaultSend} (hsends : run.sends = before ++ send :: after)
    (hsends' : run'.sends = before' ++ send' :: after')
    (halike : (chaos.jitter = 0 ∧ chaos.dropPercent ≤ 0 ∧ chaos.corruptPercent ≤ 0)
      ∨ List.Forall₂ (FaultSend.Alike chaos) before before') :
    send.plan = send'.plan := by
  have hsome : worker.config.chaos.isSome = true := by rw [hchaos]; rfl
  have hstart : run'.start = run.start := ChaosState.new_eq hseed _ _ _
  rw [run.plan_eq hmode hsome hsends, run'.plan_eq hmode hsome hsends', hstart]
  have hconfig : ∀ sends, (run.start.afterSends sends).config = chaos :=
    fun sends => run.start.afterSends_config sends
  obtain ⟨hjitter, hdrop, hcorrupt⟩ | halike := halike
  · have hfixed : ∀ sends, (run.start.afterSends sends).planSend.1 = { delay := chaos.delay } := by
      intro sends
      have hplan := @ChaosState.planSend_of_fixed (run.start.afterSends sends)
      rw [hconfig] at hplan
      exact hplan hjitter hdrop hcorrupt
    rw [hfixed, hfixed]
  · exact (ChaosState.sameDraws_afterSends (List.rel_reverse halike)).planSend.1

/-- Faults of which every second send is dropped and few replies close the
connection. -/
def fewCloses : ChaosConfig := { dropPercent := 50, closePercent := 1, seed := some 15 }

/-- A worker with these faults. -/
def faultyEcho : Worker := plainWorker
  { LoadTestConfig.defaults "ws://localhost:9000/" with
    payload := .staticText "hello"
    chaos := some fewCloses }

/-- The generator of its slot after the plan of the first send. -/
def firstPlanned : ChaosState := (ChaosState.new 0 fewCloses 0).planSend.2

/-- What happens to the worker when every wait comes to `woken` and the second
plan is `second`. -/
def faultyAnswers (woken : Woken) (second : SendPlan) (n : ℕ) : (e : Eff) → e.Answer
  | .chaosPlan => if n < 15 then (ChaosState.new 0 fewCloses 0).planSend.1 else second
  | .chaosCloseNow => firstPlanned.closeNow.1
  | e => calm (fun _ _ => woken) n e

/-- The run in which the first request gets its reply, up to the second
plan. -/
def repliedRun : FaultRun faultyEcho fewCloses where
  timeSeed := 0
  trace := (Proc.run (faultyAnswers (.read (some (.ok (.text "hello"))))
    firstPlanned.closeNow.2.planSend.1) 28 0 faultyEcho.run).1
  result := _
  runs := Proc.runs_run _ _ _ _
  draws := by decide +kernel

/-- The run in which it does not, and the worker connects again. -/
def lostRun : FaultRun faultyEcho fewCloses where
  timeSeed := 0
  trace := (Proc.run (faultyAnswers .timedOut firstPlanned.planSend.1) 35 0 faultyEcho.run).1
  result := _
  runs := Proc.runs_run _ _ _ _
  draws := by decide +kernel

/-- **A request without a reply shifts the plans after it**: the close that is
not drawn for it is the next send's draw. -/
theorem plans_shift : ¬∀ (run run' : FaultRun faultyEcho fewCloses) (k : ℕ)
    (send send' : FaultSend), run.sends[k]? = some send → run'.sends[k]? = some send' →
      send.plan = send'.plan := by
  intro hall
  have hplans := hall repliedRun lostRun 1 { plan := { } } { plan := { drop := true } }
    (by decide +kernel) (by decide +kernel)
  exact absurd hplans (by decide)

/-- The run in which the server closes the connection instead. -/
def hungUpRun : FaultRun faultyEcho fewCloses where
  timeSeed := 0
  trace := (Proc.run (faultyAnswers (.read none) firstPlanned.planSend.1) 35 0 faultyEcho.run).1
  result := _
  runs := Proc.runs_run _ _ _ _
  draws := by decide +kernel

/-- A timeout and a close are the same to the plans after them. -/
theorem plans_agree_lost : ∃ send send' : FaultSend,
    lostRun.sends = [{ plan := { } }, send] ∧ hungUpRun.sends = [{ plan := { } }, send']
      ∧ send.plan = send'.plan := by
  have hlost : lostRun.sends = [{ plan := { } }, { plan := { drop := true } }] := by
    decide +kernel
  have hclosed : hungUpRun.sends = [{ plan := { } }, { plan := { drop := true } }] := by
    decide +kernel
  exact ⟨_, _, hlost, hclosed, plans_agree rfl rfl rfl lostRun hungUpRun hlost hclosed
    (.inr (.cons ⟨fun _ => rfl, rfl⟩ .nil))⟩

end WsBlast
