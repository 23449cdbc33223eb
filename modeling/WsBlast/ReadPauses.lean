import WsBlast.FaultDecisions

/-!
# Read pauses leave the send faults alone

Reads fall between sends as timing has it, so they draw from a generator of
their own. What is decided about sends depends on a part of a slot's state
only (`ChaosState.sendPart`), which a read pause does not touch: the decisions
about sends are those of the run with its read pauses left out
(`sendDecisions_eq`).

Chaos pauses between two reads, so that a server meets a client that does not
empty its buffers. When a pause is drawn depends on when frames arrive, which
no seed determines. If reads and sends drew from one generator, two runs of the
same seed would inject different faults; so a slot has two, both seeded from
the seed of the slot.
-/

namespace WsBlast

/-! ## Decisions about sends

The projection, and that the questions about sends are answered from it. -/

/-- The settings without the read pauses. -/
def ChaosConfig.withoutReads (config : ChaosConfig) : ChaosConfig :=
  { config with readPause := 0, readJitter := 0 }

/-- Whether a draw is about a send. -/
def ChaosDraw.aboutSend : ChaosDraw → Bool
  | .readPause => false
  | _ => true

/-- Whether a decision is about a send. -/
def ChaosDecision.aboutSend : ChaosDecision → Bool
  | .pause _ => false
  | _ => true

namespace ChaosState

/-- What of a state decides about sends; the read pauses are off. -/
def sendPart (state : ChaosState) : ChaosState where
  config := state.config.withoutReads
  rng := state.rng
  readRng := ⟨1⟩

variable (state : ChaosState)

theorem drawDelay_sendPart :
    state.sendPart.drawDelay = (state.drawDelay.1, state.drawDelay.2.sendPart) := by
  unfold drawDelay
  show (if state.config.jitter = 0 then _ else _) = _
  split_ifs <;> rfl

theorem planSend_sendPart :
    state.sendPart.planSend = (state.planSend.1, state.planSend.2.sendPart) := by
  unfold planSend
  rw [drawDelay_sendPart]
  dsimp only
  show (if 0 < state.drawDelay.2.config.dropPercent
    ∨ 0 < state.drawDelay.2.config.corruptPercent then _ else _) = _
  split_ifs <;> rfl

theorem closeNow_sendPart :
    state.sendPart.closeNow = (state.closeNow.1, state.closeNow.2.sendPart) := by
  unfold closeNow
  show (if state.config.closePercent ≤ 0 then _ else _) = _
  split_ifs <;> rfl

theorem corrupt_sendPart (msg : Message) :
    state.sendPart.corrupt msg = ((state.corrupt msg).1, (state.corrupt msg).2.sendPart) := by
  obtain ⟨config, rng, readRng⟩ := state
  cases msg with
  | text value =>
    simp only [corrupt, sendPart]
    split_ifs
    · rfl
    · rfl
    · split
      · rfl
      · split <;> rfl
  | binary bytes =>
    simp only [corrupt, sendPart]
    split_ifs <;> rfl
  | _ => rfl

/-- **A read pause changes nothing about sends.** -/
theorem sendPart_readPause : state.readPause.2.sendPart = state.sendPart := by
  unfold readPause
  split_ifs <;> rfl

/-- A draw about a send is answered from the send part. -/
theorem answer_sendPart {draw : ChaosDraw} (h : draw.aboutSend = true) :
    state.sendPart.answer draw = ((state.answer draw).1, (state.answer draw).2.sendPart) := by
  cases draw with
  | planSend => simp only [answer, planSend_sendPart]
  | closeNow => simp only [answer, closeNow_sendPart]
  | corrupt msg => simp only [answer, corrupt_sendPart]
  | readPause => cases h

theorem aboutSend_answer (draw : ChaosDraw) :
    (state.answer draw).1.aboutSend = draw.aboutSend := by
  cases draw <;> rfl

/-- **The decisions about sends are those of the draws about sends.** -/
theorem sendDecisions_eq (draws : List ChaosDraw) :
    (state.decisions draws).filter ChaosDecision.aboutSend
      = state.sendPart.decisions (draws.filter ChaosDraw.aboutSend) := by
  induction draws generalizing state with
  | nil => rfl
  | cons draw draws ih =>
    rw [decisions, List.filter_cons, List.filter_cons, aboutSend_answer]
    by_cases h : draw.aboutSend = true
    · rw [if_pos h, if_pos h, decisions, answer_sendPart state h, ih]
    · have hpause : draw = .readPause := by
        cases draw <;> first | rfl | exact absurd rfl h
      subst hpause
      rw [if_neg h, if_neg h, ih]
      exact congrArg (fun part : ChaosState => part.decisions _) state.sendPart_readPause

/-! ## The bounds of a decision

Each knob by itself, and what a draw does when none of its knobs is set. -/

/-- A drawn jitter is within the jitter. -/
theorem jitter_le (rng : XorShift64) (jitter : Duration) :
    (rng.atMost (jitterBound jitter)).1.toNat ≤ jitter := by
  have hle := rng.atMost_le (jitterBound jitter)
  have hbound : (jitterBound jitter).toNat ≤ min jitter (2 ^ 64 - 1) := Nat.mod_le _ _
  exact (hle.trans hbound).trans (Nat.min_le_left _ _)

theorem drawDelay_bounds : state.config.delay ≤ state.drawDelay.1 ∧
    state.drawDelay.1 ≤ state.config.delay + state.config.jitter := by
  unfold drawDelay
  split_ifs
  · exact ⟨le_rfl, Nat.le_add_right _ _⟩
  · exact ⟨Nat.le_add_right _ _, Nat.add_le_add_left (jitter_le _ _) _⟩

/-- A plan's delay is within its bounds, and it does not both drop and
corrupt. -/
theorem planSend_bounds : (state.config.delay ≤ state.planSend.1.delay ∧
    state.planSend.1.delay ≤ state.config.delay + state.config.jitter) ∧
      ¬(state.planSend.1.drop = true ∧ state.planSend.1.corrupt = true) := by
  unfold planSend
  dsimp only
  split_ifs
  · refine ⟨state.drawDelay_bounds, fun ⟨hdrop, hcorrupt⟩ => ?_⟩
    dsimp only at hdrop hcorrupt
    rw [hdrop] at hcorrupt
    cases hcorrupt
  · exact ⟨state.drawDelay_bounds, fun h => nomatch h.1⟩

theorem readPause_bounds {pause : Duration} (h : state.readPause.1 = some pause) :
    state.config.readPause ≤ pause ∧
      pause ≤ state.config.readPause + state.config.readJitter := by
  unfold readPause at h
  split_ifs at h
  · cases h
    exact ⟨le_rfl, Nat.le_add_right _ _⟩
  · cases h
    exact ⟨Nat.le_add_right _ _, Nat.add_le_add_left (jitter_le _ _) _⟩

/-- A draw none of whose knobs is set. -/
def Unset (config : ChaosConfig) : ChaosDraw → Prop
  | .planSend => config.jitter = 0 ∧ config.dropPercent ≤ 0 ∧ config.corruptPercent ≤ 0
  | .closeNow => config.closePercent ≤ 0
  | .readPause => config.readJitter = 0
  | .corrupt _ => False

/-- **Such a draw takes nothing from either generator.** -/
theorem answer_unset {draw : ChaosDraw} (h : Unset state.config draw) :
    (state.answer draw).2 = state := by
  cases draw with
  | planSend =>
    obtain ⟨hjitter, hdrop, hcorrupt⟩ := h
    have hdelay : state.drawDelay = (state.config.delay, state) := if_pos hjitter
    show state.planSend.2 = state
    unfold planSend
    rw [hdelay]
    dsimp only
    rw [if_neg (not_or.mpr ⟨not_lt.mpr hdrop, not_lt.mpr hcorrupt⟩)]
  | closeNow =>
    show state.closeNow.2 = state
    unfold closeNow
    rw [if_pos (show state.config.closePercent ≤ 0 from h)]
  | readPause =>
    show state.readPause.2 = state
    unfold readPause
    split_ifs
    · rfl
    · rfl
    · exact absurd h ‹_›
  | corrupt msg => cases h

/-- A draw leaves the settings as they are. -/
theorem config_answer (draw : ChaosDraw) : (state.answer draw).2.config = state.config := by
  cases draw with
  | planSend =>
    have hdelay : state.drawDelay.2.config = state.config := by
      unfold drawDelay
      split_ifs <;> rfl
    show state.planSend.2.config = _
    unfold planSend
    dsimp only
    split_ifs <;> exact hdelay
  | closeNow =>
    show state.closeNow.2.config = _
    unfold closeNow
    split_ifs <;> rfl
  | corrupt msg =>
    show (state.corrupt msg).2.config = _
    rw [corrupt_snd]
    unfold skipCorrupt
    split_ifs <;> rfl
  | readPause =>
    show state.readPause.2.config = _
    unfold readPause
    split_ifs <;> rfl

theorem config_after (draws : List ChaosDraw) : (state.after draws).config = state.config := by
  induction draws generalizing state with
  | nil => rfl
  | cons draw draws ih => exact (ih _).trans (state.config_answer draw)

end ChaosState

/-- **Read pauses do not disturb the faults of sends.** Two runs of a slot
with the same seed, whose settings differ in the read pauses and whose draws
differ in when they pause, decide alike about every send; and every decision
is within the bounds of its knobs, whatever the state it is made in. -/
theorem read_pauses_apart :
    (∀ (t t' : UInt64) (config config' : ChaosConfig) (slot : ℕ) (draws draws' : List ChaosDraw),
      config.seed.isSome → config.withoutReads = config'.withoutReads →
      draws.filter ChaosDraw.aboutSend = draws'.filter ChaosDraw.aboutSend →
      ((ChaosState.new t config slot).decisions draws).filter ChaosDecision.aboutSend
        = ((ChaosState.new t' config' slot).decisions draws').filter ChaosDecision.aboutSend) ∧
    ∀ (start : ChaosState) (before : List ChaosDraw),
      let config := start.config
      let state := start.after before
      (config.delay ≤ state.planSend.1.delay ∧
        state.planSend.1.delay ≤ config.delay + config.jitter) ∧
      ¬(state.planSend.1.drop = true ∧ state.planSend.1.corrupt = true) ∧
      (∀ pause, state.readPause.1 = some pause →
        config.readPause ≤ pause ∧ pause ≤ config.readPause + config.readJitter) ∧
      ∀ draw, ChaosState.Unset config draw →
        (state.answer draw).2.rng = state.rng ∧ (state.answer draw).2.readRng = state.readRng := by
  constructor
  · intro t t' config config' slot draws draws' hseed hconfig hdraws
    have hseeds : config.withoutReads.seed = config'.withoutReads.seed :=
      congrArg ChaosConfig.seed hconfig
    change config.seed = config'.seed at hseeds
    have hpart : (ChaosState.new t config slot).sendPart
        = (ChaosState.new t' config' slot).sendPart := by
      rw [ChaosState.new_eq hseed t t' slot]
      unfold ChaosState.sendPart ChaosState.new
      dsimp only
      rw [hconfig, hseeds]
    rw [ChaosState.sendDecisions_eq, ChaosState.sendDecisions_eq, hpart, hdraws]
  · intro start before
    dsimp only
    rw [← start.config_after before]
    generalize start.after before = state
    refine ⟨state.planSend_bounds.1, state.planSend_bounds.2,
      fun pause h => state.readPause_bounds h, fun draw h => ?_⟩
    rw [state.answer_unset h]
    exact ⟨rfl, rfl⟩

/-- Faults with a chance each, and read pauses of 5 to 7 ms. -/
def pausing : ChaosConfig where
  delay := Duration.ofMillis 1
  jitter := Duration.ofMillis 2
  dropPercent := 50
  corruptPercent := 25
  closePercent := 10
  readPause := Duration.ofMillis 5
  readJitter := Duration.ofMillis 2
  seed := some 7

/-- With two read pauses between its sends and without any, a slot decides alike
about the sends; and the pause is within its bounds. -/
theorem read_pauses_apart_pausing :
    ((ChaosState.new 0 pausing 3).decisions
        [.planSend, .readPause, .closeNow, .readPause, .planSend]).filter ChaosDecision.aboutSend
      = ((ChaosState.new 9 pausing.withoutReads 3).decisions
        [.planSend, .closeNow, .planSend]).filter ChaosDecision.aboutSend
    ∧ ∃ pause, ((ChaosState.new 0 pausing 3).after [.planSend]).readPause.1 = some pause
      ∧ Duration.ofMillis 5 ≤ pause ∧ pause ≤ Duration.ofMillis 5 + Duration.ofMillis 2 := by
  refine ⟨read_pauses_apart.1 0 9 pausing pausing.withoutReads 3 _ _ rfl rfl rfl, ?_⟩
  obtain ⟨pause, hpause⟩ := Option.isSome_iff_exists.mp
    (show ((ChaosState.new 0 pausing 3).after [.planSend]).readPause.1.isSome = true by
      decide +kernel)
  obtain ⟨-, -, hbounds, -⟩ := read_pauses_apart.2 (ChaosState.new 0 pausing 3) [.planSend]
  exact ⟨pause, hpause, hbounds pause hpause⟩

end WsBlast
