import WsBlast.ChaosState
import WsBlast.Lib.BitMix
import Mathlib.Data.Fintype.EquivFin
import Mathlib.Data.Set.Function

/-!
# Seeds do not collide

Every agent of a distributed run draws from a seed of its own, and on each
machine every connection slot from its own again. Both are mixed from the
run's seed and a position with `splitmix64`, which is a bijection of the
64-bit words (`splitmix64_bijective`), so two positions never share a seed.

What a seed gives is a xorshift state, and the one state such a generator
cannot leave is zero. `XorShift64.new` avoids it and no draw leads to it
(`XorShift64.nextU64_ne_zero`), so a worker that starts with two generators in
other states keeps them there (`ChaosState.Live`).

A run is reproducible when every random decision is determined by the seed of
the run and by who makes it.
-/

namespace WsBlast

/-! ## The mixer

Each step of the mixer is undone by another one. -/

theorem splitmix64_injective : Function.Injective splitmix64 := by
  have h30 := @BitMix.xor_ushiftRight_injective 64 30 (by decide)
  have h27 := @BitMix.xor_ushiftRight_injective 64 27 (by decide)
  have h31 := @BitMix.xor_ushiftRight_injective 64 31 (by decide)
  have hfirst := BitMix.mul_injective
    (show 0xbf58476d1ce4e5b9#64 * 0x96de1b173f119089#64 = 1#64 by decide)
  have hsecond := BitMix.mul_injective
    (show 0x94d049bb133111eb#64 * 0x319642b2d24d8ec3#64 = 1#64 by decide)
  intro x y h
  -- the steps of the mixer, undone from the last to the first
  have hsum := h30 (hfirst (h27 (hsecond (h31 (congrArg UInt64.toBitVec h)))))
  exact (UInt64.add_left_inj 0x9e3779b97f4a7c15).mp (UInt64.toBitVec_inj.mp hsum)

/-- **`splitmix64` is a bijection**: it gives every word, each for one seed. -/
theorem splitmix64_bijective : Function.Bijective splitmix64 := by
  have : Finite UInt64 := Finite.of_injective UInt64.toFin fun _ _ h => UInt64.toFin_inj.mp h
  exact Finite.injective_iff_bijective.mp splitmix64_injective

theorem rotateLeft_injective : Function.Injective fun x => rotateLeft x 17 := by
  intro x y h
  exact UInt64.toBitVec_inj.mp
    (@BitMix.rotate_injective 64 17 (by decide) _ _ (congrArg UInt64.toBitVec h))

/-- Positions that `usize` holds are different words. -/
theorem ofNat_injOn : Set.InjOn UInt64.ofNat {i | i < 2 ^ 64} := by
  intro i hi j hj h
  have htoNat := congrArg UInt64.toNat h
  rwa [UInt64.toNat_ofNat_of_lt' hi, UInt64.toNat_ofNat_of_lt' hj] at htoNat

/-- The agents of a run draw from seeds of their own. -/
theorem agentSeed_injOn (seed : UInt64) : Set.InjOn (agentSeed seed) {agent | agent < 2 ^ 64} := by
  intro i hi j hj h
  have hrotated := (UInt64.xor_right_inj seed).mp (splitmix64_injective h)
  have hnext := splitmix64_injective (rotateLeft_injective hrotated)
  exact ofNat_injOn hi hj ((UInt64.add_left_inj 1).mp hnext)

/-! ## The generator

A step of the generator is linear over single bits and invertible, so that zero
comes from zero alone. -/

namespace XorShift64

variable {rng : XorShift64}

/-- A generator that can draw: its state is not the one it cannot leave. -/
def Live (rng : XorShift64) : Prop := rng.state ≠ 0

theorem live_new (seed : UInt64) : (new seed).Live := by
  show (if splitmix64 seed ≤ 1 then 1 else splitmix64 seed) ≠ 0
  split
  · decide
  · rename_i hlarge
    intro hzero
    rw [hzero] at hlarge
    exact hlarge (by decide)

/-- **A draw leads from zero alone to zero.** -/
theorem Live.nextU64 (h : rng.Live) : rng.nextU64.2.Live := by
  intro hzero
  -- the three shifts of the step, undone from the last to the first
  have h17 := BitMix.xor_shiftLeft_eq_zero (k := 17) (by decide) (congrArg UInt64.toBitVec hzero)
  have h7 := BitMix.xor_ushiftRight_eq_zero (k := 7) (by decide) h17
  have h13 := BitMix.xor_shiftLeft_eq_zero (k := 13) (by decide) h7
  exact h (UInt64.toBitVec_inj.mp h13)

/-- The generator after some draws. -/
def draws (rng : XorShift64) : ℕ → XorShift64
  | 0 => rng
  | n + 1 => (rng.draws n).nextU64.2

theorem Live.draws (h : rng.Live) (n : ℕ) : (rng.draws n).Live := by
  induction n with
  | zero => exact h
  | succ n ih => exact ih.nextU64

end XorShift64

/-! ## A worker's draws

Every draw of a slot draws from one of its generators, or from none. -/

namespace ChaosState

variable {state : ChaosState}

/-- Both generators can draw. -/
def Live (state : ChaosState) : Prop := state.rng.Live ∧ state.readRng.Live

theorem live_new (timeSeed : UInt64) (config : ChaosConfig) (workerId : ℕ) :
    (new timeSeed config workerId).Live := ⟨XorShift64.live_new _, XorShift64.live_new _⟩

theorem Live.drawDelay (h : state.Live) : state.drawDelay.2.Live := by
  unfold ChaosState.drawDelay
  split
  · exact h
  · exact ⟨h.1.nextU64, h.2⟩

theorem Live.planSend (h : state.Live) : state.planSend.2.Live := by
  unfold ChaosState.planSend
  dsimp only
  split
  · exact ⟨h.drawDelay.1.nextU64, h.drawDelay.2⟩
  · exact h.drawDelay

theorem Live.readPause (h : state.Live) : state.readPause.2.Live := by
  unfold ChaosState.readPause
  split
  · exact h
  · split
    · exact h
    · exact ⟨h.1, h.2.nextU64⟩

theorem Live.closeNow (h : state.Live) : state.closeNow.2.Live := by
  unfold ChaosState.closeNow
  split
  · exact h
  · exact ⟨h.1.nextU64, h.2⟩

theorem Live.flipBit (h : state.Live) (bytes : Bytes) : (state.flipBit bytes).2.Live :=
  ⟨h.1.nextU64.nextU64, h.2⟩

theorem Live.corrupt (h : state.Live) (msg : Message) : (state.corrupt msg).2.Live := by
  unfold ChaosState.corrupt
  split
  · rename_i text
    dsimp only
    split
    · split
      · exact h
      · exact h.flipBit text.toUTF8.data.toList
    · split
      · exact ⟨h.1.nextU64, h.2⟩
      · split
        · exact ⟨h.1.nextU64.nextU64, h.2⟩
        · exact ⟨h.1.nextU64.nextU64, h.2⟩
  · rename_i bytes
    split
    · exact h
    · exact h.flipBit bytes
  · exact h

/-- No draw of a worker stops its generators. -/
theorem Live.answer (h : state.Live) (draw : ChaosDraw) : (state.answer draw).2.Live := by
  cases draw with
  | planSend => exact h.planSend
  | closeNow => exact h.closeNow
  | corrupt msg => exact h.corrupt msg
  | readPause => exact h.readPause

theorem Live.after (h : state.Live) (draws : List ChaosDraw) : (state.after draws).Live := by
  induction draws generalizing state with
  | nil => exact h
  | cons draw rest ih => exact ih (h.answer draw)

/-! ## The seeds of the slots

The seeds as the source computes them, and that they differ from slot to slot.
-/

/-- The seed of the generator slot `workerId` decides about sends and closes
with. -/
def sendSeed (seed : UInt64) (workerId : ℕ) : UInt64 :=
  seed ^^^ splitmix64 (UInt64.ofNat workerId)

/-- The seed of the generator slot `workerId` draws its read pauses with. -/
def readSeed (seed : UInt64) (workerId : ℕ) : UInt64 :=
  splitmix64 (seed ^^^ readStream) ^^^ splitmix64 (UInt64.ofNat workerId)

theorem new_rng (timeSeed : UInt64) (config : ChaosConfig) (workerId : ℕ) :
    (new timeSeed config workerId).rng
      = XorShift64.new (sendSeed (config.seed.getD timeSeed) workerId) := rfl

theorem new_readRng (timeSeed : UInt64) (config : ChaosConfig) (workerId : ℕ) :
    (new timeSeed config workerId).readRng
      = XorShift64.new (readSeed (config.seed.getD timeSeed) workerId) := rfl

theorem xor_splitmix64_injOn (seed : UInt64) :
    Set.InjOn (fun i => seed ^^^ splitmix64 (UInt64.ofNat i)) {i | i < 2 ^ 64} := by
  intro i hi j hj h
  exact ofNat_injOn hi hj (splitmix64_injective ((UInt64.xor_right_inj seed).mp h))

end ChaosState

/-- **Seeds do not collide.** `splitmix64` is a bijection; the agents of a run
and the slots of a machine each draw from seeds of their own; and no generator
of a slot starts in the state it cannot leave or gets there, by draws of its
own or by those a worker makes. -/
theorem seeds_distinct :
    Function.Bijective splitmix64
    ∧ (∀ seed, Set.InjOn (agentSeed seed) {agent | agent < 2 ^ 64})
    ∧ (∀ seed, Set.InjOn (ChaosState.sendSeed seed) {slot | slot < 2 ^ 64}
      ∧ Set.InjOn (ChaosState.readSeed seed) {slot | slot < 2 ^ 64})
    ∧ (∀ timeSeed config slot,
      let seed := config.seed.getD timeSeed
      let state := ChaosState.new timeSeed config slot
      state.rng = XorShift64.new (ChaosState.sendSeed seed slot)
        ∧ state.readRng = XorShift64.new (ChaosState.readSeed seed slot))
    ∧ (∀ seed n, ((XorShift64.new seed).draws n).state ≠ 0)
    ∧ ∀ timeSeed config slot draws,
      ((ChaosState.new timeSeed config slot).after draws).rng.state ≠ 0
      ∧ ((ChaosState.new timeSeed config slot).after draws).readRng.state ≠ 0 := by
  refine ⟨splitmix64_bijective, agentSeed_injOn, ?_, ?_, ?_, ?_⟩
  · intro seed
    exact ⟨ChaosState.xor_splitmix64_injOn _, ChaosState.xor_splitmix64_injOn _⟩
  · intro timeSeed config slot
    exact ⟨ChaosState.new_rng _ _ _, ChaosState.new_readRng _ _ _⟩
  · intro seed n
    exact (XorShift64.live_new seed).draws n
  · intro timeSeed config slot draws
    exact (ChaosState.live_new timeSeed config slot).after draws

end WsBlast
