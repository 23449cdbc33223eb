import WsBlast.Message

/-!
# The fault generator of a connection slot

Every worker owns a `ChaosState`: the run's fault settings and two xorshift
generators seeded from the run's seed and the slot's number, one for the
decisions about sends and closes and one for the read pauses. What a worker
asks of it is a sequence of draws (`ChaosDraw`), and `decisions` is what it
answers.

The state of a slot depends on the clock only when the settings have no seed
(`ChaosState.new_eq`); draws are exact rationals.

The generator is small on purpose: three shifts, seeded through a mixer so that
slots with neighbouring numbers do not draw neighbouring sequences. Its only
fixed point is the zero state, and the seed is kept away from it.
-/

namespace WsBlast

/-- The seed the clock gives: nanoseconds since the epoch and the process's
number, mixed. -/
def timeSeed (nanos : UInt64) (pid : UInt32) : UInt64 :=
  splitmix64 (nanos ^^^ rotateLeft pid.toUInt64 32)

/-! ## The generator

Integer arithmetic modulo 2^64, as in the source. -/

/-- Marsaglia's xorshift64. -/
structure XorShift64 where
  state : UInt64
  deriving DecidableEq, Repr

namespace XorShift64

/-- The generator of a seed. A zero state would stay zero. -/
def new (seed : UInt64) : XorShift64 := ⟨max (splitmix64 seed) 1⟩

/-- The next 64 bits. -/
def nextU64 (rng : XorShift64) : UInt64 × XorShift64 :=
  let x := rng.state
  let x := x ^^^ (x <<< 13)
  let x := x ^^^ (x >>> 7)
  let x := x ^^^ (x <<< 17)
  (x, ⟨x⟩)

/-- Uniform in `[0, 1)`. -/
def nextF64 (rng : XorShift64) : ℚ × XorShift64 :=
  let (x, rng) := rng.nextU64
  (((x >>> 11).toNat : ℚ) / 2 ^ 53, rng)

/-- Uniform in `0..=max`. -/
def atMost (rng : XorShift64) (max : UInt64) : UInt64 × XorShift64 :=
  let (x, rng) := rng.nextU64
  (if max.toNat + 1 < 2 ^ 64 then x % (max + 1) else x, rng)

end XorShift64

/-! ## Decisions

Each decision is a function from the state to an answer and the next state. -/

/-- Mixed into the seed of the read-pause generator. -/
def readStream : UInt64 := 0x7265616470617573

/-- One worker's fault settings and generators. -/
structure ChaosState where
  config : ChaosConfig
  rng : XorShift64
  /-- Draws the read-pause jitter, apart from the send decisions. -/
  readRng : XorShift64
  deriving DecidableEq

/-- A jitter as the bound of a draw. -/
def jitterBound (jitter : Duration) : UInt64 := UInt64.ofNat (min jitter (2 ^ 64 - 1))

/-- A printable ASCII character other than `original`; `offset` picks which of
the 94 others. -/
def otherPrintable (original offset : UInt8) : UInt8 :=
  let base := max 0x20 (min 0x7e original) - 0x20
  0x20 + (base + 1 + offset % 94) % 95

namespace ChaosState

/-- The state of connection slot `workerId`. `timeSeed` is what the clock
gives for a seed. -/
def new (timeSeed : UInt64) (config : ChaosConfig) (workerId : ℕ) : ChaosState :=
  let seed := config.seed.getD timeSeed
  let slot := splitmix64 (UInt64.ofNat workerId)
  { config
    rng := XorShift64.new (seed ^^^ slot)
    readRng := XorShift64.new (splitmix64 (seed ^^^ readStream) ^^^ slot) }

variable (state : ChaosState)

/-- The pause before a send: the delay, and up to the jitter more. -/
def drawDelay : Duration × ChaosState :=
  if state.config.jitter = 0 then (state.config.delay, state)
  else
    let (extra, rng) := state.rng.atMost (jitterBound state.config.jitter)
    (state.config.delay + extra.toNat, { state with rng })

/-- Draws the plan of the next data send: the jitter, then drop or corrupt,
and only for knobs that are set. -/
def planSend : SendPlan × ChaosState :=
  let (delay, state) := state.drawDelay
  let drop := state.config.dropPercent
  let corrupt := state.config.corruptPercent
  if 0 < drop ∨ 0 < corrupt then
    let (draw, rng) := state.rng.nextF64
    let draw := draw * 100
    let dropped : Bool := draw < drop
    ({ delay, drop := dropped, corrupt := !dropped && draw < drop + corrupt }, { state with rng })
  else ({ delay }, state)

/-- How long to pause after reading a data frame. -/
def readPause : Option Duration × ChaosState :=
  if state.config.pausesReads = false then (none, state)
  else if state.config.readJitter = 0 then (some state.config.readPause, state)
  else
    let (extra, readRng) := state.readRng.atMost (jitterBound state.config.readJitter)
    (some (state.config.readPause + extra.toNat), { state with readRng })

/-- Whether to close the connection now; `some graceful` when it closes. -/
def closeNow : Option Bool × ChaosState :=
  if state.config.closePercent ≤ 0 then (none, state)
  else
    let (draw, rng) := state.rng.nextF64
    (if draw * 100 < state.config.closePercent then
        some (state.config.closeMode = .graceful)
      else none,
      { state with rng })

/-- Flips one bit of a randomly chosen byte. -/
def flipBit (bytes : Bytes) : Bytes × ChaosState :=
  let (pos, rng) := state.rng.atMost (UInt64.ofNat (bytes.length - 1))
  let (bit, rng) := rng.atMost 7
  (bytes.modify pos.toNat (· ^^^ (1 <<< bit.toUInt8)), { state with rng })

/-- The positions of the ASCII bytes. -/
def asciiPositions (bytes : Bytes) : List ℕ := bytes.findIdxs (· < 128)

/-- Corrupts one byte of a message: the frame to send, and whether it was
changed. A text keeps its length and stays a text when it has an ASCII
character; an empty payload is sent as it is. -/
def corrupt (msg : Message) : (Message × Bool) × ChaosState :=
  match msg with
  | .text text =>
    let bytes := text.toUTF8.data.toList
    let positions := asciiPositions bytes
    if positions = [] then
      if bytes = [] then ((.text text, false), state)
      else
        let (flipped, state) := state.flipBit bytes
        ((.binary flipped, true), state)
    else
      let (nth, rng) := state.rng.atMost (UInt64.ofNat (positions.length - 1))
      match positions[nth.toNat]? with
      | none => ((.text text, false), { state with rng })
      | some pos =>
        let (offset, rng) := rng.atMost 93
        let out := bytes.modify pos (fun b => otherPrintable b offset.toUInt8)
        match String.fromUTF8? ⟨out.toArray⟩ with
        | some corrupted => ((.text corrupted, true), { state with rng })
        | none => ((.text text, false), { state with rng })
  | .binary bytes =>
    if bytes = [] then ((.binary bytes, false), state)
    else
      let (flipped, state) := state.flipBit bytes
      ((.binary flipped, true), state)
  | other => ((other, false), state)

end ChaosState

/-- What a worker asks its generator. -/
inductive ChaosDraw where
  | planSend
  | closeNow
  | corrupt (msg : Message)
  | readPause
  deriving DecidableEq

/-- What the generator answers. -/
inductive ChaosDecision where
  | plan (plan : SendPlan)
  | close (graceful : Option Bool)
  | frame (msg : Message) (changed : Bool)
  | pause (duration : Option Duration)
  deriving DecidableEq

namespace ChaosState

/-- The answer to one draw, and the state after it. -/
def answer (state : ChaosState) : ChaosDraw → ChaosDecision × ChaosState
  | .planSend => let (plan, state) := state.planSend; (.plan plan, state)
  | .closeNow => let (graceful, state) := state.closeNow; (.close graceful, state)
  | .corrupt msg => let (out, state) := state.corrupt msg; (.frame out.1 out.2, state)
  | .readPause => let (pause, state) := state.readPause; (.pause pause, state)

/-- The answers to a sequence of draws. -/
def decisions (state : ChaosState) : List ChaosDraw → List ChaosDecision
  | [] => []
  | draw :: rest => (state.answer draw).1 :: (state.answer draw).2.decisions rest

/-- The state after a sequence of draws. -/
def after (state : ChaosState) : List ChaosDraw → ChaosState
  | [] => state
  | draw :: rest => (state.answer draw).2.after rest

/-- **A seeded slot does not read the clock.** -/
theorem new_eq {config : ChaosConfig} (h : config.seed.isSome) (t t' : UInt64) (workerId : ℕ) :
    new t config workerId = new t' config workerId := by
  obtain ⟨seed, hseed⟩ := Option.isSome_iff_exists.mp h
  unfold new
  rw [hseed]
  rfl

end ChaosState

end WsBlast
