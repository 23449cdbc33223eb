import WsBlast.Basic

/-!
# The faults a run injects

The `--chaos-*` settings (`ChaosConfig`) and the derivation of an agent's
seed from the run's. A percentage is an exact rational.

A run injects faults of its own making, so that a tester sees how a server copes
with slow, lossy or rude clients. The settings are independent knobs.
-/

namespace WsBlast

/-- How a chaos close ends a connection. -/
inductive ChaosCloseMode where
  | abrupt
  | graceful
  deriving DecidableEq, Repr

/-- The `--chaos-close-mode` spelling. -/
def ChaosCloseMode.name : ChaosCloseMode → String
  | .abrupt => "abrupt"
  | .graceful => "graceful"

/-- The faults a run injects on the client side. Every knob is off by default;
`seed` is filled in from the clock when it is not given. -/
structure ChaosConfig where
  delay : Duration := 0
  jitter : Duration := 0
  dropPercent : ℚ := 0
  corruptPercent : ℚ := 0
  closePercent : ℚ := 0
  closeMode : ChaosCloseMode := .abrupt
  readPause : Duration := 0
  readJitter : Duration := 0
  seed : Option UInt64 := none
  deriving DecidableEq

namespace ChaosConfig

variable (chaos : ChaosConfig)

/-- Whether a knob acts on data sends, which listen and GraphQL mode do not
make. -/
def actsOnSends : Bool :=
  chaos.delay ≠ 0 || chaos.jitter ≠ 0 || 0 < chaos.dropPercent || 0 < chaos.corruptPercent
    || 0 < chaos.closePercent

/-- Whether reads are paused, which works in every mode. -/
def pausesReads : Bool := chaos.readPause ≠ 0 || chaos.readJitter ≠ 0

/-- Whether any knob injects something. -/
def isActive : Bool := chaos.actsOnSends || chaos.pausesReads

/-- This configuration with a seed: the given one, or `timeSeed`, which is
picked from the clock. -/
def seeded (timeSeed : UInt64) : ChaosConfig :=
  { chaos with seed := some (chaos.seed.getD timeSeed) }

end ChaosConfig

/-- Spreads a seed's bits so that nearby seeds give unrelated sequences. -/
def splitmix64 (seed : UInt64) : UInt64 :=
  let z := seed + 0x9e3779b97f4a7c15
  let z := (z ^^^ (z >>> 30)) * 0xbf58476d1ce4e5b9
  let z := (z ^^^ (z >>> 27)) * 0x94d049bb133111eb
  z ^^^ (z >>> 31)

/-- The bits of `x` moved up by `n` places, those pushed out coming back at
the bottom. -/
def rotateLeft (x n : UInt64) : UInt64 := (x <<< n) ||| (x >>> (64 - n))

/-- The seed agent `agent` of a distributed run draws its decisions from,
derived from the run's seed and the agent's position. -/
def agentSeed (seed : UInt64) (agent : ℕ) : UInt64 :=
  splitmix64 (seed ^^^ rotateLeft (splitmix64 (UInt64.ofNat agent + 1)) 17)

end WsBlast
