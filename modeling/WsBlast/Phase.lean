import WsBlast.Message
import WsBlast.Slo

/-!
# The phases of a scenario

A phase compiled from the scenario file, and the configuration it runs with:
`phaseConfig` takes the run's configuration and puts the phase's own sizing,
duration, ramp, stages, rate, payload and faults in its place.

A phase has everything a run has, except for what a phase cannot change: the
target, the mode, the headers and the timeouts are those of the run.
-/

namespace WsBlast

/-- A phase compiled from the scenario file. A worker reads the script it
extends; the rest is for the runner and the report. -/
structure CompiledPhase extends ScenarioPhase where
  name : String
  duration : Duration
  connections : ℕ
  rampRate : ℕ
  ratePerConn : ℕ
  payload : Option PayloadConfig
  /-- The names of the phase's named actions, in order, each once. -/
  actionNames : List String
  /-- Thresholds checked on this phase's own metrics. -/
  slo : SloThresholds
  /-- The phase's staged load profile; empty for a constant connection
  count. -/
  stages : List Stage
  /-- The phase's arrival-rate load model. -/
  arrivals : Option Arrivals
  /-- Faults this phase injects in place of the command line's; with all its
  knobs off, it turns them off for the phase. -/
  chaos : Option ChaosConfig

/-- The faults of a phase. A phase's own replace the command line's; without
a seed they take the command line's seed, if any. -/
def phaseChaos (timeSeed : UInt64) (base : Option ChaosConfig) (phase : Option ChaosConfig) :
    Option ChaosConfig :=
  match phase with
  | none => base
  | some chaos =>
    let fallbackSeed := base.bind ChaosConfig.seed
    if chaos.isActive then
      some ({ chaos with seed := chaos.seed.or fallbackSeed }.seeded timeSeed)
    else none

/-- The configuration a scenario phase runs with: `config` with the phase's
sizing, duration, ramp, stages, rate, payload and chaos. `timeSeed` is what
the clock gives for a seed. -/
def phaseConfig (timeSeed : UInt64) (config : LoadTestConfig) (phase : CompiledPhase) :
    LoadTestConfig :=
  { config with
    connections := phase.connections
    duration := phase.duration
    rampRate := phase.rampRate
    -- a phase without stages holds its connection count, whatever stages
    -- the base configuration had
    stages := phase.stages
    arrivals := phase.arrivals
    ratePerConn := phase.ratePerConn
    payload := phase.payload.getD config.payload
    chaos := phaseChaos timeSeed config.chaos phase.chaos }

end WsBlast
