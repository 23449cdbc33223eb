import WsBlast.Builder
import WsBlast.Phase

/-!
# Scenario files

A scenario file as it is read (`ScenarioConfig`), and what its phases are
compiled to (`ScenarioPhase.compile`): durations and stages parsed, the
variables and action names of a phase collected, its payloads parsed with
its variables, its faults and thresholds checked.

The types of the file are what the YAML deserializer produces, before anything
is checked: durations are texts, percentages are numbers, and every key may be
missing. Compiling is a chain of checks that stops at the first error, and
errors name the phase and the key.
-/

namespace WsBlast

open Checked (reject)

/-! ## Durations -/

/-- Decimal digits as a number. -/
def digitsValue (digits : List Char) : ℕ :=
  digits.foldl (fun acc c => acc * 10 + (c.toNat - 48)) 0

/-- An exponent: a sign and digits. -/
def parseExponent (chars : List Char) : Option ℤ :=
  let (negative, digits) := match chars with
    | '-' :: rest => (true, rest)
    | '+' :: rest => (false, rest)
    | all => (false, all)
  if digits ≠ [] ∧ digits.all Char.isDigit then
    some (if negative then -(digitsValue digits : ℤ) else digitsValue digits)
  else none

/-- The value of a finite number without a sign, as Rust's `parse` reads a
`f64`: digits, a point, digits and an exponent. -/
def parseDecimal (chars : List Char) : Option ℚ :=
  let (mantissa, exponent) := match chars.findIdx? (fun c => c = 'e' || c = 'E') with
    | some i => (chars.take i, parseExponent (chars.drop (i + 1)))
    | none => (chars, some 0)
  let (whole, fraction) := (cutAt '.' mantissa).getD (mantissa, [])
  if (whole ++ fraction ≠ []) ∧ (whole ++ fraction).all Char.isDigit then
    exponent.map (fun e =>
      (digitsValue (whole ++ fraction) : ℚ) * (10 : ℚ) ^ (e - (fraction.length : ℤ)))
  else none

/-- Nanoseconds as a duration, whose seconds must fit 64 bits. -/
def durationOfNanos (nanos : ℕ) : Option Duration :=
  if nanos / 1000000000 < 2 ^ 64 then some nanos else none

/-- A number of units of `nanosPerUnit` nanoseconds. -/
def scaleDuration (value : String) (nanosPerUnit : ℕ) : Option Duration :=
  match parseU64 value with
  | some whole => durationOfNanos (whole * nanosPerUnit)
  | none =>
    let digits := match value.toList with
      | '+' :: rest => rest
      | all => all
    (parseDecimal digits).bind (fun q => durationOfNanos (roundHalfEven (q * nanosPerUnit)))

/-- The units of a duration, in the order they are looked for. -/
def durationUnits : List (String × ℕ) :=
  [("ns", 1), ("us", 1000), ("µs", 1000), ("ms", 1000000), ("s", 1000000000),
    ("m", 60000000000), ("h", 3600000000000)]

/-- Parses a duration such as `1.5s`; a bare number is whole seconds. -/
def parseHumanDuration (text : String) : Except ConfigError Duration :=
  let text := trim text
  if text = "" then .error (.invalidDuration "empty duration string")
  else
    let scaled := durationUnits.findSome? (fun unit =>
      (textBefore unit.1 text).map (fun value => scaleDuration value unit.2))
    match scaled.getD ((parseU64 text).map Duration.ofSecs) with
    | some duration => .ok duration
    | none => .error (.invalidDuration text)

example : parseHumanDuration "1.5s" = .ok (Duration.ofMillis 1500) := by decide +kernel

/-- Parses `DURATION[:JITTER]`. -/
def parseDelay (raw : String) : Except ConfigError (Duration × Duration) :=
  match splitOnce ':' raw with
  | some (delay, jitter) => do
    return (← parseHumanDuration delay, ← parseHumanDuration jitter)
  | none => do return (← parseHumanDuration raw, 0)

/-- An optional delay; none is no delay. -/
def optionalDelay (raw : Option String) : Except ConfigError (Duration × Duration) :=
  match raw with
  | some raw => parseDelay raw
  | none => .ok (0, 0)

/-- Parses one `DURATION:TARGET` stage. -/
def Stage.parseOne (part : String) : Except ConfigError Stage :=
  let invalid : ConfigError := .invalidOption
    s!"invalid stage '{part}': expected DURATION:CONNECTIONS, such as 30s:100"
  match splitOnce ':' part with
  | none => .error invalid
  | some (duration, target) =>
    match parseU64 (trim target) with
    | none => .error invalid
    | some target => do return ⟨← parseHumanDuration (trim duration), target⟩

/-- Parses a comma-separated list of `DURATION:TARGET` stages. -/
def Stage.parseList (spec : String) : Except ConfigError (List Stage) := do
  let parts := ((splitText ',' spec).map trim).filter (· ≠ "")
  let stages ← parts.mapM Stage.parseOne
  reject (stages = []) (.invalidOption
    "--stages needs at least one DURATION:CONNECTIONS stage, such as 30s:100")
  return stages

/-! ## The file -/

/-- The `stages:` of a phase. -/
inductive StagesConfig where
  /-- The `--stages` syntax. -/
  | spec (text : String)
  /-- One duration and target per stage. -/
  | list (stages : List (String × ℕ))

/-- The `slo:` mapping of a scenario, a phase or an action. -/
structure SloConfig where
  maxP50 : Option String := none
  maxP95 : Option String := none
  maxP99 : Option String := none
  maxP999 : Option String := none
  maxErrorRate : Option ℚ := none
  minThroughput : Option ℚ := none
  maxGeneratorLag : Option String := none

/-- The `expect:` mapping of a Send action. -/
structure ExpectConfig where
  json : Option String := none
  equals : Option Json := none
  contains : Option String := none

/-- An action of a phase. -/
inductive ActionConfig where
  | send (payload : Option String) (count : Option ℕ) (expect : Option ExpectConfig)
      (capture : Option (List (String × String))) (name : Option String) (slo : Option SloConfig)
  | wait (duration : String)
  | close (code : Option ℕ) (reason : Option String)
  | ping (interval : String)

/-- The `chaos:` mapping of a phase. -/
structure ChaosYaml where
  delay : Option String := none
  drop : Option ℚ := none
  corrupt : Option ℚ := none
  close : Option ℚ := none
  closeMode : Option ChaosCloseMode := none
  readPause : Option String := none
  seed : Option UInt64 := none

/-- A phase. -/
structure PhaseConfig where
  name : String
  target : Option String := none
  duration : Option String := none
  connections : Option ℕ := none
  rampRate : Option ℕ := none
  stages : Option StagesConfig := none
  arrivalRate : Option ℚ := none
  sessionDuration : Option String := none
  maxConnections : Option ℕ := none
  ratePerConn : ℕ := 0
  payload : Option String := none
  thinkTime : Option String := none
  actions : List ActionConfig := []
  slo : Option SloConfig := none
  chaos : Option ChaosYaml := none

/-- A scenario file. -/
structure ScenarioConfig where
  version : String
  target : Option String := none
  /-- `metadata.name`. -/
  name : String
  slo : Option SloConfig := none
  data : Option String := none
  phases : List PhaseConfig

/-- The error of a phase. -/
def invalidPhase (phase message : String) : ConfigError :=
  .invalidScenario s!"phase '{phase}': {message}"

/-! ## Compiling the parts of a phase -/

/-- The faults of a phase's `chaos:` mapping. -/
def ChaosYaml.compile (chaos : ChaosYaml) (phase : String) : Except ConfigError ChaosConfig := do
  let invalid (err : ConfigError) : ConfigError :=
    .invalidScenario s!"phase '{phase}': chaos: {err.display}"
  let (delay, jitter) ← (optionalDelay chaos.delay).mapError invalid
  let (readPause, readJitter) ← (optionalDelay chaos.readPause).mapError invalid
  let compiled : ChaosConfig :=
    { delay
      jitter
      dropPercent := chaos.drop.getD 0
      corruptPercent := chaos.corrupt.getD 0
      closePercent := chaos.close.getD 0
      closeMode := chaos.closeMode.getD .abrupt
      readPause
      readJitter
      seed := chaos.seed }
  compiled.validate.mapError invalid
  return compiled

/-- The stages a phase lists. -/
def StagesConfig.parse (phase : String) : StagesConfig → Except ConfigError (List Stage)
  | .spec text =>
    if (splitText ',' text).all isBlank then .ok []
    else (Stage.parseList text).mapError (fun err =>
      .invalidScenario s!"phase '{phase}': stages: {err.display}")
  | .list stages => stages.zipIdx.mapM fun ((duration, target), index) => do
    let duration ← (parseHumanDuration duration).mapError (fun err =>
      .invalidScenario s!"phase '{phase}': stage {index + 1}: duration: {err.display}")
    return ⟨duration, target⟩

/-- Rejects the first stage of a phase without a duration. -/
def checkStageDurations (phase : String) (stages : List Stage) : Except ConfigError Unit :=
  match stages.findIdx? (fun stage => stage.duration = 0) with
  | some index => .error (invalidPhase phase
      s!"stage {index + 1} has a zero duration; every stage needs a duration greater than zero")
  | none => .ok ()

/-- The stages of a phase. -/
def StagesConfig.compile (stages : StagesConfig) (phase : String) :
    Except ConfigError (List Stage) := do
  let stages ← stages.parse phase
  reject (stages = []) (invalidPhase phase
    "stages must list at least one stage, such as `\x7bduration: 30s, target: 100\x7d`")
  checkStageDurations phase stages
  reject (stages.all (fun stage => stage.target = 0) = true) (invalidPhase phase
    "every stage target is zero; at least one stage needs connections")
  return stages

/-- The thresholds of an `slo:` mapping; none without one. -/
def compileSlo (slo : Option SloConfig) (context : String) : Except ConfigError SloThresholds :=
  match slo with
  | none => .ok {}
  | some slo => do
    let latency (key : String) (raw : Option String) : Except ConfigError (Option Duration) :=
      raw.mapM (fun raw => (parseHumanDuration raw).mapError (fun err =>
        .invalidScenario s!"{context}: {key}: {err.display}"))
    let thresholds : SloThresholds :=
      { maxP50 := ← latency "max_p50" slo.maxP50
        maxP95 := ← latency "max_p95" slo.maxP95
        maxP99 := ← latency "max_p99" slo.maxP99
        maxP999 := ← latency "max_p999" slo.maxP999
        maxErrorRate := slo.maxErrorRate
        minThroughput := slo.minThroughput
        maxGeneratorLag := ← latency "max_generator_lag" slo.maxGeneratorLag }
    (validateErrorRate thresholds).mapError (fun err =>
      .invalidScenario s!"{context}: {err.display}")
    return thresholds

/-- The check an `expect:` mapping asks for. -/
def ExpectConfig.check (expect : ExpectConfig) (phase : String) : Except ConfigError Check :=
  match expect.json, expect.equals, expect.contains with
  | some pointer, equals, none => .ok (.json pointer equals)
  | none, none, some text => .ok (.contains text)
  | none, some _, _ => .error (invalidPhase phase
      "expect: equals needs json: a pointer to compare")
  | _, _, _ => .error (invalidPhase phase
      "expect needs either json (with an optional equals) or contains")

/-- The check of an `expect:` mapping. -/
def ExpectConfig.compile (expect : ExpectConfig) (phase : String) : Except ConfigError Check := do
  let check ← expect.check phase
  check.validate.mapError (fun message => invalidPhase phase s!"expect: {message}")
  return check

/-- A list with `item` at the end, unless it has it already. -/
def pushNew (items : List String) (item : String) : List String :=
  if item ∈ items then items else items ++ [item]

/-- The variables a phase's actions capture, in the order they appear, each
once. -/
def phaseVars (phase : String) (actions : List ActionConfig) : Except ConfigError (List String) :=
  let captured := actions.flatMap (fun action => match action with
    | .send _ _ _ (some capture) _ _ => capture.map Prod.fst
    | _ => [])
  captured.foldlM (fun vars name => do
    (checkVarName name).mapError (fun message => invalidPhase phase s!"capture: {message}")
    return pushNew vars name) []

/-- The longest action name. -/
def maxActionName : ℕ := 64

/-- Whether a character is a control character. -/
def isControl (c : Char) : Bool := c.toNat < 32 || (127 ≤ c.toNat && c.toNat < 160)

/-- The names of a phase's Send actions, in the order they appear, each
once. -/
def phaseActionNames (phase : String) (actions : List ActionConfig) :
    Except ConfigError (List String) :=
  actions.foldlM (fun names action =>
    match action with
    | .send _ _ _ _ none slo => do
      reject (slo.isSome = true) (invalidPhase phase
        "slo on an action needs a name: the thresholds are checked on the named action's messages")
      return names
    | .send _ _ _ _ (some name) _ => do
      reject (isBlank name ∨ maxActionName < name.utf8ByteSize ∨ name.toList.any isControl)
        (invalidPhase phase
          s!"action name '{name}' must be 1 to {maxActionName} characters, without control characters")
      return pushNew names name
    | _ => .ok names) []

/-- Whether an endpoint may send close code `code`: 1000-1003, 1007-1014 and
3000-4999. -/
def isSendableCloseCode (code : ℕ) : Bool :=
  (1000 ≤ code && code ≤ 1003) || (1007 ≤ code && code ≤ 1014) || (3000 ≤ code && code ≤ 4999)

/-- A close code of an action, when it can be sent. -/
def validateCloseCode (code : ℕ) : Except ConfigError ℕ :=
  if isSendableCloseCode code then .ok code
  else .error (.invalidScenario
    s!"close code {code} cannot be sent; use 1000-1003, 1007-1014 or 3000-4999")

/-- Parses and checks one action. -/
def ScenarioAction.compile (phase : String) (vars actionNames : List String) :
    ActionConfig → Except ConfigError ScenarioAction
  | .send payload count expect capture name _ => do
    let count := count.getD 1
    reject (count = 0) (invalidPhase phase "send action count must be greater than zero")
    let captures ← (capture.getD []).mapM fun (name, pointer) => do
      (checkPointer pointer).mapError (fun message =>
        invalidPhase phase s!"capture {name}: {message}")
      return (⟨(vars.findIdx? (· == name)).getD 0, pointer⟩ : Capture)
    let expect ← expect.mapM (fun expect => expect.compile phase)
    return .send (payload.map (fun text => PayloadConfig.fromTextWithVars text vars)) count expect
      captures (name.bind (fun name => actionNames.findIdx? (· == name)))
  | .wait duration => do
    let duration ← (parseHumanDuration duration).mapError (fun err =>
      .invalidScenario s!"phase '{phase}': wait action: {err.display}")
    reject (duration = 0) (invalidPhase phase "wait action duration must be greater than zero")
    return .wait duration
  | .ping interval => do
    let interval ← (parseHumanDuration interval).mapError (fun err =>
      .invalidScenario s!"phase '{phase}': ping action: {err.display}")
    reject (interval = 0) (invalidPhase phase "ping action interval must be greater than zero")
    return .ping interval
  | .close code reason => do
    return .close (← validateCloseCode (code.getD 1000)) (reason.getD "")

/-! ## Compiling phases

A phase is sized in one of three ways, and its remaining parts do not depend on
which. -/

/-- The phase's arrival-rate keys, checked. -/
def compileArrivals (phase : PhaseConfig) : Except ConfigError (Option Arrivals) :=
  match phase.arrivalRate with
  | none => do
    reject (phase.sessionDuration.isSome ∨ phase.maxConnections.isSome) (invalidPhase phase.name
      "`session_duration` and `max_connections` need `arrival_rate`")
    return none
  | some rate => do
    let mixed := (if phase.connections.isSome then ["`connections`"] else [])
      ++ (if phase.rampRate.isSome then ["`ramp_rate`"] else [])
      ++ (if phase.stages.isSome then ["`stages`"] else [])
    let keys := String.intercalate ", " mixed
    reject (mixed ≠ []) (invalidPhase phase.name
      s!"`arrival_rate` cannot be combined with {keys}; the arrival rate sets how many sessions are open")
    match phase.sessionDuration with
    | none => throw (invalidPhase phase.name
        "`arrival_rate` needs `session_duration`, how long each session stays connected")
    | some session =>
      let session ← (parseHumanDuration session).mapError (fun err =>
        .invalidScenario s!"phase '{phase.name}': session_duration: {err.display}")
      let arrivals : Arrivals := ⟨rate, session, phase.maxConnections⟩
      (arrivals.checkValues "arrival_rate" "session_duration" "max_connections").mapError
        (invalidPhase phase.name)
      return some arrivals

/-- The sizing of a phase. -/
structure PhaseSize where
  connections : ℕ
  duration : Duration
  rampRate : ℕ
  stages : List Stage

/-- A phase's `duration` key, which is not zero. -/
def phaseDuration (phase : PhaseConfig) (raw : String) : Except ConfigError Duration := do
  let duration ← (parseHumanDuration raw).mapError (fun err =>
    .invalidScenario s!"phase '{phase.name}': {err.display}")
  reject (duration = 0) (invalidPhase phase.name "duration must be greater than zero")
  return duration

/-- The sizing of a phase: its arrivals, its stages, or its connections and
duration. -/
def compileSize (phase : PhaseConfig) (arrivals : Option Arrivals) :
    Except ConfigError PhaseSize :=
  match arrivals, phase.stages with
  | some arrivals, _ =>
    match phase.duration with
    | none => .error (invalidPhase phase.name
        "missing field `duration`; `arrival_rate` starts sessions for `duration`")
    | some raw => do
      let duration ← phaseDuration phase raw
      return ⟨arrivals.expectedConnections, duration, 0, []⟩
  | none, some stages => do
    let mixed := (if phase.connections.isSome then ["`connections`"] else [])
      ++ (if phase.duration.isSome then ["`duration`"] else [])
      ++ (if phase.rampRate.isSome then ["`ramp_rate`"] else [])
    let keys := String.intercalate ", " mixed
    reject (mixed ≠ []) (invalidPhase phase.name
      s!"`stages` cannot be combined with {keys}; the stages set the connection count, the duration and the ramp")
    let stages ← stages.compile phase.name
    return ⟨Stage.highest stages, Stage.total stages, 0, stages⟩
  | none, none =>
    let missing (key : String) : ConfigError := invalidPhase phase.name
      s!"missing field `{key}`; give `connections` and `duration`, or `stages`"
    match phase.connections, phase.duration with
    | none, _ => .error (missing "connections")
    | some _, none => .error (missing "duration")
    | some connections, some raw => do
      reject (connections = 0) (invalidPhase phase.name "connections must be greater than zero")
      let duration ← phaseDuration phase raw
      return ⟨connections, duration, phase.rampRate.getD 0, []⟩

/-- The pause of a phase after each send. -/
def compileThinkTime (phase : PhaseConfig) : Except ConfigError Duration :=
  match phase.thinkTime with
  | some raw => (parseHumanDuration raw).mapError (fun err =>
      .invalidScenario s!"phase '{phase.name}': think_time: {err.display}")
  | none => .ok 0

/-- Parses and checks a phase. -/
def CompiledPhase.compile (host : Host) (phase : PhaseConfig) :
    Except ConfigError CompiledPhase := do
  let arrivals ← compileArrivals phase
  let size ← compileSize phase arrivals
  let thinkTime ← compileThinkTime phase
  let vars ← phaseVars phase.name phase.actions
  let actionNames ← phaseActionNames phase.name phase.actions
  let actions ← phase.actions.mapM (ScenarioAction.compile phase.name vars actionNames)
  let _ ← phase.target.mapM (parseTargetUrl host)
  let slo ← compileSlo phase.slo s!"phase '{phase.name}': slo"
  let chaos ← phase.chaos.mapM (fun chaos => chaos.compile phase.name)
  return {
    thinkTime
    actions
    vars
    name := phase.name
    duration := size.duration
    connections := size.connections
    rampRate := size.rampRate
    ratePerConn := phase.ratePerConn
    payload := phase.payload.map (fun text => PayloadConfig.fromTextWithVars text vars)
    actionNames
    slo
    stages := size.stages
    arrivals
    chaos }

/-! ## The scenario

A run takes all phases or the one that was asked for. -/

/-- The keys of an `slo:` mapping that set latency thresholds. -/
def sloLatencyKeys : String := "max_p50/max_p95/max_p99/max_p999"

namespace ScenarioConfig

variable (host : Host) (scenario : ScenarioConfig)

/-- The requested phase, by default the first. -/
def selectedPhase (name : Option String) : Except ConfigError PhaseConfig :=
  match name with
  | some name =>
    match scenario.phases.find? (fun phase => phase.name = name) with
    | some phase => .ok phase
    | none =>
      let names := String.intercalate ", " (scenario.phases.map PhaseConfig.name)
      .error (.invalidScenario s!"phase '{name}' not found; available phases: {names}")
  | none =>
    match scenario.phases with
    | phase :: _ => .ok phase
    | [] => .error (.invalidScenario "scenario must define at least one phase")

/-- The phases that `selected` runs, in order. -/
def runPhases (selected : Option String) : Except ConfigError (List PhaseConfig) :=
  match selected with
  | some _ => do return [← scenario.selectedPhase selected]
  | none => .ok scenario.phases

/-- Compiles every phase, or only the named one. -/
def compile (selected : Option String) : Except ConfigError (List CompiledPhase) := do
  (← scenario.runPhases selected).mapM (CompiledPhase.compile host)

/-- The target of every phase that `selected` runs: the command line's, then
the phase's, then the scenario's. -/
def resolvePhaseTargets (cliUrl selected : Option String) :
    Except ConfigError (List String) := do
  (← scenario.runPhases selected).mapM fun phase =>
    match (cliUrl.or phase.target).or scenario.target with
    | some raw => parseTargetUrl host raw
    | none => .error (invalidPhase phase.name
        "no target URL; set `target` on this phase or at the top level of the scenario, or pass a URL on the command line")

/-- Adds the thresholds of a named action. -/
def addActionSlo (phase : PhaseConfig) (slos : List (String × SloThresholds)) :
    ActionConfig → Except ConfigError (List (String × SloThresholds))
  | .send _ _ _ _ (some name) (some slo) => do
    let context := s!"phase '{phase.name}': action '{name}': slo"
    reject (slo.minThroughput.isSome ∨ slo.maxGeneratorLag.isSome) (.invalidScenario
      s!"{context}: an action SLO takes max_p50, max_p95, max_p99, max_p999 and max_error_rate; min_throughput and max_generator_lag apply to a phase or the scenario")
    reject (slos.any (fun other => other.1 = name) = true) (.invalidScenario
      s!"{context}: action '{name}' already has an slo; give it one, on any of its actions")
    return slos ++ [(name, ← compileSlo (some slo) context)]
  | _ => .ok slos

/-- The thresholds of the named actions that a phase `selected` runs
sends. -/
def actionSlos (selected : Option String) :
    Except ConfigError (List (String × SloThresholds)) := do
  let slos ← scenario.phases.foldlM (fun slos phase =>
    phase.actions.foldlM (addActionSlo phase) slos) []
  let running ← scenario.compile host selected
  return slos.filter (fun slo => running.any (fun phase => phase.actionNames.contains slo.1))

/-- Checks the scenario, its phases' names and every phase. -/
def validate : Except ConfigError Unit := do
  reject (scenario.version ≠ "1.0") (.invalidScenario
    s!"unsupported version '{scenario.version}', expected '1.0'")
  reject (isBlank scenario.name = true) (.invalidScenario "metadata.name must not be empty")
  let _ ← scenario.target.mapM (parseTargetUrl host)
  let _ ← compileSlo scenario.slo "slo"
  reject (scenario.phases = []) (.invalidScenario "scenario must define at least one phase")
  let _ ← scenario.phases.foldlM (fun (names : List String) phase => do
    reject (isBlank phase.name = true) (.invalidScenario "phase name must not be empty")
    reject (phase.name ∈ names) (.invalidScenario s!"duplicate phase name '{phase.name}'")
    let _ ← CompiledPhase.compile host phase
    return names ++ [phase.name]) []

/-- Rejects latency thresholds in a mode that does not measure round-trip
time, and faults in a mode that sends nothing they could act on. -/
def validateSloMode (mode : TestMode) (selected : Option String) : Except ConfigError Unit := do
  validateLatencyMode (← compileSlo scenario.slo "slo") mode "slo: " sloLatencyKeys
  (← scenario.actionSlos host selected).forM fun (name, slo) =>
    validateLatencyMode slo mode s!"action '{name}': slo: " sloLatencyKeys
  (← scenario.compile host selected).forM fun phase => do
    validateLatencyMode phase.slo mode s!"phase '{phase.name}': slo: " sloLatencyKeys
    match phase.chaos.filter ChaosConfig.isActive with
    | some chaos =>
      validateChaosMode chaos mode (phase.actions ≠ []) s!"phase '{phase.name}': "
    | none => return ()

end ScenarioConfig

end WsBlast
