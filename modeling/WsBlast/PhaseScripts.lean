import WsBlast.WireTrip

/-!
# The script of a phase on an agent

What compiling a phase of a scenario has checked (`CompiledPhase.Compiled`), and
that an agent, which checks the script of its phase again, takes every one
(`intoPhase_fromPhase`).

A phase is compiled by the coordinator against the scenario: its actions are
checked in their order, each with the variables that may be captured anywhere
in the phase, and names of actions must differ. What an agent is sent is the
compiled script with its texts, and it checks each action by itself.
-/

namespace WsBlast

/-! ## Actions

What compiling one action has checked, and that the agent's checks follow. -/

namespace ScenarioAction

/-- What was checked of an action of a phase with these variables and action
names. -/
def Compiled (vars actionNames : List String) : ScenarioAction → Prop
  | .send payload count expect captures name =>
    (∀ text ∈ payload, PayloadConfig.Parsed vars text) ∧ count ≠ 0
      ∧ (∀ check ∈ expect, Check.validate check = .ok ())
      ∧ (∀ capture ∈ captures, Capture.var capture < vars.length)
      ∧ ∀ index ∈ name, index < actionNames.length
  | .wait duration => duration ≠ 0
  | .ping interval => interval ≠ 0
  | .close code _ => isSendableCloseCode code = true

/-- An action as an agent has it. -/
def arrived : ScenarioAction → ScenarioAction
  | .send payload count expect captures name =>
    .send payload count (expect.map Check.arrived) captures name
  | action => action

end ScenarioAction

theorem Check.validate_arrived (check : Check) : check.arrived.validate = check.validate := by
  cases check with
  | contains text => rfl
  | json pointer equals =>
    cases equals with
    | none => rfl
    | some value => cases value <;> rfl

/-- An agent takes an action that was compiled. -/
theorem intoAction_wireAction {phase : WirePhase} {action : ScenarioAction}
    (h : action.Compiled phase.vars phase.actionNames) :
    phase.intoAction (wireAction action).arrived = .ok action.arrived := by
  cases action with
  | wait duration =>
    show (Checked.reject (duration = 0) _ >>= fun _ => _) = _
    rw [Checked.reject_eq_ok (u := ()) |>.mpr h]
    rfl
  | ping interval =>
    show (Checked.reject (interval = 0) _ >>= fun _ => _) = _
    rw [Checked.reject_eq_ok (u := ()) |>.mpr h]
    rfl
  | close code reason =>
    -- what compiling has checked of the code is what the agent checks
    have hcode : validateCloseCode code = .ok code := if_pos h
    show (validateCloseCode code >>= fun _ => _) = _
    rw [hcode]
    rfl
  | send payload count expect captures name =>
    obtain ⟨hpayload, hcount, hexpect, hcaptures, hname⟩ := h
    have hnamed : ¬ name.any (phase.actionNames.length ≤ ·) = true := by
      cases name with
      | none => exact Bool.false_ne_true
      | some index => simpa using hname index rfl
    have hchecks : (expect.map Check.arrived).forM (fun check =>
        check.validate.mapError fun message => invalidPhase phase.name s!"expect: {message}")
        = .ok () := by
      cases expect with
      | none => rfl
      | some check =>
        show check.arrived.validate.mapError _ = _
        rw [Checked.mapError_eq_ok, Check.validate_arrived]
        exact hexpect check rfl
    have hfound : captures.find? (fun capture => phase.vars.length ≤ capture.var) = none := by
      rw [List.find?_eq_none]
      intro capture hcapture
      simpa using hcaptures capture hcapture
    have hparsed : (payload.map wirePayload).mapM (payloadFromWire phase.vars) = .ok payload := by
      cases payload with
      | none => rfl
      | some text =>
        show some <$> payloadFromWire phase.vars (wirePayload text) = _
        rw [PayloadConfig.payloadFromWire_wirePayload, (hpayload text rfl).reparse_eq]
        rfl
    show WirePhase.intoAction phase (.send (payload.map wirePayload) count
      (expect.map Check.arrived) captures name) = _
    unfold WirePhase.intoAction
    dsimp only
    rw [(Checked.reject_eq_ok (u := ())).mpr hnamed, Checked.ok_bind,
      (Checked.reject_eq_ok (u := ())).mpr hcount, Checked.ok_bind, hchecks, Checked.ok_bind,
      hfound]
    dsimp only
    rw [hparsed]
    rfl

/-! ## The variables of a phase -/

theorem subset_pushNew (items : List String) (item : String) : items ⊆ pushNew items item := by
  unfold pushNew
  split_ifs
  · exact List.Subset.refl _
  · exact List.subset_append_left _ _

theorem mem_pushNew {items : List String} {item other : String} :
    other ∈ pushNew items item ↔ other ∈ items ∨ other = item := by
  unfold pushNew
  split_ifs with h
  · exact ⟨.inl, fun hother => hother.elim id fun heq => heq ▸ h⟩
  · simp

/-- The variables of a phase can be captured, and are those its actions
capture. -/
theorem phaseVars_eq_ok {phase : String} {actions : List ActionConfig} {vars : List String}
    (h : phaseVars phase actions = .ok vars) :
    (∀ name ∈ vars, checkVarName name = .ok ())
      ∧ ∀ payload count expect capture name slo,
        ActionConfig.send payload count expect (some capture) name slo ∈ actions →
          ∀ entry ∈ capture, entry.1 ∈ vars := by
  have hfold : ∀ (captured before vars : List String),
      captured.foldlM (fun vars name => do
        (checkVarName name).mapError (fun message => invalidPhase phase s!"capture: {message}")
        return pushNew vars name) before = .ok vars →
      before ⊆ vars ∧ captured ⊆ vars
        ∧ ∀ name ∈ vars, name ∈ before ∨ checkVarName name = .ok () := by
    intro captured
    induction captured with
    | nil =>
      intro before vars h
      cases Checked.pure_eq_ok.mp h
      exact ⟨List.Subset.refl _, List.nil_subset _, fun name => .inl⟩
    | cons name captured ih =>
      intro before vars h
      rw [List.foldlM_cons] at h
      obtain ⟨next, hnext, h⟩ := Checked.bind_eq_ok.mp h
      obtain ⟨hcheck, hnext⟩ := Checked.check_bind_eq_ok.mp hnext
      cases Checked.pure_eq_ok.mp hnext
      rw [Checked.mapError_eq_ok] at hcheck
      obtain ⟨hbefore, hcaptured, hall⟩ := ih _ _ h
      refine ⟨List.Subset.trans (subset_pushNew _ _) hbefore, List.cons_subset.mpr ⟨?_, hcaptured⟩, ?_⟩
      · exact hbefore (mem_pushNew.mpr (.inr rfl))
      · intro other hother
        rcases hall other hother with hother | hother
        · rcases mem_pushNew.mp hother with hother | rfl
          · exact .inl hother
          · exact .inr hcheck
        · exact .inr hother
  obtain ⟨-, hcaptured, hall⟩ := hfold _ _ _ h
  refine ⟨fun name hname => (hall name hname).resolve_left List.not_mem_nil, ?_⟩
  intro payload count expect capture name slo haction entry hentry
  exact hcaptured (List.mem_flatMap.mpr ⟨_, haction, List.mem_map_of_mem hentry⟩)

/-- What is compiled from an action of a phase was checked. -/
theorem compiled_of_compileAction {phase : String} {vars actionNames : List String}
    {config : ActionConfig} {action : ScenarioAction}
    (hvars : ∀ payload count expect capture name slo,
      config = .send payload count expect (some capture) name slo →
        ∀ entry ∈ capture, entry.1 ∈ vars)
    (h : ScenarioAction.compile phase vars actionNames config = .ok action) :
    action.Compiled vars actionNames := by
  cases config with
  | wait duration =>
    obtain ⟨duration, -, h⟩ := Checked.bind_eq_ok.mp h
    obtain ⟨hne, h⟩ := Checked.check_bind_eq_ok.mp h
    cases Checked.pure_eq_ok.mp h
    exact Checked.reject_eq_ok.mp hne
  | ping interval =>
    obtain ⟨interval, -, h⟩ := Checked.bind_eq_ok.mp h
    obtain ⟨hne, h⟩ := Checked.check_bind_eq_ok.mp h
    cases Checked.pure_eq_ok.mp h
    exact Checked.reject_eq_ok.mp hne
  | close code reason =>
    obtain ⟨code, hcode, h⟩ := Checked.bind_eq_ok.mp h
    cases Checked.pure_eq_ok.mp h
    unfold validateCloseCode at hcode
    split_ifs at hcode with hsendable
    cases hcode
    exact hsendable
  -- only a message has a payload, a check and captures
  | send payload count expect capture name slo =>
    obtain ⟨hcount, h⟩ := Checked.check_bind_eq_ok.mp h
    obtain ⟨captures, hcaptures, h⟩ := Checked.bind_eq_ok.mp h
    obtain ⟨check, hcheck, h⟩ := Checked.bind_eq_ok.mp h
    cases Checked.pure_eq_ok.mp h
    refine ⟨?_, Checked.reject_eq_ok.mp hcount, ?_, ?_, ?_⟩
    · intro text htext
      obtain ⟨source, -, rfl⟩ := Option.map_eq_some_iff.mp htext
      exact .text source
    · cases expect with
      | none =>
        cases Checked.pure_eq_ok.mp hcheck
        exact fun _ => nofun
      | some expect =>
        obtain ⟨made, hmade, rfl⟩ := Checked.map_eq_ok.mp hcheck
        intro check hmem
        obtain rfl := Option.some.inj hmem
        obtain ⟨_, -, hmade⟩ := Checked.bind_eq_ok.mp hmade
        obtain ⟨hvalid, hmade⟩ := Checked.check_bind_eq_ok.mp hmade
        cases Checked.pure_eq_ok.mp hmade
        rwa [Checked.mapError_eq_ok] at hvalid
    · intro made hmadeMem
      obtain ⟨⟨captured, pointer⟩, hentry, hmade⟩ := Checked.exists_of_mem_mapM hcaptures hmadeMem
      obtain ⟨-, hmade⟩ := Checked.check_bind_eq_ok.mp hmade
      cases Checked.pure_eq_ok.mp hmade
      have hmem : captured ∈ vars := by
        cases capture with
        | none => exact absurd hentry List.not_mem_nil
        | some entries => exact hvars _ _ _ _ _ _ rfl _ hentry
      cases hfound : vars.findIdx? (· == captured) with
      | none => exact absurd (List.findIdx?_eq_none_iff.mp hfound captured hmem) (by simp)
      | some index => exact (List.findIdx?_eq_some_iff_getElem.mp hfound).1
    · intro index hindex
      obtain ⟨name, -, hfound⟩ := Option.bind_eq_some_iff.mp hindex
      exact (List.findIdx?_eq_some_iff_getElem.mp hfound).1

/-! ## The load of a phase

The three ways of sizing a run, as predicates on what was built. -/

namespace Arrivals

variable {arrivals : Arrivals}

/-- The values of an arrival rate are checked alike under every name. -/
theorem checkValues_eq_ok {rate session cap : String} :
    arrivals.checkValues rate session cap = .ok ()
      ↔ (0 < arrivals.rate ∧ arrivals.rate ≤ maxArrivalRate) ∧ arrivals.sessionDuration ≠ 0
        ∧ arrivals.maxConnections ≠ some 0 := by
  unfold checkValues
  rw [Checked.check_bind_eq_ok, Checked.check_bind_eq_ok, Checked.reject_eq_ok,
    Checked.reject_eq_ok, Checked.reject_eq_ok, not_not]

theorem validate_eq_ok {stages : List Stage} {rampRate : ℕ} :
    arrivals.validate stages rampRate = .ok ()
      ↔ ((0 < arrivals.rate ∧ arrivals.rate ≤ maxArrivalRate) ∧ arrivals.sessionDuration ≠ 0
        ∧ arrivals.maxConnections ≠ some 0) ∧ stages = [] ∧ rampRate = 0 := by
  unfold validate
  rw [Checked.check_bind_eq_ok, Checked.check_bind_eq_ok, Checked.mapError_eq_ok,
    checkValues_eq_ok, Checked.reject_eq_ok, Checked.reject_eq_ok, not_not, Nat.pos_iff_ne_zero,
    not_not]

theorem expectedConnections_ne_zero : arrivals.expectedConnections ≠ 0 := by
  unfold expectedConnections
  exact Nat.pos_iff_ne_zero.mp (lt_of_lt_of_le Nat.one_pos (le_max_right _ _))

end Arrivals

theorem validateStages_eq_ok {stages : List Stage} {rampRate : ℕ} :
    validateStages stages rampRate = .ok ()
      ↔ rampRate = 0 ∧ ∀ stage ∈ stages, stage.duration ≠ 0 := by
  unfold validateStages
  rw [Checked.check_bind_eq_ok, Checked.reject_eq_ok, Nat.pos_iff_ne_zero, not_not]
  refine and_congr_right fun _ => ?_
  cases hfound : stages.findIdx? (fun stage => stage.duration = 0) with
  | none =>
    refine iff_of_true rfl fun stage hstage => ?_
    simpa using List.findIdx?_eq_none_iff.mp hfound stage hstage
  | some index =>
    refine iff_of_false nofun fun hall => ?_
    obtain ⟨hlt, hzero, -⟩ := List.findIdx?_eq_some_iff_getElem.mp hfound
    exact hall _ (List.getElem_mem hlt) (by simpa using hzero)

/-- A load profile that was checked: one way of sizing the run. -/
structure LoadProfile (arrivals : Option Arrivals) (stages : List Stage) (rampRate connections : ℕ) :
    Prop where
  arrivals : ∀ model ∈ arrivals, model.validate stages rampRate = .ok ()
  stages : stages ≠ [] → validateStages stages rampRate = .ok ()
    ∧ connections = Stage.highest stages

/-- The sizing of a phase is a load profile. -/
theorem profile_of_compileSize {phase : PhaseConfig} {arrivals : Option Arrivals} {size : PhaseSize}
    (harrivals : compileArrivals phase = .ok arrivals)
    (h : compileSize phase arrivals = .ok size) :
    LoadProfile arrivals size.stages size.rampRate size.connections := by
  unfold compileSize at h
  split at h
  · rename_i model _
    split at h
    · cases h
    · obtain ⟨duration, -, h⟩ := Checked.bind_eq_ok.mp h
      cases Checked.pure_eq_ok.mp h
      refine ⟨?_, fun hne => absurd rfl hne⟩
      intro other hother
      obtain rfl := Option.some.inj hother
      rw [Arrivals.validate_eq_ok]
      refine ⟨?_, rfl, rfl⟩
      -- the phase's arrival rate was checked when it was read
      unfold compileArrivals at harrivals
      split at harrivals
      · obtain ⟨_, harrivals⟩ := Checked.check_bind_eq_ok.mp harrivals
        cases Checked.pure_eq_ok.mp harrivals
      · obtain ⟨_, harrivals⟩ := Checked.check_bind_eq_ok.mp harrivals
        split at harrivals
        · cases harrivals
        · obtain ⟨session, -, harrivals⟩ := Checked.bind_eq_ok.mp harrivals
          obtain ⟨hvalues, harrivals⟩ := Checked.check_bind_eq_ok.mp harrivals
          cases Checked.pure_eq_ok.mp harrivals
          rw [Checked.mapError_eq_ok] at hvalues
          exact Arrivals.checkValues_eq_ok.mp hvalues
  · obtain ⟨-, h⟩ := Checked.check_bind_eq_ok.mp h
    obtain ⟨stages, hstages, h⟩ := Checked.bind_eq_ok.mp h
    cases Checked.pure_eq_ok.mp h
    refine ⟨nofun, fun _ => ⟨?_, rfl⟩⟩
    obtain ⟨parsed, -, hstages⟩ := Checked.bind_eq_ok.mp hstages
    obtain ⟨-, hstages⟩ := Checked.check_bind_eq_ok.mp hstages
    obtain ⟨hdurations, hstages⟩ := Checked.check_bind_eq_ok.mp hstages
    obtain ⟨-, hstages⟩ := Checked.check_bind_eq_ok.mp hstages
    cases Checked.pure_eq_ok.mp hstages
    refine validateStages_eq_ok.mpr ⟨rfl, fun stage hstage => ?_⟩
    unfold checkStageDurations at hdurations
    split at hdurations
    · cases hdurations
    · rename_i hfound
      simpa using List.findIdx?_eq_none_iff.mp hfound stage hstage
  · split at h
    · cases h
    · cases h
    · obtain ⟨-, h⟩ := Checked.check_bind_eq_ok.mp h
      obtain ⟨duration, -, h⟩ := Checked.bind_eq_ok.mp h
      cases Checked.pure_eq_ok.mp h
      exact ⟨nofun, fun hne => absurd rfl hne⟩

/-- A staged phase lasts as long as its stages. -/
theorem duration_of_compileSize {phase : PhaseConfig} {arrivals : Option Arrivals}
    {size : PhaseSize} (h : compileSize phase arrivals = .ok size) (hstages : size.stages ≠ []) :
    size.duration = Stage.total size.stages := by
  unfold compileSize at h
  split at h
  · split at h
    · cases h
    · obtain ⟨duration, -, h⟩ := Checked.bind_eq_ok.mp h
      cases Checked.pure_eq_ok.mp h
      exact absurd rfl hstages
  · obtain ⟨-, h⟩ := Checked.check_bind_eq_ok.mp h
    obtain ⟨stages, -, h⟩ := Checked.bind_eq_ok.mp h
    cases Checked.pure_eq_ok.mp h
    rfl
  · split at h
    · cases h
    · cases h
    · obtain ⟨-, h⟩ := Checked.check_bind_eq_ok.mp h
      obtain ⟨duration, -, h⟩ := Checked.bind_eq_ok.mp h
      cases Checked.pure_eq_ok.mp h
      exact absurd rfl hstages

/-! ## Phases

The whole of what compiling a phase has checked. -/

namespace CompiledPhase

/-- What compiling a phase has checked. -/
structure Compiled (phase : CompiledPhase) : Prop where
  vars : ∀ name ∈ phase.vars, checkVarName name = .ok ()
  actions : ∀ action ∈ phase.actions, action.Compiled phase.vars phase.actionNames
  payload : ∀ text ∈ phase.payload, text.Parsed phase.vars
  profile : LoadProfile phase.arrivals phase.stages phase.rampRate phase.connections
  duration : phase.stages ≠ [] → phase.duration = Stage.total phase.stages
  chaos : ∀ chaos ∈ phase.chaos, chaos.validate = .ok ()

theorem compiled_of_compile {host : Host} {config : PhaseConfig} {phase : CompiledPhase}
    (h : compile host config = .ok phase) : phase.Compiled := by
  unfold compile at h
  simp only [Checked.bind_eq_ok, Checked.pure_eq_ok] at h
  obtain ⟨arrivals, harrivals, size, hsize, thinkTime, -, vars, hvars, names, -, actions, hactions,
    target, -, slo, -, chaos, hchaos, rfl⟩ := h
  obtain ⟨hnames, hcaptured⟩ := phaseVars_eq_ok hvars
  refine ⟨hnames, fun action haction => ?_, fun text htext => ?_,
    profile_of_compileSize harrivals hsize, duration_of_compileSize hsize, fun faults hfaults => ?_⟩
  · obtain ⟨given, hgiven, hcompiled⟩ := Checked.exists_of_mem_mapM hactions haction
    refine compiled_of_compileAction ?_ hcompiled
    rintro payload count expect capture name slo rfl
    exact hcaptured _ _ _ _ _ _ hgiven
  · obtain ⟨source, -, rfl⟩ := Option.map_eq_some_iff.mp htext
    exact .text source
  · cases hgiven : config.chaos with
    | none =>
      rw [hgiven] at hchaos
      cases Checked.pure_eq_ok.mp hchaos
      cases hfaults
    | some given =>
      rw [hgiven] at hchaos
      obtain ⟨made, hmade, rfl⟩ := Checked.map_eq_ok.mp hchaos
      obtain rfl := Option.some.inj hfaults
      obtain ⟨delay, -, hmade⟩ := Checked.bind_eq_ok.mp hmade
      obtain ⟨pause, -, hmade⟩ := Checked.bind_eq_ok.mp hmade
      obtain ⟨hvalid, hmade⟩ := Checked.check_bind_eq_ok.mp hmade
      cases Checked.pure_eq_ok.mp hmade
      rwa [Checked.mapError_eq_ok] at hvalid

/-- A phase as an agent runs it with its configuration. -/
def onAgent (phase : CompiledPhase) (config : LoadTestConfig) : CompiledPhase :=
  { phase with
    actions := phase.actions.map ScenarioAction.arrived
    duration := config.duration
    connections := config.connections
    rampRate := config.rampRate
    ratePerConn := config.ratePerConn
    payload := some (WirePhase.withVars phase.vars config.payload)
    slo := {}
    stages := config.stages
    arrivals := config.arrivals
    chaos := some (config.chaos.getD {}) }

/-- **An agent takes every phase that was compiled.** -/
theorem intoPhase_fromPhase {phase : CompiledPhase} (h : phase.Compiled) (config : LoadTestConfig) :
    (WirePhase.fromPhase phase).arrived.intoPhase config = .ok (phase.onAgent config) := by
  have hactions : ((phase.actions.map wireAction).map WireAction.arrived).mapM
      (WirePhase.intoAction (WirePhase.fromPhase phase).arrived)
        = .ok (phase.actions.map ScenarioAction.arrived) := by
    rw [Checked.mapM_eq_ok, List.map_map, List.forall₂_map_left_iff, List.forall₂_map_right_iff,
      List.forall₂_same]
    exact fun action haction => intoAction_wireAction (h.actions action haction)
  refine Checked.check_bind_eq_ok.mpr ⟨?_, Checked.bind_eq_ok.mpr ⟨_, hactions, rfl⟩⟩
  exact Checked.forM_eq_ok.mpr fun name hname => Checked.mapError_eq_ok.mpr (h.vars name hname)

end CompiledPhase

end WsBlast
