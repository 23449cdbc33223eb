import WsBlast.SiteUrls

/-!
# What an agent accepts

An agent checks its share as the command line checks a run. The coordinator has
checked the undivided run, or a phase of a scenario, and not by the same path.
Most of what an agent checks holds of every share (`passes_share_iff`): the rate,
the stages and the counts can be divided, the header templates and the reply
rule pass as they did. Three checks are made by the agents alone: the version in
the URL of a phase, a credential that reads as a template, and the auth template
with the data file of a scenario. `share_accepted_iff` says that a share is
accepted exactly when these pass.

A plan that some agent refuses fails the run after it was announced to all, so
the coordinator tries to accept nothing that an agent would not. It has no
agents to ask, and the checks it makes are those of its own build. The question
is then which checks of `WireConfig.intoConfig` follow from those made before.
-/

namespace WsBlast

open Checked (reject)
open MultiMap (Grouped)

/-! ## The builder of an agent

The builder that `intoConfig` fills from a share is written down directly, in
terms of the run and the place of the agent. -/

/-- The arrival rate of a share. -/
def Arrivals.dividedBy (arrivals : Arrivals) (share : Share) : Arrivals :=
  { arrivals with
    rate := arrivals.rate / share.agents
    maxConnections := arrivals.maxConnections.map share.of }

namespace LoadTestConfig

/-- The headers of a share, in a map again. -/
def regrouped (config : LoadTestConfig) : List Header :=
  (config.headers.map Header.trimmed ++ config.headerTemplates.map sourceHeader).foldl appendHeader []

/-- The settings of an agent's builder: those of the run, divided. -/
def agentSettings (serde : Serde) (config : LoadTestConfig) (share : Share) :
    LoadTestConfigBuilder where
  target := config.targetUrl
  connections := share.of config.connections
  rampRate := share.of config.rampRate
  duration := config.duration
  stages := config.stages
  arrivals := config.arrivals.map fun arrivals => arrivals.dividedBy share
  maxRequests := config.maxRequests.map share.of
  ratePerConn := config.ratePerConn
  payload := config.payload.reparse []
  headers := config.regrouped
  data := (config.data.map fun data => data.withShare share.index share.agents).map .loaded
  subprotocol := config.subprotocol
  compression := config.compression
  mode := config.mode
  connectTimeout := config.connectTimeout
  messageTimeout := config.messageTimeout
  pingInterval := config.pingInterval
  graphql := .ofWire config.graphqlWs
  socketio := .ofWire (config.socketio.map wireSocketIo)
  reconnect := !config.noReconnect
  replyMatch := config.replyMatch
  expect := (config.expect.map Check.arrived).map (Check.flagValue serde)

end LoadTestConfig

/-- The share of an agent as it is sent, with the phase it runs. -/
def WireConfig.withPhase (wire : WireConfig) (phase : Option CompiledPhase) : WireConfig :=
  { wire with phase := phase.map WirePhase.fromPhase }

section Builder

variable {host : Host} {config : LoadTestConfig} {base : WireConfig}

theorem intoDataSet_share {data : DataSet} (h : data.WellFormed) {index agents : ℕ}
    (hindex : index < agents) :
    (WireData.mk data.path data.columns data.rows (some ⟨index, agents⟩)).intoDataSet
      = .ok (data.withShare index agents) := by
  have hplace : ¬ (agents = 0 ∨ agents ≤ index) := by omega
  unfold WireData.intoDataSet Share.validate
  dsimp only
  rw [DataSet.fromParts_of_wellFormed h, (Checked.reject_eq_ok (u := ())).mpr hplace]
  rfl

/-- The mode's name is one the agent knows. -/
theorem testMode_of_modeName {wire : WireConfig} {mode : TestMode} (h : wire.mode = mode.modeName) :
    wire.testMode = .ok mode := by
  unfold WireConfig.testMode
  rw [h, TestMode.fromStr_modeName]

/-- **An agent's builder has the settings of the run, divided.** -/
theorem builder_share (hconfig : config.Settled host) (hbase : WireConfig.fromConfig config = .ok base)
    {index agents : ℕ} (hindex : index < agents) (phase : Option CompiledPhase) (serde : Serde) :
    ((shareOf config base agents index).withPhase phase).arrived.builder serde
      = .ok (config.agentSettings serde ⟨index, agents⟩) := by
  obtain ⟨checked, -, htemplates⟩ := hconfig.templates
  obtain ⟨fixed, hheaders, hbase⟩ := Checked.bind_eq_ok.mp hbase
  obtain ⟨liveAuth, -, hbase⟩ := Checked.bind_eq_ok.mp hbase
  cases Checked.pure_eq_ok.mp hbase
  have hspelled := spelled_headers hconfig.headers hheaders fun template htemplate =>
    (htemplates template htemplate).1
  have hdata : ((config.data.map fun data => WireData.mk data.path data.columns data.rows none).map
      fun data => { data with share := some ⟨index, agents⟩ }).mapM WireData.intoDataSet
        = .ok (config.data.map fun data => data.withShare index agents) := by
    cases hfile : config.data with
    | none => rfl
    | some file =>
      show some <$> (WireData.mk _ _ _ (some ⟨index, agents⟩)).intoDataSet = _
      -- the data file is whole, so it is taken in the place of the agent
      rw [intoDataSet_share (hconfig.table file hfile) hindex]
      rfl
  refine Checked.bind_eq_ok.mpr ⟨config.mode, ?_, Checked.bind_eq_ok.mpr ⟨config.replyMatch,
    ReplyMatch.fromStr_flagValue _ hconfig.rule, Checked.bind_eq_ok.mpr ⟨_,
    PayloadConfig.intoConfig_wirePayload config.payload,
    Checked.bind_eq_ok.mpr ⟨_, hdata, ?_⟩⟩⟩⟩
  · exact testMode_of_modeName rfl
  · refine Checked.pure_eq_ok.mpr ((foldl_header_spelled hspelled _).trans ?_)
    simp only [WireConfig.settings, LoadTestConfig.agentSettings, LoadTestConfig.regrouped,
      Arrivals.dividedBy,
      WireConfig.arrived, WireConfig.withPhase, shareOf, List.map_map, Option.map_map,
      Function.comp_def, hconfig.graphql.1, List.map_id']
    rfl

end Builder

/-! ## The checks of an agent

The builder's checks are gone through in their order. -/

/-- An agent of the same build uses the same libraries. -/
structure Host.SameBuild (host agent : Host) : Prop where
  serde : agent.serde = host.serde
  urls : agent.urls = host.urls

namespace LoadTestConfig

/-- The value that the check of a run expects comes back from its text, in which
an agent's builder is given it. A JSON library need not give back every number,
so this is asked of the one value alone. -/
def ExpectReadsBack (serde : Serde) (config : LoadTestConfig) : Prop :=
  ∀ pointer value, config.expect = some (.json pointer (some value)) →
    serde.fromStr (serde.toText value) = some value

/-- What the settings of an agent's builder are computed to. -/
def agentParts (config : LoadTestConfig) (share : Share) : LoadTestConfigBuilder.Parts where
  targetUrl := config.targetUrl
  graphqlWs := config.graphqlWs
  socketio := config.socketio
  data := config.data.map fun data => data.withShare share.index share.agents
  headers := config.regrouped.filter (fun header => headerTemplate header.value = none)
  headerTemplates := templatesOf config.regrouped
  sourceIps := []
  expect := config.expect.map Check.arrived

/-- The checks that the coordinator has not always made of what it sends: the
URL asks for the version the session speaks, a credential that is a template can
be filled in, and the auth template gives an object for every row. -/
structure Rechecked (agent : Host) (config : LoadTestConfig) : Prop where
  url : ∀ sio ∈ config.socketio, checkUrl agent.urls config.targetUrl sio.engine = .ok ()
  headers : ∀ header ∈ config.headers, ∀ template,
    headerTemplate header.trimmed.value = some template →
      checkHeaderTemplate agent config.data header.name template = .ok ()
  auth : checkSocketIoAuth agent config.socketio config.data = .ok ()

end LoadTestConfig

section Checks

variable {host agent : Host} {config : LoadTestConfig} {index agents : ℕ}

theorem split_pos {total : ℕ} (hagents : 0 < agents) (h : agents ≤ total) (index : ℕ) :
    0 < split total index agents := by
  rw [split_eq_part total index hagents]
  exact EvenSplit.part_pos hagents h index

theorem split_zero (index agents : ℕ) : split 0 index agents = 0 := by
  unfold split
  simp

/-- A share of a load profile is one. -/
theorem validateProfile_share (hsplit : Splittable config agents)
    (h : LoadProfile config.arrivals config.stages config.rampRate config.connections)
    (serde : Serde) :
    (config.agentSettings serde ⟨index, agents⟩).validateProfile = .ok () := by
  refine Checked.check_bind_eq_ok.mpr ⟨?_, ?_⟩
  · show (config.arrivals.map fun arrivals => arrivals.dividedBy ⟨index, agents⟩).forM
      (fun arrivals => arrivals.validate config.stages (split config.rampRate index agents)) = _
    cases harrivals : config.arrivals with
    | none => rfl
    | some model =>
      obtain ⟨⟨⟨hpos, hmax⟩, hsession, hcap⟩, hstages, hramp⟩ :=
        Arrivals.validate_eq_ok.mp (h.arrivals model harrivals)
      -- a share of a positive rate is positive, and no larger
      have hagents : (0 : ℚ) < agents := Nat.cast_pos.mpr hsplit.agents_pos
      refine Arrivals.validate_eq_ok.mpr ⟨⟨⟨div_pos hpos hagents, ?_⟩, hsession, ?_⟩, hstages, ?_⟩
      · refine (div_le_self hpos.le ?_).trans hmax
        exact_mod_cast hsplit.agents_pos
      · show model.maxConnections.map (Share.of ⟨index, agents⟩) ≠ some 0
        cases hsome : model.maxConnections with
        | none => simp
        | some cap =>
          have hshare := split_pos hsplit.agents_pos (hsplit.cap_le model cap harrivals hsome) index
          exact fun heq => hshare.ne' (Option.some.inj heq)
      · show split config.rampRate index agents = 0
        rw [hramp, split_zero]
  · show (if config.stages = [] then _ else validateStages config.stages _) = _
    split_ifs with hstages
    · rfl
    · obtain ⟨hramp, hdurations⟩ := validateStages_eq_ok.mp (h.stages hstages).1
      refine validateStages_eq_ok.mpr ⟨?_, hdurations⟩
      show split config.rampRate index agents = 0
      rw [hramp, split_zero]

/-- The highest stage target can be divided. -/
theorem agents_le_highest (hsplit : Splittable config agents)
    (h : LoadProfile config.arrivals config.stages config.rampRate config.connections)
    (hstages : config.stages ≠ []) : agents ≤ Stage.highest config.stages := by
  rw [← (h.stages hstages).2]
  refine hsplit.connections_le ?_
  cases harrivals : config.arrivals with
  | none => rfl
  | some model =>
    exact absurd (Arrivals.validate_eq_ok.mp (h.arrivals model harrivals)).2.1 hstages

/-- No agent's profile is sized for no connections. -/
theorem sizedConnections_share_pos (hsplit : Splittable config agents)
    (h : LoadProfile config.arrivals config.stages config.rampRate config.connections)
    (serde : Serde) :
    0 < (config.agentSettings serde ⟨index, agents⟩).sizedConnections := by
  show 0 < if config.stages = [] then
      ((config.arrivals.map fun arrivals => arrivals.dividedBy ⟨index, agents⟩).map
        Arrivals.expectedConnections).getD (split config.connections index agents)
    else Stage.highest config.stages
  split_ifs with hstages
  · cases harrivals : config.arrivals with
    | none => exact split_pos hsplit.agents_pos (hsplit.connections_le harrivals) index
    | some model => exact Nat.pos_of_ne_zero Arrivals.expectedConnections_ne_zero
  · exact lt_of_lt_of_le hsplit.agents_pos (agents_le_highest hsplit h hstages)

theorem Header.trimmed_name (header : Header) : header.trimmed.name = header.name := by
  unfold Header.trimmed
  split <;> rfl

/-- The headers of a share are split if and only if the credentials that are
templates pass. -/
theorem splitHeaderTemplates_regrouped_iff (hconfig : config.Settled host) (index agents : ℕ)
    {result : List Header × List (String × Template)} :
    splitHeaderTemplates agent config.regrouped
        (config.data.map fun data => data.withShare index agents) = .ok result
      ↔ result = (config.regrouped.filter (fun header => headerTemplate header.value = none),
          templatesOf config.regrouped)
        ∧ ∀ header ∈ config.headers, ∀ template,
          headerTemplate header.trimmed.value = some template →
            checkHeaderTemplate agent config.data header.name template = .ok () := by
  constructor
  · intro hsplit
    obtain ⟨hfixed, htemplates, hchecked⟩ := splitHeaderTemplates_eq_ok hsplit
    refine ⟨Prod.ext hfixed htemplates, fun header hheader template htemplate => ?_⟩
    have hmem : header.trimmed ∈ config.regrouped :=
      mem_foldl_appendHeader.mpr (List.mem_append_left _ (List.mem_map_of_mem hheader))
    have hcheck := hchecked _ hmem template htemplate
    rwa [checkHeaderTemplate_withShare, Header.trimmed_name] at hcheck
  · rintro ⟨rfl, hcredentials⟩
    refine splitHeaderTemplates_of_checked fun header hheader template htemplate => ?_
    rw [checkHeaderTemplate_withShare]
    rcases List.mem_append.mp (mem_foldl_appendHeader.mp hheader) with hmem | hmem
    · obtain ⟨given, hgiven, rfl⟩ := List.mem_map.mp hmem
      rw [Header.trimmed_name]
      exact hcredentials given hgiven template htemplate
    · -- the templates of the run were checked
      obtain ⟨checked, hreads, htemplates⟩ := hconfig.templates
      obtain ⟨given, hgiven, rfl⟩ := List.mem_map.mp hmem
      obtain ⟨hsource, hcheck⟩ := htemplates given hgiven
      obtain rfl := Option.some.inj (htemplate.symm.trans hsource.given.2)
      obtain ⟨source, hparse, -⟩ := exists_parse_of_headerTemplate htemplate
      rw [hparse] at hcheck ⊢
      exact checkHeaderTemplate_again hcheck hreads fun file hfile =>
        (hconfig.table file hfile).rows_ne_nil

/-- The check of replies that arrives is accepted again. -/
theorem parseExpect_arrived (hexpect : config.ExpectReadsBack host.serde)
    (hsame : host.SameBuild agent) (hconfig : config.Settled host) :
    LoadTestConfigBuilder.parseExpect agent
        ((config.expect.map Check.arrived).map (Check.flagValue agent.serde))
      = .ok (config.expect.map Check.arrived) := by
  cases hcheck : config.expect with
  | none => rfl
  | some check =>
    have hspell := Check.spellable_arrived (hconfig.expect check hcheck).1
    have hparse : Check.parseFlag host.serde (check.arrived.flagValue host.serde)
        = .ok check.arrived :=
      Check.parseFlag_flagValue hspell fun pointer value heq =>
        hexpect pointer value (hcheck.trans (congrArg some (Check.eq_of_arrived_eq heq)))
    rw [← hsame.serde] at hparse
    show some <$> ((Check.parseFlag agent.serde (check.arrived.flagValue agent.serde)).mapError _)
      = _
    rw [hparse]
    rfl

/-- A payload can be matched when it is parsed without its variables. -/
theorem validateReplyMatch_reparse {vars : List String}
    (hvars : ∀ name ∈ vars, checkVarName name = .ok ()) {payload : PayloadConfig}
    (h : payload.Parsed vars) (rule : ReplyMatch) (mode : TestMode) :
    validateReplyMatch rule mode [payload.reparse []] = validateReplyMatch rule mode [payload] := by
  have hall : [payload.reparse []].all PayloadConfig.carriesSeq
      = [payload].all PayloadConfig.carriesSeq := by
    rw [List.all_cons, List.all_cons, PayloadConfig.carriesSeq_reparse_nil hvars h]
  unfold validateReplyMatch
  rw [hall]

/-- The columns are there wherever the agent stands. -/
theorem checkPayloadData_withShare (payload : PayloadConfig) (data : Option DataSet)
    (index agents : ℕ) :
    checkPayloadData payload (data.map fun data => data.withShare index agents)
      = checkPayloadData payload data := by
  cases data <;> rfl

/-- **An agent's builder passes its checks if and only if the two that are not
made before pass.** -/
theorem passes_share_iff (hexpect : config.ExpectReadsBack host.serde)
    (hsame : host.SameBuild agent) {scripted : Bool} (h : config.Vetted host scripted) (hsplit : Splittable config agents)
    {parts : LoadTestConfigBuilder.Parts} :
    (config.agentSettings agent.serde ⟨index, agents⟩).Passes agent parts
      ↔ parts = config.agentParts ⟨index, agents⟩ ∧ config.Rechecked agent := by
  have hurl : parseTargetUrl agent config.targetUrl = .ok config.targetUrl := by
    have hurl := h.url
    unfold parseTargetUrl at hurl ⊢
    rwa [hsame.urls]
  have hsocketio : SocketIoSettled agent.serde config.mode config.socketio :=
    hsame.serde ▸ h.settled.socketio
  -- the place of the agent is no matter to the rows that the auth template was checked
  -- with
  have hauth : checkSocketIoAuth agent config.socketio
      (config.data.map fun data => data.withShare index agents)
        = checkSocketIoAuth agent config.socketio config.data := by
    unfold checkSocketIoAuth
    cases config.socketio.bind SocketIoConfig.auth with
    | none => rfl
    | some auth =>
      exact congrArg (Except.mapError _) (checkAuth_withShare agent auth config.data _)
  have hheaders {result : List Header × List (String × Template)} :
      splitHeaderTemplates agent config.regrouped
          (config.data.map fun data => data.withShare index agents) = .ok result ↔ _ :=
    splitHeaderTemplates_regrouped_iff h.settled index agents
  have harrives := parseExpect_arrived hexpect hsame h.settled
  constructor
  · intro hparts
    obtain ⟨targetUrl, graphqlWs, socketio, data, headers, headerTemplates, sourceIps, expect⟩ := parts
    obtain rfl := Except.ok.inj (hurl.symm.trans hparts.url)
    obtain rfl := Except.ok.inj (h.settled.graphql.2.symm.trans hparts.graphql)
    obtain ⟨rfl, hcheck⟩ := (compile_ofWire_iff hsocketio).mp hparts.socketio
    have hdata : config.data.map (fun data => data.withShare index agents) = data := by
      have hdata := hparts.data
      cases hfile : config.data with
      | none =>
        simp only [LoadTestConfig.agentSettings, hfile] at hdata
        exact Except.ok.inj hdata
      | some file =>
        simp only [LoadTestConfig.agentSettings, hfile] at hdata
        exact Except.ok.inj hdata
    obtain rfl := hdata
    obtain ⟨hsplit, hcredentials⟩ := hheaders.mp hparts.headers
    obtain ⟨rfl, rfl⟩ := Prod.mk.inj hsplit
    obtain rfl := Except.ok.inj hparts.sourceIps
    obtain rfl := Except.ok.inj (harrives.symm.trans hparts.expect)
    exact ⟨rfl, hcheck, hcredentials, hauth ▸ hparts.auth⟩
  · -- check by check, in the order of the builder
    rintro ⟨rfl, hurlCheck, hcredentials, hauthCheck⟩
    obtain ⟨vars, hvars, hparsed⟩ := h.settled.payload
    exact
      { url := hurl
        profile := validateProfile_share hsplit h.profile agent.serde
        connections := Checked.reject_eq_ok.mpr
          (sizedConnections_share_pos hsplit h.profile agent.serde).ne'
        maxRequests := by
          refine Checked.reject_eq_ok.mpr ?_
          show config.maxRequests.map (fun requests => split requests index agents) ≠ some 0
          cases hrequests : config.maxRequests with
          | none => simp
          | some requests =>
            have hshare := split_pos hsplit.agents_pos (hsplit.requests_le requests hrequests) index
            exact fun heq => hshare.ne' (Option.some.inj heq)
        pointer := by
          have hrule := h.settled.rule
          show validatePointer config.replyMatch = _
          cases hmatch : config.replyMatch with
          | jsonPointer pointer =>
            rw [hmatch] at hrule
            exact Checked.reject_eq_ok.mpr (Bool.not_eq_false _ ▸ hrule)
          | _ => rfl
        graphql := h.settled.graphql.2
        socketio := (compile_ofWire_iff hsocketio).mpr ⟨rfl, hurlCheck⟩
        replyMatch := (validateReplyMatch_reparse hvars hparsed _ _).trans h.replyMatch
        header := rfl
        slo := by cases config.mode <;> rfl
        data := by
          show LoadTestConfigBuilder.loadData agent
            ((config.data.map fun data => data.withShare index agents).map .loaded) = _
          unfold LoadTestConfig.agentParts
          cases config.data <;> rfl
        payload := (checkPayloadData_withShare _ _ index agents).trans
          ((PayloadConfig.checkPayloadData_reparse_nil hvars hparsed config.data).mpr h.columns)
        headers := hheaders.mpr ⟨rfl, hcredentials⟩
        auth := hauth.trans hauthCheck
        sourceIps := rfl
        expect := harrives
        replies := by
          rintro ⟨hsome, hmode⟩
          obtain ⟨check, hcheck⟩ := Option.isSome_iff_exists.mp hsome
          obtain ⟨given, hgiven, -⟩ := Option.map_eq_some_iff.mp hcheck
          exact absurd (h.settled.expect given hgiven).2 (Bool.eq_false_iff.mp hmode) }

end Checks

/-! ## The configuration of an agent

What is set after the builder: the faults, the stages, the refreshed header. -/

/-- The configuration an agent builds from its share of a run. -/
def LoadTestConfig.onAgent (urls : Urls) (config : LoadTestConfig) (share : Share) :
    LoadTestConfig :=
  let arrivals := config.arrivals.map fun arrivals => arrivals.dividedBy share
  { config with
    targetUrl := sessionUrl urls config.socketio config.targetUrl
    connections := if config.stages = []
      then (arrivals.map Arrivals.expectedConnections).getD (share.of config.connections)
      else share.of (Stage.highest config.stages)
    rampRate := share.of config.rampRate
    duration := if config.stages = [] then config.duration else Stage.total config.stages
    arrivals
    maxRequests := config.maxRequests.map share.of
    payload := config.payload.reparse []
    headers := config.regrouped.filter (fun header => headerTemplate header.value = none)
    headerTemplates := templatesOf config.regrouped
    data := config.data.map fun data => data.withShare share.index share.agents
    sourceIps := []
    expect := config.expect.map Check.arrived
    stageShare := if config.stages = [] then none else some share
    chaos := config.chaos.map fun chaos =>
      { chaos with seed := some (agentSeed (chaos.seed.getD 0) share.index) } }

section Agent

variable {host agent : Host} {config : LoadTestConfig} {index agents : ℕ}

/-- The faults of a run are taken with the agent's seed. -/
theorem intoConfig_new {chaos : ChaosConfig} {mode : TestMode} {scripted : Bool}
    (hvalid : chaos.validate = .ok ()) (hmode : validateChaosMode chaos mode scripted "" = .ok ())
    (seed : UInt64) :
    (WireChaos.new chaos seed).intoConfig mode scripted = .ok { chaos with seed := some seed } := by
  have hvalid' : ({ chaos with seed := some seed } : ChaosConfig).validate = .ok () := hvalid
  have hmode' : validateChaosMode { chaos with seed := some seed } mode scripted "" = .ok () :=
    hmode
  unfold WireChaos.intoConfig
  rw [show (WireChaos.new chaos seed).closeMode = chaos.closeMode.name from rfl,
    ChaosCloseMode.fromStr_name]
  exact Checked.check_bind_eq_ok.mpr ⟨hvalid', Checked.check_bind_eq_ok.mpr ⟨hmode', rfl⟩⟩

/-- The phase of a share has an action script if that of the run has. -/
theorem scripted_withPhase (wire : WireConfig) (phase : Option CompiledPhase) :
    (wire.withPhase phase).arrived.scripted
      = phase.any (fun phase => decide (phase.actions ≠ [])) := by
  cases phase with
  | none => rfl
  | some phase =>
    show decide (((phase.actions.map wireAction).map WireAction.arrived) ≠ []) = _
    simp

/-- An agent takes its place in the stages of the run, if it has any. -/
theorem takeStages_share {base : WireConfig} (hindex : index < agents)
    (phase : Option CompiledPhase) {built : LoadTestConfig} (hbuilt : built.stages = config.stages)
    (hshare : built.stageShare = none) :
    ((shareOf config base agents index).withPhase phase).arrived.takeStages built
      = .ok { built with
          connections := if config.stages = [] then built.connections
            else Share.of ⟨index, agents⟩ built.connections
          stageShare := if config.stages = [] then none else some ⟨index, agents⟩ } := by
  have hplace : ¬ (agents = 0 ∨ agents ≤ index) := by omega
  unfold WireConfig.takeStages
  rw [show ((shareOf config base agents index).withPhase phase).arrived.stageShare
    = if config.stages = [] then none else some ⟨index, agents⟩ from rfl]
  by_cases hstages : config.stages = []
  · rw [if_pos hstages, if_pos hstages]
    cases built
    cases hshare
    rfl
  · rw [if_neg hstages, if_neg hstages]
    dsimp only
    unfold Share.validate
    rw [(Checked.reject_eq_ok (u := ())).mpr hplace, Checked.ok_bind,
      (Checked.reject_eq_ok (u := ())).mpr (hbuilt ▸ hstages)]
    rfl

/-- An agent injects the faults of the run, with its own seed. -/
theorem chaos_share {base : WireConfig} (hbase : base.chaos = none) {scripted : Bool}
    (h : config.FaultsFit scripted) (phase : Option CompiledPhase) :
    ((shareOf config base agents index).withPhase phase).arrived.chaos.mapM
        (fun chaos => chaos.intoConfig config.mode scripted)
      = .ok (config.chaos.map fun chaos =>
          { chaos with seed := some (agentSeed (chaos.seed.getD 0) index) }) := by
  cases hfaults : config.chaos with
  | none =>
    have hchaos : ((shareOf config base agents index).withPhase phase).arrived.chaos
        = base.chaos := by
      show (shareOf config base agents index).chaos = _
      unfold shareOf
      rw [hfaults]
    rw [hchaos, hbase]
    rfl
  | some chaos =>
    have hchaos : ((shareOf config base agents index).withPhase phase).arrived.chaos
        = some (WireChaos.new chaos (agentSeed (chaos.seed.getD 0) index)) := by
      show (shareOf config base agents index).chaos = _
      unfold shareOf
      rw [hfaults]
    rw [hchaos]
    obtain ⟨hvalid, hmode, -⟩ := h chaos hfaults
    exact Checked.map_eq_ok.mpr ⟨_, intoConfig_new hvalid hmode _, rfl⟩

/-- What is left of `intoConfig` once the settings are there. -/
theorem intoConfig_eq_ok {wire : WireConfig} {builder : LoadTestConfigBuilder} {t : UInt64}
    {live : Option Header} {chaos : Option ChaosConfig} {result : LoadTestConfig}
    (hbuilder : wire.builder host.serde = .ok builder)
    (hlive : wire.liveAuth.mapM WireHeader.parse = .ok live)
    (hchaos : wire.chaos.mapM (fun chaos => chaos.intoConfig builder.mode wire.scripted)
      = .ok chaos) :
    wire.intoConfig host t = .ok result
      ↔ ∃ built, builder.build host t = .ok built
        ∧ wire.takeStages { built with
            liveAuth := live.or built.liveAuth
            chaos := chaos.or built.chaos } = .ok result
        ∧ result.connections ≠ 0 := by
  unfold WireConfig.intoConfig
  rw [hbuilder, Checked.ok_bind, Checked.bind_eq_ok]
  refine exists_congr fun built => and_congr_right fun _ => ?_
  rw [hlive, Checked.ok_bind, hchaos, Checked.ok_bind, Checked.bind_eq_ok]
  constructor
  · rintro ⟨config, htake, hend⟩
    obtain ⟨hconnections, hend⟩ := Checked.check_bind_eq_ok.mp hend
    cases Checked.pure_eq_ok.mp hend
    exact ⟨htake, Checked.reject_eq_ok.mp hconnections⟩
  · rintro ⟨htake, hconnections⟩
    exact ⟨result, htake, Checked.check_bind_eq_ok.mpr
      ⟨Checked.reject_eq_ok.mpr hconnections, rfl⟩⟩

/-- A refreshed header is sent as it is. -/
theorem liveAuth_fromConfig (hconfig : config.Settled host) {base : WireConfig}
    (hbase : WireConfig.fromConfig config = .ok base) :
    base.liveAuth.mapM WireHeader.parse = .ok config.liveAuth ∧ base.chaos = none := by
  obtain ⟨fixed, -, hbase⟩ := Checked.bind_eq_ok.mp hbase
  obtain ⟨liveAuth, hlive, hbase⟩ := Checked.bind_eq_ok.mp hbase
  cases Checked.pure_eq_ok.mp hbase
  refine ⟨?_, rfl⟩
  show liveAuth.mapM WireHeader.parse = _
  cases hheader : config.liveAuth with
  | none =>
    rw [hheader] at hlive
    cases hlive
    rfl
  | some header =>
    rw [hheader] at hlive
    obtain ⟨wire, hwire, rfl⟩ := Checked.map_eq_ok.mp hlive
    exact Checked.map_eq_ok.mpr
      ⟨header, (hconfig.liveAuth header hheader).parse_wireHeader hwire, rfl⟩

/-- The builder of an agent builds one configuration, or none. -/
theorem build_share_iff (hexpect : config.ExpectReadsBack host.serde)
    (hsame : host.SameBuild agent) {scripted : Bool} (h : config.Vetted host scripted) (hsplit : Splittable config agents)
    (t : UInt64) {built : LoadTestConfig} :
    (config.agentSettings agent.serde ⟨index, agents⟩).build agent t = .ok built
      ↔ built = (config.agentSettings agent.serde ⟨index, agents⟩).calm agent
          (config.agentParts ⟨index, agents⟩) ∧ config.Rechecked agent := by
  rw [LoadTestConfigBuilder.build_eq_ok_iff]
  constructor
  · rintro ⟨parts, chaos, hparts, hchaos, rfl⟩
    obtain ⟨rfl, hchecks⟩ := (passes_share_iff hexpect hsame h hsplit).mp hparts
    cases Except.ok.inj hchaos
    exact ⟨rfl, hchecks⟩
  · rintro ⟨rfl, hchecks⟩
    exact ⟨_, none, (passes_share_iff hexpect hsame h hsplit).mpr ⟨rfl, hchecks⟩, rfl, rfl⟩

/-- The configuration of an agent is the one its builder gives, with its place
in the stages and the faults of the run. -/
theorem onAgent_eq (share : Share) :
    config.onAgent agent.urls share
      = { (config.agentSettings agent.serde share).calm agent (config.agentParts share) with
          connections := if config.stages = []
            then (config.agentSettings agent.serde share).sizedConnections
            else share.of (config.agentSettings agent.serde share).sizedConnections
          stageShare := if config.stages = [] then none else some share
          liveAuth := config.liveAuth.or none
          chaos := (config.onAgent agent.urls share).chaos.or none } := by
  unfold LoadTestConfig.onAgent LoadTestConfigBuilder.calm LoadTestConfigBuilder.sizedConnections
  by_cases hstages : config.stages = []
  all_goals
    simp [LoadTestConfig.agentSettings, LoadTestConfig.agentParts,
      LoadTestConfigBuilder.sizedDuration, hstages]

/-- **What an agent makes of its share.** -/
theorem intoConfig_share_iff (hexpect : config.ExpectReadsBack host.serde)
    (hsame : host.SameBuild agent) {phase : Option CompiledPhase} {scripted : Bool}
    (hscripted : phase.any (fun phase => decide (phase.actions ≠ [])) = scripted)
    (h : config.Vetted host scripted) (hsplit : Splittable config agents)
    {base : WireConfig} (hbase : WireConfig.fromConfig config = .ok base) (hindex : index < agents)
    (t : UInt64) {result : LoadTestConfig} :
    ((shareOf config base agents index).withPhase phase).arrived.intoConfig agent t = .ok result
      ↔ result = config.onAgent agent.urls ⟨index, agents⟩ ∧ config.Rechecked agent := by
  have hbuilder := builder_share h.settled hbase hindex phase agent.serde
  have hscript := (scripted_withPhase (shareOf config base agents index) phase).trans hscripted
  obtain ⟨hlive, hnone⟩ := liveAuth_fromConfig h.settled hbase
  have hchaos : ((shareOf config base agents index).withPhase phase).arrived.chaos.mapM _ = _ :=
    chaos_share hnone h.faults phase
  rw [← hscript] at hchaos
  rw [intoConfig_eq_ok hbuilder hlive hchaos]
  have htake :
      ((shareOf config base agents index).withPhase phase).arrived.takeStages
          { (config.agentSettings agent.serde ⟨index, agents⟩).calm agent
              (config.agentParts ⟨index, agents⟩) with
            liveAuth := config.liveAuth.or none
            chaos := (config.onAgent agent.urls ⟨index, agents⟩).chaos.or none } = _ :=
    takeStages_share hindex phase rfl rfl
  have hconnections : (config.onAgent agent.urls ⟨index, agents⟩).connections ≠ 0 := by
    rw [onAgent_eq]
    show (if config.stages = [] then LoadTestConfigBuilder.sizedConnections _
      else Share.of ⟨index, agents⟩ (if config.stages = [] then _ else Stage.highest config.stages))
        ≠ 0
    split_ifs with hstages
    · exact (sizedConnections_share_pos hsplit h.profile agent.serde).ne'
    · exact (split_pos hsplit.agents_pos (agents_le_highest hsplit h.profile hstages) index).ne'
  constructor
  · rintro ⟨built, hbuilt, hresult, -⟩
    obtain ⟨rfl, hchecks⟩ := (build_share_iff hexpect hsame h hsplit t).mp hbuilt
    exact ⟨(Except.ok.inj (hresult.symm.trans htake)).trans (onAgent_eq _).symm, hchecks⟩
  · rintro ⟨rfl, hchecks⟩
    refine ⟨_, (build_share_iff hexpect hsame h hsplit t).mpr ⟨rfl, hchecks⟩, ?_, hconnections⟩
    exact htake.trans (congrArg Except.ok (onAgent_eq _).symm)

end Agent

/-! ## What a coordinator sends

Runs and phases of scenarios are divided alike, once it is known what they were
checked for. -/

/-- **The configurations that a coordinator divides**, each with the phase it is
of: those of runs, and those of the phases of a scenario that was accepted. The
faults of a phase may take their seed from the clock once more. -/
inductive Coordinated (host : Host) : LoadTestConfig → Option CompiledPhase → Prop
  | run {config : LoadTestConfig} : config.IsRun host → Coordinated host config none
  | phase {scenario : ScenarioConfig} {base : LoadTestConfig}
    {selected targetOverride : Option String} {agents : ℕ} {t : UInt64}
    {prepared : PreparedScenario} {phase : CompiledPhase} {target : String} (t' : UInt64) :
    base.IsBase host →
    Coordinator.scenario host t scenario base selected targetOverride agents = .ok prepared →
    (phase, target) ∈ prepared.phases.zip prepared.targets →
    Coordinated host ((phaseConfig t' prepared.base phase).setTarget host target) (some phase)

/-- What an agent runs for its share: its configuration, with the addresses of
its own machine, and its phase. -/
def WireConfig.phaseRunner (host : Host) (timeSeed : UInt64) (sourceIps : List String)
    (wire : WireConfig) : Except ConfigError (LoadTestConfig × Option CompiledPhase) := do
  let config ← wire.intoConfig host timeSeed
  let config := { config with sourceIps }
  let phase ← wire.phase.mapM (fun phase => phase.intoPhase config)
  return (config, phase)

theorem vetted_of_coordinated {host : Host} (hurls : host.urls.Serializes)
    {config : LoadTestConfig} {phase : Option CompiledPhase} (h : Coordinated host config phase) :
    config.Vetted host (phase.any (fun phase => decide (phase.actions ≠ [])))
      ∧ ∀ compiled ∈ phase, compiled.Compiled := by
  cases h with
  | run hrun => exact ⟨vetted_of_isRun hurls hrun, by simp⟩
  | phase t' hbase hscenario hmem =>
    obtain ⟨hcompiled, hvetted⟩ := vetted_of_scenario hurls hbase hscenario hmem t'
    refine ⟨?_, fun compiled heq => ?_⟩
    · rw [Option.any_some]
      exact hvetted
    · obtain rfl := Option.some.inj heq
      exact hcompiled

/-- **What an agent runs**: the settings of the run, divided, with the phase, if
the checks pass that the coordinator has not always made. -/
theorem phaseRunner_share_iff {host agent : Host} {config : LoadTestConfig}
    (hurls : host.urls.Serializes) (hexpect : config.ExpectReadsBack host.serde)
    (hsame : host.SameBuild agent) {phase : Option CompiledPhase}
    (h : Coordinated host config phase) {agents : ℕ}
    {shares : List WireConfig} (hplan : plan config agents = .ok shares) {index : ℕ}
    {wire : WireConfig} (hwire : shares[index]? = some wire) (t : UInt64)
    (sourceIps : List String) {result : LoadTestConfig × Option CompiledPhase} :
    (wire.withPhase phase).arrived.phaseRunner agent t sourceIps = .ok result
      ↔ result = ({ config.onAgent agent.urls ⟨index, agents⟩ with sourceIps },
          phase.map fun phase => phase.onAgent (config.onAgent agent.urls ⟨index, agents⟩))
        ∧ config.Rechecked agent := by
  obtain ⟨hvetted, hcompiled⟩ := vetted_of_coordinated hurls h
  obtain ⟨hsplit, base, hbase, rfl⟩ := plan_eq_ok hplan
  obtain ⟨hindex, rfl⟩ : index < agents ∧ shareOf config base agents index = wire := by
    rw [List.getElem?_map, Option.map_eq_some_iff] at hwire
    obtain ⟨position, hposition, rfl⟩ := hwire
    obtain ⟨hlt, rfl⟩ := List.getElem?_eq_some_iff.mp hposition
    rw [List.length_range] at hlt
    rw [List.getElem_range]
    exact ⟨hlt, rfl⟩
  have hphase : ∀ ran : LoadTestConfig,
      ((shareOf config base agents index).withPhase phase).arrived.phase.mapM
        (fun phase => phase.intoPhase ran) = .ok (phase.map fun phase => phase.onAgent ran) := by
    intro ran
    cases phase with
    | none => rfl
    | some phase =>
      exact Checked.map_eq_ok.mpr ⟨_, CompiledPhase.intoPhase_fromPhase (hcompiled phase rfl) ran, rfl⟩
  unfold WireConfig.phaseRunner
  constructor
  · intro hran
    obtain ⟨built, hbuilt, hran⟩ := Checked.bind_eq_ok.mp hran
    obtain ⟨rfl, hchecks⟩ := (intoConfig_share_iff hexpect hsame rfl hvetted hsplit hbase hindex t).mp hbuilt
    obtain ⟨taken, htaken, hran⟩ := Checked.bind_eq_ok.mp hran
    cases Checked.pure_eq_ok.mp hran
    obtain rfl := Except.ok.inj ((hphase _).symm.trans htaken)
    exact ⟨rfl, hchecks⟩
  · rintro ⟨rfl, hchecks⟩
    refine Checked.bind_eq_ok.mpr ⟨_, (intoConfig_share_iff hexpect hsame rfl hvetted hsplit hbase
      hindex t).mpr ⟨rfl, hchecks⟩, Checked.bind_eq_ok.mpr ⟨_, hphase _, rfl⟩⟩

namespace Site

/-! ## A run and a phase of the site

A Socket.IO run divided between two agents, and a phase whose target asks for
version 3 of Engine.IO before version 4. The session of the phase speaks version
4, which its URL names too, so the coordinator takes the URL as it is written;
an agent checks the first version in it. -/

/-- A builder of a Socket.IO run, with a check of the replies or without. -/
def socketIoSettings (expect : Option String) : LoadTestConfigBuilder where
  target := "ws://127.0.0.1:9001/"
  mode := .socketIo
  expect

/-- A scenario whose phase names both versions in its target. -/
def bothVersions : ScenarioConfig where
  version := "1.0"
  name := "both versions"
  phases :=
    [{ name := "both", target := some "ws://127.0.0.1:9001/?EIO=3&EIO=4", duration := some "10s",
       connections := some 4 }]

/-- The Socket.IO run: the path and the query of a session are in its URL. -/
def socketIoRun : LoadTestConfig :=
  { LoadTestConfig.defaults "ws://127.0.0.1:9001/socket.io/?EIO=4&transport=websocket" with
    mode := .socketIo
    socketio := some { «namespace» := "/", event := "message", auth := none, engine := .v4 } }

theorem parse_home : urls.parse "ws://127.0.0.1:9001/" = .ok "ws://127.0.0.1:9001/" := by
  decide +kernel

theorem socketioUrl_home : socketioUrl urls "ws://127.0.0.1:9001/" .v4
    = "ws://127.0.0.1:9001/socket.io/?EIO=4&transport=websocket" := by
  decide +kernel

theorem checkUrl_home : checkUrl urls "ws://127.0.0.1:9001/" .v4 = .ok () := by
  decide +kernel

/-- The settings of a Socket.IO session that no flag changes. -/
theorem compile_home :
    ({} : SocketIoOptions).compile host .socketIo "ws://127.0.0.1:9001/"
      = .ok socketIoRun.socketio := by
  have hvalid : SocketIoConfig.validate host.serde ⟨"/", "message", none, .v4⟩ = .ok () := by
    decide +kernel
  unfold SocketIoOptions.compile
  rw [if_neg (by decide)]
  show ((checkUrl urls "ws://127.0.0.1:9001/" .v4).mapError _ >>= fun _ => _) = _
  rw [checkUrl_home]
  show ((SocketIoConfig.validate host.serde ⟨"/", "message", none, .v4⟩).mapError _
    >>= fun _ => _) = _
  rw [hvalid]
  rfl

/-- **A Socket.IO run is built**, with any check that is spelled right. -/
theorem isRun_socketIo {spec : Option String} {check : Option Check}
    (hspec : LoadTestConfigBuilder.parseExpect host spec = .ok check) :
    { socketIoRun with expect := check }.IsRun host := by
  have hmade : (socketIoSettings spec).Made host :=
    .other (.new "ws://127.0.0.1:9001/") rfl rfl rfl rfl
  have hpasses : (socketIoSettings spec).Passes host
      ⟨"ws://127.0.0.1:9001/", none, socketIoRun.socketio, none, [], [], [], check⟩ :=
    { url := parseTargetUrl_eq_ok.mpr ⟨parse_home, .inl rfl⟩
      profile := rfl
      connections := rfl
      maxRequests := rfl
      pointer := rfl
      graphql := rfl
      socketio := compile_home
      replyMatch := rfl
      header := rfl
      slo := rfl
      data := rfl
      payload := rfl
      headers := rfl
      auth := rfl
      sourceIps := rfl
      expect := hspec
      replies := fun h => Bool.false_ne_true h.2.symm }
  have hurl : sessionUrl host.urls socketIoRun.socketio "ws://127.0.0.1:9001/"
      = socketIoRun.targetUrl := socketioUrl_home
  refine .built (t := 0) hmade (LoadTestConfigBuilder.build_eq_ok_iff.mpr
    ⟨_, none, hpasses, rfl, ?_⟩)
  -- the check is not known, so the sizes are computed by simp and not by unfolding
  dsimp only [LoadTestConfigBuilder.calm, socketIoSettings, LoadTestConfigBuilder.sizedConnections,
    LoadTestConfigBuilder.sizedDuration]
  rw [hurl]
  simp [socketIoRun, LoadTestConfig.defaults]

theorem socketIoRun_isRun : socketIoRun.IsRun host := by
  have hnone : LoadTestConfigBuilder.parseExpect host none = .ok none := rfl
  exact isRun_socketIo hnone

theorem socketioUrl_both : socketioUrl urls "ws://127.0.0.1:9001/?EIO=3&EIO=4" .v4
    = "ws://127.0.0.1:9001/socket.io/?EIO=3&EIO=4&transport=websocket" := by
  decide +kernel

/-- The first version that the phase asks for is not that of its session. -/
theorem checkUrl_both :
    (checkUrl urls (socketioUrl urls "ws://127.0.0.1:9001/?EIO=3&EIO=4" .v4) .v4).isOk = false := by
  rw [socketioUrl_both]
  decide +kernel

/-- The coordinator accepts the phase, whose target asks for version 3 first. -/
theorem bothVersions_accepted :
    ∃ prepared phase target shares wire,
      Coordinator.scenario host 0 bothVersions socketIoRun none none 2 = .ok prepared
      ∧ (phase, target) ∈ prepared.phases.zip prepared.targets
      ∧ plan ((phaseConfig 0 prepared.base phase).setTarget host target) 2 = .ok shares
      ∧ wire ∈ shares
      ∧ ¬ ((phaseConfig 0 prepared.base phase).setTarget host target).Rechecked host := by
  refine ⟨_, _, _, _, _, rfl, List.mem_cons_self, rfl, List.mem_cons_self, fun hchecks => ?_⟩
  have hurl : checkUrl urls (socketioUrl urls "ws://127.0.0.1:9001/?EIO=3&EIO=4" .v4) .v4
      = .ok () := hchecks.url _ rfl
  exact absurd (congrArg Except.isOk hurl) (by rw [checkUrl_both]; decide)

end Site

end WsBlast
