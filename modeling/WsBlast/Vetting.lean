import WsBlast.Credentials
import WsBlast.PhaseScripts

/-!
# What the coordinator has checked

A configuration that is divided between agents was built (`Made`, `vetted_of_build`),
or is that of a phase of a scenario that was accepted (`vetted_of_scenario`). The
two are checked along different paths; `LoadTestConfig.Vetted` is what both have
checked, in the terms of the checks that an agent makes again.

A builder may be set up in many ways. The command line does it with its flags,
the scenario with its phases, and a program that uses the crate as a library
calls the setters in any order. `Made` is the closure of a new builder under
all of these, and what `given_of_made` proves of it is little: headers were
accepted when they were given, and a payload was parsed. Everything else is
checked when the builder builds.
-/

namespace WsBlast

open MultiMap (Grouped)

/-! ## URLs

The target of a session is a URL of the schemes `ws` and `wss`. -/

/-- A text that the library takes for itself: the serialised URL of a target,
of one of the two schemes that sessions use. -/
structure Urls.IsTarget (urls : Urls) (url : String) : Prop where
  parse : urls.parse url = .ok url
  scheme : urls.scheme url = "ws" ∨ urls.scheme url = "wss"

/-- The library takes the text of a target for that target, also after its path
or its query was set. Only `ws` and `wss` URLs are meant: URLs of other schemes
are rejected before any of this is asked of them. -/
structure Urls.Serializes (urls : Urls) : Prop where
  parse : ∀ {raw url}, urls.parse raw = .ok url → urls.scheme url = "ws" ∨ urls.scheme url = "wss" →
    urls.IsTarget url
  setPath : ∀ {url} (path), urls.IsTarget url → urls.IsTarget (urls.setPath url path)
  setQueryPairs : ∀ {url} (pairs), urls.IsTarget url → urls.IsTarget (urls.setQueryPairs url pairs)

/-- A path and a query that were set in a target are there, and a query that is
set again takes the place of the one before. -/
structure Urls.Editable (urls : Urls) : Prop where
  path_setPath : ∀ {url}, urls.IsTarget url →
    urls.path (urls.setPath url defaultPath) = defaultPath
  path_setQueryPairs : ∀ {url} (pairs), urls.IsTarget url →
    urls.path (urls.setQueryPairs url pairs) = urls.path url
  queryPairs_setQueryPairs : ∀ {url} (pairs), urls.IsTarget url →
    urls.queryPairs (urls.setQueryPairs url pairs) = pairs
  setQueryPairs_again : ∀ {url} (pairs again), urls.IsTarget url →
    urls.setQueryPairs (urls.setQueryPairs url pairs) again = urls.setQueryPairs url again

theorem parseTargetUrl_eq_ok {host : Host} {raw url : String} :
    parseTargetUrl host raw = .ok url
      ↔ host.urls.parse raw = .ok url ∧ (host.urls.scheme url = "ws" ∨ host.urls.scheme url = "wss") := by
  unfold parseTargetUrl
  rw [Checked.bind_eq_ok]
  constructor
  · rintro ⟨parsed, hparsed, h⟩
    dsimp only at h
    split_ifs at h with hscheme
    cases Checked.pure_eq_ok.mp h
    exact ⟨Checked.mapError_eq_ok.mp hparsed, hscheme⟩
  · rintro ⟨hparsed, hscheme⟩
    refine ⟨url, Checked.mapError_eq_ok.mpr hparsed, ?_⟩
    dsimp only
    rw [if_pos hscheme]
    rfl

/-- What is parsed as a target is one. -/
theorem isTarget_of_parse {host : Host} (hurls : host.urls.Serializes) {raw url : String}
    (h : parseTargetUrl host raw = .ok url) : host.urls.IsTarget url := by
  obtain ⟨hparsed, hscheme⟩ := parseTargetUrl_eq_ok.mp h
  exact hurls.parse hparsed hscheme

/-- The URL a session connects to is a target again. -/
theorem isTarget_sessionUrl {urls : Urls} (hurls : urls.Serializes) {url : String}
    (h : urls.IsTarget url) (socketio : Option SocketIoConfig) :
    urls.IsTarget (sessionUrl urls socketio url) := by
  cases socketio with
  | none => exact h
  | some sio =>
    show urls.IsTarget (socketioUrl urls url sio.engine)
    unfold socketioUrl
    dsimp only
    split_ifs
    · exact hurls.setQueryPairs _ (hurls.setPath _ h)
    · exact hurls.setQueryPairs _ h

theorem parseTargetUrl_sessionUrl {host : Host} (hurls : host.urls.Serializes) {raw url : String}
    (h : parseTargetUrl host raw = .ok url) (socketio : Option SocketIoConfig) :
    parseTargetUrl host (sessionUrl host.urls socketio url)
      = .ok (sessionUrl host.urls socketio url) := by
  have htarget := isTarget_sessionUrl hurls (isTarget_of_parse hurls h) socketio
  exact parseTargetUrl_eq_ok.mpr ⟨htarget.parse, htarget.scheme⟩

/-! ## Settings that are checked again

Each setting whose check the agent repeats, as a predicate on the setting. -/

theorem validateChaosMode_eq_ok {chaos : ChaosConfig} {mode : TestMode} {hasActions : Bool}
    {context : String} :
    validateChaosMode chaos mode hasActions context = .ok ()
      ↔ (chaos.actsOnSends = true →
          (hasActions || mode.awaitsReplies || decide (mode = .stream)) = true) := by
  unfold validateChaosMode
  dsimp only
  rw [Checked.reject_eq_ok, not_and, Bool.not_eq_false]

theorem Json.given_of_isObject {value : Json} (h : value.isObject = true) :
    value.given = some value := by
  cases value with
  | null => cases h
  | _ => rfl

theorem bind_given_of_isObject {value : Option Json}
    (h : ¬ value.any (fun value => !value.isObject) = true) : value.bind Json.given = value := by
  cases value with
  | none => rfl
  | some value => exact Json.given_of_isObject (by simpa using h)

/-- The GraphQL settings of a run are those that arrive, and are accepted
again. -/
theorem validateGraphql_again {mode : TestMode} {options : GraphQLOptions}
    {graphql : Option GraphQLWSConfig} (h : validateGraphql mode options = .ok graphql) :
    graphql.map GraphQLWSConfig.arrived = graphql
      ∧ validateGraphql mode (.ofWire graphql) = .ok graphql := by
  unfold validateGraphql at h
  split_ifs at h with hmode
  · obtain ⟨-, h⟩ := Checked.check_bind_eq_ok.mp h
    cases Checked.pure_eq_ok.mp h
    refine ⟨rfl, ?_⟩
    unfold validateGraphql
    rw [if_pos hmode]
    rfl
  · split at h
    · cases h
    · rename_i operation hoperation
      obtain ⟨hvariables, h⟩ := Checked.check_bind_eq_ok.mp h
      obtain ⟨hextensions, h⟩ := Checked.check_bind_eq_ok.mp h
      cases Checked.pure_eq_ok.mp h
      obtain ⟨-, hblank⟩ := Option.filter_eq_some_iff.mp hoperation
      rw [Checked.reject_eq_ok] at hvariables hextensions
      refine ⟨?_, ?_⟩
      · show some (GraphQLWSConfig.arrived _) = _
        unfold GraphQLWSConfig.arrived
        dsimp only
        rw [bind_given_of_isObject hvariables, bind_given_of_isObject hextensions]
      · have hfilter : (GraphQLOptions.ofWire (some { options with operation })).operation.filter
            (fun operation => !isBlank operation) = some operation :=
          Option.filter_eq_some_iff.mpr ⟨rfl, hblank⟩
        unfold validateGraphql
        rw [if_neg hmode, hfilter]
        dsimp only [GraphQLOptions.ofWire]
        rw [(Checked.reject_eq_ok (u := ())).mpr hvariables, Checked.ok_bind,
          (Checked.reject_eq_ok (u := ())).mpr hextensions]
        rfl

/-- The Socket.IO settings of a run in a mode, as they were checked. -/
def SocketIoSettled (serde : Serde) (mode : TestMode) : Option SocketIoConfig → Prop
  | none => mode ≠ .socketIo
  | some sio => mode = .socketIo ∧ sio.validate serde = .ok ()
      ∧ ∀ auth ∈ sio.auth, auth = Template.parse auth.source

theorem socketIoSettled_of_compile {host : Host} {options : SocketIoOptions} {mode : TestMode}
    {target : String} {socketio : Option SocketIoConfig}
    (h : options.compile host mode target = .ok socketio) :
    SocketIoSettled host.serde mode socketio
      ∧ ∀ sio ∈ socketio, checkUrl host.urls target sio.engine = .ok () := by
  unfold SocketIoOptions.compile at h
  split_ifs at h with hmode
  · obtain ⟨-, h⟩ := Checked.check_bind_eq_ok.mp h
    cases Checked.pure_eq_ok.mp h
    exact ⟨hmode, fun _ hsio => absurd hsio (Option.not_mem_none _)⟩
  · dsimp only at h
    split at h
    · cases h
    · obtain ⟨hurl, h⟩ := Checked.check_bind_eq_ok.mp h
      obtain ⟨hvalid, h⟩ := Checked.check_bind_eq_ok.mp h
      cases Checked.pure_eq_ok.mp h
      rw [Checked.mapError_eq_ok] at hurl hvalid
      refine ⟨⟨not_not.mp hmode, hvalid, ?_⟩, ?_⟩
      · intro auth hauth
        obtain ⟨source, -, rfl⟩ := Option.map_eq_some_iff.mp hauth
        rfl
      · intro sio hsio
        obtain rfl := Option.some.inj hsio
        exact hurl

/-- **Socket.IO settings are accepted again when the URL is.** -/
theorem compile_ofWire_iff {host : Host} {mode : TestMode} {target : String}
    {socketio result : Option SocketIoConfig} (h : SocketIoSettled host.serde mode socketio) :
    (SocketIoOptions.ofWire (socketio.map wireSocketIo)).compile host mode target = .ok result
      ↔ result = socketio ∧ ∀ sio ∈ socketio, checkUrl host.urls target sio.engine = .ok () := by
  cases socketio with
  | none =>
    have hmode : mode ≠ .socketIo := h
    unfold SocketIoOptions.compile
    rw [if_pos hmode]
    show Except.ok none = Except.ok result ↔ _
    rw [Except.ok.injEq, eq_comm]
    exact ⟨fun heq => ⟨heq, nofun⟩, And.left⟩
  | some sio =>
    obtain ⟨rfl, hvalid, hparsed⟩ := h
    have hversion : EngineIo.fromVersion (wireSocketIo sio).version = some sio.engine := by
      unfold wireSocketIo
      cases sio.engine <;> rfl
    have hauth : (sio.auth.map Template.source).map Template.parse = sio.auth := by
      cases hgiven : sio.auth with
      | none => rfl
      | some auth => exact congrArg some (hparsed auth hgiven).symm
    have hsame : ({ «namespace» := sio.namespace
                    event := sio.event
                    auth := (sio.auth.map Template.source).map Template.parse
                    engine := sio.engine } : SocketIoConfig) = sio := by
      rw [hauth]
    have hcompile : (SocketIoOptions.ofWire (some (wireSocketIo sio))).compile host .socketIo target
        = ((checkUrl host.urls target sio.engine).mapError .invalidOption
            >>= fun _ => .ok (some sio)) := by
      unfold SocketIoOptions.compile
      rw [if_neg (not_not.mpr rfl)]
      dsimp only [SocketIoOptions.ofWire, Option.getD_some]
      rw [hversion]
      dsimp only [wireSocketIo]
      rw [hsame, hvalid]
      rfl
    rw [Option.map_some, hcompile, Checked.check_bind_eq_ok, Checked.mapError_eq_ok,
      Except.ok.injEq, and_comm, eq_comm]
    exact and_congr_right fun _ => ⟨fun hurl other hother => Option.some.inj hother ▸ hurl,
      fun hall => hall sio rfl⟩

/-! ## What the coordinator has checked -/

namespace LoadTestConfig

/-- The settings the phases of a scenario share, as they were checked. -/
structure Settled (host : Host) (config : LoadTestConfig) : Prop where
  rule : config.replyMatch.pointerIsValid = true
  graphql : config.graphqlWs.map GraphQLWSConfig.arrived = config.graphqlWs
    ∧ validateGraphql config.mode (.ofWire config.graphqlWs) = .ok config.graphqlWs
  socketio : SocketIoSettled host.serde config.mode config.socketio
  headers : ∀ header ∈ config.headers, header.Valid
  /-- The header templates were checked with the data file, or without one. -/
  templates : ∃ checked, ReadsTable checked config.data ∧ ∀ template ∈ config.headerTemplates,
    GivenTemplate template ∧ checkHeaderTemplate host checked template.1 template.2 = .ok ()
  table : ∀ file ∈ config.data, file.WellFormed
  expect : ∀ check ∈ config.expect, check.Spellable ∧ config.mode.awaitsReplies = true
  liveAuth : ∀ header ∈ config.liveAuth, header.Valid
  payload : ∃ vars, (∀ name ∈ vars, checkVarName name = .ok ()) ∧ config.payload.Parsed vars

/-- The faults fit the mode, or the action script if there is one, and are
some. -/
def FaultsFit (scripted : Bool) (config : LoadTestConfig) : Prop :=
  ∀ chaos ∈ config.chaos, chaos.validate = .ok ()
    ∧ validateChaosMode chaos config.mode scripted "" = .ok () ∧ chaos.isActive = true

/-- A configuration that can be divided, as it was checked. -/
structure Vetted (host : Host) (scripted : Bool) (config : LoadTestConfig) : Prop where
  settled : config.Settled host
  url : parseTargetUrl host config.targetUrl = .ok config.targetUrl
  session : ∃ raw, host.urls.IsTarget raw
    ∧ config.targetUrl = sessionUrl host.urls config.socketio raw
  profile : LoadProfile config.arrivals config.stages config.rampRate config.connections
  duration : config.stages ≠ [] → config.duration = Stage.total config.stages
  replyMatch : validateReplyMatch config.replyMatch config.mode [config.payload] = .ok ()
  columns : checkPayloadData config.payload config.data = .ok ()
  faults : config.FaultsFit scripted

end LoadTestConfig

/-! ## Builders -/

/-- What a builder that was set up can have: headers that were accepted and
are grouped by their names, a payload without variables, and a table. -/
structure LoadTestConfigBuilder.Given (builder : LoadTestConfigBuilder) : Prop where
  headers : Grouped Header.name builder.headers ∧ ∀ header ∈ builder.headers, header.Given
  payload : builder.payload.Parsed []
  data : ∀ file, builder.data = some (.loaded file) → file.WellFormed

namespace LoadTestConfigBuilder

variable {host : Host} {t : UInt64} {builder : LoadTestConfigBuilder} {config : LoadTestConfig}

theorem pointerIsValid_of_validatePointer {rule : ReplyMatch} (h : validatePointer rule = .ok ()) :
    rule.pointerIsValid = true := by
  cases rule with
  | jsonPointer pointer =>
    exact Bool.not_eq_false _ ▸ Checked.reject_eq_ok.mp h
  | _ => rfl

theorem wellFormed_of_loadData {source : Option DataSource} {data : Option DataSet}
    (hsource : ∀ file, source = some (.loaded file) → file.WellFormed)
    (h : loadData host source = .ok data) : ∀ file ∈ data, file.WellFormed := by
  intro file hfile
  cases source with
  | none =>
    cases h
    cases hfile
  | some source =>
    cases source with
    | loaded given =>
      cases h
      obtain rfl := Option.some.inj hfile
      exact hsource _ rfl
    | file path =>
      obtain ⟨given, hgiven, rfl⟩ := Checked.map_eq_ok.mp h
      obtain rfl := Option.some.inj hfile
      rw [Checked.mapError_eq_ok] at hgiven
      exact (DataSet.wellFormed_of_load hgiven).1

theorem profile_of_validateProfile (h : builder.validateProfile = .ok ()) :
    LoadProfile builder.arrivals builder.stages builder.rampRate builder.sizedConnections := by
  obtain ⟨harrivals, hstages⟩ := Checked.check_bind_eq_ok.mp h
  refine ⟨fun model hmodel => ?_, fun hne => ?_⟩
  · rw [hmodel] at harrivals
    exact harrivals
  · rw [if_neg hne] at hstages
    exact ⟨hstages, if_neg hne⟩

theorem spellable_of_parseExpect {spec : Option String} {check : Check}
    (h : parseExpect host spec = .ok (some check)) : check.Spellable := by
  cases spec with
  | none => cases h
  | some spec =>
    obtain ⟨parsed, hparsed, heq⟩ := Checked.map_eq_ok.mp h
    obtain rfl := Option.some.inj heq
    rw [Checked.mapError_eq_ok] at hparsed
    exact Check.spellable_of_parseFlag hparsed

theorem of_buildChaos {mode : TestMode} {given chaos : Option ChaosConfig}
    (h : buildChaos t mode given = .ok chaos) :
    ∀ faults ∈ chaos, faults.validate = .ok () ∧ validateChaosMode faults mode false "" = .ok ()
      ∧ faults.isActive = true := by
  unfold buildChaos at h
  split at h
  · cases h
    exact nofun
  · obtain ⟨hvalid, h⟩ := Checked.check_bind_eq_ok.mp h
    split_ifs at h with hactive
    · obtain ⟨hmode, h⟩ := Checked.check_bind_eq_ok.mp h
      cases Checked.pure_eq_ok.mp h
      intro faults hfaults
      obtain rfl := Option.some.inj hfaults
      exact ⟨hvalid, hmode, hactive⟩
    · cases Checked.pure_eq_ok.mp h
      exact nofun

/-- **A configuration that was built can be divided.** -/
theorem vetted_of_build (hurls : host.urls.Serializes) (hgiven : builder.Given)
    (h : builder.build host t = .ok config) :
    config.Vetted host false := by
  obtain ⟨parts, chaos, hparts, hchaos, rfl⟩ := build_eq_ok_iff.mp h
  have hsettled : ({ builder.calm host parts with chaos } : LoadTestConfig).Settled host :=
    { rule := pointerIsValid_of_validatePointer hparts.pointer
      graphql := validateGraphql_again hparts.graphql
      socketio := (socketIoSettled_of_compile hparts.socketio).1
      headers := by
        obtain ⟨hfixed, -, -⟩ := splitHeaderTemplates_eq_ok hparts.headers
        intro header hheader
        have hheader : header ∈ parts.headers := hheader
        rw [hfixed] at hheader
        exact (hgiven.headers.2 header (List.mem_of_mem_filter hheader)).valid
      templates := by
        obtain ⟨-, htemplates, hchecked⟩ := splitHeaderTemplates_eq_ok hparts.headers
        refine ⟨parts.data, .inr rfl, fun template htemplate => ?_⟩
        have htemplate : template ∈ parts.headerTemplates := htemplate
        rw [htemplates] at htemplate
        refine ⟨givenTemplate_of_mem hgiven.headers.2 htemplate, ?_⟩
        obtain ⟨header, hheader, hparse⟩ := List.mem_filterMap.mp htemplate
        obtain ⟨parsed, hparsed, rfl⟩ := Option.map_eq_some_iff.mp hparse
        exact hchecked header hheader parsed hparsed
      table := wellFormed_of_loadData hgiven.data hparts.data
      expect := by
        intro check hcheck
        have hexpect : parts.expect = some check := hcheck
        have hspell := spellable_of_parseExpect (hexpect ▸ hparts.expect)
        refine ⟨hspell, Bool.not_eq_false _ ▸ fun hmode => ?_⟩
        exact hparts.replies ⟨by rw [hexpect]; rfl, hmode⟩
      liveAuth := nofun
      payload := ⟨[], nofun, hgiven.payload⟩ }
  exact
    { settled := hsettled
      url := parseTargetUrl_sessionUrl hurls hparts.url _
      session := ⟨_, isTarget_of_parse hurls hparts.url, rfl⟩
      profile := profile_of_validateProfile hparts.profile
      duration := fun hstages => if_neg hstages
      replyMatch := hparts.replyMatch
      columns := hparts.payload
      faults := of_buildChaos hchaos }

end LoadTestConfigBuilder

/-! ## The builders there are

Every way of setting a builder up keeps what is known of it. -/

namespace LoadTestConfigBuilder

/-- **The builders there are**: a new one, that of a command line, and those
that a setter makes of another. -/
inductive Made (host : Host) : LoadTestConfigBuilder → Prop
  | new (target : String) : Made host { target }
  | fromCli {cli : Cli} {target : Option String} {builder : LoadTestConfigBuilder} :
    LoadTestConfig.builderFromCli host cli target = .ok builder → Made host builder
  | header {builder : LoadTestConfigBuilder} (name value : String) :
    Made host builder → Made host (builder.header name value)
  | payloadText {builder : LoadTestConfigBuilder} (text : String) :
    Made host builder → Made host { builder with payload := PayloadConfig.fromText text }
  | payloadBinary {builder : LoadTestConfigBuilder} (bytes : Bytes) :
    Made host builder → Made host { builder with payload := .binary bytes }
  | dataFile {builder : LoadTestConfigBuilder} (path : String) :
    Made host builder → Made host { builder with data := some (.file path) }
  /-- The rows an agent received. -/
  | dataSet {builder : LoadTestConfigBuilder} {file : DataSet} :
    Made host builder → file.WellFormed → Made host { builder with data := some (.loaded file) }
  /-- Any setter of another setting. -/
  | other {builder next : LoadTestConfigBuilder} :
    Made host builder → next.headers = builder.headers →
      next.invalidHeader = builder.invalidHeader → next.payload = builder.payload →
      next.data = builder.data → Made host next

theorem mem_appendHeader {headers : List Header} {header other : Header} :
    other ∈ appendHeader headers header ↔ other ∈ headers ∨ other = header := by
  obtain ⟨front, back, rfl, happend, -⟩ :=
    @MultiMap.exists_append_eq String Header _ Header.name headers header
  rw [appendHeader_eq_append, happend]
  simp only [List.mem_append, List.mem_cons]
  rw [or_left_comm, or_comm]

theorem given_header {builder : LoadTestConfigBuilder} (h : builder.Given) (name value : String) :
    (builder.header name value).Given := by
  unfold LoadTestConfigBuilder.header
  split
  · rename_i parsed bytes hname hvalue
    refine { h with headers := ⟨?_, fun header hheader => ?_⟩ }
    · show Grouped Header.name (appendHeader builder.headers _)
      rw [appendHeader_eq_append]
      exact h.headers.1.append _
    · rcases mem_appendHeader.mp hheader with hold | rfl
      · exact h.headers.2 header hold
      · exact Header.given_of_trim hname hvalue
  · exact { h with }
  · exact { h with }

theorem given_of_parseHeaderPair {text : String} {header : Header}
    (h : parseHeaderPair text = .ok header) : header.Given := by
  unfold parseHeaderPair at h
  split at h
  · cases h
  · split at h
    · cases h
    · cases h
    · rename_i name value hname hvalue
      cases h
      exact Header.given_of_trim hname hvalue

theorem parsed_defaultTextPayload : defaultTextPayload.Parsed [] := by
  have hdefault : defaultTextPayload = PayloadConfig.fromTextWithVars
      "\x7b\"source\":\"wsblast\",\"ts\":\"\x7b\x7btimestamp\x7d\x7d\",\"seq\":\x7b\x7bseq\x7d\x7d\x7d"
      [] := by decide +kernel
  rw [hdefault]
  exact .text _

theorem parsed_payloadFromCli {host : Host} {cli : Cli} {payload : PayloadConfig}
    (h : payloadFromCli host cli = .ok payload) : payload.Parsed [] := by
  have hdefault : cli.defaultPayload.Parsed [] := by
    unfold Cli.defaultPayload
    split_ifs
    · exact .binary _
    · exact parsed_defaultTextPayload
  unfold payloadFromCli at h
  split at h
  · obtain ⟨bytes, -, h⟩ := Checked.bind_eq_ok.mp h
    split_ifs at h
    · cases Checked.pure_eq_ok.mp h
      exact .binary bytes
    · split at h
      · cases Checked.pure_eq_ok.mp h
        exact .text _
      · cases h
  · split_ifs at h
    · cases h
      exact .binary _
    · cases h
      exact .text _
  · cases h
    exact hdefault

/-- Every builder there is has what a builder can have. -/
theorem given_of_made {host : Host} {builder : LoadTestConfigBuilder} (h : Made host builder) :
    builder.Given := by
  induction h with
  | new target =>
    exact ⟨⟨MultiMap.grouped_nil, fun _ hheader => absurd hheader List.not_mem_nil⟩,
      parsed_defaultTextPayload, fun _ hfile => absurd hfile.symm (Option.some_ne_none _)⟩
  | fromCli h =>
    unfold LoadTestConfig.builderFromCli at h
    simp only [Checked.bind_eq_ok, Checked.pure_eq_ok] at h
    obtain ⟨rawUrl, -, url, -, _, -, _, -, times, -, replyMatch, -, graphql, -, payload, hpayload,
      _, -, headers, hheaders, slo, -, stages, -, arrivals, -, chaos, -, rfl⟩ := h
    refine ⟨⟨grouped_foldl_appendHeader headers, fun header hheader => ?_⟩,
      parsed_payloadFromCli hpayload, fun file hfile => ?_⟩
    · obtain ⟨text, -, hparsed⟩ :=
        Checked.exists_of_mem_mapM hheaders (mem_foldl_appendHeader.mp hheader)
      exact given_of_parseHeaderPair hparsed
    · obtain ⟨path, -, hpath⟩ := Option.map_eq_some_iff.mp hfile
      cases hpath
  | header name value _ ih => exact given_header ih name value
  | payloadText text _ ih => exact { ih with payload := .text text }
  | payloadBinary bytes _ ih => exact { ih with payload := .binary bytes }
  | dataFile path _ ih =>
    refine { ih with data := fun _ hfile => ?_ }
    cases Option.some.inj hfile
  | dataSet _ htable ih =>
    refine { ih with data := fun given hgiven => ?_ }
    obtain rfl := DataSource.loaded.inj (Option.some.inj hgiven)
    exact htable
  | other _ hheaders _ hpayload hdata ih =>
    exact ⟨hheaders ▸ ih.headers, hpayload ▸ ih.payload, hdata ▸ ih.data⟩

end LoadTestConfigBuilder

/-! ## Runs

A build, and a credential that is put into its headers. -/

/-- The configurations of runs: those that are built, before and after a
credential is resolved. -/
inductive LoadTestConfig.IsRun (host : Host) : LoadTestConfig → Prop
  | built {builder : LoadTestConfigBuilder} {t : UInt64} {config : LoadTestConfig} :
    builder.Made host → builder.build host t = .ok config → IsRun host config
  | authorized {config result : LoadTestConfig} {auth : Option AuthConfig} :
    IsRun host config → config.applyAuth auth = .ok result → IsRun host result

section Credentials

variable {host : Host} {config result : LoadTestConfig} {auth : Option AuthConfig}

/-- A credential leaves what was checked. -/
theorem settled_of_applyAuth (hconfig : config.Settled host)
    (h : config.applyAuth auth = .ok result) :
    result.Settled host ∧ (∀ scripted, config.FaultsFit scripted → result.FaultsFit scripted) := by
  obtain ⟨headers, liveAuth, rfl, hheaders, hlive⟩ :=
    applyAuth_eq_ok h hconfig.headers hconfig.liveAuth
  exact ⟨{ hconfig with headers := hheaders, liveAuth := hlive }, fun _ hfaults => hfaults⟩

theorem vetted_of_applyAuth {scripted : Bool} (hconfig : config.Vetted host scripted)
    (h : config.applyAuth auth = .ok result) : result.Vetted host scripted := by
  have hsettled := settled_of_applyAuth hconfig.settled h
  obtain ⟨headers, liveAuth, rfl, -, -⟩ :=
    applyAuth_eq_ok h hconfig.settled.headers hconfig.settled.liveAuth
  exact { hconfig with settled := hsettled.1 }

/-- **A configuration of a run can be divided.** -/
theorem vetted_of_isRun (hurls : host.urls.Serializes) (h : config.IsRun host) :
    config.Vetted host false := by
  induction h with
  | built hmade hbuild =>
    exact LoadTestConfigBuilder.vetted_of_build hurls
      (LoadTestConfigBuilder.given_of_made hmade) hbuild
  | authorized _ hauth ih => exact vetted_of_applyAuth ih hauth

end Credentials

/-! ## Scenarios -/

/-- The base configurations of scenarios: those of runs, and those that are
built for a scenario. -/
inductive LoadTestConfig.IsBase (host : Host) : LoadTestConfig → Prop
  | run {base : LoadTestConfig} : base.IsRun host → IsBase host base
  | scenario {scenario : ScenarioConfig} {cli : Cli} {t : UInt64} {base : LoadTestConfig} :
    fromScenarioConfig host t scenario cli = .ok base → IsBase host base
  | authorized {base result : LoadTestConfig} {auth : Option AuthConfig} :
    IsBase host base → base.applyAuth auth = .ok result → IsBase host result

section Scenario

variable {host : Host} (hurls : host.urls.Serializes)
include hurls

theorem settled_of_isBase {base : LoadTestConfig} (h : base.IsBase host) :
    base.Settled host ∧ base.FaultsFit false := by
  induction h with
  | run h =>
    have hvetted := vetted_of_isRun hurls h
    exact ⟨hvetted.settled, hvetted.faults⟩
  | authorized _ hauth ih =>
    obtain ⟨hsettled, hfaults⟩ := settled_of_applyAuth ih.1 hauth
    exact ⟨hsettled, hfaults false ih.2⟩
  | scenario h =>
    unfold LoadTestConfig.fromScenarioConfig at h
    simp only [Checked.bind_eq_ok, Checked.pure_eq_ok] at h
    obtain ⟨_, -, file, -, phase, hphase, targets, -, config, hconfig, _, -, phases, -, _, -,
      rfl⟩ := h
    obtain ⟨builder, hbuilder, hbuild⟩ := Checked.bind_eq_ok.mp hconfig
    have hvetted := LoadTestConfigBuilder.vetted_of_build hurls
      (LoadTestConfigBuilder.given_of_made (.fromCli hbuilder)) hbuild
    have hcompiled := CompiledPhase.compiled_of_compile hphase
    refine ⟨{ hvetted.settled with payload := ?_ }, hvetted.faults⟩
    show ∃ vars, _ ∧ PayloadConfig.Parsed vars (phase.payload.getD config.payload)
    cases hpayload : phase.payload with
    | none => exact hvetted.settled.payload
    | some text => exact ⟨phase.vars, hcompiled.vars, hcompiled.payload text hpayload⟩

omit hurls in
/-- The scenario's data file is one that the headers were not checked with,
and need not be. -/
theorem settled_withScenarioData {scenario : ScenarioConfig} {base config : LoadTestConfig}
    (hbase : base.Settled host) (h : withScenarioData host scenario base = .ok config) :
    config.Settled host := by
  unfold withScenarioData at h
  split at h
  · rename_i path hnone _
    obtain ⟨data, hdata, h⟩ := Checked.bind_eq_ok.mp h
    cases Checked.pure_eq_ok.mp h
    obtain ⟨checked, hreads, hchecked⟩ := hbase.templates
    refine { hbase with
      templates := ⟨checked, .inl ?_, hchecked⟩
      table := ?_ }
    · rw [hnone] at hreads
      rcases hreads with hnil | hsame
      · exact hnil
      · exact (Option.map_eq_none_iff.mp hsame.symm)
    · intro file hfile
      obtain rfl := Option.some.inj hfile
      rw [Checked.mapError_eq_ok] at hdata
      exact (DataSet.wellFormed_of_load hdata).1
  · cases h
    exact hbase

omit hurls in
/-- The payload of a phase can be matched, and its columns are there. -/
theorem payload_of_validatePhase {config : LoadTestConfig} {phase : CompiledPhase}
    (h : validatePhase config phase = .ok ()) :
    checkPayloadData (phase.payload.getD config.payload) config.data = .ok ()
      ∧ validateReplyMatch config.replyMatch config.mode [phase.payload.getD config.payload]
        = .ok () := by
  unfold validatePhase at h
  obtain ⟨-, h⟩ := Checked.check_bind_eq_ok.mp h
  obtain ⟨hcolumns, hmatch⟩ := Checked.check_bind_eq_ok.mp h
  constructor
  · unfold checkPayloadData
    cases htemplate : (phase.payload.getD config.payload).template with
    | none => rfl
    | some template =>
      have hmem := Checked.forM_eq_ok.mp hcolumns template
        (List.mem_filterMap.mpr ⟨_, List.mem_cons_self, htemplate⟩)
      rw [Checked.mapError_eq_ok] at hmem
      exact Checked.mapError_eq_ok.mpr hmem
  · unfold validateReplyMatch at hmatch ⊢
    split_ifs at hmatch ⊢ with hfirst
    · rfl
    · obtain ⟨hmode, hmatch⟩ := Checked.check_bind_eq_ok.mp hmatch
      refine Checked.check_bind_eq_ok.mpr ⟨hmode, ?_⟩
      split at hmatch
      · rw [Checked.reject_eq_ok, Bool.not_eq_false, List.all_cons, Bool.and_eq_true] at hmatch
        rw [Checked.reject_eq_ok, Bool.not_eq_false, List.all_cons, List.all_nil, Bool.and_true]
        exact hmatch.1
      · rename_i hother
        cases hrule : config.replyMatch with
        | jsonPointer pointer => exact absurd hrule (hother pointer)
        | first => rfl
        | exact => rfl

omit hurls in
/-- Faults that fit a mode fit it with a script too. -/
theorem FaultsFit.of_unscripted {config : LoadTestConfig} (h : config.FaultsFit false)
    (scripted : Bool) : config.FaultsFit scripted := by
  intro chaos hchaos
  obtain ⟨hvalid, hmode, hactive⟩ := h chaos hchaos
  refine ⟨hvalid, validateChaosMode_eq_ok.mpr fun hacts => ?_, hactive⟩
  have hsends := validateChaosMode_eq_ok.mp hmode hacts
  rw [Bool.false_or] at hsends
  rw [Bool.or_assoc, hsends, Bool.or_true]

omit hurls in
/-- The faults of a phase fit its mode or its script. -/
theorem faultsFit_phaseChaos {base : LoadTestConfig} {phase : CompiledPhase} {context : String}
    (hbase : base.FaultsFit false) (hphase : phase.Compiled)
    (hmode : ∀ chaos, phase.chaos.filter ChaosConfig.isActive = some chaos →
      validateChaosMode chaos base.mode (phase.actions ≠ []) context = .ok ())
    (t : UInt64) (target : String) :
    ((phaseConfig t base phase).setTarget host target).FaultsFit (phase.actions ≠ []) := by
  cases hchaos : phase.chaos with
  | none =>
    have hsame : phaseChaos t base.chaos phase.chaos = base.chaos := by
      rw [hchaos]
      rfl
    intro chaos hmem
    exact FaultsFit.of_unscripted hbase _ chaos (hsame ▸ hmem)
  | some own =>
    intro chaos hmem
    have hmem : phaseChaos t base.chaos phase.chaos = some chaos := hmem
    rw [hchaos] at hmem
    unfold phaseChaos at hmem
    dsimp only at hmem
    split_ifs at hmem with hactive
    obtain rfl := Option.some.inj hmem
    have hfits := hmode own (by rw [hchaos]; exact Option.filter_eq_some_iff.mpr ⟨rfl, hactive⟩)
    -- neither check reads the seed
    exact ⟨hphase.chaos own hchaos, validateChaosMode_eq_ok.mpr (validateChaosMode_eq_ok.mp hfits),
      hactive⟩

/-- **The configuration of every phase of a scenario that was accepted can be
divided.** -/
theorem vetted_of_scenario {scenario : ScenarioConfig} {base : LoadTestConfig}
    {selected targetOverride : Option String} {agents : ℕ} {t : UInt64}
    {prepared : PreparedScenario} (hbase : base.IsBase host)
    (h : Coordinator.scenario host t scenario base selected targetOverride agents = .ok prepared)
    {phase : CompiledPhase} {target : String}
    (hrun : (phase, target) ∈ prepared.phases.zip prepared.targets) (t' : UInt64) :
    phase.Compiled ∧ ((phaseConfig t' prepared.base phase).setTarget host target).Vetted host
      (phase.actions ≠ []) := by
  unfold Coordinator.scenario at h
  simp only [Checked.bind_eq_ok, Checked.pure_eq_ok] at h
  obtain ⟨_, -, _, hmode, config, hdata, slo, -, slos, -, targets, htargets, phases, hphases, _,
    hvalid, _, -, rfl⟩ := h
  obtain ⟨hsettled, hfaults⟩ := settled_of_isBase hurls hbase
  have hsettled' := settled_withScenarioData hsettled hdata
  have hconfig := withScenarioData_eq_ok hdata
  have hmem := List.of_mem_zip hrun
  obtain ⟨file, -, hcompile⟩ : ∃ file, True ∧ CompiledPhase.compile host file = .ok phase := by
    obtain ⟨run, -, hcompiled⟩ := Checked.bind_eq_ok.mp hphases
    obtain ⟨file, -, hfile⟩ := Checked.exists_of_mem_mapM hcompiled hmem.1
    exact ⟨file, trivial, hfile⟩
  have hcompiled := CompiledPhase.compiled_of_compile hcompile
  obtain ⟨raw, hraw⟩ : ∃ raw, parseTargetUrl host raw = .ok target := by
    obtain ⟨run, -, hparsed⟩ := Checked.bind_eq_ok.mp htargets
    obtain ⟨file, -, hfile⟩ := Checked.exists_of_mem_mapM hparsed hmem.2
    split at hfile
    · exact ⟨_, hfile⟩
    · cases hfile
  obtain ⟨hcolumns, hmatch⟩ := payload_of_validatePhase
    (Checked.forM_eq_ok.mp hvalid phase hmem.1)
  -- the phases were compiled twice, for this check and for the run, with the same result
  have hchaos : ∀ chaos, phase.chaos.filter ChaosConfig.isActive = some chaos →
      validateChaosMode chaos config.mode (phase.actions ≠ []) s!"phase '{phase.name}': "
        = .ok () := by
    intro chaos hactive
    unfold ScenarioConfig.validateSloMode at hmode
    simp only [Checked.bind_eq_ok] at hmode
    obtain ⟨_, -, _, -, _, -, _, -, again, hagain, hall⟩ := hmode
    cases Except.ok.inj (hphases.symm.trans hagain)
    obtain ⟨-, hphase⟩ := Checked.check_bind_eq_ok.mp (Checked.forM_eq_ok.mp hall phase hmem.1)
    rw [hactive] at hphase
    rw [hconfig]
    exact hphase
  refine ⟨hcompiled, ?_⟩
  exact
    { settled :=
        { hsettled' with
          payload := by
            show ∃ vars, _ ∧ PayloadConfig.Parsed vars (phase.payload.getD config.payload)
            cases hpayload : phase.payload with
            | none => exact hsettled'.payload
            | some text => exact ⟨phase.vars, hcompiled.vars, hcompiled.payload text hpayload⟩ }
      url := parseTargetUrl_sessionUrl hurls hraw _
      session := ⟨_, isTarget_of_parse hurls hraw, rfl⟩
      profile := hcompiled.profile
      duration := hcompiled.duration
      replyMatch := hmatch
      columns := hcolumns
      faults := faultsFit_phaseChaos (by rw [hconfig]; exact hfaults) hcompiled hchaos t' target }

end Scenario

end WsBlast
