import WsBlast.Builder
import WsBlast.SocketIoPackets
import WsBlast.SocketIoServer
import WsBlast.TemplateRows

/-!
# What the client and the mock write

The client fills in its `--sio-auth` template for every connection and writes
events, the mock answers them. Whatever they write is read back: a packet is
written as the text of one that is legal (`WrittenAs`), except that the mock
sends an event without an id back as it came.

An auth object is data at the front of a packet, where a digit would be
taken for an id. The check of the template with every row of the data file is
why it does not start with one: a connection's values make it start as one of
the checked ones does (`Template.plainStart_render`).

The auth object is the only thing of a packet that a user writes freely, and the
program does not look at it again once the run has begun.
-/

namespace WsBlast

/-! ## Templates

A rendered template is its parts one after the other. -/

/-- A text that starts with neither a digit nor a `/`. -/
def PlainStart (text : String) : Prop :=
  ∀ c ∈ text.toList.head?, c.isDigit = false ∧ c ≠ '/'

/-- A number starts with a digit. -/
theorem not_plainStart_toString (n : ℕ) (rest : String) : ¬PlainStart (toString n ++ rest) := by
  intro h
  have hne : (toString n).toList ≠ [] := Packet.idDigits_ne_nil n
  have hhead := List.head?_eq_some_head hne
  have hdigit : ((toString n).toList.head hne).isDigit = true :=
    @Packet.isDigit_of_mem_idDigits (some n) _ (List.head_mem hne)
  have hplain := h ((toString n).toList.head hne) (by
    rw [String.toList_append, List.head?_append_of_ne_nil _ hne]
    exact hhead)
  exact absurd hplain.1 (by rw [hdigit]; decide)

theorem plainStart_append {first a b : String} (hne : first = "" → PlainStart a → PlainStart b)
    (h : PlainStart (first ++ a)) : PlainStart (first ++ b) := by
  by_cases hfirst : first = ""
  · subst hfirst
    rw [String.empty_append] at h ⊢
    exact hne rfl h
  · have hlist : first.toList ≠ [] := fun hnil => hfirst (String.toList_eq_nil_iff.mp hnil)
    unfold PlainStart at h ⊢
    rw [String.toList_append, List.head?_append_of_ne_nil _ hlist] at h ⊢
    exact h

/-- The values of two frames give a part the same text, or a number each. -/
def Part.Alike (values values' : Values) (part : Part) : Prop :=
  part.render values = part.render values' ∨ ∃ n : ℕ, part.render values = toString n

namespace Template

theorem plainStart_join {values values' : Values} {parts : List Part}
    (halike : ∀ part ∈ parts, part.Alike values values')
    (h : PlainStart (String.join (parts.map (Part.render values)))) :
    PlainStart (String.join (parts.map (Part.render values'))) := by
  -- part by part, up to the first that is not empty
  induction parts with
  | nil => exact h
  | cons part rest ih =>
    obtain ⟨hpart, hrest⟩ := List.forall_mem_cons.mp halike
    rw [List.map_cons, String.join_cons] at h ⊢
    rcases hpart with heq | ⟨n, hn⟩
    · rw [heq] at h
      exact plainStart_append (fun _ => ih hrest) h
    · rw [hn] at h
      exact absurd h (not_plainStart_toString n _)

end Template

/-! ## The auth of a connection

What is asked of the JSON library about first characters, and the argument from
the check to the connection. -/

/-- What a JSON library writes and reads. -/
structure Serde.JsonTexts (serde : Serde) : Prop where
  /-- The text of an array starts with its bracket. -/
  array : ∀ values, (serde.toText (.array values)).toList.head? = some '['
  /-- The text of an object starts with its brace, white space aside. -/
  object : ∀ text fields, serde.fromStr text = some (.object fields) →
    ∃ c, text.toList.head? = some c ∧ (c = '\x7b' ∨ c.isWhitespace = true)

theorem plainStart_of_isJsonObject {serde : Serde} (hserde : serde.JsonTexts) {text : String}
    (h : isJsonObject serde text = true) : PlainStart text := by
  obtain ⟨value, hread, hobject⟩ := (Option.any_eq_true _ _).mp h
  cases value with
  | object fields =>
    obtain ⟨c, hc, hstart⟩ := hserde.object text fields hread
    intro d hd
    obtain rfl := Option.some.inj (hc.symm.trans hd)
    rcases hstart with rfl | hspace
    · decide
    · unfold Char.isWhitespace at hspace
      simp only [Bool.or_eq_true, decide_eq_true_eq] at hspace
      rcases hspace with ((rfl | rfl) | rfl) | rfl <;> decide
  | _ => cases hobject

/-- The data file a connection reads is the one its templates were checked
with; a scenario's data file comes only after the check when there was none. -/
def ChecksData (checked data : Option DataSet) : Prop := data = checked ∨ checked = none

/-- A connection's auth object starts as the ones that were checked. -/
theorem plainStart_auth {host : Host} (hserde : host.serde.JsonTexts) {sio : SocketIoConfig}
    (hvalid : sio.validate host.serde = .ok ()) {source : String}
    (hauth : sio.auth = some (.parse source)) {checked : Option DataSet}
    (hcheck : checkAuth host (.parse source) checked = .ok ()) {config : LoadTestConfig}
    (hdata : ChecksData checked config.data) (htable : ∀ file ∈ config.data, file.WellFormed)
    (workerId nowMs : ℕ) :
    PlainStart ((Template.parse source).render (templateValues config workerId [] 0 nowMs)) := by
  by_cases hdynamic : (Template.parse source).isDynamic = false
  · rw [Template.render_parse_of_static hdynamic]
    refine plainStart_of_isJsonObject hserde ?_
    unfold SocketIoConfig.validate at hvalid
    simp only [Checked.check_bind_eq_ok, Checked.reject_eq_ok] at hvalid
    have hobject : isJsonObject host.serde (Template.parse source).source = true := by
      simpa [hauth, hdynamic] using hvalid.2.2.2
    exact hobject
  · unfold checkAuth at hcheck
    rw [if_neg hdynamic] at hcheck
    obtain ⟨hcolumns, hrows⟩ := Checked.check_bind_eq_ok.mp hcheck
    rw [Checked.mapError_eq_ok] at hcolumns
    have htables : ReadsTable checked config.data := by
      rcases hdata with hdata | hnone
      · exact .inr (congrArg _ hdata)
      · exact .inl hnone
    obtain ⟨row, hrow, halike⟩ := @Template.exists_row_alike host source checked config hcolumns
      htables (fun file hfile => (htable file hfile).rows_ne_nil) workerId [] 0 nowMs
    have hobject := Checked.forM_eq_ok.mp hrows row (List.mem_range.mpr hrow)
    rw [Checked.reject_eq_ok, Bool.not_eq_false] at hobject
    exact Template.plainStart_join (fun part hpart => (halike part hpart).imp_right And.left)
      (plainStart_of_isJsonObject hserde hobject)

/-! ## What the client writes

Three kinds of packets, each with an array or an object for its data. -/

/-- A text is that of a legal packet, and is read back as it. -/
structure WrittenAs (packet : Packet) (text : String) : Prop where
  legal : packet.Legal
  text_eq : text = packet.encode
  read : Packet.parse text = some packet

theorem writtenAs_encode {packet : Packet} (h : packet.Legal) : WrittenAs packet packet.encode :=
  ⟨h, rfl, Packet.parse_encode h⟩

namespace Packet

/-- A packet whose data is an array. -/
theorem legal_of_array {kind : Char} {attachments : ℕ} {ns data : String} {id : Option ℕ}
    (hkind : '0' ≤ kind ∧ kind ≤ '6')
    (hattachments : if isBinary kind then attachments ≤ maxAttachments else attachments = 0)
    (hns : Named ns) (hid : ∀ n ∈ id, n < 2 ^ 64) (hdata : data.toList.head? = some '[') :
    Legal ⟨kind, attachments, ns, id, data⟩ where
  kind := hkind
  attachments := hattachments
  ns := hns
  id := hid
  digit c hc := by
    obtain rfl := Option.some.inj (hdata.symm.trans hc)
    decide
  slash _ _ c hc := by
    obtain rfl := Option.some.inj (hdata.symm.trans hc)
    decide

/-- A connect packet. -/
theorem legal_connect {ns data : String} (hns : Named ns) (hdata : PlainStart data) :
    Legal ⟨'0', 0, ns, none, data⟩ where
  kind := (by decide : '0' ≤ '0' ∧ '0' ≤ '6')
  attachments := rfl
  ns := hns
  id _ hn := nomatch hn
  digit c hc := (hdata c hc).1
  slash _ _ c hc := (hdata c hc).2

end Packet

theorem named_of_validate {serde : Serde} {sio : SocketIoConfig} (h : sio.validate serde = .ok ()) :
    Packet.Named sio.namespace := by
  unfold SocketIoConfig.validate at h
  simp only [Checked.check_bind_eq_ok, Checked.reject_eq_ok, not_or, not_not] at h
  obtain ⟨⟨hslash, hcomma⟩, -⟩ := h
  obtain ⟨rest, hrest⟩ := List.head?_eq_some_iff.mp hslash
  exact ⟨⟨rest, hrest⟩, hcomma⟩

section Client

variable (serde : Serde) (sio : SocketIoConfig)

/-- The event packet of a payload. -/
def eventOf (id : Option ℕ) (payload : String) : Packet :=
  ⟨'2', 0, sio.namespace, id, "[" ++ serde.toText (.string sio.event) ++ ","
    ++ (if serde.isJson payload then payload else serde.toText (.string payload)) ++ "]"⟩

/-- The packet of a binary event. -/
def binaryEventOf (id : Option ℕ) : Packet :=
  ⟨'5', 1, sio.namespace, id,
    "[" ++ serde.toText (.string sio.event) ++ "," ++ placeholder ++ "]"⟩

/-- The packet that connects; in version 3 the auth is in the URL. -/
def connectOf (auth : Option String) : Packet :=
  ⟨'0', 0, sio.namespace, none, if sio.engine = .v3 then "" else auth.getD ""⟩

/-- What the client writes is read back as it was meant. An event without an id
is what another client sends. -/
structure ClientReadBack : Prop where
  event : ∀ id < 2 ^ 64, ∀ payload,
    WrittenAs (eventOf serde sio (some id) payload) (eventPacket serde sio id payload)
  binaryEvent : ∀ id < 2 ^ 64,
    WrittenAs (binaryEventOf serde sio (some id)) (binaryEventPacket serde sio id)
  withoutId : ∀ payload,
    WrittenAs (eventOf serde sio none payload) (eventOf serde sio none payload).encode
      ∧ WrittenAs (binaryEventOf serde sio none) (binaryEventOf serde sio none).encode
  connect : ∀ auth : Option String, (∀ text ∈ auth, PlainStart text) →
    WrittenAs (connectOf sio auth) (connectPacket sio auth)

variable {serde sio}

theorem legal_eventOf (hns : Packet.Named sio.namespace) {id : Option ℕ}
    (hid : ∀ n ∈ id, n < 2 ^ 64) (payload : String) : (eventOf serde sio id payload).Legal :=
  Packet.legal_of_array (by decide) rfl hns hid (by simp)

theorem legal_binaryEventOf (hns : Packet.Named sio.namespace) {id : Option ℕ}
    (hid : ∀ n ∈ id, n < 2 ^ 64) : (binaryEventOf serde sio id).Legal :=
  Packet.legal_of_array (by decide) (show 1 ≤ maxAttachments by decide) hns hid (by simp)

theorem clientReadBack (hns : Packet.Named sio.namespace) : ClientReadBack serde sio where
  event id hid payload :=
    writtenAs_encode (legal_eventOf hns (fun _ hn => Option.some.inj hn ▸ hid) payload)
  binaryEvent id hid :=
    writtenAs_encode (legal_binaryEventOf hns fun _ hn => Option.some.inj hn ▸ hid)
  withoutId payload :=
    ⟨writtenAs_encode (legal_eventOf hns (by simp) payload),
      writtenAs_encode (legal_binaryEventOf hns (by simp))⟩
  connect auth hauth := by
    have hlegal : (connectOf sio auth).Legal := by
      refine Packet.legal_connect hns ?_
      split
      · exact fun c hc => nomatch hc
      · cases auth with
        | none => exact fun c hc => nomatch hc
        | some text => exact hauth text rfl
    have htext : connectPacket sio auth = (connectOf sio auth).encode := by
      unfold connectPacket connectOf
      cases sio.engine <;> rfl
    exact htext ▸ writtenAs_encode hlegal

end Client

/-! ## What the mock writes

The mock means a packet by each of its texts, and the packet is legal because
the one it answers was read: a namespace and an id that were read can be
written. -/

/-- The attachments a packet announces are in range. -/
theorem Packet.attachments_le_of_parse {text : String} {packet : Packet}
    (h : Packet.parse text = some packet) : packet.attachments ≤ maxAttachments := by
  unfold Packet.parse at h
  split at h
  · split at h
    · split at h
      · obtain ⟨⟨attachments, rest⟩, hcount, rfl⟩ := Option.map_eq_some_iff.mp h
        unfold Packet.parseAttachments at hcount
        dsimp only at hcount
        split at hcount
        · split at hcount
          · split at hcount
            · rename_i hle
              obtain ⟨rfl, -⟩ := Prod.mk.inj (Option.some.inj hcount)
              exact hle
            · cases hcount
          · cases hcount
        · cases hcount
      · rw [← Option.some.inj h]
        exact Nat.zero_le _
    · cases h
  · cases h

/-- A namespace without its query is one. -/
theorem Packet.Named.takeWhile {ns : String} (h : Packet.Named ns) :
    Packet.Named (String.ofList (ns.toList.takeWhile (· != '?'))) := by
  obtain ⟨⟨rest, hrest⟩, hcomma⟩ := h
  unfold Packet.Named
  rw [String.toList_ofList]
  refine ⟨⟨rest.takeWhile (· != '?'), ?_⟩, fun hmem => hcomma ((List.takeWhile_sublist _).mem hmem)⟩
  rw [hrest]
  rfl

section Mock

variable (serde : Serde)

/-- What the mock means by its answer to a packet. -/
inductive MockMeans (sid : String) (packet : Packet) : Packet → Prop
  | connect (hkind : packet.kind = '0') :
      MockMeans sid packet
        ⟨'0', 0, String.ofList (packet.namespace.toList.takeWhile (· != '?')), none,
          "\x7b\"sid\":\"" ++ sid ++ "\"\x7d"⟩
  | ack {id : ℕ} (hkind : packet.kind = '2') (hid : packet.id = some id) :
      MockMeans sid packet
        ⟨'3', 0, packet.namespace, some id, eventArguments serde packet.data⟩
  | binaryAck {id : ℕ} (hkind : packet.kind = '5') (hid : packet.id = some id) :
      MockMeans sid packet
        ⟨'6', packet.attachments, packet.namespace, some id, eventArguments serde packet.data⟩

/-- A text of the mock's answer to what it `received`: the pong, a packet it
builds, or what it received, without an ack id. -/
inductive MockWrites (sid received : String) : String → Prop
  | pong : MockWrites sid received "3"
  | packet {packet meant : Packet} {text : String}
      (hread : Packet.parse received = some packet) (hmeans : MockMeans serde sid packet meant)
      (hwritten : WrittenAs meant text) : MockWrites sid received text
  | echo {packet : Packet} (hread : Packet.parse received = some packet)
      (hid : packet.id = none) (hkind : packet.kind = '2' ∨ packet.kind = '5') :
      MockWrites sid received received

variable {serde}

theorem head_eventArguments (hserde : serde.JsonTexts) (data : String) :
    (eventArguments serde data).toList.head? = some '[' := by
  unfold eventArguments
  split
  · exact hserde.array _
  · simp

theorem legal_mockMeans (hserde : serde.JsonTexts) {sid received : String} {packet meant : Packet}
    (hread : Packet.parse received = some packet) (h : MockMeans serde sid packet meant) :
    meant.Legal := by
  have hns := Packet.named_of_parse hread
  cases h with
  | connect hkind =>
    refine Packet.legal_connect hns.takeWhile fun c hc => ?_
    rw [String.append_assoc, String.toList_append] at hc
    obtain rfl := Option.some.inj hc
    decide
  | ack hkind hid =>
    exact Packet.legal_of_array (by decide) rfl hns
      (fun _ hn => Packet.id_lt_of_parse hread (hid.trans hn)) (head_eventArguments hserde _)
  | binaryAck hkind hid =>
    exact Packet.legal_of_array (by decide) (Packet.attachments_le_of_parse hread) hns
      (fun _ hn => Packet.id_lt_of_parse hread (hid.trans hn)) (head_eventArguments hserde _)

theorem mockWrites_eventReply (hserde : serde.JsonTexts) {sid received : String} {packet : Packet}
    (hread : Packet.parse received = some packet) (hkind : packet.kind = '2' ∨ packet.kind = '5')
    {kind : Char} {attachments : ℕ}
    (hmeans : ∀ id, packet.id = some id → MockMeans serde sid packet
      ⟨kind, attachments, packet.namespace, some id, eventArguments serde packet.data⟩) :
    MockWrites serde sid received (eventReply serde packet received kind attachments) := by
  unfold eventReply
  cases hid : packet.id with
  | none => exact .echo hread hid hkind
  | some id =>
    have hlegal := legal_mockMeans hserde hread (hmeans id hid)
    exact .packet hread (hmeans id hid) (writtenAs_encode hlegal)

namespace MockSession

/-- The event that still misses attachments is one of the `messages`. -/
def Awaiting (messages : List Message) (session : MockSession) : Prop :=
  ∀ event ∈ session.pending, .text event.header ∈ messages ∧
    ∃ packet, Packet.parse event.header = some packet ∧ packet.kind = '5'

/-- Every text of an answer is one of the mock's. -/
def Writes (serde : Serde) (sid : String) (messages : List Message)
    (answer : Option MockAnswer) : Prop :=
  ∀ frames ∈ answer, ∀ text, .text text ∈ frames.frames →
    ∃ received, .text received ∈ messages ∧ MockWrites serde sid received text

theorem writes_one {sid received text : String} {messages : List Message} {event : Bool}
    (hreceived : .text received ∈ messages) (h : MockWrites serde sid received text) :
    Writes serde sid messages (some ⟨[.text text], event⟩) := by
  intro answer hanswer written hwritten
  obtain rfl := Option.some.inj hanswer
  obtain rfl := Message.text.inj (List.mem_singleton.mp hwritten)
  exact ⟨received, hreceived, h⟩

theorem receiveBinary_writes (hserde : serde.JsonTexts) {session : MockSession}
    {messages : List Message} (h : session.Awaiting messages) (bytes : Bytes) (sid : String) :
    Writes serde sid messages (session.receiveBinary serde bytes).1 ∧
      (session.receiveBinary serde bytes).2.Awaiting messages := by
  unfold receiveBinary
  split
  · rename_i event unwrapped hevent hunwrap
    obtain ⟨hmem, packet, hread, hkind⟩ := h event hevent
    dsimp only
    split_ifs
    · refine ⟨fun _ hnone => (nomatch hnone), fun event' hevent' => ?_⟩
      obtain rfl := Option.some.inj hevent'
      exact ⟨hmem, packet, hread, hkind⟩
    · refine ⟨fun answer hanswer text htext => ?_, fun _ hnone => (nomatch hnone)⟩
      rw [hread, Option.map_some] at hanswer
      obtain rfl := Option.some.inj hanswer
      rcases List.mem_cons.mp htext with heq | hframe
      · obtain rfl := Message.text.inj heq
        exact ⟨event.header, hmem, mockWrites_eventReply hserde hread (.inr hkind)
          fun _ hid => .binaryAck hkind hid⟩
      · obtain ⟨_, -, hbinary⟩ := List.mem_map.mp hframe
        cases hbinary
  · exact ⟨fun _ hnone => (nomatch hnone), fun _ hnone => (nomatch hnone)⟩

theorem receiveText_writes (hserde : serde.JsonTexts) (session : MockSession)
    {messages : List Message} {text : String} (htext : .text text ∈ messages) (sid : String) :
    Writes serde sid messages (session.receiveText serde text sid).1 ∧
      (session.receiveText serde text sid).2.Awaiting messages := by
  have hcleared : Awaiting messages { session with pending := none } := fun _ hnone => nomatch hnone
  unfold receiveText
  dsimp only
  split_ifs
  · exact ⟨writes_one htext .pong, hcleared⟩
  · cases hread : Packet.parse text with
    | none => exact ⟨fun _ hnone => (nomatch hnone), hcleared⟩
    | some packet =>
      dsimp only
      unfold receivePacket
      split_ifs with hconnect hattached hevent hbinary
      · have hmeans := @MockMeans.connect serde sid packet hconnect
        exact ⟨writes_one htext (.packet hread hmeans
          (writtenAs_encode (legal_mockMeans hserde hread hmeans))), hcleared⟩
      · refine ⟨fun _ hnone => (nomatch hnone), fun event hpending => ?_⟩
        obtain rfl := Option.some.inj hpending
        exact ⟨htext, packet, hread, hattached.1⟩
      · exact ⟨writes_one htext (mockWrites_eventReply hserde hread (.inl hevent)
          fun _ hid => .ack hevent hid), hcleared⟩
      · have hzero : packet.attachments = 0 :=
          Nat.eq_zero_of_not_pos fun hpos => hattached ⟨hbinary, hpos⟩
        exact ⟨writes_one htext (mockWrites_eventReply hserde hread (.inr hbinary)
          fun _ hid => hzero ▸ .binaryAck hbinary hid), hcleared⟩
      · exact ⟨fun _ hnone => (nomatch hnone), hcleared⟩

theorem Awaiting.mono {session : MockSession} {messages more : List Message}
    (h : session.Awaiting messages) (hsub : messages ⊆ more) : session.Awaiting more :=
  fun event hevent => ⟨hsub (h event hevent).1, (h event hevent).2⟩

/-- **One frame received.** -/
theorem receive_writes (hserde : serde.JsonTexts) {session : MockSession}
    {messages : List Message} (h : session.Awaiting messages) (message : Message) (sid : String) :
    Writes serde sid (messages ++ [message]) (session.receive serde message sid).1 ∧
      (session.receive serde message sid).2.Awaiting (messages ++ [message]) := by
  have hmore := h.mono (List.subset_append_left messages [message])
  unfold receive
  split
  · exact receiveText_writes hserde session (by simp) sid
  · exact receiveBinary_writes hserde hmore _ sid
  · exact ⟨fun _ hnone => (nomatch hnone), hmore⟩

/-- The session after some frames. -/
def after (serde : Serde) (sid : String) (engine : EngineIo) (messages : List Message) :
    MockSession :=
  messages.foldl (fun session message => (session.receive serde message sid).2) { engine }

theorem awaiting_after (hserde : serde.JsonTexts) (sid : String) (engine : EngineIo)
    (messages : List Message) : (after serde sid engine messages).Awaiting messages := by
  induction messages using List.reverseRecOn with
  | nil => exact fun _ hnone => nomatch hnone
  | append_singleton messages message ih =>
    unfold after at ih ⊢
    rw [List.foldl_append]
    exact (receive_writes hserde ih message sid).2

end MockSession

end Mock

/-- The auth template was checked before the run, with the data file of its
connections. -/
structure AuthChecked (host : Host) (sio : SocketIoConfig) (config : LoadTestConfig) : Prop where
  checked : ∀ auth ∈ sio.auth, ∃ source checked, auth = .parse source ∧
    checkAuth host auth checked = .ok () ∧ ChecksData checked config.data
  table : ∀ file ∈ config.data, file.WellFormed

/-- **Socket.IO packets come back from their text.** Every legal packet does;
with settings that are valid, what the client writes is the text of a legal
packet, the auth its connections fill in included; and so is what the mock
answers to any frames, where it does not send an event back as it came. -/
theorem packets_round_trip {host : Host} (hserde : host.serde.JsonTexts) :
    (∀ packet : Packet, packet.Legal → Packet.parse packet.encode = some packet) ∧
      (∀ sio : SocketIoConfig, sio.validate host.serde = .ok () →
        ClientReadBack host.serde sio ∧
        ∀ config, AuthChecked host sio config → ∀ workerId nowMs,
          WrittenAs
            (connectOf sio (sio.auth.map (·.render (templateValues config workerId [] 0 nowMs))))
            (connectPacket sio
              (sio.auth.map (·.render (templateValues config workerId [] 0 nowMs))))) ∧
      ∀ sid engine messages message,
        MockSession.Writes host.serde sid (messages ++ [message])
          ((MockSession.after host.serde sid engine messages).receive host.serde message
            sid).1 := by
  refine ⟨fun packet => Packet.parse_encode, fun sio hvalid => ?_,
    fun sid engine messages message => (MockSession.receive_writes hserde
      (MockSession.awaiting_after hserde sid engine messages) message sid).1⟩
  have hclient : ClientReadBack host.serde sio := clientReadBack (named_of_validate hvalid)
  refine ⟨hclient, fun config hchecked workerId nowMs => hclient.connect _ fun text htext => ?_⟩
  obtain ⟨auth, hauth, rfl⟩ := Option.map_eq_some_iff.mp htext
  obtain ⟨source, checked, rfl, hcheck, hdata⟩ := hchecked.checked auth hauth
  exact plainStart_auth hserde hvalid hauth hcheck hdata hchecked.table workerId nowMs

/-- The auth object of the chat. -/
def chatToken : String := "\x7b\"token\":\"t\"\x7d"

/-- The JSON texts of the chat. -/
def chatSerde : Serde where
  fromStr text :=
    if text = chatToken then some (.object [("token", .string "t")])
    else if text = "[\"chat\",\"hello\"]" then some (.array [.string "chat", .string "hello"])
    else none
  toText
    | .string text => "\"" ++ text ++ "\""
    | .array [.string text] => "[\"" ++ text ++ "\"]"
    | .array _ => "[]"
    | _ => "null"

theorem chatSerde_jsonTexts : chatSerde.JsonTexts where
  array values := by
    unfold chatSerde
    dsimp only
    split <;> simp_all
  object text fields h := by
    have htoken : text = chatToken := by
      by_contra hne
      unfold chatSerde at h
      dsimp only at h
      rw [if_neg hne] at h
      split at h <;> simp at h
    rw [htoken]
    exact ⟨'\x7b', by decide, .inl rfl⟩

/-- A session of `/chat` with a fixed auth object. -/
def chatSio : SocketIoConfig := ⟨"/chat", "chat", some (.parse chatToken), .v4⟩

/-- Its connect packet, its first event and the ack are read back. -/
theorem packets_round_trip_chat :
    WrittenAs ⟨'0', 0, "/chat", none, chatToken⟩
        "40/chat,\x7b\"token\":\"t\"\x7d" ∧
      WrittenAs ⟨'2', 0, "/chat", some 0, "[\"chat\",\"hello\"]"⟩
        "42/chat,0[\"chat\",\"hello\"]" ∧
      MockSession.Writes chatSerde "abc" [.text "42/chat,0[\"chat\",\"hello\"]"]
        (some ⟨[.text "43/chat,0[\"hello\"]"], true⟩) := by
  obtain ⟨-, hclient, hmock⟩ :=
    @packets_round_trip { plainHost with serde := chatSerde } chatSerde_jsonTexts
  obtain ⟨hevents, hconnect⟩ := hclient chatSio (by decide +kernel)
  refine ⟨?_, ?_, ?_⟩
  · have hauth := hconnect (.defaults "ws://localhost:9000/")
      { checked := fun auth h => by
          obtain rfl := Option.some.inj h
          exact ⟨chatToken, none, rfl, by decide +kernel, .inl rfl⟩
        table := fun _ h => nomatch h } 0 0
    have hrender : chatSio.auth.map
        (·.render (templateValues (.defaults "ws://localhost:9000/") 0 [] 0 0))
          = some chatToken := by
      decide +kernel
    rw [hrender] at hauth
    have htext : connectPacket chatSio (some chatToken)
        = "40/chat,\x7b\"token\":\"t\"\x7d" := by decide +kernel
    exact htext ▸ hauth
  · have htext : eventPacket chatSerde chatSio 0 "hello" = "42/chat,0[\"chat\",\"hello\"]" := by
      decide +kernel
    exact htext ▸ hevents.event 0 (by decide) "hello"
  · have hanswer : ((MockSession.after chatSerde "abc" .v4 []).receive chatSerde
        (.text "42/chat,0[\"chat\",\"hello\"]") "abc").1
          = some ⟨[.text "43/chat,0[\"hello\"]"], true⟩ := by decide +kernel
    exact hanswer ▸ hmock "abc" .v4 [] (.text "42/chat,0[\"chat\",\"hello\"]")

end WsBlast
