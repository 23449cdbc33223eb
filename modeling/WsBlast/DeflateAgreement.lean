import WsBlast.DeflateStream

/-!
# Both ends read the same agreement

The server answers an offer in its response. Its own layer reads the answer
from the bytes it sends, the client's layer from the bytes that arrive. Both
find the end of the same head, decode the same text and read it with
`negotiated`, so they settle on the same parameters whatever else the response
carries and in whatever order.

There are two texts between the server's decision and the client's. The answer
is put into a header, the headers into a head, the head into bytes; the client's
layer finds where the bytes of the head end, decodes them, cuts the text into
lines and looks for the header again.
-/

namespace WsBlast

/-! ## The server's part

What the handshake of the mock does with an offer. -/

/-- A header takes the place of all headers of its name. -/
def replaceHeader (headers : List HttpHeader) (h : HttpHeader) : List HttpHeader :=
  headers.filter (·.name.toLower ≠ h.name) ++ [h]

/-- Puts the answer to a request's `Sec-WebSocket-Extensions` values into a
response, if one of them can be accepted. -/
def answerCompression (offers : List String) (response : List HttpHeader) : List HttpHeader :=
  match offers.findSome? acceptOffer with
  | some answer => replaceHeader response ⟨"sec-websocket-extensions", answer⟩
  | none => response

/-! ## The bytes of a head

ASCII texts are their own bytes, so a blank line in the text is one in the bytes
and the other way round. -/

/-- The bytes of a text, as they are sent. -/
def textBytes (text : String) : Bytes := text.toUTF8.data.toList

theorem utf8EncodeChar_ascii {c : Char} (h : c.toNat < 128) :
    String.utf8EncodeChar c = [c.val.toUInt8] := by
  refine String.utf8EncodeChar_eq_singleton ?_
  rw [Char.utf8Size_eq_one_iff, UInt32.le_iff_toNat_le]
  exact Nat.le_of_lt_succ h

/-- An ASCII text is one byte a character. -/
theorem textBytes_ofList {chars : List Char} (h : ∀ c ∈ chars, c.toNat < 128) :
    textBytes (String.ofList chars) = chars.map fun c => c.val.toUInt8 := by
  unfold textBytes
  show (String.ofList chars).toByteArray.data.toList = _
  rw [String.toByteArray_ofList, List.utf8Encode, List.data_toByteArray]
  show chars.flatMap String.utf8EncodeChar = _
  rw [List.map_eq_flatMap]
  exact List.flatMap_congr fun c hc => utf8EncodeChar_ascii (h c hc)

/-- The byte of an ASCII character. -/
theorem toNat_byte {c : Char} (h : c.toNat < 128) : c.val.toUInt8.toNat = c.toNat := by
  have hmod : c.val.toUInt8.toNat = c.toNat % 256 := UInt32.toNat_toUInt8 c.val
  omega

/-- **An ASCII text is decoded as it was.** -/
theorem fromUtf8Lossy_textBytes {chars : List Char} (h : ∀ c ∈ chars, c.toNat < 128) :
    fromUtf8Lossy (textBytes (String.ofList chars)) = String.ofList chars := by
  rw [textBytes_ofList h]
  unfold fromUtf8Lossy
  rw [utf8Chars_ascii]
  · rw [List.map_map]
    refine congrArg String.ofList ?_
    conv_rhs => rw [← List.map_id chars]
    refine List.map_congr_left fun c hc => ?_
    show Char.ofNat c.val.toUInt8.toNat = c
    rw [toNat_byte (h c hc), Char.ofNat_toNat]
  · intro b hb
    obtain ⟨c, hc, rfl⟩ := List.mem_map.mp hb
    rw [UInt8.lt_iff_toNat_lt, toNat_byte (h c hc)]
    exact h c hc

/-- The end of a head is not in a line. -/
theorem headEnd_line {line : Bytes} (h : 13 ∉ line) (rest : Bytes) :
    headEnd (line ++ rest) = (headEnd rest).map (· + line.length) := by
  induction line with
  | nil => exact Option.map_id'.symm
  | cons b line ih =>
    have hb : ¬blankLine <+: b :: (line ++ rest) := fun hpre =>
      List.ne_of_not_mem_cons h (List.cons_prefix_cons.mp hpre).1
    rw [List.cons_append, headEnd, if_neg hb, ih (List.not_mem_of_not_mem_cons h), Option.map_map]
    rfl

/-- It is not at a line break with a line behind it. -/
theorem headEnd_break {line : Bytes} (hline : line ≠ []) (h : 13 ∉ line) (rest : Bytes) :
    headEnd (13 :: 10 :: (line ++ rest)) = (headEnd (line ++ rest)).map (· + 2) := by
  obtain ⟨b, line, rfl⟩ := List.exists_cons_of_ne_nil hline
  have hb : 13 ≠ b := List.ne_of_not_mem_cons h
  have hcr : ¬blankLine <+: 13 :: 10 :: (b :: line ++ rest) := by
    simp [blankLine, List.cons_prefix_cons, hb]
  have hlf : ¬blankLine <+: 10 :: (b :: line ++ rest) := by
    simp [blankLine, List.cons_prefix_cons]
  rw [headEnd, if_neg hcr, headEnd, if_neg hlf, Option.map_map]
  rfl

/-- **A head ends behind its lines**, whatever follows. -/
theorem headEnd_lines {lines : List Bytes} (hlines : lines ≠ [])
    (h : ∀ line ∈ lines, line ≠ [] ∧ 13 ∉ line) (more : Bytes) :
    headEnd (lines.flatMap (· ++ [13, 10]) ++ (13 :: 10 :: more))
      = some ((lines.flatMap (· ++ [13, 10])).length + 2) := by
  induction lines with
  | nil => exact absurd rfl hlines
  | cons line lines ih =>
    obtain ⟨-, hline⟩ := h line List.mem_cons_self
    have hrest := fun x hx => h x (List.mem_cons_of_mem _ hx)
    rw [List.flatMap_cons, List.append_assoc, List.append_assoc, headEnd_line hline]
    cases lines with
    | nil =>
      have hblank : headEnd ([13, 10] ++ (13 :: 10 :: more)) = some 4 :=
        if_pos (List.prefix_append blankLine more)
      rw [List.flatMap_nil, List.nil_append, hblank]
      simp only [Option.map_some, List.append_nil, List.length_append, List.length_cons,
        List.length_nil]
      congr 1
      omega
    | cons next lines =>
      obtain ⟨hnext, hcr⟩ := hrest next List.mem_cons_self
      have ih := ih (List.cons_ne_nil _ _) hrest
      rw [List.flatMap_cons, List.append_assoc, List.append_assoc] at ih
      rw [List.flatMap_cons, List.append_assoc, List.append_assoc]
      show (headEnd (13 :: 10 :: (next ++ _))).map _ = _
      rw [headEnd_break hnext hcr, ih]
      simp only [Option.map_some, List.length_append, List.length_cons, List.length_nil]
      congr 1
      omega

/-! ## The response

The bytes of a response, as the HTTP library writes a head with these headers.
-/

section Response

variable {headers : List HttpHeader}

theorem ascii_switchingProtocols : ∀ c ∈ switchingProtocols.toList, c.toNat < 128 := by
  simp [switchingProtocols]

theorem ascii_line {h : HttpHeader} (hplain : h.Plain) : ∀ c ∈ h.line, c.toNat < 128 := by
  intro c hc
  simp only [HttpHeader.line, List.mem_append, List.mem_cons] at hc
  rcases hc with hname | rfl | rfl | hvalue
  · exact hplain.ascii c (List.mem_append_left _ hname)
  · decide
  · decide
  · exact hplain.ascii c (List.mem_append_right _ hvalue)

/-- The characters of a response. -/
def responseChars (headers : List HttpHeader) : List Char :=
  (switchingProtocols.toList :: headers.map HttpHeader.line).flatMap (· ++ ['\r', '\n'])
    ++ ['\r', '\n']

theorem responseHead_eq (headers : List HttpHeader) :
    responseHead headers = String.ofList (responseChars headers) := by
  unfold responseHead responseChars
  rw [List.flatMap_cons, List.flatMap_map, List.append_assoc, List.append_assoc]
  rfl

theorem ascii_responseChars (h : ∀ x ∈ headers, x.Plain) :
    ∀ c ∈ responseChars headers, c.toNat < 128 := by
  have hbreak : ∀ c ∈ ['\r', '\n'], c.toNat < 128 := by simp
  intro c hc
  unfold responseChars at hc
  rcases List.mem_append.mp hc with hc | hc
  · obtain ⟨line, hline, hc⟩ := List.mem_flatMap.mp hc
    rcases List.mem_append.mp hc with hc | hc
    · rcases List.mem_cons.mp hline with rfl | hline
      · exact ascii_switchingProtocols c hc
      · obtain ⟨x, hx, rfl⟩ := List.mem_map.mp hline
        exact ascii_line (h x hx) c hc
    · exact hbreak c hc
  · exact hbreak c hc

/-- The bytes of a response. -/
def responseBytes (headers : List HttpHeader) : Bytes := textBytes (responseHead headers)

/-- **The head of a response is all of it**, whatever follows. -/
theorem headEnd_responseBytes (h : ∀ x ∈ headers, x.Plain) (more : Bytes) :
    headEnd (responseBytes headers ++ more) = some (responseBytes headers).length := by
  set lines := switchingProtocols.toList :: headers.map HttpHeader.line
  let byte := fun c : Char => c.val.toUInt8
  -- the head as lines of bytes, each with its line break
  have hbytes : responseBytes headers
      = (lines.map (List.map byte)).flatMap (· ++ [13, 10]) ++ [13, 10] := by
    unfold responseBytes
    rw [responseHead_eq, textBytes_ofList (ascii_responseChars h)]
    unfold responseChars
    rw [List.map_append, List.map_flatMap, List.flatMap_map]
    simp only [List.map_append]
    rfl
  have hlines : ∀ line ∈ lines.map (List.map byte), line ≠ [] ∧ 13 ∉ line := by
    have hplain : ∀ line ∈ lines, line ≠ [] ∧ '\r' ∉ line ∧ ∀ c ∈ line, c.toNat < 128 := by
      intro line hline
      rcases List.mem_cons.mp hline with rfl | hline
      · exact ⟨by decide, by decide, ascii_switchingProtocols⟩
      · obtain ⟨x, hx, rfl⟩ := List.mem_map.mp hline
        exact ⟨by simp [HttpHeader.line], not_mem_line (h x hx), ascii_line (h x hx)⟩
    intro bytes hmem
    obtain ⟨line, hline, rfl⟩ := List.mem_map.mp hmem
    obtain ⟨hne, hcr, hascii⟩ := hplain line hline
    refine ⟨fun hnil => hne (List.map_eq_nil_iff.mp hnil), fun hmem => ?_⟩
    obtain ⟨c, hc, hbyte⟩ := List.mem_map.mp hmem
    have hnat : c.toNat = 13 := by
      rw [← toNat_byte (hascii c hc)]
      show (byte c).toNat = 13
      rw [hbyte]
      rfl
    have hchar : c = '\r' := Char.toNat_inj.mp hnat
    exact hcr (hchar ▸ hc)
  rw [hbytes, List.append_assoc]
  show headEnd (_ ++ (13 :: 10 :: more)) = _
  have hne : lines.map (List.map byte) ≠ [] := List.cons_ne_nil _ _
  rw [headEnd_lines hne hlines, List.length_append]
  rfl

/-- What a response decodes to. -/
theorem fromUtf8Lossy_responseBytes (h : ∀ x ∈ headers, x.Plain) :
    fromUtf8Lossy (responseBytes headers) = responseHead headers := by
  unfold responseBytes
  rw [responseHead_eq, fromUtf8Lossy_textBytes (ascii_responseChars h)]

/-- The values of the header that carries the answer. -/
def extensionValues (headers : List HttpHeader) : List String :=
  headers.filterMap fun x =>
    if (trim x.name).toLower = "sec-websocket-extensions" then some (trim x.value) else none

/-- The end that reads the response settles on what it says. -/
theorem agreement_endHead {D I : Type} {s : DeflateStream D I} {inbound : Bool}
    (hresponse : carriesResponse s.role inbound = true) (h : ∀ x ∈ headers, x.Plain) {more : Bytes}
    (hbuf : (if inbound then s.rawIn else s.rawOut) = responseBytes headers ++ more) :
    (s.endHead inbound).1.agreement
      = some ((extensionValues headers).findSome? Params.parse) := by
  have hread : ∀ head, (s.readHead inbound head).agreement = some (negotiated head) := by
    intro head
    unfold DeflateStream.readHead
    rw [if_pos hresponse]
  unfold DeflateStream.endHead
  rw [hbuf]
  dsimp only
  rw [headEnd_responseBytes h]
  dsimp only
  rw [List.take_left, fromUtf8Lossy_responseBytes h, extensionValues, ← negotiated_responseHead h,
    ← hread]
  split <;> rfl

end Response

/-- An answer asks for what the offer it accepts asks for, and nothing else. -/
theorem parse_acceptOffer {value answer : String} (h : acceptOffer value = some answer) :
    ∃ accepted, Params.parse value = some accepted
      ∧ Params.parse (trim answer)
        = some { serverNoContextTakeover := accepted.serverNoContextTakeover } := by
  unfold acceptOffer at h
  obtain ⟨accepted, hparse, h⟩ := Option.bind_eq_some_iff.mp h
  refine ⟨accepted, hparse, ?_⟩
  split at h
  · obtain rfl := Option.some.inj h
    cases accepted.serverNoContextTakeover <;> decide +kernel
  · cases h

theorem extensionValues_eq_nil {others : List HttpHeader}
    (h : ∀ x ∈ others, (trim x.name).toLower ≠ "sec-websocket-extensions") :
    extensionValues others = [] := by
  refine List.filterMap_eq_nil_iff.mpr fun x hx => ?_
  rw [if_neg (h x hx)]

/-- The header of an answer. -/
theorem plain_answer {value answer : String} (h : acceptOffer value = some answer) :
    (⟨"sec-websocket-extensions", answer⟩ : HttpHeader).Plain := by
  unfold acceptOffer at h
  obtain ⟨accepted, -, h⟩ := Option.bind_eq_some_iff.mp h
  split at h
  · obtain rfl := Option.some.inj h
    refine ⟨?_, ?_, ?_⟩
    · show ':' ∉ "sec-websocket-extensions".toList
      decide
    · cases accepted.serverNoContextTakeover <;> decide
    · refine List.all_iff_forall_prop.mp ?_
      cases accepted.serverNoContextTakeover <;> rfl
  · cases h

/-- **Both ends agree on the compression parameters**: for whatever offers a
request makes and whatever else the response carries, in any order and with
anything behind it. -/
theorem ends_agree {D I : Type} (offers : List String) {others headers : List HttpHeader}
    (hothers : ∀ x ∈ others, x.Plain ∧ (trim x.name).toLower ≠ "sec-websocket-extensions")
    (hheaders : headers.Perm (answerCompression offers others)) {client server : DeflateStream D I}
    (hclient : client.role = .client) (hserver : server.role = .server) {moreIn moreOut : Bytes}
    (hin : client.rawIn = responseBytes headers ++ moreIn)
    (hout : server.rawOut = responseBytes headers ++ moreOut) :
    (∀ answer, offers.findSome? acceptOffer = some answer → ∃ params : Params,
      (client.endHead true).1.agreement = some (some params)
        ∧ (server.endHead false).1.agreement = some (some params)
        ∧ params.resetDeflater .server = params.resetInflater .client
        ∧ params.resetDeflater .client = params.resetInflater .server
        ∧ params.canCompress .client = true ∧ params.canCompress .server = true
        ∧ ∃ value ∈ offers, acceptOffer value = some answer
          ∧ ∃ accepted, Params.parse value = some accepted
            ∧ params.serverNoContextTakeover = accepted.serverNoContextTakeover)
    ∧ (offers.findSome? acceptOffer = none →
      (client.endHead true).1.agreement = some none
        ∧ (server.endHead false).1.agreement = some none) := by
  have hends : (∀ x ∈ headers, x.Plain) → ∀ agreed,
      (extensionValues headers).findSome? Params.parse = agreed →
      (client.endHead true).1.agreement = some agreed
        ∧ (server.endHead false).1.agreement = some agreed := by
    rintro hplain agreed rfl
    exact ⟨agreement_endHead (by rw [hclient]; rfl) hplain hin,
      agreement_endHead (by rw [hserver]; rfl) hplain hout⟩
  unfold answerCompression at hheaders
  refine ⟨fun answer hanswer => ?_, fun hnone => ?_⟩
  · rw [hanswer] at hheaders
    obtain ⟨value, hvalue, haccept⟩ := List.exists_of_findSome?_eq_some hanswer
    obtain ⟨accepted, haccepted, hparse⟩ := parse_acceptOffer haccept
    have hkept : ∀ x ∈ others.filter (·.name.toLower ≠ "sec-websocket-extensions"),
        x.Plain ∧ (trim x.name).toLower ≠ "sec-websocket-extensions" :=
      fun x hx => hothers x (List.mem_filter.mp hx).1
    have hplain : ∀ x ∈ headers, x.Plain := by
      intro x hx
      rcases List.mem_append.mp (hheaders.mem_iff.mp hx) with hx | hx
      · exact (hkept x hx).1
      · obtain rfl := List.mem_singleton.mp hx
        exact plain_answer haccept
    have hvalues : extensionValues headers = [trim answer] := by
      have hname : (trim "sec-websocket-extensions").toLower = "sec-websocket-extensions" := by
        decide +kernel
      refine List.perm_singleton.mp ((hheaders.filterMap _).trans ?_)
      show (extensionValues (_ ++ _)).Perm _
      unfold extensionValues
      rw [List.filterMap_append]
      show (extensionValues _ ++ _).Perm _
      rw [extensionValues_eq_nil fun x hx => (hkept x hx).2, List.nil_append,
        List.filterMap_cons, if_pos hname, List.filterMap_nil]
    obtain ⟨hin, hout⟩ := hends hplain _ (by rw [hvalues, List.findSome?_singleton, hparse])
    exact ⟨_, hin, hout, rfl, rfl, rfl, rfl, value, hvalue, haccept, accepted, haccepted, rfl⟩
  · rw [hnone] at hheaders
    have hplain : ∀ x ∈ headers, x.Plain := fun x hx => (hothers x (hheaders.mem_iff.mp hx)).1
    have hvalues : extensionValues headers = [] :=
      extensionValues_eq_nil fun x hx => (hothers x (hheaders.mem_iff.mp hx)).2
    exact hends hplain none (by rw [hvalues]; rfl)

/-- A request that asks the server for no context takeover, behind an extension
the server does not know. -/
def takeoverOffer : String :=
  "x-webkit-deflate-frame, permessage-deflate; Server_No_Context_Takeover; client_max_window_bits"

/-- A header that every such response has. -/
def upgradeHeader : HttpHeader := ⟨"upgrade", "websocket"⟩

/-- An end of a connection whose response has arrived or is to be sent. -/
def answeredEnd (role : Role) : DeflateStream Unit Unit where
  role
  rawIn := responseBytes (answerCompression [takeoverOffer] [upgradeHeader]) ++ []
  rawOut := responseBytes (answerCompression [takeoverOffer] [upgradeHeader]) ++ []
  inbound := { codec := { inflater := () } }

theorem upgradeHeader_plain : upgradeHeader.Plain :=
  ⟨by decide, by decide, List.all_iff_forall_prop.mp (by rfl)⟩

theorem takeover_agreed : ∃ params : Params,
    ((answeredEnd .client).endHead true).1.agreement = some (some params)
      ∧ ((answeredEnd .server).endHead false).1.agreement = some (some params)
      ∧ params.serverNoContextTakeover = true := by
  have hothers : ∀ x ∈ [upgradeHeader],
      x.Plain ∧ (trim x.name).toLower ≠ "sec-websocket-extensions" :=
    List.forall_mem_singleton.mpr ⟨upgradeHeader_plain, by decide +kernel⟩
  have hanswer : [takeoverOffer].findSome? acceptOffer
      = some "permessage-deflate; server_no_context_takeover" := by decide +kernel
  obtain ⟨hagreed, -⟩ := ends_agree [takeoverOffer] hothers (List.Perm.refl _)
    (rfl : (answeredEnd .client).role = _) (rfl : (answeredEnd .server).role = _) rfl rfl
  obtain ⟨params, hclient, hserver, -, -, -, -, value, hvalue, -, accepted, hparse, htakeover⟩ :=
    hagreed _ hanswer
  refine ⟨params, hclient, hserver, htakeover.trans ?_⟩
  obtain rfl := List.mem_singleton.mp hvalue
  have hasked : (Params.parse takeoverOffer).map (·.serverNoContextTakeover) = some true := by
    decide +kernel
  rw [hparse] at hasked
  exact Option.some.inj hasked

end WsBlast
