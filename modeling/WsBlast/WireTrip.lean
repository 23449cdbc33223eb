import WsBlast.AgentConfig
import WsBlast.AgentToken
import WsBlast.HandshakeHeaders

/-!
# Settings that are sent and read again

Every setting of a share is spelled by the coordinator and parsed by the agent.
A header that was trimmed and accepted once is accepted again as it is
(`header_spelled`), and its template for the same rows at any time
(`checkHeaderTemplate_again`). A payload is parsed without the variables of its
phase: it has the same placeholders but those (`mem_parts_iff`).

Nothing on the wire is trusted to be as it was, so every setting passes through
the same parser a second time. What has to be shown is a kind of idempotence:
the text of a parsed value parses to that value. For most settings the text is
the one that the user gave.
-/

namespace WsBlast

/-! ## Texts that are trimmed

Trimming is idempotent, and names of headers have nothing to trim. -/

theorem trimChars_trimChars (chars : List Char) : trimChars (trimChars chars) = trimChars chars := by
  have hfirst : ∀ {chars : List Char}, ∀ c ∈ (chars.dropWhile isWhiteSpace).head?,
      isWhiteSpace c = false := by
    intro chars c hc
    have hnot := List.head?_dropWhile_not isWhiteSpace chars
    rw [hc] at hnot
    exact hnot
  refine trimChars_of_ends (fun c hc => ?_) fun c hc => ?_
  · -- the beginning is left when white space is taken off the end
    have hprefix : trimChars chars <+: chars.dropWhile isWhiteSpace := by
      have hsuffix := List.dropWhile_suffix isWhiteSpace (l := (chars.dropWhile isWhiteSpace).reverse)
      rwa [← List.reverse_prefix, List.reverse_reverse] at hsuffix
    obtain ⟨rest, hrest⟩ := hprefix
    refine @hfirst chars c ?_
    rw [← hrest, List.head?_append, hc]
    rfl
  · unfold trimChars at hc
    rw [List.getLast?_reverse] at hc
    exact hfirst c hc

@[simp] theorem trim_trim (text : String) : trim (trim text) = trim text := by
  unfold trim
  rw [String.toList_ofList, trimChars_trimChars]

/-- Whatever stands in a header name is not white space. -/
theorem not_isWhiteSpace_of_isTokenChar {c : Char} (h : isTokenChar c = true) :
    isWhiteSpace c = false := by
  have hrange : 33 ≤ c.toNat ∧ c.toNat ≤ 126 := by
    unfold isTokenChar at h
    rcases Bool.or_eq_true_iff.mp h with h | h
    · simp only [Char.isAlphanum, Char.isAlpha, Char.isUpper, Char.isLower, Char.isDigit,
        Bool.or_eq_true, Bool.and_eq_true, decide_eq_true_eq, ge_iff_le,
        UInt32.le_iff_toNat_le] at h
      have hbounds : 'A'.val.toNat = 65 ∧ 'Z'.val.toNat = 90 ∧ 'a'.val.toNat = 97
        ∧ 'z'.val.toNat = 122 ∧ '0'.val.toNat = 48 ∧ '9'.val.toNat = 57 := by decide
      have hnat : c.val.toNat = c.toNat := rfl
      omega
    · have hall : "!#$%&'*+-.^_`|~".toList.all
          (fun d => decide (33 ≤ d.toNat) && decide (d.toNat ≤ 126)) = true := by decide
      simpa using List.all_eq_true.mp hall c (List.contains_iff_mem.mp h)
  unfold isWhiteSpace
  simp only [Bool.or_eq_false_iff, Bool.and_eq_false_iff, decide_eq_false_iff_not, beq_eq_false_iff_ne]
  omega

theorem isTokenChar_toLower {c : Char} (h : isTokenChar c = true) :
    isTokenChar c.toLower = true := by
  by_cases hupper : c.isUpper = true
  · have halpha : c.toLower.isAlpha = true := by
      rw [Char.isAlpha_toLower_eq_isAlpha]
      simp [Char.isAlpha, hupper]
    simp [isTokenChar, Char.isAlphanum, halpha]
  · rwa [Char.toLower_eq_of_not_isUpper hupper]

/-- A header name is one again. -/
theorem headerName_again {text name : String} (h : headerName text = some name) :
    headerName name = some name ∧ trim name = name := by
  unfold headerName at h
  dsimp only at h
  split_ifs at h with hvalid
  cases h
  obtain ⟨hne, hlength, hall⟩ := hvalid
  have hlower : text.toLower.toList = text.toList.map Char.toLower := String.toList_map
  have htoken : ∀ c ∈ text.toLower.toList, isTokenChar c = true := by
    rw [hlower, List.forall_mem_map]
    exact fun c hc => isTokenChar_toLower (List.all_eq_true.mp hall c hc)
  have hspaces : ∀ c ∈ text.toLower.toList, isWhiteSpace c = false :=
    fun c hc => not_isWhiteSpace_of_isTokenChar (htoken c hc)
  refine ⟨?_, ?_⟩
  · unfold headerName
    rw [if_pos ⟨by simpa [hlower] using hne, by simpa [hlower] using hlength,
      List.all_eq_true.mpr htoken⟩]
    refine congrArg some (String.toList_injective ?_)
    show (text.toLower.map Char.toLower).toList = _
    rw [String.toList_map, hlower, List.map_map]
    exact List.map_congr_left fun c _ => Char.toLower_toLower_eq_toLower c
  · unfold trim
    rw [trimChars_of_ends (fun c hc => hspaces c (List.mem_of_mem_head? hc))
      fun c hc => hspaces c (List.mem_of_mem_getLast? hc), String.ofList_toList]

/-! ## Headers

The forms of a header: as it was given, as it is held, as it is sent. -/

theorem textBytes_injective : Function.Injective textBytes := by
  intro a b h
  rw [← String.ofList_toList (s := a), ← String.ofList_toList (s := b),
    textBytes_eq_encodeChars, textBytes_eq_encodeChars] at h
  have hread := fromUTF8?_encodeChars a.toList
  rw [h, fromUTF8?_encodeChars, Option.some.injEq, String.ofList_toList,
    String.ofList_toList] at hread
  exact hread.symm

/-- A header of the HTTP library. -/
structure Header.Valid (header : Header) : Prop where
  name : headerName header.name = some header.name ∧ trim header.name = header.name
  value : ∃ text, headerValue text = some header.value

/-- A header that was given to a builder, which trims it. -/
structure Header.Given (header : Header) : Prop where
  name : headerName header.name = some header.name ∧ trim header.name = header.name
  value : ∃ text, trim text = text ∧ headerValue text = some header.value

/-- A header as it is once it was sent to an agent, whose builder trims it. -/
def Header.trimmed (header : Header) : Header :=
  match headerText header.value with
  | some text => { header with value := textBytes (trim text) }
  | none => header

/-- A header on the wire that a builder takes for this one. -/
structure Header.Spelled (header : Header) (wire : WireHeader) : Prop where
  name : wire.name = header.name ∧ headerName header.name = some header.name
    ∧ trim header.name = header.name
  value : headerValue (trim wire.value) = some header.value

theorem Header.given_of_trim {name value : String} {header : Header}
    (hname : headerName (trim name) = some header.name)
    (hvalue : headerValue (trim value) = some header.value) : header.Given :=
  ⟨headerName_again hname, trim value, trim_trim value, hvalue⟩

theorem Header.Given.valid {header : Header} (h : header.Given) : header.Valid :=
  ⟨h.name, h.value.imp fun _ => And.right⟩

theorem headerValue_of_textBytes {text source : String} {value : Bytes}
    (htext : textBytes text = value) (h : headerValue source = some value) : source = text := by
  rw [headerValue_eq_textBytes (by rw [h]; rfl)] at h
  exact textBytes_injective ((Option.some.inj h).trans htext.symm)

/-- The text of a header that was given is the one it was given as. -/
theorem Header.Given.spelled {header : Header} (h : header.Given) {text : String}
    (htext : textBytes text = header.value) : header.Spelled ⟨header.name, text⟩ := by
  obtain ⟨source, htrim, hvalue⟩ := h.value
  obtain rfl := headerValue_of_textBytes htext hvalue
  exact ⟨⟨rfl, h.name⟩, htrim.symm ▸ hvalue⟩

/-- What is trimmed off a text are characters of it. -/
theorem mem_of_mem_trim {text : String} {c : Char} (h : c ∈ (trim text).toList) :
    c ∈ text.toList := by
  unfold trim trimChars at h
  rw [String.toList_ofList, List.mem_reverse] at h
  have h := (List.dropWhile_sublist isWhiteSpace).subset h
  rw [List.mem_reverse] at h
  exact (List.dropWhile_sublist isWhiteSpace).subset h

/-- A valid header arrives trimmed. -/
theorem Header.Valid.spelled {header : Header} (h : header.Valid) {wire : WireHeader}
    (hwire : wireHeader header = .ok wire) : header.trimmed.Spelled wire := by
  unfold wireHeader at hwire
  split at hwire
  case h_2 => cases hwire
  case h_1 text htext =>
    cases hwire
    have htrimmed : header.trimmed = { header with value := textBytes (trim text) } := by
      unfold Header.trimmed
      rw [htext]
    rw [htrimmed]
    obtain ⟨source, hvalue⟩ := h.value
    obtain rfl := headerValue_of_textBytes (textBytes_of_headerText htext) hvalue
    have hchars := (isSome_headerValue source).mp (by rw [hvalue]; rfl)
    refine ⟨⟨rfl, h.name⟩, headerValue_eq_textBytes ((isSome_headerValue _).mpr ?_)⟩
    exact List.all_eq_true.mpr fun c hc => List.all_eq_true.mp hchars c (mem_of_mem_trim hc)

/-- A header that is not given to a builder arrives as it was sent. -/
theorem Header.Valid.parse_wireHeader {header : Header} (h : header.Valid) {wire : WireHeader}
    (hwire : wireHeader header = .ok wire) : wire.parse = .ok header := by
  unfold wireHeader at hwire
  split at hwire
  case h_2 => cases hwire
  case h_1 text htext =>
    cases hwire
    obtain ⟨source, hvalue⟩ := h.value
    obtain rfl := headerValue_of_textBytes (textBytes_of_headerText htext) hvalue
    unfold WireHeader.parse
    rw [h.name.1, hvalue]

/-- A builder takes a spelled header as it is. -/
theorem LoadTestConfigBuilder.header_spelled {header : Header} {wire : WireHeader}
    (h : header.Spelled wire) (builder : LoadTestConfigBuilder) :
    builder.header wire.name wire.value
      = { builder with headers := appendHeader builder.headers header } := by
  obtain ⟨⟨hname, hlower, hnames⟩, hvalue⟩ := h
  unfold LoadTestConfigBuilder.header
  rw [hname, hnames, hlower, hvalue]

theorem foldl_header_spelled {given : List Header} {wires : List WireHeader}
    (h : List.Forall₂ Header.Spelled given wires) (builder : LoadTestConfigBuilder) :
    wires.foldl (fun builder wire => builder.header wire.name wire.value) builder
      = { builder with headers := given.foldl appendHeader builder.headers } := by
  induction h generalizing builder with
  | nil => rfl
  | cons hheader _ ih =>
    rw [List.foldl_cons, LoadTestConfigBuilder.header_spelled hheader, ih]
    rfl

/-- A template that is the value of a header that was given. -/
def GivenTemplate (template : String × Template) : Prop :=
  ∃ header : Header, header.Given ∧ header.name = template.1
    ∧ headerTemplate header.value = some template.2

theorem GivenTemplate.given {template : String × Template} (h : GivenTemplate template) :
    (sourceHeader template).Given ∧ headerTemplate (sourceHeader template).value = some template.2 := by
  obtain ⟨header, hgiven, hname, htemplate⟩ := h
  obtain ⟨source, hparse, hbytes⟩ := exists_parse_of_headerTemplate htemplate
  have hsource : sourceHeader template = header := by
    unfold sourceHeader
    rw [hparse, ← hname]
    show Header.mk header.name (textBytes source) = header
    rw [hbytes]
  rw [hsource]
  exact ⟨hgiven, htemplate⟩

theorem givenTemplate_of_mem {given : List Header} (h : ∀ header ∈ given, header.Given)
    {template : String × Template} (hmem : template ∈ templatesOf given) :
    GivenTemplate template := by
  obtain ⟨header, hheader, hparse⟩ := List.mem_filterMap.mp hmem
  obtain ⟨parsed, hparsed, rfl⟩ := Option.map_eq_some_iff.mp hparse
  exact ⟨header, h header hheader, rfl, hparsed⟩

/-- The headers of a share: the fixed ones and the sources of the templates. -/
theorem spelled_headers {headers : List Header} (hvalid : ∀ header ∈ headers, header.Valid)
    {fixed : List WireHeader} (hfixed : headers.mapM wireHeader = .ok fixed)
    {templates : List (String × Template)} (htemplates : ∀ template ∈ templates, GivenTemplate template) :
    List.Forall₂ Header.Spelled (headers.map Header.trimmed ++ templates.map sourceHeader)
      (fixed ++ templates.map fun template => ⟨template.1, template.2.source⟩) := by
  refine List.rel_append ?_ ?_
  · have hall := (List.forall₂_and_left _ _).mpr ⟨hvalid, Checked.mapM_eq_ok.mp hfixed⟩
    rw [List.forall₂_map_left_iff]
    exact hall.imp fun header wire h => h.1.spelled h.2
  · rw [List.forall₂_map_left_iff, List.forall₂_map_right_iff, List.forall₂_same]
    exact fun template htemplate => (htemplates template htemplate).given.1.spelled rfl

/-! ## Header templates -/

/-- Headers are split when each of their templates passes its check. -/
theorem splitHeaderTemplates_of_checked {host : Host} {headers : List Header}
    {data : Option DataSet}
    (h : ∀ header ∈ headers, ∀ template, headerTemplate header.value = some template →
      checkHeaderTemplate host data header.name template = .ok ()) :
    splitHeaderTemplates host headers data
      = .ok (headers.filter (fun header => headerTemplate header.value = none),
          templatesOf headers) := by
  have hparts : headers.mapM (keepHeader host data)
      = .ok (headers.map fun header => (headerTemplate header.value).elim (Sum.inl header)
          fun template => Sum.inr (header.name, template)) := by
    rw [Checked.mapM_eq_ok, List.forall₂_map_right_iff, List.forall₂_same]
    intro header hheader
    unfold keepHeader
    cases htemplate : headerTemplate header.value with
    | none => rfl
    | some template =>
      dsimp only
      rw [h header hheader template htemplate]
      rfl
  have hsplit : splitHeaderTemplates host headers data = (do
      let parts ← headers.mapM (keepHeader host data)
      return (parts.filterMap Sum.getLeft?, parts.filterMap Sum.getRight?)) := rfl
  rw [hsplit, hparts, Checked.ok_bind]
  show Except.ok _ = _
  rw [List.filterMap_map, List.filterMap_map]
  refine congrArg Except.ok (Prod.ext ?_ ?_)
  · rw [← List.filterMap_eq_filter]
    refine List.filterMap_congr fun header _ => ?_
    cases htemplate : headerTemplate header.value <;> simp [htemplate, Option.guard]
  · refine List.filterMap_congr fun header _ => ?_
    cases htemplate : headerTemplate header.value <;> simp [htemplate]

/-- Columns that were there are there again. -/
theorem checkData_again {template : Template} {checked data : Option DataSet}
    (h : template.checkData checked = .ok ()) (hdata : ReadsTable checked data) :
    template.checkData data = .ok () := by
  refine Checked.forM_eq_ok.mpr fun column hcolumn => ?_
  cases hchecked : checked with
  | none =>
    rw [hchecked] at h
    rw [Template.dataColumns_of_checkData_none h] at hcolumn
    exact absurd hcolumn List.not_mem_nil
  | some file =>
    have hfile := hdata.resolve_left (by rw [hchecked]; exact Option.some_ne_none file)
    rw [hchecked] at hfile
    obtain ⟨file', rfl, heq⟩ := Option.map_eq_some_iff.mp hfile
    obtain ⟨hcolumns, -⟩ := Prod.mk.inj heq
    have hfound : file'.column column = file.column column := by
      unfold DataSet.column
      rw [hcolumns]
    have hchecks := Checked.forM_eq_ok.mp h column hcolumn
    rw [hchecked] at hchecks
    dsimp only at hchecks ⊢
    split_ifs at hchecks with hnone
    rw [if_neg (by rwa [hfound])]

/-- The place of an agent does not matter to what a row gives. -/
theorem render_rowValues (host : Host) (template : Template) {data : Option DataSet} {row : ℕ}
    (hrow : row < rowCount data) :
    template.render (rowValues host data row)
      = template.render (templateValues
          { LoadTestConfig.defaults "" with
            data := data.map fun file => { file with share := none } } row [] 0 host.nowMs) := by
  unfold Template.render
  refine congrArg String.join (List.map_congr_left fun part _ => ?_)
  cases part with
  | data column =>
    cases data with
    | none => rfl
    | some file =>
      have hfor : ({ file with share := none } : DataSet).rowFor row = row :=
        Nat.mod_eq_of_lt hrow
      simp only [Part.render, rowValues, templateValues, Option.map_some, Option.bind_some, hfor]
      rfl
  | _ => rfl

/-- **A header template that was checked passes again** for the same rows, on
another machine and at another time. -/
theorem checkHeaderTemplate_again {host agent : Host} {checked data : Option DataSet}
    {name source : String}
    (h : checkHeaderTemplate host checked name (.parse source) = .ok ())
    (hdata : ReadsTable checked data) (htable : ∀ file ∈ data, file.rows ≠ []) :
    checkHeaderTemplate agent data name (.parse source) = .ok () := by
  have hcolumns : (Template.parse source).checkData checked = .ok () := by
    obtain ⟨hcolumns, -⟩ := Checked.check_bind_eq_ok.mp h
    rwa [Checked.mapError_eq_ok] at hcolumns
  unfold checkHeaderTemplate
  rw [Checked.check_bind_eq_ok, Checked.mapError_eq_ok]
  refine ⟨checkData_again hcolumns hdata, Checked.forM_eq_ok.mpr fun row hrow => ?_⟩
  rw [Checked.reject_eq_ok, ← ne_eq, Option.ne_none_iff_isSome,
    render_rowValues agent _ (List.mem_range.mp hrow)]
  refine isSome_headerValue_render h ?_ ?_ _ _ _ _
  · rcases hdata with hnone | hsame
    · exact .inl hnone
    · refine .inr ?_
      rw [← hsame, Option.map_map]
      rfl
  · intro file hfile
    obtain ⟨file, hmem, rfl⟩ := Option.map_eq_some_iff.mp hfile
    exact htable file hmem

/-- A header template is checked alike wherever the agent stands. -/
theorem checkHeaderTemplate_withShare (host : Host) (data : Option DataSet) (index agents : ℕ)
    (name : String) (template : Template) :
    checkHeaderTemplate host (data.map fun data => data.withShare index agents) name template
      = checkHeaderTemplate host data name template := by
  cases data with
  | none => rfl
  | some file =>
    have hrender : ∀ row,
        template.render (rowValues host (some (file.withShare index agents)) row)
          = template.render (rowValues host (some file) row) := by
      intro row
      unfold Template.render
      refine congrArg String.join (List.map_congr_left fun part _ => ?_)
      cases part <;> rfl
    unfold checkHeaderTemplate
    simp only [Option.map_some, hrender]
    rfl

/-- An auth template is checked alike wherever the agent stands. -/
theorem checkAuth_withShare (host : Host) (auth : Template) (data : Option DataSet)
    (place : DataSet → Option (ℕ × ℕ)) :
    checkAuth host auth (data.map fun file => { file with share := place file })
      = checkAuth host auth data := by
  cases data with
  | none => rfl
  | some file =>
    have hrender : ∀ row, auth.render (rowValues host (some { file with share := place file }) row)
        = auth.render (rowValues host (some file) row) := by
      intro row
      unfold Template.render
      refine congrArg String.join (List.map_congr_left fun part _ => ?_)
      cases part <;> rfl
    unfold checkAuth
    simp only [Option.map_some, hrender]
    rfl

/-! ## Payloads

Parsing with fewer names to know makes fewer placeholders and changes nothing
else. -/

/-- A name that can be captured is not that of a column. -/
theorem textAfter_data_of_checkVarName {name : String} (h : checkVarName name = .ok ()) :
    textAfter "data." name = none := by
  cases hafter : textAfter "data." name with
  | none => rfl
  | some column =>
    obtain rfl := textAfter_eq_some.mp hafter
    have hlist : ("data." ++ column).toList
        = 'd' :: 'a' :: 't' :: 'a' :: '.' :: column.toList := by
      rw [String.toList_append]
      rfl
    unfold checkVarName at h
    rw [hlist] at h
    simp [Char.isAlpha, Char.isUpper, Char.isLower, Char.isDigit] at h

section Parts

variable {vars : List String} (hvars : ∀ name ∈ vars, checkVarName name = .ok ())
include hvars

namespace Template

/-- A placeholder is read alike without the variables, unless it is one. -/
theorem placeholder_without (name : String) :
    placeholder vars name = placeholder [] name
      ∨ placeholder [] name = none ∧ ∃ index, placeholder vars name = some (.var index) := by
  unfold placeholder
  by_cases hseq : name = "seq"
  · simp [hseq]
  by_cases htime : name = "timestamp"
  · simp [htime]
  by_cases hworker : name = "worker_id"
  · simp [hworker]
  rw [if_neg hseq, if_neg htime, if_neg hworker, if_neg hseq, if_neg htime, if_neg hworker]
  cases hfound : vars.findIdx? (· == name) with
  | none => exact .inl rfl
  | some index =>
    have hmem : name ∈ vars := by
      obtain ⟨hlt, heq, -⟩ := List.findIdx?_eq_some_iff_getElem.mp hfound
      rw [← eq_of_beq heq]
      exact List.getElem_mem hlt
    refine .inr ⟨?_, index, rfl⟩
    simp [textAfter_data_of_checkVarName (hvars name hmem)]

/-- **A text has the same placeholders without the variables,** but for
those. -/
theorem mem_parts_iff {part : Part} (htext : ∀ literal, part ≠ .text literal)
    (hvar : ∀ index, part ≠ .var index) (source : String) :
    part ∈ (parseWithVars source vars).parts ↔ part ∈ (parse source).parts := by
  have hnot : ∀ {text : List Char}, part ∉ textPart text := fun hmem =>
    htext _ (mem_textPart hmem)
  -- the literal text that was read may differ: a variable is text on one side
  have hfrom : ∀ (fuel : ℕ) (text text' rest : List Char),
      part ∈ partsFrom vars fuel text rest ↔ part ∈ partsFrom [] fuel text' rest := by
    intro fuel
    induction fuel with
    | zero => exact fun _ _ _ => iff_of_false hnot hnot
    | succ fuel ih =>
      intro text text' rest
      unfold partsFrom
      split
      · exact iff_of_false hnot hnot
      · split
        · exact iff_of_false hnot hnot
        · rename_i name _ _
          rcases placeholder_without hvars (String.ofList name) with hsame | ⟨hnone, index, hsome⟩
          · rw [hsame]
            split
            · simp only [List.mem_append, List.mem_cons, hnot, ih [] []]
            · exact ih _ _ _
          · rw [hnone, hsome]
            simp only [List.mem_append, List.mem_cons, hnot, hvar, false_or]
            exact ih _ _ _
  exact hfrom _ _ _ _

end Template

end Parts

namespace PayloadConfig

/-- A payload parsed again, with these variables. -/
def reparse (vars : List String) : PayloadConfig → PayloadConfig
  | .staticText text => fromTextWithVars text vars
  | .dynamicText template => fromTextWithVars template.source vars
  | .binary bytes => .binary bytes

/-- A payload that was parsed with these variables. -/
inductive Parsed (vars : List String) : PayloadConfig → Prop
  | text (source : String) : Parsed vars (fromTextWithVars source vars)
  | binary (bytes : Bytes) : Parsed vars (.binary bytes)

theorem intoConfig_wirePayload (payload : PayloadConfig) :
    (wirePayload payload).intoConfig = .ok (payload.reparse []) := by
  cases payload with
  | staticText text => rfl
  | dynamicText template => rfl
  | binary bytes =>
    show (WirePayload.binary (Base64.encode bytes)).intoConfig = _
    unfold WirePayload.intoConfig
    dsimp only
    rw [Base64.decode_encode]
    rfl

theorem payloadFromWire_wirePayload (vars : List String) (payload : PayloadConfig) :
    payloadFromWire vars (wirePayload payload) = .ok (payload.reparse vars) := by
  cases payload with
  | staticText text => rfl
  | dynamicText template => rfl
  | binary bytes =>
    show payloadFromWire vars (WirePayload.binary (Base64.encode bytes)) = _
    unfold payloadFromWire
    dsimp only
    rw [Base64.decode_encode]
    rfl

/-- A text is parsed again from itself. -/
theorem reparse_fromTextWithVars (source : String) (vars vars' : List String) :
    (fromTextWithVars source vars).reparse vars' = fromTextWithVars source vars' := by
  have hcases : fromTextWithVars source vars = .dynamicText (.parseWithVars source vars)
      ∨ fromTextWithVars source vars = .staticText source := by
    unfold fromTextWithVars
    dsimp only
    split_ifs
    · exact .inl rfl
    · exact .inr rfl
  rcases hcases with h | h
  · rw [h]
    rfl
  · rw [h]
    rfl

theorem Parsed.reparse_eq {vars : List String} {payload : PayloadConfig} (h : payload.Parsed vars) :
    payload.reparse vars = payload := by
  cases h with
  | text source => exact reparse_fromTextWithVars source vars vars
  | binary bytes => rfl

theorem not_mem_parts_of_static {template : Template} (h : template.isDynamic = false) {part : Part}
    (htext : ∀ literal, part ≠ .text literal) : part ∉ template.parts := by
  intro hmem
  have hstatic := List.any_eq_false.mp h part hmem
  cases part with
  | text literal => exact htext literal rfl
  | _ => exact hstatic rfl

theorem carriesSeq_fromTextWithVars (source : String) (vars : List String) :
    (fromTextWithVars source vars).carriesSeq = true
      ↔ Part.seq ∈ (Template.parseWithVars source vars).parts := by
  unfold fromTextWithVars
  dsimp only
  split_ifs with h
  · exact List.contains_iff_mem
  · exact iff_of_false Bool.false_ne_true
      (not_mem_parts_of_static (Bool.eq_false_iff.mpr h) fun _ => Part.noConfusion)

theorem checkPayloadData_fromTextWithVars {source : String} {vars : List String}
    {data : Option DataSet} :
    checkPayloadData (fromTextWithVars source vars) data = .ok ()
      ↔ (Template.parseWithVars source vars).checkData data = .ok () := by
  unfold fromTextWithVars
  dsimp only
  split_ifs with h
  · exact Checked.mapError_eq_ok
  · refine iff_of_true rfl ?_
    have hnone : (Template.parseWithVars source vars).dataColumns = [] := by
      refine List.eq_nil_iff_forall_not_mem.mpr fun column hcolumn => ?_
      obtain ⟨part, hpart, heq⟩ := List.mem_filterMap.mp hcolumn
      split at heq
      · exact not_mem_parts_of_static (Bool.eq_false_iff.mpr h) (fun _ => Part.noConfusion) hpart
      · cases heq
    unfold Template.checkData
    rw [hnone]
    rfl

section Reparse

variable {vars : List String} (hvars : ∀ name ∈ vars, checkVarName name = .ok ())
  {payload : PayloadConfig} (h : payload.Parsed vars)
include hvars h

/-- Without its variables a payload carries the sequence number all the
same. -/
theorem carriesSeq_reparse_nil : (payload.reparse []).carriesSeq = payload.carriesSeq := by
  cases h with
  | binary bytes => rfl
  | text source =>
    rw [reparse_fromTextWithVars, Bool.eq_iff_iff, carriesSeq_fromTextWithVars,
      carriesSeq_fromTextWithVars]
    exact (Template.mem_parts_iff hvars (fun _ => Part.noConfusion) (fun _ => Part.noConfusion)
      source).symm

/-- Without its variables a payload reads the same columns. -/
theorem checkPayloadData_reparse_nil (data : Option DataSet) :
    checkPayloadData (payload.reparse []) data = .ok ()
      ↔ checkPayloadData payload data = .ok () := by
  cases h with
  | binary bytes => exact Iff.rfl
  | text source =>
    have hcolumn : ∀ column, column ∈ (Template.parseWithVars source vars).dataColumns
        ↔ column ∈ (Template.parse source).dataColumns := by
      have hpart : ∀ (template : Template) (column : String),
          column ∈ template.dataColumns ↔ Part.data column ∈ template.parts := by
        intro template column
        refine List.mem_filterMap.trans ⟨?_, fun h => ⟨_, h, rfl⟩⟩
        rintro ⟨part, hpart, heq⟩
        split at heq
        · cases heq
          exact hpart
        · cases heq
      intro column
      rw [hpart, hpart]
      exact Template.mem_parts_iff hvars (fun _ => Part.noConfusion) (fun _ => Part.noConfusion)
        source
    rw [reparse_fromTextWithVars, checkPayloadData_fromTextWithVars,
      checkPayloadData_fromTextWithVars]
    unfold Template.checkData
    rw [Checked.forM_eq_ok, Checked.forM_eq_ok]
    exact forall_congr' fun column => imp_congr (hcolumn column).symm Iff.rfl

end Reparse

end PayloadConfig

end WsBlast
