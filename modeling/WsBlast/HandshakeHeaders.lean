import WsBlast.HeaderValues
import WsBlast.Lib.MultiMap
import WsBlast.TemplateRows
import WsBlast.Worker

/-!
# The headers of a handshake

The `-H` headers are kept in a map of the HTTP library, which names each header
once when it is gone through (`intoIter`). A header whose value is a template is
moved out of it and filled in for every connection. What was accepted before the
run is a valid header for every connection (`header_templates_accepted`).

A request starts with the headers that the WebSocket library fills in. Fixed
headers take the place of those of their name, and templates are added to them:
`templates_act_fixed_iff` says when this makes a difference.

A header map of the HTTP library keeps several values of a name together, in
the order in which they were added, and the names in the order of their first
value. Going through it by value yields the name of a group only with its first
value (`intoIter`), and the loop of the source carries the last name along.
That this loop meets every header with its own name is proved here from the
grouping of maps.
-/

namespace WsBlast

open MultiMap (Grouped entriesAt)

/-! ## Header maps

What a name has in a map after appending, inserting and extending. -/

theorem appendHeader_eq (headers : List Header) (header : Header) :
    appendHeader headers header = MultiMap.append Header.name headers header := by
  induction headers with
  | nil => rfl
  | cons first rest ih =>
    unfold appendHeader MultiMap.append
    rw [ih]

theorem insertHeader_eq (headers : List Header) (header : Header) :
    insertHeader headers header = MultiMap.insert Header.name headers header := by
  induction headers with
  | nil => rfl
  | cons first rest ih =>
    unfold insertHeader MultiMap.insert
    rw [ih]

/-- The headers of a name. -/
abbrev headersAt (name : String) (headers : List Header) : List Header :=
  entriesAt Header.name name headers

/-- The values of a name. -/
def valuesOf (name : String) (headers : List Header) : List Bytes :=
  (headersAt name headers).map Header.value

theorem valuesOf_append (name : String) (headers : List Header) (header : Header) :
    valuesOf name (appendHeader headers header)
      = if header.name = name then valuesOf name headers ++ [header.value]
        else valuesOf name headers := by
  unfold valuesOf headersAt
  rw [appendHeader_eq, MultiMap.entriesAt_append]
  split_ifs <;> simp

theorem valuesOf_concat (name : String) (headers : List Header) (header : Header) :
    valuesOf name (headers ++ [header])
      = if header.name = name then valuesOf name headers ++ [header.value]
        else valuesOf name headers := by
  unfold valuesOf headersAt
  rw [MultiMap.entriesAt_concat]
  split_ifs <;> simp

theorem valuesOf_insert (name : String) (headers : List Header) (header : Header) :
    valuesOf name (insertHeader headers header)
      = if header.name = name then [header.value] else valuesOf name headers := by
  unfold valuesOf headersAt
  rw [insertHeader_eq, MultiMap.entriesAt_insert]
  split_ifs <;> simp

theorem valuesOf_eq_nil {name : String} {headers : List Header} :
    valuesOf name headers = [] ↔ ∀ header ∈ headers, header.name ≠ name := by
  unfold valuesOf headersAt
  rw [List.map_eq_nil_iff, MultiMap.entriesAt_eq_nil]

theorem mem_valuesOf {name : String} {headers : List Header} {value : Bytes} :
    value ∈ valuesOf name headers
      ↔ ∃ header ∈ headers, header.name = name ∧ header.value = value := by
  unfold valuesOf headersAt
  simp only [List.mem_map, MultiMap.mem_entriesAt, and_assoc]

/-- What a name has after the headers of `more`. -/
def overwritten (name : String) (headers more : List Header) : List Bytes :=
  if valuesOf name more = [] then valuesOf name headers else valuesOf name more

/-- The headers of a map take the place of those of their names, one after the
other. -/
theorem valuesOf_extendItems (name : String) (headers done more current : List Header)
    (hgrouped : Grouped Header.name (done ++ more))
    (hcurrent : ∀ name, valuesOf name current = overwritten name headers done) :
    valuesOf name (extendItems current (done.getLast?.map Header.name)
        (intoIter (done.getLast?.map Header.name) more))
      = overwritten name headers (done ++ more) := by
  induction more generalizing done current with
  | nil =>
    rw [List.append_nil]
    cases done.getLast?.map Header.name <;> exact hcurrent name
  | cons header more ih =>
    have hlast : (done ++ [header]).getLast?.map Header.name = some header.name := by
      rw [List.getLast?_concat]
      rfl
    have hdone : done ++ header :: more = (done ++ [header]) ++ more := by simp
    have hcontinues := hgrouped done header more rfl
    rw [hdone] at hgrouped ⊢
    rw [intoIter]
    split_ifs with hsame
    · -- another value of the name
      have hheld : valuesOf header.name done ≠ [] := fun hnil => by
        obtain ⟨last, hlast, hname⟩ := Option.map_eq_some_iff.mp hsame
        exact valuesOf_eq_nil.mp hnil last (List.mem_of_mem_getLast? hlast) hname
      have hnext := ih (done ++ [header]) (appendHeader current header) hgrouped fun name => by
        unfold overwritten
        rw [valuesOf_append, valuesOf_concat, hcurrent]
        unfold overwritten
        by_cases hname : header.name = name
        · subst hname
          simp [hheld]
        · simp [hname]
      rw [hsame]
      rw [hlast] at hnext
      exact hnext
    · -- the first value of a name
      have hnone : valuesOf header.name done = [] := by
        refine valuesOf_eq_nil.mpr fun other hother hname => hsame ?_
        obtain ⟨last, hlast, hname⟩ := hcontinues (hname ▸ List.mem_map_of_mem hother)
        rw [hlast]
        exact congrArg some hname
      have hnext := ih (done ++ [header]) (insertHeader current header) hgrouped fun name => by
        unfold overwritten
        rw [valuesOf_insert, valuesOf_concat, hcurrent]
        unfold overwritten
        by_cases hname : header.name = name
        · subst hname
          simp [hnone]
        · simp [hname]
      rw [hlast] at hnext
      cases hname : done.getLast?.map Header.name <;> exact hnext

theorem valuesOf_extendHeaders (name : String) (headers : List Header) {more : List Header}
    (h : Grouped Header.name more) :
    valuesOf name (extendHeaders headers more) = overwritten name headers more :=
  valuesOf_extendItems name headers [] more headers h fun _ => rfl

/-! ## Splitting the headers

The loop of the source over the items of a map, and the same split done header
by header. -/

/-- Goes through the items of a map with the name it saw last, and puts each
value into the fixed headers or, checked, among the templates. -/
def splitItems (host : Host) (data : Option DataSet) : Option String →
    List Header × List (String × Template) → List (Option String × Bytes) →
    Except ConfigError (List Header × List (String × Template))
  | _, split, [] => .ok split
  | last, (fixed, templates), (key, value) :: items =>
    match key.or last with
    | none => splitItems host data last (fixed, templates) items
    | some name =>
      match headerTemplate value with
      | none => splitItems host data (some name) (appendHeader fixed ⟨name, value⟩, templates) items
      | some template => do
        checkHeaderTemplate host data name template
        splitItems host data (some name) (fixed, templates ++ [(name, template)]) items

/-- A header as it is kept: fixed, or a template that was checked. -/
def keepHeader (host : Host) (data : Option DataSet) (header : Header) :
    Except ConfigError (Header ⊕ String × Template) :=
  match headerTemplate header.value with
  | none => .ok (.inl header)
  | some template => do
    checkHeaderTemplate host data header.name template
    return .inr (header.name, template)

/-- Going through a map carries every name to all of its values. -/
theorem splitItems_intoIter {host : Host} {data : Option DataSet} (done more : List Header)
    (templates : List (String × Template)) (hgrouped : Grouped Header.name (done ++ more)) :
    splitItems host data (done.getLast?.map Header.name)
        (done.filter fun header => headerTemplate header.value = none, templates)
        (intoIter (done.getLast?.map Header.name) more)
      = (fun parts => ((done.filter fun header => headerTemplate header.value = none)
            ++ parts.filterMap Sum.getLeft?, templates ++ parts.filterMap Sum.getRight?))
          <$> more.mapM (keepHeader host data) := by
  induction more generalizing done templates with
  | nil =>
    simp [intoIter, splitItems]
    rfl
  | cons header more ih =>
    -- the name that is carried along is that of the group
    have hkey : (if done.getLast?.map Header.name = some header.name then none
        else some header.name).or (done.getLast?.map Header.name) = some header.name := by
      split_ifs with hsame
      · exact hsame
      · rfl
    have hlast : (done ++ [header]).getLast?.map Header.name = some header.name := by
      rw [List.getLast?_concat]
      rfl
    have hnext : Grouped Header.name ((done ++ [header]) ++ more) := by simpa using hgrouped
    rw [intoIter, splitItems, hkey, List.mapM_cons]
    dsimp only
    cases htemplate : headerTemplate header.value with
    | none =>
      have hfilter : (done ++ [header]).filter (fun header => headerTemplate header.value = none)
          = (done.filter fun header => headerTemplate header.value = none) ++ [header] := by
        simp [List.filter_append, htemplate]
      have happend : appendHeader (done.filter fun header => headerTemplate header.value = none)
          header = (done.filter fun header => headerTemplate header.value = none) ++ [header] := by
        rw [appendHeader_eq, MultiMap.append_of_continues (hgrouped.continues_filter _)]
      have hrest := ih (done ++ [header]) templates hnext
      rw [hlast, hfilter] at hrest
      have hkeep : keepHeader host data header = .ok (.inl header) := by
        unfold keepHeader
        rw [htemplate]
      show splitItems host data (some header.name) (appendHeader _ ⟨header.name, header.value⟩,
        templates) _ = _
      rw [happend, hrest, hkeep]
      cases more.mapM (keepHeader host data) with
      | error err => rfl
      | ok parts => simp [List.filterMap_cons]
    | some template =>
      have hfilter : (done ++ [header]).filter (fun header => headerTemplate header.value = none)
          = done.filter fun header => headerTemplate header.value = none := by
        simp [List.filter_append, htemplate]
      have hrest := ih (done ++ [header]) (templates ++ [(header.name, template)]) hnext
      rw [hlast, hfilter] at hrest
      have hkeep : keepHeader host data header = (do
          checkHeaderTemplate host data header.name template
          return .inr (header.name, template)) := by
        unfold keepHeader
        rw [htemplate]
      dsimp only
      rw [hrest, hkeep]
      cases checkHeaderTemplate host data header.name template with
      | error err => rfl
      | ok checked =>
        cases more.mapM (keepHeader host data) with
        | error err => rfl
        | ok parts => simp [List.filterMap_cons]

/-- **The loop over a map splits it as one header after the other.** -/
theorem splitItems_eq {host : Host} {data : Option DataSet} {headers : List Header}
    (hgrouped : Grouped Header.name headers) :
    splitItems host data none ([], []) (intoIter none headers)
      = splitHeaderTemplates host headers data := by
  have hloop := @splitItems_intoIter host data [] headers [] hgrouped
  refine hloop.trans ?_
  unfold splitHeaderTemplates
  show _ = (do
    let parts ← headers.mapM (keepHeader host data)
    return (parts.filterMap Sum.getLeft?, parts.filterMap Sum.getRight?))
  cases headers.mapM (keepHeader host data) <;> rfl

/-- The templates among some headers. -/
def templatesOf (headers : List Header) : List (String × Template) :=
  headers.filterMap fun header => (headerTemplate header.value).map (header.name, ·)

/-- **What a split gives:** the headers that are not templates, and the checked
templates. -/
theorem splitHeaderTemplates_eq_ok {host : Host} {headers fixed : List Header}
    {data : Option DataSet} {templates : List (String × Template)}
    (h : splitHeaderTemplates host headers data = .ok (fixed, templates)) :
    fixed = headers.filter (fun header => headerTemplate header.value = none)
      ∧ templates = templatesOf headers
      ∧ ∀ header ∈ headers, ∀ template, headerTemplate header.value = some template →
        checkHeaderTemplate host data header.name template = .ok () := by
  obtain ⟨parts, hparts, hsplit⟩ := Checked.bind_eq_ok.mp h
  obtain ⟨rfl, rfl⟩ := Prod.mk.inj (Checked.pure_eq_ok.mp hsplit)
  clear h hsplit
  have hall := Checked.mapM_eq_ok.mp hparts
  clear hparts
  induction hall with
  | nil => exact ⟨rfl, rfl, by simp⟩
  | @cons header part headers parts hpart _ ih =>
    obtain ⟨hfixed, htemplates, hchecked⟩ := ih
    cases htemplate : headerTemplate header.value with
    | none =>
      rw [htemplate] at hpart
      cases hpart
      refine ⟨?_, ?_, ?_⟩
      · simp [htemplate, hfixed]
      · simp [List.filterMap_cons, templatesOf, htemplate, htemplates]
      · rw [List.forall_mem_cons]
        refine ⟨fun other hother => ?_, hchecked⟩
        rw [htemplate] at hother
        cases hother
    | some template =>
      rw [htemplate] at hpart
      obtain ⟨hcheck, hpart⟩ := Checked.check_bind_eq_ok.mp hpart
      cases hpart
      refine ⟨?_, ?_, ?_⟩
      · simp [List.filterMap_cons, htemplate, hfixed]
      · simp [templatesOf, htemplate, htemplates]
      · rw [List.forall_mem_cons]
        refine ⟨fun other hother => ?_, hchecked⟩
        rw [htemplate] at hother
        cases hother
        exact hcheck

/-! ## Templates among the headers

A template remembers its source, so the header it was given as can be told. -/

/-- A template as the header it was given as. -/
def sourceHeader (template : String × Template) : Header :=
  ⟨template.1, textBytes template.2.source⟩

theorem exists_parse_of_headerTemplate {value : Bytes} {template : Template}
    (h : headerTemplate value = some template) :
    ∃ source, template = .parse source ∧ textBytes source = value := by
  obtain ⟨hparse, -⟩ := Option.filter_eq_some_iff.mp h
  obtain ⟨source, htext, rfl⟩ := Option.map_eq_some_iff.mp hparse
  exact ⟨source, rfl, textBytes_of_headerText htext⟩

/-- What is read off the templates can be read off the headers that are not
fixed. -/
theorem map_templatesOf {read : String × Template → Header} {readHeader : Header → Header}
    (hread : ∀ header template, headerTemplate header.value = some template →
      read (header.name, template) = readHeader header) (headers : List Header) :
    (templatesOf headers).map read
      = (headers.filter fun header => !decide (headerTemplate header.value = none)).map
          readHeader := by
  induction headers with
  | nil => rfl
  | cons header headers ih =>
    cases htemplate : headerTemplate header.value with
    | none => simpa [templatesOf, htemplate] using ih
    | some template => simpa [templatesOf, htemplate, hread header template htemplate] using ih

/-- The templates are the headers that are not fixed. -/
theorem map_sourceHeader_templatesOf (headers : List Header) :
    (templatesOf headers).map sourceHeader
      = headers.filter fun header => !decide (headerTemplate header.value = none) := by
  have hsource : ∀ header template, headerTemplate header.value = some template →
      sourceHeader (header.name, template) = id header := by
    intro header template htemplate
    obtain ⟨source, rfl, hbytes⟩ := exists_parse_of_headerTemplate htemplate
    show Header.mk header.name (textBytes source) = header
    rw [hbytes]
  rw [map_templatesOf hsource, List.map_id]

/-- A template that was accepted is a header value for every connection. -/
theorem isSome_headerValue_render {host : Host} {checked : Option DataSet} {name source : String}
    (hcheck : checkHeaderTemplate host checked name (.parse source) = .ok ())
    {config : LoadTestConfig} (hdata : ReadsTable checked config.data)
    (htable : ∀ file ∈ config.data, file.rows ≠ []) (workerId : ℕ) (vars : List String)
    (seq nowMs : ℕ) :
    (headerValue ((Template.parse source).render
      (templateValues config workerId vars seq nowMs))).isSome = true := by
  unfold checkHeaderTemplate at hcheck
  obtain ⟨hcolumns, hrows⟩ := Checked.check_bind_eq_ok.mp hcheck
  rw [Checked.mapError_eq_ok] at hcolumns
  obtain ⟨row, hrow, halike⟩ := @Template.exists_row_alike host source checked config hcolumns hdata
    htable workerId vars seq nowMs
  have hvalid := Checked.forM_eq_ok.mp hrows row (List.mem_range.mpr hrow)
  rw [Checked.reject_eq_ok, ← ne_eq, Option.ne_none_iff_isSome, isSome_headerValue] at hvalid
  unfold Template.render at hvalid ⊢
  rw [isSome_headerValue]
  rw [all_isHeaderChar_join, List.forall_mem_map] at hvalid ⊢
  intro part hpart
  rcases halike part hpart with heq | ⟨-, n, hn⟩
  · rw [← heq]
    exact hvalid part hpart
  · rw [hn]
    exact all_isHeaderChar_toString n

/-! ## The request

A request exists when all templates give header values, and an accepted template
does for every connection. -/

/-- A template filled in for a connection. -/
def filledHeader (worker : Worker) (vars : List String) (nowMs : ℕ)
    (template : String × Template) : Header :=
  ⟨template.1,
    textBytes (template.2.render (templateValues worker.config worker.workerId vars 0 nowMs))⟩

theorem headerValue_eq_textBytes {text : String} (h : (headerValue text).isSome = true) :
    headerValue text = some (textBytes text) := by
  unfold headerValue at h ⊢
  dsimp only at h ⊢
  split_ifs at h ⊢
  · rfl
  · cases h

section Request

variable {worker : Worker} {vars : List String} {nowMs : ℕ}

/-- With templates that give header values there is a request. -/
theorem finishHandshakeRequest_eq (hhttp : worker.http.headerValue = headerValue)
    (h : ∀ template ∈ worker.config.headerTemplates, (headerValue (template.2.render
      (templateValues worker.config worker.workerId vars 0 nowMs))).isSome = true)
    (request : List Header) :
    finishHandshakeRequest worker vars nowMs request
      = .ok (setOffers worker ((worker.config.headerTemplates.map
          (filledHeader worker vars nowMs)).foldl appendHeader
            (extendHeaders request worker.config.headers))) := by
  have hfold : ∀ (templates : List (String × Template)) (request : List Header),
      (∀ template ∈ templates, (headerValue (template.2.render
        (templateValues worker.config worker.workerId vars 0 nowMs))).isSome = true) →
      templates.foldlM (appendFilled worker vars nowMs) request
        = .ok ((templates.map (filledHeader worker vars nowMs)).foldl appendHeader request) := by
    intro templates
    induction templates with
    | nil => exact fun _ _ => rfl
    | cons template templates ih =>
      intro request h
      obtain ⟨hvalid, hrest⟩ := List.forall_mem_cons.mp h
      have hstep : appendFilled worker vars nowMs request template
          = .ok (appendHeader request (filledHeader worker vars nowMs template)) := by
        unfold appendFilled
        rw [hhttp, headerValue_eq_textBytes hvalid]
        rfl
      rw [List.foldlM_cons, hstep]
      exact ih _ hrest
  unfold finishHandshakeRequest
  dsimp only
  rw [hfold _ _ h]
  rfl

end Request

/-- Every template of a split is a header value for every connection. -/
theorem isSome_headerValue_of_split {host : Host} {headers fixed : List Header}
    {checked : Option DataSet} {templates : List (String × Template)}
    (hsplit : splitHeaderTemplates host headers checked = .ok (fixed, templates))
    (htable : ∀ file ∈ checked, file.WellFormed) {worker : Worker} {share : Option (ℕ × ℕ)}
    (hdata : worker.config.data = checked.map fun file => { file with share })
    (vars : List String) (nowMs : ℕ) :
    ∀ template ∈ templates, (headerValue (template.2.render
      (templateValues worker.config worker.workerId vars 0 nowMs))).isSome = true := by
  obtain ⟨-, rfl, hchecked⟩ := splitHeaderTemplates_eq_ok hsplit
  intro template htemplate
  obtain ⟨header, hheader, heq⟩ := List.mem_filterMap.mp htemplate
  obtain ⟨template, hparse, rfl⟩ := Option.map_eq_some_iff.mp heq
  have hcheck := hchecked header hheader template hparse
  obtain ⟨source, rfl, -⟩ := exists_parse_of_headerTemplate hparse
  refine isSome_headerValue_render hcheck (.inr ?_) ?_ _ _ _ _
  · rw [hdata, Option.map_map]
    rfl
  · intro shared hshared
    rw [hdata] at hshared
    obtain ⟨file, hfile, rfl⟩ := Option.map_eq_some_iff.mp hshared
    exact (htable file hfile).rows_ne_nil

/-- **A header template that was accepted works for every connection.** For
every agent's share of the data file, every worker and every time it gives a
header value, and the request of the handshake is made. Every header is kept
once, as it was given: fixed, or as a template. The fixed values of a name keep
their order. -/
theorem header_templates_accepted {host : Host} {headers fixed : List Header}
    {checked : Option DataSet} {templates : List (String × Template)}
    (hgrouped : Grouped Header.name headers) (htable : ∀ file ∈ checked, file.WellFormed)
    (hsplit : splitItems host checked none ([], []) (intoIter none headers)
      = .ok (fixed, templates)) :
    (∀ (worker : Worker) (share : Option (ℕ × ℕ)) (vars : List String) (nowMs : ℕ),
        worker.config.data = checked.map (fun file => { file with share }) →
          (∀ template ∈ templates, ∃ value, headerValue (template.2.render
            (templateValues worker.config worker.workerId vars 0 nowMs)) = some value)
          ∧ (worker.http.headerValue = headerValue → worker.config.headerTemplates = templates →
              ∀ request, ∃ headers, finishHandshakeRequest worker vars nowMs request = .ok headers))
      ∧ headers.Perm (fixed ++ templates.map sourceHeader)
      ∧ ∀ name, headersAt name fixed
          = (headersAt name headers).filter fun header => headerTemplate header.value = none := by
  rw [splitItems_eq hgrouped] at hsplit
  refine ⟨fun worker share vars nowMs hdata => ?_, ?_⟩
  · have hrender := isSome_headerValue_of_split hsplit htable hdata vars nowMs
    refine ⟨fun template htemplate => Option.isSome_iff_exists.mp (hrender template htemplate), ?_⟩
    intro hhttp htemplates request
    exact ⟨_, finishHandshakeRequest_eq hhttp (htemplates ▸ hrender) request⟩
  obtain ⟨rfl, rfl, -⟩ := splitHeaderTemplates_eq_ok hsplit
  refine ⟨?_, fun name => ?_⟩
  · rw [map_sourceHeader_templatesOf]
    exact (List.filter_append_perm _ _).symm
  · unfold headersAt entriesAt
    rw [List.filter_filter, List.filter_filter]
    exact List.filter_congr fun header _ => Bool.and_comm _ _

/-- A table of users. -/
def userData : DataSet where
  path := "users.csv"
  columns := ["user"]
  rows := [["ada"], ["bob"]]
  share := none

/-- A template and a fixed value of one name. -/
def userHeaders : List Header :=
  [⟨"x-user", textBytes "u-\x7b\x7bdata.user\x7d\x7d"⟩, ⟨"x-user", textBytes "all"⟩]

theorem header_templates_accepted_user :
    Grouped Header.name userHeaders
      ∧ splitItems plainHost (some userData) none ([], []) (intoIter none userHeaders)
        = .ok ([⟨"x-user", textBytes "all"⟩],
            [("x-user", .parse "u-\x7b\x7bdata.user\x7d\x7d")])
      ∧ headersAt "x-user" [⟨"x-user", textBytes "all"⟩]
        = (headersAt "x-user" userHeaders).filter fun header =>
            headerTemplate header.value = none := by
  have hgrouped : Grouped Header.name userHeaders := by
    have hfold : userHeaders.foldl (MultiMap.append Header.name) [] = userHeaders := by
      decide +kernel
    rw [← hfold]
    exact MultiMap.grouped_foldl_append userHeaders
  have htable : ∀ file ∈ some userData, file.WellFormed := by
    rintro file ⟨⟩
    exact ⟨by decide, by decide⟩
  have hsplit : splitItems plainHost (some userData) none ([], []) (intoIter none userHeaders)
      = .ok ([⟨"x-user", textBytes "all"⟩],
          [("x-user", .parse "u-\x7b\x7bdata.user\x7d\x7d")]) := by decide +kernel
  exact ⟨hgrouped, hsplit, (header_templates_accepted hgrouped htable hsplit).2.2 "x-user"⟩

/-! ## Templates and fixed headers

The request with the templates against the one with fixed headers of the values
they give, name by name and value by value. -/

/-- Whether a request gets a header of this name after those of the
configuration. -/
def SetsOffer (worker : Worker) (name : String) : Prop :=
  worker.config.compression = true ∧ name = "sec-websocket-extensions"
    ∨ (worker.config.subprotocol.bind worker.http.headerValue).isSome = true
      ∧ name = "sec-websocket-protocol"

/-- A header as it is for a connection. -/
def fillHeader (worker : Worker) (vars : List String) (nowMs : ℕ) (header : Header) : Header :=
  match headerTemplate header.value with
  | none => header
  | some template => filledHeader worker vars nowMs (header.name, template)

/-- The worker whose headers are given as they are for its connection. -/
def withFilled (worker : Worker) (vars : List String) (nowMs : ℕ) (headers : List Header) :
    Worker :=
  { worker with
    config := { worker.config with
      headers := (headers.map (fillHeader worker vars nowMs)).foldl appendHeader []
      headerTemplates := [] } }

/-- The offers are the same whatever the request holds, and leave the other
names alone. -/
theorem valuesOf_setOffers {worker : Worker} {name : String} (request : List Header) :
    (SetsOffer worker name → ∀ request', valuesOf name (setOffers worker request)
        = valuesOf name (setOffers worker request'))
      ∧ (¬SetsOffer worker name → valuesOf name (setOffers worker request)
        = valuesOf name request) := by
  unfold SetsOffer setOffers
  cases worker.config.subprotocol.bind worker.http.headerValue with
  | none =>
    cases worker.config.compression with
    | false => simp
    | true =>
      simp only [if_true, valuesOf_insert]
      constructor
      · rintro (⟨-, rfl⟩ | ⟨hnone, -⟩) request'
        · rfl
        · cases hnone
      · intro hname
        exact if_neg fun heq => hname (.inl ⟨trivial, heq.symm⟩)
  | some value =>
    simp only [valuesOf_insert]
    cases worker.config.compression with
    | false =>
      simp only [Bool.false_eq_true, if_false]
      constructor
      · rintro (⟨hnone, -⟩ | ⟨-, rfl⟩) request'
        · exact absurd hnone id
        · rfl
      · intro hname
        exact if_neg fun heq => hname (.inr ⟨rfl, heq.symm⟩)
    | true =>
      simp only [if_true, valuesOf_insert]
      constructor
      · rintro (⟨-, rfl⟩ | ⟨-, rfl⟩) request'
        · rfl
        · rfl
      · intro hname
        rw [if_neg fun heq => hname (.inr ⟨rfl, heq.symm⟩),
          if_neg fun heq => hname (.inl ⟨trivial, heq.symm⟩)]

theorem appendHeader_eq_append : appendHeader = MultiMap.append Header.name := by
  funext headers header
  exact appendHeader_eq headers header

/-- The headers given on the command line make up a map. -/
theorem grouped_foldl_appendHeader (given : List Header) :
    Grouped Header.name (given.foldl appendHeader []) := by
  rw [appendHeader_eq_append]
  exact MultiMap.grouped_foldl_append given

theorem mem_foldl_appendHeader {given : List Header} {header : Header} :
    header ∈ given.foldl appendHeader [] ↔ header ∈ given := by
  rw [appendHeader_eq_append]
  exact MultiMap.mem_foldl_append

theorem valuesOf_foldl_appendHeader (name : String) (headers request : List Header) :
    valuesOf name (headers.foldl appendHeader request)
      = valuesOf name request ++ valuesOf name headers := by
  induction headers using List.reverseRecOn with
  | nil => exact (List.append_nil _).symm
  | append_singleton headers header ih =>
    rw [List.foldl_concat, valuesOf_append, ih, valuesOf_concat]
    split_ifs <;> simp

section Filled

variable {host : Host} {given fixed : List Header} {checked : Option DataSet}
  {templates : List (String × Template)} {worker : Worker} {vars : List String} {nowMs : ℕ}

theorem fillHeader_of_fixed {header : Header} (h : headerTemplate header.value = none) :
    fillHeader worker vars nowMs header = header := by
  unfold fillHeader
  rw [h]

theorem name_fillHeader (header : Header) :
    (fillHeader worker vars nowMs header).name = header.name := by
  unfold fillHeader
  split <;> rfl

/-- The values of a name, with the headers given as they are. -/
theorem mem_valuesOf_filled {name : String} {value : Bytes} (request : List Header) :
    value ∈ overwritten name request
        ((given.map (fillHeader worker vars nowMs)).foldl appendHeader [])
      ↔ if ∀ header ∈ given, header.name ≠ name then value ∈ valuesOf name request
        else ∃ header ∈ given, header.name = name
          ∧ (fillHeader worker vars nowMs header).value = value := by
  unfold overwritten
  have hnil : valuesOf name ((given.map (fillHeader worker vars nowMs)).foldl appendHeader []) = []
      ↔ ∀ header ∈ given, header.name ≠ name := by
    rw [valuesOf_eq_nil]
    simp only [mem_foldl_appendHeader, List.forall_mem_map, name_fillHeader]
  by_cases hnone : ∀ header ∈ given, header.name ≠ name
  · rw [if_pos (hnil.mpr hnone), if_pos hnone]
  · rw [if_neg (fun h => hnone (hnil.mp h)), if_neg hnone, mem_valuesOf]
    simp only [mem_foldl_appendHeader, List.mem_map, exists_exists_and_eq_and, name_fillHeader]

theorem map_filledHeader_templatesOf (headers : List Header) :
    (templatesOf headers).map (filledHeader worker vars nowMs)
      = (headers.filter fun header => !decide (headerTemplate header.value = none)).map
          (fillHeader worker vars nowMs) := by
  refine map_templatesOf (fun header template htemplate => ?_) headers
  unfold fillHeader
  rw [htemplate]

/-- The values of a name, with the templates added to the request. -/
theorem mem_valuesOf_templated {name : String} {value : Bytes} (request : List Header)
    (hsplit : splitHeaderTemplates host (given.foldl appendHeader []) checked
      = .ok (fixed, templates)) :
    value ∈ overwritten name request fixed
        ++ valuesOf name (templates.map (filledHeader worker vars nowMs))
      ↔ (∀ header ∈ given, header.name = name → headerTemplate header.value ≠ none)
          ∧ value ∈ valuesOf name request
        ∨ ∃ header ∈ given, header.name = name
          ∧ (fillHeader worker vars nowMs header).value = value := by
  obtain ⟨rfl, rfl, -⟩ := splitHeaderTemplates_eq_ok hsplit
  have htemplates : value ∈ valuesOf name ((templatesOf (given.foldl appendHeader [])).map
        (filledHeader worker vars nowMs))
      ↔ ∃ header ∈ given, headerTemplate header.value ≠ none ∧ header.name = name
        ∧ (fillHeader worker vars nowMs header).value = value := by
    rw [map_filledHeader_templatesOf, mem_valuesOf]
    simp only [List.mem_map, List.mem_filter, mem_foldl_appendHeader, Bool.not_eq_true',
      decide_eq_false_iff_not]
    constructor
    · rintro ⟨_, ⟨header, ⟨hmem, htemplate⟩, rfl⟩, hname, h⟩
      exact ⟨header, hmem, htemplate, (name_fillHeader header).symm.trans hname, h⟩
    · rintro ⟨header, hmem, htemplate, hname, h⟩
      exact ⟨_, ⟨header, ⟨hmem, htemplate⟩, rfl⟩, (name_fillHeader header).trans hname, h⟩
  have hnil : valuesOf name ((given.foldl appendHeader []).filter fun header =>
        headerTemplate header.value = none) = []
      ↔ ∀ header ∈ given, header.name = name → headerTemplate header.value ≠ none := by
    rw [valuesOf_eq_nil]
    simp only [List.mem_filter, mem_foldl_appendHeader, decide_eq_true_eq, and_imp]
    exact forall₂_congr fun header _ => ⟨fun h hname htemplate => h htemplate hname,
      fun h htemplate hname => h hname htemplate⟩
  rw [List.mem_append, htemplates]
  unfold overwritten
  -- by whether the name has a fixed value, which takes the place of those of the request
  by_cases hall : ∀ header ∈ given, header.name = name → headerTemplate header.value ≠ none
  · rw [if_pos (hnil.mpr hall), and_iff_right hall]
    refine or_congr_right ?_
    exact ⟨fun ⟨header, hmem, _, h⟩ => ⟨header, hmem, h⟩,
      fun ⟨header, hmem, hname, h⟩ => ⟨header, hmem, hall header hmem hname, hname, h⟩⟩
  · rw [if_neg (fun h => hall (hnil.mp h)), mem_valuesOf]
    simp only [hall, false_and, false_or, List.mem_filter, mem_foldl_appendHeader,
      decide_eq_true_eq]
    constructor
    · rintro (⟨header, ⟨hmem, htemplate⟩, hname, rfl⟩ | ⟨header, hmem, -, hname, h⟩)
      · exact ⟨header, hmem, hname, congrArg Header.value (fillHeader_of_fixed htemplate)⟩
      · exact ⟨header, hmem, hname, h⟩
    · rintro ⟨header, hmem, hname, h⟩
      by_cases htemplate : headerTemplate header.value = none
      · rw [fillHeader_of_fixed htemplate] at h
        exact .inl ⟨header, ⟨hmem, htemplate⟩, hname, h⟩
      · exact .inr ⟨header, hmem, htemplate, hname, h⟩

/-- **A templated header acts like the fixed header it gives,** if and only if
no name that the request has by itself is given by templates alone, unless they
give the values it has: fixed headers take the place of those, and templates are
added to them. -/
theorem templates_act_fixed_iff (htable : ∀ file ∈ checked, file.WellFormed)
    (hsplit : splitItems host checked none ([], [])
      (intoIter none (given.foldl appendHeader [])) = .ok (fixed, templates))
    (hheaders : worker.config.headers = fixed)
    (htemplates : worker.config.headerTemplates = templates) {share : Option (ℕ × ℕ)}
    (hdata : worker.config.data = checked.map fun file => { file with share })
    (hhttp : worker.http.headerValue = headerValue) (request : List Header) :
    (∃ templated filled, finishHandshakeRequest worker vars nowMs request = .ok templated
        ∧ finishHandshakeRequest (withFilled worker vars nowMs given) vars nowMs request
          = .ok filled
        ∧ ∀ name value, value ∈ valuesOf name templated ↔ value ∈ valuesOf name filled)
      ↔ ∀ name, ¬SetsOffer worker name → (∃ header ∈ given, header.name = name) →
          (∀ header ∈ given, header.name = name → headerTemplate header.value ≠ none) →
          ∀ value ∈ valuesOf name request, ∃ header ∈ given, header.name = name
            ∧ (fillHeader worker vars nowMs header).value = value := by
  rw [splitItems_eq (grouped_foldl_appendHeader given)] at hsplit
  have hrender := isSome_headerValue_of_split hsplit htable hdata vars nowMs
  have hgrouped : Grouped Header.name fixed := by
    rw [(splitHeaderTemplates_eq_ok hsplit).1]
    exact (grouped_foldl_appendHeader given).filter _
  -- both requests before the offers
  have htemplated := finishHandshakeRequest_eq hhttp (htemplates ▸ hrender) request
  have hfilled : finishHandshakeRequest (withFilled worker vars nowMs given) vars nowMs request
      = .ok (setOffers worker (extendHeaders request
          ((given.map (fillHeader worker vars nowMs)).foldl appendHeader []))) :=
    @finishHandshakeRequest_eq (withFilled worker vars nowMs given) vars nowMs hhttp
      (fun _ hmem => absurd hmem List.not_mem_nil) request
  rw [hheaders, htemplates] at htemplated
  have hleft (name : String) (value : Bytes) :
      value ∈ valuesOf name ((templates.map (filledHeader worker vars nowMs)).foldl appendHeader
          (extendHeaders request fixed))
        ↔ (∀ header ∈ given, header.name = name → headerTemplate header.value ≠ none)
            ∧ value ∈ valuesOf name request
          ∨ ∃ header ∈ given, header.name = name
            ∧ (fillHeader worker vars nowMs header).value = value := by
    rw [valuesOf_foldl_appendHeader, valuesOf_extendHeaders name request hgrouped]
    exact mem_valuesOf_templated request hsplit
  have hright (name : String) (value : Bytes) :
      value ∈ valuesOf name (extendHeaders request
          ((given.map (fillHeader worker vars nowMs)).foldl appendHeader []))
        ↔ if ∀ header ∈ given, header.name ≠ name then value ∈ valuesOf name request
          else ∃ header ∈ given, header.name = name
            ∧ (fillHeader worker vars nowMs header).value = value := by
    rw [valuesOf_extendHeaders name request (grouped_foldl_appendHeader _)]
    exact mem_valuesOf_filled request
  constructor
  · rintro ⟨templated, filled, htemplated', hfilled', hsame⟩ name hoffer ⟨header, hmem, hname⟩ hall
      value hvalue
    cases htemplated.symm.trans htemplated'
    cases hfilled.symm.trans hfilled'
    have hvalues := hsame name value
    rw [(valuesOf_setOffers _).2 hoffer, (valuesOf_setOffers _).2 hoffer, hleft, hright,
      if_neg fun hnone => hnone header hmem hname] at hvalues
    exact hvalues.mp (.inl ⟨hall, hvalue⟩)
  · intro hcond
    refine ⟨_, _, htemplated, hfilled, fun name value => ?_⟩
    by_cases hoffer : SetsOffer worker name
    · rw [(valuesOf_setOffers _).1 hoffer]
    · rw [(valuesOf_setOffers _).2 hoffer, (valuesOf_setOffers _).2 hoffer, hleft, hright]
      split_ifs with hnone
      · constructor
        · rintro (⟨-, hvalue⟩ | ⟨header, hmem, hname, -⟩)
          · exact hvalue
          · exact absurd hname (hnone header hmem)
        · exact fun hvalue =>
            .inl ⟨fun header hmem hname => absurd hname (hnone header hmem), hvalue⟩
      · push Not at hnone
        refine ⟨?_, .inr⟩
        rintro (⟨hall, hvalue⟩ | hgiven)
        · exact hcond name hoffer hnone hall value hvalue
        · exact hgiven

end Filled

/-- What the library fills in itself. -/
def libraryRequest : List Header :=
  [⟨"host", textBytes "localhost:9001"⟩, ⟨"connection", textBytes "Upgrade"⟩,
    ⟨"upgrade", textBytes "websocket"⟩, ⟨"sec-websocket-version", textBytes "13"⟩]

/-- A worker with the headers of a split. -/
def headerWorker (fixed : List Header) (templates : List (String × Template)) : Worker where
  serde := plainHost.serde
  codec := { toText := fun _ => none, fromText := fun _ => none }
  http :=
    { intoClientRequest := fun _ => some libraryRequest
      headerValue := headerValue
      authQuery := fun url _ => url }
  config := { LoadTestConfig.defaults "ws://localhost:9001/" with
    headers := fixed
    headerTemplates := templates }
  workerId := 3
  scenario := none

/-- `-H 'X-User: u-{{worker_id}}'`. -/
def userGiven : List Header := [⟨"x-user", textBytes "u-\x7b\x7bworker_id\x7d\x7d"⟩]

theorem templates_act_fixed_user :
    ∃ templated filled,
      finishHandshakeRequest
          (headerWorker [] [("x-user", .parse "u-\x7b\x7bworker_id\x7d\x7d")]) [] 0 libraryRequest
        = .ok templated
      ∧ finishHandshakeRequest
          (withFilled (headerWorker [] [("x-user", .parse "u-\x7b\x7bworker_id\x7d\x7d")]) [] 0
            userGiven) [] 0 libraryRequest = .ok filled
      ∧ ∀ name value, value ∈ valuesOf name templated ↔ value ∈ valuesOf name filled := by
  have hsplit : splitItems plainHost none none ([], [])
      (intoIter none (userGiven.foldl appendHeader []))
      = .ok ([], [("x-user", .parse "u-\x7b\x7bworker_id\x7d\x7d")]) := by decide +kernel
  have hdata : (none : Option DataSet)
      = (none : Option DataSet).map fun file => { file with share := none } := rfl
  refine (templates_act_fixed_iff (by simp) hsplit rfl rfl hdata rfl _).mpr ?_
  rintro name - ⟨header, hmem, rfl⟩ - value hvalue
  cases List.mem_singleton.mp hmem
  have hnone : valuesOf "x-user" libraryRequest = [] := by decide +kernel
  rw [hnone] at hvalue
  cases hvalue

/-- `-H 'Host: node-{{worker_id}}.example.com'`. -/
def hostGiven : List Header :=
  [⟨"host", textBytes "node-\x7b\x7bworker_id\x7d\x7d.example.com"⟩]

/-- A templated `Host` is added to the one the library fills in, and a fixed one
takes its place. -/
theorem templated_host_added :
    splitItems plainHost none none ([], []) (intoIter none (hostGiven.foldl appendHeader []))
        = .ok ([], [("host", .parse "node-\x7b\x7bworker_id\x7d\x7d.example.com")])
      ∧ (finishHandshakeRequest
          (headerWorker [] [("host", .parse "node-\x7b\x7bworker_id\x7d\x7d.example.com")]) [] 0
          libraryRequest).map (valuesOf "host")
        = .ok [textBytes "localhost:9001", textBytes "node-3.example.com"]
      ∧ (finishHandshakeRequest
          (withFilled
            (headerWorker [] [("host", .parse "node-\x7b\x7bworker_id\x7d\x7d.example.com")]) [] 0
            hostGiven) [] 0 libraryRequest).map (valuesOf "host")
        = .ok [textBytes "node-3.example.com"] := by
  decide +kernel

end WsBlast
