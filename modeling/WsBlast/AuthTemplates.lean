import WsBlast.JsonReader
import WsBlast.JsonTexts
import WsBlast.TemplateRows

/-!
# The auth object of a connection

`checkAuth` fills the auth template in once for each row of the data file, with
the number of the row as the worker and the time of the check. A connection
fills it in with its own number and a later time, so the text has other numbers
in the places of `{{worker_id}}` and `{{timestamp}}` (`symbols_of_checked`). It
is a JSON object as before, unless it is broken at one of these places
(`auth_object_iff`).

A Socket.IO client may send an auth object when it connects, as JSON, with
placeholders in it. The settings check before the run that every connection will
send an object, and do so with each row of the data file, because a value from a
column may contain anything.
-/

namespace WsBlast

open JsonTokens

/-! ## The places of the numbers

A template is a list of symbols, each a character or a place for one of the two
numbers; columns and other numbers are filled in. -/

/-- The numbers that are not those of the check. -/
inductive ConnectionNumber where
  | workerId
  | timestamp
  deriving DecidableEq, Repr

/-- What stands in the places. -/
def ConnectionNumber.value (values : Values) : ConnectionNumber → ℕ
  | .workerId => values.workerId
  | .timestamp => values.nowMs

/-- A part with all but the numbers of the connection filled in. -/
def Part.symbols (values : Values) : Part → List (Symbol ConnectionNumber)
  | .workerId => [.number .workerId]
  | .timestamp => [.number .timestamp]
  | part => (part.render values).toList.map .char

/-- A template with all but the numbers of the connection filled in. -/
def Template.symbols (template : Template) (values : Values) : List (Symbol ConnectionNumber) :=
  template.parts.flatMap (Part.symbols values)

theorem Part.toList_render (values : Values) (part : Part) :
    (part.render values).toList
      = (part.symbols values).flatMap (Symbol.fill (ConnectionNumber.value values)) := by
  have hchars (chars : List Char) :
      (chars.map Symbol.char).flatMap (Symbol.fill (ConnectionNumber.value values)) = chars := by
    rw [List.flatMap_map]
    exact List.flatMap_singleton' chars
  have hnumber (n : ℕ) : (toString n).toList = Nat.toDigits 10 n := Nat.toList_repr
  cases part with
  | workerId => exact (hnumber _).trans (List.append_nil _).symm
  | timestamp => exact (hnumber _).trans (List.append_nil _).symm
  | _ => exact (hchars _).symm

/-- **What a template is filled in to** is its symbols with the numbers in
them. -/
theorem Template.toList_render (template : Template) (values : Values) :
    (template.render values).toList
      = (template.symbols values).flatMap (Symbol.fill (ConnectionNumber.value values)) := by
  unfold Template.render Template.symbols
  rw [List.flatMap_assoc]
  induction template.parts with
  | nil => rfl
  | cons part parts ih =>
    rw [List.map_cons, String.join_cons, String.toList_append, ih, Part.toList_render]
    rfl

/-- The places are the same for the connection and for the row it was checked
with. -/
theorem symbols_of_checked {host : Host} {source : String} {checked : Option DataSet}
    {config : LoadTestConfig} (hcolumns : (Template.parse source).checkData checked = .ok ())
    (hdata : ReadsTable checked config.data) (htable : ∀ file ∈ config.data, file.rows ≠ [])
    (workerId : ℕ) (vars : List String) (nowMs : ℕ) :
    ∃ row, row < rowCount checked ∧ (Template.parse source).symbols (rowValues host checked row)
      = (Template.parse source).symbols (templateValues config workerId vars 0 nowMs) := by
  obtain ⟨row, hrow, hsame⟩ :=
    @Template.exists_row_columns host _ _ _ hcolumns hdata htable workerId vars 0 nowMs
  refine ⟨row, hrow, List.flatMap_congr fun part hpart => ?_⟩
  cases part with
  | data column =>
    exact congrArg (fun text : String => text.toList.map Symbol.char) (hsame column hpart)
  | var index => exact absurd rfl (Template.ne_var_of_mem_partsFrom hpart index)
  | _ => rfl

/-! ## The object

From the check before the run to the object of a connection. -/

/-- What a library reads as an object is an object in the grammar of JSON whose
numbers it holds. -/
def Serde.ReadsObjects (serde : Serde) (numberText : NumberParts → Option String) : Prop :=
  ∀ text, isJsonObject serde text = (Json.read numberText text.toList).any Json.isObject

/-- The auth of the connection whose templates `values` fill. -/
def SocketIoConfig.authFor (sio : SocketIoConfig) (values : Values) : Option String :=
  sio.auth.map (·.render values)

/-- What a template that is not dynamic is was checked with the settings. -/
theorem isJsonObject_of_static {serde : Serde} {sio : SocketIoConfig}
    (hsio : sio.validate serde = .ok ()) {source : String}
    (hauth : sio.auth = some (.parse source))
    (hstatic : (Template.parse source).isDynamic = false) : isJsonObject serde source = true := by
  unfold SocketIoConfig.validate at hsio
  simp only [Checked.check_bind_eq_ok, Checked.reject_eq_ok] at hsio
  have hobject : isJsonObject serde (Template.parse source).source = true := by
    simpa [hauth, hstatic] using hsio.2.2.2
  exact hobject

section Auth

variable {host : Host} {numberText : NumberParts → Option String} {sio : SocketIoConfig}
  {source : String} {checked : Option DataSet} {config : LoadTestConfig}

/-- The auth was an object with the numbers of the check. -/
theorem exists_checked_object (hserde : host.serde.ReadsObjects numberText)
    (hsio : sio.validate host.serde = .ok ()) (hauth : sio.auth = some (.parse source))
    (hcheck : checkAuth host (.parse source) checked = .ok ())
    (hdata : ReadsTable checked config.data) (htable : ∀ file ∈ config.data, file.rows ≠ [])
    (workerId nowMs : ℕ) (vars : List String) :
    ∃ value, (Json.read numberText
      (((Template.parse source).symbols (templateValues config workerId vars 0 nowMs)).flatMap
        (Symbol.fill value))).any Json.isObject = true := by
  by_cases hstatic : (Template.parse source).isDynamic = false
  · refine ⟨ConnectionNumber.value (templateValues config workerId vars 0 nowMs), ?_⟩
    rw [← Template.toList_render, Template.render_parse_of_static hstatic, ← hserde]
    exact isJsonObject_of_static hsio hauth hstatic
  · unfold checkAuth at hcheck
    rw [if_neg hstatic] at hcheck
    obtain ⟨hcolumns, hrows⟩ := Checked.check_bind_eq_ok.mp hcheck
    rw [Checked.mapError_eq_ok] at hcolumns
    obtain ⟨row, hrow, hsymbols⟩ :=
      @symbols_of_checked host _ _ _ hcolumns hdata htable workerId vars nowMs
    have hobject := Checked.forM_eq_ok.mp hrows row (List.mem_range.mpr hrow)
    rw [Checked.reject_eq_ok, Bool.not_eq_false, hserde, Template.toList_render, hsymbols]
      at hobject
    exact ⟨_, hobject⟩

/-- **The auth object of a connection.** With a template that was accepted, the
auth of a connection is a JSON object if and only if every number that the
connection's number or the time is part of is a number with it, and every
string with an escape that one of them is part of is a string with it. -/
theorem auth_object_iff (hserde : host.serde.ReadsObjects numberText)
    (hsio : sio.validate host.serde = .ok ()) (hauth : sio.auth = some (.parse source))
    (hcheck : checkAuth host (.parse source) checked = .ok ())
    (hdata : ReadsTable checked config.data) (htable : ∀ file ∈ config.data, file.rows ≠ [])
    (workerId nowMs : ℕ) (vars : List String) :
    (∃ text, sio.authFor (templateValues config workerId vars 0 nowMs) = some text
        ∧ isJsonObject host.serde text = true)
      ↔ ∀ token ∈ Json.tokensOf
            ((Template.parse source).symbols (templateValues config workerId vars 0 nowMs)),
          Json.exposed token = true →
            (Json.lexeme numberText (token.fill
              (ConnectionNumber.value (templateValues config workerId vars 0 nowMs)))).isSome
              = true := by
  obtain ⟨value, hobject⟩ :=
    exists_checked_object hserde hsio hauth hcheck hdata htable workerId nowMs vars
  rw [← Json.isObject_read_fill_iff hobject, ← Template.toList_render, ← hserde]
  unfold SocketIoConfig.authFor
  rw [hauth, Option.map_some]
  constructor
  · rintro ⟨_, ⟨⟩, htext⟩
    exact htext
  · exact fun htext => ⟨_, rfl, htext⟩

end Auth

/-- A number as it was written, unless a float of 64 bits cannot hold it. -/
def writtenNumber (parts : NumberParts) : Option String :=
  let digits := JsonTokens.digitsValue (parts.whole ++ parts.fraction)
  let exponent := parts.exponent.getD 0 - parts.fraction.length
  if digits * 10 ^ exponent.toNat < (2 ^ 1024 - 2 ^ 970) * 10 ^ (-exponent).toNat then
    some ((if parts.negative then "-" else "") ++ String.ofList parts.whole
      ++ (if parts.fraction = [] then "" else "." ++ String.ofList parts.fraction)
      ++ (match parts.exponent with
        | some exponent => "e" ++ toString exponent
        | none => ""))
  else none

/-- A machine with a JSON library. -/
def readerHost : Host :=
  { plainHost with
    serde :=
      { fromStr := fun text => Json.read writtenNumber text.toList
        toText := fun value => String.ofList value.compact } }

/-- Settings with an auth template. -/
def authSettings (source : String) : SocketIoConfig where
  «namespace» := "/"
  event := "message"
  auth := some (.parse source)
  engine := .v4

/-- A run without a data file. -/
def authRun : LoadTestConfig := LoadTestConfig.defaults "ws://localhost:9001/"

theorem auth_object_number :
    ∃ text, (authSettings "\x7b\"id\":\x7b\x7bworker_id\x7d\x7d\x7d").authFor
        (templateValues authRun 12 [] 0 5) = some text
      ∧ isJsonObject readerHost.serde text = true := by
  have hserde : readerHost.serde.ReadsObjects writtenNumber := fun _ => rfl
  have hsio : (authSettings "\x7b\"id\":\x7b\x7bworker_id\x7d\x7d\x7d").validate
      readerHost.serde = .ok () := by decide +kernel
  have hcheck : checkAuth readerHost
      (.parse "\x7b\"id\":\x7b\x7bworker_id\x7d\x7d\x7d") none = .ok () := by decide +kernel
  have htable : ∀ file ∈ authRun.data, file.rows ≠ [] := by
    rintro file ⟨⟩
  exact (auth_object_iff hserde hsio rfl hcheck (.inl rfl) htable 12 5 []).mpr (by decide +kernel)

/-- The number of a connection as an exponent: one is checked with the first row
and another one is too large. -/
theorem large_exponent_refused :
    (authSettings "\x7b\"n\":1e\x7b\x7bworker_id\x7d\x7d\x7d").validate readerHost.serde
        = .ok ()
      ∧ checkAuth readerHost (.parse "\x7b\"n\":1e\x7b\x7bworker_id\x7d\x7d\x7d") none = .ok ()
      ∧ (authSettings "\x7b\"n\":1e\x7b\x7bworker_id\x7d\x7d\x7d").authFor
          (templateValues authRun 309 [] 0 0) = some "\x7b\"n\":1e309\x7d"
      ∧ isJsonObject readerHost.serde "\x7b\"n\":1e309\x7d" = false := by
  decide +kernel

end WsBlast
