import WsBlast.DeflateAgreement

/-!
# Fallback offers

A client lists the extensions it would take in order of preference, in one
header or in several. Of each header the server reads the first well-formed
`permessage-deflate` and judges that one (`acceptOffer_eq_some`): an
acceptable one behind it is not looked at. `honoursFallbacks_iff` says when
this makes a difference.

RFC 7692 lets a client offer `permessage-deflate` several times, with the
parameters it likes best first, and a server take any of them. The answer of
the mock server is made for each header value on its own, from the one element
that `Params.parse` finds in it, and the first value with an answer wins. So
several headers do serve as fallbacks, and several elements of one header do
not.
-/

namespace WsBlast

/-! ## Elements and answers -/

/-- A header value as characters, one a byte. -/
def valueText (value : Bytes) : String := String.ofList (value.map fun b => Char.ofNat b.toNat)

/-- A header value that is read as text is its characters. -/
theorem headerText_eq_some {value : Bytes} {text : String} (h : headerText value = some text) :
    text = valueText value := by
  unfold headerText at h
  split_ifs at h
  exact (Option.some.inj h).symm

/-- The answer to the `Sec-WebSocket-Extensions` values of a request; none
declines. -/
def answerTo (values : List Bytes) : Option String :=
  (values.filterMap headerText).findSome? acceptOffer

/-- The elements of a header value. -/
def elements (value : Bytes) : List String := splitText ',' (valueText value)

/-- An element the server can agree to: a well-formed `permessage-deflate`
that asks for no smaller window. -/
def Agreeable (element : String) (params : Params) : Prop :=
  Params.parseExtension element = some params ∧ Params.fullWindow params.serverMaxWindowBits = true

/-- The answer that fits the parameters of an element. -/
def Params.answer (params : Params) : String :=
  if params.serverNoContextTakeover then offer ++ "; server_no_context_takeover" else offer

/-- An answer agrees to a context takeover exactly when the element did not
ask otherwise, and to nothing else. -/
theorem Params.parse_answer (params : Params) :
    Params.parse params.answer
      = some { serverNoContextTakeover := params.serverNoContextTakeover } := by
  unfold answer
  cases params.serverNoContextTakeover <;> decide +kernel

/-- **Of a header value the first well-formed element is judged.** -/
theorem acceptOffer_eq_some {value answer : String} :
    acceptOffer value = some answer ↔
      ∃ params, (splitText ',' value).findSome? Params.parseExtension = some params ∧
        Params.fullWindow params.serverMaxWindowBits = true ∧ answer = params.answer := by
  unfold acceptOffer
  rw [Option.bind_eq_some_iff]
  refine exists_congr fun params => and_congr_right fun _ => ?_
  by_cases hfull : Params.fullWindow params.serverMaxWindowBits = true
  · rw [if_pos hfull, Option.some_inj]
    exact ⟨fun h => ⟨hfull, h.symm⟩, fun h => h.2.symm⟩
  · rw [if_neg hfull]
    exact iff_of_false (by simp) (fun h => hfull h.1)

/-! ## When the server answers

The loop over the values, and the scan of one value, each put as a condition. -/

/-- The first well-formed element of a value can be agreed to. -/
def FirstAgreeable (value : Bytes) : Prop :=
  ∃ params, (elements value).findSome? Params.parseExtension = some params ∧
    Params.fullWindow params.serverMaxWindowBits = true

theorem answerTo_eq_some {values : List Bytes} {answer : String}
    (h : answerTo values = some answer) :
    ∃ value ∈ values, (headerText value).isSome ∧
      ∃ params, (elements value).findSome? Params.parseExtension = some params ∧
        Params.fullWindow params.serverMaxWindowBits = true ∧ answer = params.answer := by
  obtain ⟨text, htext, haccept⟩ := List.exists_of_findSome?_eq_some h
  obtain ⟨value, hvalue, hread⟩ := List.mem_filterMap.mp htext
  rw [headerText_eq_some hread] at haccept
  exact ⟨value, hvalue, Option.isSome_of_eq_some hread, acceptOffer_eq_some.mp haccept⟩

/-- **When the server answers**: the first well-formed element of a readable
value can be agreed to. -/
theorem isSome_answerTo (values : List Bytes) :
    (answerTo values).isSome ↔
      ∃ value ∈ values, (headerText value).isSome ∧ FirstAgreeable value := by
  constructor
  · intro h
    obtain ⟨answer, hanswer⟩ := Option.isSome_iff_exists.mp h
    obtain ⟨value, hvalue, hread, params, hfirst, hfull, -⟩ := answerTo_eq_some hanswer
    exact ⟨value, hvalue, hread, params, hfirst, hfull⟩
  · rintro ⟨value, hvalue, hread, params, hfirst, hfull⟩
    obtain ⟨text, htext⟩ := Option.isSome_iff_exists.mp hread
    rw [headerText_eq_some htext] at htext
    have haccept : acceptOffer (valueText value) = some params.answer :=
      acceptOffer_eq_some.mpr ⟨params, hfirst, hfull, rfl⟩
    have hmem : valueText value ∈ values.filterMap headerText :=
      List.mem_filterMap.mpr ⟨value, hvalue, htext⟩
    exact List.findSome?_isSome_iff.mpr ⟨_, hmem, by rw [haccept]; rfl⟩

/-- An element the server agrees to is one of its value. -/
theorem exists_agreeable {value : Bytes} {params : Params}
    (hfirst : (elements value).findSome? Params.parseExtension = some params)
    (hfull : Params.fullWindow params.serverMaxWindowBits = true) :
    ∃ element ∈ elements value, Agreeable element params := by
  obtain ⟨element, helement, hparse⟩ := List.exists_of_findSome?_eq_some hfirst
  exact ⟨element, helement, hparse, hfull⟩

/-- The server declines only when no element can be agreed to, and what it
answers fits an element that was offered. -/
structure HonoursFallbacks (values : List Bytes) (response : List HttpHeader) : Prop where
  declines : answerTo values = none → ∀ value ∈ values, ∀ element ∈ elements value,
    ∀ params, ¬ Agreeable element params
  unanswered : answerTo values = none →
    answerCompression (values.filterMap headerText) response = response
  answers : ∀ answer, answerTo values = some answer →
    answerCompression (values.filterMap headerText) response
        = replaceHeader response ⟨"sec-websocket-extensions", answer⟩ ∧
      ∃ value ∈ values, ∃ element ∈ elements value, ∃ params, Agreeable element params ∧
        Params.parse answer
          = some { serverNoContextTakeover := params.serverNoContextTakeover }

/-- **When fallback offers are honoured**: when an element can be agreed to,
the first well-formed one of some readable header value can. -/
theorem honoursFallbacks_iff (values : List Bytes) (response : List HttpHeader) :
    HonoursFallbacks values response ↔
      ((∃ value ∈ values, ∃ element ∈ elements value, ∃ params, Agreeable element params) →
        ∃ value ∈ values, (headerText value).isSome ∧ FirstAgreeable value) := by
  constructor
  · rintro ⟨hdeclines, -, -⟩ ⟨value, hvalue, element, helement, params, hagreeable⟩
    rw [← isSome_answerTo, Option.isSome_iff_ne_none]
    exact fun hnone => hdeclines hnone value hvalue element helement params hagreeable
  · intro h
    refine ⟨fun hnone value hvalue element helement params hagreeable => ?_, fun hnone => ?_,
      fun answer hanswer => ⟨?_, ?_⟩⟩
    · have hsome := (isSome_answerTo values).mpr
        (h ⟨value, hvalue, element, helement, params, hagreeable⟩)
      rw [hnone] at hsome
      cases hsome
    · unfold answerTo at hnone
      unfold answerCompression
      rw [hnone]
    · unfold answerTo at hanswer
      unfold answerCompression
      rw [hanswer]
    · obtain ⟨value, hvalue, -, params, hfirst, hfull, rfl⟩ := answerTo_eq_some hanswer
      obtain ⟨element, helement, hagreeable⟩ := exists_agreeable hfirst hfull
      exact ⟨value, hvalue, element, helement, params, hagreeable, params.parse_answer⟩

/-- A list that begins with a smaller window and falls back to the full
one. -/
def fallbackOffer : Bytes :=
  "permessage-deflate; server_max_window_bits=10, permessage-deflate".toUTF8.data.toList

/-- The server declines it. -/
theorem fallbackOffer_declined :
    answerTo [fallbackOffer] = none ∧ " permessage-deflate" ∈ elements fallbackOffer ∧
      Agreeable " permessage-deflate" {} ∧ ¬ HonoursFallbacks [fallbackOffer] [] := by
  have hnone : answerTo [fallbackOffer] = none := by decide +kernel
  have hmem : " permessage-deflate" ∈ elements fallbackOffer := by decide +kernel
  have hagreeable : Agreeable " permessage-deflate" {} := ⟨by decide +kernel, by decide⟩
  refine ⟨hnone, hmem, hagreeable, fun h => ?_⟩
  exact h.declines hnone fallbackOffer List.mem_cons_self _ hmem {} hagreeable

end WsBlast
