import WsBlast.SocketIoTalk

/-!
# The client and the mock agree

The reply to a payload is what the mock reads of the event. That is the
payload's own value (`client_mock_agree`), as long as the event around it does
not nest too deep for the JSON library (`deep_payload_unanswered`).

What a JSON library reads is bounded in depth, and the bound is on the text: a
reader that recurses counts the brackets it has met and not closed. An event
wraps its argument in one array, so a payload at the limit is read on its own
and not inside its event.
-/

namespace WsBlast

open Proc (Checker)

/-! ## How deep a text nests

A scan over the characters that knows strings and escapes. -/

/-- Where a scan of a JSON text is: between its strings, or in one. -/
inductive ScanPlace where
  | between
  | string
  /-- In a string, behind a backslash. -/
  | escaped

/-- How many arrays and objects are open at most, in the rest of a text in which
`depth` of them are open. A JSON library counts the brackets it meets, not the
levels of the value it builds: what a field says is read before a later field of
the name takes its place. -/
def deepest : ScanPlace → ℕ → List Char → ℕ
  | _, depth, [] => depth
  | .between, depth, c :: rest =>
    if c = '[' ∨ c = '\x7b' then deepest .between (depth + 1) rest
    else if c = ']' ∨ c = '\x7d' then max depth (deepest .between (depth - 1) rest)
    else if c = '"' then deepest .string depth rest
    else deepest .between depth rest
  | .string, depth, c :: rest =>
    if c = '\\' then deepest .escaped depth rest
    else if c = '"' then deepest .between depth rest
    else deepest .string depth rest
  | .escaped, depth, _ :: rest => deepest .string depth rest

/-- How deep the arrays and objects of a JSON text nest. -/
def nesting (text : String) : ℕ := deepest .between 0 text.toList

example : nesting "[\"[\", \x7b\"a\": [1]\x7d]" = 3 := by decide

theorem le_deepest (place : ScanPlace) (depth : ℕ) (text : List Char) :
    depth ≤ deepest place depth text := by
  fun_induction deepest place depth text with
  | case1 => exact le_rfl
  | case2 depth c rest hopen ih => exact (Nat.le_succ depth).trans ih
  | case3 => exact le_max_left _ _
  | case4 | case5 | case6 | case7 | case8 | case9 => assumption

/-- What a text nests is not undone by what follows it. -/
theorem deepest_le_append (place : ScanPlace) (depth : ℕ) (text rest : List Char) :
    deepest place depth text ≤ deepest place depth (text ++ rest) := by
  fun_induction deepest place depth text with
  | case1 => exact le_deepest _ _ _
  | case2 depth c text hopen ih => simpa [deepest, hopen] using ih
  | case3 depth c text hopen hclose ih =>
    have hkept := max_le_max_left depth ih
    simpa only [List.cons_append, deepest, if_neg hopen, if_pos hclose] using hkept
  | case4 depth text hopen hclose ih => simpa [deepest] using ih
  | case5 depth c text hopen hclose hquote ih => simpa [deepest, hopen, hclose, hquote] using ih
  | case6 depth text ih => simpa [deepest] using ih
  | case7 depth text hback ih => simpa [deepest] using ih
  | case8 depth c text hback hquote ih => simpa [deepest, hback, hquote] using ih
  | case9 depth c text ih => simpa [deepest] using ih

/-! ## JSON texts

What is asked of the library, for one event name. -/

/-- What a JSON library reads, up to 127 levels of nesting. -/
structure Serde.EventTexts (serde : Serde) (event : String) : Prop where
  /-- The text of an event is its name and its argument, be it any JSON text
  that leaves room for one level more ... -/
  argument : ∀ text value, serde.fromStr text = some value → nesting text ≤ 126 →
    serde.fromStr ("[" ++ serde.toText (.string event) ++ "," ++ text ++ "]")
      = some (.array [.string event, value])
  /-- ... or the text of a string. -/
  string : ∀ text, serde.fromStr ("[" ++ serde.toText (.string event) ++ ","
    ++ serde.toText (.string text) ++ "]") = some (.array [.string event, .string text])
  /-- The placeholder is an object, which comes back from its text. -/
  placeholder : ∃ value, serde.fromStr placeholder = some value ∧
    serde.fromStr (serde.toText (.array [value])) = some (.array [value]) ∧
    serde.fromStr ("[" ++ WsBlast.placeholder ++ "]") = some (.array [value])

theorem Serde.EventTexts.placeholderTexts {serde : Serde} {event : String}
    (h : serde.EventTexts event) : ∃ value, serde.PlaceholderTexts event value := by
  obtain ⟨value, hread, harguments, honly⟩ := h.placeholder
  exact ⟨value, h.argument _ value hread (by decide), harguments, honly⟩

section Talk

variable {serde : Serde} {sio : SocketIoConfig} {sid : String}

/-! ## What the replies say

From `SocketIoTalk`, which has the replies as the mock's reading of the events,
to the values of the payloads. -/

variable (serde)

/-- The JSON value of a payload, or the payload as a string when it is not
JSON. -/
def payloadValue (text : String) : Option Json :=
  if serde.isJson text then serde.fromStr text else some (.string text)

/-- The reply to a payload: the same bytes, or the array of its value. -/
def Echoes : Message → Message → Prop
  | .text text, reply =>
    ∃ value ∈ payloadValue serde text, reply = .text (serde.toText (.array [value]))
  | payload, reply => reply = payload

/-- A payload that nests one level less than what is read, for the event's
array around it. A text that is not JSON is sent as a string, which nests
nothing. -/
def Shallow : Message → Prop
  | .text text => (payloadValue serde text).isSome ∧ (serde.isJson text → nesting text ≤ 126)
  | _ => True

/-- The pump waits for no more frames until every payload has its reply, and
passes on the reply to the last one. -/
def Conversation.Agrees (s : Conversation) : PumpEvent → Prop
  | ⟨.select, _⟩ => s.inbox = [] → List.Forall₂ (Echoes serde) s.payloads s.replies
  | ⟨.deliver item, _⟩ => ∃ earlier payload reply, s.payloads = earlier ++ [payload] ∧
    List.Forall₂ (Echoes serde) earlier s.replies ∧ item = .ok reply ∧ Echoes serde payload reply
  | _ => True

variable {serde}

/-- A payload is answered with its value. -/
theorem echoes_replyTo (htexts : serde.EventTexts sio.event) {payload : Message}
    (h : Shallow serde payload) : Echoes serde payload (replyTo serde sio payload) := by
  cases payload with
  | text text =>
    obtain ⟨hsome, hnesting⟩ := h
    obtain ⟨value, hvalue⟩ := Option.isSome_iff_exists.mp hsome
    refine ⟨value, hvalue, congrArg Message.text ?_⟩
    show WsBlast.eventArguments serde ("[" ++ serde.toText (.string sio.event) ++ ","
      ++ (if serde.isJson text then text else serde.toText (.string text)) ++ "]") = _
    unfold payloadValue at hvalue
    unfold WsBlast.eventArguments
    split at hvalue
    · rename_i hjson
      rw [if_pos hjson, htexts.argument text value hvalue (hnesting hjson)]
    · rename_i hjson
      obtain rfl := Option.some.inj hvalue
      rw [if_neg hjson, htexts.string text]
  | _ => rfl

theorem forall₂_echoes (htexts : serde.EventTexts sio.event) {payloads : List Message}
    (h : ∀ payload ∈ payloads, Shallow serde payload) :
    List.Forall₂ (Echoes serde) payloads (payloads.map (replyTo serde sio)) :=
  List.forall₂_map_right_iff.mpr
    (List.forall₂_same.mpr fun payload hpayload => echoes_replyTo htexts (h payload hpayload))

theorem Conversation.Fine.agrees (htexts : serde.EventTexts sio.event) {s : Conversation}
    {event : PumpEvent} (h : s.Fine serde sio event)
    (hshallow : ∀ payload ∈ s.payloads, Shallow serde payload) : s.Agrees serde event := by
  obtain ⟨e, answer⟩ := event
  cases e with
  | select =>
    intro hempty
    rw [h hempty]
    exact forall₂_echoes htexts hshallow
  | deliver item =>
    obtain ⟨earlier, payload, hpayloads, hreplied, hitem⟩ := h
    rw [hpayloads] at hshallow
    refine ⟨earlier, payload, _, hpayloads, ?_, hitem, echoes_replyTo htexts (hshallow payload ?_)⟩
    · rw [hreplied]
      exact forall₂_echoes htexts fun m hm => hshallow m (List.mem_append_left _ hm)
    · exact List.mem_append_right _ (List.mem_singleton_self payload)
  | _ => trivial

end Talk

/-- **The client and the mock agree.** The mock's answers to what the pump
writes come back as one reply for each payload, the same bytes for a binary
one and the array of its JSON value for a text, and none of them is
unsolicited. -/
theorem client_mock_agree {serde : Serde} {sio : SocketIoConfig}
    (hvalid : sio.validate serde = .ok ()) (hserde : serde.JsonTexts)
    (htexts : serde.EventTexts sio.event) (sid : String) (pingEvery : Option Duration)
    {trace : List PumpEvent} {result : Option ℕ}
    (hrun : Proc.Runs (pump serde sio pingEvery) trace result)
    (haccepts : (talk serde sio sid).Accepts (.opened sio) trace) :
    (∀ before event rest, trace = before ++ event :: rest →
      (∀ payload ∈ ((talk serde sio sid).after (.opened sio) before).payloads,
        Shallow serde payload) →
      ((talk serde sio sid).after (.opened sio) before).Agrees serde event) ∧
    ∀ unsolicited ∈ result, unsolicited = 0 ∧
      ((∀ payload ∈ ((talk serde sio sid).after (.opened sio) trace).payloads,
        Shallow serde payload) →
      List.Forall₂ (Echoes serde) ((talk serde sio sid).after (.opened sio) trace).payloads
        ((talk serde sio sid).after (.opened sio) trace).replies) := by
  obtain ⟨value, hplaceholder⟩ := htexts.placeholderTexts
  have hstart : Talking serde sio {} (Conversation.opened sio) :=
    ⟨⟨rfl, rfl, Nat.zero_le _, rfl⟩,
      .rests rfl (fun _ hnone => absurd hnone List.not_mem_nil) rfl⟩
  obtain ⟨hfine, hended⟩ := Checker.sound
    (holds_pump (named_of_validate hvalid) hserde hplaceholder pingEvery) hstart hrun haccepts
  refine ⟨fun before event rest htrace hshallow => ?_, fun unsolicited hresult => ?_⟩
  · exact Conversation.Fine.agrees htexts (hfine before event rest htrace) hshallow
  · obtain ⟨hzero, hreplied⟩ := hended unsolicited hresult
    refine ⟨hzero, fun hshallow => ?_⟩
    rw [hreplied]
    exact forall₂_echoes htexts hshallow

/-! ## JSON of nested arrays -/

/-- What stands between a front and a last character. -/
def inside (front : List Char) (last : Char) (text : List Char) : Option (List Char) :=
  let rest := text.drop front.length
  if front <+: text ∧ rest.getLast? = some last then some rest.dropLast else none

theorem inside_append (front : List Char) (last : Char) (inner : List Char) :
    inside front last (front ++ inner ++ [last]) = some inner := by
  have hrest : (front ++ inner ++ [last]).drop front.length = inner ++ [last] := by
    rw [List.append_assoc, List.drop_left]
  unfold inside
  dsimp only
  rw [hrest, if_pos ?_, List.dropLast_concat]
  exact ⟨⟨inner ++ [last], (List.append_assoc _ _ _).symm⟩, List.getLast?_concat⟩

theorem inside_eq_none {c d last : Char} {front text : List Char} (htext : text.head? = some d)
    (hne : c ≠ d) : inside (c :: front) last text = none := by
  unfold inside
  refine if_neg ?_
  rintro ⟨⟨rest, rfl⟩, -⟩
  exact hne (Option.some.inj htext)

/-- The placeholder's value. -/
def placeholderValue : Json := .object [("_placeholder", .bool true), ("num", .number "0")]

/-- A string without escapes. -/
def readString (text : List Char) : Option Json :=
  (inside ['"'] '"' text).map fun inner => .string (String.ofList inner)

/-- `k` brackets, closed. -/
def brackets (k : ℕ) : List Char := List.replicate k '[' ++ List.replicate k ']'

/-- Their value. -/
def nested : ℕ → Json
  | 0 => .array []
  | k + 1 => .array [nested k]

/-- Nested empty arrays, up to a number of levels. -/
def readBrackets (levels : ℕ) (text : List Char) : Option Json :=
  match (text.takeWhile (· == '[')).length with
  | 0 => none
  | k + 1 => if text = brackets (k + 1) ∧ k < levels then some (nested k) else none

/-- An event of `chat` around what `read` reads, the placeholder alone or in an
array, or brackets. -/
def readLevel (levels : ℕ) (read : List Char → Option Json) (text : List Char) : Option Json :=
  match inside ['[', '"', 'c', 'h', 'a', 't', '"', ','] ']' text with
  | some inner => (read inner).map fun item => .array [.string "chat", item]
  | none =>
    if text = placeholder.toList then some placeholderValue
    else if text = '[' :: placeholder.toList ++ [']'] then some (.array [placeholderValue])
    else readBrackets levels text

/-- Reads strings and such levels. -/
def readNested : ℕ → List Char → Option Json
  | 0, text => readString text
  | levels + 1, text => (readString text).or (readLevel (levels + 1) (readNested levels) text)

/-- The texts of such values. -/
def nestedText : Json → String
  | .string text => "\"" ++ text ++ "\""
  | .array [value] => "[" ++ nestedText value ++ "]"
  | .array _ => "[]"
  | _ => placeholder
termination_by structural value => value

/-- JSON of nested arrays, read up to 127 levels. -/
def nestedSerde : Serde where
  fromStr text := readNested 127 text.toList
  toText := nestedText

theorem eq_of_inside {front inner text : List Char} {last : Char}
    (h : inside front last text = some inner) : text = front ++ inner ++ [last] := by
  obtain ⟨⟨⟨rest, rfl⟩, hlast⟩, hinner⟩ := Option.ite_none_right_eq_some.mp h
  rw [List.drop_left] at hlast hinner
  obtain ⟨before, rfl⟩ := List.getLast?_eq_some_iff.mp hlast
  obtain rfl := Option.some.inj hinner
  rw [List.dropLast_concat, List.append_assoc]

theorem deepest_replicate (depth n : ℕ) (rest : List Char) :
    deepest .between depth (List.replicate n '[' ++ rest) = deepest .between (depth + n) rest := by
  induction n generalizing depth with
  | zero => rfl
  | succ n ih =>
    rw [List.replicate_succ, List.cons_append, ← Nat.succ_add_eq_add_succ, ← ih]
    exact if_pos (.inl rfl)

theorem readBrackets_of_deepest {levels levels' depth : ℕ} {text : List Char} {value : Json}
    (h : readBrackets levels text = some value)
    (hdeep : deepest .between depth text ≤ depth + levels') :
    0 < levels' ∧ readBrackets levels' text = some value := by
  unfold readBrackets at h ⊢
  split at h
  · cases h
  · rename_i k _
    obtain ⟨⟨htext, -⟩, hvalue⟩ := Option.ite_none_right_eq_some.mp h
    have hopen : depth + (k + 1) ≤ deepest .between depth text := by
      rw [htext, brackets, deepest_replicate]
      exact le_deepest _ _ _
    exact ⟨by omega, Option.ite_none_right_eq_some.mpr ⟨⟨htext, by omega⟩, hvalue⟩⟩

theorem readBrackets_ne_object (levels : ℕ) (text : List Char) (fields : List (String × Json)) :
    readBrackets levels text ≠ some (.object fields) := by
  intro h
  unfold readBrackets at h
  split at h
  · cases h
  · rename_i k _
    obtain ⟨-, hvalue⟩ := Option.ite_none_right_eq_some.mp h
    cases k with
    | zero => cases hvalue
    | succ k => cases hvalue

/-- A level that is read is read with as many levels as its text nests. -/
theorem readLevel_of_deepest {levels levels' depth : ℕ} {read read' : List Char → Option Json}
    {text : List Char} {value : Json} (h : readLevel levels read text = some value)
    (hdeep : deepest .between depth text ≤ depth + levels')
    (hread : ∀ inner item, read inner = some item →
      deepest .between (depth + 1) inner ≤ depth + levels' → read' inner = some item) :
    0 < levels' ∧ readLevel levels' read' text = some value := by
  have hopens {c : Char} {rest : List Char} (htext : text = c :: rest) (hc : c = '[' ∨ c = '\x7b') :
      deepest .between (depth + 1) rest ≤ depth + levels' := by
    rw [htext, deepest, if_pos hc] at hdeep
    exact hdeep
  have hlevels {rest : List Char} (h : deepest .between (depth + 1) rest ≤ depth + levels') :
      0 < levels' := by
    have hle := (le_deepest .between (depth + 1) rest).trans h
    omega
  unfold readLevel at h ⊢
  split at h
  · rename_i inner hinside
    obtain ⟨item, hitem, rfl⟩ := Option.map_eq_some_iff.mp h
    have hrest := hopens (eq_of_inside hinside) (.inl rfl)
    -- the name of the event is a string, behind which the argument is scanned
    have hinner : deepest .between (depth + 1) inner ≤ depth + levels' :=
      (deepest_le_append .between (depth + 1) inner [']']).trans hrest
    exact ⟨hlevels hrest, Option.map_eq_some_iff.mpr ⟨item, hread inner item hitem hinner, rfl⟩⟩
  · split at h
    · rename_i htext
      exact ⟨hlevels (hopens htext (.inr rfl)), (if_pos htext).trans h⟩
    · rename_i hplaceholder
      rw [if_neg hplaceholder]
      split at h
      · rename_i htext
        exact ⟨hlevels (hopens htext (.inl rfl)), (if_pos htext).trans h⟩
      · rename_i honly
        rw [if_neg honly]
        exact readBrackets_of_deepest h hdeep

theorem readNested_of_string {text : List Char} {value : Json} (h : readString text = some value)
    (levels : ℕ) : readNested levels text = some value := by
  cases levels with
  | zero => exact h
  | succ levels => exact Option.or_eq_some_iff.mpr (.inl h)

/-- A text is read with as many levels as it nests. -/
theorem readNested_of_deepest {levels levels' depth : ℕ} {text : List Char} {value : Json}
    (h : readNested levels text = some value)
    (hdeep : deepest .between depth text ≤ depth + levels') :
    readNested levels' text = some value := by
  induction levels generalizing levels' depth text value with
  | zero => exact readNested_of_string h levels'
  | succ levels ih =>
    rcases Option.or_eq_some_iff.mp h with hstring | ⟨hstring, hlevel⟩
    · exact readNested_of_string hstring levels'
    · obtain ⟨n, rfl⟩ := Nat.exists_eq_add_one.mpr
        (readLevel_of_deepest hlevel hdeep fun _ _ hitem _ => hitem).1
      refine Option.or_eq_some_iff.mpr (.inr ⟨hstring, (readLevel_of_deepest hlevel hdeep ?_).2⟩)
      intro inner item hitem hinner
      have hless : deepest .between (depth + 1) inner ≤ depth + 1 + n := by omega
      exact ih hitem hless

theorem nestedSerde_fromStr (text : String) :
    nestedSerde.fromStr text = readNested 127 text.toList := rfl

theorem readString_quoted (text : String) :
    readString ("\"" ++ text ++ "\"").toList = some (.string text) := by
  have htext : ("\"" ++ text ++ "\"").toList = ['"'] ++ text.toList ++ ['"'] := by
    rw [String.toList_append, String.toList_append]
    rfl
  unfold readString
  rw [htext, inside_append, Option.map_some, String.ofList_toList]

theorem nestedSerde_jsonTexts : nestedSerde.JsonTexts where
  array values := by
    have hbracket (text : String) : ("[" ++ text).toList.head? = some '[' := by
      rw [String.toList_append]
      rfl
    match values with
    | [] => exact hbracket "]"
    | [value] =>
      show ("[" ++ nestedText value ++ "]").toList.head? = some '['
      rw [String.append_assoc]
      exact hbracket _
    | _ :: _ :: _ => exact hbracket "]"
  object text fields h := by
    rcases Option.or_eq_some_iff.mp h with hread | ⟨-, hlevel⟩
    · obtain ⟨inner, -, hstring⟩ := Option.map_eq_some_iff.mp hread
      cases hstring
    · unfold readLevel at hlevel
      split at hlevel
      · obtain ⟨item, -, hitem⟩ := Option.map_eq_some_iff.mp hlevel
        cases hitem
      · split at hlevel
        · rename_i htext
          rw [htext]
          exact ⟨'\x7b', rfl, .inl rfl⟩
        · split at hlevel
          · cases hlevel
          · exact absurd hlevel (readBrackets_ne_object _ _ _)

theorem readNested_event (levels : ℕ) (text : String) :
    readNested (levels + 1)
        ("[" ++ nestedSerde.toText (.string "chat") ++ "," ++ text ++ "]").toList
      = (readNested levels text.toList).map fun item => .array [.string "chat", item] := by
  have hevent : ("[" ++ nestedSerde.toText (.string "chat") ++ "," ++ text ++ "]").toList
      = ['[', '"', 'c', 'h', 'a', 't', '"', ','] ++ text.toList ++ [']'] := by
    rw [String.toList_append, String.toList_append]
    rfl
  have hstring : readString (['[', '"', 'c', 'h', 'a', 't', '"', ','] ++ text.toList ++ [']'])
      = none := by
    unfold readString
    rw [inside_eq_none rfl (by decide)]
    rfl
  rw [hevent]
  show (readString _).or _ = _
  rw [hstring, Option.none_or]
  unfold readLevel
  rw [inside_append]

theorem nestedSerde_eventTexts : nestedSerde.EventTexts "chat" where
  argument text value h hnesting := by
    show readNested 127 _ = _
    rw [readNested_event, readNested_of_deepest h (hnesting.trans (Nat.le_add_left 126 0))]
    rfl
  string text := by
    show readNested 127 _ = _
    rw [readNested_event, show nestedSerde.toText (.string text) = "\"" ++ text ++ "\"" from rfl,
      readNested_of_string (readString_quoted text)]
    rfl
  placeholder := by
    refine ⟨placeholderValue, ?_, ?_, ?_⟩
    · rfl
    · rfl
    · rfl

/-- The namespace of the talk. -/
def nestedSio : SocketIoConfig := ⟨"/chat", "chat", none, .v3⟩

/-- The loop sends a text, JSON and bytes, each after the reply to the one
before, and ends. -/
def talkAnswers (n : ℕ) : (e : PumpEff) → e.Answer
  | .select =>
    if n = 0 then .out (some (.text "hello"))
    else if n = 3 then .received (some (.ok (.text "43/chat,0[\"hello\"]")))
    else if n = 5 then .out (some (.text "[[]]"))
    else if n = 8 then .received (some (.ok (.text "43/chat,1[[[]]]")))
    else if n = 10 then .out (some (.binary [1, 2]))
    else if n = 14 then .received (some (.ok (.text ("461-/chat,2[" ++ placeholder ++ "]"))))
    else if n = 15 then .received (some (.ok (.binary [4, 1, 2])))
    else .out none
  | .send _ => .ok ()
  | .feed _ => .ok ()
  | .flush => .ok ()
  | .sendIgnored _ => ()
  | .deliver _ => true

/-- Each of them is answered. -/
theorem client_mock_agree_chat :
    List.Forall₂ (Echoes nestedSerde) [.text "hello", .text "[[]]", .binary [1, 2]]
      [.text "[\"hello\"]", .text "[[[]]]", .binary [1, 2]] := by
  have hresult : ((pump nestedSerde nestedSio none).run talkAnswers 40 0).2 = some 0 := by
    decide +kernel
  have hlast : (talk nestedSerde nestedSio "abc").after (.opened nestedSio)
      ((pump nestedSerde nestedSio none).run talkAnswers 40 0).1
        = ⟨{ engine := .v3 }, [], [.text "hello", .text "[[]]", .binary [1, 2]],
          [.text "[\"hello\"]", .text "[[[]]]", .binary [1, 2]]⟩ := by
    decide +kernel
  have hagree := ((client_mock_agree (by decide +kernel) nestedSerde_jsonTexts
    nestedSerde_eventTexts "abc" none
    (Proc.runs_run talkAnswers 40 0 (pump nestedSerde nestedSio none))
    (by decide +kernel)).2 0 hresult).2
  rw [hlast] at hagree
  refine hagree fun payload hpayload => ?_
  simp only [List.mem_cons, List.not_mem_nil, or_false] at hpayload
  rcases hpayload with rfl | rfl | rfl
  · exact ⟨by decide +kernel, fun _ => by decide⟩
  · exact ⟨by decide +kernel, fun _ => by decide⟩
  · trivial

/-! ### A payload that is too deep

127 brackets are read; the event around them is not. -/

/-- Brackets are read up to the number of levels. -/
theorem readNested_brackets (levels k : ℕ) :
    readNested levels (brackets (k + 1)) = if k < levels then some (nested k) else none := by
  have hhead : (brackets (k + 1)).head? = some '[' := rfl
  have hstring : readString (brackets (k + 1)) = none := by
    unfold readString
    rw [inside_eq_none hhead (by decide)]
    rfl
  have hsecond : ∀ c rest, c ≠ '[' → c ≠ ']' → brackets (k + 1) ≠ '[' :: c :: rest := by
    intro c rest hopen hclose heq
    cases k with
    | zero => exact hclose (List.cons.inj (List.cons.inj heq).2).1.symm
    | succ k => exact hopen (List.cons.inj (List.cons.inj heq).2).1.symm
  have hinside : inside ['[', '"', 'c', 'h', 'a', 't', '"', ','] ']' (brackets (k + 1)) = none := by
    refine if_neg ?_
    rintro ⟨⟨rest, heq⟩, -⟩
    exact hsecond _ _ (by decide) (by decide) heq.symm
  have hcount : ((brackets (k + 1)).takeWhile (· == '[')).length = k + 1 := by
    simp [brackets]
  cases levels with
  | zero => exact hstring
  | succ levels =>
    show (readString _).or _ = _
    rw [hstring, Option.none_or]
    unfold readLevel
    rw [hinside]
    dsimp only
    rw [if_neg ?_, if_neg ?_]
    · unfold readBrackets
      rw [hcount]
      simp
    · exact hsecond _ _ (by decide) (by decide)
    · intro heq
      rw [heq] at hhead
      exact absurd hhead (by decide)

/-- `k + 1` brackets. -/
def bracketText (k : ℕ) : String := String.ofList (brackets (k + 1))

theorem readNested_bracketText (levels k : ℕ) :
    readNested levels (bracketText k).toList = if k < levels then some (nested k) else none := by
  rw [bracketText, String.toList_ofList, readNested_brackets]

theorem payloadValue_bracketText {k : ℕ} (h : k < 127) :
    payloadValue nestedSerde (bracketText k) = some (nested k) := by
  have hread : nestedSerde.fromStr (bracketText k) = some (nested k) := by
    rw [nestedSerde_fromStr, readNested_bracketText, if_pos h]
  unfold payloadValue
  rw [hread]
  exact if_pos (Option.isSome_iff_exists.mpr ⟨nested k, hread⟩)

/-- The event around an argument that needs all levels is not read. -/
theorem eventArguments_of_unread {text : String} (hjson : (nestedSerde.fromStr text).isSome = true)
    (hunread : readNested 126 text.toList = none) :
    eventArguments nestedSerde (eventData nestedSerde nestedSio text) = "[]" := by
  have hread : nestedSerde.fromStr ("[" ++ nestedSerde.toText (.string "chat") ++ "," ++ text
      ++ "]") = none := by
    rw [nestedSerde_fromStr, readNested_event, hunread]
    rfl
  have hdata : eventData nestedSerde nestedSio text
      = "[" ++ nestedSerde.toText (.string "chat") ++ "," ++ text ++ "]" :=
    congrArg (fun argument => "[" ++ nestedSerde.toText (.string "chat") ++ "," ++ argument ++ "]")
      (if_pos hjson)
  unfold eventArguments
  rw [hdata, hread]

/-- The loop sends a text, and what the mock answers is passed on as empty. -/
def emptyTrace (text : String) : List PumpEvent :=
  [⟨.select, .out (some (.text text))⟩,
    ⟨.feed (.text (eventPacket nestedSerde nestedSio 0 text)), .ok ()⟩,
    ⟨.flush, .ok ()⟩,
    ⟨.select, .received (some (.ok (.text "43/chat,0[]")))⟩,
    ⟨.deliver (.ok (.text "[]")), true⟩]

theorem runs_emptyTrace (text : String) :
    Proc.Runs (pump nestedSerde nestedSio none) (emptyTrace text) none :=
  .iter (.vis _ (.vis _ (.vis _ (.iter (.vis _ (.vis _ (.stop _)))))))

theorem nestedSio_valid : nestedSio.validate nestedSerde = .ok () := by decide +kernel

/-- The mock finds no argument in the event. -/
theorem send_emptyEvent {text : String}
    (h : eventArguments nestedSerde (eventData nestedSerde nestedSio text) = "[]") :
    Conversation.send nestedSerde "abc" ⟨{ engine := .v3 }, [], [.text text], []⟩
        (.text (eventPacket nestedSerde nestedSio 0 text))
      = ⟨{ engine := .v3 }, [.text "43/chat,0[]"], [.text text], []⟩ := by
  have hack : (ackOf nestedSerde nestedSio 0 text).encode = "43/chat,0[]" := by
    unfold ackOf
    rw [h]
    decide +kernel
  unfold Conversation.send
  dsimp only
  rw [receive_event (named_of_validate nestedSio_valid) (by decide), answerFrames, hack]
  rfl

/-- The payload and its reply. -/
theorem emptyTrace_after {text : String}
    (h : eventArguments nestedSerde (eventData nestedSerde nestedSio text) = "[]") :
    (talk nestedSerde nestedSio "abc").Accepts (.opened nestedSio) (emptyTrace text) ∧
      (talk nestedSerde nestedSio "abc").after (.opened nestedSio) (emptyTrace text)
        = ⟨{ engine := .v3 }, [], [.text text], [.text "[]"]⟩ := by
  have hfeed : (talk nestedSerde nestedSio "abc").change ⟨{ engine := .v3 }, [], [.text text], []⟩
      ⟨.feed (.text (eventPacket nestedSerde nestedSio 0 text)), .ok ()⟩
        = ⟨{ engine := .v3 }, [.text "43/chat,0[]"], [.text text], []⟩ := send_emptyEvent h
  have hout : (talk nestedSerde nestedSio "abc").change (.opened nestedSio)
      ⟨.select, .out (some (.text text))⟩ = ⟨{ engine := .v3 }, [], [.text text], []⟩ := rfl
  unfold emptyTrace
  constructor
  · simp only [Checker.Accepts, hout, hfeed]
    refine ⟨⟨rfl, Nat.two_pow_pos 64⟩, rfl, rfl, ⟨_, rfl, rfl⟩, rfl, trivial⟩
  · simp only [Checker.after, List.foldl_cons, List.foldl_nil, hout, hfeed]
    rfl

theorem nestedText_ne (k : ℕ) : nestedText (.array [nested k]) ≠ "[]" := by
  intro h
  have hlist := congrArg String.toList h
  rw [show nestedText (.array [nested k]) = "[" ++ nestedText (nested k) ++ "]" from rfl,
    String.toList_append, String.toList_append] at hlist
  have hinner : (nestedText (nested k)).toList.length = 0 := by
    have hlength := congrArg List.length hlist
    rw [List.length_append, List.length_append] at hlength
    exact Nat.add_left_cancel (Nat.add_right_cancel hlength)
  cases k with
  | zero => exact absurd hinner (by decide)
  | succ k =>
    rw [show nestedText (nested (k + 1)) = "[" ++ nestedText (nested k) ++ "]" from rfl,
      String.toList_append, List.length_append] at hinner
    exact absurd (Nat.eq_zero_of_add_eq_zero_left hinner) (by decide)

/-- **A payload of 127 levels is read, and the event around it is not**: the
mock answers with no argument. -/
theorem deep_payload_unanswered :
    Proc.Runs (pump nestedSerde nestedSio none) (emptyTrace (bracketText 126)) none ∧
      (talk nestedSerde nestedSio "abc").Accepts (.opened nestedSio)
        (emptyTrace (bracketText 126)) ∧
      (talk nestedSerde nestedSio "abc").after (.opened nestedSio) (emptyTrace (bracketText 126))
        = ⟨{ engine := .v3 }, [], [.text (bracketText 126)], [.text "[]"]⟩ ∧
      payloadValue nestedSerde (bracketText 126) = some (nested 126) ∧
      ¬Echoes nestedSerde (.text (bracketText 126)) (.text "[]") := by
  have hvalue : payloadValue nestedSerde (bracketText 126) = some (nested 126) :=
    payloadValue_bracketText (by decide)
  have hread : nestedSerde.fromStr (bracketText 126) = some (nested 126) := by
    rw [nestedSerde_fromStr, readNested_bracketText, if_pos (by decide)]
  have hunread : readNested 126 (bracketText 126).toList = none := by
    rw [readNested_bracketText, if_neg (by decide)]
  obtain ⟨haccepts, hafter⟩ := emptyTrace_after
    (eventArguments_of_unread (Option.isSome_iff_exists.mpr ⟨_, hread⟩) hunread)
  refine ⟨runs_emptyTrace _, haccepts, hafter, hvalue, ?_⟩
  rintro ⟨value, hmem, hreply⟩
  obtain rfl := Option.some.inj (hvalue.symm.trans hmem)
  exact nestedText_ne 126 (Message.text.inj hreply).symm

end WsBlast
