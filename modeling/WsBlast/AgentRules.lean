import WsBlast.Builder
import WsBlast.JsonTexts
import WsBlast.Plan

/-!
# Reply rules on an agent

The coordinator sends the `--match` rule as it is spelled, and the `--expect`
check as a JSON object, whose fields an agent reads back
(`Check.deserialize`). The agent spells the check and parses it like a flag
(`agentRules`). A rule and a check are what they were after the trip, but for
a check that expects `null`: the agent takes a `null` for a value that is not
given, and any value passes (`reply_rules_agree_iff`).

The two travel differently. A match rule is a text with a known grammar, and an
agent parses the text that the user gave. A check is a value of an enumeration
that is serialised field by field, and one of its fields is an optional JSON
value. The library that reads it back gives an optional field that is `null`
the same value as one that is absent, so `equals: null` is read as no `equals`
at all.
-/

namespace WsBlast

/-! ## Checks in a message

How a check is written, and what the reading end makes of each field. -/

namespace Check

/-- A check in a message: an object whose one field names the kind. The
fields are in the order in which a value holds them. -/
def serialize : Check → Json
  | .json pointer equals =>
    .object [("json", .object [("equals", equals.getD .null), ("pointer", .string pointer)])]
  | .contains text => .object [("contains", .string text)]

/-- The fields of a `json` check. An optional field that is `null` is not
given. -/
def deserializeJson (fields : List (String × Json)) : Option Check :=
  match fields.lookup "pointer" with
  | some (.string pointer) =>
    match fields.lookup "equals" with
    | none | some .null => some (.json pointer none)
    | some value => some (.json pointer (some value))
  | _ => none

/-- Reads a check from its object. The form of an array, which no
coordinator writes, is left out. -/
def deserialize : Json → Option Check
  | .object [("json", .object fields)] => deserializeJson fields
  | .object [("contains", .string text)] => some (.contains text)
  | _ => none

/-- The check that arrives. -/
def arrived : Check → Check
  | .json pointer (some .null) => .json pointer none
  | check => check

theorem deserialize_serialize (check : Check) :
    deserialize check.serialize = some check.arrived := by
  cases check with
  | contains text => rfl
  | json pointer equals =>
    cases equals with
    | none => rfl
    | some value => cases value <;> rfl

end Check

/-! ## Rules in a message

The fields of a share that have to do with replies, and the way an agent takes
with them: back to the spelling of a flag, and through the parser of flags. -/

/-- The reply rules of a share as they are sent. -/
def WireConfig.serializeRules (wire : WireConfig) : Json :=
  .object [("expect", (wire.expect.map Check.serialize).getD .null),
    ("reply_match", .string wire.replyMatch)]

/-- Reads the spelling of the rule and the check from a message. -/
def deserializeRules : Json → Option (String × Option Check)
  | .object fields => do
    let expect ← match fields.lookup "expect" with
      | none | some .null => some none
      | some value => (Check.deserialize value).map some
    match fields.lookup "reply_match" with
    | some (.string replyMatch) => some (replyMatch, expect)
    | _ => none
  | _ => none

/-- The rule and the check that an agent builds from what it read. -/
def compileRules (host : Host) (replyMatch : String) (expect : Option Check) :
    Except ConfigError (ReplyMatch × Option Check) := do
  let rule ← ReplyMatch.fromStr replyMatch
  let expect ← LoadTestConfigBuilder.parseExpect host (expect.map (Check.flagValue host.serde))
  return (rule, expect)

/-- The rule and the check of an agent that is sent a share: `none` for a
message that it cannot read. -/
def agentRules (host : Host) (wire : WireConfig) :
    Option (Except ConfigError (ReplyMatch × Option Check)) :=
  ((host.serde.fromStr (host.serde.toText wire.serializeRules)).bind deserializeRules).map
    fun (replyMatch, expect) => compileRules host replyMatch expect

/-! ## What is parsed can be spelled

A rule and a check that came out of the parser can be spelled, and parsing the
spelling gives them again. -/

theorem pointerIsValid_of_fromStr {raw : String} {rule : ReplyMatch}
    (h : ReplyMatch.fromStr raw = .ok rule) : rule.pointerIsValid = true := by
  unfold ReplyMatch.fromStr at h
  split_ifs at h
  · cases h; rfl
  · cases h; rfl
  · split at h
    case h_2 => cases h
    case h_1 pointer _ =>
      split_ifs at h with hpointer
      cases h
      exact hpointer

/-- The value a check expects is one the library holds. -/
theorem holds_of_parseFlag {serde : Serde} (hserde : serde.ReadsBack) {spec : String}
    {check : Check} (h : Check.parseFlag serde spec = .ok check) {pointer : String} {value : Json}
    (heq : check = .json pointer (some value)) : serde.Holds value := by
  subst heq
  unfold Check.parseFlag at h
  split at h
  case h_1 =>
    split_ifs at h
    cases h
  case h_2 =>
    split at h
    case h_1 => cases h
    case h_2 rest _ =>
      obtain ⟨_, -, hcheck⟩ := Checked.map_eq_ok.mp h
      split at hcheck
      case h_2 => cases hcheck
      case h_1 first text _ =>
        cases hcheck
        cases hread : serde.fromStr text with
        | none => exact trivial
        | some value => exact hserde.holds text value hread

namespace Check

theorem spellable_arrived {check : Check} (h : check.Spellable) : check.arrived.Spellable := by
  cases check with
  | contains text => exact h
  | json pointer equals =>
    cases equals with
    | none => exact h
    | some value => cases value <;> exact h

theorem eq_of_arrived_eq {check : Check} {pointer : String} {value : Json}
    (h : check.arrived = .json pointer (some value)) : check = .json pointer (some value) := by
  cases check with
  | contains text => exact h
  | json pointer equals =>
    cases equals with
    | none => exact h
    | some value => cases value <;> first | exact h | cases h

theorem arrived_eq_self {check : Check} (h : ∀ pointer, check ≠ .json pointer (some .null)) :
    check.arrived = check := by
  cases check with
  | contains text => rfl
  | json pointer equals =>
    cases equals with
    | none => rfl
    | some value =>
      cases value with
      | null => exact absurd rfl (h pointer)
      | _ => rfl

end Check

/-! ## The trip

Serialising, reading, spelling and parsing, one after the other. -/

section Trip

variable {host : Host} (hserde : host.serde.ReadsBack)
include hserde

theorem parseFlag_flagValue_of_holds {check : Check} (h : check.Spellable)
    (hholds : ∀ pointer value, check = .json pointer (some value) → host.serde.Holds value) :
    Check.parseFlag host.serde (check.flagValue host.serde) = .ok check :=
  Check.parseFlag_flagValue h fun pointer value heq =>
    hserde.reads value (hholds pointer value heq)

omit hserde in
/-- The message of a share is one value. -/
theorem holds_serializeRules {wire : WireConfig} {check : Check}
    (hexpect : wire.expect = some check)
    (hholds : ∀ pointer value, check = .json pointer (some value) → host.serde.Holds value) :
    host.serde.Holds wire.serializeRules := by
  have hnames : ["expect", "reply_match"].Pairwise (· < ·) := by decide
  have hfields : ["equals", "pointer"].Pairwise (· < ·) := by decide
  have hcheck : host.serde.Holds check.serialize := by
    cases check with
    | contains text => exact ⟨List.pairwise_singleton _ _, trivial, trivial⟩
    | json pointer equals =>
      refine ⟨List.pairwise_singleton _ _, ⟨hfields, ?_, trivial, trivial⟩, trivial⟩
      cases equals with
      | none => exact trivial
      | some value => exact hholds pointer value rfl
  unfold WireConfig.serializeRules
  rw [hexpect]
  exact ⟨hnames, hcheck, trivial, trivial⟩

omit hserde in
theorem deserializeRules_serializeRules {wire : WireConfig} {check : Check}
    (h : wire.expect = some check) :
    deserializeRules wire.serializeRules = some (wire.replyMatch, some check.arrived) := by
  have hcheck : Check.deserialize check.serialize = some check.arrived :=
    Check.deserialize_serialize check
  unfold WireConfig.serializeRules
  rw [h]
  cases check with
  | contains text => rfl
  | json pointer equals =>
    show (do
      let expect ← (Check.deserialize (Check.json pointer equals).serialize).map some
      some (wire.replyMatch, expect)) = _
    rw [hcheck]
    rfl

theorem compileRules_eq {rule : ReplyMatch} {check : Check} (hrule : rule.pointerIsValid = true)
    (hcheck : check.Spellable)
    (hholds : ∀ pointer value, check = .json pointer (some value) → host.serde.Holds value) :
    compileRules host rule.flagValue (some check) = .ok (rule, some check) := by
  have hparse := parseFlag_flagValue_of_holds hserde hcheck hholds
  unfold compileRules LoadTestConfigBuilder.parseExpect
  rw [ReplyMatch.fromStr_flagValue rule hrule]
  simp [hparse, Except.mapError]

/-- An agent builds the rule that was sent, and the check that arrives. -/
theorem agentRules_eq {wire : WireConfig} {rule : ReplyMatch} {check : Check}
    (hreply : wire.replyMatch = rule.flagValue) (hexpect : wire.expect = some check)
    (hrule : rule.pointerIsValid = true) (hcheck : check.Spellable)
    (hholds : ∀ pointer value, check = .json pointer (some value) → host.serde.Holds value) :
    agentRules host wire = some (.ok (rule, some check.arrived)) := by
  have hcompile : compileRules host rule.flagValue (some check.arrived)
      = .ok (rule, some check.arrived) :=
    compileRules_eq hserde hrule (Check.spellable_arrived hcheck)
      fun pointer value heq => hholds pointer value (Check.eq_of_arrived_eq heq)
  unfold agentRules
  rw [hserde.reads _ (holds_serializeRules hexpect hholds), Option.bind_some,
    deserializeRules_serializeRules hexpect, Option.map_some, hreply]
  exact congrArg some hcompile

end Trip

/-! ## A reply that tells an agent's check apart

For every pointer a reply that has `true` there. -/

/-- Objects of one field, one for each token of a pointer, around `true`. -/
def nestTokens : List String → Json
  | [] => .bool true
  | token :: tokens => .object [(Json.pointerToken token, nestTokens tokens)]

theorem holds_nestTokens (serde : Serde) (tokens : List String) :
    serde.Holds (nestTokens tokens) := by
  induction tokens with
  | nil => exact trivial
  | cons token tokens ih => exact ⟨List.pairwise_singleton _ _, ih, trivial⟩

theorem foldlM_member_nestTokens (tokens : List String) :
    tokens.foldlM (fun value token => Json.member (Json.pointerToken token) value)
      (nestTokens tokens) = some (.bool true) := by
  induction tokens with
  | nil => rfl
  | cons token tokens ih =>
    have hmember : Json.member (Json.pointerToken token) (nestTokens (token :: tokens))
        = some (nestTokens tokens) := by
      simp [nestTokens, Json.member]
    rw [List.foldlM_cons, hmember]
    exact ih

/-- At every pointer there can be `true`. -/
theorem exists_pointer_eq_true (serde : Serde) {pointer : String}
    (h : checkPointer pointer = .ok ()) :
    ∃ value, serde.Holds value ∧ value.pointer pointer = some (.bool true) := by
  by_cases hempty : pointer = ""
  · subst hempty
    exact ⟨.bool true, trivial, rfl⟩
  · have hslash : pointer.toList.head? = some '/' := by
      by_contra hslash
      unfold checkPointer at h
      rw [if_neg (not_or.mpr ⟨hempty, hslash⟩)] at h
      cases h
    have hstarts : pointer.startsWith "/" = true := by
      obtain ⟨rest, hrest⟩ := List.head?_eq_some_iff.mp hslash
      exact String.startsWith_string_iff.mpr ⟨rest, hrest.symm⟩
    refine ⟨nestTokens ((pointer.splitOn "/").drop 1), holds_nestTokens _ _, ?_⟩
    unfold Json.pointer
    rw [if_neg (fun h => hempty (String.isEmpty_iff.mp h)), if_pos hstarts]
    exact foldlM_member_nestTokens _

theorem passes_json {serde : Serde} {reply : Message} {pointer : String} {found : Json}
    (h : (replyJson serde reply).bind (·.pointer pointer) = some found) (equals : Option Json) :
    (Check.json pointer equals).passes serde reply = equals.all (sameValue serde found) := by
  unfold Check.passes
  dsimp only
  rw [h]

/-- A reply with `true` at the pointer passes a check for any value there, and
no check for `null`. -/
theorem exists_passes_ne {serde : Serde} (hserde : serde.ReadsBack) {pointer : String}
    (h : checkPointer pointer = .ok ()) :
    ∃ reply, (Check.json pointer none).passes serde reply = true
      ∧ (Check.json pointer (some .null)).passes serde reply = false := by
  obtain ⟨value, hholds, hvalue⟩ := exists_pointer_eq_true serde h
  have hreply : (replyJson serde (.text (serde.toText value))).bind (·.pointer pointer)
      = some (.bool true) := by
    show (serde.fromStr (serde.toText value)).bind _ = _
    rw [hserde.reads value hholds]
    exact hvalue
  exact ⟨.text (serde.toText value), passes_json hreply none, passes_json hreply (some .null)⟩

/-! ## The rules of a plan

What was shown of one trip, for every agent of every plan. -/

/-- Every share of a plan has the rules of the run. -/
theorem plan_rules {config : LoadTestConfig} {agents : ℕ} {shares : List WireConfig}
    (h : plan config agents = .ok shares) {wire : WireConfig} (hwire : wire ∈ shares) :
    wire.replyMatch = config.replyMatch.flagValue ∧ wire.expect = config.expect := by
  obtain ⟨-, base, hbase, rfl⟩ := plan_eq_ok h
  obtain ⟨index, -, rfl⟩ := List.mem_map.mp hwire
  obtain ⟨fixed, -, hbase⟩ := Checked.bind_eq_ok.mp hbase
  obtain ⟨liveAuth, -, hbase⟩ := Checked.bind_eq_ok.mp hbase
  cases hbase
  exact ⟨rfl, rfl⟩

/-- An agent that is sent the share takes the replies that the rule and the
check take. -/
def AgentAgrees (host : Host) (wire : WireConfig) (rule : ReplyMatch) (check : Check) : Prop :=
  ∃ agentRule agentCheck, agentRules host wire = some (.ok (agentRule, some agentCheck))
    ∧ (∀ reply sent seq, replyMatches host.serde agentRule reply sent seq
        = replyMatches host.serde rule reply sent seq)
    ∧ ∀ reply, agentCheck.passes host.serde reply = check.passes host.serde reply

/-- **A rule and a check come back from their spelling, and every agent of every
plan takes the replies that the coordinator would,** if and only if the check
does not expect `null`: an agent takes that for a check of any value. -/
theorem reply_rules_agree_iff {host : Host} (hserde : host.serde.ReadsBack) {raw spec : String}
    {rule : ReplyMatch} {check : Check} (hrule : ReplyMatch.fromStr raw = .ok rule)
    (hcheck : Check.parseFlag host.serde spec = .ok check) :
    (ReplyMatch.fromStr rule.flagValue = .ok rule
      ∧ Check.parseFlag host.serde (check.flagValue host.serde) = .ok check
      ∧ ∀ config agents shares wire, config.replyMatch = rule → config.expect = some check →
          plan config agents = .ok shares → wire ∈ shares → AgentAgrees host wire rule check)
      ↔ ∀ pointer, check ≠ .json pointer (some .null) := by
  have hvalid := pointerIsValid_of_fromStr hrule
  have hspell := Check.spellable_of_parseFlag hcheck
  have hholds : ∀ pointer value, check = .json pointer (some value) → host.serde.Holds value :=
    fun pointer value => holds_of_parseFlag hserde hcheck
  have hagent {wire : WireConfig} (hreply : wire.replyMatch = rule.flagValue)
      (hexpect : wire.expect = some check) :
      agentRules host wire = some (.ok (rule, some check.arrived)) :=
    agentRules_eq hserde hreply hexpect hvalid hspell hholds
  constructor
  · rintro ⟨-, -, hagrees⟩ pointer rfl
    -- A run with these rules on one agent.
    let config : LoadTestConfig :=
      { LoadTestConfig.defaults "" with
        replyMatch := rule
        expect := some (.json pointer (some .null)) }
    obtain ⟨wire, hplan⟩ : ∃ wire, plan config 1 = .ok [wire] := ⟨_, rfl⟩
    obtain ⟨agentRule, agentCheck, hrules, -, hpasses⟩ :=
      hagrees config 1 [wire] wire rfl rfl hplan (List.mem_singleton_self wire)
    obtain ⟨hreply, hexpect⟩ := plan_rules hplan (List.mem_singleton_self wire)
    obtain ⟨reply, hany, hnull⟩ := exists_passes_ne hserde hspell.1
    cases (hagent hreply hexpect).symm.trans hrules
    exact Bool.false_ne_true (hnull.symm.trans ((hpasses reply).symm.trans hany))
  · intro hne
    refine ⟨ReplyMatch.fromStr_flagValue _ hvalid,
      parseFlag_flagValue_of_holds hserde hspell hholds, ?_⟩
    rintro config agents shares wire rfl hexpect hplan hwire
    obtain ⟨hreply, hsent⟩ := plan_rules hplan hwire
    have hrules := hagent hreply (hsent.trans hexpect)
    rw [Check.arrived_eq_self hne] at hrules
    exact ⟨config.replyMatch, check, hrules, fun _ _ _ => rfl, fun _ => rfl⟩

/-- A machine whose JSON texts are compact. -/
noncomputable def compactHost : Host := { plainHost with serde := compactSerde }

theorem compactHost_parseFlag {pointer spec : String} {value : Json}
    (hpointer : checkPointer pointer = .ok ()) (heq : '=' ∉ pointer.toList) (h : value.Plain)
    (hspec : spec = "json:" ++ pointer ++ "=" ++ String.ofList value.compact) :
    Check.parseFlag compactHost.serde spec = .ok (.json pointer (some value)) := by
  have hflag : (Check.json pointer (some value)).flagValue compactHost.serde = spec := hspec.symm
  rw [← hflag]
  refine Check.parseFlag_flagValue ⟨hpointer, heq⟩ fun _ _ hcheck => ?_
  cases hcheck
  exact compactSerde_fromStr_toText h

/-- A check for `"ok"` and a rule for a number survive. -/
theorem reply_rules_agree_ok :
    ReplyMatch.fromStr "json:/seq" = .ok (.jsonPointer "/seq")
      ∧ Check.parseFlag compactHost.serde "json:/status=\"ok\""
        = .ok (.json "/status" (some (.string "ok")))
      ∧ ∀ config agents shares wire, config.replyMatch = .jsonPointer "/seq" →
          config.expect = some (.json "/status" (some (.string "ok"))) →
          plan config agents = .ok shares → wire ∈ shares →
          AgentAgrees compactHost wire (.jsonPointer "/seq")
            (.json "/status" (some (.string "ok"))) := by
  have hrule : ReplyMatch.fromStr "json:/seq" = .ok (.jsonPointer "/seq") := by decide +kernel
  have hcheck : Check.parseFlag compactHost.serde "json:/status=\"ok\""
      = .ok (.json "/status" (some (.string "ok"))) :=
    compactHost_parseFlag (by decide +kernel) (by decide +kernel) trivial (by decide +kernel)
  have hserde : compactHost.serde.ReadsBack := compactSerde_readsBack
  have hagree := (reply_rules_agree_iff hserde hrule hcheck).mpr (by simp)
  exact ⟨hrule, hcheck, hagree.2.2⟩

/-- A run whose replies are to be `null`. -/
def nullRun : LoadTestConfig :=
  { LoadTestConfig.defaults "ws://localhost:9001/" with expect := some (.json "" (some .null)) }

/-- With `--expect json:=null` an agent takes the reply `true`, which the check
does not. -/
theorem null_check_lost :
    Check.parseFlag compactHost.serde "json:=null" = .ok (.json "" (some .null))
      ∧ (Check.json "" none).passes compactHost.serde (.text "true") = true
      ∧ (Check.json "" (some .null)).passes compactHost.serde (.text "true") = false
      ∧ ∃ wire, plan nullRun 1 = .ok [wire]
        ∧ agentRules compactHost wire = some (.ok (.first, some (.json "" none)))
        ∧ ¬ AgentAgrees compactHost wire .first (.json "" (some .null)) := by
  have hcheck : Check.parseFlag compactHost.serde "json:=null" = .ok (.json "" (some .null)) :=
    compactHost_parseFlag (by decide +kernel) (by decide +kernel) trivial (by decide +kernel)
  have hfound : (replyJson compactHost.serde (.text "true")).bind (·.pointer "")
      = some (.bool true) := by
    have hread : compactSerde.fromStr "true" = some (.bool true) :=
      @compactSerde_fromStr_toText (.bool true) trivial
    show (compactSerde.fromStr "true").bind _ = _
    rw [hread]
    rfl
  have hany := passes_json hfound none
  have hnull := passes_json hfound (some .null)
  obtain ⟨wire, hplan⟩ : ∃ wire, plan nullRun 1 = .ok [wire] := ⟨_, rfl⟩
  obtain ⟨hreply, hexpect⟩ := plan_rules hplan (List.mem_singleton_self wire)
  have hagent : agentRules compactHost wire = some (.ok (.first, some (.json "" none))) :=
    agentRules_eq compactSerde_readsBack hreply hexpect rfl (Check.spellable_of_parseFlag hcheck)
      fun _ _ heq => by cases heq; exact trivial
  -- the reply is `true`, which is not `null`
  refine ⟨hcheck, hany, hnull, wire, hplan, hagent, ?_⟩
  rintro ⟨agentRule, agentCheck, hrules, -, hpasses⟩
  cases hagent.symm.trans hrules
  exact Bool.false_ne_true (hnull.symm.trans ((hpasses _).symm.trans hany))

end WsBlast
