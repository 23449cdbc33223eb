import WsBlast.Lib.Checked
import WsBlast.MockRules
import WsBlast.ScenarioFile
import WsBlast.TemplateParts

/-!
# The rules file of the mock server

`Rules.parse` reads a rules file: `decode` stands for the YAML reader, what it
gives is checked and compiled rule by rule, and the first thing that is wrong
is reported with the number of its rule. `ReplyTemplate.parse` reads a reply:
literal text, and names between double braces.

`Rules.Reads` and `ReplyTemplate.Spells` say without running it which files are
accepted, and as what; `Rules.FirstWrong` and `ReplyTemplate.Stumbles` which
error is reported.

The YAML reader is not part of the repository.
-/

namespace WsBlast

open Checked

/-! ## What the file holds -/

/-- The matcher of a rule. -/
structure MatchSpec where
  text : Option String := none
  json : Option String := none
  equals : Option Json := none

/-- One reply or a list of them. -/
inductive OneOrMany where
  | one (text : String)
  | many (texts : List String)
  deriving DecidableEq

/-- The Close frame of a rule, with or without a reason. -/
inductive CloseSpec where
  | code (code : ℕ)
  | full (code : ℕ) (reason : String)
  deriving DecidableEq

/-- A rule. -/
structure RuleSpec where
  matcher : Option MatchSpec := none
  after : Option ℕ := none
  reply : Option OneOrMany := none
  delay : Option String := none
  close : Option CloseSpec := none

/-- The whole file. -/
structure RulesFile where
  version : String
  rules : List RuleSpec
  unmatched : Unmatched := .echo

/-! ## Reply templates

The parser cuts a text at two opening braces and what follows at two closing
ones. -/

namespace ReplyTemplate

/-- A literal part, when there is text. -/
def literalPart (text : List Char) : ReplyTemplate :=
  if text = [] then [] else [.literal (String.ofList text)]

/-- The part a name between braces stands for, if it is one. -/
def namedPart (name : String) : Option ReplyPart :=
  if name = "request" then some .request
  else if name = "seq" then some .seq
  else ((textAfter "json:" name).filter fun pointer => pointer.toList.head? = some '/').map .json

/-- The error of braces without an end, -/
def unclosed (raw : String) : String :=
  "reply '" ++ raw ++ "' has '\x7b\x7b' without a closing '\x7d\x7d'"

/-- and that of a name that is not known. -/
def unknownName (raw name : String) : String :=
  "reply '" ++ raw ++ "' uses \x7b\x7b" ++ name ++ "\x7d\x7d; use \x7b\x7brequest\x7d\x7d, "
    ++ "\x7b\x7bseq\x7d\x7d or \x7b\x7bjson:/pointer\x7d\x7d"

/-- The parts of `rest`. Every name stands between four braces, so `fuel` as
large as the text is enough. -/
def partsFrom (raw : String) : ℕ → List Char → Except String ReplyTemplate
  | 0, rest => .ok (literalPart rest)
  | fuel + 1, rest =>
    match Template.cutAtPair '\x7b' rest with
    | none => .ok (literalPart rest)
    | some (before, opened) =>
      match Template.cutAtPair '\x7d' opened with
      | none => .error (unclosed raw)
      | some (name, after) =>
        match namedPart (trim (String.ofList name)) with
        | none => .error (unknownName raw (trim (String.ofList name)))
        | some part => (partsFrom raw fuel after).map (literalPart before ++ part :: ·)

/-- Parses a reply. -/
def parse (raw : String) : Except String ReplyTemplate :=
  partsFrom raw raw.toList.length raw.toList

end ReplyTemplate

/-! ## Rules -/

/-- The matcher of a rule. -/
def MatchSpec.compile : Option MatchSpec → Except String Matcher
  | none => .ok .any
  | some ⟨some text, none, none⟩ => .ok (.text text)
  | some ⟨none, some pointer, equals⟩ =>
    if pointer.toList.head? = some '/' then .ok (.json pointer equals)
    else .error s!"match.json must be a JSON pointer starting with '/', found '{pointer}'"
  | some ⟨some _, some _, _⟩ => .error "match takes text or json, not both"
  | some ⟨some _, none, some _⟩ => .error "match.equals needs match.json"
  | some ⟨none, none, _⟩ =>
    .error "match needs text or json; leave match out to match every frame"

/-- The replies of a rule. -/
def OneOrMany.texts : Option OneOrMany → List String
  | none => []
  | some (.one text) => [text]
  | some (.many texts) => texts

/-- The Close frame of a rule. -/
def CloseSpec.frame : CloseSpec → CloseFrame
  | .code status => ⟨status, ""⟩
  | .full status reason => ⟨status, reason⟩

/-- Whether a Close frame can be sent: its payload is at most 125 bytes, 2 of
them the code. -/
def CloseFrame.Sendable (frame : CloseFrame) : Prop :=
  isSendableCloseCode frame.code = true ∧ frame.reason.utf8ByteSize ≤ 123

/-- Checks the Close frame of a rule. -/
def checkClose : Option CloseFrame → Except String Unit
  | none => .ok ()
  | some frame => do
    reject (isSendableCloseCode frame.code = false)
      s!"close code {frame.code} cannot be sent; use 1000-1003, 1007-1014 or 3000-4999"
    reject (123 < frame.reason.utf8ByteSize) "close reason must be at most 123 bytes"

/-- The delay of a rule. -/
def parseRuleDelay : Option String → Except String (Option Duration)
  | none => .ok none
  | some raw =>
    match parseHumanDuration raw with
    | .ok delay => .ok (some delay)
    | .error err => .error ("delay: " ++ err.display)

/-- Checks and compiles one rule. -/
def Rule.compile (spec : RuleSpec) : Except String Rule := do
  let matcher ← MatchSpec.compile spec.matcher
  let after := spec.after.getD 1
  reject (after = 0) "after counts frames from 1 and must be at least 1"
  reject (spec.reply = none ∧ spec.close = none)
    "a rule needs reply, close or both; reply: [] sends nothing"
  let replies ← (OneOrMany.texts spec.reply).mapM ReplyTemplate.parse
  let delay ← parseRuleDelay spec.delay
  let close := spec.close.map CloseSpec.frame
  checkClose close
  return { matcher, after, replies, delay, close }

namespace Rules

/-- An error of a rule, with its number, -/
def ruleError (number : ℕ) (message : String) : String := s!"rule {number}: {message}"

/-- and an error of the file. -/
def fileError (source message : String) : ConfigError :=
  .invalidOption s!"--rules '{source}': {message}"

/-- The first error of some rules, with the number of its rule, or all of
them compiled. -/
def compileFrom (number : ℕ) : List RuleSpec → Except String (List Rule)
  | [] => .ok []
  | spec :: rest =>
    match Rule.compile spec with
    | .error message => .error (ruleError number message)
    | .ok rule => (compileFrom (number + 1) rest).map (rule :: ·)

/-- Reads and checks a rules file. -/
def parse (decode : String → Except String RulesFile) (text source : String) :
    Except ConfigError Rules :=
  let fail := fileError source
  match decode text with
  | .error err => .error (fail err)
  | .ok file =>
    if file.version ≠ "1.0" then
      .error (fail ("version must be \"1.0\", found \"" ++ file.version ++ "\""))
    else if file.rules = [] then .error (fail "rules must list at least one rule")
    else
      match compileFrom 1 file.rules with
      | .error message => .error (fail message)
      | .ok rules => .ok { rules, unmatched := file.unmatched }

end Rules

/-! ## What a reply spells

The grammar of replies, and where a text leaves it. -/

namespace ReplyTemplate

open Template (HasPair cutAtPair Braced around)

/-- A text is read as these parts: literals without two opening braces in a
row, and names that stand for a part between the first braces of each. -/
inductive Spells : List Char → ReplyTemplate → Prop where
  | literal {text : List Char} (h : ¬ HasPair '\x7b' text) : Spells text (literalPart text)
  | named {before name after : List Char} {part : ReplyPart} {rest : ReplyTemplate}
      (h : Braced before name) (hname : namedPart (trim (String.ofList name)) = some part)
      (hrest : Spells after rest) :
      Spells (around before name after) (literalPart before ++ part :: rest)

/-- The first thing in a text that is not such a part, and the error it is
reported with. -/
inductive Stumbles (raw : String) : List Char → String → Prop where
  | unclosed {before opened : List Char} (hopens : ¬ HasPair '\x7b' (before ++ ['\x7b']))
      (hcloses : ¬ HasPair '\x7d' opened) :
      Stumbles raw (before ++ ['\x7b', '\x7b'] ++ opened) (unclosed raw)
  | unknown {before name after : List Char} (h : Braced before name)
      (hname : namedPart (trim (String.ofList name)) = none) :
      Stumbles raw (around before name after) (unknownName raw (trim (String.ofList name)))
  | later {before name after : List Char} {part : ReplyPart} {message : String}
      (h : Braced before name) (hname : namedPart (trim (String.ofList name)) = some part)
      (hrest : Stumbles raw after message) : Stumbles raw (around before name after) message

theorem cutAtPair_of_not_hasPair {brace : Char} {text : List Char} (h : ¬ HasPair brace text) :
    cutAtPair brace text = none := by
  cases hcut : cutAtPair brace text with
  | none => rfl
  | some cut =>
    obtain ⟨before, after⟩ := cut
    obtain ⟨rfl, -⟩ := Template.eq_of_cutAtPair hcut
    exact absurd ⟨before, after, rfl⟩ h

/-- The braces around a name are the ones a text is cut at. -/
theorem cut_around {before name : List Char} (h : Braced before name) (after : List Char) :
    cutAtPair '\x7b' (around before name after) = some (before, name ++ ['\x7d', '\x7d'] ++ after)
      ∧ cutAtPair '\x7d' (name ++ ['\x7d', '\x7d'] ++ after) = some (name, after) :=
  ⟨Template.cutAtPair_append h.opens _, Template.cutAtPair_append h.closes _⟩

theorem length_lt_around (before name after : List Char) :
    after.length < (around before name after).length := by
  simp only [around, List.length_append, List.length_cons, List.length_nil]
  omega

/-- A text is either cut before its first name, or has no names left. -/
theorem partsFrom_around {raw : String} {before name : List Char} (h : Braced before name)
    (fuel : ℕ) (after : List Char) :
    partsFrom raw (fuel + 1) (around before name after)
      = match namedPart (trim (String.ofList name)) with
        | none => .error (unknownName raw (trim (String.ofList name)))
        | some part => (partsFrom raw fuel after).map (literalPart before ++ part :: ·) := by
  obtain ⟨hopens, hcloses⟩ := cut_around h after
  rw [partsFrom, hopens]
  dsimp only
  rw [hcloses]

theorem Spells.partsFrom {raw : String} {text : List Char} {parts : ReplyTemplate}
    (h : Spells text parts) {fuel : ℕ} (hfuel : text.length ≤ fuel) :
    partsFrom raw fuel text = .ok parts := by
  induction h generalizing fuel with
  | literal h =>
    cases fuel with
    | zero => rfl
    | succ fuel => rw [ReplyTemplate.partsFrom, cutAtPair_of_not_hasPair h]
  | @named before name after part rest h hname hrest ih =>
    have hshort := length_lt_around before name after
    cases fuel with
    | zero => exact absurd hfuel (by omega)
    | succ fuel =>
      rw [partsFrom_around h, hname]
      dsimp only
      rw [ih (by omega)]
      rfl

theorem Stumbles.partsFrom {raw : String} {text : List Char} {message : String}
    (h : Stumbles raw text message) {fuel : ℕ} (hfuel : text.length ≤ fuel) :
    partsFrom raw fuel text = .error message := by
  induction h generalizing fuel with
  | @unclosed before opened hopens hcloses =>
    cases fuel with
    | zero => exact absurd hfuel (by simp)
    | succ fuel =>
      rw [ReplyTemplate.partsFrom, Template.cutAtPair_append hopens]
      dsimp only
      rw [cutAtPair_of_not_hasPair hcloses]
  | @unknown before name after h hname =>
    cases fuel with
    | zero => exact absurd hfuel (by simp [around])
    | succ fuel => rw [partsFrom_around h, hname]
  | @later before name after part message h hname hrest ih =>
    have hshort := length_lt_around before name after
    cases fuel with
    | zero => exact absurd hfuel (by omega)
    | succ fuel =>
      rw [partsFrom_around h, hname]
      dsimp only
      -- the names before the first wrong one are parsed
      rw [ih (by omega)]
      rfl

/-- A text either spells some parts or stumbles. -/
theorem spells_or_stumbles (raw : String) (text : List Char) :
    (∃ parts, Spells text parts) ∨ ∃ message, Stumbles raw text message := by
  induction hlength : text.length using Nat.strong_induction_on generalizing text with
  | h length ih =>
    cases hopens : cutAtPair '\x7b' text with
    | none => exact .inl ⟨_, .literal (Template.cutAtPair_eq_none hopens)⟩
    | some cut =>
      obtain ⟨before, opened⟩ := cut
      obtain ⟨rfl, hbefore⟩ := Template.eq_of_cutAtPair hopens
      cases hcloses : cutAtPair '\x7d' opened with
      | none => exact .inr ⟨_, .unclosed hbefore (Template.cutAtPair_eq_none hcloses)⟩
      | some cut =>
        obtain ⟨name, after⟩ := cut
        obtain ⟨rfl, hname⟩ := Template.eq_of_cutAtPair hcloses
        have hbraced : Braced before name := ⟨hbefore, hname⟩
        have hshort := length_lt_around before name after
        cases hpart : namedPart (trim (String.ofList name)) with
        | none => exact .inr ⟨_, .unknown hbraced hpart⟩
        | some part =>
          rcases ih after.length (hlength ▸ hshort) after rfl with
            ⟨parts, hparts⟩ | ⟨message, hmessage⟩
          · exact .inl ⟨_, .named hbraced hpart hparts⟩
          · exact .inr ⟨_, .later hbraced hpart hmessage⟩

theorem parse_eq_ok_iff {raw : String} {parts : ReplyTemplate} :
    parse raw = .ok parts ↔ Spells raw.toList parts := by
  refine ⟨fun h => ?_, fun h => h.partsFrom le_rfl⟩
  rcases spells_or_stumbles raw raw.toList with ⟨spelled, hspelled⟩ | ⟨message, hmessage⟩
  · obtain rfl := Except.ok.inj ((hspelled.partsFrom le_rfl).symm.trans h)
    exact hspelled
  · exact absurd ((hmessage.partsFrom le_rfl).symm.trans h) (by simp)

end ReplyTemplate

/-! ## Which files are accepted -/

/-- The entries of a rule that name a matcher. -/
inductive MatchSpec.Names : Option MatchSpec → Matcher → Prop where
  | any : Names none .any
  | text (text : String) : Names (some ⟨some text, none, none⟩) (.text text)
  | json (pointer : String) (equals : Option Json) (h : pointer.toList.head? = some '/') :
      Names (some ⟨none, some pointer, equals⟩) (.json pointer equals)

theorem MatchSpec.compile_eq_ok_iff {spec : Option MatchSpec} {matcher : Matcher} :
    MatchSpec.compile spec = .ok matcher ↔ Names spec matcher := by
  constructor
  · intro h
    rcases spec with _ | ⟨_ | text, _ | pointer, _ | equals⟩
    · obtain rfl := Except.ok.inj h
      exact .any
    · exact absurd h (by simp [compile])
    · exact absurd h (by simp [compile])
    · rw [compile] at h
      split_ifs at h with hpointer
      obtain rfl := Except.ok.inj h
      exact .json _ _ hpointer
    · rw [compile] at h
      split_ifs at h with hpointer
      obtain rfl := Except.ok.inj h
      exact .json _ _ hpointer
    · obtain rfl := Except.ok.inj h
      exact .text _
    · exact absurd h (by simp [compile])
    · exact absurd h (by simp [compile])
    · exact absurd h (by simp [compile])
  · rintro (_ | text | ⟨pointer, equals, hpointer⟩)
    · rfl
    · rfl
    · rw [compile, if_pos hpointer]

/-- The delay of a rule is read as one. -/
def DelayOf (spec : Option String) (delay : Option Duration) : Prop :=
  Option.Rel (fun raw duration => parseHumanDuration raw = .ok duration) spec delay

theorem parseRuleDelay_eq_ok_iff {spec : Option String} {delay : Option Duration} :
    parseRuleDelay spec = .ok delay ↔ DelayOf spec delay := by
  cases spec with
  | none =>
    refine ⟨fun h => ?_, fun h => ?_⟩
    · obtain rfl := Except.ok.inj h
      exact .none
    · cases h
      rfl
  | some raw =>
    unfold parseRuleDelay
    dsimp only
    cases hraw : parseHumanDuration raw with
    | error err =>
      refine ⟨fun h => absurd h (by simp), fun h => ?_⟩
      cases h with
      | some hduration => exact absurd (hraw.symm.trans hduration) (by simp)
    | ok duration =>
      refine ⟨fun h => ?_, fun h => ?_⟩
      · obtain rfl := Except.ok.inj h
        exact .some hraw
      · cases h with
        | some hduration => rw [Except.ok.inj (hraw.symm.trans hduration)]

theorem checkClose_eq_ok_iff {close : Option CloseFrame} :
    checkClose close = .ok () ↔ ∀ frame ∈ close, frame.Sendable := by
  cases close with
  | none => exact iff_of_true rfl (by simp)
  | some frame =>
    rw [checkClose, check_bind_eq_ok, reject_eq_ok, reject_eq_ok]
    simp [CloseFrame.Sendable]

/-- What a rule of the file has to be, to become this rule. -/
structure Rule.Follows (spec : RuleSpec) (rule : Rule) : Prop where
  matcher : MatchSpec.Names spec.matcher rule.matcher
  after : rule.after = spec.after.getD 1
  fromOne : 0 < rule.after
  /-- It does something. -/
  acts : spec.reply.isSome ∨ spec.close.isSome
  replies : List.Forall₂ (fun raw template => ReplyTemplate.Spells raw.toList template)
    (OneOrMany.texts spec.reply) rule.replies
  delay : DelayOf spec.delay rule.delay
  close : rule.close = spec.close.map CloseSpec.frame
  sendable : ∀ frame ∈ rule.close, frame.Sendable

theorem Rule.compile_eq_ok_iff {spec : RuleSpec} {rule : Rule} :
    Rule.compile spec = .ok rule ↔ Rule.Follows spec rule := by
  have hacts : ¬ (spec.reply = none ∧ spec.close = none)
      ↔ (spec.reply.isSome ∨ spec.close.isSome) := by
    rw [not_and_or, ← ne_eq, ← ne_eq, Option.ne_none_iff_isSome, Option.ne_none_iff_isSome]
  unfold Rule.compile
  simp only [bind_eq_ok, reject_eq_ok, pure_eq_ok, mapM_eq_ok, exists_const,
    MatchSpec.compile_eq_ok_iff, parseRuleDelay_eq_ok_iff, ReplyTemplate.parse_eq_ok_iff, hacts]
  constructor
  · rintro ⟨matcher, hmatcher, hafter, hsome, replies, hreplies, delay, hdelay, _, hclose, rfl⟩
    exact
      { matcher := hmatcher
        after := rfl
        fromOne := Nat.pos_of_ne_zero hafter
        acts := hsome
        replies := hreplies
        delay := hdelay
        close := rfl
        sendable := checkClose_eq_ok_iff.mp hclose }
  · intro h
    obtain ⟨matcher, after, replies, delay, close⟩ := rule
    obtain rfl : after = spec.after.getD 1 := h.after
    obtain rfl : close = spec.close.map CloseSpec.frame := h.close
    exact ⟨matcher, h.matcher, h.fromOne.ne', h.acts, replies, h.replies, delay, h.delay, (),
      checkClose_eq_ok_iff.mpr h.sendable, rfl⟩

namespace Rules

theorem compileFrom_eq_ok_iff {number : ℕ} {specs : List RuleSpec} {rules : List Rule} :
    compileFrom number specs = .ok rules ↔ List.Forall₂ Rule.Follows specs rules := by
  induction specs generalizing number rules with
  | nil =>
    rw [compileFrom, List.forall₂_nil_left_iff]
    exact ⟨fun h => (Except.ok.inj h).symm, fun h => congrArg _ h.symm⟩
  | cons spec rest ih =>
    rw [compileFrom, List.forall₂_cons_left_iff]
    cases hspec : Rule.compile spec with
    | error message =>
      refine ⟨fun h => absurd h (by simp), ?_⟩
      rintro ⟨rule, -, hrule, -⟩
      exact absurd (hspec.symm.trans (Rule.compile_eq_ok_iff.mpr hrule)) (by simp)
    | ok rule =>
      have hrule := Rule.compile_eq_ok_iff.mp hspec
      constructor
      · intro h
        obtain ⟨others, hothers, rfl⟩ := map_eq_ok.mp h
        exact ⟨rule, others, hrule, ih.mp hothers, rfl⟩
      · rintro ⟨other, others, hother, hothers, rfl⟩
        obtain rfl := Except.ok.inj (hspec.symm.trans (Rule.compile_eq_ok_iff.mpr hother))
        exact map_eq_ok.mpr ⟨others, ih.mpr hothers, rfl⟩

/-- The first rule that cannot be compiled, and why. -/
def FirstWrong (specs : List RuleSpec) (number : ℕ) (message : String) : Prop :=
  ∃ before spec after, specs = before ++ spec :: after
    ∧ (∀ spec ∈ before, ∃ rule, Rule.Follows spec rule)
    ∧ Rule.compile spec = .error message ∧ number = before.length

theorem compileFrom_eq_error_iff {number : ℕ} {specs : List RuleSpec} {error : String} :
    compileFrom number specs = .error error
      ↔ ∃ index message, FirstWrong specs index message
        ∧ error = ruleError (number + index) message := by
  induction specs generalizing number with
  | nil =>
    refine ⟨fun h => absurd h (by simp [compileFrom]), ?_⟩
    rintro ⟨index, message, ⟨before, spec, after, hnil, -⟩, -⟩
    exact absurd hnil (by simp)
  | cons spec rest ih =>
    rw [compileFrom]
    cases hspec : Rule.compile spec with
    | error message =>
      constructor
      · intro h
        exact ⟨0, message, ⟨[], spec, rest, rfl, by simp, hspec, rfl⟩, (Except.error.inj h).symm⟩
      · rintro ⟨index, other, ⟨before, wrong, after, hsplit, hbefore, hwrong, rfl⟩, rfl⟩
        cases before with
        | nil =>
          obtain ⟨rfl, rfl⟩ := List.cons.inj hsplit
          rw [Except.error.inj (hspec.symm.trans hwrong)]
          rfl
        | cons first others =>
          obtain ⟨rfl, -⟩ := List.cons.inj hsplit
          obtain ⟨rule, hrule⟩ := hbefore _ List.mem_cons_self
          exact absurd (hspec.symm.trans (Rule.compile_eq_ok_iff.mpr hrule)) (by simp)
    | ok rule =>
      have hrest : (compileFrom (number + 1) rest).map (rule :: ·) = .error error
          ↔ compileFrom (number + 1) rest = .error error := by
        cases compileFrom (number + 1) rest <;> simp [Except.map]
      rw [hrest, ih]
      constructor
      · rintro ⟨index, message, ⟨before, wrong, after, rfl, hbefore, hwrong, rfl⟩, rfl⟩
        refine ⟨before.length + 1, message,
          ⟨spec :: before, wrong, after, rfl, ?_, hwrong, rfl⟩, ?_⟩
        · rintro other hother
          rcases List.mem_cons.mp hother with rfl | hother
          · exact ⟨rule, Rule.compile_eq_ok_iff.mp hspec⟩
          · exact hbefore other hother
        · rw [Nat.add_right_comm, Nat.add_assoc]
      · rintro ⟨index, message, ⟨before, wrong, after, hsplit, hbefore, hwrong, rfl⟩, rfl⟩
        cases before with
        | nil =>
          obtain ⟨rfl, rfl⟩ := List.cons.inj hsplit
          exact absurd (hspec.symm.trans hwrong) (by simp)
        | cons first others =>
          obtain ⟨rfl, rfl⟩ := List.cons.inj hsplit
          refine ⟨others.length, message, ⟨others, wrong, after, rfl, ?_, hwrong, rfl⟩, ?_⟩
          · exact fun other hother => hbefore other (List.mem_cons_of_mem _ hother)
          · rw [List.length_cons, Nat.add_right_comm, Nat.add_assoc]

/-- What a rules file has to hold, to become these rules. -/
structure Reads (file : RulesFile) (rules : Rules) : Prop where
  version : file.version = "1.0"
  nonempty : file.rules ≠ []
  follow : List.Forall₂ Rule.Follows file.rules rules.rules
  unmatched : rules.unmatched = file.unmatched

variable {decode : String → Except String RulesFile} {text source : String} {file : RulesFile}

theorem parse_eq_ok_iff (hfile : decode text = .ok file) {rules : Rules} :
    parse decode text source = .ok rules ↔ Reads file rules := by
  unfold parse
  rw [hfile]
  dsimp only
  by_cases hversion : file.version = "1.0"
  · rw [if_neg (not_not.mpr hversion)]
    by_cases hnone : file.rules = []
    · rw [if_pos hnone]
      exact iff_of_false (by simp) fun h => h.nonempty hnone
    · rw [if_neg hnone]
      cases hcompiled : compileFrom 1 file.rules with
      | error message =>
        refine iff_of_false (by simp) fun h => ?_
        exact absurd (hcompiled.symm.trans (compileFrom_eq_ok_iff.mpr h.follow)) (by simp)
      | ok compiled =>
        have hrules := compileFrom_eq_ok_iff.mp hcompiled
        constructor
        · intro h
          obtain rfl := Except.ok.inj h
          exact ⟨hversion, hnone, hrules, rfl⟩
        · intro h
          obtain ⟨others, unmatched⟩ := rules
          obtain rfl : unmatched = file.unmatched := h.unmatched
          obtain rfl := Except.ok.inj (hcompiled.symm.trans (compileFrom_eq_ok_iff.mpr h.follow))
          rfl
  · rw [if_pos hversion]
    exact iff_of_false (by simp) fun h => hversion h.version

/-- **Which rules files are accepted**, as which rules: those whose every rule
names a matcher, counts from 1, does something, spells its replies, and has a
delay and a Close frame that can be used. Else the first rule that is wrong is
reported, by its number. -/
theorem rules_file_accepted_iff (decode : String → Except String RulesFile) (text source : String) :
    (∀ rules, parse decode text source = .ok rules
        ↔ ∃ file, decode text = .ok file ∧ Reads file rules)
      ∧ ∀ file, decode text = .ok file → file.version = "1.0" → file.rules ≠ [] → ∀ error,
        parse decode text source = .error error ↔ ∃ index message,
          FirstWrong file.rules index message
            ∧ error = fileError source (ruleError (1 + index) message) := by
  constructor
  · intro rules
    cases hfile : decode text with
    | error err =>
      refine iff_of_false (by simp [parse, hfile]) ?_
      rintro ⟨file, hother, -⟩
      exact absurd hother (by simp)
    | ok file =>
      rw [parse_eq_ok_iff hfile]
      refine ⟨fun h => ⟨file, rfl, h⟩, ?_⟩
      rintro ⟨other, hother, h⟩
      obtain rfl := Except.ok.inj hother
      exact h
  · intro file hfile hversion hsome error
    unfold parse
    rw [hfile]
    dsimp only
    rw [if_neg (not_not.mpr hversion), if_neg hsome]
    cases hcompiled : compileFrom 1 file.rules with
    | error message =>
      obtain ⟨index, wrong, hwrong, rfl⟩ := compileFrom_eq_error_iff.mp hcompiled
      constructor
      · intro h
        exact ⟨index, wrong, hwrong, (Except.error.inj h).symm⟩
      · rintro ⟨other, message, hother, rfl⟩
        have hsame : compileFrom 1 file.rules = .error (ruleError (1 + other) message) :=
          compileFrom_eq_error_iff.mpr ⟨other, message, hother, rfl⟩
        rw [Except.error.inj (hcompiled.symm.trans hsame)]
    | ok rules =>
      refine iff_of_false (by simp) ?_
      rintro ⟨index, message, hwrong, -⟩
      have herror : compileFrom 1 file.rules = .error (ruleError (1 + index) message) :=
        compileFrom_eq_error_iff.mpr ⟨index, message, hwrong, rfl⟩
      exact absurd (hcompiled.symm.trans herror) (by simp)

/-- Every rule that was read is one of the file's, checked. -/
theorem follows_of_parse {rules : Rules} (h : parse decode text source = .ok rules) {rule : Rule}
    (hrule : rule ∈ rules.rules) : ∃ spec, Rule.Follows spec rule := by
  cases hfile : decode text with
  | error err => exact absurd h (by simp [parse, hfile])
  | ok file =>
    have hfollow := ((parse_eq_ok_iff hfile).mp h).follow
    obtain ⟨i, hi, rfl⟩ := List.getElem_of_mem hrule
    exact ⟨_, hfollow.get (hfollow.length_eq ▸ hi) hi⟩

end Rules

end WsBlast
