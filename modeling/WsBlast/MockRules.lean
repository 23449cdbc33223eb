import WsBlast.Message

/-!
# Scripted replies of the mock server

A rules file is a list of rules tried in order for every data frame a
connection receives. `Rules.decide` walks the list as the mock does;
`Rules.decide_eq` says what it finds: the first rule that fits the frame and
its number decides, and a frame no rule fits is echoed or ignored.

A rule names the frames it applies to: every frame, a text, or a JSON value at
a pointer, which may have to be there only or equal a given one. It may also
wait until the connection has received a number of frames. A rule that fits can
reply with several frames, delay them and close the connection behind them.
-/

namespace WsBlast

/-! ## Rules

A rule as it is used, after the file has been checked. -/

/-- What a connection does with a frame no rule matches. -/
inductive Unmatched where
  | echo
  | ignore
  deriving DecidableEq, Repr

/-- Which frames a rule applies to. -/
inductive Matcher where
  /-- Every data frame. -/
  | any
  /-- Text frames equal to this text. -/
  | text (expected : String)
  /-- Frames whose JSON has a value at the pointer, equal to `equals` when
  given. -/
  | json (pointer : String) (equals : Option Json)

/-- One piece of a reply template. -/
inductive ReplyPart where
  | literal (text : String)
  /-- The received frame as text. -/
  | request
  /-- The frame's number on its connection, from 1. -/
  | seq
  /-- The JSON value at the pointer, written as JSON. -/
  | json (pointer : String)

namespace ReplyPart

/-- Whether the piece reads the request's JSON. -/
def readsJson : ReplyPart → Bool
  | .json _ => true
  | _ => false

/-- The text of the piece. -/
def render (serde : Serde) (request : String) (seq : ℕ) (json : Option Json) : ReplyPart → String
  | .literal text => text
  | .request => request
  | .seq => toString seq
  | .json pointer =>
    match json.bind (·.pointer pointer) with
    | some value => serde.toText value
    | none => "null"

end ReplyPart

/-- A template of a reply. -/
abbrev ReplyTemplate := List ReplyPart

/-- The text of a template. -/
def ReplyTemplate.render (serde : Serde) (request : String) (seq : ℕ) (json : Option Json)
    (template : ReplyTemplate) : String :=
  template.foldl (fun out part => out ++ part.render serde request seq json) ""

/-- A rule. -/
structure Rule where
  matcher : Matcher
  /-- The first frame number (from 1) the rule applies to. -/
  after : ℕ
  replies : List ReplyTemplate
  delay : Option Duration
  close : Option CloseFrame

/-- A validated rules file. -/
structure Rules where
  rules : List Rule
  unmatched : Unmatched

/-! ## Decisions

What a rule decides about one frame, and which rule it is. -/

/-- What a connection does with one received frame. -/
inductive Decision where
  /-- Send the frame back unchanged. -/
  | echo
  /-- Send nothing. -/
  | ignore
  /-- Send these frames, after `delay` instead of the server's when one is
  set, then close when `close` is set. -/
  | reply (frames : List Message) (delay : Option Duration) (close : Option CloseFrame)
  deriving DecidableEq

section Decide

variable (serde : Serde)

/-- Whether a frame is one the matcher names. -/
def Matcher.matches (message : Message) : Matcher → Bool
  | .any => true
  | .text expected => message == .text expected
  | .json pointer equals =>
    match (replyJson serde message).bind (·.pointer pointer), equals with
    | some found, some expected => found == expected
    | some _, none => true
    | none, _ => false

namespace Rule

/-- What a rule that fits sends. -/
def reply (rule : Rule) (message : Message) (seq : ℕ) : Decision :=
  let needsJson := rule.replies.any (·.any ReplyPart.readsJson)
  let value := if needsJson then replyJson serde message else none
  .reply
    (rule.replies.map fun template =>
      .text (template.render serde ((replyText message).getD "") seq value))
    rule.delay rule.close

/-- Whether the rule fits the `seq`-th frame of a connection. -/
def Fits (rule : Rule) (message : Message) (seq : ℕ) : Prop :=
  rule.after ≤ seq ∧ rule.matcher.matches serde message = true

instance (rule : Rule) (message : Message) (seq : ℕ) : Decidable (rule.Fits serde message seq) :=
  inferInstanceAs (Decidable (_ ∧ _))

end Rule

namespace Rules

/-- Decides by the first of these rules, and by `unmatched` without one. -/
def decideFrom (unmatched : Unmatched) (message : Message) (seq : ℕ) : List Rule → Decision
  | [] =>
    match unmatched with
    | .echo => .echo
    | .ignore => .ignore
  | rule :: rest =>
    if seq < rule.after then decideFrom unmatched message seq rest
    else if rule.matcher.matches serde message = false then decideFrom unmatched message seq rest
    else rule.reply serde message seq

/-- Decides what to send for a frame, the `seq`-th data frame (from 1) its
connection received. -/
def decide (rules : Rules) (message : Message) (seq : ℕ) : Decision :=
  decideFrom serde rules.unmatched message seq rules.rules

/-- **The first rule that fits decides.** -/
theorem decide_eq (rules : Rules) (message : Message) (seq : ℕ) :
    rules.decide serde message seq
      = match rules.rules.find? fun rule => rule.Fits serde message seq with
        | some rule => rule.reply serde message seq
        | none => match rules.unmatched with
          | .echo => .echo
          | .ignore => .ignore := by
  unfold decide
  induction rules.rules with
  | nil => rfl
  | cons rule rest ih =>
    by_cases hfits : rule.Fits serde message seq
    · obtain ⟨hafter, hmatches⟩ := hfits
      have hfits : rule.Fits serde message seq := ⟨hafter, hmatches⟩
      simp [decideFrom, hfits, hmatches, Nat.not_lt.mpr hafter]
    · have hnext : decideFrom serde rules.unmatched message seq (rule :: rest)
          = decideFrom serde rules.unmatched message seq rest := by
        rw [decideFrom]
        -- a rule that does not fit yet, or does not match, passes the frame on
        by_cases hafter : seq < rule.after
        · rw [if_pos hafter]
        · have hmatches : rule.matcher.matches serde message = false := by
            by_contra hmatches
            exact hfits ⟨Nat.not_lt.mp hafter, Bool.not_eq_false _ ▸ hmatches⟩
          rw [if_neg hafter, if_pos hmatches]
      rw [hnext, ih, List.find?_cons_of_neg (by simpa using hfits)]

end Rules

end Decide

end WsBlast
