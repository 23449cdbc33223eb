import WsBlast.Lib.Checked
import WsBlast.Message

/-!
# How reply rules are spelled

`--match` and `--expect` are read from their spelling on the command line,
and a distributed run sends them to its agents in that spelling. The
functions here read a rule (`ReplyMatch.fromStr`, `Check.parseFlag`), check
it (`Check.validate`, `isJsonPointer`) and write it (`Check.flagValue`).

What is written is read back as it was, for every rule the program holds:
`ReplyMatch.fromStr_flagValue` and `Check.parseFlag_flagValue`.

The spellings have to be unambiguous for this. A check for a value is spelled
with the pointer, an equals sign and JSON, and it is cut at the first equals
sign, so a pointer with one in it cannot be spelled. A check that was read
from a flag has no such pointer. A check for a text takes everything behind
its prefix.
-/

namespace WsBlast

/-! ## Pointers

Two notions of a valid pointer, one for rules and one for checks. -/

/-- Whether every `~` of a pointer is followed by `0` or `1`. -/
def escapesAreValid : List Char → Bool
  | [] => true
  | [c] => c ≠ '~'
  | c :: d :: rest =>
    if c = '~' then (d = '0' || d = '1') && escapesAreValid rest
    else escapesAreValid (d :: rest)

/-- Checks RFC 6901 syntax: empty, or `/`-prefixed tokens where `~` only
appears as the escapes `~0` and `~1`. -/
def isJsonPointer (pointer : String) : Bool :=
  if pointer = "" then true
  else if pointer.toList.head? ≠ some '/' then false
  else escapesAreValid pointer.toList

/-- The error for a `--match` pointer that is not one. -/
def invalidJsonPointer (pointer : String) : ConfigError :=
  .unsupportedOption
    s!"--match json:{pointer}: '{pointer}' is not a valid RFC 6901 JSON pointer (use '' or '/'-separated tokens, escaping '~' as '~0' and '/' as '~1')"

/-- Rejects a text that is neither empty nor starts with `/`. -/
def checkPointer (pointer : String) : Except String Unit :=
  if pointer = "" ∨ pointer.toList.head? = some '/' then .ok ()
  else .error
    s!"'{pointer}' is not a JSON pointer: it must be empty or start with '/', such as /status"

/-! ## Matching rules -/

namespace ReplyMatch

/-- Reads `first`, `exact` or `json:POINTER`. -/
def fromStr (raw : String) : Except ConfigError ReplyMatch :=
  if raw = "first" then .ok .first
  else if raw = "exact" then .ok .exact
  else match textAfter "json:" raw with
    | some pointer =>
      if isJsonPointer pointer then .ok (.jsonPointer pointer)
      else .error (invalidJsonPointer pointer)
    | none => .error (.unsupportedOption
        s!"--match '{raw}' is not supported; use first, exact or json:<pointer>")

/-- Whether the rule's pointer, if it has one, is one. -/
def pointerIsValid : ReplyMatch → Bool
  | .jsonPointer pointer => isJsonPointer pointer
  | _ => true

end ReplyMatch

/-! ## Checks -/

namespace Check

/-- Checks a JSON pointer's syntax, and that there is a text to look for. -/
def validate : Check → Except String Unit
  | .json pointer _ => checkPointer pointer
  | .contains text =>
    if text = "" then .error "contains needs the text to look for" else .ok ()

/-- Reads the `--expect` spelling: `json:/pointer`, `json:/pointer=VALUE` or
`contains:TEXT`. `VALUE` is read as JSON when it is valid JSON, and as a
string otherwise. -/
def parseFlag (serde : Serde) (spec : String) : Except String Check :=
  match textAfter "contains:" spec with
  | some text =>
    if text = "" then .error "--expect contains: needs the text to look for"
    else .ok (.contains text)
  | none =>
    match textAfter "json:" spec with
    | none => .error
        s!"invalid --expect '{spec}': expected json:/pointer, json:/pointer=VALUE or contains:TEXT"
    | some rest =>
      let check := match splitOnce '=' rest with
        | some (pointer, value) =>
          Check.json pointer (some ((serde.fromStr value).getD (.string value)))
        | none => Check.json rest none
      check.validate.map (fun _ => check)

/-- The `--expect` spelling of the check. -/
def flagValue (serde : Serde) : Check → String
  | .json pointer none => "json:" ++ pointer
  | .json pointer (some value) => "json:" ++ pointer ++ "=" ++ serde.toText value
  | .contains text => "contains:" ++ text

/-- A check that a flag can spell: its pointer, which is one, has no `=` in
it, and there is a text to look for. -/
def Spellable : Check → Prop
  | .json pointer _ => checkPointer pointer = .ok () ∧ '=' ∉ pointer.toList
  | .contains text => text ≠ ""

end Check

/-- Rejects a variable name that is not one, or that a built-in placeholder
has. -/
def checkVarName (name : String) : Except String Unit :=
  let isLetter (c : Char) : Bool := c.isAlpha || c = '_'
  let valid := match name.toList with
    | [] => false
    | c :: rest => isLetter c && rest.all (fun c => isLetter c || c.isDigit)
  if valid = false then
    .error s!"'{name}' cannot name a variable: use letters, digits and _, starting with a letter or _"
  else if name = "seq" ∨ name = "timestamp" ∨ name = "worker_id" ∨ name = "data" then
    .error s!"'{name}' is a built-in placeholder and cannot be captured"
  else .ok ()

/-! ## What is written is read back

Cutting at the first separator undoes joining with it, where the first part has
none. -/

/-- A rule whose pointer is one is read back from its spelling. -/
theorem ReplyMatch.fromStr_flagValue (rule : ReplyMatch) (h : rule.pointerIsValid = true) :
    ReplyMatch.fromStr rule.flagValue = .ok rule := by
  cases rule with
  | first => rfl
  | exact => rfl
  | jsonPointer pointer =>
    have hne : ∀ word : String, word.toList.head? ≠ some 'j' → "json:" ++ pointer ≠ word := by
      intro word hword heq
      refine hword ?_
      rw [← heq, String.toList_append]
      rfl
    show ReplyMatch.fromStr ("json:" ++ pointer) = _
    unfold ReplyMatch.fromStr
    rw [if_neg (hne "first" (by decide)), if_neg (hne "exact" (by decide)), textAfter_append]
    exact if_pos h

theorem cutAt_of_not_mem {separator : Char} {chars : List Char} (h : separator ∉ chars) :
    cutAt separator chars = none := by
  induction chars with
  | nil => rfl
  | cons c rest ih =>
    rw [List.mem_cons, not_or] at h
    rw [cutAt, if_neg (Ne.symm h.1), ih h.2]
    rfl

theorem cutAt_append {separator : Char} {before : List Char} (h : separator ∉ before)
    (after : List Char) :
    cutAt separator (before ++ separator :: after) = some (before, after) := by
  induction before with
  | nil => exact if_pos rfl
  | cons c rest ih =>
    rw [List.mem_cons, not_or] at h
    rw [List.cons_append, cutAt, if_neg (Ne.symm h.1), ih h.2]
    rfl

/-- A text is cut in front of its first separator. -/
theorem not_mem_of_cutAt {separator : Char} {chars : List Char} {cut : List Char × List Char}
    (h : cutAt separator chars = some cut) : separator ∉ cut.1 := by
  induction chars generalizing cut with
  | nil => cases h
  | cons c rest ih =>
    rw [cutAt] at h
    split at h
    case isTrue => cases h; simp
    case isFalse hc =>
      obtain ⟨inner, hinner, rfl⟩ := Option.map_eq_some_iff.mp h
      simp [ih hinner, Ne.symm hc]

theorem mem_of_cutAt_eq_none {separator : Char} {chars : List Char}
    (h : cutAt separator chars = none) : separator ∉ chars := by
  induction chars with
  | nil => simp
  | cons c rest ih =>
    rw [cutAt] at h
    split at h
    case isTrue => cases h
    case isFalse hc => simp [ih (Option.map_eq_none_iff.mp h), Ne.symm hc]

/-- What a check must hold on to is what its flag spells. -/
theorem Check.validate_spellable {check : Check} (h : check.validate = .ok ())
    (heq : ∀ pointer equals, check = .json pointer equals → '=' ∉ pointer.toList) :
    check.Spellable := by
  cases check with
  | json pointer equals => exact ⟨h, heq pointer equals rfl⟩
  | contains text =>
    intro htext
    subst htext
    cases h

/-- Every check read from a flag can be spelled by one. -/
theorem Check.spellable_of_parseFlag {serde : Serde} {spec : String} {check : Check}
    (h : Check.parseFlag serde spec = .ok check) : check.Spellable := by
  unfold Check.parseFlag at h
  split at h
  case h_1 text _ =>
    split at h
    case isTrue => cases h
    case isFalse hne => cases h; exact hne
  case h_2 =>
    split at h
    case h_1 => cases h
    case h_2 rest _ =>
      obtain ⟨_, hvalid, rfl⟩ := Checked.map_eq_ok.mp h
      refine Check.validate_spellable hvalid fun pointer equals heq => ?_
      split at heq
      case h_1 first value hsplit =>
        cases heq
        obtain ⟨cut, hcut, hpair⟩ := Option.map_eq_some_iff.mp hsplit
        cases hpair
        rw [String.toList_ofList]
        exact not_mem_of_cutAt hcut
      case h_2 hsplit =>
        cases heq
        exact mem_of_cutAt_eq_none (Option.map_eq_none_iff.mp hsplit)

/-- **A check is read back from its spelling**, when the JSON text of its
value is. -/
theorem Check.parseFlag_flagValue {serde : Serde} {check : Check} (h : check.Spellable)
    (hserde : ∀ pointer value, check = .json pointer (some value) →
      serde.fromStr (serde.toText value) = some value) :
    Check.parseFlag serde (check.flagValue serde) = .ok check := by
  have hcontains : ∀ rest, textAfter "contains:" ("json:" ++ rest) = none := by
    intro rest
    unfold textAfter
    rw [String.toList_append]
    exact if_neg (by simp)
  cases check with
  | contains text =>
    show Check.parseFlag serde ("contains:" ++ text) = _
    unfold Check.parseFlag
    rw [textAfter_append]
    exact if_neg h
  | json pointer equals =>
    obtain ⟨hpointer, heq⟩ := h
    cases equals with
    | none =>
      show Check.parseFlag serde ("json:" ++ pointer) = _
      unfold Check.parseFlag splitOnce
      simp only [hcontains, textAfter_append, cutAt_of_not_mem heq]
      exact Checked.map_eq_ok.mpr ⟨(), hpointer, rfl⟩
    | some value =>
      have hflag : (Check.json pointer (some value)).flagValue serde
          = "json:" ++ (pointer ++ "=" ++ serde.toText value) := by
        simp only [Check.flagValue, String.append_assoc]
      have hcut : cutAt '=' (pointer ++ "=" ++ serde.toText value).toList
          = some (pointer.toList, (serde.toText value).toList) := by
        rw [String.toList_append, String.toList_append, List.append_assoc]
        exact cutAt_append heq _
      rw [hflag]
      unfold Check.parseFlag splitOnce
      simp only [hcontains, textAfter_append, hcut, Option.map_some, String.ofList_toList,
        hserde pointer value rfl, Option.getD_some]
      exact Checked.map_eq_ok.mpr ⟨(), hpointer, rfl⟩

end WsBlast
