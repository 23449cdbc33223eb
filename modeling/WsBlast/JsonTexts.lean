import WsBlast.Basic

/-!
# JSON values and their texts

The values `serde_json` holds are those of `Json` whose objects name every
field once, in order (`Json.IsValue`); a library that reads their texts back
(`Serde.ReadsBack`) reads what it wrote. `compactSerde` is such a library: it
writes the compact text of a value, and reads exactly those texts. It has no
numbers.

`Json` has texts for numbers and lists for objects, so it has values that no
library would hold: an object that names a field twice, or out of order where
the library sorts. `IsValue` leaves these out. What is assumed of a library is
about the values that it holds alone, and the program hands it no other.
-/

namespace WsBlast

/-! ## The values a library holds

The predicate follows the structure of a value, with one clause for lists and
one for fields. -/

namespace Json

section Values

variable (isNumber : String → Prop)

mutual

/-- A value as it is held: a number is one of the texts of numbers, and the
names of an object are in order. -/
def IsValue : Json → Prop
  | .number text => isNumber text
  | .array items => AreValues items
  | .object fields => (fields.map Prod.fst).Pairwise (· < ·) ∧ AreFields fields
  | _ => True
termination_by structural value => value

/-- Each item of an array is one, -/
def AreValues : List Json → Prop
  | [] => True
  | value :: items => IsValue value ∧ AreValues items
termination_by structural items => items

/-- and so is each field -/
def AreFields : List (String × Json) → Prop
  | [] => True
  | field :: fields => IsField field ∧ AreFields fields
termination_by structural fields => fields

/-- by its value. -/
def IsField : String × Json → Prop
  | (_, value) => IsValue value
termination_by structural field => field

end

end Values

end Json

namespace Serde

variable (serde : Serde)

/-- A value that the library holds. -/
def Holds (value : Json) : Prop :=
  value.IsValue fun text => serde.fromStr text = some (.number text)

/-- The library holds what it reads, and reads what it wrote. -/
structure ReadsBack : Prop where
  holds : ∀ text value, serde.fromStr text = some value → serde.Holds value
  reads : ∀ value, serde.Holds value → serde.fromStr (serde.toText value) = some value

end Serde

/-! ## Compact texts

Strings with quotes and backslashes escaped, and no white space between tokens.
-/

namespace Json

/-- A character in a string. -/
def escape (c : Char) : List Char := if c = '"' ∨ c = '\\' then ['\\', c] else [c]

/-- A string in quotes. -/
def quoted (text : String) : List Char := '"' :: text.toList.flatMap escape ++ ['"']

mutual

/-- The text of a value without white space. -/
def compact : Json → List Char
  | .null => ['n', 'u', 'l', 'l']
  | .bool true => ['t', 'r', 'u', 'e']
  | .bool false => ['f', 'a', 'l', 's', 'e']
  | .number text => text.toList
  | .string text => quoted text
  | .array items => '[' :: compactItems [] items
  | .object fields => '\x7b' :: compactFields [] fields
termination_by structural value => value

/-- The rest of an array, `front` before its next item. -/
def compactItems (front : List Char) : List Json → List Char
  | [] => [']']
  | value :: items => front ++ compact value ++ compactItems [','] items
termination_by structural items => items

/-- The rest of an object, `front` before its next field. -/
def compactFields (front : List Char) : List (String × Json) → List Char
  | [] => ['\x7d']
  | field :: fields => front ++ compactField field ++ compactFields [','] fields
termination_by structural fields => fields

/-- A field. -/
def compactField : String × Json → List Char
  | (name, value) => quoted name ++ ':' :: compact value
termination_by structural field => field

end

/-- A value without numbers. -/
abbrev Plain : Json → Prop := IsValue fun _ => False

/-! ### A text is the text of one value

Two texts with anything behind them are compared. -/

theorem escape_cases (c : Char) :
    (c = '"' ∨ c = '\\') ∧ escape c = ['\\', c]
      ∨ c ≠ '"' ∧ c ≠ '\\' ∧ escape c = [c] := by
  unfold escape
  split_ifs with h
  · exact .inl ⟨h, rfl⟩
  · exact .inr ⟨fun hc => h (.inl hc), fun hc => h (.inr hc), rfl⟩

/-- The quote that ends a string is its first unescaped one. -/
theorem escape_cancel {chars chars' rest rest' : List Char}
    (h : chars.flatMap escape ++ '"' :: rest = chars'.flatMap escape ++ '"' :: rest') :
    chars = chars' ∧ rest = rest' := by
  induction chars generalizing chars' with
  | nil =>
    cases chars' with
    | nil => exact ⟨rfl, (List.cons.inj h).2⟩
    | cons c chars' =>
      rcases escape_cases c with ⟨-, hc⟩ | ⟨hquote, -, hc⟩
      · simp [hc] at h
      · simp [hc, Ne.symm hquote] at h
  | cons c chars ih =>
    cases chars' with
    | nil =>
      rcases escape_cases c with ⟨-, hc⟩ | ⟨hquote, -, hc⟩
      · simp [hc] at h
      · simp [hc, hquote] at h
    | cons c' chars' =>
      have hsame : c = c' → c :: chars = c' :: chars' ∧ rest = rest' := by
        rintro rfl
        rw [List.flatMap_cons, List.flatMap_cons, List.append_assoc, List.append_assoc] at h
        obtain ⟨rfl, hrest⟩ := ih (List.append_cancel_left h)
        exact ⟨rfl, hrest⟩
      rcases escape_cases c with ⟨-, hc⟩ | ⟨-, hslash, hc⟩ <;>
        rcases escape_cases c' with ⟨-, hc'⟩ | ⟨-, hslash', hc'⟩ <;>
        simp only [List.flatMap_cons, hc, hc', List.cons_append, List.cons.injEq] at h
      · exact hsame h.2.1
      · exact absurd h.1.symm hslash'
      · exact absurd h.1 hslash
      · exact hsame h.1

theorem quoted_append (text : String) (rest : List Char) :
    quoted text ++ rest = '"' :: (text.toList.flatMap escape ++ '"' :: rest) := by
  simp [quoted]

theorem quoted_cancel {text text' : String} {rest rest' : List Char}
    (h : quoted text ++ rest = quoted text' ++ rest') : text = text' ∧ rest = rest' := by
  rw [quoted_append, quoted_append] at h
  obtain ⟨htext, hrest⟩ := escape_cancel (List.cons.inj h).2
  exact ⟨String.toList_injective htext, hrest⟩

/-- The text of a value starts with a character that closes nothing. -/
theorem exists_compact_eq_cons {value : Json} (h : value.Plain) :
    ∃ c rest, value.compact = c :: rest ∧ c ≠ ']' ∧ c ≠ '\x7d' := by
  cases value with
  | null => exact ⟨_, _, rfl, by decide, by decide⟩
  | bool b => cases b <;> exact ⟨_, _, rfl, by decide, by decide⟩
  | number text => exact h.elim
  | string text => exact ⟨_, _, rfl, by decide, by decide⟩
  | array items => exact ⟨_, _, rfl, by decide, by decide⟩
  | object fields => exact ⟨_, _, rfl, by decide, by decide⟩

mutual

/-- The text of a value ends where the value does. -/
theorem compact_cancel : (value : Json) → ∀ {value' : Json} {rest rest' : List Char},
    value.Plain → value'.Plain → value.compact ++ rest = value'.compact ++ rest' →
      value = value' ∧ rest = rest'
  | .null, value', _, _, _, h', heq => by
    cases value' with
    | null => exact ⟨rfl, List.append_cancel_left heq⟩
    | bool b => cases b <;> simp [compact] at heq
    | number text => exact h'.elim
    | _ => simp [compact, quoted] at heq
  | .bool b, value', _, _, _, h', heq => by
    cases value' with
    | bool b' => cases b <;> cases b' <;> simp_all [compact]
    | number text => exact h'.elim
    | _ => cases b <;> simp [compact, quoted] at heq
  | .number _, _, _, _, h, _, _ => h.elim
  | .string text, value', _, _, _, h', heq => by
    cases value' with
    | string text' =>
      obtain ⟨rfl, hrest⟩ := quoted_cancel heq
      exact ⟨rfl, hrest⟩
    | bool b => cases b <;> simp [compact, quoted] at heq
    | number text => exact h'.elim
    | _ => simp [compact, quoted] at heq
  | .array items, value', _, _, h, h', heq => by
    cases value' with
    | array items' =>
      obtain ⟨rfl, hrest⟩ := compactItems_cancel items (.inl rfl) h h' (List.cons.inj heq).2
      exact ⟨rfl, hrest⟩
    | bool b => cases b <;> simp [compact] at heq
    | number text => exact h'.elim
    | _ => simp [compact, quoted] at heq
  | .object fields, value', _, _, h, h', heq => by
    cases value' with
    | object fields' =>
      obtain ⟨rfl, hrest⟩ := compactFields_cancel fields (.inl rfl) h.2 h'.2 (List.cons.inj heq).2
      exact ⟨rfl, hrest⟩
    | bool b => cases b <;> simp [compact] at heq
    | number text => exact h'.elim
    | _ => simp [compact, quoted] at heq
termination_by structural value => value

theorem compactItems_cancel : (items : List Json) → ∀ {front : List Char} {items' : List Json}
    {rest rest' : List Char}, front = [] ∨ front = [','] →
    AreValues (fun _ => False) items → AreValues (fun _ => False) items' →
    compactItems front items ++ rest = compactItems front items' ++ rest' →
      items = items' ∧ rest = rest'
  | [], front, items', _, _, hfront, _, h', heq => by
    cases items' with
    | nil => exact ⟨rfl, List.append_cancel_left heq⟩
    | cons value' items' =>
      obtain ⟨c, text, htext, hc, -⟩ := exists_compact_eq_cons h'.1
      rcases hfront with rfl | rfl <;> simp [compactItems, htext, hc.symm] at heq
  | value :: items, front, items', _, _, hfront, h, h', heq => by
    cases items' with
    | nil =>
      obtain ⟨c, text, htext, hc, -⟩ := exists_compact_eq_cons h.1
      rcases hfront with rfl | rfl <;> simp [compactItems, htext, hc] at heq
    | cons value' items' =>
      rw [compactItems, compactItems] at heq
      simp only [List.append_assoc] at heq
      obtain ⟨rfl, htail⟩ := compact_cancel value h.1 h'.1 (List.append_cancel_left heq)
      obtain ⟨rfl, hrest⟩ := compactItems_cancel items (.inr rfl) h.2 h'.2 htail
      exact ⟨rfl, hrest⟩
termination_by structural items => items

theorem compactFields_cancel : (fields : List (String × Json)) → ∀ {front : List Char}
    {fields' : List (String × Json)} {rest rest' : List Char}, front = [] ∨ front = [','] →
    AreFields (fun _ => False) fields → AreFields (fun _ => False) fields' →
    compactFields front fields ++ rest = compactFields front fields' ++ rest' →
      fields = fields' ∧ rest = rest'
  | [], front, fields', _, _, hfront, _, h', heq => by
    cases fields' with
    | nil => exact ⟨rfl, List.append_cancel_left heq⟩
    | cons field' fields' =>
      obtain ⟨name', value'⟩ := field'
      rcases hfront with rfl | rfl <;> simp [compactFields, compactField, quoted] at heq
  | field :: fields, front, fields', _, _, hfront, h, h', heq => by
    cases fields' with
    | nil =>
      obtain ⟨name, value⟩ := field
      rcases hfront with rfl | rfl <;> simp [compactFields, compactField, quoted] at heq
    | cons field' fields' =>
      rw [compactFields, compactFields] at heq
      simp only [List.append_assoc] at heq
      obtain ⟨rfl, htail⟩ := compactField_cancel field h.1 h'.1 (List.append_cancel_left heq)
      obtain ⟨rfl, hrest⟩ := compactFields_cancel fields (.inr rfl) h.2 h'.2 htail
      exact ⟨rfl, hrest⟩
termination_by structural fields => fields

theorem compactField_cancel : (field : String × Json) → ∀ {field' : String × Json}
    {rest rest' : List Char}, IsField (fun _ => False) field → IsField (fun _ => False) field' →
    compactField field ++ rest = compactField field' ++ rest' → field = field' ∧ rest = rest'
  | (name, value), (name', value'), _, _, h, h', heq => by
    rw [compactField, compactField, List.append_assoc, List.append_assoc] at heq
    obtain ⟨rfl, hvalue⟩ := quoted_cancel heq
    obtain ⟨rfl, hrest⟩ := compact_cancel value h h' (List.cons.inj hvalue).2
    exact ⟨rfl, hrest⟩
termination_by structural field => field

end

/-- A text is the text of one value. -/
theorem compact_injective {value value' : Json} (h : value.Plain) (h' : value'.Plain)
    (heq : value.compact = value'.compact) : value = value' :=
  (compact_cancel value h h' (congrArg (· ++ []) heq)).1

end Json

/-! ## A library -/

open Classical in
/-- A library that writes compact texts, and reads them alone. -/
noncomputable def compactSerde : Serde where
  toText value := String.ofList value.compact
  fromStr text :=
    if h : ∃ value : Json, value.Plain ∧ String.ofList value.compact = text then some h.choose
    else none

theorem compactSerde_fromStr_toText {value : Json} (h : value.Plain) :
    compactSerde.fromStr (compactSerde.toText value) = some value := by
  have hex : ∃ value' : Json,
      value'.Plain ∧ String.ofList value'.compact = String.ofList value.compact := ⟨value, h, rfl⟩
  have hspec := hex.choose_spec
  unfold compactSerde
  dsimp only
  rw [dif_pos hex]
  exact congrArg some (Json.compact_injective hspec.1 h (String.ofList_injective hspec.2))

theorem plain_of_compactSerde_fromStr {text : String} {value : Json}
    (h : compactSerde.fromStr text = some value) : value.Plain := by
  unfold compactSerde at h
  dsimp only at h
  split_ifs at h with hex
  cases h
  exact hex.choose_spec.1

theorem compactSerde_holds : compactSerde.Holds = Json.Plain := by
  have hnumber : (fun text => compactSerde.fromStr text = some (.number text))
      = fun _ => False := by
    funext text
    exact propext ⟨plain_of_compactSerde_fromStr, False.elim⟩
  funext value
  show value.IsValue _ = _
  rw [hnumber]

theorem compactSerde_readsBack : compactSerde.ReadsBack where
  holds text value h := by
    rw [compactSerde_holds]
    exact plain_of_compactSerde_fromStr h
  reads value h := by
    rw [compactSerde_holds] at h
    exact compactSerde_fromStr_toText h

end WsBlast
