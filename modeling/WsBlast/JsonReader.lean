import WsBlast.Builder
import WsBlast.Lib.JsonTokens
import WsBlast.Lib.OrderedMap

/-!
# Reading a JSON text

The grammar of JSON, as `serde_json` reads it: a text is cut into tokens, each
token is read by itself (`lexeme`), and the tokens are put together with a stack
of the arrays and objects that are open (`next`). What a number is held as is
left to the library, and so is which numbers are too large to be held
(`numberText`).

How the tokens are put together depends on which of them are marks, texts or
other values, not on what these are (`next_alike`). An object with other numbers
in its places is therefore an object, unless a number or an escape that one of
the places is in is broken (`isObject_read_fill_iff`).

Some results are about texts that are JSON before the library sees them: a
template with numbers to fill in, whose result has to be an object again. For
these the library's grammar is needed and not only that it inverts its own
writer. The reader here follows RFC 8259 with the limits of `serde_json`, which
gives up at a depth of 128 and keeps the last of several fields of a name.
-/

namespace WsBlast

open JsonTokens

namespace Json

/-! ## The grammar

Lexemes, the stack of open arrays and objects, and what may come next. -/

/-- A token that has been read. -/
inductive Lexeme where
  | mark (mark : Mark)
  /-- `null`, a boolean or a number. -/
  | word (value : Json)
  | text (text : String)

/-- An array or an object that a value is in. -/
inductive Frame where
  | array (items : List Json)
  | object (fields : List (String × Json)) (name : String)

/-- What the reader waits for. -/
inductive Place where
  | value
  /-- A value, or the end of the array that has just been opened. -/
  | items
  /-- The name of a field, or the end of a fresh object. -/
  | names (fields : List (String × Json)) (fresh : Bool)
  | colon (fields : List (String × Json)) (name : String)
  /-- What comes after a value. -/
  | after (value : Json)

/-- The reader between two tokens. -/
structure ReaderState where
  stack : List Frame
  place : Place

/-- Arrays and objects are read when fewer than this are open. -/
def depthLimit : ℕ := 128

/-- A later field of a name takes the place of an earlier one. -/
def setField (name : String) (value : Json) (fields : List (String × Json)) :
    List (String × Json) :=
  OrderedMap.alter name (fun _ => value) fields

/-- The first token of a value. -/
def firstLexeme (stack : List Frame) : Lexeme → Option ReaderState
  | .word value => some ⟨stack, .after value⟩
  | .text text => some ⟨stack, .after (.string text)⟩
  | .mark .openArray =>
    if stack.length + 1 < depthLimit then some ⟨.array [] :: stack, .items⟩ else none
  | .mark .openObject =>
    if stack.length + 1 < depthLimit then some ⟨stack, .names [] true⟩ else none
  | .mark _ => none

/-- The mark behind a value. -/
def markAfter (value : Json) : List Frame → Mark → Option ReaderState
  | .array items :: stack, .comma => some ⟨.array (items ++ [value]) :: stack, .value⟩
  | .array items :: stack, .closeArray => some ⟨stack, .after (.array (items ++ [value]))⟩
  | .object fields name :: stack, .comma =>
    some ⟨stack, .names (setField name value fields) false⟩
  | .object fields name :: stack, .closeObject =>
    some ⟨stack, .after (.object (setField name value fields))⟩
  | _, _ => none

/-- One token more. -/
def next (state : ReaderState) (lexeme : Lexeme) : Option ReaderState :=
  match state.place, lexeme with
  | .value, lexeme => firstLexeme state.stack lexeme
  | .items, .mark .closeArray => some ⟨state.stack.tail, .after (.array [])⟩
  | .items, lexeme => firstLexeme state.stack lexeme
  | .names fields _, .text name => some ⟨state.stack, .colon fields name⟩
  | .names _ true, .mark .closeObject => some ⟨state.stack, .after (.object [])⟩
  | .colon fields name, .mark .colon => some ⟨.object fields name :: state.stack, .value⟩
  | .after value, .mark mark => markAfter value state.stack mark
  | _, _ => none

/-- The value at the end of the tokens. -/
def finished (state : ReaderState) : Option Json :=
  match state.stack, state.place with
  | [], .after value => some value
  | _, _ => none

/-- All tokens, one after the other. -/
def readLexemes (state : ReaderState) (lexemes : List Lexeme) : Option Json :=
  (lexemes.foldlM next state).bind finished

variable (numberText : NumberParts → Option String)

/-- A literal name or a number. -/
def word (chars : List Char) : Option Json :=
  if chars = ['n', 'u', 'l', 'l'] then some .null
  else if chars = ['t', 'r', 'u', 'e'] then some (.bool true)
  else if chars = ['f', 'a', 'l', 's', 'e'] then some (.bool false)
  else ((numberParts chars).bind numberText).map .number

/-- What a token stands for. -/
def lexeme : Token Char → Option Lexeme
  | .mark mark => some (.mark mark)
  | .word chars => (word numberText chars).map .word
  | .text chars => (textFrom .plain chars).map fun text => .text (String.ofList text)

/-- The value of a JSON text. -/
def read (chars : List Char) : Option Json :=
  (tokensFrom charLook .between chars).bind fun tokens =>
    (tokens.mapM (lexeme numberText)).bind (readLexemes ⟨[], .value⟩)

variable {numberText}

/-! ## What the structure of a text depends on

Two runs of the reader over tokens of the same kinds are in states of the same
shape throughout. -/

/-- Two tokens of one kind. -/
inductive Lexeme.Alike : Lexeme → Lexeme → Prop
  | mark (m : Mark) : Alike (.mark m) (.mark m)
  | word {value other : Json} (h : value.isObject = other.isObject) :
      Alike (.word value) (.word other)
  | text (text other : String) : Alike (.text text) (.text other)

/-- Both are arrays, or both are objects. -/
inductive Frame.Alike : Frame → Frame → Prop
  | array (items others : List Json) : Alike (.array items) (.array others)
  | object (fields others : List (String × Json)) (name other : String) :
      Alike (.object fields name) (.object others other)

/-- Both wait for the same. -/
inductive Place.Alike : Place → Place → Prop
  | value : Alike .value .value
  | items : Alike .items .items
  | names (fields others : List (String × Json)) (fresh : Bool) :
      Alike (.names fields fresh) (.names others fresh)
  | colon (fields others : List (String × Json)) (name other : String) :
      Alike (.colon fields name) (.colon others other)
  | after {value other : Json} (h : value.isObject = other.isObject) :
      Alike (.after value) (.after other)

/-- The same arrays and objects are open, and the same is waited for. -/
structure ReaderState.Alike (state other : ReaderState) : Prop where
  stack : List.Forall₂ Frame.Alike state.stack other.stack
  place : state.place.Alike other.place

/-- Both readers refuse, or both go on. -/
abbrev AlikeSteps : Option ReaderState → Option ReaderState → Prop :=
  Option.Rel ReaderState.Alike

theorem firstLexeme_alike {stack others : List Frame}
    (hstack : List.Forall₂ Frame.Alike stack others) {lexeme other : Lexeme}
    (h : lexeme.Alike other) :
    AlikeSteps (firstLexeme stack lexeme) (firstLexeme others other) := by
  have hlength := hstack.length_eq
  cases h with
  | word h => exact .some ⟨hstack, .after h⟩
  | text text other => exact .some ⟨hstack, .after rfl⟩
  | mark m =>
    cases m with
    | openArray =>
      unfold firstLexeme
      rw [hlength]
      split_ifs
      · exact .some ⟨.cons (.array [] []) hstack, .items⟩
      · exact .none
    | openObject =>
      unfold firstLexeme
      rw [hlength]
      split_ifs
      · exact .some ⟨hstack, .names [] [] true⟩
      · exact .none
    | _ => exact .none

theorem markAfter_alike {value value' : Json} {stack others : List Frame}
    (hstack : List.Forall₂ Frame.Alike stack others) (mark : Mark) :
    AlikeSteps (markAfter value stack mark) (markAfter value' others mark) := by
  cases hstack with
  | nil => exact .none
  | cons hframe hstack =>
    cases hframe with
    | array items others =>
      cases mark with
      | comma => exact .some ⟨.cons (.array _ _) hstack, .value⟩
      | closeArray => exact .some ⟨hstack, .after rfl⟩
      | _ => exact .none
    | object fields others name other =>
      cases mark with
      | comma => exact .some ⟨hstack, .names _ _ false⟩
      | closeObject => exact .some ⟨hstack, .after rfl⟩
      | _ => exact .none

/-- **A step depends on the kinds of the tokens alone.** -/
theorem next_alike {state other : ReaderState} (h : state.Alike other) {lexeme lexeme' : Lexeme}
    (hlexeme : lexeme.Alike lexeme') : AlikeSteps (next state lexeme) (next other lexeme') := by
  obtain ⟨stack, place⟩ := state
  obtain ⟨others, place'⟩ := other
  obtain ⟨hstack, hplace⟩ := h
  dsimp only at hstack hplace
  -- by what is waited for, and then by the kind of the token
  cases hplace with
  | value => exact firstLexeme_alike hstack hlexeme
  | items =>
    have hfirst := firstLexeme_alike hstack hlexeme
    cases hlexeme with
    | mark m =>
      cases m with
      | closeArray =>
        have htail : List.Forall₂ Frame.Alike stack.tail others.tail := by
          cases hstack with
          | nil => exact .nil
          | cons _ hstack => exact hstack
        exact .some ⟨htail, .after rfl⟩
      | _ => exact hfirst
    | _ => exact hfirst
  | names fields others fresh =>
    cases hlexeme with
    | mark m =>
      cases fresh with
      | true =>
        cases m with
        | closeObject => exact .some ⟨hstack, .after rfl⟩
        | _ => exact .none
      | false => cases m <;> exact .none
    | word h => cases fresh <;> exact .none
    | text text other => cases fresh <;> exact .some ⟨hstack, .colon _ _ text other⟩
  | colon fields others name other =>
    cases hlexeme with
    | mark m =>
      cases m with
      | colon => exact .some ⟨.cons (.object _ _ _ _) hstack, .value⟩
      | _ => exact .none
    | _ => exact .none
  | after h =>
    cases hlexeme with
    | mark m => exact markAfter_alike hstack m
    | _ => exact .none

theorem finished_alike {state other : ReaderState} (h : state.Alike other) :
    (finished state).any isObject = (finished other).any isObject := by
  obtain ⟨stack, place⟩ := state
  obtain ⟨others, place'⟩ := other
  obtain ⟨hstack, hplace⟩ := h
  dsimp only at hstack hplace
  cases hstack with
  | cons _ _ => rfl
  | nil =>
    cases hplace with
    | after h => exact h
    | _ => rfl

theorem readLexemes_alike {lexemes others : List Lexeme}
    (hlexemes : List.Forall₂ Lexeme.Alike lexemes others) {state other : ReaderState}
    (h : state.Alike other) :
    (readLexemes state lexemes).any isObject = (readLexemes other others).any isObject := by
  induction hlexemes generalizing state other with
  | nil => exact finished_alike h
  | cons hlexeme _ ih =>
    unfold readLexemes
    rw [List.foldlM_cons, List.foldlM_cons]
    have hnext := next_alike h hlexeme
    generalize next state _ = result at hnext ⊢
    generalize next other _ = result' at hnext ⊢
    cases hnext with
    | some hstate => exact ih hstate
    | none => rfl

/-! ## Numbers in the places of a text

A text with places, cut into tokens before the places are filled. -/

section Fill

variable {ι : Type}

/-- Whether what a token is depends on a number in it: a word does, and a text
does when an escape has the number in it. -/
def exposed : Token (Symbol ι) → Bool
  | .mark _ => false
  | .word symbols => symbols.any fun symbol => !symbol.isChar
  | .text symbols => numberInEscape .plain symbols

/-- The tokens of a text with places for numbers in it. -/
def tokensOf (symbols : List (Symbol ι)) : List (Token (Symbol ι)) :=
  (tokensFrom Symbol.look .between symbols).getD []

theorem word_alike {chars others : List Char} {value other : Json}
    (hvalue : word numberText chars = some value) (hother : word numberText others = some other) :
    Lexeme.Alike (.word value) (.word other) := by
  have hplain {chars : List Char} {value : Json} (h : word numberText chars = some value) :
      value.isObject = false := by
    unfold word at h
    split_ifs at h
    · cases h
      rfl
    · cases h
      rfl
    · cases h
      rfl
    · obtain ⟨text, -, rfl⟩ := Option.map_eq_some_iff.mp h
      rfl
  exact .word ((hplain hvalue).trans (hplain hother).symm)

theorem lexeme_fill_alike {token : Token (Symbol ι)} {value other : ι → ℕ} {l l' : Lexeme}
    (h : lexeme numberText (token.fill value) = some l)
    (h' : lexeme numberText (token.fill other) = some l') : l.Alike l' := by
  cases token with
  | mark m =>
    cases h
    cases h'
    exact .mark m
  | word symbols =>
    obtain ⟨json, hjson, rfl⟩ := Option.map_eq_some_iff.mp h
    obtain ⟨json', hjson', rfl⟩ := Option.map_eq_some_iff.mp h'
    exact word_alike hjson hjson'
  | text symbols =>
    obtain ⟨text, -, rfl⟩ := Option.map_eq_some_iff.mp h
    obtain ⟨text', -, rfl⟩ := Option.map_eq_some_iff.mp h'
    exact .text _ _

/-- A token that is not exposed is read with any numbers in it. -/
theorem isSome_lexeme_fill {token : Token (Symbol ι)} (h : exposed token = false)
    (value other : ι → ℕ) :
    (lexeme numberText (token.fill value)).isSome
      = (lexeme numberText (token.fill other)).isSome := by
  cases token with
  | mark m => rfl
  | word symbols =>
    have hsame : symbols.flatMap (Symbol.fill value) = symbols.flatMap (Symbol.fill other) := by
      refine List.flatMap_congr fun symbol hmem => ?_
      have hchar := List.any_eq_false.mp h symbol hmem
      cases symbol with
      | char c => rfl
      | number name => exact absurd rfl hchar
    show ((word numberText (symbols.flatMap (Symbol.fill value))).map Lexeme.word).isSome
      = ((word numberText (symbols.flatMap (Symbol.fill other))).map Lexeme.word).isSome
    rw [hsame]
  | text symbols =>
    show ((textFrom .plain (symbols.flatMap (Symbol.fill value))).map _).isSome
      = ((textFrom .plain (symbols.flatMap (Symbol.fill other))).map _).isSome
    rw [Option.isSome_map, Option.isSome_map]
    exact isSome_textFrom_fill h value other

theorem read_fill (symbols : List (Symbol ι)) (value : ι → ℕ) :
    read numberText (symbols.flatMap (Symbol.fill value))
      = (tokensFrom Symbol.look .between symbols).bind fun tokens =>
          ((tokens.map (Token.fill value)).mapM (lexeme numberText)).bind
            (readLexemes ⟨[], .value⟩) := by
  unfold read
  rw [← show Mode.fill value (.between : Mode (Symbol ι)) = .between from rfl, tokensFrom_fill,
    Option.bind_map]
  rfl

/-- Every token is read when all of them are, and these are what was read. -/
theorem mapM_lexeme_eq_some {tokens : List (Token Char)} {lexemes : List Lexeme} :
    tokens.mapM (lexeme numberText) = some lexemes
      ↔ List.Forall₂ (fun token l => lexeme numberText token = some l) tokens lexemes := by
  induction tokens generalizing lexemes with
  | nil => simp [eq_comm]
  | cons token tokens ih =>
    rw [List.mapM_cons]
    constructor
    · intro h
      obtain ⟨l, hl, h⟩ := Option.bind_eq_some_iff.mp h
      obtain ⟨rest, hrest, h⟩ := Option.bind_eq_some_iff.mp h
      cases h
      exact .cons hl (ih.mp hrest)
    · rintro (_ | ⟨hl, hrest⟩)
      rw [hl, ih.mpr hrest]
      rfl

theorem isSome_mapM_lexeme {tokens : List (Token Char)} :
    (tokens.mapM (lexeme numberText)).isSome = true
      ↔ ∀ token ∈ tokens, (lexeme numberText token).isSome = true := by
  induction tokens with
  | nil => simp
  | cons token tokens ih =>
    rw [List.mapM_cons, List.forall_mem_cons, ← ih]
    cases lexeme numberText token with
    | none => simp
    | some l => cases tokens.mapM (lexeme numberText) <;> simp

theorem forall₂_lexeme_alike {tokens : List (Token (Symbol ι))} {value other : ι → ℕ}
    {lexemes others : List Lexeme}
    (h : List.Forall₂ (fun token l => lexeme numberText token = some l)
      (tokens.map (Token.fill value)) lexemes)
    (h' : List.Forall₂ (fun token l => lexeme numberText token = some l)
      (tokens.map (Token.fill other)) others) : List.Forall₂ Lexeme.Alike lexemes others := by
  induction tokens generalizing lexemes others with
  | nil =>
    cases h
    cases h'
    exact .nil
  | cons token tokens ih =>
    obtain _ | ⟨hl, hrest⟩ := h
    obtain _ | ⟨hl', hrest'⟩ := h'
    exact .cons (lexeme_fill_alike hl hl') (ih hrest hrest')

/-- **An object with other numbers in its places** is an object if and only if
the exposed tokens are tokens with these numbers. -/
theorem isObject_read_fill_iff {symbols : List (Symbol ι)} {value : ι → ℕ}
    (h : (read numberText (symbols.flatMap (Symbol.fill value))).any isObject = true)
    (other : ι → ℕ) :
    (read numberText (symbols.flatMap (Symbol.fill other))).any isObject = true
      ↔ ∀ token ∈ tokensOf symbols, exposed token = true →
          (lexeme numberText (token.fill other)).isSome = true := by
  rw [read_fill] at h ⊢
  unfold tokensOf
  obtain ⟨json, hjson, -⟩ := (Option.any_eq_true _ _).mp h
  obtain ⟨tokens, htokens, hjson⟩ := Option.bind_eq_some_iff.mp hjson
  obtain ⟨lexemes, hlexemes, -⟩ := Option.bind_eq_some_iff.mp hjson
  rw [htokens, Option.bind_some] at h ⊢
  rw [Option.getD_some]
  rw [hlexemes, Option.bind_some] at h
  have hread := isSome_mapM_lexeme.mp (Option.isSome_of_eq_some hlexemes)
  constructor
  · intro hother token hmem _
    obtain ⟨json', hjson', -⟩ := (Option.any_eq_true _ _).mp hother
    obtain ⟨lexemes', hlexemes', -⟩ := Option.bind_eq_some_iff.mp hjson'
    exact isSome_mapM_lexeme.mp (Option.isSome_of_eq_some hlexemes') _
      (List.mem_map_of_mem hmem)
  · intro hexposed
    have hread' : ∀ token ∈ tokens.map (Token.fill other),
        (lexeme numberText token).isSome = true := by
      refine List.forall_mem_map.mpr fun token hmem => ?_
      cases hcase : exposed token with
      | true => exact hexposed token hmem hcase
      | false =>
        rw [isSome_lexeme_fill hcase other value]
        exact hread _ (List.mem_map_of_mem hmem)
    obtain ⟨lexemes', hlexemes'⟩ := Option.isSome_iff_exists.mp (isSome_mapM_lexeme.mpr hread')
    have halike := forall₂_lexeme_alike (mapM_lexeme_eq_some.mp hlexemes)
      (mapM_lexeme_eq_some.mp hlexemes')
    rw [hlexemes', Option.bind_some, ← h]
    exact (readLexemes_alike halike ⟨.nil, .value⟩).symm

end Fill

end Json

end WsBlast
