import WsBlast.ReplyRules

/-!
# JSON pointers

A JSON pointer is empty or a sequence of tokens, each after a `/`, in which a
`~` starts one of the escapes `~0` and `~1` (`JsonPointer`). `--match` takes
exactly the pointers (`isJsonPointer_iff`). `--expect` and captures look at the
first character only, so the two agree on a text unless it starts with `/` and
has a `~` that starts no escape (`pointers_validated_alike_iff`).

Two functions of the source decide what a pointer is. The one for `--match` and
for rules scans the text for escapes, because a bad one would make it match
nothing; the one for `--expect` was written for a check that reports a missing
value anyway, and asks only for the slash. Both accept the empty pointer, which
names the whole value.
-/

namespace WsBlast

/-! ## The grammar

As RFC 6901 has it: tokens of characters and escapes. -/

/-- A reference token: characters other than `/` and `~`, and escapes. -/
inductive ReferenceToken : List Char → Prop
  | nil : ReferenceToken []
  | unescaped {c : Char} {rest : List Char} (hslash : c ≠ '/') (htilde : c ≠ '~')
      (h : ReferenceToken rest) : ReferenceToken (c :: rest)
  | tilde {rest : List Char} (h : ReferenceToken rest) : ReferenceToken ('~' :: '0' :: rest)
  | slash {rest : List Char} (h : ReferenceToken rest) : ReferenceToken ('~' :: '1' :: rest)

/-- A JSON pointer: tokens, each after a `/`. -/
inductive JsonPointer : List Char → Prop
  | nil : JsonPointer []
  | token {token rest : List Char} (htoken : ReferenceToken token) (hrest : JsonPointer rest) :
      JsonPointer ('/' :: token ++ rest)

/-- Every `~` is followed by `0` or `1`. -/
def TildesEscaped (chars : List Char) : Prop :=
  ∀ before after, chars = before ++ '~' :: after → ∃ c ∈ after.head?, c = '0' ∨ c = '1'

/-! ## What `--match` takes

The scan looks at one character at a time, and at two for a tilde. -/

theorem escapesAreValid_cons {c : Char} (h : c ≠ '~') (rest : List Char) :
    escapesAreValid (c :: rest) = escapesAreValid rest := by
  cases rest with
  | nil => exact decide_eq_true h
  | cons d rest =>
    rw [escapesAreValid]
    exact if_neg h

theorem escapesAreValid_tilde (c : Char) (rest : List Char) :
    escapesAreValid ('~' :: c :: rest) = ((c = '0' || c = '1') && escapesAreValid rest) := by
  rw [escapesAreValid]
  exact if_pos rfl

theorem ReferenceToken.escapesAreValid_append {token : List Char} (h : ReferenceToken token)
    (rest : List Char) : escapesAreValid (token ++ rest) = escapesAreValid rest := by
  induction h with
  | nil => rfl
  | unescaped hslash htilde h ih =>
    rw [List.cons_append, escapesAreValid_cons htilde]
    exact ih
  | tilde h ih =>
    rw [List.cons_append, List.cons_append, escapesAreValid_tilde]
    exact ih
  | slash h ih =>
    rw [List.cons_append, List.cons_append, escapesAreValid_tilde]
    exact ih

theorem JsonPointer.escapesAreValid {chars : List Char} (h : JsonPointer chars) :
    escapesAreValid chars = true := by
  induction h with
  | nil => rfl
  | token htoken hrest ih =>
    rw [List.cons_append, escapesAreValid_cons (by decide), htoken.escapesAreValid_append]
    exact ih

/-- Characters whose escapes are valid are the rest of a token, and then a
pointer. -/
theorem exists_token_of_escapesAreValid {chars : List Char} (h : escapesAreValid chars = true) :
    ∃ token rest, chars = token ++ rest ∧ ReferenceToken token ∧ JsonPointer rest := by
  have hcons : ∀ {c : Char} {chars : List Char}, c ≠ '~' →
      (∃ token rest, chars = token ++ rest ∧ ReferenceToken token ∧ JsonPointer rest) →
      ∃ token rest, c :: chars = token ++ rest ∧ ReferenceToken token ∧ JsonPointer rest := by
    rintro c _ htilde ⟨token, rest, rfl, htoken, hrest⟩
    by_cases hslash : c = '/'
    · subst hslash
      exact ⟨[], '/' :: token ++ rest, rfl, .nil, .token htoken hrest⟩
    · exact ⟨c :: token, rest, rfl, .unescaped hslash htilde htoken, hrest⟩
  induction chars using escapesAreValid.induct with
  | case1 => exact ⟨[], [], rfl, .nil, .nil⟩
  | case2 c => exact hcons (of_decide_eq_true h) ⟨[], [], rfl, .nil, .nil⟩
  | case3 d rest ih =>
    rw [escapesAreValid_tilde, Bool.and_eq_true] at h
    obtain ⟨token, rest, rfl, htoken, hrest⟩ := ih h.2
    have hescape : d = '0' ∨ d = '1' := by simpa using h.1
    rcases hescape with rfl | rfl
    · exact ⟨'~' :: '0' :: token, rest, rfl, .tilde htoken, hrest⟩
    · exact ⟨'~' :: '1' :: token, rest, rfl, .slash htoken, hrest⟩
  | case4 c d rest hc ih =>
    rw [escapesAreValid_cons hc] at h
    exact hcons hc (ih h)

/-- **`--match` takes exactly the JSON pointers.** -/
theorem isJsonPointer_iff (pointer : String) :
    isJsonPointer pointer = true ↔ JsonPointer pointer.toList := by
  unfold isJsonPointer
  -- the empty text is a pointer; any other starts with a slash
  by_cases hempty : pointer = ""
  · subst hempty
    exact iff_of_true rfl .nil
  · rw [if_neg hempty]
    have hne : pointer.toList ≠ [] := fun hnil => hempty (String.toList_eq_nil_iff.mp hnil)
    by_cases hslash : pointer.toList.head? = some '/'
    · rw [if_neg (not_not_intro hslash)]
      constructor
      · intro h
        obtain ⟨rest, hrest⟩ := List.head?_eq_some_iff.mp hslash
        rw [hrest, escapesAreValid_cons (by decide)] at h
        obtain ⟨token, after, rfl, htoken, hafter⟩ := exists_token_of_escapesAreValid h
        rw [hrest]
        exact .token htoken hafter
      · exact JsonPointer.escapesAreValid
    · rw [if_pos hslash]
      refine iff_of_false Bool.false_ne_true fun h => ?_
      cases hpointer : pointer.toList with
      | nil => exact hne hpointer
      | cons c rest =>
        rw [hpointer] at h hslash
        cases h with
        | token => exact hslash rfl

/-! ## What `--expect` takes -/

theorem tildesEscaped_cons {c : Char} {rest : List Char} :
    TildesEscaped (c :: rest)
      ↔ (c = '~' → ∃ d ∈ rest.head?, d = '0' ∨ d = '1') ∧ TildesEscaped rest := by
  constructor
  · intro h
    refine ⟨?_, fun before after heq => h (c :: before) after (congrArg (c :: ·) heq)⟩
    rintro rfl
    exact h [] rest rfl
  · rintro ⟨hc, hrest⟩ before after heq
    cases before with
    | nil =>
      obtain ⟨rfl, rfl⟩ := List.cons.inj heq
      exact hc rfl
    | cons first before =>
      obtain ⟨-, heq⟩ := List.cons.inj heq
      exact hrest before after heq

theorem tildesEscaped_iff (chars : List Char) :
    TildesEscaped chars ↔ escapesAreValid chars = true := by
  induction chars using escapesAreValid.induct with
  | case1 => exact iff_of_true (fun before _ h => absurd h (by simp)) rfl
  | case2 c =>
    rw [tildesEscaped_cons]
    have hnil : TildesEscaped [] := fun before _ h => absurd h (by simp)
    simp [escapesAreValid, hnil]
  | case3 d rest ih =>
    rw [tildesEscaped_cons, escapesAreValid_tilde, Bool.and_eq_true, ← ih, tildesEscaped_cons]
    have hd : (∃ c ∈ (d :: rest).head?, c = '0' ∨ c = '1') ↔ d = '0' ∨ d = '1' := by simp
    rw [hd]
    constructor
    · rintro ⟨hescape, -, hrest⟩
      exact ⟨by simpa using hescape rfl, hrest⟩
    · rintro ⟨hescape, hrest⟩
      have hescape : d = '0' ∨ d = '1' := by simpa using hescape
      refine ⟨fun _ => hescape, ?_, hrest⟩
      rintro rfl
      exact absurd hescape (by decide)
  | case4 c d rest hc ih =>
    rw [tildesEscaped_cons, escapesAreValid_cons hc, ← ih]
    exact and_iff_right fun h => absurd h hc

theorem checkPointer_iff (pointer : String) :
    checkPointer pointer = .ok () ↔ pointer = "" ∨ pointer.toList.head? = some '/' := by
  unfold checkPointer
  split
  · rename_i h
    exact iff_of_true rfl h
  · rename_i h
    exact iff_of_false (fun heq => nomatch heq) h

/-- **Both take a text exactly when it is a pointer**, unless it starts as one
and has a `~` that starts no escape. -/
theorem pointers_validated_alike_iff (pointer : String) :
    ((checkPointer pointer = .ok () ↔ JsonPointer pointer.toList) ∧
      (isJsonPointer pointer = true ↔ JsonPointer pointer.toList))
      ↔ (pointer.toList.head? = some '/' → TildesEscaped pointer.toList) := by
  rw [← isJsonPointer_iff, checkPointer_iff, tildesEscaped_iff, and_iff_left Iff.rfl]
  unfold isJsonPointer
  by_cases hempty : pointer = ""
  · subst hempty
    simp
  · by_cases hslash : pointer.toList.head? = some '/'
    · simp [hempty, hslash]
    · simp [hempty, hslash]

/-- `--expect` takes a pointer that `--match` refuses. -/
theorem checkPointer_unescaped :
    checkPointer "/~2" = .ok () ∧ isJsonPointer "/~2" = false ∧ ¬JsonPointer "/~2".toList := by
  refine ⟨by decide, by decide, fun h => ?_⟩
  exact absurd ((isJsonPointer_iff "/~2").mpr h) (by decide)

end WsBlast
