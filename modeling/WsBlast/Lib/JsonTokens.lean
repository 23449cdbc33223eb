import Mathlib.Data.Int.Notation
import Mathlib.Data.List.Basic

/-!
# Tokens of a JSON text

A JSON text is cut into marks, words such as `null` and the numbers, and texts
in quotes (`tokensFrom`). The lexer looks at a character only to see whether it
is a mark, a space, a quote or a backslash. A text with places for numbers in it
(`Symbol`) therefore has the tokens of the text that it becomes, with the same
places in them (`tokensFrom_fill`).

What a text in quotes says is read by `textFrom`. A number at a place in it
leaves the rest as it is, unless the place is within an escape
(`isSome_textFrom_fill`).

The reason for a symbolic text is a template: a text with holes for numbers that
are only known at run time, of which it has to be decided beforehand whether it
will be JSON. Parsing it once with every possible number is not possible;
parsing it once with a placeholder is, if the placeholder behaves like every
number.
-/

namespace JsonTokens

/-! ## Tokens

The lexer is a machine with four modes that never fails in the middle: any
sequence of characters is a sequence of tokens, unless it ends within a text. -/

/-- The characters that are a token by themselves. -/
inductive Mark where
  | openArray | closeArray | openObject | closeObject | comma | colon
  deriving DecidableEq, Repr

/-- What the lexer sees of a symbol. -/
inductive Look where
  | space
  | quote
  | backslash
  | mark (mark : Mark)
  | plain
  deriving DecidableEq, Repr

/-- A token: a mark, a run of plain symbols, or what stands between two quotes. -/
inductive Token (α : Type) where
  | mark (mark : Mark)
  | word (symbols : List α)
  /-- What stands between two quotes. -/
  | text (symbols : List α)
  deriving DecidableEq, Repr

/-- Where the lexer is: between two tokens, or in one. -/
inductive Mode (α : Type) where
  | between
  | word (symbols : List α)
  | text (symbols : List α)
  /-- In a text, behind a backslash. -/
  | escaped (symbols : List α)
  deriving DecidableEq, Repr

section Lexer

variable {α : Type} (look : α → Look)

/-- A symbol between two tokens. -/
def start (symbol : α) : Mode α × List (Token α) :=
  match look symbol with
  | .space => (.between, [])
  | .quote => (.text [], [])
  | .mark mark => (.between, [.mark mark])
  | .backslash | .plain => (.word [symbol], [])

/-- The mode after a symbol, and the tokens that it ends. -/
def step : Mode α → α → Mode α × List (Token α)
  | .between, symbol => start look symbol
  | .word symbols, symbol =>
    match look symbol with
    | .backslash | .plain => (.word (symbols ++ [symbol]), [])
    | _ => ((start look symbol).1, .word symbols :: (start look symbol).2)
  | .text symbols, symbol =>
    match look symbol with
    | .quote => (.between, [.text symbols])
    | .backslash => (.escaped (symbols ++ [symbol]), [])
    | _ => (.text (symbols ++ [symbol]), [])
  | .escaped symbols, symbol => (.text (symbols ++ [symbol]), [])

/-- The token that the end of the input ends. A text is ended by its quote. -/
def finish : Mode α → Option (List (Token α))
  | .between => some []
  | .word symbols => some [.word symbols]
  | .text _ | .escaped _ => none

/-- The tokens of the symbols that are left, from the mode the lexer is in;
`none` when a text is not closed. -/
def tokensFrom : Mode α → List α → Option (List (Token α))
  | mode, [] => finish mode
  | mode, symbol :: rest =>
    (tokensFrom (step look mode symbol).1 rest).map ((step look mode symbol).2 ++ ·)

/-- Plain symbols go on in the token, or start a word. -/
def Mode.append : Mode α → List α → Mode α
  | .between, symbols => .word symbols
  | .word done, symbols => .word (done ++ symbols)
  | .text done, symbols | .escaped done, symbols => .text (done ++ symbols)

variable {look}

theorem step_plain {symbol : α} (h : look symbol = .plain) (mode : Mode α) :
    step look mode symbol = (mode.append [symbol], []) := by
  cases mode <;> simp [step, start, h, Mode.append]

theorem Mode.append_append (mode : Mode α) (symbols more : List α) :
    (mode.append symbols).append more = mode.append (symbols ++ more) := by
  cases mode <;> simp [Mode.append]

/-- A run of plain symbols. -/
theorem tokensFrom_plain {symbols : List α} (hne : symbols ≠ [])
    (h : ∀ symbol ∈ symbols, look symbol = .plain) (mode : Mode α) (rest : List α) :
    tokensFrom look mode (symbols ++ rest) = tokensFrom look (mode.append symbols) rest := by
  induction symbols generalizing mode with
  | nil => exact absurd rfl hne
  | cons symbol symbols ih =>
    show (tokensFrom look (step look mode symbol).1 (symbols ++ rest)).map
      ((step look mode symbol).2 ++ ·) = _
    rw [step_plain (h symbol List.mem_cons_self)]
    show (tokensFrom look (mode.append [symbol]) (symbols ++ rest)).map id = _
    rw [Option.map_id, id_eq]
    by_cases hnil : symbols = []
    · rw [hnil]
      rfl
    · rw [ih hnil fun other hother => h other (List.mem_cons_of_mem symbol hother),
        Mode.append_append]
      rfl

end Lexer

/-! ## Places for numbers

A symbol is a character or the place of a number, and filling a text in replaces
each place by the digits of its number. -/

/-- What the lexer sees of a character. -/
def charLook (c : Char) : Look :=
  if c = ' ' ∨ c = '\n' ∨ c = '\t' ∨ c = '\r' then .space
  else if c = '"' then .quote
  else if c = '\\' then .backslash
  else if c = '[' then .mark .openArray
  else if c = ']' then .mark .closeArray
  else if c = '\x7b' then .mark .openObject
  else if c = '\x7d' then .mark .closeObject
  else if c = ',' then .mark .comma
  else if c = ':' then .mark .colon
  else .plain

/-- A character, or the place of a number. -/
inductive Symbol (ι : Type) where
  | char (c : Char)
  | number (name : ι)
  deriving DecidableEq, Repr

section Fill

variable {ι : Type}

/-- What the lexer sees of a symbol. The place of a number is plain, as its
digits are. -/
def Symbol.look : Symbol ι → Look
  | .char c => charLook c
  | .number _ => .plain

/-- The characters of a symbol: a number has its digits. -/
def Symbol.fill (value : ι → ℕ) : Symbol ι → List Char
  | .char c => [c]
  | .number name => Nat.toDigits 10 (value name)

/-- Whether a symbol is a character and not the place of a number. -/
def Symbol.isChar : Symbol ι → Bool
  | .char _ => true
  | .number _ => false

/-- A token with its numbers filled in. -/
def Token.fill (value : ι → ℕ) : Token (Symbol ι) → Token Char
  | .mark m => .mark m
  | .word symbols => .word (symbols.flatMap (Symbol.fill value))
  | .text symbols => .text (symbols.flatMap (Symbol.fill value))

/-- The lexer's mode with the numbers filled in that it has passed. -/
def Mode.fill (value : ι → ℕ) : Mode (Symbol ι) → Mode Char
  | .between => .between
  | .word symbols => .word (symbols.flatMap (Symbol.fill value))
  | .text symbols => .text (symbols.flatMap (Symbol.fill value))
  | .escaped symbols => .escaped (symbols.flatMap (Symbol.fill value))

variable (value : ι → ℕ)

theorem isDigit_of_mem_fill {name : ι} {c : Char} (h : c ∈ (Symbol.number name).fill value) :
    c.isDigit = true :=
  Nat.isDigit_of_mem_toDigits (by decide) (by decide) h

theorem fill_number_ne_nil (name : ι) : (Symbol.number name).fill value ≠ [] :=
  Nat.toDigits_ne_nil

theorem charLook_of_isDigit {c : Char} (h : c.isDigit = true) : charLook c = .plain := by
  unfold charLook
  have hne {other : Char} (hother : other.isDigit = false) : c ≠ other := by
    rintro rfl
    rw [h] at hother
    cases hother
  simp [hne]

theorem start_char (c : Char) :
    start charLook c
      = (((start Symbol.look (Symbol.char c : Symbol ι)).1.fill value),
        (start Symbol.look (Symbol.char c : Symbol ι)).2.map (Token.fill value)) := by
  unfold start
  cases hlook : charLook c <;>
    simp [Symbol.look, hlook, Mode.fill, Token.fill, Symbol.fill]

theorem step_char (mode : Mode (Symbol ι)) (c : Char) :
    step charLook (mode.fill value) c
      = ((step Symbol.look mode (.char c)).1.fill value,
        (step Symbol.look mode (.char c)).2.map (Token.fill value)) := by
  cases mode with
  | between => exact start_char value c
  | word symbols =>
    simp only [step, Mode.fill, start_char (ι := ι) value c]
    cases hlook : charLook c <;>
      simp [Symbol.look, hlook, Token.fill, Symbol.fill]
  | text symbols =>
    simp only [step, Mode.fill]
    cases hlook : charLook c <;>
      simp [Symbol.look, hlook, Token.fill, Symbol.fill]
  | escaped symbols => simp [step, Mode.fill, Symbol.fill]

theorem fill_append (mode : Mode (Symbol ι)) (symbol : Symbol ι) :
    (mode.append [symbol]).fill value = (mode.fill value).append (symbol.fill value) := by
  cases mode <;> simp [Mode.append, Mode.fill]

/-- **The tokens of a text with its numbers filled in** are those of the text
with their numbers filled in. -/
theorem tokensFrom_fill (mode : Mode (Symbol ι)) (symbols : List (Symbol ι)) :
    tokensFrom charLook (mode.fill value) (symbols.flatMap (Symbol.fill value))
      = (tokensFrom Symbol.look mode symbols).map (List.map (Token.fill value)) := by
  induction symbols generalizing mode with
  | nil => cases mode <;> rfl
  | cons symbol rest ih =>
    rw [List.flatMap_cons]
    cases symbol with
    | char c =>
      show (tokensFrom charLook (step charLook (mode.fill value) c).1
          (rest.flatMap (Symbol.fill value))).map ((step charLook (mode.fill value) c).2 ++ ·)
        = ((tokensFrom Symbol.look (step Symbol.look mode (.char c)).1 rest).map
          ((step Symbol.look mode (.char c)).2 ++ ·)).map (List.map (Token.fill value))
      rw [step_char]
      dsimp only
      rw [ih, Option.map_map, Option.map_map]
      refine congrArg (Option.map · _) ?_
      funext tokens
      simp
    | number name =>
      have hplain : ∀ c ∈ (Symbol.number name).fill value, charLook c = .plain :=
        fun c hc => charLook_of_isDigit (isDigit_of_mem_fill value hc)
      have hsymbol : ∀ symbol ∈ [(.number name : Symbol ι)], symbol.look = .plain := by
        intro symbol hmem
        rw [List.mem_singleton.mp hmem]
        rfl
      rw [tokensFrom_plain (fill_number_ne_nil value name) hplain, ← fill_append, ih,
        ← tokensFrom_plain (List.cons_ne_nil _ _) hsymbol]
      rfl

end Fill

/-! ## Texts in quotes

What stands between two quotes is read by a machine of its own, which undoes the
escapes. -/

/-- Where the reader of a text is: in an escape of four hexadecimal digits, of
which `left` follow the next one, or between the two of a surrogate pair. -/
inductive TextState where
  | plain
  | escape
  | hex (left code : ℕ) (lead : Option ℕ)
  | pair (lead : ℕ)
  | pairMark (lead : ℕ)
  deriving DecidableEq, Repr

/-- The characters that stand for another one behind a backslash. -/
def escapes : List (Char × Char) :=
  [('"', '"'), ('\\', '\\'), ('/', '/'), ('b', '\x08'), ('f', '\x0c'), ('n', '\n'),
    ('r', '\r'), ('t', '\t')]

/-- The value of a hexadecimal digit, in either case. -/
def hexDigit (c : Char) : Option ℕ :=
  if c.isDigit then some (c.toNat - 48)
  else if 'a' ≤ c ∧ c ≤ 'f' then some (c.toNat - 87)
  else if 'A' ≤ c ∧ c ≤ 'F' then some (c.toNat - 55)
  else none

/-- The code of an escape after one of its digits. A lead surrogate is followed
by the escape of a trailing one, which stands nowhere else. -/
def hexNext (code : ℕ) : ℕ → Option ℕ → Option (TextState × List Char)
  | left + 1, lead => some (.hex left code lead, [])
  | 0, none =>
    if 0xD800 ≤ code ∧ code ≤ 0xDBFF then some (.pair code, [])
    else if 0xDC00 ≤ code ∧ code ≤ 0xDFFF then none
    else some (.plain, [Char.ofNat code])
  | 0, some lead =>
    if 0xDC00 ≤ code ∧ code ≤ 0xDFFF then
      some (.plain, [Char.ofNat (0x10000 + (lead - 0xD800) * 0x400 + (code - 0xDC00))])
    else none

/-- The state after a character, and the characters that have been read. -/
def readChar : TextState → Char → Option (TextState × List Char)
  | .plain, c =>
    if c = '\\' then some (.escape, [])
    else if c.toNat < 32 then none
    else some (.plain, [c])
  | .escape, c =>
    if c = 'u' then some (.hex 3 0 none, [])
    else (escapes.lookup c).map fun other => (.plain, [other])
  | .hex left code lead, c => (hexDigit c).bind fun digit => hexNext (16 * code + digit) left lead
  | .pair lead, c => if c = '\\' then some (.pairMark lead, []) else none
  | .pairMark lead, c => if c = 'u' then some (.hex 3 0 (some lead), []) else none

/-- What a text says. -/
def textFrom : TextState → List Char → Option (List Char)
  | .plain, [] => some []
  | _, [] => none
  | state, c :: rest =>
    (readChar state c).bind fun (next, out) => (textFrom next rest).map (out ++ ·)

theorem textFrom_cons (state : TextState) (c : Char) (rest : List Char) :
    textFrom state (c :: rest)
      = (readChar state c).bind fun (next, out) => (textFrom next rest).map (out ++ ·) := by
  cases state <;> rfl

section Escapes

variable {ι : Type}

/-- Whether a number falls within an escape. -/
def numberInEscape : TextState → List (Symbol ι) → Bool
  | _, [] => false
  | state, .char c :: rest =>
    match readChar state c with
    | none => false
    | some (next, _) => numberInEscape next rest
  | .plain, .number _ :: rest => numberInEscape .plain rest
  | _, .number _ :: _ => true

theorem readChar_plain_of_isDigit {c : Char} (h : c.isDigit = true) :
    readChar .plain c = some (.plain, [c]) := by
  have hslash : c ≠ '\\' := by
    rintro rfl
    cases h
  have hcode : ¬c.toNat < 32 := by
    simp only [Char.isDigit, Bool.and_eq_true, decide_eq_true_eq] at h
    exact Nat.not_lt.mpr (Nat.le_trans (by decide : 32 ≤ 48) h.1)
  show (if c = '\\' then some (.escape, []) else if c.toNat < 32 then none
    else some (.plain, [c])) = some (TextState.plain, [c])
  rw [if_neg hslash, if_neg hcode]

theorem isSome_textFrom_digits {digits : List Char} (h : ∀ c ∈ digits, c.isDigit = true)
    (rest : List Char) :
    (textFrom .plain (digits ++ rest)).isSome = (textFrom .plain rest).isSome := by
  induction digits with
  | nil => rfl
  | cons c digits ih =>
    rw [List.cons_append, textFrom_cons, readChar_plain_of_isDigit (h c List.mem_cons_self)]
    show ((textFrom .plain (digits ++ rest)).map ([c] ++ ·)).isSome = _
    rw [Option.isSome_map, ih fun d hd => h d (List.mem_cons_of_mem c hd)]

/-- A text is one with any numbers in the places outside its escapes. -/
theorem isSome_textFrom_fill {state : TextState} {symbols : List (Symbol ι)}
    (h : numberInEscape state symbols = false) (value other : ι → ℕ) :
    (textFrom state (symbols.flatMap (Symbol.fill value))).isSome
      = (textFrom state (symbols.flatMap (Symbol.fill other))).isSome := by
  induction symbols generalizing state with
  | nil => rfl
  | cons symbol rest ih =>
    rw [List.flatMap_cons, List.flatMap_cons]
    cases symbol with
    | char c =>
      simp only [Symbol.fill, List.cons_append, List.nil_append, textFrom_cons]
      unfold numberInEscape at h
      cases hread : readChar state c with
      | none => rfl
      | some read =>
        rw [hread] at h
        simp only [Option.bind_some, Option.isSome_map]
        exact ih h
    | number name =>
      -- the number stands where characters stand for themselves
      obtain rfl : state = .plain := by
        cases state with
        | plain => rfl
        | _ => cases h
      rw [isSome_textFrom_digits fun _ => isDigit_of_mem_fill value,
        isSome_textFrom_digits fun _ => isDigit_of_mem_fill other]
      exact ih h

end Escapes

/-! ## Numbers

A number is taken apart and not evaluated: its size is what decides later
whether it can be represented, and the value of a number with a large exponent
is better not computed. -/

/-- A number as it is written: the digits before and after the point, and the
exponent, if there is one. -/
structure NumberParts where
  negative : Bool
  whole : List Char
  fraction : List Char
  exponent : Option ℤ
  deriving DecidableEq, Repr

/-- The value of decimal digits. -/
def digitsValue (digits : List Char) : ℕ :=
  digits.foldl (fun value c => 10 * value + (c.toNat - 48)) 0

/-- The digits behind a point, and what follows. -/
def fractionPart : List Char → Option (List Char × List Char)
  | '.' :: rest =>
    if rest.takeWhile Char.isDigit = [] then none
    else some (rest.takeWhile Char.isDigit, rest.dropWhile Char.isDigit)
  | rest => some ([], rest)

/-- Digits to the end. -/
def exponentDigits (digits : List Char) : Option ℤ :=
  if digits ≠ [] ∧ digits.all Char.isDigit = true then some (digitsValue digits) else none

/-- The exponent, with an optional sign, or nothing where the number ends. -/
def exponentPart : List Char → Option (Option ℤ)
  | [] => some none
  | c :: rest =>
    if c = 'e' ∨ c = 'E' then
      match rest with
      | '+' :: digits => (exponentDigits digits).map some
      | '-' :: digits => (exponentDigits digits).map fun exponent => some (-exponent)
      | digits => (exponentDigits digits).map some
    else none

/-- The parts of a number: no zero stands before another digit. -/
def numberParts (chars : List Char) : Option NumberParts :=
  let negative := decide (chars.head? = some '-')
  let unsigned := if negative then chars.tail else chars
  let whole := unsigned.takeWhile Char.isDigit
  if whole = [] ∨ whole.head? = some '0' ∧ whole.length ≠ 1 then none
  else
    (fractionPart (unsigned.dropWhile Char.isDigit)).bind fun (fraction, rest) =>
      (exponentPart rest).map fun exponent => { negative, whole, fraction, exponent }

end JsonTokens
