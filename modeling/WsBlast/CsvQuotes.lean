import WsBlast.DataFile

/-!
# Quotes in CSV files

RFC 4180 knows two kinds of field: a field without a quote, and one in quotes
with the quotes inside doubled. `parseCsv` sees one character and the next,
and a field that was closed looks to it like one that was never quoted. What
comes after a closing quote is therefore taken into the field, whatever it
is.

The fields of a text are cut out here without the reader (`rawFields`): at
the commas and line ends that have an even number of quotes before them in
their field. Each is `Proper`, `Continued` past its closing quote, or neither;
the reader rejects a text exactly when some field is neither.

A field that is closed and goes on is what the reader gets wrong. To the state
machine such a field is an unquoted one in progress, so it accepts any
character but a quote there. A quote is rejected in the middle of an unquoted
field, and an open field at the end of the text, and these two are reported
with the line they are on.
-/

namespace WsBlast

open Checked (reject)

/-! ## Fields as they are written

The three kinds of raw field, and how a quoted field is cut where it closes. -/

/-- A character inside quotes: a quote is written twice. -/
def doubledChar (c : Char) : List Char := if c = '"' then ['"', '"'] else [c]

/-- The text of a quoted field. -/
def doubled (body : List Char) : List Char := body.flatMap doubledChar

/-- The fields of the rest of a text, `current` being what has been cut of
the first one and `inside` whether its quotes are open. A carriage return
before a line feed belongs to the line end. -/
def rawFieldsFrom (inside : Bool) (current : List Char) : List Char → List (List Char)
  | [] => [current]
  | c :: rest =>
    if c = '"' then rawFieldsFrom (!inside) (current ++ [c]) rest
    else if inside then rawFieldsFrom true (current ++ [c]) rest
    else if c = ',' ∨ c = '\n' then current :: rawFieldsFrom false [] rest
    else if c = '\r' ∧ rest.head? = some '\n' then rawFieldsFrom false current rest
    else rawFieldsFrom false (current ++ [c]) rest

/-- The fields of a text as they are written. -/
def rawFields (text : String) : List (List Char) := rawFieldsFrom false [] text.toList

/-- A field that begins with quoted text, and what follows its closing
quote. -/
def Closes (field body rest : List Char) : Prop :=
  field = '"' :: doubled body ++ '"' :: rest ∧ rest.head? ≠ some '"'

/-- A field of RFC 4180: without a quote, or in quotes with nothing after
the closing one. -/
def Proper (field : List Char) : Prop :=
  '"' ∉ field ∨ ∃ body, Closes field body []

/-- A field that goes on after its closing quote, without another one. -/
def Continued (field : List Char) : Prop :=
  ∃ body rest, Closes field body rest ∧ rest ≠ [] ∧ '"' ∉ rest

/-- A field with a quote that neither opens nor closes it: inside unquoted
text, after what follows a closing quote, or one that is never closed. -/
def Broken (field : List Char) : Prop := ¬ Proper field ∧ ¬ Continued field

@[simp] theorem doubled_nil : doubled [] = [] := rfl

@[simp] theorem doubled_cons (c : Char) (body : List Char) :
    doubled (c :: body) = doubledChar c ++ doubled body := rfl

@[simp] theorem doubled_append (body more : List Char) :
    doubled (body ++ more) = doubled body ++ doubled more := List.flatMap_append

@[simp] theorem doubledChar_quote : doubledChar '"' = ['"', '"'] := rfl

theorem doubledChar_of_ne {c : Char} (h : c ≠ '"') : doubledChar c = [c] := if_neg h

/-- What a field holds whose opening quote has been read, and what follows
its closing quote. -/
def cutQuoted : List Char → Option (List Char × List Char)
  | [] => none
  | '"' :: '"' :: rest => (cutQuoted rest).map fun cut => ('"' :: cut.1, cut.2)
  | '"' :: rest => some ([], rest)
  | c :: rest => (cutQuoted rest).map fun cut => (c :: cut.1, cut.2)

theorem cutQuoted_quote {rest : List Char} (h : rest.head? ≠ some '"') :
    cutQuoted ('"' :: rest) = some ([], rest) := by
  cases rest with
  | nil => rfl
  | cons c rest =>
    have hc : c ≠ '"' := fun hc => h (congrArg some hc)
    simp [cutQuoted, hc]

theorem cutQuoted_of_ne {c : Char} (h : c ≠ '"') (rest : List Char) :
    cutQuoted (c :: rest) = (cutQuoted rest).map fun cut => (c :: cut.1, cut.2) := by
  simp [cutQuoted, h]

theorem cutQuoted_doubled_append (body rest : List Char) :
    cutQuoted (doubled body ++ rest)
      = (cutQuoted rest).map fun cut => (body ++ cut.1, cut.2) := by
  induction body with
  | nil => simp
  | cons c body ih =>
    by_cases hc : c = '"'
    · subst hc
      show cutQuoted ('"' :: '"' :: (doubled body ++ rest)) = _
      simp [cutQuoted, ih, Function.comp_def]
    · rw [doubled_cons, doubledChar_of_ne hc]
      show cutQuoted (c :: (doubled body ++ rest)) = _
      simp [cutQuoted_of_ne hc, ih, Function.comp_def]

/-- A field in quotes is cut where its quotes close. -/
theorem cutQuoted_closed {rest : List Char} (body : List Char) (h : rest.head? ≠ some '"') :
    cutQuoted (doubled body ++ '"' :: rest) = some (body, rest) := by
  rw [cutQuoted_doubled_append, cutQuoted_quote h]
  simp

/-- A field that was left open is not cut. -/
theorem cutQuoted_open (body : List Char) : cutQuoted (doubled body) = none := by
  simpa [cutQuoted] using cutQuoted_doubled_append body []

namespace Closes

variable {field body rest : List Char}

theorem cut (h : Closes field body rest) : cutQuoted field.tail = some (body, rest) := by
  rw [h.1]
  exact cutQuoted_closed body h.2

/-- **A field closes in one place only.** -/
theorem unique {body' rest' : List Char} (h : Closes field body rest)
    (h' : Closes field body' rest') : rest = rest' := by
  have hcut := h.cut.symm.trans h'.cut
  simpa using congrArg (Option.map Prod.snd) hcut

theorem head (h : Closes field body rest) : field.head? = some '"' := by
  rw [h.1]
  rfl

theorem mem (h : Closes field body rest) : '"' ∈ field := List.mem_of_head? h.head

end Closes

/-! ## Fields the reader takes

Tidy fields are those the reader has no objection to. -/

/-- A field without a quote, or in quotes with anything but a quote after the
closing one. -/
def Tidy (field : List Char) : Prop :=
  '"' ∉ field ∨ ∃ body rest, Closes field body rest ∧ '"' ∉ rest

theorem tidy_iff {field : List Char} : Tidy field ↔ Proper field ∨ Continued field := by
  constructor
  · rintro (hplain | ⟨body, rest, hcloses, hrest⟩)
    · exact Or.inl (Or.inl hplain)
    · rcases eq_or_ne rest [] with rfl | hne
      · exact Or.inl (Or.inr ⟨body, hcloses⟩)
      · exact Or.inr ⟨body, rest, hcloses, hne, hrest⟩
  · rintro ((hplain | ⟨body, hcloses⟩) | ⟨body, rest, hcloses, -, hrest⟩)
    · exact Or.inl hplain
    · exact Or.inr ⟨body, [], hcloses, List.not_mem_nil⟩
    · exact Or.inr ⟨body, rest, hcloses, hrest⟩

theorem broken_iff {field : List Char} : Broken field ↔ ¬ Tidy field := by
  rw [tidy_iff, not_or]
  rfl

/-- A field that goes on after its closing quote is not one of RFC 4180. -/
theorem Continued.not_proper {field : List Char} (h : Continued field) : ¬ Proper field := by
  obtain ⟨body, rest, hcloses, hne, -⟩ := h
  rintro (hplain | ⟨body', hproper⟩)
  · exact hplain hcloses.mem
  · exact hne (hcloses.unique hproper)

theorem tidy_nil : Tidy [] := Or.inl List.not_mem_nil

/-- A character other than a quote leaves a field tidy. -/
theorem Tidy.concat {field : List Char} {c : Char} (h : Tidy field) (hc : c ≠ '"') :
    Tidy (field ++ [c]) := by
  rcases h with hplain | ⟨body, rest, hcloses, hrest⟩
  · exact Or.inl (by simp [hplain, Ne.symm hc])
  · refine Or.inr ⟨body, rest ++ [c], ⟨?_, ?_⟩, by simp [hrest, Ne.symm hc]⟩
    · rw [hcloses.1]
      simp
    · cases rest with
      | nil => simpa using hc
      | cons d rest => simpa using hcloses.2

/-- A field that is closed is tidy. -/
theorem tidy_closed (body : List Char) : Tidy ('"' :: doubled body ++ ['"']) :=
  Or.inr ⟨body, [], ⟨rfl, by simp⟩, List.not_mem_nil⟩

/-- A field that is left open is broken. -/
theorem broken_open (body : List Char) : Broken ('"' :: doubled body) := by
  rw [broken_iff]
  rintro (hplain | ⟨body', rest, hcloses, -⟩)
  · exact hplain List.mem_cons_self
  · have hcut := hcloses.cut
    rw [List.tail_cons, cutQuoted_open] at hcut
    cases hcut

/-- **A quote after the first character of a tidy field breaks it**, unless
it doubles the quote before it. -/
theorem Tidy.broken_quote {field : List Char} (h : Tidy field) (hne : field ≠ [])
    (hlast : field.getLast? ≠ some '"') (more : List Char) :
    Broken (field ++ '"' :: more) := by
  rw [broken_iff]
  rintro (hplain | ⟨body', rest', hcloses', hrest'⟩)
  · exact hplain (by simp)
  · rcases h with hplain | ⟨body, rest, hcloses, hrest⟩
    · -- The field would have to begin with a quote.
      have hhead := hcloses'.head
      rw [List.head?_append_of_ne_nil _ hne] at hhead
      exact hplain (List.mem_of_head? hhead)
    · have hrest_ne : rest ≠ [] := by
        rintro rfl
        rw [hcloses.1] at hlast
        exact hlast List.getLast?_concat
      have hextended : Closes (field ++ '"' :: more) body (rest ++ '"' :: more) := by
        refine ⟨?_, ?_⟩
        · rw [hcloses.1]
          simp
        · rw [List.head?_append_of_ne_nil _ hrest_ne]
          exact hcloses.2
      rw [← hextended.unique hcloses'] at hrest'
      exact hrest' (by simp)

/-! ## What the reader makes of quotes

The state of the reader inside a field is given by the raw text of that field.
-/

theorem rawFieldsFrom_other {c : Char} {current rest : List Char} (hquote : c ≠ '"')
    (hcomma : c ≠ ',') (hline : c ≠ '\n') (hreturn : ¬(c = '\r' ∧ rest.head? = some '\n')) :
    rawFieldsFrom false current (c :: rest) = rawFieldsFrom false (current ++ [c]) rest := by
  rw [rawFieldsFrom, if_neg hquote, if_neg Bool.false_ne_true, if_neg (not_or.mpr ⟨hcomma, hline⟩),
    if_neg hreturn]

/-- A field is the beginning of the first one that is cut. -/
theorem rawFieldsFrom_head (inside : Bool) (current text : List Char) :
    ∃ more fields, rawFieldsFrom inside current text = (current ++ more) :: fields := by
  induction text generalizing inside current with
  | nil => exact ⟨[], [], by simp [rawFieldsFrom]⟩
  | cons c rest ih =>
    have taken (inside : Bool) : ∃ more fields,
        rawFieldsFrom inside (current ++ [c]) rest = (current ++ more) :: fields := by
      obtain ⟨more, fields, heq⟩ := ih inside (current ++ [c])
      exact ⟨c :: more, fields, by simp [heq]⟩
    unfold rawFieldsFrom
    split_ifs
    · exact taken _
    · exact taken _
    · exact ⟨[], _, by rw [List.append_nil]⟩
    · exact ih false current
    · exact taken _

/-- The reader inside a field, of which `raw` has been read; `next` is the
character it sees ahead. -/
inductive FieldStanding (s : CsvState) (next : Option Char) : Bool → List Char → Prop
  /-- Outside quotes. -/
  | outside (raw : List Char) : s.skip = false → s.quoted = false →
      s.fieldStarted = decide (raw ≠ []) → Tidy raw →
      (raw.getLast? = some '"' → next ≠ some '"') → FieldStanding s next false raw
  /-- Inside quotes. -/
  | inside (body : List Char) : s.skip = false → s.quoted = true → s.fieldStarted = true →
      FieldStanding s next true ('"' :: doubled body)
  /-- Between the two quotes that stand for one. -/
  | doubling (body : List Char) : s.skip = true → s.quoted = true → s.fieldStarted = true →
      next = some '"' → FieldStanding s next false ('"' :: doubled body ++ ['"'])

/-- What one character does to the field that is being read. -/
inductive FieldTurn (s : CsvState) (inside : Bool) (raw : List Char) (c : Char) (rest : List Char) :
    Except String CsvState → Prop
  /-- The field goes on. -/
  | goesOn (s' : CsvState) (inside' : Bool) (raw' : List Char) :
      FieldStanding s' rest.head? inside' raw' → s'.line = s.line + [c].count '\n' →
      rawFieldsFrom inside raw (c :: rest) = rawFieldsFrom inside' raw' rest →
      FieldTurn s inside raw c rest (.ok s')
  /-- The field ends. -/
  | ends (s' : CsvState) : FieldStanding s' rest.head? false [] → Tidy raw →
      s'.line = s.line + [c].count '\n' →
      rawFieldsFrom inside raw (c :: rest) = raw :: rawFieldsFrom false [] rest →
      FieldTurn s inside raw c rest (.ok s')
  /-- The quote breaks the field. -/
  | breaks : inside = false → c = '"' → (∀ more, Broken (raw ++ '"' :: more)) →
      FieldTurn s inside raw c rest (.error s!"line {s.line}: a quote inside an unquoted field")

theorem fieldStanding_fresh {s : CsvState} (next : Option Char) (hskip : s.skip = false)
    (hquoted : s.quoted = false) (hstarted : s.fieldStarted = false) :
    FieldStanding s next false [] :=
  .outside [] hskip hquoted hstarted tidy_nil (by simp)

theorem csvStep_fieldTurn {s : CsvState} {inside : Bool} {raw : List Char} {c : Char}
    {rest : List Char} (h : FieldStanding s (some c) inside raw) :
    FieldTurn s inside raw c rest (csvStep s c rest.head?) := by
  cases h with
  | doubling body hskip hquoted hstarted hnext =>
    cases hnext
    simp only [csvStep, hskip, if_true]
    refine .goesOn _ true ('"' :: doubled (body ++ ['"'])) (.inside _ rfl hquoted hstarted)
      (by simp) ?_
    simp [rawFieldsFrom]
  | inside body hskip hquoted hstarted =>
    simp only [csvStep, hskip, hquoted, if_true, Bool.false_eq_true, if_false]
    split_ifs with hdouble hclose hline
    · obtain ⟨rfl, hnext⟩ := hdouble
      refine .goesOn _ false ('"' :: doubled body ++ ['"'])
        (.doubling _ rfl rfl hstarted hnext) (by simp) ?_
      simp [rawFieldsFrom]
    · subst hclose
      have hnext : rest.head? ≠ some '"' := fun hnext => hdouble ⟨rfl, hnext⟩
      refine .goesOn _ false ('"' :: doubled body ++ ['"']) ?_ (by simp) ?_
      · exact .outside _ rfl rfl (by simp [hstarted]) (tidy_closed body) (fun _ => hnext)
      · simp [rawFieldsFrom]
    · subst hline
      refine .goesOn _ true ('"' :: doubled (body ++ ['\n'])) (.inside _ rfl rfl hstarted)
        (by simp) ?_
      simp [rawFieldsFrom, doubledChar]
    · refine .goesOn _ true ('"' :: doubled (body ++ [c])) (.inside _ rfl rfl hstarted)
        (by simp [hline]) ?_
      simp [rawFieldsFrom, doubledChar, hclose]
  | outside raw hskip hquoted hstarted htidy hlast =>
    simp only [csvStep, hskip, hquoted, Bool.false_eq_true, if_false]
    split_ifs with hopen hquote hcomma hreturn hline hrecord
    · -- the quote opens a field of which nothing has been read
      obtain ⟨rfl, hfresh⟩ := hopen
      have hraw : raw = [] := by simpa [hfresh] using hstarted
      subst hraw
      refine .goesOn _ true ('"' :: doubled []) (.inside _ rfl rfl rfl) (by simp) ?_
      simp [rawFieldsFrom]
    · subst hquote
      have hne : raw ≠ [] := by
        rintro rfl
        exact hopen ⟨rfl, by simpa using hstarted⟩
      exact .breaks rfl rfl (htidy.broken_quote hne fun hraw => hlast hraw rfl)
    · subst hcomma
      refine .ends _ (fieldStanding_fresh _ hskip hquoted rfl) htidy
        (by simp [CsvState.endField]) ?_
      simp [rawFieldsFrom]
    · -- a carriage return before a line feed is no part of the field
      obtain ⟨rfl, hnext⟩ := hreturn
      refine .goesOn _ false raw (.outside raw hskip hquoted hstarted htidy ?_) (by simp) ?_
      · rw [hnext]
        simp
      · simp [rawFieldsFrom, hnext]
    · subst hline
      exact .ends _ (fieldStanding_fresh _ hskip hquoted rfl) htidy (by simp)
        (by simp [rawFieldsFrom])
    · subst hline
      exact .ends _ (fieldStanding_fresh _ hskip hquoted rfl) htidy (by simp)
        (by simp [rawFieldsFrom])
    · refine .goesOn _ false (raw ++ [c])
        (.outside _ rfl rfl (by simp) (htidy.concat hquote) ?_) (by simp [hline]) ?_
      · simp [hquote]
      · exact rawFieldsFrom_other hquote hcomma hline hreturn

/-- How many lines end in some characters. -/
def newlines (text : List Char) : ℕ := text.count '\n'

/-- What reading the rest of a text gives, `line` being the line reached
before it and `fields` the fields it is cut into. -/
inductive QuoteVerdict (line : ℕ) (text : List Char) (fields : List (List Char)) :
    Except String CsvState → Prop
  /-- The fields are tidy. -/
  | tidy (final : CsvState) : final.quoted = false → (∀ field ∈ fields, Tidy field) →
      QuoteVerdict line text fields (.ok final)
  /-- The last field is left open. -/
  | leftOpen (final : CsvState) (done : List (List Char)) (body : List Char) :
      final.quoted = true → final.line = line + text.count '\n' →
      fields = done ++ ['"' :: doubled body] → (∀ field ∈ done, Tidy field) →
      QuoteVerdict line text fields (.ok final)
  /-- The quote after `front` breaks the field that begins with `raw`. -/
  | broken (front back : List Char) (done : List (List Char)) (raw : List Char) :
      text = front ++ '"' :: back →
      fields = done ++ rawFieldsFrom false raw ('"' :: back) → (∀ field ∈ done, Tidy field) →
      (∀ more, Broken (raw ++ '"' :: more)) →
      QuoteVerdict line text fields
        (.error s!"line {line + newlines front}: a quote inside an unquoted field")

namespace QuoteVerdict

variable {line : ℕ} {c : Char} {text : List Char} {fields : List (List Char)}
  {result : Except String CsvState}

/-- A verdict on the text after a character is one on the text with it. -/
theorem cons (h : QuoteVerdict (line + [c].count '\n') text fields result) :
    QuoteVerdict line (c :: text) fields result := by
  cases h with
  | tidy final hquoted htidy => exact .tidy final hquoted htidy
  | leftOpen final done body hquoted hline hfields htidy =>
    refine .leftOpen final done body hquoted ?_ hfields htidy
    rw [hline, List.count_cons (l := text), List.count_singleton]
    omega
  | broken front back done raw htext hfields htidy hbroken =>
    have hcount : line + [c].count '\n' + newlines front = line + newlines (c :: front) := by
      unfold newlines
      rw [List.count_cons (l := front), List.count_singleton]
      omega
    rw [hcount]
    exact .broken (c :: front) back done raw (by rw [htext]; rfl) hfields htidy hbroken

/-- A tidy field before the others. -/
theorem field {first : List Char} (hfirst : Tidy first) (h : QuoteVerdict line text fields result) :
    QuoteVerdict line text (first :: fields) result := by
  cases h with
  | tidy final hquoted htidy =>
    exact .tidy final hquoted (List.forall_mem_cons.mpr ⟨hfirst, htidy⟩)
  | leftOpen final done body hquoted hline hfields htidy =>
    exact .leftOpen final (first :: done) body hquoted hline (by rw [hfields]; rfl)
      (List.forall_mem_cons.mpr ⟨hfirst, htidy⟩)
  | broken front back done raw htext hfields htidy hbroken =>
    exact .broken front back (first :: done) raw htext (by rw [hfields]; rfl)
      (List.forall_mem_cons.mpr ⟨hfirst, htidy⟩) hbroken

end QuoteVerdict

/-- **What the reader makes of the quotes of a text**, from any standing. -/
theorem csvFrom_verdict {s : CsvState} {inside : Bool} {raw : List Char} (text : List Char)
    (h : FieldStanding s text.head? inside raw) :
    QuoteVerdict s.line text (rawFieldsFrom inside raw text) (csvFrom s text) := by
  induction text generalizing s inside raw with
  | nil =>
    cases h with
    | outside raw hskip hquoted hstarted htidy hlast =>
      exact .tidy s hquoted (by simpa [rawFieldsFrom] using htidy)
    | inside body hskip hquoted hstarted =>
      exact .leftOpen s [] body hquoted (by simp) rfl (by simp)
    | doubling body hskip hquoted hstarted hnext => cases hnext
  | cons c rest ih =>
    -- the next character goes on in the field, ends it or breaks it
    have hturn : FieldTurn s inside raw c rest (csvStep s c rest.head?) := csvStep_fieldTurn h
    rw [csvFrom]
    generalize csvStep s c rest.head? = result at hturn
    cases hturn with
    | goesOn s' inside' raw' hs' hline hfields =>
      rw [hfields]
      have hrest := ih hs'
      rw [hline] at hrest
      exact hrest.cons
    | ends s' hs' htidy hline hfields =>
      rw [hfields]
      have hrest := ih hs'
      rw [hline] at hrest
      exact hrest.cons.field htidy
    | breaks hinside hquote hbroken =>
      subst hinside hquote
      exact .broken [] rest [] raw rfl rfl (by simp) hbroken

/-- An error that names the line of a misused quote: that of the first quote
that breaks its field, or the last line when a field is left open. -/
inductive NamesMisuse (text : String) {α : Type} : Except String α → Prop
  /-- The quote after `front` is the first that breaks its field. -/
  | broken (front back : List Char) (done : List (List Char)) (raw : List Char) :
      text.toList = front ++ '"' :: back →
      rawFields text = done ++ rawFieldsFrom false raw ('"' :: back) →
      (∀ field ∈ done, Tidy field) → (∀ more, Broken (raw ++ '"' :: more)) →
      NamesMisuse text
        (.error s!"line {1 + newlines front}: a quote inside an unquoted field")
  /-- The last field is left open. -/
  | leftOpen (done : List (List Char)) (body : List Char) :
      rawFields text = done ++ ['"' :: doubled body] → (∀ field ∈ done, Tidy field) →
      NamesMisuse text
        (.error s!"line {1 + newlines text.toList}: a quoted field is not closed")

/-- The reader's verdict on a whole text. -/
theorem csvFrom_rawFields (text : String) :
    QuoteVerdict 1 text.toList (rawFields text) (csvFrom {} text.toList) :=
  csvFrom_verdict (s := {}) text.toList (fieldStanding_fresh _ rfl rfl rfl)

/-- The last character of a text is that of its last piece. -/
theorem getLast?_append_piece {piece : String} {c : Char} (start : String)
    (h : piece.toList.getLast? = some c) : (start ++ piece).toList.getLast? = some c := by
  rw [String.toList_append, List.getLast?_append, h]
  rfl

theorem NamesMisuse.last {text : String} {α : Type} {message : String}
    (h : NamesMisuse text (.error message : Except String α)) :
    message.toList.getLast? = some 'd' := by
  cases h <;> exact getLast?_append_piece _ rfl

theorem checkColumnsFrom_error {before columns : List String} {message : String}
    (h : checkColumnsFrom before columns = .error message) :
    message.toList.getLast? = some 'e' := by
  induction columns generalizing before with
  | nil => cases h
  | cons column rest ih =>
    unfold checkColumnsFrom at h
    split_ifs at h
    · cases h
      exact getLast?_append_piece _ rfl
    · cases h
      exact getLast?_append_piece _ rfl
    · exact ih h

theorem checkRow_error {columns : List String} {row : ℕ × List String} {message : String}
    (h : checkRow columns row = .error message) : message.toList.getLast? = some 's' := by
  unfold checkRow at h
  split_ifs at h
  cases h
  exact getLast?_append_piece _ rfl

/-- What comes of the records that were read is not an error about quotes. -/
theorem not_namesMisuse_records {text : String} (records : List (ℕ × List String)) :
    ¬ NamesMisuse text
      (match records with
      | [] => throw "no header row"
      | (_, columns) :: rows => do
        checkColumns columns
        return (columns, ← rows.mapM (checkRow columns)) :
          Except String (List String × List (List String))) := by
  intro h
  split at h
  · exact absurd h.last (by decide)
  · case h_2 columns rows =>
    rcases hcolumns : checkColumns columns with message | u
    · rw [hcolumns] at h
      have hlast := h.last
      rw [checkColumnsFrom_error hcolumns] at hlast
      exact absurd hlast (by decide)
    · rw [hcolumns, Checked.ok_bind] at h
      rcases hrows : rows.mapM (checkRow columns) with message | values
      · rw [hrows] at h
        have hlast := h.last
        obtain ⟨row, -, hrow⟩ := Checked.exists_error_of_mapM hrows
        rw [checkRow_error hrow] at hlast
        exact absurd hlast (by decide)
      · rw [hrows] at h
        cases h

/-- **The reader rejects a text with a broken field and names the line of the
first**; no other text is rejected for its quotes. -/
theorem parseCsv_quotes (text : String) :
    ((∃ field ∈ rawFields text, Broken field) ∧ NamesMisuse text (parseCsv text)) ∨
      ((∀ field ∈ rawFields text, Tidy field) ∧ ¬ NamesMisuse text (parseCsv text)) := by
  have hverdict := csvFrom_rawFields text
  unfold parseCsv
  generalize csvFrom {} text.toList = result at hverdict
  cases hverdict with
  | tidy final hquoted htidy =>
    refine Or.inr ⟨htidy, ?_⟩
    rw [Checked.ok_bind, reject, if_neg (by simp [hquoted]), Checked.ok_bind]
    exact not_namesMisuse_records _
  | leftOpen final done body hquoted hline hfields htidy =>
    refine Or.inl ⟨⟨_, by simp [hfields], broken_open body⟩, ?_⟩
    rw [Checked.ok_bind, reject, if_pos hquoted, hline]
    exact .leftOpen done body hfields htidy
  | broken front back done raw htext hfields htidy hbroken =>
    refine Or.inl ⟨?_, .broken front back done raw htext hfields htidy hbroken⟩
    obtain ⟨more, later, hfirst⟩ := rawFieldsFrom_head true (raw ++ ['"']) back
    refine ⟨raw ++ '"' :: more, ?_, hbroken more⟩
    rw [hfields, rawFieldsFrom, if_pos rfl, Bool.not_false, hfirst]
    simp

/-- Every field of an accepted text is one of RFC 4180, and a text with
another one is rejected for it, by the line. -/
def KeepsToQuotes (text : String) : Prop :=
  (∀ table, parseCsv text = .ok table → ∀ field ∈ rawFields text, Proper field) ∧
    ((∃ field ∈ rawFields text, ¬ Proper field) → NamesMisuse text (parseCsv text))

/-- **Only what follows a closing quote is taken amiss**: the reader keeps to
RFC 4180 on a text unless a field of it goes on after its closing quote and
none is broken otherwise. -/
theorem keepsToQuotes_iff (text : String) :
    KeepsToQuotes text ↔
      ((∃ field ∈ rawFields text, Continued field) → ∃ field ∈ rawFields text, Broken field) := by
  rcases parseCsv_quotes text with ⟨hbroken, hnames⟩ | ⟨htidy, hnames⟩
  · refine iff_of_true ⟨fun table htable => ?_, fun _ => hnames⟩ (fun _ => hbroken)
    rw [htable] at hnames
    cases hnames
  · constructor
    · rintro ⟨-, hrejects⟩ ⟨field, hfield, hcontinued⟩
      exact absurd (hrejects ⟨field, hfield, hcontinued.not_proper⟩) hnames
    · intro hcontinued
      have hproper : ∀ field ∈ rawFields text, Proper field := by
        intro field hfield
        rcases tidy_iff.mp (htidy field hfield) with hproper | hafter
        · exact hproper
        · obtain ⟨broken, hmem, hbroken⟩ := hcontinued ⟨field, hfield, hafter⟩
          exact absurd (htidy broken hmem) (broken_iff.mp hbroken)
      refine ⟨fun _ _ => hproper, ?_⟩
      rintro ⟨field, hfield, hnot⟩
      exact absurd (hproper field hfield) hnot

/-- The reader takes `"ab"x` for `abx`. -/
theorem parseCsv_after_quote :
    parseCsv "user\n\"ab\"x" = .ok (["user"], [["abx"]]) ∧
      "\"ab\"x".toList ∈ rawFields "user\n\"ab\"x" ∧
      ¬ KeepsToQuotes "user\n\"ab\"x" := by
  have hread : parseCsv "user\n\"ab\"x" = .ok (["user"], [["abx"]]) := by decide +kernel
  have hfield : "\"ab\"x".toList ∈ rawFields "user\n\"ab\"x" := by decide +kernel
  refine ⟨hread, hfield, fun h => ?_⟩
  have hcontinued : Continued "\"ab\"x".toList :=
    ⟨['a', 'b'], ['x'], ⟨by decide +kernel, by decide⟩, by decide, by decide⟩
  exact hcontinued.not_proper (h.1 _ hread _ hfield)

end WsBlast
