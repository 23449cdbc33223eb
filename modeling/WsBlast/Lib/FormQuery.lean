import Mathlib.Data.List.Basic
import Mathlib.Data.UInt

/-!
# Pairs in the query of a URL

A query holds a list of names and values as one line of ASCII. Every byte that
is not a letter, a digit or one of `*-._` is escaped: the space as `+`, any
other byte as `%` and two hexadecimal digits. What is left of the punctuation
then separates: `=` stands between a name and its value, `&` between the pairs.
This is the format a URL library reads with its iterator over the query's pairs
and writes with its serializer, whatever the bytes of the names and values are.

The two directions are not inverse to each other. A query can spell a pair in
many ways – with escapes that were not needed, with empty parts, with a name
and no `=` – and reading takes them all, so what is read and written again may
be another text. What does hold is the other round trip: **the pairs that were
written are the pairs that are read** (`readPairs_writePairs`), for every list
of pairs of any bytes.

The proof goes bottom up, and each level rests on one fact about the
characters that are written. A byte is read back from its character or its
escape (`read_writeByte`); a name is cut off at the first `=` because no byte
is written with one (`readPair_writePair`); the pairs are cut apart at `&` for
the same reason. `mem_writePairs` collects which characters a written query can
have, so that a caller can show that a URL needs no further escapes.
-/

namespace FormQuery

/-! ## Bytes

The digits of an escape are written in upper case and read in either. A `%`
without two digits behind it stands for itself, as a decoder leaves it. -/

/-- Whether a byte is written as the character it is: a letter, a digit or one
of `*-._`. -/
def isPlain (b : UInt8) : Bool :=
  (48 ≤ b && b ≤ 57) || (65 ≤ b && b ≤ 90) || (97 ≤ b && b ≤ 122)
    || b = 42 || b = 45 || b = 46 || b = 95

/-- The character of an ASCII byte. -/
def charOf (b : UInt8) : Char := Char.ofNat b.toNat

/-- The upper-case hexadecimal digit of a number below 16. -/
def hexDigit (n : ℕ) : Char := if n < 10 then Char.ofNat (48 + n) else Char.ofNat (55 + n)

/-- The number a hexadecimal digit stands for, in either case. -/
def hexValue (c : Char) : Option ℕ :=
  if 48 ≤ c.toNat ∧ c.toNat ≤ 57 then some (c.toNat - 48)
  else if 65 ≤ c.toNat ∧ c.toNat ≤ 70 then some (c.toNat - 55)
  else if 97 ≤ c.toNat ∧ c.toNat ≤ 102 then some (c.toNat - 87)
  else none

/-- How one byte is written: as itself, as `+`, or as an escape. -/
def writeByte (b : UInt8) : List Char :=
  if isPlain b then [charOf b]
  else if b = 32 then ['+']
  else ['%', hexDigit (b.toNat / 16), hexDigit (b.toNat % 16)]

/-- How the bytes of a name or a value are written. -/
def write (bytes : List UInt8) : List Char := bytes.flatMap writeByte

/-- The byte that `high` and `low` stand for behind a `%`, if both are
digits. -/
def escaped (high low : Char) : Option UInt8 := do
  let high ← hexValue high
  let low ← hexValue low
  return UInt8.ofNat (16 * high + low)

/-- The byte of a character that no escape begins with. -/
def literal (c : Char) : UInt8 := if c = '+' then 32 else UInt8.ofNat c.toNat

/-- The bytes of a name or a value. The characters of a query are ASCII, so
each that is not part of an escape is one byte. -/
def read : List Char → List UInt8
  | c :: high :: low :: rest =>
    match if c = '%' then escaped high low else none with
    | some b => b :: read rest
    | none => literal c :: read (high :: low :: rest)
  | c :: rest => literal c :: read rest
  | [] => []

/-- A byte below 128 is the code of its character. -/
theorem toNat_charOf {b : UInt8} (h : b.toNat < 128) : (charOf b).toNat = b.toNat := by
  have hvalid : b.toNat.isValidChar := .inl (by omega)
  unfold charOf
  rw [Char.ofNat, dif_pos hvalid]
  rfl

/-- What it takes for a byte to be written as itself, in numbers. -/
theorem isPlain_iff {b : UInt8} :
    isPlain b = true ↔ (48 ≤ b.toNat ∧ b.toNat ≤ 57) ∨ (65 ≤ b.toNat ∧ b.toNat ≤ 90)
      ∨ (97 ≤ b.toNat ∧ b.toNat ≤ 122) ∨ b.toNat = 42 ∨ b.toNat = 45 ∨ b.toNat = 46
      ∨ b.toNat = 95 := by
  unfold isPlain
  simp only [Bool.or_eq_true, Bool.and_eq_true, decide_eq_true_eq, UInt8.le_iff_toNat_le,
    ← UInt8.toNat_inj, UInt8.reduceToNat, or_assoc]

/-- A character that is not `%` is read by itself, whatever stands behind
it. -/
theorem read_cons_of_ne {c : Char} (h : c ≠ '%') (rest : List Char) :
    read (c :: rest) = literal c :: read rest := by
  match rest with
  | [] => rfl
  | [_] => rfl
  | high :: low :: rest =>
    rw [read, if_neg h]

/-- A digit stands for the number it was written for. -/
theorem hexValue_hexDigit {n : ℕ} (h : n < 16) : hexValue (hexDigit n) = some n := by
  have hall : ∀ n < 16, hexValue (hexDigit n) = some n := by decide
  exact hall n h

/-- **A byte is read back from what was written for it.** -/
theorem read_writeByte (b : UInt8) (rest : List Char) :
    read (writeByte b ++ rest) = b :: read rest := by
  unfold writeByte
  split_ifs with hplain hspace
  · -- the byte is a character of its own, and neither `%` nor `+`
    have hcode := isPlain_iff.mp hplain
    have hchar := toNat_charOf (b := b) (by omega)
    have hpercent : charOf b ≠ '%' := fun heq => by
      have h37 : (charOf b).toNat = 37 := congrArg Char.toNat heq
      omega
    have hplus : charOf b ≠ '+' := fun heq => by
      have h43 : (charOf b).toNat = 43 := congrArg Char.toNat heq
      omega
    have hback : literal (charOf b) = b := by
      unfold literal
      rw [if_neg hplus, hchar, UInt8.ofNat_toNat]
    rw [List.cons_append, List.nil_append, read_cons_of_ne hpercent, hback]
  · subst hspace
    exact read_cons_of_ne (by decide) rest
  · have hlt := b.toNat_lt
    have hdigits : escaped (hexDigit (b.toNat / 16)) (hexDigit (b.toNat % 16)) = some b := by
      unfold escaped
      rw [hexValue_hexDigit (by omega), hexValue_hexDigit (by omega)]
      show some (UInt8.ofNat (16 * (b.toNat / 16) + b.toNat % 16)) = some b
      rw [Nat.div_add_mod, UInt8.ofNat_toNat]
    show read ('%' :: hexDigit (b.toNat / 16) :: hexDigit (b.toNat % 16) :: rest) = _
    rw [read, if_pos rfl, hdigits]

/-- **Bytes are read back as they were written**, with anything behind them. -/
theorem read_write_append (bytes : List UInt8) (rest : List Char) :
    read (write bytes ++ rest) = bytes ++ read rest := by
  induction bytes with
  | nil => rfl
  | cons b bytes ih =>
    unfold write at ih ⊢
    rw [List.flatMap_cons, List.append_assoc, read_writeByte, ih, List.cons_append]

theorem read_write (bytes : List UInt8) : read (write bytes) = bytes := by
  have hread := read_write_append bytes []
  rwa [List.append_nil, read, List.append_nil] at hread

/-! ## Pairs

A part without a `=` is a name with an empty value, and an empty part is no
pair at all. Neither is written for a pair. -/

/-- How one pair is written. -/
def writePair (pair : List UInt8 × List UInt8) : List Char :=
  write pair.1 ++ '=' :: write pair.2

/-- How a list of pairs is written, one behind the other. -/
def writePairs (pairs : List (List UInt8 × List UInt8)) : List Char :=
  ['&'].intercalate (pairs.map writePair)

/-- The pair of a part: what stands before its first `=`, and what stands
behind. -/
def readPair (part : List Char) : List UInt8 × List UInt8 :=
  (read (part.takeWhile (· ≠ '=')), read (part.dropWhile (· ≠ '=')).tail)

/-- The pairs of a query. -/
def readPairs (query : List Char) : List (List UInt8 × List UInt8) :=
  ((query.splitOn '&').filter (· ≠ [])).map readPair

/-- Whether a character can stand in a name or a value that was written. -/
def isWritten (c : Char) : Bool := c.isAlphanum || "*-._+%".toList.contains c

/-- The characters of a byte are plain ones, `+`, `%` and digits. -/
theorem isWritten_of_mem_writeByte {b : UInt8} {c : Char} (h : c ∈ writeByte b) :
    isWritten c = true := by
  have hdigit : ∀ n < 16, isWritten (hexDigit n) = true := by decide
  unfold writeByte at h
  split_ifs at h with hplain hspace
  · obtain rfl := List.mem_singleton.mp h
    have hall : ∀ n < 128, isPlain (UInt8.ofNat n) = true → isWritten (Char.ofNat n) = true := by
      decide +kernel
    have hcode := isPlain_iff.mp hplain
    refine hall b.toNat (by omega) ?_
    rwa [UInt8.ofNat_toNat]
  · obtain rfl := List.mem_singleton.mp h
    decide
  · have hlt := b.toNat_lt
    simp only [List.mem_cons, List.not_mem_nil, or_false] at h
    rcases h with rfl | rfl | rfl
    · decide
    · exact hdigit _ (by omega)
    · exact hdigit _ (by omega)

theorem isWritten_of_mem_write {bytes : List UInt8} {c : Char} (h : c ∈ write bytes) :
    isWritten c = true := by
  obtain ⟨b, -, hb⟩ := List.mem_flatMap.mp h
  exact isWritten_of_mem_writeByte hb

/-- **A pair is read back.** The first `=` is the one that was put between the
name and the value. -/
theorem readPair_writePair (pair : List UInt8 × List UInt8) :
    readPair (writePair pair) = pair := by
  have hname : ∀ c ∈ write pair.1, decide (c ≠ '=') = true := fun c hc => by
    refine decide_eq_true fun heq => ?_
    have hwritten := isWritten_of_mem_write hc
    rw [heq] at hwritten
    exact absurd hwritten (by decide)
  unfold readPair writePair
  rw [List.takeWhile_append_of_pos hname, List.dropWhile_append_of_pos hname,
    List.takeWhile_cons_of_neg (by decide), List.dropWhile_cons_of_neg (by decide),
    List.append_nil, List.tail_cons, read_write, read_write]

theorem not_mem_writePair (pair : List UInt8 × List UInt8) : '&' ∉ writePair pair := by
  intro hmem
  rcases List.mem_append.mp hmem with hname | hvalue
  · exact absurd (isWritten_of_mem_write hname) (by decide)
  · rcases List.mem_cons.mp hvalue with heq | hvalue
    · exact absurd heq (by decide)
    · exact absurd (isWritten_of_mem_write hvalue) (by decide)

/-- **The pairs that were written are the pairs that are read.** -/
theorem readPairs_writePairs (pairs : List (List UInt8 × List UInt8)) :
    readPairs (writePairs pairs) = pairs := by
  by_cases hempty : pairs = []
  · subst hempty
    rfl
  · have hparts : (writePairs pairs).splitOn '&' = pairs.map writePair := by
      refine List.splitOn_intercalate '&' (fun part hpart => ?_) (by simpa using hempty)
      obtain ⟨pair, -, rfl⟩ := List.mem_map.mp hpart
      exact not_mem_writePair pair
    have hkept : (pairs.map writePair).filter (· ≠ []) = pairs.map writePair := by
      refine List.filter_eq_self.mpr fun part hpart => ?_
      obtain ⟨pair, -, rfl⟩ := List.mem_map.mp hpart
      simp [writePair]
    unfold readPairs
    rw [hparts, hkept, List.map_map]
    exact (List.map_congr_left fun pair _ => readPair_writePair pair).trans (List.map_id pairs)

/-- The characters of a query that was written. -/
theorem mem_writePairs {pairs : List (List UInt8 × List UInt8)} {c : Char}
    (h : c ∈ writePairs pairs) : isWritten c = true ∨ c = '=' ∨ c = '&' := by
  induction pairs with
  | nil => cases h
  | cons pair pairs ih =>
    have hpair : c ∈ writePair pair → isWritten c = true ∨ c = '=' ∨ c = '&' := by
      intro hc
      rcases List.mem_append.mp hc with hname | hvalue
      · exact .inl (isWritten_of_mem_write hname)
      · exact (List.mem_cons.mp hvalue).elim (fun heq => .inr (.inl heq))
          fun hvalue => .inl (isWritten_of_mem_write hvalue)
    cases pairs with
    | nil =>
      refine hpair ?_
      simpa [writePairs, List.intercalate] using h
    | cons next pairs =>
      have hcons : writePairs (pair :: next :: pairs)
          = writePair pair ++ '&' :: writePairs (next :: pairs) := by
        simp [writePairs, List.intercalate]
      rw [hcons] at h
      rcases List.mem_append.mp h with hc | hc
      · exact hpair hc
      · exact (List.mem_cons.mp hc).elim (fun heq => .inr (.inr heq)) ih

end FormQuery
