import WsBlast.Basic

/-!
# Standard base64

`encode` as the program writes binary payloads for its agents and binary
frames in capture files: RFC 4648 with padding, and `encodeUrl` without, as
tokens are written. `decode` reads back what `encode` writes (`decode_encode`,
`encoded_reads_back`). It reads one text more for some bytes: the last character in
front of the padding holds bits that no byte takes, and they are not looked at
(`encode_eq_iff`).

The source encodes and decodes with shifts and masks on a 24-bit number, and so
does the model; the lemmas read them as arithmetic once and for all, a group of
six bits as `n / 2 ^ shift % 64`. The argument is then about digits: four
groups of six bits and three bytes are two ways to write a number below `2 ^
24`.
-/

namespace WsBlast.Base64

/-- The alphabet of standard base64. -/
def alphabet : List Char :=
  "ABCDEFGHIJKLMNOPQRSTUVWXYZabcdefghijklmnopqrstuvwxyz0123456789+/".toList

/-- The character of the six bits of `n` from bit `shift` on. -/
def sextetAt (alphabet : List Char) (n shift : ℕ) : Char :=
  alphabet.getD (n >>> shift % 64) 'A'

/-- The four characters of up to three bytes: the bytes as one 24-bit number
read in four groups of six bits, the groups past the last byte padded. -/
def encodeChunk (alphabet : List Char) (pad : Bool) (b0 : UInt8)
    (b1 b2 : Option UInt8) : List Char :=
  let n := b0.toNat <<< 16 ||| (b1.getD 0).toNat <<< 8 ||| (b2.getD 0).toNat
  let padding := if pad then ['='] else []
  [sextetAt alphabet n 18, sextetAt alphabet n 12]
    ++ (if b1.isSome then [sextetAt alphabet n 6] else padding)
    ++ (if b2.isSome then [sextetAt alphabet n 0] else padding)

/-- The characters of a byte string, three bytes at a time. -/
def encodeChars (alphabet : List Char) (pad : Bool) : Bytes → List Char
  | [] => []
  | [b0] => encodeChunk alphabet pad b0 none none
  | [b0, b1] => encodeChunk alphabet pad b0 (some b1) none
  | b0 :: b1 :: b2 :: rest =>
    encodeChunk alphabet pad b0 (some b1) (some b2) ++ encodeChars alphabet pad rest

/-- Encodes `input` as padded standard base64. -/
def encode (input : Bytes) : String := String.ofList (encodeChars alphabet true input)

/-- The alphabet of base64url. -/
def urlAlphabet : List Char :=
  "ABCDEFGHIJKLMNOPQRSTUVWXYZabcdefghijklmnopqrstuvwxyz0123456789-_".toList

/-- Encodes `input` as base64url without padding. -/
def encodeUrl (input : Bytes) : String := String.ofList (encodeChars urlAlphabet false input)

/-! ## Decoding -/

/-- The six bits of a character. -/
def sextet (c : Char) : Option ℕ :=
  let n := c.toNat
  if 65 ≤ n ∧ n ≤ 90 then some (n - 65)
  else if 97 ≤ n ∧ n ≤ 122 then some (n - 97 + 26)
  else if 48 ≤ n ∧ n ≤ 57 then some (n - 48 + 52)
  else if c = '+' then some 62
  else if c = '/' then some 63
  else none

/-- The number of characters read as groups of six bits. -/
def sextets (chars : List Char) : Option ℕ :=
  chars.foldlM (fun n c => (sextet c).map (n <<< 6 ||| ·)) 0

/-- The bytes of four characters. Only the last group of a text may be
padded. -/
def decodeGroup (group : List Char) (last : Bool) : Option Bytes :=
  let padding := (group.reverse.takeWhile (· = '=')).length
  if 2 < padding ∨ (0 < padding ∧ last = false) then none
  else (sextets (group.take (4 - padding))).map fun n =>
    let n := n <<< (6 * padding)
    UInt8.ofNat (n >>> 16) :: ((if padding < 2 then [UInt8.ofNat (n >>> 8)] else [])
      ++ if padding < 1 then [UInt8.ofNat n] else [])

/-- The bytes of characters, four at a time. -/
def decodeChars : List Char → Option Bytes
  | [] => some []
  | c0 :: c1 :: c2 :: c3 :: rest => do
    let bytes ← decodeGroup [c0, c1, c2, c3] rest.isEmpty
    let more ← decodeChars rest
    return bytes ++ more
  | _ => none

/-- Decodes padded standard base64. A character outside ASCII is in no group,
so it does not matter that the source reads the text byte by byte. -/
def decode (input : String) : Option Bytes := decodeChars input.toList

/-! ## Decoding what was encoded -/

/-- The alphabet is read as it is written, and does not hold the padding. -/
theorem sextet_alphabet : ∀ i < 64,
    sextet (alphabet.getD i 'A') = some i ∧ alphabet.getD i 'A' ≠ '=' := by
  decide +kernel

theorem sextet_sextetAt (n shift : ℕ) :
    sextet (sextetAt alphabet n shift) = some (n >>> shift % 64) :=
  (sextet_alphabet _ (Nat.mod_lt _ (by decide))).1

theorem sextetAt_ne_padding (n shift : ℕ) : sextetAt alphabet n shift ≠ '=' :=
  (sextet_alphabet _ (Nat.mod_lt _ (by decide))).2

/-- Joining bits is addition when they do not meet. -/
theorem shiftLeft_or {a b k : ℕ} (h : b < 2 ^ k) : a <<< k ||| b = a * 2 ^ k + b := by
  rw [← Nat.shiftLeft_add_eq_or_of_lt h, Nat.shiftLeft_eq]

/-- The 24 bits of three bytes. -/
theorem join_bytes (b0 b1 b2 : ℕ) (h1 : b1 < 256) (h2 : b2 < 256) :
    b0 <<< 16 ||| b1 <<< 8 ||| b2 = b0 * 65536 + b1 * 256 + b2 := by
  have hmiddle : b1 <<< 8 < 2 ^ 16 := by
    rw [Nat.shiftLeft_eq]
    omega
  have hhigh : b0 <<< 16 ||| b1 <<< 8 = (b0 * 256 + b1) <<< 8 := by
    rw [shiftLeft_or hmiddle, Nat.shiftLeft_eq, Nat.shiftLeft_eq]
    ring
  rw [hhigh, shiftLeft_or (by omega)]
  ring

/-- Reading the groups of six bits of a number gives its highest bits back. -/
theorem sextets_two (n : ℕ) (h : n < 2 ^ 24) :
    sextets [sextetAt alphabet n 18, sextetAt alphabet n 12] = some (n / 2 ^ 12) := by
  have hlow : n >>> 12 % 64 < 2 ^ 6 := Nat.mod_lt _ (by decide)
  simp only [sextets, List.foldlM_cons, List.foldlM_nil, sextet_sextetAt, Option.map_some,
    Option.bind_eq_bind, Option.bind_some, Option.pure_def, Nat.zero_shiftLeft, Nat.zero_or,
    shiftLeft_or hlow]
  simp only [Nat.shiftRight_eq_div_pow, Option.some.injEq]
  omega

theorem sextets_snoc (chars : List Char) (c : Char) :
    sextets (chars ++ [c])
      = (sextets chars).bind fun n => (sextet c).map (n <<< 6 ||| ·) := by
  simp [sextets, List.foldlM_append]

theorem sextets_three (n : ℕ) (h : n < 2 ^ 24) :
    sextets [sextetAt alphabet n 18, sextetAt alphabet n 12, sextetAt alphabet n 6]
      = some (n / 2 ^ 6) := by
  have hlow : n >>> 6 % 64 < 2 ^ 6 := Nat.mod_lt _ (by decide)
  have hsnoc := sextets_snoc [sextetAt alphabet n 18, sextetAt alphabet n 12]
    (sextetAt alphabet n 6)
  rw [List.cons_append, List.cons_append, List.nil_append] at hsnoc
  rw [hsnoc, sextets_two n h, Option.bind_some, sextet_sextetAt, Option.map_some, shiftLeft_or hlow]
  simp only [Nat.shiftRight_eq_div_pow, Option.some.injEq]
  omega

theorem sextets_four (n : ℕ) (h : n < 2 ^ 24) :
    sextets [sextetAt alphabet n 18, sextetAt alphabet n 12, sextetAt alphabet n 6,
      sextetAt alphabet n 0] = some n := by
  have hlow : n >>> 0 % 64 < 2 ^ 6 := Nat.mod_lt _ (by decide)
  have hsnoc := sextets_snoc [sextetAt alphabet n 18, sextetAt alphabet n 12,
    sextetAt alphabet n 6] (sextetAt alphabet n 0)
  rw [List.cons_append, List.cons_append, List.cons_append, List.nil_append] at hsnoc
  rw [hsnoc, sextets_three n h, Option.bind_some, sextet_sextetAt, Option.map_some,
    shiftLeft_or hlow]
  simp only [Nat.shiftRight_eq_div_pow, Option.some.injEq, pow_zero, Nat.div_one]
  omega

/-- A byte is the lowest eight bits of a number. -/
theorem ofNat_eq_of_mod {n : ℕ} {b : UInt8} (h : n % 256 = b.toNat) : UInt8.ofNat n = b := by
  rw [← UInt8.toNat_inj, UInt8.toNat_ofNat', ← h]

section Groups

variable (b0 b1 b2 : UInt8)

/-- A full group. -/
theorem decodeGroup_three (last : Bool) :
    decodeGroup (encodeChunk alphabet true b0 (some b1) (some b2)) last = some [b0, b1, b2] := by
  have h0 := b0.toNat_lt
  have h1 := b1.toNat_lt
  have h2 := b2.toNat_lt
  have hn := join_bytes b0.toNat b1.toNat b2.toNat h1 h2
  have hbound : b0.toNat <<< 16 ||| b1.toNat <<< 8 ||| b2.toNat < 2 ^ 24 := by omega
  simp only [encodeChunk, Option.getD_some, Option.isSome_some, if_true]
  generalize hjoined : b0.toNat <<< 16 ||| b1.toNat <<< 8 ||| b2.toNat = n at *
  have hlast := sextetAt_ne_padding n 0
  simp only [decodeGroup, List.cons_append, List.nil_append, List.reverse_cons, List.reverse_nil,
    List.takeWhile_cons, hlast, decide_false, Bool.false_eq_true, if_false, List.length_nil,
    Nat.not_lt_zero, false_and, or_false, Nat.sub_zero, List.take_succ_cons, List.take_zero,
    sextets_four n hbound, Option.map_some, Nat.mul_zero, Nat.shiftLeft_zero]
  have hhigh : UInt8.ofNat (n >>> 16) = b0 := ofNat_eq_of_mod (by
    rw [Nat.shiftRight_eq_div_pow]; omega)
  have hmiddle : UInt8.ofNat (n >>> 8) = b1 := ofNat_eq_of_mod (by
    rw [Nat.shiftRight_eq_div_pow]; omega)
  have hlow : UInt8.ofNat n = b2 := ofNat_eq_of_mod (by omega)
  simp [hhigh, hmiddle, hlow]

/-- The last group of two bytes. -/
theorem decodeGroup_two :
    decodeGroup (encodeChunk alphabet true b0 (some b1) none) true = some [b0, b1] := by
  have h0 := b0.toNat_lt
  have h1 := b1.toNat_lt
  have hn := join_bytes b0.toNat b1.toNat 0 h1 (by decide)
  have hbound : b0.toNat <<< 16 ||| b1.toNat <<< 8 ||| 0 < 2 ^ 24 := by omega
  simp only [encodeChunk, Option.getD_some, Option.getD_none, Option.isSome_some,
    Option.isSome_none, if_true, Bool.false_eq_true, if_false, UInt8.toNat_zero]
  generalize hjoined : b0.toNat <<< 16 ||| b1.toNat <<< 8 ||| 0 = n at *
  have hlast := sextetAt_ne_padding n 6
  simp only [decodeGroup, List.cons_append, List.nil_append, List.reverse_cons, List.reverse_nil,
    List.takeWhile_cons, hlast, decide_true, decide_false, Bool.false_eq_true, if_true, if_false,
    List.length_cons, List.length_nil, sextets_three n hbound, List.take_succ_cons, List.take_zero,
    Option.map_some, Nat.shiftLeft_eq, Nat.shiftRight_eq_div_pow]
  have hhigh : UInt8.ofNat (n / 64 * 64 / 65536) = b0 := ofNat_eq_of_mod (by omega)
  have hmiddle : UInt8.ofNat (n / 64 * 64 / 256) = b1 := ofNat_eq_of_mod (by omega)
  simp [hhigh, hmiddle]

/-- The last group of one byte. -/
theorem decodeGroup_one :
    decodeGroup (encodeChunk alphabet true b0 none none) true = some [b0] := by
  have h0 := b0.toNat_lt
  have hn := join_bytes b0.toNat 0 0 (by decide) (by decide)
  have hbound : b0.toNat <<< 16 ||| 0 <<< 8 ||| 0 < 2 ^ 24 := by omega
  simp only [encodeChunk, Option.getD_none, Option.isSome_none, if_true, Bool.false_eq_true,
    if_false, UInt8.toNat_zero]
  generalize hjoined : b0.toNat <<< 16 ||| 0 <<< 8 ||| 0 = n at *
  have hlast := sextetAt_ne_padding n 12
  simp only [decodeGroup, List.cons_append, List.nil_append, List.reverse_cons, List.reverse_nil,
    List.takeWhile_cons, hlast, decide_true, decide_false, Bool.false_eq_true, if_true, if_false,
    List.length_cons, List.length_nil, sextets_two n hbound, List.take_succ_cons, List.take_zero,
    Option.map_some, Nat.shiftLeft_eq, Nat.shiftRight_eq_div_pow]
  have hhigh : UInt8.ofNat (n / 4096 * 4096 / 65536) = b0 := ofNat_eq_of_mod (by omega)
  simp [hhigh]

end Groups

/-- Every chunk is one group of four characters. -/
theorem decodeChars_encodeChunk (b0 : UInt8) (b1 b2 : Option UInt8) (rest : List Char) :
    decodeChars (encodeChunk alphabet true b0 b1 b2 ++ rest)
      = (decodeGroup (encodeChunk alphabet true b0 b1 b2) rest.isEmpty).bind fun bytes =>
        (decodeChars rest).map (bytes ++ ·) := by
  obtain ⟨c0, c1, c2, c3, hfour⟩ : ∃ c0 c1 c2 c3,
      encodeChunk alphabet true b0 b1 b2 = [c0, c1, c2, c3] := by
    cases b1 <;> cases b2 <;> exact ⟨_, _, _, _, rfl⟩
  rw [hfour, List.cons_append, List.cons_append, List.cons_append, List.cons_append,
    List.nil_append, decodeChars]
  cases decodeGroup [c0, c1, c2, c3] rest.isEmpty with
  | none => rfl
  | some bytes => cases decodeChars rest <;> rfl

/-- **Decoding undoes encoding.** -/
theorem decodeChars_encodeChars (input : Bytes) :
    decodeChars (encodeChars alphabet true input) = some input := by
  induction input using encodeChars.induct with
  | case1 => rfl
  | case2 b0 =>
    have h := decodeChars_encodeChunk b0 none none []
    rw [List.append_nil] at h
    rw [encodeChars, h, List.isEmpty_nil, decodeGroup_one]
    rfl
  | case3 b0 b1 =>
    have h := decodeChars_encodeChunk b0 (some b1) none []
    rw [List.append_nil] at h
    rw [encodeChars, h, List.isEmpty_nil, decodeGroup_two]
    rfl
  | case4 b0 b1 b2 rest ih =>
    rw [encodeChars, decodeChars_encodeChunk, decodeGroup_three, ih]
    rfl

theorem decode_encode (input : Bytes) : decode (encode input) = some input := by
  rw [decode, encode, String.toList_ofList]
  exact decodeChars_encodeChars input

/-! ## What is written

The length, the alphabet and the padding of an encoded text, and the url form,
which tokens are made of: the same text with two characters replaced, and
without padding. -/

theorem length_encodeChunk (b0 : UInt8) (b1 b2 : Option UInt8) :
    (encodeChunk alphabet true b0 b1 b2).length = 4 := by
  cases b1 <;> cases b2 <;> rfl

theorem length_encodeChars (input : Bytes) :
    (encodeChars alphabet true input).length = 4 * ((input.length + 2) / 3) := by
  induction input using encodeChars.induct with
  | case1 => rfl
  | case2 b0 =>
    rw [encodeChars, length_encodeChunk]
    simp
  | case3 b0 b1 =>
    rw [encodeChars, length_encodeChunk]
    simp
  | case4 b0 b1 b2 rest ih =>
    have hceil : ((b0 :: b1 :: b2 :: rest).length + 2) / 3 = (rest.length + 2) / 3 + 1 := by
      rw [show (b0 :: b1 :: b2 :: rest).length + 2 = rest.length + 2 + 3 from rfl,
        Nat.add_div_right _ (by decide)]
    rw [encodeChars, List.length_append, length_encodeChunk, ih, hceil, Nat.mul_add,
      Nat.add_comm]

theorem sextetAt_mem (n shift : ℕ) : sextetAt alphabet n shift ∈ alphabet := by
  have hlt : n >>> shift % 64 < alphabet.length := Nat.mod_lt _ (by decide)
  unfold sextetAt
  rw [List.getD_eq_getElem _ _ hlt]
  exact List.getElem_mem hlt

/-- Characters of the alphabet, and then at most two of the padding. -/
def Padded (chars : List Char) : Prop :=
  ∃ body padding, (∀ c ∈ body, c ∈ alphabet) ∧ padding ≤ 2 ∧
    chars = body ++ List.replicate padding '='

theorem Padded.append {chars : List Char} (h : Padded chars) {front : List Char}
    (hfront : ∀ c ∈ front, c ∈ alphabet) : Padded (front ++ chars) := by
  obtain ⟨body, padding, hbody, hpadding, rfl⟩ := h
  refine ⟨front ++ body, padding, fun c hc => ?_, hpadding, (List.append_assoc _ _ _).symm⟩
  exact (List.mem_append.mp hc).elim (hfront c) (hbody c)

theorem padded_encodeChars (input : Bytes) : Padded (encodeChars alphabet true input) := by
  have hpads (n : ℕ) (hn : n ≤ 2) : Padded (List.replicate n '=') :=
    ⟨[], n, fun _ h => absurd h List.not_mem_nil, hn, rfl⟩
  have hsextet (n : ℕ) (shifts : List ℕ) :
      ∀ c ∈ shifts.map (sextetAt alphabet n), c ∈ alphabet := by
    intro c hc
    obtain ⟨shift, -, rfl⟩ := List.mem_map.mp hc
    exact sextetAt_mem n shift
  induction input using encodeChars.induct with
  | case1 => exact hpads 0 (by decide)
  | case2 b0 => exact (hpads 2 le_rfl).append (hsextet _ [18, 12])
  | case3 b0 b1 => exact (hpads 1 (by decide)).append (hsextet _ [18, 12, 6])
  | case4 b0 b1 b2 rest ih => exact ih.append (hsextet _ [18, 12, 6, 0])

/-- The character of base64url for one of standard base64. -/
def urlChar (c : Char) : Char := if c = '+' then '-' else if c = '/' then '_' else c

theorem urlAlphabet_getD : ∀ i < 64, urlAlphabet.getD i 'A' = urlChar (alphabet.getD i 'A') := by
  decide +kernel

theorem sextetAt_urlAlphabet (n shift : ℕ) :
    sextetAt urlAlphabet n shift = urlChar (sextetAt alphabet n shift) :=
  urlAlphabet_getD _ (Nat.mod_lt _ (by decide))

/-- Without padding, and with the other two characters. -/
theorem encodeChars_urlAlphabet (input : Bytes) :
    encodeChars urlAlphabet false input
      = ((encodeChars alphabet true input).filter (· ≠ '=')).map urlChar := by
  have hchunk (b0 : UInt8) (b1 b2 : Option UInt8) : encodeChunk urlAlphabet false b0 b1 b2
      = ((encodeChunk alphabet true b0 b1 b2).filter (· ≠ '=')).map urlChar := by
    cases b1 <;> cases b2 <;>
      simp [encodeChunk, sextetAt_urlAlphabet, sextetAt_ne_padding]
  induction input using encodeChars.induct with
  | case1 => rfl
  | case2 b0 => exact hchunk b0 none none
  | case3 b0 b1 => exact hchunk b0 (some b1) none
  | case4 b0 b1 b2 rest ih =>
    rw [encodeChars, encodeChars, hchunk, ih, List.filter_append, List.map_append]

/-- **Base64 round trips**: what is encoded is decoded, its length is four
characters for each three bytes begun, and base64url is the same without the
padding. -/
theorem encoded_reads_back (input : Bytes) :
    decode (encode input) = some input ∧
      (encode input).length = 4 * ((input.length + 2) / 3) ∧
      Padded (encode input).toList ∧
      (encodeUrl input).toList = ((encode input).toList.filter (· ≠ '=')).map urlChar := by
  have hchars : (encode input).toList = encodeChars alphabet true input := String.toList_ofList
  refine ⟨decode_encode input, ?_, ?_, ?_⟩
  · rw [← String.length_toList, hchars]
    exact length_encodeChars input
  · rw [hchars]
    exact padded_encodeChars input
  · rw [hchars, encodeUrl, String.toList_ofList]
    exact encodeChars_urlAlphabet input

/-! ## What is read

The converse question: when is a decoded text the one that would have been
written? A character that is read is the one at its value, so only bits that are
read and not kept can make a difference. -/

/-- A character that is read is the one at its value. -/
theorem getD_of_sextet {c : Char} {v : ℕ} (h : sextet c = some v) :
    v < 64 ∧ alphabet.getD v 'A' = c := by
  have hsmall : ∀ n < 128, ∀ v, sextet (Char.ofNat n) = some v →
      v < 64 ∧ alphabet.getD v 'A' = Char.ofNat n := by
    intro n hn v hv
    have hread : ∀ n < 128, ((sextet (Char.ofNat n)).all fun v =>
        decide (v < 64 ∧ alphabet.getD v 'A' = Char.ofNat n)) = true := by decide +kernel
    exact of_decide_eq_true ((Option.all_eq_true _ _).mp (hread n hn) v hv)
  have hascii : c.toNat < 128 := by
    unfold sextet at h
    dsimp only at h
    split_ifs at h with hupper hlower hdigit hplus hslash
    · omega
    · omega
    · omega
    · rw [hplus]
      decide
    · rw [hslash]
      decide
  have hc : Char.ofNat c.toNat = c := Char.ofNat_toNat c
  rw [← hc] at h ⊢
  exact hsmall c.toNat hascii v h

/-- The bits of the last character in front of the padding that no byte
takes. -/
def unusedBits (chars : List Char) : ℕ :=
  match chars.reverse with
  | '=' :: '=' :: c :: _ => (sextet c).getD 0 % 16
  | '=' :: c :: _ => (sextet c).getD 0 % 4
  | _ => 0

theorem sextets_eq_some {chars : List Char} {c : Char} {n : ℕ}
    (h : sextets (chars ++ [c]) = some n) :
    ∃ m v, sextets chars = some m ∧ sextet c = some v ∧ n = m * 64 + v := by
  rw [sextets_snoc] at h
  obtain ⟨m, hm, hn⟩ := Option.bind_eq_some_iff.mp h
  obtain ⟨v, hv, rfl⟩ := Option.map_eq_some_iff.mp hn
  exact ⟨m, v, hm, hv, shiftLeft_or (getD_of_sextet hv).1⟩

theorem sextets_two_eq_some {c0 c1 : Char} {n : ℕ} (h : sextets [c0, c1] = some n) :
    ∃ v0 v1, sextet c0 = some v0 ∧ sextet c1 = some v1 ∧ n = v0 * 64 + v1 := by
  obtain ⟨m, v1, hm, hv1, rfl⟩ := @sextets_eq_some [c0] c1 n h
  obtain ⟨start, v0, hstart, hv0, rfl⟩ := @sextets_eq_some [] c0 m hm
  obtain rfl := Option.some.inj hstart
  exact ⟨v0, v1, hv0, hv1, by rw [Nat.zero_mul, Nat.zero_add]⟩

theorem sextetAt_eq_iff {c : Char} {v : ℕ} (h : sextet c = some v) (n shift : ℕ) :
    sextetAt alphabet n shift = c ↔ n >>> shift % 64 = v := by
  constructor
  · rintro rfl
    exact Option.some.inj ((sextet_sextetAt n shift).symm.trans h)
  · rintro rfl
    exact (getD_of_sextet h).2

section Numbers

variable {n : ℕ} (h : n < 2 ^ 24)
include h

theorem toNat_high : (UInt8.ofNat (n >>> 16)).toNat = n / 65536 := by
  rw [UInt8.toNat_ofNat', Nat.shiftRight_eq_div_pow]
  omega

omit h in
theorem toNat_middle : (UInt8.ofNat (n >>> 8)).toNat = n / 256 % 256 := by
  rw [UInt8.toNat_ofNat', Nat.shiftRight_eq_div_pow]

/-- The characters of the three bytes of a number. -/
theorem encodeChunk_number :
    encodeChunk alphabet true (UInt8.ofNat (n >>> 16)) (some (UInt8.ofNat (n >>> 8)))
        (some (UInt8.ofNat n))
      = [sextetAt alphabet n 18, sextetAt alphabet n 12, sextetAt alphabet n 6,
        sextetAt alphabet n 0] := by
  have hjoin := join_bytes (n / 65536) (n / 256 % 256) (n % 256) (Nat.mod_lt _ (by decide))
    (Nat.mod_lt _ (by decide))
  have hn : n / 65536 * 65536 + n / 256 % 256 * 256 + n % 256 = n := by omega
  unfold encodeChunk
  dsimp only [Option.getD_some]
  rw [toNat_high h, toNat_middle, UInt8.toNat_ofNat', hjoin, hn]
  rfl

/-- Of its first two bytes. -/
theorem encodeChunk_number_two :
    encodeChunk alphabet true (UInt8.ofNat (n >>> 16)) (some (UInt8.ofNat (n >>> 8))) none
      = [sextetAt alphabet (n / 256 * 256) 18, sextetAt alphabet (n / 256 * 256) 12,
        sextetAt alphabet (n / 256 * 256) 6, '='] := by
  have hjoin := join_bytes (n / 65536) (n / 256 % 256) 0 (Nat.mod_lt _ (by decide)) (by decide)
  have hn : n / 65536 * 65536 + n / 256 % 256 * 256 + 0 = n / 256 * 256 := by omega
  unfold encodeChunk
  dsimp only [Option.getD_some, Option.getD_none]
  rw [toNat_high h, toNat_middle, UInt8.toNat_zero, hjoin, hn]
  rfl

/-- Of its first byte. -/
theorem encodeChunk_number_one :
    encodeChunk alphabet true (UInt8.ofNat (n >>> 16)) none none
      = [sextetAt alphabet (n / 65536 * 65536) 18, sextetAt alphabet (n / 65536 * 65536) 12,
        '=', '='] := by
  have hjoin := join_bytes (n / 65536) 0 0 (by decide) (by decide)
  unfold encodeChunk
  dsimp only [Option.getD_none]
  rw [toNat_high h, UInt8.toNat_zero, hjoin, Nat.zero_mul, Nat.add_zero]
  rfl

end Numbers

theorem decodeGroup_eq_some {group : List Char} {last : Bool} {bytes : Bytes} {padding : ℕ}
    (hpadding : (group.reverse.takeWhile (· = '=')).length = padding)
    (h : decodeGroup group last = some bytes) :
    padding ≤ 2 ∧ (0 < padding → last = true) ∧ ∃ n, sextets (group.take (4 - padding)) = some n ∧
      bytes = UInt8.ofNat (n <<< (6 * padding) >>> 16)
        :: ((if padding < 2 then [UInt8.ofNat (n <<< (6 * padding) >>> 8)] else [])
          ++ if padding < 1 then [UInt8.ofNat (n <<< (6 * padding))] else []) := by
  unfold decodeGroup at h
  rw [hpadding] at h
  dsimp only at h
  split at h
  · cases h
  · rename_i hfits
    obtain ⟨hle, hlast⟩ := not_or.mp hfits
    obtain ⟨n, hn, hbytes⟩ := Option.map_eq_some_iff.mp h
    refine ⟨Nat.not_lt.mp hle, fun hpos => ?_, n, hn, hbytes.symm⟩
    exact (Bool.not_eq_false _).mp fun hnot => hlast ⟨hpos, hnot⟩

section Texts

variable {c0 c1 c2 c3 : Char} {last : Bool} {bytes : Bytes}

/-- Four characters without padding are what is written for their bytes. -/
theorem encode_full (hc3 : c3 ≠ '=') (h : decodeGroup [c0, c1, c2, c3] last = some bytes) :
    ∃ b0 b1 b2, bytes = [b0, b1, b2] ∧
      encodeChunk alphabet true b0 (some b1) (some b2) = [c0, c1, c2, c3] := by
  obtain ⟨-, -, n, hn, rfl⟩ := @decodeGroup_eq_some _ _ _ 0 (by simp [hc3]) h
  obtain ⟨high, v3, hhigh, hv3, rfl⟩ := @sextets_eq_some [c0, c1, c2] c3 n hn
  obtain ⟨low, v2, hlow, hv2, rfl⟩ := @sextets_eq_some [c0, c1] c2 high hhigh
  obtain ⟨v0, v1, hv0, hv1, rfl⟩ := sextets_two_eq_some hlow
  have h0 := (getD_of_sextet hv0).1
  have h1 := (getD_of_sextet hv1).1
  have h2 := (getD_of_sextet hv2).1
  have h3 := (getD_of_sextet hv3).1
  refine ⟨_, _, _, rfl, ?_⟩
  rw [Nat.mul_zero, Nat.shiftLeft_zero, encodeChunk_number (by omega),
    (sextetAt_eq_iff hv0 _ _).mpr, (sextetAt_eq_iff hv1 _ _).mpr, (sextetAt_eq_iff hv2 _ _).mpr,
    (sextetAt_eq_iff hv3 _ _).mpr]
  all_goals
    rw [Nat.shiftRight_eq_div_pow]
    omega

/-- With one character of padding, they are unless the last one has bits that
no byte takes. -/
theorem encode_padded_one (hc2 : c2 ≠ '=') (h : decodeGroup [c0, c1, c2, '='] last = some bytes) :
    last = true ∧ ∃ b0 b1, bytes = [b0, b1] ∧
      (encodeChunk alphabet true b0 (some b1) none = [c0, c1, c2, '=']
        ↔ unusedBits [c0, c1, c2, '='] = 0) := by
  obtain ⟨-, hlast, n, hn, rfl⟩ := @decodeGroup_eq_some _ _ _ 1 (by simp [hc2]) h
  obtain ⟨low, v2, hlow, hv2, rfl⟩ := @sextets_eq_some [c0, c1] c2 n hn
  obtain ⟨v0, v1, hv0, hv1, rfl⟩ := sextets_two_eq_some hlow
  have h0 := (getD_of_sextet hv0).1
  have h1 := (getD_of_sextet hv1).1
  have h2 := (getD_of_sextet hv2).1
  have hunused : unusedBits [c0, c1, c2, '='] = v2 % 4 := by
    simp [unusedBits, hv2, hc2]
  refine ⟨hlast Nat.one_pos, _, _, rfl, ?_⟩
  have hshift : ((v0 * 64 + v1) * 64 + v2) <<< (6 * 1) = ((v0 * 64 + v1) * 64 + v2) * 64 :=
    Nat.shiftLeft_eq _ _
  rw [hshift, hunused, encodeChunk_number_two (by omega), (sextetAt_eq_iff hv0 _ _).mpr,
    (sextetAt_eq_iff hv1 _ _).mpr]
  · simp only [List.cons.injEq, true_and, and_true]
    rw [sextetAt_eq_iff hv2, Nat.shiftRight_eq_div_pow]
    omega
  all_goals
    rw [Nat.shiftRight_eq_div_pow]
    omega

/-- With two, too. -/
theorem encode_padded_two (hc1 : c1 ≠ '=') (h : decodeGroup [c0, c1, '=', '='] last = some bytes) :
    last = true ∧ ∃ b0, bytes = [b0] ∧
      (encodeChunk alphabet true b0 none none = [c0, c1, '=', '=']
        ↔ unusedBits [c0, c1, '=', '='] = 0) := by
  obtain ⟨-, hlast, n, hn, rfl⟩ := @decodeGroup_eq_some _ _ _ 2 (by simp [hc1]) h
  obtain ⟨v0, v1, hv0, hv1, rfl⟩ := sextets_two_eq_some hn
  have h0 := (getD_of_sextet hv0).1
  have h1 := (getD_of_sextet hv1).1
  have hunused : unusedBits [c0, c1, '=', '='] = v1 % 16 := by
    simp [unusedBits, hv1]
  refine ⟨hlast Nat.two_pos, _, rfl, ?_⟩
  have hshift : (v0 * 64 + v1) <<< (6 * 2) = (v0 * 64 + v1) * 4096 := Nat.shiftLeft_eq _ _
  rw [hshift, hunused, encodeChunk_number_one (by omega), (sextetAt_eq_iff hv0 _ _).mpr]
  · simp only [List.cons.injEq, true_and, and_true]
    rw [sextetAt_eq_iff hv1, Nat.shiftRight_eq_div_pow]
    omega
  · rw [Nat.shiftRight_eq_div_pow]
    omega

/-- Four characters are written for what they are read as unless bits were
dropped, and only the last four can be padded. -/
theorem encode_decodeGroup (h : decodeGroup [c0, c1, c2, c3] last = some bytes) :
    (encodeChars alphabet true bytes = [c0, c1, c2, c3] ↔ unusedBits [c0, c1, c2, c3] = 0) ∧
      (last = false → ∃ b0 b1 b2, bytes = [b0, b1, b2] ∧
        encodeChunk alphabet true b0 (some b1) (some b2) = [c0, c1, c2, c3]) := by
  by_cases hc3 : c3 = '='
  · subst hc3
    by_cases hc2 : c2 = '='
    · subst hc2
      by_cases hc1 : c1 = '='
      · subst hc1
        have hpadding := (decodeGroup_eq_some rfl h).1
        simp at hpadding
      · obtain ⟨hlast, b0, rfl, hiff⟩ := encode_padded_two hc1 h
        exact ⟨hiff, fun hnot => absurd (hlast.symm.trans hnot) (by decide)⟩
    · obtain ⟨hlast, b0, b1, rfl, hiff⟩ := encode_padded_one hc2 h
      exact ⟨hiff, fun hnot => absurd (hlast.symm.trans hnot) (by decide)⟩
  · obtain ⟨b0, b1, b2, rfl, hchunk⟩ := encode_full hc3 h
    have hunused : unusedBits [c0, c1, c2, c3] = 0 := by
      simp [unusedBits, hc3]
    refine ⟨iff_of_true ?_ hunused, fun _ => ⟨b0, b1, b2, rfl, hchunk⟩⟩
    rw [encodeChars, encodeChars, List.append_nil, hchunk]

end Texts

/-- Only the last four characters count. -/
theorem unusedBits_append (front : List Char) {chars : List Char} (h : 3 ≤ chars.length) :
    unusedBits (front ++ chars) = unusedBits chars := by
  have hlength : 3 ≤ chars.reverse.length := by rwa [List.length_reverse]
  unfold unusedBits
  rw [List.reverse_append]
  match chars.reverse, hlength with
  | a :: b :: c :: rest, _ =>
    by_cases ha : a = '='
    · by_cases hb : b = '='
      · simp [ha, hb]
      · simp [ha, hb]
    · simp [ha]

theorem decodeChars_length {chars : List Char} {bytes : Bytes}
    (h : decodeChars chars = some bytes) (hne : chars ≠ []) : 3 ≤ chars.length := by
  match chars, h, hne with
  | _ :: _ :: _ :: _ :: _, _, _ => exact Nat.le_add_left 3 _

theorem encodeChars_eq_iff {chars : List Char} {bytes : Bytes}
    (h : decodeChars chars = some bytes) :
    encodeChars alphabet true bytes = chars ↔ unusedBits chars = 0 := by
  induction chars using decodeChars.induct generalizing bytes with
  | case1 =>
    obtain rfl := Option.some.inj h
    exact iff_of_true rfl rfl
  | case2 c0 c1 c2 c3 rest ih =>
    rw [decodeChars] at h
    obtain ⟨first, hfirst, hrest⟩ := Option.bind_eq_some_iff.mp h
    obtain ⟨more, hmore, hbytes⟩ := Option.bind_eq_some_iff.mp hrest
    obtain rfl := Option.some.inj hbytes
    obtain ⟨hlast, hfull⟩ := encode_decodeGroup hfirst
    by_cases hnil : rest = []
    · subst hnil
      obtain rfl := Option.some.inj hmore
      rw [List.append_nil]
      exact hlast
    · obtain ⟨b0, b1, b2, rfl, hchunk⟩ := hfull (List.isEmpty_eq_false_iff.mpr hnil)
      have hunused : unusedBits (c0 :: c1 :: c2 :: c3 :: rest) = unusedBits rest :=
        unusedBits_append [c0, c1, c2, c3] (decodeChars_length hmore hnil)
      rw [List.cons_append, List.cons_append, List.cons_append, List.nil_append, encodeChars,
        hchunk, hunused, ← ih hmore]
      exact List.append_right_inj [c0, c1, c2, c3]
  | case3 chars hnil hfour =>
    rw [decodeChars] at h
    · cases h
    · exact hnil
    · exact hfour

/-- **A text that is decoded is the one that is encoded for its bytes**,
unless the character in front of the padding has bits that no byte takes. -/
theorem encode_eq_iff {input : String} {bytes : Bytes} (h : decode input = some bytes) :
    encode bytes = input ↔ unusedBits input.toList = 0 := by
  rw [← encodeChars_eq_iff h, ← String.toList_inj, encode, String.toList_ofList]

theorem encode_eq_iff_foobar : encode [102, 111, 111, 98] = "Zm9vYg==" :=
  (encode_eq_iff (by decide +kernel)).mpr (by decide +kernel)

/-- The same byte is read from two texts. -/
theorem decode_unused : decode "Zh==" = some [102] ∧ encode [102] = "Zg==" := by
  decide +kernel

end WsBlast.Base64
