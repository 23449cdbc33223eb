import WsBlast.FaultDecisions
import WsBlast.DeflateAgreement

/-!
# Corruption changes exactly one byte

`ChaosState.corrupt` works on the bytes of a frame. In a text these are the
UTF-8 encodings of its characters one after the other, and a byte below 128
is a whole character (`exists_char_of_mem_asciiPositions`); putting another
ASCII character there gives the encoding of a text again. In any other frame
with a byte one bit is flipped.

Corrupting a frame is meant to test the server's handling of bad content, and
not its WebSocket library: a text frame has to stay a text frame, with valid
UTF-8.
-/

namespace WsBlast

/-! ## Bytes of a text

The encoding of a text is that of its characters, so an ASCII byte can be traced
to the character it is. -/

/-- The UTF-8 encoding of some characters. -/
def encodeChars (chars : List Char) : Bytes := chars.flatMap String.utf8EncodeChar

@[simp] theorem encodeChars_nil : encodeChars [] = [] := rfl

@[simp] theorem encodeChars_cons (c : Char) (chars : List Char) :
    encodeChars (c :: chars) = String.utf8EncodeChar c ++ encodeChars chars := rfl

@[simp] theorem encodeChars_append (chars more : List Char) :
    encodeChars (chars ++ more) = encodeChars chars ++ encodeChars more := List.flatMap_append

theorem textBytes_eq_encodeChars (chars : List Char) :
    textBytes (String.ofList chars) = encodeChars chars := by
  unfold textBytes
  show (String.ofList chars).toByteArray.data.toList = _
  rw [String.toByteArray_ofList, List.utf8Encode, List.data_toByteArray]
  rfl

/-- A text is decoded from its bytes. -/
theorem fromUTF8?_encodeChars (chars : List Char) :
    String.fromUTF8? ⟨(encodeChars chars).toArray⟩ = some (String.ofList chars) := by
  rw [← textBytes_eq_encodeChars]
  unfold textBytes
  show String.fromUTF8? (String.ofList chars).toByteArray = _
  unfold String.fromUTF8?
  rw [dif_pos (String.ofList chars).isValidUTF8]
  rfl

theorem fromUTF8?_textBytes (text : String) :
    String.fromUTF8? ⟨(textBytes text).toArray⟩ = some text := by
  have hread := fromUTF8?_encodeChars text.toList
  rw [← textBytes_eq_encodeChars, String.ofList_toList] at hread
  exact hread

/-- A byte with its highest bit set is not ASCII. -/
theorem not_ascii_or (x : UInt8) {mask : UInt8} (h : 128 ≤ mask) : 128 ≤ x ||| mask := by
  rw [UInt8.le_iff_toNat_le] at h ⊢
  rw [UInt8.toNat_or]
  exact h.trans Nat.right_le_or

/-- **A character beyond ASCII has no ASCII byte.** -/
theorem not_ascii_of_mem_utf8EncodeChar {c : Char} (h : 128 ≤ c.toNat) :
    ∀ b ∈ String.utf8EncodeChar c, 128 ≤ b := by
  have hne : c.utf8Size ≠ 1 := by
    rw [Ne, Char.utf8Size_eq_one_iff, UInt32.le_iff_toNat_le]
    exact Nat.not_le_of_lt h
  have hpos := c.utf8Size_pos
  have hle := c.utf8Size_le_four
  have hsize : c.utf8Size = 2 ∨ c.utf8Size = 3 ∨ c.utf8Size = 4 := by omega
  rcases hsize with h2 | h3 | h4
  · rw [String.utf8EncodeChar_eq_cons_cons h2]
    simp only [List.forall_mem_cons]
    exact ⟨not_ascii_or _ (by decide), not_ascii_or _ (by decide), by simp⟩
  · rw [String.utf8EncodeChar_eq_cons_cons_cons h3]
    simp only [List.forall_mem_cons]
    exact ⟨not_ascii_or _ (by decide), not_ascii_or _ (by decide), not_ascii_or _ (by decide),
      by simp⟩
  · rw [String.utf8EncodeChar_eq_cons_cons_cons_cons h4]
    simp only [List.forall_mem_cons]
    exact ⟨not_ascii_or _ (by decide), not_ascii_or _ (by decide), not_ascii_or _ (by decide),
      not_ascii_or _ (by decide), by simp⟩

/-- **An ASCII byte of a text is a character of it.** -/
theorem exists_char_of_ascii {chars : List Char} {pos : ℕ} {b : UInt8}
    (hb : (encodeChars chars)[pos]? = some b) (hascii : b < 128) :
    ∃ before c after, chars = before ++ c :: after ∧ c.toNat < 128 ∧ b = c.val.toUInt8 ∧
      pos = (encodeChars before).length := by
  induction chars generalizing pos with
  | nil => simp at hb
  | cons c chars ih =>
    rw [encodeChars_cons, List.getElem?_append] at hb
    split_ifs at hb with hpos
    · have hc : c.toNat < 128 := by
        by_contra hc
        have hhigh := not_ascii_of_mem_utf8EncodeChar (Nat.le_of_not_lt hc) b
          (List.mem_of_getElem? hb)
        exact UInt8.not_lt.mpr hhigh hascii
      rw [utf8EncodeChar_ascii hc] at hb hpos
      have hzero : pos = 0 := Nat.lt_one_iff.mp hpos
      subst hzero
      exact ⟨[], c, chars, rfl, hc, (Option.some.inj hb).symm, rfl⟩
    · obtain ⟨before, d, after, hchars, hd, hbyte, hlen⟩ := ih hb
      refine ⟨c :: before, d, after, by rw [hchars]; rfl, hd, hbyte, ?_⟩
      rw [encodeChars_cons, List.length_append, ← hlen]
      omega

/-- A text has an ASCII byte when it has an ASCII character. -/
theorem exists_ascii_iff (chars : List Char) :
    (∃ b ∈ encodeChars chars, b < 128) ↔ ∃ c ∈ chars, c.toNat < 128 := by
  constructor
  · rintro ⟨b, hb, hascii⟩
    obtain ⟨pos, hpos⟩ := List.getElem?_of_mem hb
    obtain ⟨before, c, after, rfl, hc, -, -⟩ := exists_char_of_ascii hpos hascii
    exact ⟨c, by simp, hc⟩
  · rintro ⟨c, hc, hascii⟩
    refine ⟨c.val.toUInt8, List.mem_flatMap.mpr ⟨c, hc, ?_⟩, ?_⟩
    · rw [utf8EncodeChar_ascii hascii]
      exact List.mem_singleton_self _
    · rw [UInt8.lt_iff_toNat_lt, toNat_byte hascii]
      exact hascii

/-! ## Another printable character

From the character at the place, or from the nearest printable one when it is a
control character. -/

/-- A byte moved into the printable range, counted from its beginning. -/
theorem toNat_printable (original : UInt8) :
    (max 0x20 (min 0x7e original) - 0x20 : UInt8).toNat
      = max 0x20 (min 0x7e original.toNat) - 0x20 := by
  have hmin : (min 0x7e original : UInt8).toNat = min 0x7e original.toNat := by
    show (if (0x7e : UInt8) ≤ original then (0x7e : UInt8) else original).toNat = _
    rw [Nat.min_def, apply_ite UInt8.toNat]
    exact if_congr UInt8.le_iff_toNat_le rfl rfl
  have hmax : (max 0x20 (min 0x7e original) : UInt8).toNat
      = max 0x20 (min 0x7e original.toNat) := by
    show (if (0x20 : UInt8) ≤ min 0x7e original then min 0x7e original else 0x20).toNat = _
    rw [Nat.max_def, apply_ite UInt8.toNat, ← hmin]
    exact if_congr UInt8.le_iff_toNat_le rfl rfl
  rw [UInt8.toNat_sub_of_le, hmax]
  · rfl
  · rw [UInt8.le_iff_toNat_le, hmax]
    exact le_max_left _ _

/-- Up to 94 steps along the circle of the 95 printable characters lead to
another one. -/
theorem printable_step (original : ℕ) {steps : ℕ} (h : steps < 94) :
    let base := max 32 (min 126 original) - 32
    32 ≤ 32 + (base + 1 + steps) % 95 ∧ 32 + (base + 1 + steps) % 95 ≤ 126 ∧
      32 + (base + 1 + steps) % 95 ≠ original := by
  intro base
  have hbase : base ≤ 94 := by omega
  rcases Nat.lt_or_ge (base + 1 + steps) 95 with hlt | hge
  · rw [Nat.mod_eq_of_lt hlt]
    omega
  · rw [Nat.mod_eq_sub_mod hge, Nat.mod_eq_of_lt (by omega)]
    omega

/-- **The replacement is a printable character, and another one.** -/
theorem otherPrintable_spec (original offset : UInt8) :
    0x20 ≤ (otherPrintable original offset).toNat ∧ (otherPrintable original offset).toNat ≤ 0x7e ∧
      (otherPrintable original offset).toNat ≠ original.toNat := by
  have hsteps : offset.toNat % 94 < 94 := Nat.mod_lt _ (by decide)
  have hvalue : (otherPrintable original offset).toNat
      = 32 + (max 32 (min 126 original.toNat) - 32 + 1 + offset.toNat % 94) % 95 := by
    unfold otherPrintable
    dsimp only
    rw [UInt8.toNat_add, UInt8.toNat_mod, UInt8.toNat_add, UInt8.toNat_add, UInt8.toNat_mod,
      toNat_printable]
    show (32 + ((_ + 1) % 256 + offset.toNat % 94) % 256 % 95) % 256 = _
    generalize hbase : max 32 (min 126 original.toNat) - 32 = base
    have hle : base ≤ 94 := by omega
    rw [Nat.mod_eq_of_lt (show base + 1 < 256 by omega),
      Nat.mod_eq_of_lt (show base + 1 + offset.toNat % 94 < 256 by omega)]
    omega
  rw [hvalue]
  exact printable_step original.toNat hsteps

/-! ## Corrupted frames

What one corruption may do, and that each kind of frame has it done. -/

/-- The bytes a frame carries. -/
def Message.payloadBytes : Message → Bytes
  | .text value => textBytes value
  | .binary bytes => bytes
  | .ping bytes => bytes
  | .pong bytes => bytes
  | .close _ => []
  | .frame => []

/-- Exactly one byte differs. -/
def OneByteDiffers (bytes out : Bytes) : Prop :=
  ∃ (i : ℕ) (h : i < bytes.length) (b : UInt8), b ≠ bytes[i] ∧ out = bytes.set i b

/-- One bit of one byte differs. -/
def OneBitFlipped (bytes out : Bytes) : Prop :=
  ∃ (i : ℕ) (h : i < bytes.length) (bit : ℕ), bit < 8 ∧
    out = bytes.set i (bytes[i] ^^^ (1 <<< UInt8.ofNat bit))

/-- One ASCII character became another printable ASCII character. -/
def OneCharacterReplaced (chars out : List Char) : Prop :=
  ∃ before c c' after, chars = before ++ c :: after ∧ out = before ++ c' :: after ∧
    c.toNat < 128 ∧ 0x20 ≤ c'.toNat ∧ c'.toNat ≤ 0x7e ∧ c' ≠ c

theorem flip_ne {b : UInt8} {bit : ℕ} (h : bit < 8) : b ^^^ (1 <<< UInt8.ofNat bit) ≠ b := by
  have hone : (1 : UInt8) <<< UInt8.ofNat bit ≠ 0 := by
    interval_cases bit <;> decide
  intro heq
  rw [← UInt8.xor_zero (a := b), UInt8.xor_assoc, UInt8.zero_xor, UInt8.xor_right_inj] at heq
  exact hone heq

theorem OneBitFlipped.oneByteDiffers {bytes out : Bytes} (h : OneBitFlipped bytes out) :
    OneByteDiffers bytes out := by
  obtain ⟨i, hi, bit, hbit, rfl⟩ := h
  exact ⟨i, hi, _, flip_ne hbit, rfl⟩

theorem OneByteDiffers.length {bytes out : Bytes} (h : OneByteDiffers bytes out) :
    out.length = bytes.length := by
  obtain ⟨i, hi, b, -, rfl⟩ := h
  exact List.length_set

theorem modify_eq_set_of_lt {α : Type} {items : List α} {i : ℕ} (h : i < items.length)
    (f : α → α) : items.modify i f = items.set i (f items[i]) := by
  rw [List.modify_eq_take_cons_drop h, List.set_eq_take_append_cons_drop, if_pos h]

namespace ChaosState

variable (state : ChaosState)

/-- Flipping changes one bit. -/
theorem oneBitFlipped_flipBit {bytes : Bytes} (h : bytes ≠ []) :
    OneBitFlipped bytes (state.flipBit bytes).1 := by
  have hpos := state.rng.atMost_length_lt h
  have hbit := (state.rng.atMost (UInt64.ofNat (bytes.length - 1))).2.atMost_le 7
  unfold flipBit
  dsimp only
  exact ⟨_, hpos, _, Nat.lt_succ_of_le hbit, modify_eq_set_of_lt hpos _⟩

theorem mem_asciiPositions {bytes : Bytes} {pos : ℕ} (h : pos ∈ asciiPositions bytes) :
    ∃ b, bytes[pos]? = some b ∧ b < 128 := by
  obtain ⟨hpos, hascii⟩ := List.mem_findIdxs_iff_exists_getElem_pos.mp h
  exact ⟨bytes[pos], List.getElem?_eq_getElem hpos, of_decide_eq_true hascii⟩

theorem asciiPositions_eq_nil {bytes : Bytes} :
    asciiPositions bytes = [] ↔ ¬ ∃ b ∈ bytes, b < 128 := by
  unfold asciiPositions
  rw [List.findIdxs_eq_nil_iff]
  simp

/-- **The text in place of a text with an ASCII character**: the replaced
byte is the encoding of a character again. -/
theorem oneCharacterReplaced (chars : List Char) {pos : ℕ}
    (h : pos ∈ asciiPositions (encodeChars chars)) (offset : UInt8) :
    ∃ out, OneCharacterReplaced chars out ∧ OneByteDiffers (encodeChars chars) (encodeChars out) ∧
      (encodeChars chars).modify pos (fun b => otherPrintable b offset) = encodeChars out := by
  -- the character that the byte is, with what is before and behind it
  obtain ⟨b, hb, hascii⟩ := mem_asciiPositions h
  obtain ⟨before, c, after, rfl, hc, rfl, rfl⟩ := exists_char_of_ascii hb hascii
  obtain ⟨hlow, hhigh, hne⟩ := otherPrintable_spec c.val.toUInt8 offset
  rw [toNat_byte hc] at hne
  generalize hd : otherPrintable c.val.toUInt8 offset = d at hlow hhigh hne
  have hvalid : d.toNat.isValidChar := Or.inl (by omega)
  have htoNat : (Char.ofNat d.toNat).toNat = d.toNat := by
    rw [Char.ofNat, dif_pos hvalid]
    rfl
  have hbyte : (Char.ofNat d.toNat).val.toUInt8 = d := by
    refine UInt8.toNat_inj.mp ?_
    rw [toNat_byte (by rw [htoNat]; omega), htoNat]
  have hencode (e : Char) (he : e.toNat < 128) : encodeChars (before ++ e :: after)
      = encodeChars before ++ e.val.toUInt8 :: encodeChars after := by
    rw [encodeChars_append, encodeChars_cons, utf8EncodeChar_ascii he]
    rfl
  have hset : (encodeChars (before ++ c :: after)).set (encodeChars before).length d
      = encodeChars (before ++ Char.ofNat d.toNat :: after) := by
    rw [hencode c hc, hencode _ (by rw [htoNat]; omega), hbyte]
    simp
  have hlt : (encodeChars before).length < (encodeChars (before ++ c :: after)).length := by
    rw [hencode c hc]
    simp
  have hget : (encodeChars (before ++ c :: after))[(encodeChars before).length] = c.val.toUInt8 :=
    Option.some.inj ((List.getElem?_eq_getElem hlt).symm.trans hb)
  refine ⟨before ++ Char.ofNat d.toNat :: after, ?_, ⟨_, hlt, d, ?_, hset.symm⟩, ?_⟩
  · refine ⟨before, c, _, after, rfl, rfl, hc, by rw [htoNat]; exact hlow,
      by rw [htoNat]; exact hhigh, fun heq => hne ?_⟩
    rw [← htoNat, heq]
  · rw [hget]
    rintro rfl
    exact hne (toNat_byte hc)
  · rw [modify_eq_set_of_lt hlt, hget, hd, hset]

end ChaosState

/-- What corrupting a text or binary frame gives. -/
structure CorruptsOneByte (msg out : Message) (changed : Bool) : Prop where
  length : out.payloadBytes.length = msg.payloadBytes.length
  changed_iff : changed = true ↔ msg.payloadBytes ≠ []
  oneByte : changed = true → OneByteDiffers msg.payloadBytes out.payloadBytes
  /-- A text with an ASCII character stays a text. -/
  text : ∀ chars, msg = .text (String.ofList chars) → (∃ c ∈ chars, c.toNat < 128) →
    ∃ chars', out = .text (String.ofList chars') ∧ OneCharacterReplaced chars chars'
  /-- Another text becomes a binary frame. -/
  binary_of_text : ∀ chars, msg = .text (String.ofList chars) → chars ≠ [] →
    (∀ c ∈ chars, 128 ≤ c.toNat) →
    ∃ bytes, out = .binary bytes ∧ OneBitFlipped msg.payloadBytes bytes
  binary : ∀ bytes, msg = .binary bytes → bytes ≠ [] →
    ∃ bytes', out = .binary bytes' ∧ OneBitFlipped bytes bytes'
  unchanged : changed = false → out = msg

namespace ChaosState

variable (state : ChaosState)

/-- A text with an ASCII character is sent as another text. -/
theorem corrupt_text_ascii {chars : List Char} (h : ∃ c ∈ chars, c.toNat < 128) :
    ∃ chars', (state.corrupt (.text (String.ofList chars))).1
        = (.text (String.ofList chars'), true) ∧
      OneCharacterReplaced chars chars' ∧
      OneByteDiffers (encodeChars chars) (encodeChars chars') := by
  have hne : asciiPositions (encodeChars chars) ≠ [] := by
    rw [Ne, asciiPositions_eq_nil, not_not, exists_ascii_iff]
    exact h
  have hlt := state.rng.atMost_length_lt hne
  obtain ⟨chars', hreplaced, hdiffers, hout⟩ := oneCharacterReplaced chars (List.getElem_mem hlt)
    ((state.rng.atMost (UInt64.ofNat ((asciiPositions (encodeChars chars)).length - 1))).2.atMost
      93).1.toUInt8
  refine ⟨chars', ?_, hreplaced, hdiffers⟩
  have hbytes : (String.ofList chars).toUTF8.data.toList = encodeChars chars :=
    textBytes_eq_encodeChars chars
  unfold corrupt
  simp only [hbytes, hne, if_false, List.getElem?_eq_getElem hlt, hout, fromUTF8?_encodeChars]

/-- A text without an ASCII character is sent as a binary frame. -/
theorem corrupt_text_other {chars : List Char} (hne : chars ≠ [])
    (h : ¬ ∃ c ∈ chars, c.toNat < 128) :
    (state.corrupt (.text (String.ofList chars))).1
      = (.binary (state.flipBit (encodeChars chars)).1, true) ∧ encodeChars chars ≠ [] := by
  have hnone : asciiPositions (encodeChars chars) = [] := by
    rw [asciiPositions_eq_nil, exists_ascii_iff]
    exact h
  have hbytes : (String.ofList chars).toUTF8.data.toList = encodeChars chars :=
    textBytes_eq_encodeChars chars
  have hsome : encodeChars chars ≠ [] := by
    obtain ⟨c, rest, rfl⟩ := List.exists_cons_of_ne_nil hne
    have hlen := String.length_utf8EncodeChar c
    have hpos := c.utf8Size_pos
    intro hnil
    rw [encodeChars_cons, List.append_eq_nil_iff] at hnil
    rw [hnil.1, List.length_nil] at hlen
    omega
  refine ⟨?_, hsome⟩
  unfold corrupt
  simp only [hbytes, hnone, if_true, hsome, if_false]

theorem corrupt_binary {bytes : Bytes} (h : bytes ≠ []) :
    (state.corrupt (.binary bytes)).1 = (.binary (state.flipBit bytes).1, true) := by
  unfold corrupt
  simp only [h, if_false]

end ChaosState

/-- **Corruption changes exactly one byte**, of every text or binary frame
that has one. -/
theorem corrupt_one_byte (state : ChaosState) (msg : Message) (hdata : msg.isData = true) :
    CorruptsOneByte msg (state.corrupt msg).1.1 (state.corrupt msg).1.2 := by
  cases msg with
  | text value =>
    obtain ⟨chars, rfl⟩ : ∃ chars, value = String.ofList chars := ⟨value.toList, by simp⟩
    have hpayload (chars : List Char) :
        (Message.text (String.ofList chars)).payloadBytes = encodeChars chars :=
      textBytes_eq_encodeChars chars
    -- by whether there is an ASCII character to replace; else a bit is flipped
    by_cases hascii : ∃ c ∈ chars, c.toNat < 128
    · obtain ⟨chars', hout, hreplaced, hdiffers⟩ := state.corrupt_text_ascii hascii
      rw [hout]
      have hne : encodeChars chars ≠ [] := by
        obtain ⟨i, hi, -⟩ := hdiffers
        exact List.ne_nil_of_length_pos (Nat.zero_lt_of_lt hi)
      refine ⟨?_, ?_, fun _ => ?_, ?_, ?_, fun _ h => (nomatch h), fun h => (nomatch h)⟩
      · rw [hpayload, hpayload]
        exact hdiffers.length
      · rw [hpayload]
        exact iff_of_true rfl hne
      · rw [hpayload, hpayload]
        exact hdiffers
      · intro other hother _
        obtain rfl := String.ofList_injective (Message.text.inj hother)
        exact ⟨chars', rfl, hreplaced⟩
      · intro other hother _ hall
        obtain rfl := String.ofList_injective (Message.text.inj hother)
        obtain ⟨c, hc, hlt⟩ := hascii
        exact absurd hlt (Nat.not_lt_of_le (hall c hc))
    · by_cases hne : chars = []
      · subst hne
        have hout : (state.corrupt (.text (String.ofList []))).1
            = (.text (String.ofList []), false) := rfl
        rw [hout]
        refine ⟨rfl, ?_, fun h => (nomatch h), ?_, ?_, fun _ h => (nomatch h), fun _ => rfl⟩
        · rw [hpayload]
          simp
        · intro other hother hsome
          obtain rfl := String.ofList_injective (Message.text.inj hother)
          exact absurd hsome hascii
        · intro other hother hother_ne
          exact absurd (String.ofList_injective (Message.text.inj hother)).symm hother_ne
      · obtain ⟨hout, hsome⟩ := state.corrupt_text_other hne hascii
        have hflip := state.oneBitFlipped_flipBit hsome
        rw [hout]
        refine ⟨?_, ?_, fun _ => ?_, ?_, ?_, fun _ h => (nomatch h), fun h => (nomatch h)⟩
        · rw [hpayload]
          exact hflip.oneByteDiffers.length
        · rw [hpayload]
          exact iff_of_true rfl hsome
        · rw [hpayload]
          exact hflip.oneByteDiffers
        · intro other hother hother_ascii
          obtain rfl := String.ofList_injective (Message.text.inj hother)
          exact absurd hother_ascii hascii
        · intro other hother _ _
          rw [hpayload]
          exact ⟨_, rfl, hflip⟩
  | binary bytes =>
    by_cases hne : bytes = []
    · subst hne
      have hout : (state.corrupt (.binary [])).1 = (.binary [], false) := rfl
      rw [hout]
      exact ⟨rfl, by simp [Message.payloadBytes], fun h => (nomatch h), fun _ h => (nomatch h),
        fun _ h => (nomatch h),
        fun other hother hsome => absurd (Message.binary.inj hother).symm hsome, fun _ => rfl⟩
    · have hflip := state.oneBitFlipped_flipBit hne
      rw [state.corrupt_binary hne]
      refine ⟨hflip.oneByteDiffers.length, iff_of_true rfl hne, fun _ => hflip.oneByteDiffers,
        fun _ h => (nomatch h), fun _ h => (nomatch h), fun other hother _ => ?_,
        fun h => (nomatch h)⟩
      cases hother
      exact ⟨_, rfl, hflip⟩
  | ping bytes => cases hdata
  | pong bytes => cases hdata
  | close frame => cases hdata
  | frame => cases hdata

/-- The generator of seed 7 on a text with one ASCII character. -/
theorem corrupt_one_byte_text :
    Message.isData (.text "é!") = true ∧
      CorruptsOneByte (.text "é!")
        (ChaosState.corrupt ⟨{}, ⟨7⟩, ⟨7⟩⟩ (.text "é!")).1.1
        (ChaosState.corrupt ⟨{}, ⟨7⟩, ⟨7⟩⟩ (.text "é!")).1.2 :=
  ⟨rfl, corrupt_one_byte ⟨{}, ⟨7⟩, ⟨7⟩⟩ (.text "é!") rfl⟩

end WsBlast
