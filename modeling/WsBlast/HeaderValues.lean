import WsBlast.Builder
import WsBlast.Corruption

/-!
# Texts as header values

A header value is made of the bytes of a text, and is read back as a text
when all of its bytes are visible ASCII, spaces and tabs. So every text
without control characters is a value (`headerValue_ofList`), and only the
ASCII ones are read back (`headerText_encodeChars`).

The HTTP library has two notions of a header value. As bytes it takes
everything but control characters, a tab excepted; as a text it gives only
visible ASCII, spaces and tabs. A program that writes a header from a text and
reads one as a text meets both, and a text with an accent is written and not
read.
-/

namespace WsBlast

/-! ## The bytes of a value

Character by character, since the bytes of a text are those of its characters.
-/

/-- Whether a character may stand in a header value. -/
def isHeaderChar (c : Char) : Bool := (32 ≤ c.toNat && c.toNat ≠ 127) || c.toNat = 9

theorem all_utf8EncodeChar (c : Char) :
    (String.utf8EncodeChar c).all (fun b => (32 ≤ b && b ≠ 127) || b = 9) = isHeaderChar c := by
  by_cases hascii : c.toNat < 128
  · rw [utf8EncodeChar_ascii hascii, List.all_cons, List.all_nil, Bool.and_true]
    have hbyte : c.val.toUInt8.toNat = c.toNat := toNat_byte hascii
    unfold isHeaderChar
    simp only [UInt8.le_iff_toNat_le, ne_eq, ← UInt8.toNat_inj, hbyte]
    rfl
  · have hhigh := not_ascii_of_mem_utf8EncodeChar (Nat.le_of_not_lt hascii)
    have hchar : isHeaderChar c = true := by
      unfold isHeaderChar
      simp only [Bool.or_eq_true, Bool.and_eq_true, decide_eq_true_eq]
      omega
    rw [hchar, List.all_eq_true]
    intro b hb
    have hb := UInt8.le_iff_toNat_le.mp (hhigh b hb)
    have h128 : (128 : UInt8).toNat = 128 := rfl
    have h32 : (32 : UInt8).toNat = 32 := rfl
    have h127 : (127 : UInt8).toNat = 127 := rfl
    simp only [Bool.or_eq_true, Bool.and_eq_true, decide_eq_true_eq, UInt8.le_iff_toNat_le, ne_eq,
      ← UInt8.toNat_inj]
    omega

/-- **A text is a header value when each of its characters may stand in one.** -/
theorem headerValue_ofList (chars : List Char) :
    headerValue (String.ofList chars)
      = if chars.all isHeaderChar then some (encodeChars chars) else none := by
  have hbytes : (String.ofList chars).toUTF8.data.toList = encodeChars chars :=
    textBytes_eq_encodeChars chars
  unfold headerValue
  rw [hbytes]
  have hall : (encodeChars chars).all (fun b => (32 ≤ b && b ≠ 127) || b = 9)
      = chars.all isHeaderChar := by
    unfold encodeChars
    rw [List.all_flatMap]
    exact congrArg (fun p => chars.all p) (funext all_utf8EncodeChar)
  dsimp only
  rw [hall]

/-! ## A value read as text

In both directions: from the text that was written to what is read, and from
what is read to the bytes. -/

/-- The value of an ASCII text is read as the text. -/
theorem headerText_of_ascii {chars : List Char} (h : chars.all isHeaderChar = true)
    (hascii : ∀ c ∈ chars, c.toNat < 128) :
    headerText (encodeChars chars) = some (String.ofList chars) := by
  have hchars : ∀ c ∈ chars, 32 ≤ c.toNat ∧ c.toNat ≠ 127 ∨ c.toNat = 9 := by
    simpa [isHeaderChar] using h
  have hbytes : encodeChars chars = chars.map fun c => c.val.toUInt8 :=
    (textBytes_eq_encodeChars chars).symm.trans (textBytes_ofList hascii)
  have hback : (chars.map fun c => c.val.toUInt8).map (fun b => Char.ofNat b.toNat) = chars := by
    rw [List.map_map]
    conv_rhs => rw [← List.map_id chars]
    refine List.map_congr_left fun c hc => ?_
    show Char.ofNat c.val.toUInt8.toNat = c
    rw [toNat_byte (hascii c hc), Char.ofNat_toNat]
  unfold headerText
  rw [hbytes, if_pos, hback]
  rw [List.all_map, List.all_eq_true]
  intro c hc
  have hbyte : c.val.toUInt8.toNat = c.toNat := toNat_byte (hascii c hc)
  have hlt := hascii c hc
  have hvalid := hchars c hc
  simp only [Function.comp_apply, Bool.or_eq_true, Bool.and_eq_true, decide_eq_true_eq,
    UInt8.le_iff_toNat_le, UInt8.lt_iff_toNat_lt, ← UInt8.toNat_inj, hbyte]
  show c.toNat = 9 ∨ 32 ≤ c.toNat ∧ c.toNat < 127
  omega

/-- The value of a text beyond ASCII is not read. -/
theorem headerText_of_not_ascii {chars : List Char} (h : ¬ ∀ c ∈ chars, c.toNat < 128) :
    headerText (encodeChars chars) = none := by
  push Not at h
  obtain ⟨c, hc, hhigh⟩ := h
  unfold headerText
  refine if_neg fun hall => ?_
  obtain ⟨b, hb⟩ : ∃ b, b ∈ String.utf8EncodeChar c :=
    List.exists_mem_of_ne_nil _ (by
      intro hnil
      have hlength := String.length_utf8EncodeChar c
      rw [hnil] at hlength
      exact absurd hlength.symm c.utf8Size_pos.ne')
  have hbyte := UInt8.le_iff_toNat_le.mp (not_ascii_of_mem_utf8EncodeChar hhigh b hb)
  have hmem : b ∈ encodeChars chars := List.mem_flatMap.mpr ⟨c, hc, hb⟩
  have hvalid := List.all_eq_true.mp hall b hmem
  simp only [Bool.or_eq_true, Bool.and_eq_true, decide_eq_true_eq, UInt8.lt_iff_toNat_lt,
    ← UInt8.toNat_inj] at hvalid
  have h128 : (128 : UInt8).toNat = 128 := rfl
  have h9 : (9 : UInt8).toNat = 9 := rfl
  have h127 : (127 : UInt8).toNat = 127 := rfl
  omega

/-- A value that is read as text is the bytes of it. -/
theorem textBytes_of_headerText {value : Bytes} {text : String} (h : headerText value = some text) :
    textBytes text = value := by
  unfold headerText at h
  split_ifs at h with hall
  cases h
  have hlt : ∀ b ∈ value, b.toNat < 128 := by
    intro b hb
    have hvalid := List.all_eq_true.mp hall b hb
    simp only [Bool.or_eq_true, Bool.and_eq_true, decide_eq_true_eq, UInt8.lt_iff_toNat_lt,
      ← UInt8.toNat_inj] at hvalid
    have h9 : (9 : UInt8).toNat = 9 := rfl
    have h127 : (127 : UInt8).toNat = 127 := rfl
    omega
  have hchar : ∀ b ∈ value, (Char.ofNat b.toNat).toNat = b.toNat := by
    intro b hb
    have hb := hlt b hb
    rw [Char.toNat_ofNat, if_pos]
    unfold Nat.isValidChar
    omega
  rw [textBytes_ofList, List.map_map]
  · conv_rhs => rw [← List.map_id value]
    refine List.map_congr_left fun b hb => ?_
    rw [← UInt8.toNat_inj]
    show (Char.ofNat b.toNat).val.toUInt8.toNat = b.toNat
    rw [toNat_byte ((hchar b hb).trans_lt (hlt b hb)), hchar b hb]
  · intro c hc
    obtain ⟨b, hb, rfl⟩ := List.mem_map.mp hc
    exact (hchar b hb).trans_lt (hlt b hb)

/-! ## Rendered values -/

/-- A text is a header value when its characters are those of one. -/
theorem isSome_headerValue (text : String) :
    (headerValue text).isSome = true ↔ text.toList.all isHeaderChar = true := by
  rw [← String.ofList_toList (s := text), headerValue_ofList, String.toList_ofList]
  split_ifs with hall
  · exact iff_of_true rfl hall
  · exact iff_of_false Bool.false_ne_true hall

theorem all_isHeaderChar_toString (n : ℕ) : (toString n).toList.all isHeaderChar = true := by
  rw [List.all_eq_true]
  intro c hc
  have hlist : (toString n).toList = Nat.toDigits 10 n := Nat.toList_repr
  rw [hlist] at hc
  have hdigit := Nat.isDigit_of_mem_toDigits (by decide) (by decide) hc
  unfold Char.isDigit at hdigit
  simp only [Bool.and_eq_true, decide_eq_true_eq, UInt32.le_iff_toNat_le] at hdigit
  have h48 : '0'.val.toNat = 48 := rfl
  have h57 : '9'.val.toNat = 57 := rfl
  have hnat : c.val.toNat = c.toNat := rfl
  unfold isHeaderChar
  simp only [Bool.or_eq_true, Bool.and_eq_true, decide_eq_true_eq]
  omega

theorem all_isHeaderChar_join (texts : List String) :
    (String.join texts).toList.all isHeaderChar = true
      ↔ ∀ text ∈ texts, text.toList.all isHeaderChar = true := by
  rw [String.toList_join, List.all_flatMap, List.all_eq_true]

end WsBlast
