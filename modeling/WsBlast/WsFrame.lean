import WsBlast.Basic

/-!
# WebSocket frames

The header of a frame as RFC 6455 lays it out: the flags and the opcode, the
length of the payload in 7, 16 or 64 bits, and the mask key of a frame a
client sends. `FrameHeader.parse` reads it from the start of a buffer that may
not hold all of it yet, `FrameHeader.write` writes it with another payload
length, and `parse_write` says that the two agree.

The compression layer needs little of a frame: where it ends, its mask, and a
header with another length and another RSV1 bit. A length below 126 is in the
second byte; 126 and 127 there announce two or eight further bytes. A header is
written in the shortest form, as RFC 6455 asks, and read in any.
-/

namespace WsBlast

/-! ## Numbers in network order

The highest byte first, as in every length and in the code of a Close frame. -/

/-- The number of some bytes, the highest first. -/
def beNat (bytes : Bytes) : ℕ := bytes.foldl (fun n b => n * 256 + b.toNat) 0

/-- The lowest `k` bytes of a number, the highest first. -/
def toBe : ℕ → ℕ → Bytes
  | 0, _ => []
  | k + 1, n => toBe k (n / 256) ++ [UInt8.ofNat n]

@[simp] theorem length_toBe (k n : ℕ) : (toBe k n).length = k := by
  induction k generalizing n with
  | zero => rfl
  | succ k ih => rw [toBe, List.length_append, ih, List.length_singleton]

/-- A number that fits is read as it was written. -/
theorem beNat_toBe {k n : ℕ} (h : n < 256 ^ k) : beNat (toBe k n) = n := by
  induction k generalizing n with
  | zero =>
    rw [pow_zero, Nat.lt_one_iff] at h
    rw [h]
    rfl
  | succ k ih =>
    have hhigh : n / 256 < 256 ^ k := Nat.div_lt_of_lt_mul (by rw [← pow_succ']; exact h)
    have hlow : (UInt8.ofNat n).toNat = n % 256 := UInt8.toNat_ofNat'
    have hsnoc : beNat (toBe (k + 1) n) = beNat (toBe k (n / 256)) * 256 + (UInt8.ofNat n).toNat := by
      unfold beNat
      rw [toBe, List.foldl_append]
      rfl
    rw [hsnoc, ih hhigh, hlow]
    omega

/-! ## Masks

A client masks what it sends with a key of four bytes, the exclusive or of each
byte with one of the key. -/

/-- The mask key of a frame. -/
structure MaskKey where
  k0 : UInt8
  k1 : UInt8
  k2 : UInt8
  k3 : UInt8
  deriving DecidableEq, Repr

namespace MaskKey

/-- The byte of the key for a position of the payload. -/
def byteAt (key : MaskKey) (i : ℕ) : UInt8 :=
  match i % 4 with
  | 0 => key.k0
  | 1 => key.k1
  | 2 => key.k2
  | _ => key.k3

/-- The key as it is sent. -/
def bytes (key : MaskKey) : Bytes := [key.k0, key.k1, key.k2, key.k3]

end MaskKey

/-- Applies (or removes) a frame mask. -/
def applyMask (key : MaskKey) (data : Bytes) : Bytes := data.mapIdx fun i b => b ^^^ key.byteAt i

@[simp] theorem length_applyMask (key : MaskKey) (data : Bytes) :
    (applyMask key data).length = data.length := List.length_mapIdx

/-- Applying a mask twice changes nothing. -/
@[simp] theorem applyMask_applyMask (key : MaskKey) (data : Bytes) :
    applyMask key (applyMask key data) = data := by
  refine List.ext_getElem (by simp) fun i _ _ => ?_
  simp only [applyMask, List.getElem_mapIdx]
  rw [UInt8.xor_assoc, UInt8.xor_self, UInt8.xor_zero]

/-- A payload with the mask of its frame, if it has one. -/
def masked (mask : Option MaskKey) (data : Bytes) : Bytes :=
  match mask with
  | some key => applyMask key data
  | none => data

@[simp] theorem length_masked (mask : Option MaskKey) (data : Bytes) :
    (masked mask data).length = data.length := by
  cases mask <;> simp [masked]

@[simp] theorem masked_masked (mask : Option MaskKey) (data : Bytes) :
    masked mask (masked mask data) = data := by
  cases mask <;> simp [masked]

/-! ## Headers

The fields of a header in the order in which they are sent. -/

/-- A frame header. -/
structure FrameHeader where
  fin : Bool
  rsv1 : Bool
  /-- The RSV2 and RSV3 bits, kept as they are. -/
  rsv23 : UInt8
  opcode : UInt8
  mask : Option MaskKey
  /-- Header length in bytes. -/
  len : ℕ
  payload : ℕ
  rsv23_bits : rsv23 &&& 0x30 = rsv23
  opcode_bits : opcode &&& 0x0f = opcode
  deriving DecidableEq

namespace FrameHeader

/-- A number of `k` bytes at the start of a buffer, with what is behind it. -/
def takeBe (k : ℕ) (buf : Bytes) : Option (ℕ × Bytes) :=
  if k ≤ buf.length then some (beNat (buf.take k), buf.drop k) else none

/-- The length of the payload, behind the first two bytes, with the number of
bytes it takes and what is behind it. -/
def takePayload (b1 : UInt8) (buf : Bytes) : Option (ℕ × ℕ × Bytes) :=
  let n := (b1 &&& 0x7f).toNat
  if n = 126 then (takeBe 2 buf).map fun (payload, rest) => (payload, 2, rest)
  else if n = 127 then (takeBe 8 buf).map fun (payload, rest) => (payload, 8, rest)
  else some (n, 0, buf)

/-- The mask key, behind the length, with the number of bytes it takes. -/
def takeMask (b1 : UInt8) (buf : Bytes) : Option (Option MaskKey × ℕ) :=
  if b1 &&& 0x80 ≠ 0 then
    match buf with
    | k0 :: k1 :: k2 :: k3 :: _ => some (some ⟨k0, k1, k2, k3⟩, 4)
    | _ => none
  else some (none, 0)

/-- Parses the header at the start of a buffer; `none` until it is complete. -/
def parse : Bytes → Option FrameHeader
  | b0 :: b1 :: rest => do
    let (payload, lengthBytes, rest) ← takePayload b1 rest
    let (mask, maskBytes) ← takeMask b1 rest
    return {
      fin := b0 &&& 0x80 ≠ 0
      rsv1 := b0 &&& 0x40 ≠ 0
      rsv23 := b0 &&& 0x30
      opcode := b0 &&& 0x0f
      mask
      len := 2 + lengthBytes + maskBytes
      payload
      rsv23_bits := by rw [UInt8.and_assoc, UInt8.and_self]
      opcode_bits := by rw [UInt8.and_assoc, UInt8.and_self] }
  | _ => none

/-- The first byte of a header with these flags. -/
def firstByte (fin rsv1 : Bool) (rsv23 opcode : UInt8) : UInt8 :=
  (if fin then 0x80 else 0) ||| (if rsv1 then 0x40 else 0) ||| rsv23 ||| opcode

/-- The mask bit and the length of a payload. -/
def lengthBytes (mask : Bool) (payload : ℕ) : Bytes :=
  let maskBit : UInt8 := if mask then 0x80 else 0
  if payload ≤ 125 then [maskBit ||| UInt8.ofNat payload]
  else if payload ≤ 0xffff then (maskBit ||| 126) :: toBe 2 payload
  else (maskBit ||| 127) :: toBe 8 payload

/-- The bytes of a header with this frame's flags, `rsv1` and `payload`
bytes. -/
def write (h : FrameHeader) (rsv1 : Bool) (payload : ℕ) : Bytes :=
  firstByte h.fin rsv1 h.rsv23 h.opcode :: lengthBytes h.mask.isSome payload
    ++ (h.mask.map MaskKey.bytes).getD []

/-! ### Reading more than the header

Three parts of a header, each read the same with more behind it, and from no
more than its own bytes. -/

theorem takeBe_append {k : ℕ} {buf rest : Bytes} {n : ℕ} (h : takeBe k buf = some (n, rest))
    (more : Bytes) : takeBe k (buf ++ more) = some (n, rest ++ more) := by
  unfold takeBe at h ⊢
  split at h
  · rename_i hle
    obtain ⟨rfl, rfl⟩ := Prod.mk.inj (Option.some.inj h)
    rw [if_pos (by rw [List.length_append]; omega), List.take_append_of_le_length hle,
      List.drop_append_of_le_length hle]
  · cases h

/-- The payload length takes two or eight bytes behind its code, and none when
it is its own code. -/
theorem takePayload_eq_some {b1 : UInt8} {buf rest : Bytes} {n k : ℕ} :
    takePayload b1 buf = some (n, k, rest)
      ↔ ((b1 &&& 0x7f).toNat = 126 ∧ k = 2 ∨ (b1 &&& 0x7f).toNat = 127 ∧ k = 8)
          ∧ takeBe k buf = some (n, rest)
        ∨ ((b1 &&& 0x7f).toNat ≠ 126 ∧ (b1 &&& 0x7f).toNat ≠ 127)
          ∧ n = (b1 &&& 0x7f).toNat ∧ k = 0 ∧ rest = buf := by
  have hmap : ∀ j : ℕ, ((takeBe j buf).map fun (payload, rest) => (payload, j, rest))
      = some (n, k, rest) ↔ k = j ∧ takeBe k buf = some (n, rest) := by
    intro j
    constructor
    · intro h
      obtain ⟨⟨payload, after⟩, htake, heq⟩ := Option.map_eq_some_iff.mp h
      simp only [Prod.mk.injEq] at heq
      obtain ⟨rfl, rfl, rfl⟩ := heq
      exact ⟨rfl, htake⟩
    · rintro ⟨rfl, htake⟩
      rw [htake]
      rfl
  unfold takePayload
  dsimp only
  by_cases h126 : (b1 &&& 0x7f).toNat = 126
  · rw [if_pos h126, hmap]
    simp [h126]
  · rw [if_neg h126]
    by_cases h127 : (b1 &&& 0x7f).toNat = 127
    · rw [if_pos h127, hmap]
      simp [h127]
    · rw [if_neg h127]
      simp only [h126, h127, false_and, or_false, ne_eq, not_false_eq_true, and_self, true_and,
        false_or, Option.some.injEq, Prod.mk.injEq, eq_comm]

theorem takePayload_append {b1 : UInt8} {buf rest : Bytes} {n k : ℕ}
    (h : takePayload b1 buf = some (n, k, rest)) (more : Bytes) :
    takePayload b1 (buf ++ more) = some (n, k, rest ++ more) := by
  rw [takePayload_eq_some] at h ⊢
  obtain ⟨hcode, htake⟩ | ⟨hcode, rfl, rfl, rfl⟩ := h
  · exact .inl ⟨hcode, takeBe_append htake more⟩
  · exact .inr ⟨hcode, rfl, rfl, rfl⟩

theorem takeMask_append {b1 : UInt8} {buf : Bytes} {mask : Option MaskKey × ℕ}
    (h : takeMask b1 buf = some mask) (more : Bytes) : takeMask b1 (buf ++ more) = some mask := by
  unfold takeMask at h ⊢
  split at h
  · rename_i hmask
    rw [if_pos hmask]
    split at h
    · exact h
    · cases h
  · rename_i hmask
    rw [if_neg hmask]
    exact h

/-- **A header that is complete is read the same with more behind it.** -/
theorem parse_append {buf : Bytes} {h : FrameHeader} (hparse : parse buf = some h) (more : Bytes) :
    parse (buf ++ more) = some h := by
  match buf, hparse with
  | b0 :: b1 :: rest, hparse =>
    rw [List.cons_append, List.cons_append]
    unfold parse at hparse ⊢
    obtain ⟨⟨payload, lengthBytes, after⟩, hpayload, hparse⟩ := Option.bind_eq_some_iff.mp hparse
    obtain ⟨mask, hmask, hparse⟩ := Option.bind_eq_some_iff.mp hparse
    show (takePayload b1 (rest ++ more)).bind _ = _
    rw [takePayload_append hpayload more]
    show (takeMask b1 (after ++ more)).bind _ = _
    rw [takeMask_append hmask more]
    exact hparse

theorem takeBe_length {k : ℕ} {buf rest : Bytes} {n : ℕ} (h : takeBe k buf = some (n, rest)) :
    k + rest.length = buf.length := by
  unfold takeBe at h
  split at h
  · rename_i hle
    obtain ⟨-, rfl⟩ := Prod.mk.inj (Option.some.inj h)
    rw [List.length_drop, Nat.add_sub_cancel' hle]
  · cases h

theorem takePayload_length {b1 : UInt8} {buf rest : Bytes} {n k : ℕ}
    (h : takePayload b1 buf = some (n, k, rest)) : k + rest.length = buf.length := by
  obtain ⟨-, htake⟩ | ⟨-, rfl, rfl, rfl⟩ := takePayload_eq_some.mp h
  · exact takeBe_length htake
  · exact Nat.zero_add _

theorem takeMask_length {b1 : UInt8} {buf : Bytes} {mask : Option MaskKey × ℕ}
    (h : takeMask b1 buf = some mask) : mask.2 ≤ buf.length := by
  unfold takeMask at h
  split at h
  · split at h
    · obtain rfl := Option.some.inj h
      simp
    · cases h
  · obtain rfl := Option.some.inj h
    exact Nat.zero_le _

/-- A header that is complete is in the buffer, and takes some of it. -/
theorem parse_length {buf : Bytes} {h : FrameHeader} (hparse : parse buf = some h) :
    2 ≤ h.len ∧ h.len ≤ buf.length := by
  match buf, hparse with
  | b0 :: b1 :: rest, hparse =>
    unfold parse at hparse
    obtain ⟨⟨payload, lengthBytes, after⟩, hpayload, hparse⟩ := Option.bind_eq_some_iff.mp hparse
    obtain ⟨⟨mask, maskBytes⟩, hmask, hparse⟩ := Option.bind_eq_some_iff.mp hparse
    obtain rfl := Option.some.inj hparse
    have hlength := takePayload_length hpayload
    have hafter := takeMask_length hmask
    simp only [List.length_cons] at hlength hafter ⊢
    omega

theorem takeBe_take {k : ℕ} {buf rest : Bytes} {n : ℕ} (h : takeBe k buf = some (n, rest))
    (m : ℕ) : takeBe k (buf.take (k + m)) = some (n, rest.take m) := by
  unfold takeBe at h ⊢
  split at h
  · rename_i hle
    obtain ⟨rfl, rfl⟩ := Prod.mk.inj (Option.some.inj h)
    have hfits : k ≤ (buf.take (k + m)).length := by
      rw [List.length_take]
      exact le_min (Nat.le_add_right k m) hle
    rw [if_pos hfits, List.take_take, Nat.min_eq_left (Nat.le_add_right k m), List.drop_take,
      Nat.add_sub_cancel_left]
  · cases h

theorem takePayload_take {b1 : UInt8} {buf rest : Bytes} {n k : ℕ}
    (h : takePayload b1 buf = some (n, k, rest)) (m : ℕ) :
    takePayload b1 (buf.take (k + m)) = some (n, k, rest.take m) := by
  rw [takePayload_eq_some] at h ⊢
  obtain ⟨hcode, htake⟩ | ⟨hcode, rfl, rfl, rfl⟩ := h
  · exact .inl ⟨hcode, takeBe_take htake m⟩
  · exact .inr ⟨hcode, rfl, rfl, by rw [Nat.zero_add]⟩

theorem takeMask_take {b1 : UInt8} {buf : Bytes} {mask : Option MaskKey} {k : ℕ}
    (h : takeMask b1 buf = some (mask, k)) {m : ℕ} (hm : k ≤ m) :
    takeMask b1 (buf.take m) = some (mask, k) := by
  unfold takeMask at h ⊢
  split at h
  · rename_i hmask
    rw [if_pos hmask]
    split at h
    · simp only [Option.some.injEq, Prod.mk.injEq] at h
      obtain ⟨rfl, rfl⟩ := h
      obtain ⟨m, rfl⟩ := Nat.exists_eq_add_of_le' hm
      rfl
    · cases h
  · rename_i hmask
    rw [if_neg hmask]
    exact h

/-- **A header is read from its own bytes.** -/
theorem parse_take {buf : Bytes} {h : FrameHeader} (hparse : parse buf = some h) {n : ℕ}
    (hn : h.len ≤ n) : parse (buf.take n) = some h := by
  match buf, hparse with
  | b0 :: b1 :: rest, hparse =>
    unfold parse at hparse
    obtain ⟨⟨payload, k, after⟩, hpayload, hparse⟩ := Option.bind_eq_some_iff.mp hparse
    obtain ⟨⟨mask, j⟩, hmask, hparse⟩ := Option.bind_eq_some_iff.mp hparse
    obtain rfl := Option.some.inj hparse
    dsimp only at hn
    obtain ⟨m, rfl⟩ : ∃ m, n = k + m + 2 := ⟨n - (k + 2), by omega⟩
    rw [List.take_succ_cons, List.take_succ_cons]
    unfold parse
    show (takePayload b1 _).bind _ = _
    rw [takePayload_take hpayload m]
    show (takeMask b1 _).bind _ = _
    rw [takeMask_take hmask (by omega)]
    rfl

/-! ### Reading what was written -/

/-- The flags of a first byte. -/
theorem firstByte_flags : ∀ fin rsv1 : Bool, ∀ rsv23 : UInt8, rsv23 &&& 0x30 = rsv23 →
    ∀ opcode : UInt8, opcode &&& 0x0f = opcode →
      (decide (firstByte fin rsv1 rsv23 opcode &&& 0x80 ≠ 0) = fin)
      ∧ (decide (firstByte fin rsv1 rsv23 opcode &&& 0x40 ≠ 0) = rsv1)
      ∧ firstByte fin rsv1 rsv23 opcode &&& 0x30 = rsv23
      ∧ firstByte fin rsv1 rsv23 opcode &&& 0x0f = opcode := by
  decide +kernel

/-- The mask bit beside a short length. -/
theorem maskBit_short : ∀ mask : Bool, ∀ n < 128,
    (((if mask then 0x80 else 0) ||| UInt8.ofNat n : UInt8) &&& 0x7f).toNat = n
      ∧ (((if mask then 0x80 else 0) ||| UInt8.ofNat n : UInt8) &&& 0x80 ≠ 0 ↔ mask = true) := by
  decide +kernel

theorem takeBe_toBe {k n : ℕ} (h : n < 256 ^ k) (more : Bytes) :
    takeBe k (toBe k n ++ more) = some (n, more) := by
  have hlength := length_toBe k n
  unfold takeBe
  rw [if_pos (by rw [List.length_append]; omega), List.take_left' hlength, List.drop_left' hlength,
    beNat_toBe h]

/-- A payload length is read as it was written, with the mask bit beside it. -/
theorem lengthBytes_spec (mask : Bool) {n : ℕ} (hn : n < 2 ^ 64) : ∃ b1 tail,
    lengthBytes mask n = b1 :: tail ∧ (b1 &&& 0x80 ≠ 0 ↔ mask = true)
      ∧ ∀ more, takePayload b1 (tail ++ more) = some (n, tail.length, more) := by
  unfold lengthBytes
  dsimp only
  split
  · -- the length is its own code
    obtain ⟨hlength, hmask⟩ := maskBit_short mask n (by omega)
    refine ⟨_, [], rfl, hmask, fun more =>
      takePayload_eq_some.mpr (.inr ⟨?_, hlength.symm, rfl, rfl⟩)⟩
    rw [hlength]
    omega
  · split
    · obtain ⟨hlength, hmask⟩ := maskBit_short mask 126 (by decide)
      refine ⟨_, toBe 2 n, rfl, hmask, fun more => takePayload_eq_some.mpr (.inl ⟨?_, ?_⟩)⟩
      · exact .inl ⟨hlength, length_toBe 2 n⟩
      · rw [length_toBe]
        exact takeBe_toBe (by omega) more
    · obtain ⟨hlength, hmask⟩ := maskBit_short mask 127 (by decide)
      refine ⟨_, toBe 8 n, rfl, hmask, fun more => takePayload_eq_some.mpr (.inl ⟨?_, ?_⟩)⟩
      · exact .inr ⟨hlength, length_toBe 8 n⟩
      · rw [length_toBe]
        exact takeBe_toBe (by omega) more

theorem takeMask_bytes {b1 : UInt8} (mask : Option MaskKey) (hmask : b1 &&& 0x80 ≠ 0 ↔ mask.isSome)
    (more : Bytes) :
    takeMask b1 ((mask.map MaskKey.bytes).getD [] ++ more)
      = some (mask, ((mask.map MaskKey.bytes).getD []).length) := by
  unfold takeMask
  cases mask with
  | none => rw [if_neg (by rw [hmask]; simp)]; rfl
  | some key => rw [if_pos (hmask.mpr rfl)]; rfl

/-- **A header is read as it was written.** -/
theorem parse_write (h : FrameHeader) (rsv1 : Bool) {n : ℕ} (hn : n < 2 ^ 64) (more : Bytes) :
    parse (h.write rsv1 n ++ more)
      = some { h with rsv1, len := (h.write rsv1 n).length, payload := n } := by
  obtain ⟨b1, tail, hbytes, hmask, hpayload⟩ := lengthBytes_spec h.mask.isSome hn
  obtain ⟨hfin, hrsv1, hrsv23, hopcode⟩ :=
    firstByte_flags h.fin rsv1 h.rsv23 h.rsv23_bits h.opcode h.opcode_bits
  have hwrite : h.write rsv1 n = firstByte h.fin rsv1 h.rsv23 h.opcode :: b1 ::
      (tail ++ (h.mask.map MaskKey.bytes).getD []) := by
    unfold write
    rw [hbytes]
    rfl
  rw [hwrite, List.cons_append, List.cons_append, List.append_assoc]
  unfold parse
  show (takePayload b1 _).bind _ = _
  rw [hpayload]
  show (takeMask b1 _).bind _ = _
  rw [takeMask_bytes h.mask hmask]
  show some _ = some _
  simp only [hfin, hrsv1, hrsv23, hopcode, List.length_cons, List.length_append,
    Option.some.injEq, FrameHeader.mk.injEq, true_and, and_true]
  omega

/-- A header is not read before all of it is there. -/
theorem parse_eq_none {h : FrameHeader} {rsv1 : Bool} {n : ℕ} (hn : n < 2 ^ 64) {part : Bytes}
    (hpart : part <+: h.write rsv1 n) (hne : part ≠ h.write rsv1 n) : parse part = none := by
  obtain ⟨missing, hwrite⟩ := hpart
  by_contra hsome
  obtain ⟨read, hread⟩ := Option.ne_none_iff_exists'.mp hsome
  -- the same header would be read from the whole, and be as long as the whole
  have hwhole := parse_append hread missing
  rw [hwrite, ← List.append_nil (h.write rsv1 n), parse_write h rsv1 hn [],
    Option.some.injEq] at hwhole
  have hlen : read.len = (h.write rsv1 n).length := by rw [← hwhole]
  have hle : read.len ≤ part.length := (parse_length hread).2
  have hlength : part.length + missing.length = (h.write rsv1 n).length := by
    rw [← List.length_append, hwrite]
  have hmissing : missing = [] := List.eq_nil_of_length_eq_zero (by omega)
  rw [hmissing, List.append_nil] at hwrite
  exact hne hwrite

/-- `parse` where `usize` ends at `usizeMax`: a longer payload is taken for
one of that length. -/
def parseUpTo (usizeMax : ℕ) (buf : Bytes) : Option FrameHeader :=
  (parse buf).map fun h => { h with payload := min h.payload usizeMax }

/-- **Frame headers round-trip.** What is written for a payload is read back
with the flags of the frame, whatever is behind it, and no part of it is read
as a header. -/
theorem header_round_trip (h : FrameHeader) (rsv1 : Bool) (usizeMax : ℕ) {n : ℕ} (hn : n < 2 ^ 63)
    (hfits : n ≤ usizeMax) :
    (∀ rest, parseUpTo usizeMax (h.write rsv1 n ++ rest)
      = some { h with rsv1, len := (h.write rsv1 n).length, payload := n })
    ∧ ∀ part, part <+: h.write rsv1 n → part ≠ h.write rsv1 n → parseUpTo usizeMax part = none := by
  have hn' : n < 2 ^ 64 := hn.trans (by decide)
  constructor
  · intro rest
    unfold parseUpTo
    rw [parse_write h rsv1 hn' rest, Option.map_some]
    simp only [Nat.min_eq_left hfits]
  · intro part hpart hne
    unfold parseUpTo
    rw [parse_eq_none hn' hpart hne]
    rfl

/-- A masked text frame of 126 bytes: every part of its eight-byte header. -/
theorem header_round_trip_text :
    let h : FrameHeader := ⟨true, false, 0, 1, some ⟨1, 2, 3, 4⟩, 0, 0, rfl, rfl⟩
    (∀ rest, parseUpTo 0xffff (h.write true 126 ++ rest)
      = some { h with rsv1 := true, len := (h.write true 126).length, payload := 126 })
    ∧ ∀ part, part <+: h.write true 126 → part ≠ h.write true 126 → parseUpTo 0xffff part = none :=
  header_round_trip _ true 0xffff (by decide) (by decide)

end FrameHeader

end WsBlast
