import WsBlast.Basic

/-!
# Compressing and decompressing a message

The deflate library works on what it is given and writes into the room it is
given; `Flate2` holds what the program uses of it. `deflate` and `inflate`
call it until it has taken a whole message and written all of it, with more
room for every call.

`Flate2.Inverse` states what the library promises: a call stops when its room
is full or everything is taken and written, a sync flush ends with
`00 00 ff ff`, and what one end flushes the other reads back, call by call,
with the states of the two ends in step. `deflate_inflate` is what the two
loops make of it: inflating what was deflated, with the tail that is not sent
put back, gives the message.

The promise is about calls, since the loops make calls. A call takes some of its
input and writes some output; that it stops only for one of two reasons is what
makes the loops end, and that it leaves less to do when its room was full is
what bounds them.
-/

namespace WsBlast

/-! ## The loops

The two loops of the program, over whatever library. -/

/-- What the program uses of the deflate library, and of vectors that grow:
`D` and `I` are the states of a compressor and of a decompressor. -/
structure Flate2 (D I : Type) where
  newDeflater : D
  resetDeflater : D → D
  /-- `compress_vec` with a sync flush, into a room of some bytes: the number
  of bytes taken and the bytes written. -/
  compressVec : D → Bytes → ℕ → Option (ℕ × Bytes × D)
  newInflater : I
  resetInflater : I → I
  /-- `decompress_vec`: whether the stream ended, the number of bytes taken and
  the bytes written. -/
  decompressVec : I → Bytes → ℕ → Option (Bool × ℕ × Bytes × I)
  /-- The capacity of a vector of some capacity and length after `reserve`. -/
  reserve : ℕ → ℕ → ℕ → ℕ

/-- The tail a sync flush ends with, removed from every compressed message. -/
def syncTail : Bytes := [0x00, 0x00, 0xff, 0xff]

/-- The largest message the layer inflates. -/
def maxMessage : ℕ := 64 * 2 ^ 20

/-- Passes a loop over the library makes at most: every pass takes or writes a
byte, and both are counted in 64 bits. -/
def maxPasses : ℕ := 2 ^ 65

section Loops

variable {D I : Type} (z : Flate2 D I)

/-- Deflates `input` from `consumed` on, behind `out`. -/
def deflateLoop (input : Bytes) : ℕ → D → ℕ → Bytes → ℕ → D × Except String Bytes
  | 0, deflater, _, out, _ => (deflater, .ok out)
  | passes + 1, deflater, consumed, out, capacity =>
    let capacity :=
      if capacity - out.length < 64 then z.reserve capacity out.length (max input.length 1024)
      else capacity
    match z.compressVec deflater (input.drop consumed) (capacity - out.length) with
    | none => (deflater, .error "a WebSocket message does not deflate")
    | some (taken, written, deflater) =>
      let consumed := consumed + taken
      let out := out ++ written
      if (consumed = input.length ∧ out.length < capacity) ∨ ¬(taken ≠ 0 ∨ written ≠ []) then
        (deflater, .ok out)
      else deflateLoop input passes deflater consumed out capacity

/-- Deflates a message with a sync flush, without the sync tail. -/
def deflate (deflater : Option D) (scratch : Bytes) : D × Except String Bytes :=
  let (deflater, out) := deflateLoop z scratch maxPasses (deflater.getD z.newDeflater) 0 []
    (scratch.length / 2 + 64)
  (deflater, out.map fun out =>
    if syncTail <:+ out then out.take (out.length - syncTail.length) else out)

/-- Inflates `input` from `consumed` on, behind `out`; `inflated` is the size of
the message so far. -/
def inflateLoop (input : Bytes) :
    ℕ → I → ℕ → Bytes → ℕ → ℕ → I × ℕ × Except String Bytes
  | 0, inflater, _, out, _, inflated => (inflater, inflated, .ok out)
  | passes + 1, inflater, consumed, out, capacity, inflated =>
    let capacity :=
      if capacity - out.length < 4096 then
        z.reserve capacity out.length (min (max (input.length * 4) (16 * 2 ^ 10)) (2 ^ 20))
      else capacity
    match z.decompressVec inflater (input.drop consumed) (capacity - out.length) with
    | none => (inflater, inflated, .error "a compressed WebSocket message does not inflate")
    | some (ended, taken, written, inflater) =>
      let inflated := inflated + written.length
      if maxMessage < inflated then
        (inflater, inflated, .error "a compressed WebSocket message inflates past 64 MiB")
      else
        let consumed := consumed + taken
        let out := out ++ written
        if ended ∨ (consumed = input.length ∧ out.length < capacity)
            ∨ ¬(taken ≠ 0 ∨ written ≠ []) then
          (inflater, inflated, .ok out)
        else inflateLoop input passes inflater consumed out capacity inflated

/-- Inflates a frame, with the sync tail at the end of a message. -/
def inflate (inflater : I) (inflated : ℕ) (scratch : Bytes) (last : Bool) :
    I × ℕ × Except String Bytes :=
  let input := if last then scratch ++ syncTail else scratch
  inflateLoop z input maxPasses inflater 0 [] 0 inflated

end Loops

/-! ## What the library promises

Three laws: what a compressor does in one call, what a decompressor does in one
call with data that some compressor flushed, and how the two are related. -/

section Promise

variable {D I : Type}

/-- What a sync flush of `input` yields, in calls with any room that the loop
may give: a library that is given too little for the end of a flush starts the
end again in the next call. -/
inductive Flushed (z : Flate2 D I) : D → Bytes → Bytes → D → Prop where
  /-- The last call has room left. -/
  | last {d d' : D} {input written : Bytes} {room : ℕ} (least : 64 ≤ room)
      (call : z.compressVec d input room = some (input.length, written, d'))
      (left : written.length < room) : Flushed z d input written d'
  | more {d d' d'' : D} {input written rest : Bytes} {room taken : ℕ} (least : 64 ≤ room)
      (call : z.compressVec d input room = some (taken, written, d'))
      (full : written.length = room) (flushed : Flushed z d' (input.drop taken) rest d'') :
      Flushed z d input (written ++ rest) d''

/-- **The library's two ends are an inverse pair.** `matched` relates a
compressor to the decompressor of the peer; `reads i input output j` says that
a decompressor in state `i` has `output` still to write for `input`, and ends
in `j`; `left` bounds the calls a flush needs. -/
structure Flate2.Inverse (z : Flate2 D I) (matched : D → I → Prop)
    (reads : I → Bytes → Bytes → I → Prop) (left : D → Bytes → ℕ) : Prop where
  /-- `reserve` makes the room it is asked for. -/
  reserve : ∀ capacity length more, length + more ≤ z.reserve capacity length more
  /-- A flush with room for its end stops when its room is full or everything
  is taken and written. -/
  compress : ∀ d input room, 64 ≤ room → ∃ taken written d',
    z.compressVec d input room = some (taken, written, d') ∧ taken ≤ input.length
      ∧ written.length ≤ room ∧ (written.length < room → taken = input.length)
      ∧ (written.length = room → left d' (input.drop taken) < left d input)
  bounded : ∀ {d i input}, matched d i → input.length ≤ maxMessage → left d input < maxPasses
  /-- So does a decompressor. -/
  decompress : ∀ {i j input output} {room : ℕ}, reads i input output j → 4096 ≤ room →
    ∃ taken written i' rest, z.decompressVec i input room = some (false, taken, written, i')
      ∧ taken ≤ input.length ∧ written.length ≤ room ∧ output = written ++ rest
      ∧ reads i' (input.drop taken) rest j
      ∧ (written.length < room → taken = input.length ∧ rest = [] ∧ i' = j)
  /-- What is flushed ends with the tail, and is read back by a decompressor in
  step. -/
  inverse : ∀ {d i input output d'}, matched d i → Flushed z d input output d' →
    syncTail <:+ output ∧ ∃ j, reads i output input j ∧ matched d' j
  new : matched z.newDeflater z.newInflater
  reset : ∀ {d i}, matched d i → matched (z.resetDeflater d) (z.resetInflater i)

/-! ## What the loops make of it -/

variable {z : Flate2 D I} {matched : D → I → Prop} {reads : I → Bytes → Bytes → I → Prop}
  {left : D → Bytes → ℕ}

/-- The room of a call is never less than the loop asks for: it is what is left
of a vector, or what was reserved. -/
theorem Flate2.Inverse.least_le_room (hz : z.Inverse matched reads left) (capacity length : ℕ)
    {least more : ℕ} (hmore : least ≤ more) :
    least ≤ (if capacity - length < least then z.reserve capacity length more else capacity)
      - length := by
  have hreserve := hz.reserve capacity length more
  split <;> omega

/-- **The deflate loop flushes the whole message.** -/
theorem deflateLoop_flushed (hz : z.Inverse matched reads left) {input : Bytes} {passes : ℕ} {d : D}
    {consumed : ℕ} (hconsumed : consumed ≤ input.length)
    (hpasses : left d (input.drop consumed) < passes) (out : Bytes) (capacity : ℕ) :
    ∃ written d', deflateLoop z input passes d consumed out capacity = (d', .ok (out ++ written))
      ∧ Flushed z d (input.drop consumed) written d' := by
  induction passes generalizing d consumed out capacity with
  | zero => omega
  | succ passes ih =>
    have hmore : 64 ≤ max input.length 1024 := le_max_of_le_right (by decide)
    have hroom := hz.least_le_room capacity out.length hmore
    unfold deflateLoop
    dsimp only
    set capacity' := if capacity - out.length < 64 then
      z.reserve capacity out.length (max input.length 1024) else capacity
    obtain ⟨taken, written, d', hcall, htaken, hwritten, hpart, hfull⟩ :=
      hz.compress d (input.drop consumed) _ hroom
    rw [List.length_drop] at htaken hpart
    rw [hcall]
    dsimp only
    -- a call with room to spare has flushed everything, and a full one goes on
    rcases Nat.lt_or_eq_of_le hwritten with hlt | heq
    · have hall := hpart hlt
      have hlast : Flushed z d (input.drop consumed) written d' :=
        .last hroom (by rw [hcall, List.length_drop, hall]) hlt
      refine ⟨written, d', if_pos (Or.inl ⟨by omega, ?_⟩), hlast⟩
      rw [List.length_append]
      omega
    · have hwrote : written ≠ [] := List.ne_nil_of_length_pos (by omega)
      have hgoes : ¬((consumed + taken = input.length ∧ (out ++ written).length < capacity')
          ∨ ¬(taken ≠ 0 ∨ written ≠ [])) := by
        rw [List.length_append]
        rintro (⟨-, hlt⟩ | hstuck)
        · omega
        · exact hstuck (Or.inr hwrote)
      have hleft := hfull heq
      rw [List.drop_drop] at hleft
      have hpasses' : left d' (input.drop (consumed + taken)) < passes := by omega
      obtain ⟨rest, d'', hrest, hflushed⟩ := ih (by omega) hpasses' (out ++ written) capacity'
      refine ⟨written ++ rest, d'', ?_, .more hroom hcall heq ?_⟩
      · rw [if_neg hgoes, hrest, List.append_assoc]
      · rw [List.drop_drop]
        exact hflushed

/-- **The inflate loop writes the whole message.** -/
theorem inflateLoop_reads (hz : z.Inverse matched reads left) {input : Bytes} {passes : ℕ} {i j : I}
    {consumed inflated : ℕ} {output : Bytes} (hreads : reads i (input.drop consumed) output j)
    (hconsumed : consumed ≤ input.length) (hsize : inflated + output.length ≤ maxMessage)
    (hpasses : output.length < passes) (out : Bytes) (capacity : ℕ) :
    inflateLoop z input passes i consumed out capacity inflated
      = (j, inflated + output.length, .ok (out ++ output)) := by
  induction passes generalizing i consumed inflated output out capacity with
  | zero => omega
  | succ passes ih =>
    have hmore : 4096 ≤ min (max (input.length * 4) (16 * 2 ^ 10)) (2 ^ 20) :=
      le_min (le_max_of_le_right (by decide)) (by decide)
    have hroom := hz.least_le_room capacity out.length hmore
    unfold inflateLoop
    dsimp only
    set capacity' := if capacity - out.length < 4096 then
      z.reserve capacity out.length (min (max (input.length * 4) (16 * 2 ^ 10)) (2 ^ 20))
      else capacity
    obtain ⟨taken, written, i', rest, hcall, htaken, hwritten, rfl, hrest, hpart⟩ :=
      hz.decompress hreads hroom
    rw [List.length_append] at hsize hpasses
    rw [List.length_drop] at htaken hpart
    rw [hcall]
    dsimp only
    rw [if_neg (by omega : ¬maxMessage < inflated + written.length)]
    -- room to spare means that all was written; the size was checked before that
    rcases Nat.lt_or_eq_of_le hwritten with hlt | heq
    · obtain ⟨hall, rfl, rfl⟩ := hpart hlt
      have hstop : (out ++ written).length < capacity' := by
        rw [List.length_append]
        omega
      rw [if_pos (Or.inr (Or.inl ⟨by omega, hstop⟩)), List.append_nil]
    · have hwrote : written ≠ [] := List.ne_nil_of_length_pos (by omega)
      have hgoes : ¬(false = true ∨ (consumed + taken = input.length
          ∧ (out ++ written).length < capacity') ∨ ¬(taken ≠ 0 ∨ written ≠ [])) := by
        rw [List.length_append]
        rintro (hended | ⟨-, hlt⟩ | hstuck)
        · cases hended
        · omega
        · exact hstuck (Or.inr hwrote)
      rw [List.drop_drop] at hrest
      rw [if_neg hgoes, ih hrest (by omega) (by omega) (by omega), List.length_append,
        List.append_assoc, Nat.add_assoc]

/-- **Inflating what was deflated gives the message**, and leaves the two ends
in step. -/
theorem deflate_inflate (hz : z.Inverse matched reads left) {d : Option D} {i : I} {message : Bytes}
    (hmatched : matched (d.getD z.newDeflater) i) (hsize : message.length ≤ maxMessage) :
    ∃ payload d' i', deflate z d message = (d', .ok payload)
      ∧ inflate z i 0 payload true = (i', message.length, .ok message) ∧ matched d' i' := by
  obtain ⟨out, d', hloop, hflushed⟩ := deflateLoop_flushed hz (Nat.zero_le message.length)
    (hz.bounded hmatched hsize) [] (message.length / 2 + 64)
  rw [List.drop_zero] at hflushed
  rw [List.nil_append] at hloop
  obtain ⟨htail, i', hreads, hmatched'⟩ := hz.inverse hmatched hflushed
  -- the tail that was cut off is put back
  have hpayload : out.take (out.length - syncTail.length) ++ syncTail = out := by
    obtain ⟨payload, rfl⟩ := htail
    rw [List.length_append, Nat.add_sub_cancel, List.take_left]
  refine ⟨out.take (out.length - syncTail.length), d', i', ?_, ?_, hmatched'⟩
  · unfold deflate
    rw [hloop]
    show (d', Except.ok (if syncTail <:+ out then _ else out)) = _
    rw [if_pos htail]
  · have hpasses : message.length < maxPasses := by
      unfold maxMessage at hsize
      unfold maxPasses
      omega
    have hinflate : inflateLoop z out maxPasses i 0 [] 0 0
        = (i', 0 + message.length, .ok ([] ++ message)) :=
      inflateLoop_reads hz hreads (Nat.zero_le _) (by omega) hpasses [] 0
    unfold inflate
    rw [if_pos rfl, hpayload, hinflate, Nat.zero_add, List.nil_append]

end Promise

end WsBlast
