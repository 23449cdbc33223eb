import WsBlast.DeflateStream

/-!
# Messages that end in a final block

A message may end in a block with BFINAL set, which ends the stream for the
deflate library: it takes nothing behind the block until it is reset. `inflate`
then stops with what it has, whatever input is left, and hands it on as the
message; the decompressor is not reset, so of a later message nothing is
inflated. `inflated_whole_iff` says that this is the only way a frame is handed
on in part: each is inflated to its end as long as no final block ends before
the last byte of a frame's input.

A deflate stream is a sequence of blocks. The extension lets a sender end every
message with a flush, so that the stream goes on with the next one, and also
allows it to end a message with a final block, after which the receiver's
library reports the end of the stream. The loop of the source takes that report
for the end of the message and leaves the decompressor in its final state.
-/

namespace WsBlast

section Decompressor

variable {D I : Type}

/-! ## What the library promises

What a decompressor has written is a function of what it was given. -/

/-- **A decompressor of deflate streams.** `text h` is what the bytes `h`
decompress to after a reset; `Closes h` says that a final block ends with `h`,
and `Stands i h w` that in state `i` a decompressor has taken `h` and written
`w` since it was reset. -/
structure Flate2.Decodes (z : Flate2 D I) (text : Bytes → Bytes) (Closes : Bytes → Prop)
    (Stands : I → Bytes → Bytes → Prop) : Prop where
  /-- `reserve` makes the room it is asked for. -/
  reserve : ∀ capacity length more, length + more ≤ z.reserve capacity length more
  text_nil : text [] = []
  new : Stands z.newInflater [] []
  reset : ∀ {i h w}, Stands i h w → Stands (z.resetInflater i) [] []
  /-- A call takes some of its input, from the start, and fills some of its
  room. -/
  call : ∀ {i h w input room ended taken written j}, Stands i h w →
    z.decompressVec i input room = some (ended, taken, written, j) →
      taken ≤ input.length ∧ written.length ≤ room ∧
        Stands j (h ++ input.take taken) (w ++ written)
  /-- With room left it stops when everything is taken and written. -/
  paused : ∀ {i h w input room taken written j}, Stands i h w →
    z.decompressVec i input room = some (false, taken, written, j) → written.length < room →
      taken = input.length ∧ w ++ written = text (h ++ input)
  /-- It reports the end of the stream where a final block ends, all of it
  written. -/
  ended : ∀ {i h w input room taken written j}, Stands i h w →
    z.decompressVec i input room = some (true, taken, written, j) →
      Closes (h ++ input.take taken) ∧ w ++ written = text (h ++ input.take taken)
  /-- It takes nothing behind a final block. -/
  stops : ∀ {i h w q}, Stands i h w → q <+: h → Closes q → q = h

/-- Calls that take all of an input and write all it decompresses to. -/
inductive Inflated (z : Flate2 D I) : I → Bytes → Bytes → I → Prop where
  /-- The last call has room left, or ends the stream. -/
  | last {i j : I} {input written : Bytes} {room : ℕ} {ended : Bool}
      (call : z.decompressVec i input room = some (ended, input.length, written, j))
      (left : ended = true ∨ written.length < room) : Inflated z i input written j
  | more {i i' j : I} {input written rest : Bytes} {room taken : ℕ} {ended : Bool}
      (call : z.decompressVec i input room = some (ended, taken, written, i'))
      (inflated : Inflated z i' (input.drop taken) rest j) : Inflated z i input (written ++ rest) j

/-- No final block ends in some input before its last byte, after the bytes
`h`. -/
def EndsLast (Closes : Bytes → Prop) (h input : Bytes) : Prop :=
  ∀ q, q <+: input → Closes (h ++ q) → q = input

variable {z : Flate2 D I} {text : Bytes → Bytes} {Closes : Bytes → Prop}
  {Stands : I → Bytes → Bytes → Prop} {i j : I} {h w input output : Bytes}

/-- The bytes of two calls. -/
theorem append_take_drop (h input : Bytes) (taken : ℕ) :
    h ++ input.take taken ++ input.drop taken = h ++ input := by
  rw [List.append_assoc, List.take_append_drop]

/-- What is inflated is what the input decompresses to. -/
theorem Inflated.stands (hz : z.Decodes text Closes Stands)
    (hinflated : Inflated z i input output j) (hi : Stands i h w) :
    Stands j (h ++ input) (w ++ output) ∧ w ++ output = text (h ++ input) := by
  induction hinflated generalizing h w with
  | @last i j input written room ended call left =>
    have hj := (hz.call hi call).2.2
    rw [List.take_length] at hj
    refine ⟨hj, ?_⟩
    cases ended with
    | true =>
      have hended := (hz.ended hi call).2
      rw [List.take_length] at hended
      exact hended
    | false =>
      exact (hz.paused hi call (left.resolve_left Bool.false_ne_true)).2
  | @more i i' j input written rest room taken ended call inflated ih =>
    have hrest := ih (hz.call hi call).2.2
    rw [append_take_drop, List.append_assoc] at hrest
    exact hrest

/-- **An input is inflated only if a final block ends with it**, or none is in
it. -/
theorem Inflated.endsLast (hz : z.Decodes text Closes Stands)
    (hinflated : Inflated z i input output j) (hi : Stands i h w) : EndsLast Closes h input := by
  intro q hq hcloses
  have hall := hz.stops (hinflated.stands hz hi).1 ((List.prefix_append_right_inj h).mpr hq) hcloses
  exact List.append_cancel_left hall

theorem EndsLast.drop (hlast : EndsLast Closes h input) (taken : ℕ) :
    EndsLast Closes (h ++ input.take taken) (input.drop taken) := by
  intro q hq hcloses
  have hprefix : input.take taken ++ q <+: input := by
    obtain ⟨more, hmore⟩ := hq
    exact ⟨more, by rw [List.append_assoc, hmore, List.take_append_drop]⟩
  have hall := hlast _ hprefix (by rw [← List.append_assoc]; exact hcloses)
  exact List.append_cancel_left (hall.trans (List.take_append_drop taken input).symm)

/-! ## The loop

The loop stops for one of three reasons: the stream ended, everything was taken
and written, or nothing moved. -/

/-- **The loop inflates an input to its end** when no final block ends before
it. -/
theorem inflateLoop_inflated (hz : z.Decodes text Closes Stands) {passes consumed capacity : ℕ}
    {out result : Bytes} {inflated n : ℕ} (hi : Stands i h w)
    (hlast : EndsLast Closes h (input.drop consumed)) (hconsumed : consumed ≤ input.length)
    (hpasses : input.length - consumed + (maxMessage - inflated) < passes)
    (hloop : inflateLoop z input passes i consumed out capacity inflated = (j, n, .ok result)) :
    ∃ written, result = out ++ written ∧ Inflated z i (input.drop consumed) written j := by
  -- on the passes; what one call took and wrote is put in front of what the others do
  induction passes generalizing i h w consumed out capacity inflated with
  | zero => omega
  | succ passes ih =>
    unfold inflateLoop at hloop
    dsimp only at hloop
    set capacity' := if capacity - out.length < 4096 then
      z.reserve capacity out.length (min (max (input.length * 4) (16 * 2 ^ 10)) (2 ^ 20))
      else capacity with hcapacity
    have hroom : 0 < capacity' - out.length := by
      have hreserve := hz.reserve capacity out.length
        (min (max (input.length * 4) (16 * 2 ^ 10)) (2 ^ 20))
      have hmore : 0 < min (max (input.length * 4) (16 * 2 ^ 10)) (2 ^ 20) :=
        lt_min (lt_max_of_lt_right (by decide)) (by decide)
      rw [hcapacity]
      split <;> omega
    cases hcall : z.decompressVec i (input.drop consumed) (capacity' - out.length) with
    | none =>
      rw [hcall] at hloop
      cases hloop
    | some answer =>
      obtain ⟨ended, taken, written, i'⟩ := answer
      rw [hcall] at hloop
      dsimp only at hloop
      obtain ⟨htaken, hwritten, hi'⟩ := hz.call hi hcall
      rw [List.length_drop] at htaken
      by_cases hsize : maxMessage < inflated + written.length
      · rw [if_pos hsize] at hloop
        cases hloop
      rw [if_neg hsize] at hloop
      by_cases hstop : ended = true ∨ (consumed + taken = input.length ∧
          (out ++ written).length < capacity') ∨ ¬(taken ≠ 0 ∨ written ≠ [])
      · rw [if_pos hstop] at hloop
        obtain ⟨rfl, hparts⟩ := Prod.mk.inj hloop
        obtain ⟨-, hresult⟩ := Prod.mk.inj hparts
        refine ⟨written, (Except.ok.inj hresult).symm, ?_⟩
        -- whichever way the loop stops, everything is taken
        have hall : taken = (input.drop consumed).length ∧
            (ended = true ∨ written.length < capacity' - out.length) := by
          cases ended with
          | true =>
            have hend := hlast _ (List.take_prefix taken _) (hz.ended hi hcall).1
            refine ⟨?_, .inl rfl⟩
            rw [List.length_drop]
            have hlength := congrArg List.length hend
            rw [List.length_take, List.length_drop] at hlength
            omega
          | false =>
            have hleft : written.length < capacity' - out.length := by
              rcases hstop with hended | ⟨-, hleft⟩ | hstuck
              · cases hended
              · rw [List.length_append] at hleft
                omega
              · rw [not_or, not_not, not_not] at hstuck
                rw [hstuck.2]
                exact hroom
            exact ⟨(hz.paused hi hcall hleft).1, .inr hleft⟩
        exact .last (hall.1 ▸ hcall) hall.2
      · rw [if_neg hstop] at hloop
        rw [not_or, not_or, not_not] at hstop
        have hprogress : 0 < taken + written.length := by
          rcases hstop.2.2 with htook | hwrote
          · omega
          · have := List.length_pos_of_ne_nil hwrote
            omega
        have hrest := hlast.drop taken
        rw [List.drop_drop] at hrest
        obtain ⟨rest, rfl, hinflated⟩ := ih hi' hrest (by omega) (by omega) hloop
        refine ⟨written ++ rest, (List.append_assoc _ _ _), .more hcall ?_⟩
        rw [List.drop_drop]
        exact hinflated

/-- **A frame's payload is inflated as a whole** when no final block ends
before its input does, and only then. -/
theorem inflate_inflated_iff (hz : z.Decodes text Closes Stands) {scratch payload : Bytes}
    {last : Bool} {inflated n : ℕ} (hi : Stands i h w) (hsize : scratch.length ≤ maxFrame)
    (hinflate : inflate z i inflated scratch last = (j, n, .ok payload)) :
    Inflated z i (if last then scratch ++ syncTail else scratch) payload j ↔
      EndsLast Closes h (if last then scratch ++ syncTail else scratch) := by
  refine ⟨fun hwhole => hwhole.endsLast hz hi, fun hlast => ?_⟩
  unfold inflate at hinflate
  dsimp only at hinflate
  have hlength : (if last = true then scratch ++ syncTail else scratch).length ≤ maxFrame + 4 := by
    split
    · rw [List.length_append]
      show _ + 4 ≤ _
      omega
    · omega
  have hlimit : maxFrame + 4 + maxMessage < maxPasses := by decide
  have hstart : EndsLast Closes h
      ((if last = true then scratch ++ syncTail else scratch).drop 0) := hlast
  obtain ⟨written, rfl, hinflated⟩ :=
    inflateLoop_inflated hz hi hstart (Nat.zero_le _) (by omega) hinflate
  exact hinflated

end Decompressor

/-! ## The frames of a connection

Complete frames, and what has arrived of the current message and of the stream
of the decompressor. -/

/-- A complete inbound frame, no larger than the layer takes. -/
structure InboundFrame where
  header : FrameHeader
  bytes : Bytes
  whole : bytes.length = header.len + header.payload
  small : header.payload ≤ maxFrame

namespace InboundFrame

variable (f : InboundFrame)

/-- Whether it is the first frame of a data message. -/
def First : Prop := f.header.opcode < 8 ∧ f.header.opcode ≠ 0

instance : Decidable f.First := inferInstanceAs (Decidable (_ ∧ _))

/-- Whether a message is compressed, from this frame on. -/
def inflating (before : Bool) : Bool := if f.First then f.header.rsv1 else before

/-- Whether it is a frame of a compressed message. -/
def Compressed (before : Bool) : Prop := f.header.opcode < 8 ∧ f.inflating before = true

instance (before : Bool) : Decidable (f.Compressed before) := inferInstanceAs (Decidable (_ ∧ _))

/-- The payload without the mask. -/
def payload : Bytes := masked f.header.mask (f.bytes.drop f.header.len)

/-- The deflate data: the payload, and the tail at the end of a message. -/
def input : Bytes := if f.header.fin then f.payload ++ syncTail else f.payload

theorem length_payload : f.payload.length = f.header.payload := by
  unfold payload
  rw [length_masked, List.length_drop, f.whole, Nat.add_sub_cancel_left]

end InboundFrame

/-- What has arrived on a connection: whether the message in progress is
compressed, and the deflate data since the decompressor was last reset. -/
structure Arrived where
  inflating : Bool := false
  bytes : Bytes := []

/-- What has arrived with one more frame. -/
def Arrived.next (role : Role) (params : Params) (a : Arrived) (f : InboundFrame) : Arrived where
  inflating := if f.Compressed a.inflating then !f.header.fin else f.inflating a.inflating
  bytes :=
    if f.Compressed a.inflating then
      if f.header.fin ∧ params.resetInflater role then [] else a.bytes ++ f.input
    else a.bytes

section Frames

variable {D I : Type} (z : Flate2 D I) (text : Bytes → Bytes) (Closes : Bytes → Prop)
  (role : Role) (params : Params)

/-- A frame of a compressed message is inflated as a whole: the decompressor
takes all of its deflate data, and what is handed on is what the data
decompresses to, behind what arrived before. -/
def HandsOnWhole (a : Arrived) (s : Inflating I) (f : InboundFrame) : Prop :=
  f.Compressed a.inflating → ∀ inflater n payload,
    inflate z s.inflater (if f.First then 0 else s.inflated) f.payload f.header.fin
        = (inflater, n, .ok payload) →
      Inflated z s.inflater f.input payload inflater ∧
        text a.bytes ++ payload = text (a.bytes ++ f.input)

/-- So is every frame of a run, up to the first that is rejected. -/
def AllWhole : Arrived → Inflating I → List InboundFrame → Prop
  | _, _, [] => True
  | a, s, f :: rest => HandsOnWhole z text a s f ∧
    ∀ s' out, rewriteIn z role params s f.header f.bytes = (s', .ok out) →
      AllWhole (a.next role params f) s' rest

/-- No frame is rejected. -/
def Rewritten : Inflating I → List InboundFrame → Prop
  | _, [] => True
  | s, f :: rest => ∃ s' out, rewriteIn z role params s f.header f.bytes = (s', .ok out) ∧
    Rewritten s' rest

/-- In no frame of a compressed message a final block ends before the last byte
of the deflate data. -/
def NoneEndsEarly : Arrived → List InboundFrame → Prop
  | _, [] => True
  | a, f :: rest => (f.Compressed a.inflating → EndsLast Closes a.bytes f.input) ∧
    NoneEndsEarly (a.next role params f) rest

variable {z text Closes role params} {Stands : I → Bytes → Bytes → Prop} {a : Arrived}
  {s s' : Inflating I} {f : InboundFrame} {out : Bytes}

/-- How a frame is rewritten, the state being that of its message. -/
theorem rewriteIn_eq (z : Flate2 D I) (role : Role) (params : Params) (s : Inflating I)
    (f : InboundFrame) :
    rewriteIn z role params s f.header f.bytes
      = if f.Compressed s.inflating then
          match inflate z s.inflater (if f.First then 0 else s.inflated) f.payload f.header.fin with
          | (inflater, inflated, .error error) =>
            ({ s with inflating := f.inflating s.inflating, inflater, inflated }, .error error)
          | (inflater, inflated, .ok payload) =>
            ({ inflating := !f.header.fin
               inflated
               inflater :=
                 if f.header.fin ∧ params.resetInflater role then z.resetInflater inflater
                 else inflater
               bytesRecv := s.bytesRecv + payload.length
               wireBytesRecv := s.wireBytesRecv + f.header.payload },
              .ok (f.header.write false payload.length ++ masked f.header.mask payload))
        else
          ({ s with
              inflating := f.inflating s.inflating
              inflated := if f.First then 0 else s.inflated
              bytesRecv := s.bytesRecv + if f.header.opcode < 8 then f.header.payload else 0
              wireBytesRecv :=
                s.wireBytesRecv + if f.header.opcode < 8 then f.header.payload else 0 },
            .ok f.bytes) := by
  have hopened : (if f.header.opcode < 8 ∧ f.header.opcode ≠ 0 then
        { s with inflating := f.header.rsv1, inflated := 0 } else s)
      = { s with
          inflating := f.inflating s.inflating
          inflated := if f.First then 0 else s.inflated } := by
    unfold InboundFrame.inflating
    by_cases hfirst : f.First
    · rw [if_pos hfirst, if_pos hfirst]
      exact if_pos hfirst
    · rw [if_neg hfirst, if_neg hfirst]
      exact if_neg hfirst
  have hpayload : masked f.header.mask (f.bytes.drop f.header.len) = f.payload := rfl
  unfold rewriteIn
  dsimp only
  rw [hopened, hpayload]
  refine if_congr Iff.rfl ?_ rfl
  -- the loop is not to be unfolded
  generalize inflate z s.inflater (if f.First then 0 else s.inflated) f.payload f.header.fin
    = result
  obtain ⟨inflater, n, payload | err⟩ := result
  · rfl
  · rfl

/-- A frame of a compressed message that is rewritten. -/
theorem rewriteIn_compressed (hcompressed : f.Compressed s.inflating)
    (h : rewriteIn z role params s f.header f.bytes = (s', .ok out)) :
    ∃ inflater n payload,
      inflate z s.inflater (if f.First then 0 else s.inflated) f.payload f.header.fin
          = (inflater, n, .ok payload) ∧
        out = f.header.write false payload.length ++ masked f.header.mask payload ∧
        s'.inflating = !f.header.fin ∧
        s'.inflater = if f.header.fin ∧ params.resetInflater role then z.resetInflater inflater
          else inflater := by
  rw [rewriteIn_eq, if_pos hcompressed] at h
  split at h
  · cases h
  · rename_i inflater n payload hinflate
    obtain ⟨rfl, hout⟩ := Prod.mk.inj h
    exact ⟨inflater, n, payload, hinflate, (Except.ok.inj hout).symm, rfl, rfl⟩

/-- Any other frame leaves the decompressor as it is. -/
theorem rewriteIn_other (hother : ¬f.Compressed s.inflating)
    (h : rewriteIn z role params s f.header f.bytes = (s', .ok out)) :
    s'.inflating = f.inflating s.inflating ∧ s'.inflater = s.inflater := by
  rw [rewriteIn_eq, if_neg hother] at h
  obtain ⟨rfl, -⟩ := Prod.mk.inj h
  exact ⟨rfl, rfl⟩

/-! ## The frames one after the other

The decompressor is up to date between two frames when nothing that was given to
it is left over. -/

/-- The decompressor has taken what arrived, and everything is written. -/
structure UpToDate (text : Bytes → Bytes) (Stands : I → Bytes → Bytes → Prop) (a : Arrived)
    (s : Inflating I) : Prop where
  inflating : s.inflating = a.inflating
  stands : Stands s.inflater a.bytes (text a.bytes)

theorem UpToDate.new (hz : z.Decodes text Closes Stands) :
    UpToDate text Stands {} { inflater := z.newInflater } where
  inflating := rfl
  stands := hz.text_nil.symm ▸ hz.new

/-- **A frame is inflated as a whole** when no final block ends early in it. -/
theorem UpToDate.handsOnWhole (hz : z.Decodes text Closes Stands) (h : UpToDate text Stands a s)
    (hlast : f.Compressed a.inflating → EndsLast Closes a.bytes f.input) :
    HandsOnWhole z text a s f := by
  intro hcompressed inflater n payload hinflate
  have hsmall : f.payload.length ≤ maxFrame := f.length_payload ▸ f.small
  have hwhole : Inflated z s.inflater f.input payload inflater :=
    (inflate_inflated_iff hz h.stands hsmall hinflate).mpr (hlast hcompressed)
  exact ⟨hwhole, (hwhole.stands hz h.stands).2⟩

/-- And only then. -/
theorem UpToDate.endsLast (hz : z.Decodes text Closes Stands) (h : UpToDate text Stands a s)
    (hrewritten : rewriteIn z role params s f.header f.bytes = (s', .ok out))
    (hwhole : HandsOnWhole z text a s f) (hcompressed : f.Compressed a.inflating) :
    EndsLast Closes a.bytes f.input := by
  obtain ⟨inflater, n, payload, hinflate, -⟩ :=
    rewriteIn_compressed (h.inflating.symm ▸ hcompressed) hrewritten
  exact (hwhole hcompressed inflater n payload hinflate).1.endsLast hz h.stands

/-- **One frame more**, inflated as a whole. -/
theorem UpToDate.next (hz : z.Decodes text Closes Stands) (h : UpToDate text Stands a s)
    (hrewritten : rewriteIn z role params s f.header f.bytes = (s', .ok out))
    (hlast : f.Compressed a.inflating → EndsLast Closes a.bytes f.input) :
    UpToDate text Stands (a.next role params f) s' := by
  by_cases hcompressed : f.Compressed a.inflating
  · obtain ⟨inflater, n, payload, hinflate, -, hinflating, hinflater⟩ :=
      rewriteIn_compressed (h.inflating.symm ▸ hcompressed) hrewritten
    obtain ⟨hwhole, -⟩ := h.handsOnWhole hz hlast hcompressed _ _ _ hinflate
    obtain ⟨hstands, htext⟩ := hwhole.stands hz h.stands
    rw [htext] at hstands
    refine ⟨hinflating.trans (if_pos hcompressed).symm, ?_⟩
    unfold Arrived.next
    dsimp only
    rw [if_pos hcompressed, hinflater]
    split
    · rw [hz.text_nil]
      exact hz.reset hstands
    · exact hstands
  · obtain ⟨hinflating, hinflater⟩ :=
      rewriteIn_other (h.inflating.symm ▸ hcompressed) hrewritten
    refine ⟨?_, ?_⟩
    · rw [hinflating, h.inflating]
      exact (if_neg hcompressed).symm
    · unfold Arrived.next
      dsimp only
      rw [if_neg hcompressed, hinflater]
      exact h.stands

/-- **The frames of a run.** -/
theorem UpToDate.allWhole (hz : z.Decodes text Closes Stands) (h : UpToDate text Stands a s)
    {frames : List InboundFrame} (hnone : NoneEndsEarly Closes role params a frames) :
    AllWhole z text role params a s frames := by
  induction frames generalizing a s with
  | nil => trivial
  | cons f rest ih =>
    obtain ⟨hlast, hrest⟩ := hnone
    exact ⟨h.handsOnWhole hz hlast, fun s' out hrewritten => ih (h.next hz hrewritten hlast) hrest⟩

theorem UpToDate.noneEndsEarly (hz : z.Decodes text Closes Stands) (h : UpToDate text Stands a s)
    {frames : List InboundFrame} (hrun : Rewritten z role params s frames)
    (hall : AllWhole z text role params a s frames) :
    NoneEndsEarly Closes role params a frames := by
  induction frames generalizing a s with
  | nil => trivial
  | cons f rest ih =>
    obtain ⟨s', out, hrewritten, hrun⟩ := hrun
    obtain ⟨hwhole, hall⟩ := hall
    have hlast := h.endsLast hz hrewritten hwhole
    exact ⟨hlast, ih (h.next hz hrewritten hlast) hrun (hall s' out hrewritten)⟩

/-- **When every frame is inflated as a whole.** On a connection that agreed to
compression, in every run of frames: where no final block ends before the last
byte of a frame's deflate data, each frame is inflated to its end, up to the
first that is rejected; and in a run without a rejected frame only there. -/
theorem inflated_whole_iff (hz : z.Decodes text Closes Stands) (role : Role) (params : Params)
    (frames : List InboundFrame) :
    (NoneEndsEarly Closes role params {} frames →
        AllWhole z text role params {} { inflater := z.newInflater } frames) ∧
      (Rewritten z role params { inflater := z.newInflater } frames →
        (AllWhole z text role params {} { inflater := z.newInflater } frames ↔
          NoneEndsEarly Closes role params {} frames)) :=
  ⟨(UpToDate.new hz).allWhole hz,
    fun hrun => ⟨(UpToDate.new hz).noneEndsEarly hz hrun, (UpToDate.new hz).allWhole hz⟩⟩

end Frames

/-! ## Stored blocks

A state machine over single bytes: the header of a block, its length twice, its
text. -/

/-- Where a decompressor of stored blocks stands. -/
inductive Stored where
  /-- Some bytes of a block's header are read. -/
  | header (read : Bytes)
  /-- Some bytes of a block are left. -/
  | block (final : Bool) (left : ℕ)
  | ended
  deriving DecidableEq

namespace Stored

/-- Behind the header of a block, or some of its bytes. -/
def go (final : Bool) : ℕ → Stored
  | 0 => if final then .ended else .header []
  | left + 1 => .block final (left + 1)

/-- One byte taken, with what is written for it. A header has the final bit and
the kind of the block, its length and the complement of that. -/
def next : Stored → UInt8 → Option (Bytes × Stored)
  | .header [kind, low, high, clow], chigh =>
    if kind < 2 ∧ clow = 255 - low ∧ chigh = 255 - high then
      some ([], go (kind = 1) (low.toNat + 256 * high.toNat))
    else none
  | .header read, b => some ([], .header (read ++ [b]))
  | .block final left, b => some ([b], go final (left - 1))
  | .ended, _ => none

/-- All bytes taken, with room for everything. -/
def run : Stored → Bytes → Option (Bytes × Stored)
  | s, [] => some ([], s)
  | s, b :: rest => (s.next b).bind fun (out, s) =>
    (s.run rest).map fun (more, s) => (out ++ more, s)

/-- What a call takes and writes. -/
def call : Stored → Bytes → ℕ → Option (ℕ × Bytes × Stored)
  | s, [], _ => some (0, [], s)
  | s, b :: rest, room =>
    if s = .ended then some (0, [], s)
    else (s.next b).bind fun (out, t) =>
      if room < out.length then some (0, [], s)
      else (t.call rest (room - out.length)).map fun (taken, more, t) =>
        (taken + 1, out ++ more, t)

theorem run_append (s : Stored) (h input : Bytes) :
    s.run (h ++ input) = (s.run h).bind fun (out, t) =>
      (t.run input).map fun (more, t) => (out ++ more, t) := by
  induction h generalizing s with
  | nil => cases hrun : s.run input <;> simp [run, hrun]
  | cons b rest ih =>
    rw [List.cons_append, run, run]
    cases s.next b with
    | none => rfl
    | some answer =>
      obtain ⟨out, t⟩ := answer
      simp only [Option.bind_some, ih]
      cases t.run rest with
      | none => rfl
      | some answer =>
        obtain ⟨more, t⟩ := answer
        simp only [Option.map_some, Option.bind_some, Option.map_map]
        refine congrFun (congrArg Option.map (funext fun answer => ?_)) (t.run input)
        simp [List.append_assoc]

theorem length_next {s t : Stored} {b : UInt8} {out : Bytes} (h : s.next b = some (out, t)) :
    out.length ≤ 1 := by
  unfold next at h
  split at h
  · split_ifs at h
    obtain ⟨rfl, -⟩ := Prod.mk.inj (Option.some.inj h)
    exact Nat.zero_le _
  · obtain ⟨rfl, -⟩ := Prod.mk.inj (Option.some.inj h)
    exact Nat.zero_le _
  · obtain ⟨rfl, -⟩ := Prod.mk.inj (Option.some.inj h)
    exact le_refl _
  · cases h

/-- What a call does. -/
theorem run_of_call {s t : Stored} {input written : Bytes} {room taken : ℕ}
    (h : s.call input room = some (taken, written, t)) :
    taken ≤ input.length ∧ written.length ≤ room ∧ s.run (input.take taken) = some (written, t) ∧
      (t ≠ .ended → written.length < room → taken = input.length) := by
  induction input generalizing s room taken written with
  | nil =>
    obtain ⟨rfl, rfl, rfl⟩ : taken = 0 ∧ written = [] ∧ t = s := by simpa [call, eq_comm] using h
    exact ⟨le_refl _, Nat.zero_le _, rfl, fun _ _ => rfl⟩
  | cons b rest ih =>
    unfold call at h
    split_ifs at h with hended
    · obtain ⟨rfl, rfl, rfl⟩ : taken = 0 ∧ written = [] ∧ t = s := by simpa [eq_comm] using h
      exact ⟨Nat.zero_le _, Nat.zero_le _, rfl, fun hne => absurd hended hne⟩
    · obtain ⟨⟨out, s'⟩, hnext, h⟩ := Option.bind_eq_some_iff.mp h
      dsimp only at h
      split_ifs at h with hroom
      · obtain ⟨rfl, rfl, rfl⟩ : taken = 0 ∧ written = [] ∧ t = s := by simpa [eq_comm] using h
        refine ⟨Nat.zero_le _, Nat.zero_le _, rfl, fun _ hleft => ?_⟩
        have hone : out.length ≤ 1 := length_next hnext
        rw [List.length_nil] at hleft
        omega
      · obtain ⟨⟨taken', more, t'⟩, hcall, heq⟩ := Option.map_eq_some_iff.mp h
        obtain ⟨rfl, rfl, rfl⟩ : taken' + 1 = taken ∧ out ++ more = written ∧ t' = t := by
          simpa using heq
        obtain ⟨htaken, hmore, hrun, hall⟩ := ih hcall
        refine ⟨Nat.succ_le_succ htaken, ?_, ?_, fun hne hleft => ?_⟩
        · rw [List.length_append]
          omega
        · rw [List.take_succ_cons, run, hnext, Option.bind_some]
          dsimp only
          rw [hrun]
          rfl
        · rw [List.length_append] at hleft
          rw [List.length_cons, hall hne (by omega)]

/-- What some bytes decompress to, as far as they do. -/
def text : Stored → Bytes → Bytes
  | _, [] => []
  | s, b :: rest =>
    match s.next b with
    | some (out, t) => out ++ t.text rest
    | none => []

theorem text_of_run {s t : Stored} {h written : Bytes} (hrun : s.run h = some (written, t)) :
    s.text h = written := by
  induction h generalizing s written with
  | nil =>
    obtain ⟨rfl, -⟩ := Prod.mk.inj (Option.some.inj hrun)
    rfl
  | cons b rest ih =>
    obtain ⟨⟨out, s'⟩, hnext, hmap⟩ := Option.bind_eq_some_iff.mp hrun
    obtain ⟨⟨more, t'⟩, hrest, heq⟩ := Option.map_eq_some_iff.mp hmap
    obtain ⟨rfl, rfl⟩ := Prod.mk.inj heq
    unfold text
    rw [hnext]
    exact congrArg (out ++ ·) (ih hrest)

/-- Some bytes end with a final block. -/
def Closes (h : Bytes) : Prop := ((Stored.header []).run h).any (·.2 = .ended) = true

instance (h : Bytes) : Decidable (Closes h) := inferInstanceAs (Decidable (_ = true))

theorem closes_iff {h : Bytes} :
    Closes h ↔ ∃ written, (Stored.header []).run h = some (written, .ended) := by
  unfold Closes
  cases (Stored.header []).run h with
  | none => simp
  | some answer =>
    obtain ⟨written, t⟩ := answer
    simp

end Stored

/-- A library that reads stored blocks. -/
def storedFlate : Flate2 Unit Stored where
  newDeflater := ()
  resetDeflater := id
  compressVec _ _ _ := none
  newInflater := .header []
  resetInflater _ := .header []
  decompressVec s input room := (s.call input room).map fun (taken, written, t) =>
    (t = .ended, taken, written, t)
  reserve _ length more := length + more

/-- A decompressor that took some bytes. -/
def Stored.Stands (s : Stored) (h written : Bytes) : Prop :=
  (Stored.header []).run h = some (written, s)

theorem storedFlate_call {s t : Stored} {input written : Bytes} {room taken : ℕ} {ended : Bool}
    (h : storedFlate.decompressVec s input room = some (ended, taken, written, t)) :
    s.call input room = some (taken, written, t) ∧ ended = decide (t = .ended) := by
  obtain ⟨⟨taken', written', t'⟩, hcall, heq⟩ := Option.map_eq_some_iff.mp h
  obtain ⟨rfl, rfl, rfl, rfl⟩ : decide (t' = .ended) = ended ∧ taken' = taken ∧
      written' = written ∧ t' = t := by simpa using heq
  exact ⟨hcall, rfl⟩

theorem Stored.Stands.append {s t : Stored} {h w input written : Bytes} (hs : s.Stands h w)
    (hrun : s.run input = some (written, t)) : t.Stands (h ++ input) (w ++ written) := by
  unfold Stored.Stands at hs ⊢
  rw [Stored.run_append, hs, Option.bind_some]
  dsimp only
  rw [hrun]
  rfl

theorem decodes_storedFlate :
    storedFlate.Decodes (Stored.text (.header [])) Stored.Closes Stored.Stands where
  reserve _ _ _ := le_refl _
  text_nil := rfl
  new := rfl
  reset _ := rfl
  call hs hcall := by
    obtain ⟨htaken, hwritten, hrun, -⟩ := Stored.run_of_call (storedFlate_call hcall).1
    exact ⟨htaken, hwritten, hs.append hrun⟩
  paused hs hcall hleft := by
    obtain ⟨hstored, hended⟩ := storedFlate_call hcall
    obtain ⟨-, -, hrun, hall⟩ := Stored.run_of_call hstored
    have htaken := hall (of_decide_eq_false hended.symm) hleft
    rw [htaken, List.take_length] at hrun
    exact ⟨htaken, (Stored.text_of_run (hs.append hrun)).symm⟩
  ended hs hcall := by
    obtain ⟨hstored, hended⟩ := storedFlate_call hcall
    obtain ⟨-, -, hrun, -⟩ := Stored.run_of_call hstored
    have hafter := hs.append hrun
    obtain rfl := of_decide_eq_true hended.symm
    exact ⟨Stored.closes_iff.mpr ⟨_, hafter⟩, (Stored.text_of_run hafter).symm⟩
  stops hs hprefix hcloses := by
    obtain ⟨rest, rfl⟩ := hprefix
    obtain ⟨written, hrun⟩ := Stored.closes_iff.mp hcloses
    unfold Stored.Stands at hs
    rw [Stored.run_append, hrun, Option.bind_some] at hs
    cases rest with
    | nil => exact (List.append_nil _).symm
    | cons b rest => cases hs

theorem noReserved_bits : (0 : UInt8) &&& 0x30 = 0 := rfl

theorem textOpcode_bits : (1 : UInt8) &&& 0x0f = 1 := rfl

/-- A text message in one frame of a server. -/
def storedFrame (payload : Bytes) (h : payload.length < 126) : InboundFrame where
  header :=
    { fin := true
      rsv1 := true
      rsv23 := 0
      opcode := 1
      mask := none
      len := 2
      payload := payload.length
      rsv23_bits := noReserved_bits
      opcode_bits := textOpcode_bits }
  bytes := 0xC1 :: payload.length.toUInt8 :: payload
  whole := Nat.add_comm payload.length 2
  small := le_trans h.le (by decide)

/-- `Hello` in one block, as it is compressed with a flush. -/
def helloStored : InboundFrame := storedFrame
  [0x00, 0x05, 0x00, 0xFA, 0xFF, 0x48, 0x65, 0x6C, 0x6C, 0x6F, 0x00] (by decide)

/-- `Hello` in a final block, and the byte an encoder puts behind one. -/
def helloFinal : InboundFrame := storedFrame
  [0x01, 0x05, 0x00, 0xFA, 0xFF, 0x48, 0x65, 0x6C, 0x6C, 0x6F, 0x00] (by decide)

/-- `Hi` in one block. -/
def hiStored : InboundFrame := storedFrame
  [0x00, 0x02, 0x00, 0xFD, 0xFF, 0x48, 0x69, 0x00] (by decide)

/-- The starts of an input, one by one. -/
theorem endsLast_of_inits {Closes : Bytes → Prop} {h input : Bytes}
    (hinits : ∀ q ∈ input.inits, Closes (h ++ q) → q = input) : EndsLast Closes h input :=
  fun q hq => hinits q ((List.mem_inits q input).mpr hq)

/-- Where no block is final, both messages are inflated as a whole. -/
theorem inflated_whole_hello :
    AllWhole storedFlate (Stored.text (.header [])) .client {} {} { inflater := .header [] }
      [helloStored, hiStored] := by
  refine (inflated_whole_iff decodes_storedFlate .client {} _).1
    ⟨fun _ => endsLast_of_inits ?_, fun _ => endsLast_of_inits ?_, trivial⟩
  · decide
  · decide

/-- Behind a final block the next message is empty. -/
theorem final_block_empties :
    (∃ s s', rewriteIn storedFlate .client {} { inflater := .header [] } helloFinal.header
          helloFinal.bytes = (s, .ok [0x81, 0x05, 0x48, 0x65, 0x6C, 0x6C, 0x6F]) ∧
        rewriteIn storedFlate .client {} s hiStored.header hiStored.bytes
          = (s', .ok [0x81, 0x00])) ∧
      ¬AllWhole storedFlate (Stored.text (.header [])) .client {} {} { inflater := .header [] }
        [helloFinal, hiStored] := by
  have hhello : (rewriteIn storedFlate .client {} { inflater := .header [] } helloFinal.header
      helloFinal.bytes).2 = .ok [0x81, 0x05, 0x48, 0x65, 0x6C, 0x6C, 0x6F] := by rfl
  have hhi : (rewriteIn storedFlate .client {} (rewriteIn storedFlate .client {}
      { inflater := .header [] } helloFinal.header helloFinal.bytes).1 hiStored.header
      hiStored.bytes).2 = .ok [0x81, 0x00] := by rfl
  refine ⟨⟨_, _, Prod.ext rfl hhello, Prod.ext rfl hhi⟩, fun hall => ?_⟩
  have hrun : Rewritten storedFlate .client {} { inflater := .header [] } [helloFinal, hiStored] :=
    ⟨_, _, Prod.ext rfl hhello, _, _, Prod.ext rfl hhi, trivial⟩
  obtain ⟨hlast, -⟩ :=
    (UpToDate.new decodes_storedFlate).noneEndsEarly decodes_storedFlate hrun hall
  -- the final block ends with the text
  have hends := hlast (by decide)
    [0x01, 0x05, 0x00, 0xFA, 0xFF, 0x48, 0x65, 0x6C, 0x6C, 0x6F] (by decide)
    (by decide)
  exact absurd hends (by decide)

end WsBlast
