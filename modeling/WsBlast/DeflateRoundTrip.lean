import WsBlast.DeflateChunks

/-!
# Messages arrive as they were sent

A frame is rewritten twice on its way: by the layer of the end that sends it,
which may deflate its payload, and by the layer of its peer, which inflates it
again. The two keep a compressor and a decompressor in step (`InStep`): both go
on over the messages that were compressed, whatever passed between them, and
both are reset, or not, after the same ones. So each frame comes out as it went
in (`rewrite_round_trip`), and with `chunking_does_not_matter` so does the whole
stream, in whatever pieces it is written, sent, received and read
(`round_trip`).

An end of a connection is not told which library the other one uses. All that is
assumed of the two is the law of `Flate2.Inverse`, which relates a compressor to
a decompressor of its own kind, and here both ends have the same one.
-/

namespace WsBlast

open Scanner

/-! ## Frames

A frame has a header and a payload, and the layer changes a bit in the one and
all of the other. -/

/-- A frame as a WebSocket library writes it, with RSV1 clear. -/
structure Frame where
  fin : Bool
  rsv23 : UInt8
  opcode : UInt8
  mask : Option MaskKey
  payload : Bytes
  rsv23_bits : rsv23 &&& 0x30 = rsv23
  opcode_bits : opcode &&& 0x0f = opcode

namespace Frame

variable (f : Frame)

/-- The header of the frame with another payload length. -/
def header (rsv1 : Bool) (payload : ℕ) : FrameHeader :=
  let h : FrameHeader := {
    fin := f.fin
    rsv1
    rsv23 := f.rsv23
    opcode := f.opcode
    mask := f.mask
    len := 0
    payload
    rsv23_bits := f.rsv23_bits
    opcode_bits := f.opcode_bits }
  { h with len := (h.write rsv1 payload).length }

/-- The bytes of the frame with another payload. -/
def wire (rsv1 : Bool) (payload : Bytes) : Bytes :=
  (f.header rsv1 payload.length).write rsv1 payload.length ++ masked f.mask payload

/-- The bytes of the frame. -/
def bytes : Bytes := f.wire false f.payload

theorem length_wire (rsv1 : Bool) (payload : Bytes) :
    (f.wire rsv1 payload).length = (f.header rsv1 payload.length).len + payload.length := by
  unfold wire
  rw [List.length_append, length_masked]
  rfl

theorem parse_wire (rsv1 : Bool) {payload : Bytes} (h : payload.length < 2 ^ 64) (more : Bytes) :
    FrameHeader.parse (f.wire rsv1 payload ++ more) = some (f.header rsv1 payload.length) := by
  unfold wire
  rw [List.append_assoc, FrameHeader.parse_write _ _ h]
  rfl

/-- The payload behind the header. -/
theorem drop_wire (rsv1 : Bool) (payload : Bytes) :
    (f.wire rsv1 payload).drop (f.header rsv1 payload.length).len = masked f.mask payload :=
  List.drop_left

/-- **The next step with the frame**, whatever is behind it. -/
theorem nextFrame_wire {C : Type} {largest : Option ℕ}
    {rewrite : C → FrameHeader → Bytes → C × Except String Bytes} (s : Side C) (rsv1 : Bool)
    {payload : Bytes} (hlength : payload.length < 2 ^ 64)
    (hsmall : largest.any (· < payload.length) = false) {codec : C} {out : Bytes}
    (hrewrite : rewrite s.codec (f.header rsv1 payload.length) (f.wire rsv1 payload)
      = (codec, .ok out)) (more : Bytes) :
    nextFrame largest rewrite s (f.wire rsv1 payload ++ more)
      = .take { s with codec, ready := s.ready ++ out } (f.wire rsv1 payload).length := by
  have hle : (f.header rsv1 payload.length).len + (f.header rsv1 payload.length).payload
      = (f.wire rsv1 payload).length := (f.length_wire rsv1 payload).symm
  unfold nextFrame
  rw [f.parse_wire rsv1 hlength more]
  dsimp only
  have hsmall' : largest.any (· < (f.header rsv1 payload.length).payload) = false := hsmall
  rw [if_neg (by rw [hsmall']; nofun), hle, if_neg (by rw [List.length_append]; omega),
    List.take_left, hrewrite]

end Frame

/-! ## The two ends in step

One lemma for each thing that may happen to a frame at the sending end, one for
each at the receiving end, and `rewrite_round_trip` puts them together. -/

section Frames

variable {D I : Type} {z : Flate2 D I} {matched : D → I → Prop} {reads : I → Bytes → Bytes → I → Prop}
  {left : D → Bytes → ℕ} {role : Role} {params : Params}

/-- The compressor of one end and the decompressor of the other are in step,
between two messages. -/
structure InStep (z : Flate2 D I) (matched : D → I → Prop) (d : Deflating D) (i : Inflating I) :
    Prop where
  matched : matched (d.deflater.getD z.newDeflater) i.inflater
  between : i.inflating = false

/-- Whether an end compresses a frame. -/
def Frame.Compressed (f : Frame) (params : Params) (role : Role) : Prop :=
  params.canCompress role = true ∧ (f.opcode = 1 ∨ f.opcode = 2) ∧ f.fin = true

/-- Payloads and what they are compressed to are no larger than 64 MiB. -/
def Fits (z : Flate2 D I) (role : Role) (params : Params) : Deflating D → List Frame → Prop
  | _, [] => True
  | d, f :: rest =>
    f.payload.length ≤ maxMessage
      ∧ (f.Compressed params role → ∀ d' payload, deflate z d.deflater f.payload = (d', .ok payload) →
        payload.length ≤ maxFrame)
      ∧ Fits z role params (rewriteOut z role params d (f.header false f.payload.length) f.bytes).1 rest

section Rewrite

variable {f : Frame} {d : Deflating D} {i : Inflating I}

/-- A message is sent with its compressed payload. -/
theorem rewriteOut_compressed (h : f.Compressed params role) {d' : D} {payload : Bytes}
    (hdeflate : deflate z d.deflater f.payload = (d', .ok payload)) :
    rewriteOut z role params d (f.header false f.payload.length) f.bytes
      = ({ deflater := some (if params.resetDeflater role then z.resetDeflater d' else d')
           bytesSent := d.bytesSent + f.payload.length
           wireBytesSent := d.wireBytesSent + payload.length }, .ok (f.wire true payload)) := by
  obtain ⟨hcan, hopcode, hfin⟩ := h
  have hcond : params.canCompress role ∧ ((f.header false f.payload.length).opcode = 1
        ∨ (f.header false f.payload.length).opcode = 2)
      ∧ (f.header false f.payload.length).fin ∧ ¬(f.header false f.payload.length).rsv1 :=
    ⟨hcan, hopcode, hfin, nofun⟩
  have hplain : masked (f.header false f.payload.length).mask
      (f.bytes.drop (f.header false f.payload.length).len) = f.payload := by
    rw [Frame.bytes, f.drop_wire]
    exact masked_masked f.mask f.payload
  unfold rewriteOut
  dsimp only
  rw [if_pos hcond, hplain, hdeflate]
  rfl

/-- Anything else is sent as it is. -/
theorem rewriteOut_passes (h : ¬f.Compressed params role) :
    ∃ d', rewriteOut z role params d (f.header false f.payload.length) f.bytes = (d', .ok f.bytes)
      ∧ d'.deflater = d.deflater := by
  have hcond : ¬(params.canCompress role ∧ ((f.header false f.payload.length).opcode = 1
        ∨ (f.header false f.payload.length).opcode = 2)
      ∧ (f.header false f.payload.length).fin ∧ ¬(f.header false f.payload.length).rsv1) :=
    fun ⟨hcan, hopcode, hfin, _⟩ => h ⟨hcan, hopcode, hfin⟩
  unfold rewriteOut
  dsimp only
  rw [if_neg hcond]
  exact ⟨_, rfl, rfl⟩

/-- A compressed message in one frame is handed on inflated. -/
theorem rewriteIn_inflated (hdata : f.opcode < 8 ∧ f.opcode ≠ 0) (hfin : f.fin = true)
    {payload message : Bytes} {inflater : I} {n : ℕ}
    (hinflate : inflate z i.inflater 0 payload true = (inflater, n, .ok message)) :
    rewriteIn z role params i (f.header true payload.length) (f.wire true payload)
      = ({ inflating := false
           inflated := n
           inflater := if params.resetInflater role then z.resetInflater inflater else inflater
           bytesRecv := i.bytesRecv + message.length
           wireBytesRecv := i.wireBytesRecv + payload.length }, .ok (f.wire false message)) := by
  have hplain : masked (f.header true payload.length).mask
      ((f.wire true payload).drop (f.header true payload.length).len) = payload := by
    rw [f.drop_wire]
    exact masked_masked f.mask payload
  have hfirst : (f.header true payload.length).opcode < 8
      ∧ (f.header true payload.length).opcode ≠ 0 := hdata
  have hfin' : (f.header true payload.length).fin = true := hfin
  unfold rewriteIn
  dsimp only
  rw [if_pos hfirst]
  dsimp only
  rw [if_pos ⟨hdata.1, rfl⟩, hplain, hfin', hinflate]
  simp only [true_and]
  rfl

/-- Between two messages, a frame with RSV1 clear is handed on as it is. -/
theorem rewriteIn_passes (hbetween : i.inflating = false) (n : ℕ) (frame : Bytes) :
    ∃ i', rewriteIn z role params i (f.header false n) frame = (i', .ok frame)
      ∧ i'.inflating = false ∧ i'.inflater = i.inflater := by
  have hclear : (if (f.header false n).opcode < 8 ∧ (f.header false n).opcode ≠ 0 then
      { i with inflating := (f.header false n).rsv1, inflated := 0 } else i).inflating = false := by
    split
    · rfl
    · exact hbetween
  unfold rewriteIn
  dsimp only
  rw [if_neg fun h => Bool.false_ne_true (hclear.symm.trans h.2)]
  refine ⟨_, rfl, hclear, ?_⟩
  dsimp only
  split <;> rfl

/-- **One frame comes out as it went in**, and the two ends stay in step. -/
theorem rewrite_round_trip (hz : z.Inverse matched reads left) (hstep : InStep z matched d i)
    (hsize : f.payload.length ≤ maxMessage)
    (hcompressed : f.Compressed params role → ∀ d' payload,
      deflate z d.deflater f.payload = (d', .ok payload) → payload.length ≤ maxFrame) :
    ∃ rsv1 payload d' i', payload.length ≤ maxFrame
      ∧ rewriteOut z role params d (f.header false f.payload.length) f.bytes
        = (d', .ok (f.wire rsv1 payload))
      ∧ rewriteIn z role.peer params i (f.header rsv1 payload.length) (f.wire rsv1 payload)
        = (i', .ok f.bytes)
      ∧ InStep z matched d' i' := by
  by_cases hmessage : f.Compressed params role
  · obtain ⟨payload, deflater, inflater, hdeflate, hinflate, hmatched⟩ :=
      deflate_inflate hz hstep.matched hsize
    obtain ⟨-, hopcode, hfin⟩ := id hmessage
    have hdata : f.opcode < 8 ∧ f.opcode ≠ 0 := by
      rcases hopcode with h | h <;> rw [h] <;> decide
    refine ⟨true, payload, _, _, hcompressed hmessage _ _ hdeflate,
      rewriteOut_compressed hmessage hdeflate, rewriteIn_inflated hdata hfin hinflate, ?_, rfl⟩
    -- both ends reset, or neither does
    show matched (if params.resetDeflater role then z.resetDeflater deflater else deflater)
      (if params.resetInflater role.peer then z.resetInflater inflater else inflater)
    rw [params.resetDeflater_eq]
    split
    · exact hz.reset hmatched
    · exact hmatched
  · obtain ⟨d', hout, hdeflater⟩ := rewriteOut_passes (z := z) (d := d) hmessage
    obtain ⟨i', hin, hbetween, hinflater⟩ : ∃ i', rewriteIn z role.peer params i
        (f.header false f.payload.length) f.bytes = (i', .ok f.bytes)
          ∧ i'.inflating = false ∧ i'.inflater = i.inflater :=
      rewriteIn_passes hstep.between f.payload.length f.bytes
    refine ⟨false, f.payload, d', i', hsize, hout, hin, ?_, hbetween⟩
    rw [hdeflater, hinflater]
    exact hstep.matched

end Rewrite

/-- **All frames come out as they went in**: what one end makes of them, the
other end makes into them again. -/
theorem frames_round_trip (hz : z.Inverse matched reads left) {frames : List Frame}
    {d : Deflating D} {i : Inflating I} (hstep : InStep z matched d i)
    (hfits : Fits z role params d frames) (readyOut readyIn : Bytes) :
    ∃ wire d' i',
      scan (nextOut z role params) { headDone := true, codec := d, ready := readyOut }
          (frames.flatMap Frame.bytes)
        = ⟨{ headDone := true, codec := d', ready := readyOut ++ wire }, [], none⟩
      ∧ scan (nextIn z role.peer params) { headDone := true, codec := i, ready := readyIn } wire
        = ⟨{ headDone := true, codec := i', ready := readyIn ++ frames.flatMap Frame.bytes }, [],
          none⟩ := by
  -- one frame at a time: what the sender appends for it, the receiver takes off
  induction frames generalizing d i readyOut readyIn with
  | nil =>
    refine ⟨[], d, i, ?_, ?_⟩
    · rw [List.append_nil]
      exact scan_wait rfl
    · rw [List.flatMap_nil, List.append_nil]
      exact scan_wait rfl
  | cons f frames ih =>
    obtain ⟨hsize, hcompressed, hrest⟩ := hfits
    obtain ⟨rsv1, payload, d₁, i₁, hpayload, hout, hin, hstep₁⟩ :=
      rewrite_round_trip hz hstep hsize hcompressed
    rw [hout] at hrest
    obtain ⟨wire, d', i', hscanOut, hscanIn⟩ :=
      ih hstep₁ hrest (readyOut ++ f.wire rsv1 payload) (readyIn ++ f.bytes)
    have hlengthOut : f.payload.length < 2 ^ 64 := hsize.trans_lt (by decide)
    have hlengthIn : payload.length < 2 ^ 64 := hpayload.trans_lt (by decide)
    have hsmall : (some maxFrame).any (· < payload.length) = false :=
      decide_eq_false (not_lt.mpr hpayload)
    have hfirstOut : nextOut z role params { headDone := true, codec := d, ready := readyOut }
        (f.bytes ++ frames.flatMap Frame.bytes)
        = .take { headDone := true, codec := d₁, ready := readyOut ++ f.wire rsv1 payload }
          f.bytes.length :=
      f.nextFrame_wire _ false hlengthOut rfl hout _
    have hfirstIn : nextIn z role.peer params { headDone := true, codec := i, ready := readyIn }
        (f.wire rsv1 payload ++ wire)
        = .take { headDone := true, codec := i₁, ready := readyIn ++ f.bytes }
          (f.wire rsv1 payload).length :=
      f.nextFrame_wire _ rsv1 hlengthIn hsmall hin _
    have hnextOut := DeflateStream.rewritesFrames_nextOut (z := z) role
    have hnextIn := DeflateStream.rewritesFrames_nextIn (z := z) role.peer
    refine ⟨f.wire rsv1 payload ++ wire, d', i', ?_, ?_⟩
    · rw [List.flatMap_cons, scan_take (hnextOut.progresses params) hfirstOut, List.drop_left,
        hscanOut, List.append_assoc]
    · rw [List.flatMap_cons, scan_take (hnextIn.progresses params) hfirstIn, List.drop_left,
        hscanIn, List.append_assoc]

end Frames

/-! ## Both ends of a connection

Two runs, of the sender's layer and of the receiver's, with the network between
them. -/

section RoundTrip

variable {D I : Type} {z : Flate2 D I} {C : Type}
  {next : Params → Side C → Bytes → Next (Side C) String} {codec : C} {head : Bytes}

/-- The scan of a stream that starts with a head. -/
theorem scan_head (hnext : RewritesFrames next) (agreement : Option (Option Params))
    (hhead : headEnd head = some head.length) (rest : Bytes) :
    scan (nextSide next agreement) { codec } (head ++ rest)
      = scan (nextSide next agreement) { headDone := true, codec, ready := head } rest := by
  rw [scan_take (nextSide_progresses hnext agreement)
    (nextSide_head rfl (headEnd_append hhead rest)), List.drop_left, List.take_left]
  rfl

/-- A head that is short enough fits, with anything behind it. -/
theorem headFits_append (hhead : headEnd head = some head.length) (hshort : head.length ≤ maxHead)
    (rest : Bytes) : HeadFits (head ++ rest) := by
  unfold HeadFits
  rw [headEnd_append hhead rest]
  exact decide_eq_true hshort

/-- **Frames arrive as they were sent.** One end of a connection writes a head
and frames in any pieces, the connection takes them in any amounts; the other
end receives what was sent in any pieces. With the parameters both ends agreed
on, what its reads return is what was written; when compression was declined,
both ends pass every byte. -/
theorem round_trip {matched : D → I → Prop} {reads : I → Bytes → Bytes → I → Prop}
    {left : D → Bytes → ℕ} (hz : z.Inverse matched reads left) {role : Role}
    {sends receives : List Call} {sender receiver : Connection D I}
    (hsends : Machine.run (Connection.step z) (.new z role) sends = some sender)
    (hreceives : Machine.run (Connection.step z) (.new z role.peer) receives = some receiver)
    {agreed : Option Params} (hsender : sender.stream.agreement = some agreed)
    (hreceiver : receiver.stream.agreement = some agreed)
    (hhead : headEnd head = some head.length) (hshort : head.length ≤ maxHead) {rest : Bytes}
    (hwritten : sender.written = head ++ rest) (hwire : receiver.received = sender.sent)
    (hflushed : FlushDone z sender.stream) (hwaits : ReadWaits z receiver.stream) :
    (∀ params frames, agreed = some params → rest = frames.flatMap Frame.bytes →
      Fits z role params {} frames → receiver.delivered = head ++ frames.flatMap Frame.bytes)
    ∧ (agreed = none → sender.sent = sender.written ∧ receiver.delivered = receiver.received) := by
  have hnextOut := DeflateStream.rewritesFrames_nextOut (z := z) role
  have hnextIn := DeflateStream.rewritesFrames_nextIn (z := z) role.peer
  have hagreedOut : responseAgreement sender.response = some agreed :=
    (run_led hsends).2.agreement.symm.trans hsender
  have hagreedIn : responseAgreement receiver.response = some agreed :=
    (run_led hreceives).2.agreement.symm.trans hreceiver
  have hfitsOut : HeadFits sender.written := by
    rw [hwritten]
    exact headFits_append hhead hshort rest
  have hsent := run_sent hsends
  have hdelivered := run_delivered hreceives
  rw [hagreedOut, hwritten] at hsent
  rw [hagreedIn, hwire] at hdelivered
  rw [hwritten] at hfitsOut
  refine ⟨?_, ?_⟩
  · rintro params frames rfl rfl hfits
    have hstart : InStep z matched {} { inflater := z.newInflater } := ⟨hz.new, rfl⟩
    -- the sender's scan makes the bytes on the wire, the receiver's the frames again
    obtain ⟨wire, d', i', hscanOut, hscanIn⟩ := frames_round_trip hz hstart hfits head head
    have hallOut : scan (nextSide (nextOut z role) (some (some params))) { codec := {} }
        (head ++ frames.flatMap Frame.bytes)
        = ⟨{ headDone := true, codec := d', ready := head ++ wire }, [], none⟩ := by
      rw [scan_head hnextOut _ hhead, scan_agreed hnextOut rfl, hscanOut]
    obtain ⟨hsent, -⟩ := hsent ⟨hfitsOut, by rw [hallOut]⟩ hflushed
    rw [hallOut] at hsent
    rw [hsent] at hdelivered
    have hallIn : scan (nextSide (nextIn z role.peer) (some (some params)))
        { codec := { inflater := z.newInflater } } (head ++ wire)
        = ⟨{ headDone := true
             codec := i'
             ready := head ++ frames.flatMap Frame.bytes }, [], none⟩ := by
      rw [scan_head hnextIn _ hhead, scan_agreed hnextIn rfl, hscanIn]
    obtain ⟨hdelivered, -⟩ :=
      hdelivered ⟨headFits_append hhead hshort wire, by rw [hallIn]⟩ hwaits
    rw [hallIn] at hdelivered
    exact hdelivered
  · rintro rfl
    have hallOut : scan (nextSide (nextOut z role) (some none)) { codec := {} } (head ++ rest)
        = ⟨{ headDone := true, codec := {}, ready := head ++ rest }, [], none⟩ := by
      rw [scan_head hnextOut _ hhead, scan_declined hnextOut rfl]
    obtain ⟨hsent, -⟩ := hsent ⟨hfitsOut, by rw [hallOut]⟩ hflushed
    rw [hallOut] at hsent
    rw [hsent] at hdelivered
    have hallIn : scan (nextSide (nextIn z role.peer) (some none))
        { codec := { inflater := z.newInflater } } (head ++ rest)
        = ⟨{ headDone := true, codec := { inflater := z.newInflater }, ready := head ++ rest }, [],
          none⟩ := by
      rw [scan_head hnextIn _ hhead, scan_declined hnextIn rfl]
    obtain ⟨hdelivered, -⟩ := hdelivered ⟨hfitsOut, by rw [hallIn]⟩ hwaits
    rw [hallIn] at hdelivered
    refine ⟨hsent.trans hwritten.symm, hdelivered.trans ?_⟩
    rw [hwire, hsent]

end RoundTrip

/-! ## One message

The example of RFC 7692: `Hello` as the first message of a connection. -/

/-- The text of the example. -/
def helloText : Bytes := "Hello".toUTF8.data.toList

/-- What `Hello` is compressed to at the start of a connection. -/
def helloCode : Bytes := [0xf2, 0x48, 0xcd, 0xc9, 0xc9, 0x07, 0x00]

/-- The code of a message: the example's, or the message itself behind a zero. -/
def helloEncode (message : Bytes) : Bytes :=
  if message = helloText then helloCode else 0x00 :: message

/-- Its inverse, with the tail put back. -/
def helloDecode (input : Bytes) : Bytes :=
  let code := input.take (input.length - 4)
  if code = helloCode then helloText else code.drop 1

/-- What a compressor has to write. -/
def helloOutput (pending : Option Bytes) (input : Bytes) : Bytes :=
  match pending with
  | none => helloEncode input ++ syncTail
  | some pending => pending ++ (if input = [] then [] else helloEncode input ++ syncTail)

/-- A library that compresses `Hello` as the example has it. Compressor and
decompressor keep what they have not written yet. -/
def helloFlate : Flate2 (Option Bytes) Bytes where
  newDeflater := none
  resetDeflater _ := none
  compressVec pending input room :=
    let out := helloOutput pending input
    some (input.length, out.take room, if out.length < room then none else some (out.drop room))
  newInflater := []
  resetInflater _ := []
  decompressVec pending input room :=
    let out := pending ++ helloDecode input
    some (false, input.length, out.take room, out.drop room)
  reserve _ length more := length + more

theorem helloDecode_encode (message : Bytes) :
    helloDecode (helloEncode message ++ syncTail) = message := by
  have hcode : (helloEncode message ++ syncTail).take
      ((helloEncode message ++ syncTail).length - 4) = helloEncode message := by
    rw [List.length_append]
    exact List.take_left
  unfold helloDecode
  dsimp only
  rw [hcode]
  unfold helloEncode
  split
  · rename_i hhello
    rw [if_pos rfl, hhello]
  · exact if_neg (by simp [helloCode])

/-- What a flush writes, whatever room its calls have. -/
theorem flushed_helloFlate {d d' : Option Bytes} {input output : Bytes}
    (h : Flushed helloFlate d input output d') : output = helloOutput d input ∧ d' = none := by
  induction h with
  | @last d d' input written room least call left =>
    obtain ⟨-, hcall⟩ := Prod.mk.inj (Option.some.inj call)
    obtain ⟨rfl, rfl⟩ := Prod.mk.inj hcall
    have hroom : (helloOutput d input).length < room := by
      rw [List.length_take] at left
      omega
    exact ⟨List.take_of_length_le hroom.le, if_pos hroom⟩
  | @more d d' d'' input written rest room taken least call full flushed ih =>
    obtain ⟨rfl, hcall⟩ := Prod.mk.inj (Option.some.inj call)
    obtain ⟨rfl, rfl⟩ := Prod.mk.inj hcall
    obtain ⟨hrest, rfl⟩ := ih
    have hroom : ¬(helloOutput d input).length < room := by
      rw [List.length_take] at full
      omega
    rw [if_neg hroom, List.drop_length] at hrest
    refine ⟨?_, rfl⟩
    rw [hrest]
    show (helloOutput d input).take room ++ ((helloOutput d input).drop room ++ []) = _
    rw [List.append_nil, List.take_append_drop]

theorem inverse_helloFlate : helloFlate.Inverse (fun d i => d = none ∧ i = [])
    (fun i input output j => i ++ helloDecode input = output ∧ j = [])
    (fun d input => (helloOutput d input).length) where
  reserve _ _ _ := le_refl _
  compress d input room hroom := by
    refine ⟨_, _, _, rfl, le_refl _, List.length_take_le _ _, fun _ => rfl, fun hfull => ?_⟩
    have hlong : ¬(helloOutput d input).length < room := by
      rw [List.length_take] at hfull
      omega
    rw [if_neg hlong, List.drop_length]
    show ((helloOutput d input).drop room ++ []).length < _
    rw [List.append_nil, List.length_drop]
    omega
  bounded := by
    rintro d i input ⟨rfl, -⟩ hsize
    have hencode : (helloEncode input).length ≤ input.length + 7 := by
      unfold helloEncode
      split
      · exact Nat.le_add_left 7 _
      · exact Nat.add_le_add_left (by decide) _
    have hlimit : maxMessage + 11 < maxPasses := by decide
    show (helloEncode input ++ syncTail).length < maxPasses
    rw [List.length_append]
    show _ + 4 < _
    omega
  decompress := by
    rintro i j input output room ⟨rfl, rfl⟩ hroom
    refine ⟨_, _, _, _, rfl, le_refl _, List.length_take_le _ _, (List.take_append_drop room _).symm,
      ⟨?_, rfl⟩, fun hleft => ?_⟩
    · rw [List.drop_length]
      exact List.append_nil _
    · rw [List.length_take] at hleft
      have hall : (i ++ helloDecode input).drop room = [] := List.drop_eq_nil_of_le (by omega)
      exact ⟨rfl, hall, hall⟩
  inverse := by
    rintro d i input output d' ⟨rfl, rfl⟩ hflushed
    obtain ⟨rfl, rfl⟩ := flushed_helloFlate hflushed
    exact ⟨List.suffix_append _ _, [], ⟨helloDecode_encode input, rfl⟩, rfl, rfl⟩
  new := ⟨rfl, rfl⟩
  reset _ := ⟨rfl, rfl⟩

/-- The text `Hello` from a client, in one masked frame. -/
def helloFrame : Frame where
  fin := true
  rsv23 := 0
  opcode := 1
  mask := some ⟨1, 2, 3, 4⟩
  payload := helloText
  rsv23_bits := rfl
  opcode_bits := rfl

/-- A client writes its request, reads the response and writes the text, which
the connection takes in two parts. -/
def helloSends : List Call :=
  [.write requestBytes [.took 100], .read 100 (.data agreedHead), .read 100 .pending,
    .write helloFrame.bytes [.took 3], .flush [.took 100]]

/-- What the connection carries: the compressed text. -/
def helloWire : Bytes := requestBytes ++ helloFrame.wire true helloCode

/-- A server reads the request, writes the response and reads the text, cut in
its header. -/
def helloReceives : List Call :=
  [.read 100 (.data requestBytes), .read 100 .pending, .write agreedHead [.took 100],
    .read 100 (.data ((helloWire.drop requestBytes.length).take 1)),
    .read 100 (.data ((helloWire.drop requestBytes.length).drop 1)), .read 7 .pending,
    .read 100 .pending]

theorem hello_fits : Fits helloFlate .client {} {} [helloFrame] := by
  have hdeflate : deflate helloFlate none helloText = (none, .ok helloCode) := by rfl
  refine ⟨by decide, fun _ d' payload h => ?_, trivial⟩
  obtain ⟨-, hpayload⟩ := Prod.mk.inj (hdeflate.symm.trans h)
  rw [← Except.ok.inj hpayload]
  decide

theorem hello_arrives : ∃ sender receiver : Connection (Option Bytes) Bytes,
    Machine.run (Connection.step helloFlate) (.new helloFlate .client) helloSends = some sender
      ∧ Machine.run (Connection.step helloFlate) (.new helloFlate .server) helloReceives
        = some receiver
      ∧ sender.sent = requestBytes ++ helloFrame.wire true helloCode
      ∧ receiver.delivered = requestBytes ++ helloFrame.bytes := by
  have hsends : (Machine.run (Connection.step helloFlate) (.new helloFlate .client) helloSends).map
      (fun c => decide (c.stream.agreement = some (some {})
        ∧ c.written = requestBytes ++ helloFrame.bytes ∧ c.sent = helloWire
        ∧ FlushDone helloFlate c.stream)) = some true := by
    decide +kernel
  have hreceives : (Machine.run (Connection.step helloFlate) (.new helloFlate .server)
      helloReceives).map (fun c => decide (c.stream.agreement = some (some {})
        ∧ c.received = helloWire ∧ ReadWaits helloFlate c.stream)) = some true := by
    decide +kernel
  obtain ⟨sender, hsends, hfacts⟩ := Option.map_eq_some_iff.mp hsends
  obtain ⟨hagreed, hwritten, hsent, hdone⟩ := of_decide_eq_true hfacts
  obtain ⟨receiver, hreceives, hfacts⟩ := Option.map_eq_some_iff.mp hreceives
  obtain ⟨hagreed', hreceived, hwaits⟩ := of_decide_eq_true hfacts
  have hall : [helloFrame].flatMap Frame.bytes = helloFrame.bytes := List.append_nil _
  obtain ⟨hframes, -⟩ := round_trip inverse_helloFlate hsends hreceives hagreed hagreed'
    (by decide) (by decide) hwritten (hreceived.trans hsent.symm) hdone hwaits
  have hdelivered := hframes {} [helloFrame] rfl hall.symm hello_fits
  rw [hall] at hdelivered
  exact ⟨sender, receiver, hsends, hreceives, hsent, hdelivered⟩

end WsBlast
