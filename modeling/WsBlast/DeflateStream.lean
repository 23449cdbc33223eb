import WsBlast.CompressionOffer
import WsBlast.WsFrame
import WsBlast.Flate
import WsBlast.Lib.Scanner

/-!
# The compression layer

`DeflateStream` sits between a connection and the WebSocket library, which
knows no extensions, and rewrites the frames of both directions. The HTTP head
of each direction passes unchanged; the response head says whether compression
was agreed. Then every byte passes when it was declined, and otherwise the
frames of a compressed message are inflated on their way in, and the messages
the library writes are deflated on their way out.

Each direction is a `Side`: bytes wait in `rawIn` or `rawOut` until they are
rewritten, and in `ready` until the caller reads them or the connection takes
them. `ready` holds what is left of the program's buffer behind its position,
so a buffer that was used up is empty.

The layer never blocks. Each of its methods is a poll: it does what it can with
the bytes it has, and hands on the answer of the connection when it needs more.
`poll_read` is a loop, and one turn of it is `readPass`. A turn that reads
bytes from the connection and completes no frame with them goes around; one
that finds bytes in `ready` hands them over.
-/

namespace WsBlast

open Scanner

/-! ## Limits -/

/-- The largest compressed frame the layer buffers before rewriting it. -/
def maxFrame : ℕ := 64 * 2 ^ 20

/-- The largest HTTP head the layer waits for. -/
def maxHead : ℕ := 64 * 2 ^ 10

/-- Unwritten output above which a write waits for the connection. -/
def highWater : ℕ := 256 * 2 ^ 10

/-- What the layer reads from the connection at once. -/
def readChunk : ℕ := 16 * 2 ^ 10

/-! ## The text of a head

The head is decoded as the standard library does it, with a replacement
character for what is no UTF-8. -/

/-- The length of the UTF-8 sequence a byte begins, if it can begin one. -/
def utf8Width (b : UInt8) : ℕ :=
  if b < 0x80 then 1
  else if 0xC2 ≤ b ∧ b ≤ 0xDF then 2
  else if 0xE0 ≤ b ∧ b ≤ 0xEF then 3
  else if 0xF0 ≤ b ∧ b ≤ 0xF4 then 4
  else 0

/-- The second bytes a first byte allows, which leave out overlong forms,
surrogates and numbers that are no characters. -/
def utf8Second (b : UInt8) : UInt8 × UInt8 :=
  if b = 0xE0 then (0xA0, 0xBF)
  else if b = 0xED then (0x80, 0x9F)
  else if b = 0xF0 then (0x90, 0xBF)
  else if b = 0xF4 then (0x80, 0x8F)
  else (0x80, 0xBF)

/-- The number of bytes, of the next `k`, that continue a sequence. -/
def utf8Followers : UInt8 × UInt8 → ℕ → Bytes → ℕ
  | range, k + 1, b :: rest =>
    if range.1 ≤ b ∧ b ≤ range.2 then utf8Followers (0x80, 0xBF) k rest + 1 else 0
  | _, _, _ => 0

/-- The character of a complete sequence. -/
def utf8Char (b : UInt8) (followers : Bytes) : Char :=
  let bits := if followers = [] then 7 else 6 - followers.length
  Char.ofNat (followers.foldl (fun n f => n * 64 + f.toNat % 64) (b.toNat % 2 ^ bits))

/-- The characters of some bytes, of which the first `skip` belong to the
sequence before them. -/
def utf8Chars : ℕ → Bytes → List Char
  | _, [] => []
  | skip + 1, _ :: rest => utf8Chars skip rest
  | 0, b :: rest =>
    let followers := utf8Followers (utf8Second b) (utf8Width b - 1) rest
    (if utf8Width b = followers + 1 then utf8Char b (rest.take followers) else '\uFFFD')
      :: utf8Chars followers rest

/-- `String::from_utf8_lossy`: every sequence that is cut off or no UTF-8
becomes one replacement character. -/
def fromUtf8Lossy (bytes : Bytes) : String := String.ofList (utf8Chars 0 bytes)

/-- ASCII bytes are their own characters. -/
theorem utf8Chars_ascii {bytes : Bytes} (h : ∀ b ∈ bytes, b < 0x80) :
    utf8Chars 0 bytes = bytes.map fun b => Char.ofNat b.toNat := by
  induction bytes with
  | nil => rfl
  | cons b rest ih =>
    have hb := h b List.mem_cons_self
    have hwidth : utf8Width b = 1 := if_pos hb
    have hfollowers : utf8Followers (utf8Second b) 0 rest = 0 := by
      rw [utf8Followers]
      nofun
    have hbits : b.toNat % 2 ^ 7 = b.toNat := Nat.mod_eq_of_lt hb
    rw [utf8Chars, hwidth]
    simp only [Nat.sub_self, hfollowers, if_pos, List.take_zero, utf8Char, List.foldl_nil, hbits,
      List.map_cons, ih fun b hb => h b (List.mem_cons_of_mem _ hb)]

/-! ## Where a head ends

At the first blank line, wherever it was cut when it arrived. -/

/-- The blank line a head ends with. -/
def blankLine : Bytes := [13, 10, 13, 10]

/-- The length of the head at the start of a buffer, once it holds all of
it. -/
def headEnd : Bytes → Option ℕ
  | [] => none
  | b :: rest => if blankLine <+: b :: rest then some 4 else (headEnd rest).map (· + 1)

/-! ## The state of the layer

A side is generic in its codec: the inbound one keeps an inflater and the
outbound one a deflater, and the scan of frames is the same for both. -/

/-- What the layer keeps to inflate the frames that arrive, with its counters. -/
structure Inflating (I : Type) where
  /-- Whether the data message being received is compressed. -/
  inflating : Bool := false
  /-- Its decompressed size so far. -/
  inflated : ℕ := 0
  inflater : I
  bytesRecv : ℕ := 0
  wireBytesRecv : ℕ := 0
  deriving DecidableEq

/-- What the layer keeps to deflate the messages that are sent, with its
counters. The deflater is created on the first message it compresses. -/
structure Deflating (D : Type) where
  deflater : Option D := none
  bytesSent : ℕ := 0
  wireBytesSent : ℕ := 0
  deriving DecidableEq

/-- One direction of the layer. -/
structure Side (C : Type) where
  headDone : Bool := false
  codec : C
  /-- Rewritten bytes, not yet read by the caller or taken by the
  connection. -/
  ready : Bytes := []
  deriving DecidableEq

/-- A stream with permessage-deflate applied to its WebSocket frames. -/
structure DeflateStream (D I : Type) where
  role : Role
  /-- `none` until the response head has passed; then the agreed parameters,
  or `none` inside when the server declined. -/
  agreement : Option (Option Params) := none
  /-- Bytes read from the connection and not yet rewritten. -/
  rawIn : Bytes := []
  inbound : Side (Inflating I)
  /-- Bytes the caller wrote and not yet rewritten. -/
  rawOut : Bytes := []
  outbound : Side (Deflating D) := { codec := {} }
  /-- Handshakes of this stream that offered compression. -/
  offered : ℕ := 0
  /-- Handshakes of this stream whose server agreed. -/
  negotiated : ℕ := 0
  deriving DecidableEq

/-! ## Rewriting frames

One frame at a time: what it becomes, and what the state is behind it. -/

section Frames

variable {C D I : Type}

/-- The next frame of a buffer is rewritten behind `ready`, once it is
complete. A header that announces too large a payload is rejected at once. -/
def nextFrame (largest : Option ℕ) (rewrite : C → FrameHeader → Bytes → C × Except String Bytes)
    (s : Side C) (buf : Bytes) : Next (Side C) String :=
  match FrameHeader.parse buf with
  | none => .wait
  | some h =>
    if largest.any (· < h.payload) then .reject s "a compressed WebSocket frame is too large"
    else if buf.length < h.len + h.payload then .wait
    else match rewrite s.codec h (buf.take (h.len + h.payload)) with
      | (codec, .ok bytes) => .take { s with codec, ready := s.ready ++ bytes } (h.len + h.payload)
      | (codec, .error error) => .reject { s with codec } error

/-- An inbound frame: one of a compressed message is inflated and handed on
with RSV1 cleared and its new length, anything else as it is. The first frame
of a message says whether it is compressed. -/
def rewriteIn (z : Flate2 D I) (role : Role) (params : Params) (s : Inflating I) (h : FrameHeader)
    (frame : Bytes) : Inflating I × Except String Bytes :=
  let data := h.opcode < 8
  let s := if data ∧ h.opcode ≠ 0 then { s with inflating := h.rsv1, inflated := 0 } else s
  if data ∧ s.inflating then
    match inflate z s.inflater s.inflated (masked h.mask (frame.drop h.len)) h.fin with
    | (inflater, inflated, .error error) => ({ s with inflater, inflated }, .error error)
    | (inflater, inflated, .ok payload) =>
      ({ inflating := !h.fin
         inflated
         inflater := if h.fin ∧ params.resetInflater role then z.resetInflater inflater else inflater
         bytesRecv := s.bytesRecv + payload.length
         wireBytesRecv := s.wireBytesRecv + h.payload },
        .ok (h.write false payload.length ++ masked h.mask payload))
  else
    let counted := if data then h.payload else 0
    ({ s with
        bytesRecv := s.bytesRecv + counted
        wireBytesRecv := s.wireBytesRecv + counted }, .ok frame)

/-- An outbound frame: a message in one final frame is deflated and sent with
RSV1 set, when this end may compress; anything else passes as it is. -/
def rewriteOut (z : Flate2 D I) (role : Role) (params : Params) (s : Deflating D) (h : FrameHeader)
    (frame : Bytes) : Deflating D × Except String Bytes :=
  let message := h.opcode = 1 ∨ h.opcode = 2
  if params.canCompress role ∧ message ∧ h.fin ∧ ¬h.rsv1 then
    match deflate z s.deflater (masked h.mask (frame.drop h.len)) with
    | (deflater, .error error) => ({ s with deflater := some deflater }, .error error)
    | (deflater, .ok payload) =>
      ({ deflater := some (if params.resetDeflater role then z.resetDeflater deflater else deflater)
         bytesSent := s.bytesSent + h.payload
         wireBytesSent := s.wireBytesSent + payload.length },
        .ok (h.write true payload.length ++ masked h.mask payload))
  else
    let counted := if message then h.payload else 0
    ({ s with
        bytesSent := s.bytesSent + counted
        wireBytesSent := s.wireBytesSent + counted }, .ok frame)

/-- The next inbound frame, of a limited size, -/
def nextIn (z : Flate2 D I) (role : Role) (params : Params) :
    Side (Inflating I) → Bytes → Next (Side (Inflating I)) String :=
  nextFrame (some maxFrame) (rewriteIn z role params)

/-- and the next outbound one, of any. -/
def nextOut (z : Flate2 D I) (role : Role) (params : Params) :
    Side (Deflating D) → Bytes → Next (Side (Deflating D)) String :=
  nextFrame none (rewriteOut z role params)

/-- What becomes of the bytes behind a head: they wait while the agreement is
unknown, pass when it was declined, and are rewritten frame by frame
otherwise. The bytes of rewritten frames are dropped when all frames went
well. -/
def processFrames (next : Params → Side C → Bytes → Next (Side C) String)
    (agreement : Option (Option Params)) (side : Side C) (raw : Bytes) :
    Side C × Bytes × Except String Unit :=
  match agreement with
  | none => (side, raw, .ok ())
  | some none => ({ side with ready := side.ready ++ raw }, [], .ok ())
  | some (some params) =>
    let done := scan (next params) side raw
    match done.error with
    | some error => (done.state, raw, .error error)
    | none => (done.state, done.rest, .ok ())

end Frames

/-! ## The stream

The agreement is shared by both directions: bytes behind a head wait until the
response has passed. -/

/-- Whether the response head passes in a direction. -/
def carriesResponse (role : Role) (inbound : Bool) : Bool := inbound = decide (role = .client)

namespace DeflateStream

variable {D I : Type} (z : Flate2 D I)

/-- A stream before its handshake. -/
def new (role : Role) : DeflateStream D I where
  role
  inbound := { codec := { inflater := z.newInflater } }

/-- Whether compression was declined, so bytes pass through as they are. -/
def declined (s : DeflateStream D I) : Bool := s.agreement = some none

/-- What a complete head says: the response carries the agreement, the request
of a client its offer. -/
def readHead (s : DeflateStream D I) (inbound : Bool) (head : String) : DeflateStream D I :=
  if carriesResponse s.role inbound then
    let params := WsBlast.negotiated head
    { s with
      negotiated := s.negotiated + (if params.isSome then 1 else 0)
      agreement := some params }
  else if s.role = .client
      ∧ (header head "sec-websocket-extensions").any (fun v => (Params.parse v).isSome) then
    { s with offered := s.offered + 1 }
  else s

/-- Ends the HTTP head of one direction once its buffer holds all of it: moves
the head on unchanged. Returns whether the head ended. -/
def endHead (s : DeflateStream D I) (inbound : Bool) : DeflateStream D I × Except String Bool :=
  let buf := if inbound then s.rawIn else s.rawOut
  match headEnd buf with
  | none =>
    (s, if maxHead < buf.length then .error "the WebSocket handshake is too long" else .ok false)
  | some length =>
    let s := s.readHead inbound (fromUtf8Lossy (buf.take length))
    if inbound then
      ({ s with
          rawIn := buf.drop length
          inbound := { s.inbound with ready := s.inbound.ready ++ buf.take length } }, .ok true)
    else
      ({ s with
          rawOut := buf.drop length
          outbound := { s.outbound with ready := s.outbound.ready ++ buf.take length } }, .ok true)

/-- Rewrites the complete inbound frames in `rawIn` into `ready`. -/
def processIn (s : DeflateStream D I) : DeflateStream D I × Except String Unit :=
  match if s.inbound.headDone then (s, .ok true) else s.endHead true with
  | (s, .error error) => (s, .error error)
  | (s, .ok false) => (s, .ok ())
  | (s, .ok true) =>
    let (inbound, rawIn, result) :=
      processFrames (nextIn z s.role) s.agreement { s.inbound with headDone := true } s.rawIn
    ({ s with inbound, rawIn }, result)

/-- Rewrites the complete outbound frames in `rawOut` into `ready`. -/
def processOut (s : DeflateStream D I) : DeflateStream D I × Except String Unit :=
  match if s.outbound.headDone then (s, .ok true) else s.endHead false with
  | (s, .error error) => (s, .error error)
  | (s, .ok false) => (s, .ok ())
  | (s, .ok true) =>
    let (outbound, rawOut, result) :=
      processFrames (nextOut z s.role) s.agreement { s.outbound with headDone := true } s.rawOut
    ({ s with outbound, rawOut }, result)

end DeflateStream

/-! ## Reading and writing through the layer

The answers of the connection are part of the call, so that a run over any
connection is a list of calls. -/

/-- What the connection answers to a read: that there is nothing yet, the bytes
that have arrived (none at its end), or an error. -/
inductive ReadAnswer where
  | pending
  | data (bytes : Bytes)
  | failed (error : String)
  deriving DecidableEq, Repr

/-- How a pass of the reading loop ends: the read returns, or the loop goes
around. An error is the connection's or the layer's own. -/
inductive ReadOutcome where
  | returned (bytes : Bytes)
  | pending
  | failed (error : String)
  | rejected (error : String)
  | again
  deriving DecidableEq, Repr

/-- What the connection answers to a write: that it takes nothing yet, the
number of bytes it took, or an error. -/
inductive WriteAnswer where
  | pending
  | took (n : ℕ)
  | failed (error : String)
  deriving DecidableEq, Repr

/-- How a write or a flush ends. -/
inductive WriteOutcome where
  | done (n : ℕ)
  | pending
  | failed (error : String)
  | rejected (error : String)
  deriving DecidableEq, Repr

/-- What came of handing bytes to the connection, with the answers it did not
need. -/
structure Drain where
  sent : Bytes := []
  ready : Bytes
  answers : List WriteAnswer
  outcome : WriteOutcome

/-- Writes as much of `ready` to the connection as it takes. -/
def pollDrain : List WriteAnswer → Bytes → Drain
  | answers, [] => { ready := [], answers, outcome := .done 0 }
  | [], ready => { ready, answers := [], outcome := .pending }
  | .pending :: answers, ready => { ready, answers, outcome := .pending }
  | .failed error :: answers, ready => { ready, answers, outcome := .failed error }
  | .took 0 :: answers, ready => { ready, answers, outcome := .failed "write zero" }
  | .took (n + 1) :: answers, ready =>
    let drain := pollDrain answers (ready.drop (n + 1))
    { drain with sent := ready.take (n + 1) ++ drain.sent }

/-- The stream after a read pass, with the bytes read from the connection. -/
structure ReadPass (D I : Type) where
  stream : DeflateStream D I
  chunk : Bytes := []
  outcome : ReadOutcome
  deriving DecidableEq

/-- The stream after a write, a flush or a shutdown, with the bytes taken from
the caller and the bytes the connection took. -/
structure WritePass (D I : Type) where
  stream : DeflateStream D I
  written : Bytes := []
  sent : Bytes := []
  outcome : WriteOutcome
  deriving DecidableEq

namespace DeflateStream

variable {D I : Type} (z : Flate2 D I)

/-- The stream with other rewritten bytes for the caller. -/
def withReadyIn (s : DeflateStream D I) (ready : Bytes) : DeflateStream D I :=
  { s with inbound := { s.inbound with ready } }

/-- The stream with other rewritten bytes for the connection. -/
def withReadyOut (s : DeflateStream D I) (ready : Bytes) : DeflateStream D I :=
  { s with outbound := { s.outbound with ready } }

/-- One pass of `poll_read`, into a buffer with some room, up to its answer from
the connection. -/
def readPass (s : DeflateStream D I) (room : ℕ) (answer : ReadAnswer) : ReadPass D I :=
  if s.inbound.ready ≠ [] then
    { stream := s.withReadyIn (s.inbound.ready.drop room)
      outcome := .returned (s.inbound.ready.take room) }
  else
    -- Frames that waited for the agreement can go now.
    match if s.rawIn ≠ [] then s.processIn z else (s, .ok ()) with
    | (stream, .error error) => { stream, outcome := .rejected error }
    | (stream, .ok ()) =>
      if stream.inbound.ready ≠ [] then { stream, outcome := .again }
      else match answer with
        | .pending => { stream, outcome := .pending }
        | .failed error => { stream, outcome := .failed error }
        | .data bytes =>
          -- Declined: read straight into the caller's buffer.
          if stream.declined ∧ stream.rawIn = [] then
            { stream, chunk := bytes.take room, outcome := .returned (bytes.take room) }
          else
            let chunk := bytes.take readChunk
            if chunk = [] then { stream, outcome := .returned [] }
            else match processIn z { stream with rawIn := stream.rawIn ++ chunk } with
              | (stream, .error error) => { stream, chunk, outcome := .rejected error }
              | (stream, .ok ()) => { stream, chunk, outcome := .again }

/-- `poll_write`. -/
def pollWrite (s : DeflateStream D I) (buf : Bytes) (answers : List WriteAnswer) : WritePass D I :=
  let first := if highWater < s.outbound.ready.length then pollDrain answers s.outbound.ready
    else { ready := s.outbound.ready, answers, outcome := .done 0 }
  let s := s.withReadyOut first.ready
  match first.outcome with
  | .done _ =>
    -- Declined, with nothing queued: write straight through.
    if s.declined ∧ s.rawOut = [] ∧ s.outbound.ready = [] then
      match first.answers with
      | .took n :: _ =>
        { stream := s
          written := buf.take n
          sent := first.sent ++ buf.take n
          outcome := .done (buf.take n).length }
      | .failed error :: _ => { stream := s, sent := first.sent, outcome := .failed error }
      | _ => { stream := s, sent := first.sent, outcome := .pending }
    else
      match processOut z { s with rawOut := s.rawOut ++ buf } with
      | (s, .error error) =>
        { stream := s, written := buf, sent := first.sent, outcome := .rejected error }
      | (s, .ok ()) =>
        -- Whatever does not fit goes with the next write or the flush.
        let drain := pollDrain first.answers s.outbound.ready
        { stream := s.withReadyOut drain.ready
          written := buf
          sent := first.sent ++ drain.sent
          outcome := match drain.outcome with
            | .failed error => .failed error
            | _ => .done buf.length }
  | outcome => { stream := s, sent := first.sent, outcome }

/-- `poll_flush`, up to the connection's own flush. -/
def pollFlush (s : DeflateStream D I) (answers : List WriteAnswer) : WritePass D I :=
  match s.processOut z with
  | (s, .error error) => { stream := s, outcome := .rejected error }
  | (s, .ok ()) =>
    let drain := pollDrain answers s.outbound.ready
    { stream := s.withReadyOut drain.ready, sent := drain.sent, outcome := drain.outcome }

/-- `poll_shutdown`, up to the connection's own. -/
def pollShutdown (s : DeflateStream D I) (answers : List WriteAnswer) : WritePass D I :=
  let drain := pollDrain answers s.outbound.ready
  { stream := s.withReadyOut drain.ready, sent := drain.sent, outcome := drain.outcome }

end DeflateStream

end WsBlast
