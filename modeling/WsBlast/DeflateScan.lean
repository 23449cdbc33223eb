import WsBlast.DeflateStream
import WsBlast.Lib.FirstPrefix

/-!
# One direction of the layer as one scan

What the layer makes of one direction is one scan of its bytes from the
beginning: the head passes, and behind it every byte passes, or every frame is
rewritten, or all wait, as the agreement says (`nextSide`). The scan does not
depend on how the bytes arrive, and an agreement that comes late does not
change what was done before it (`nextSide_extends`).

`processIn` and `processOut` go as far in this scan as the bytes that wait
allow, with the agreement that is known then (`processIn_spec`,
`processOut_spec`). They do not when the head is too long, and when a frame is
rejected the bytes of the frames before it are not dropped.

The layer is described a second time, without buffers and polls. For one
direction there is a step function on the state of the side and the bytes that
are not yet rewritten, and a scan takes steps until there are none to take.
-/

namespace WsBlast

open Scanner

/-! ## Where a head ends

The first blank line is the first place where four given bytes are, which is an
instance of `FirstPrefix`: what it says about more bytes and fewer ones is used
here. -/

/-- A head ends with the first blank line. -/
theorem finds_headEnd (buf : Bytes) : FirstPrefix.Finds (headEnd buf) (blankLine <:+ ·) buf := by
  have hend : headEnd buf = FirstPrefix.endOf blankLine buf := by
    unfold FirstPrefix.endOf
    induction buf with
    | nil => rfl
    | cons b rest ih =>
      rw [headEnd, ih, List.tails_cons, List.findIdx?_cons]
      by_cases hblank : blankLine <+: b :: rest
      · rw [if_pos hblank, if_pos (decide_eq_true hblank)]
        rfl
      · rw [if_neg hblank, if_neg (by simpa using hblank), Option.map_map, Option.map_map]
        exact congrArg (fun next => Option.map next _) (funext fun i => Nat.add_right_comm i _ _)
  rw [hend]
  exact FirstPrefix.finds_endOf blankLine buf

theorem headEnd_le {buf : Bytes} {n : ℕ} (h : headEnd buf = some n) : 4 ≤ n ∧ n ≤ buf.length := by
  have hfirst := (finds_headEnd buf n).mp h
  have hsuffix := hfirst.1.2.length_le
  rw [List.length_take_of_le hfirst.le] at hsuffix
  exact ⟨hsuffix, hfirst.le⟩

/-- More bytes behind a head do not change where it ends. -/
theorem headEnd_append {buf : Bytes} {n : ℕ} (h : headEnd buf = some n) (more : Bytes) :
    headEnd (buf ++ more) = some n :=
  (finds_headEnd _ n).mpr (((finds_headEnd buf n).mp h).append more)

/-- A head ends where it ends without the bytes behind it. -/
theorem headEnd_take {buf : Bytes} {n : ℕ} (h : headEnd buf = some n) :
    headEnd (buf.take n) = some n :=
  (finds_headEnd _ n).mpr ((finds_headEnd buf n).mp h).take

/-- The head at the start of a stream. -/
def headOf (bytes : Bytes) : Option Bytes := (headEnd bytes).map (bytes.take ·)

/-- The agreement a stream of bytes carries, when it is the one with the
response. -/
def responseAgreement (bytes : Bytes) : Option (Option Params) :=
  (headOf bytes).map fun head => negotiated (fromUtf8Lossy head)

/-- The layer waits for the head of a stream, however it is cut. -/
def HeadFits (bytes : Bytes) : Prop := (headEnd bytes).any (· ≤ maxHead) = true

instance (bytes : Bytes) : Decidable (HeadFits bytes) := by
  unfold HeadFits
  infer_instance

theorem headOf_append {bytes : Bytes} {head : Bytes} (h : headOf bytes = some head)
    (more : Bytes) : headOf (bytes ++ more) = some head := by
  obtain ⟨n, hn, rfl⟩ := Option.map_eq_some_iff.mp h
  unfold headOf
  rw [headEnd_append hn more, Option.map_some, List.take_append_of_le_length (headEnd_le hn).2]

/-- A part of a stream without its head is short. -/
theorem HeadFits.short {bytes part : Bytes} (h : HeadFits bytes) (hpart : part <+: bytes)
    (hend : headEnd part = none) : part.length ≤ maxHead := by
  obtain ⟨more, rfl⟩ := hpart
  unfold HeadFits at h
  obtain ⟨n, htotal, hn⟩ := (Option.any_eq_true _ _).mp h
  by_contra hlong
  have hn : n ≤ maxHead := of_decide_eq_true hn
  have htake := headEnd_take htotal
  rw [List.take_append_of_le_length (by omega)] at htake
  have hpart := headEnd_append htake (part.drop n)
  rw [List.take_append_drop, hend] at hpart
  cases hpart

/-! ## One direction as one scan

`Side.behind` puts bytes in front of what a side has ready. -/

section Scans

variable {C : Type}

/-- A side with bytes in front of its rewritten ones. -/
def Side.behind (s : Side C) (before : Bytes) : Side C := { s with ready := before ++ s.ready }

@[simp] theorem Side.behind_headDone (s : Side C) (before : Bytes) :
    (s.behind before).headDone = s.headDone := rfl

@[simp] theorem Side.behind_codec (s : Side C) (before : Bytes) :
    (s.behind before).codec = s.codec := rfl

@[simp] theorem Side.behind_ready (s : Side C) (before : Bytes) :
    (s.behind before).ready = before ++ s.ready := rfl

/-- Bytes that go from the side to those in front of it. -/
theorem Side.behind_moved (s : Side C) {before moved left : Bytes} (h : moved ++ left = s.ready) :
    Side.behind { s with ready := left } (before ++ moved) = s.behind before := by
  unfold Side.behind
  dsimp only
  rw [List.append_assoc, h]

/-- Bytes that pass a side with nothing ready. -/
theorem Side.behind_passed (s : Side C) (before : Bytes) {more : Bytes} (h : s.ready = []) :
    s.behind (before ++ more)
      = { s.behind before with ready := (s.behind before).ready ++ more } := by
  unfold Side.behind
  dsimp only
  rw [h, List.append_nil, List.append_nil]

section NextFrame

variable {largest : Option ℕ} {rewrite : C → FrameHeader → Bytes → C × Except String Bytes}

/-- **What the next step with a frame is**: it depends on the frame alone. -/
theorem nextFrame_cases (s : Side C) (buf : Bytes) :
    nextFrame largest rewrite s buf = .wait
    ∨ ∃ h, FrameHeader.parse buf = some h
      ∧ ((largest.any (· < h.payload) = true ∧ nextFrame largest rewrite s buf
            = .reject s "a compressed WebSocket frame is too large")
        ∨ (largest.any (· < h.payload) = false ∧ h.len + h.payload ≤ buf.length
          ∧ nextFrame largest rewrite s buf
            = match rewrite s.codec h (buf.take (h.len + h.payload)) with
              | (codec, .ok bytes) =>
                .take { s with codec, ready := s.ready ++ bytes } (h.len + h.payload)
              | (codec, .error error) => .reject { s with codec } error)) := by
  unfold nextFrame
  cases FrameHeader.parse buf with
  | none => exact Or.inl rfl
  | some h =>
    dsimp only
    by_cases hlarge : largest.any (· < h.payload) = true
    · exact Or.inr ⟨h, rfl, Or.inl ⟨hlarge, if_pos hlarge⟩⟩
    · rw [if_neg hlarge]
      by_cases hshort : buf.length < h.len + h.payload
      · exact Or.inl (if_pos hshort)
      · exact Or.inr ⟨h, rfl, Or.inr ⟨by simpa using hlarge, by omega, if_neg hshort⟩⟩

/-- A complete frame is rewritten whatever is behind it. -/
theorem nextFrame_append {s : Side C} {buf : Bytes} {h : FrameHeader}
    (hparse : FrameHeader.parse buf = some h) (hsmall : largest.any (· < h.payload) = false)
    (hle : h.len + h.payload ≤ buf.length) (more : Bytes) :
    nextFrame largest rewrite s (buf ++ more) = nextFrame largest rewrite s buf := by
  have hparse' := FrameHeader.parse_append hparse more
  unfold nextFrame
  rw [hparse, hparse']
  dsimp only
  rw [hsmall, List.take_append_of_le_length hle, List.length_append,
    if_neg (by omega : ¬buf.length < h.len + h.payload),
    if_neg (by omega : ¬buf.length + more.length < h.len + h.payload)]

theorem nextFrame_progresses : Progresses (nextFrame largest rewrite) where
  bound := by
    intro s s' buf n hstep
    rcases nextFrame_cases s buf with hwait | ⟨h, hparse, ⟨-, hreject⟩ | ⟨-, hle, hframe⟩⟩
    · rw [hwait] at hstep
      cases hstep
    · rw [hreject] at hstep
      cases hstep
    · rw [hframe] at hstep
      have hlen := FrameHeader.parse_length hparse
      split at hstep
      · cases hstep
        omega
      · cases hstep

theorem nextFrame_steady : Steady (nextFrame largest rewrite) where
  same := by
    intro s buf hwait more
    rcases nextFrame_cases s buf with hwait' | ⟨h, hparse, ⟨hlarge, hreject⟩ | ⟨hsmall, hle, -⟩⟩
    · exact absurd hwait' hwait
    · rw [hreject]
      unfold nextFrame
      rw [FrameHeader.parse_append hparse more]
      exact if_pos hlarge
    · exact nextFrame_append hparse hsmall hle more

theorem nextFrame_exact : Exact (nextFrame largest rewrite) where
  alone := by
    intro s s' buf n hstep
    rcases nextFrame_cases s buf with hwait | ⟨h, hparse, ⟨-, hreject⟩ | ⟨hsmall, hle, hframe⟩⟩
    · rw [hwait] at hstep
      cases hstep
    · rw [hreject] at hstep
      cases hstep
    · have hn : n = h.len + h.payload := by
        rw [hframe] at hstep
        split at hstep
        · cases hstep
          rfl
        · cases hstep
      have hparse' := FrameHeader.parse_take hparse (Nat.le_add_right h.len h.payload)
      have hle' : h.len + h.payload ≤ (buf.take (h.len + h.payload)).length := by
        rw [List.length_take]
        omega
      have happend : nextFrame largest rewrite s (buf.take (h.len + h.payload)
          ++ buf.drop (h.len + h.payload)) = _ :=
        nextFrame_append hparse' hsmall hle' (buf.drop (h.len + h.payload))
      rw [List.take_append_drop] at happend
      rw [hn, ← happend, hstep, hn]

/-- The bytes that were rewritten before do not matter. -/
theorem nextFrame_behind (before : Bytes) (s : Side C) (buf : Bytes) :
    nextFrame largest rewrite (s.behind before) buf
      = (nextFrame largest rewrite s buf).map (Side.behind · before) := by
  unfold nextFrame
  cases FrameHeader.parse buf with
  | none => rfl
  | some h =>
    dsimp only
    split
    · rfl
    · split
      · rfl
      · rw [Side.behind_codec]
        split
        · simp only [Next.map, Side.behind, List.append_assoc]
        · rfl

theorem nextFrame_headDone (s : Side C) (buf : Bytes) :
    ((nextFrame largest rewrite s buf).target s).headDone = s.headDone := by
  rcases nextFrame_cases s buf with hwait | ⟨h, -, ⟨-, hreject⟩ | ⟨-, -, hframe⟩⟩
  · rw [hwait]
    rfl
  · rw [hreject]
    rfl
  · rw [hframe]
    split <;> rfl

end NextFrame

/-- What the frames of a direction are rewritten with. -/
structure RewritesFrames (next : Params → Side C → Bytes → Next (Side C) String) : Prop where
  progresses : ∀ params, Progresses (next params)
  steady : ∀ params, Steady (next params)
  exact : ∀ params, Exact (next params)
  behind : ∀ params before s buf,
    next params (s.behind before) buf = (next params s buf).map (Side.behind · before)
  headDone : ∀ params s buf, ((next params s buf).target s).headDone = s.headDone
  nil : ∀ params s, next params s [] = .wait

theorem rewritesFrames (largest : Option ℕ)
    (rewrite : Params → C → FrameHeader → Bytes → C × Except String Bytes) :
    RewritesFrames fun params => nextFrame largest (rewrite params) where
  progresses _ := nextFrame_progresses
  steady _ := nextFrame_steady
  exact _ := nextFrame_exact
  behind _ before s buf := nextFrame_behind before s buf
  headDone _ s buf := nextFrame_headDone s buf
  nil _ _ := rfl

/-- The next step of a direction whose agreement is known, or not yet: the head
passes, and behind it bytes wait, pass or are rewritten. -/
def nextSide (next : Params → Side C → Bytes → Next (Side C) String)
    (agreement : Option (Option Params)) (s : Side C) (buf : Bytes) : Next (Side C) String :=
  if s.headDone then
    match agreement, buf with
    | none, _ => .wait
    | some none, [] => .wait
    | some none, b :: _ => .take { s with ready := s.ready ++ [b] } 1
    | some (some params), buf => next params s buf
  else match headEnd buf with
    | none => .wait
    | some n => .take { s with headDone := true, ready := s.ready ++ buf.take n } n

section NextSide

variable {next : Params → Side C → Bytes → Next (Side C) String}
  {agreement : Option (Option Params)} {s : Side C} {buf : Bytes}

theorem nextSide_head {n : ℕ} (hs : s.headDone = false) (hend : headEnd buf = some n) :
    nextSide next agreement s buf
      = .take { s with headDone := true, ready := s.ready ++ buf.take n } n := by
  unfold nextSide
  rw [hs, hend]
  rfl

theorem nextSide_noHead (hs : s.headDone = false) (hend : headEnd buf = none) :
    nextSide next agreement s buf = .wait := by
  unfold nextSide
  rw [hs, hend]
  rfl

theorem nextSide_waits (hs : s.headDone = true) : nextSide next none s buf = .wait := by
  unfold nextSide
  rw [if_pos hs]

theorem nextSide_passes (hs : s.headDone = true) (b : UInt8) (rest : Bytes) :
    nextSide next (some none) s (b :: rest) = .take { s with ready := s.ready ++ [b] } 1 := by
  unfold nextSide
  rw [if_pos hs]

theorem nextSide_frames {params : Params} (hs : s.headDone = true) (buf : Bytes) :
    nextSide next (some (some params)) s buf = next params s buf := by
  unfold nextSide
  rw [if_pos hs]

theorem nextSide_progresses (hnext : RewritesFrames next) (agreement : Option (Option Params)) :
    Progresses (nextSide next agreement) where
  bound := by
    intro s s' buf n hstep
    cases hs : s.headDone with
    | false =>
      cases hend : headEnd buf with
      | none =>
        rw [nextSide_noHead hs hend] at hstep
        cases hstep
      | some m =>
        have hle := headEnd_le hend
        rw [nextSide_head hs hend] at hstep
        cases hstep
        omega
    | true =>
      match agreement, buf, hstep with
      | none, buf, hstep =>
        rw [nextSide_waits hs] at hstep
        cases hstep
      | some none, [], hstep =>
        unfold nextSide at hstep
        rw [if_pos hs] at hstep
        cases hstep
      | some none, b :: rest, hstep =>
        rw [nextSide_passes hs] at hstep
        cases hstep
        simp
      | some (some params), buf, hstep =>
        rw [nextSide_frames hs] at hstep
        exact (hnext.progresses params).bound hstep

/-- **An agreement does not change what was done before it was known.** -/
theorem nextSide_extends (hnext : RewritesFrames next) {known agreement : Option (Option Params)}
    (hknown : known = none ∨ known = agreement) :
    Extends (nextSide next known) (nextSide next agreement) where
  same := by
    intro s buf hwait more
    cases hs : s.headDone with
    | false =>
      cases hend : headEnd buf with
      | none => exact absurd (nextSide_noHead hs hend) hwait
      | some n =>
        rw [nextSide_head hs hend, nextSide_head hs (headEnd_append hend more),
          List.take_append_of_le_length (headEnd_le hend).2]
    | true =>
      -- while the agreement is unknown every byte behind the head waits
      rcases hknown with rfl | rfl
      · exact absurd (nextSide_waits hs) hwait
      · match known, buf, hwait with
        | none, buf, hwait => exact absurd (nextSide_waits hs) hwait
        | some none, [], hwait =>
          refine absurd ?_ hwait
          unfold nextSide
          rw [if_pos hs]
        | some none, b :: rest, hwait =>
          rw [List.cons_append, nextSide_passes hs, nextSide_passes hs]
        | some (some params), buf, hwait =>
          rw [nextSide_frames hs] at hwait
          rw [nextSide_frames hs, nextSide_frames hs]
          exact (hnext.steady params).same hwait more

theorem nextSide_steady (hnext : RewritesFrames next) (agreement : Option (Option Params)) :
    Steady (nextSide next agreement) :=
  nextSide_extends hnext (Or.inr rfl)

theorem nextSide_exact (hnext : RewritesFrames next) (agreement : Option (Option Params)) :
    Exact (nextSide next agreement) where
  alone := by
    intro s s' buf n hstep
    cases hs : s.headDone with
    | false =>
      cases hend : headEnd buf with
      | none =>
        rw [nextSide_noHead hs hend] at hstep
        cases hstep
      | some m =>
        rw [nextSide_head hs hend] at hstep
        cases hstep
        rw [nextSide_head hs (headEnd_take hend), List.take_take, Nat.min_self]
    | true =>
      match agreement, buf, hstep with
      | none, buf, hstep =>
        rw [nextSide_waits hs] at hstep
        cases hstep
      | some none, [], hstep =>
        unfold nextSide at hstep
        rw [if_pos hs] at hstep
        cases hstep
      | some none, b :: rest, hstep =>
        rw [nextSide_passes hs] at hstep
        cases hstep
        exact nextSide_passes hs b []
      | some (some params), buf, hstep =>
        rw [nextSide_frames hs] at hstep
        rw [nextSide_frames hs]
        exact (hnext.exact params).alone hstep

theorem nextSide_behind (hnext : RewritesFrames next) (agreement : Option (Option Params))
    (before : Bytes) (s : Side C) (buf : Bytes) :
    nextSide next agreement (s.behind before) buf
      = (nextSide next agreement s buf).map (Side.behind · before) := by
  cases hs : s.headDone with
  | false =>
    cases hend : headEnd buf with
    | none =>
      rw [nextSide_noHead hs hend, nextSide_noHead (by rw [Side.behind_headDone, hs]) hend]
      rfl
    | some n =>
      rw [nextSide_head hs hend, nextSide_head (by rw [Side.behind_headDone, hs]) hend]
      simp only [Next.map, Side.behind, List.append_assoc]
  | true =>
    have hs' : (s.behind before).headDone = true := by rw [Side.behind_headDone, hs]
    match agreement, buf with
    | none, buf =>
      rw [nextSide_waits hs, nextSide_waits hs']
      rfl
    | some none, [] =>
      unfold nextSide
      rw [if_pos hs, if_pos hs']
      rfl
    | some none, b :: rest =>
      rw [nextSide_passes hs, nextSide_passes hs']
      simp only [Next.map, Side.behind, List.append_assoc]
    | some (some params), buf =>
      rw [nextSide_frames hs, nextSide_frames hs']
      exact hnext.behind params before s buf

theorem nextSide_nil (hnext : RewritesFrames next) (agreement : Option (Option Params))
    (s : Side C) : nextSide next agreement s [] = .wait := by
  cases hs : s.headDone with
  | false => exact nextSide_noHead hs rfl
  | true =>
    match agreement with
    | none => exact nextSide_waits hs
    | some none =>
      unfold nextSide
      rw [if_pos hs]
    | some (some params) => exact (nextSide_frames hs []).trans (hnext.nil params s)

/-- The bytes that were rewritten before do not matter. -/
theorem scan_behind (hnext : RewritesFrames next) (agreement : Option (Option Params))
    (before : Bytes) (s : Side C) (buf : Bytes) :
    scan (nextSide next agreement) (s.behind before) buf
      = (scan (nextSide next agreement) s buf).map (Side.behind · before) :=
  scan_map (nextSide_behind hnext agreement before) s buf

/-- **Every byte passes once compression was declined.** -/
theorem scan_declined (hnext : RewritesFrames next) (hs : s.headDone = true) (buf : Bytes) :
    scan (nextSide next (some none)) s buf = ⟨{ s with ready := s.ready ++ buf }, [], none⟩ := by
  induction buf generalizing s with
  | nil =>
    rw [List.append_nil]
    refine scan_wait ?_
    unfold nextSide
    rw [if_pos hs]
  | cons b rest ih =>
    have hrest : scan (nextSide next (some none)) { s with ready := s.ready ++ [b] } rest
        = ⟨{ s with ready := s.ready ++ [b] ++ rest }, [], none⟩ := ih hs
    rw [scan_take (nextSide_progresses hnext _) (nextSide_passes hs b rest)]
    show scan _ _ rest = _
    rw [hrest, List.append_assoc]
    rfl

/-- Behind the head of an agreed connection, there are only frames. -/
theorem scan_agreed (hnext : RewritesFrames next) {params : Params} (hs : s.headDone = true)
    (buf : Bytes) :
    scan (nextSide next (some (some params))) s buf = scan (next params) s buf :=
  scan_congr (·.headDone = true) (fun hs => nextSide_frames hs)
    (fun hs input => (hnext.headDone params _ input).trans hs) hs buf

end NextSide

/-! ## What a call of the program makes of a side

`processSide` is what the source does for a side: the head if it has not passed,
and then the loop over the frames. -/

/-- What `processIn` and `processOut` make of the agreement and of their side,
and of the bytes that wait. `response` says that the side carries the
response. -/
def processSide (response : Bool) (next : Params → Side C → Bytes → Next (Side C) String)
    (agreement : Option (Option Params)) (side : Side C) (raw : Bytes) :
    Option (Option Params) × Side C × Bytes × Except String Unit :=
  if side.headDone then (agreement, processFrames next agreement side raw)
  else match headEnd raw with
    | none =>
      (agreement, side, raw,
        if maxHead < raw.length then .error "the WebSocket handshake is too long" else .ok ())
    | some n =>
      let agreement := if response then some (negotiated (fromUtf8Lossy (raw.take n)))
        else agreement
      (agreement, processFrames next agreement
        { side with headDone := true, ready := side.ready ++ raw.take n } (raw.drop n))

/-- What becomes of a side: its scan goes as far as it can. -/
inductive Processed (next : Params → Side C → Bytes → Next (Side C) String)
    (agreement : Option (Option Params)) (side : Side C) (raw : Bytes) :
    Side C → Bytes → Except String Unit → Prop where
  | rewritten {side' : Side C} {raw' : Bytes}
      (scanned : scan (nextSide next agreement) side raw = ⟨side', raw', none⟩) :
      Processed next agreement side raw side' raw' (.ok ())
  | tooLong {error : String} (noHead : side.headDone = false) (waits : headEnd raw = none)
      (long : maxHead < raw.length) : Processed next agreement side raw side raw (.error error)
  /-- The bytes of the frames before the rejected one are not dropped. -/
  | rejected {side' : Side C} {rest raw' : Bytes} {error : String}
      (scanned : scan (nextSide next agreement) side raw = ⟨side', rest, some error⟩)
      (kept : side.headDone = true → raw' = raw) :
      Processed next agreement side raw side' raw' (.error error)

/-- What becomes of a side and of the agreement. -/
structure ProcessedSide (response : Bool)
    (next : Params → Side C → Bytes → Next (Side C) String) (agreement : Option (Option Params))
    (side : Side C) (raw : Bytes) (agreement' : Option (Option Params)) (side' : Side C)
    (raw' : Bytes) (result : Except String Unit) : Prop where
  agreed : agreement' = if response ∧ side.headDone = false then
    (responseAgreement raw).or agreement else agreement
  head : side'.headDone = (side.headDone || (headEnd raw).isSome)
  waits : side'.headDone = false → raw' = raw ∧ side' = side
  processed : Processed next agreement' side raw side' raw' result

theorem processFrames_processed {next : Params → Side C → Bytes → Next (Side C) String}
    (hnext : RewritesFrames next) (agreement : Option (Option Params)) {side : Side C}
    (hs : side.headDone = true) (raw : Bytes) :
    Processed next agreement side raw (processFrames next agreement side raw).1
      (processFrames next agreement side raw).2.1 (processFrames next agreement side raw).2.2
    ∧ (processFrames next agreement side raw).1.headDone = true := by
  match agreement with
  | none => exact ⟨.rewritten (scan_wait (nextSide_waits hs)), hs⟩
  | some none => exact ⟨.rewritten (scan_declined hnext hs raw), hs⟩
  | some (some params) =>
    have hdone : (scan (next params) side raw).state.headDone = true :=
      scan_inv (Side.headDone · = true)
        (fun hs input => (hnext.headDone params _ input).trans hs) hs raw
    have hscan : scan (nextSide next (some (some params))) side raw = scan (next params) side raw :=
      scan_agreed hnext hs raw
    unfold processFrames
    dsimp only
    generalize scan (next params) side raw = final at hdone hscan
    obtain ⟨state, rest, error⟩ := final
    cases error with
    | none => exact ⟨.rewritten hscan, hdone⟩
    | some error => exact ⟨.rejected hscan fun _ => rfl, hdone⟩

/-- Behind the head, a call goes as far as the scan, and leaves all bytes when a
frame is rejected. -/
theorem Processed.behindHead {next : Params → Side C → Bytes → Next (Side C) String}
    {agreement : Option (Option Params)} {side side' : Side C} {raw raw' : Bytes}
    {result : Except String Unit} (h : Processed next agreement side raw side' raw' result)
    (hs : side.headDone = true) :
    (result = .ok () ∧ scan (nextSide next agreement) side raw = ⟨side', raw', none⟩)
      ∨ ∃ error rest, result = .error error ∧ raw' = raw
        ∧ scan (nextSide next agreement) side raw = ⟨side', rest, some error⟩ := by
  cases h with
  | rewritten scanned => exact Or.inl ⟨rfl, scanned⟩
  | tooLong noHead =>
    rw [hs] at noHead
    cases noHead
  | rejected scanned kept => exact Or.inr ⟨_, _, rfl, kept hs, scanned⟩

/-- **What becomes of a side.** -/
theorem processSide_spec {next : Params → Side C → Bytes → Next (Side C) String}
    (hnext : RewritesFrames next) (response : Bool) (agreement : Option (Option Params))
    (side : Side C) (raw : Bytes) :
    ProcessedSide response next agreement side raw (processSide response next agreement side raw).1
      (processSide response next agreement side raw).2.1
      (processSide response next agreement side raw).2.2.1
      (processSide response next agreement side raw).2.2.2 := by
  unfold processSide
  cases hs : side.headDone with
  | true =>
    obtain ⟨hprocessed, hdone⟩ := processFrames_processed hnext agreement hs raw
    refine ⟨?_, ?_, fun hnot => ?_, hprocessed⟩
    · simp [hs]
    · rw [if_pos rfl, hs, Bool.true_or, hdone]
    · rw [if_pos rfl, hdone] at hnot
      cases hnot
  | false =>
    simp only [Bool.false_eq_true, if_false]
    cases hend : headEnd raw with
    | none =>
      refine ⟨?_, by simp [hs, hend], fun _ => ⟨rfl, rfl⟩, ?_⟩
      · simp [responseAgreement, headOf, hend]
      · dsimp only
        split
        · exact .tooLong hs hend ‹_›
        · exact .rewritten (scan_wait (nextSide_noHead hs hend))
    | some n =>
      dsimp only
      set agreement' := if response then some (negotiated (fromUtf8Lossy (raw.take n)))
        else agreement
      have hhead :
          ({ side with headDone := true, ready := side.ready ++ raw.take n } : Side C).headDone
            = true := rfl
      obtain ⟨hprocessed, hdone⟩ := processFrames_processed hnext agreement' hhead (raw.drop n)
      -- passing the head is the first step of the scan
      have hfirst : scan (nextSide next agreement') side raw
          = scan (nextSide next agreement')
            { side with headDone := true, ready := side.ready ++ raw.take n } (raw.drop n) :=
        scan_take (nextSide_progresses hnext agreement') (nextSide_head hs hend)
      refine ⟨?_, ?_, fun hnot => ?_, ?_⟩
      · cases response <;> simp [agreement', responseAgreement, headOf, hend, hs]
      · rw [hdone, hs, hend]
        rfl
      · rw [hdone] at hnot
        cases hnot
      · generalize processFrames next agreement' _ (raw.drop n) = r at hprocessed
        obtain ⟨side', raw', result⟩ := r
        cases hprocessed with
        | rewritten scanned => exact .rewritten (hfirst.trans scanned)
        | tooLong noHead => cases noHead
        | rejected scanned _ =>
          refine .rejected (hfirst.trans scanned) fun hnot => ?_
          rw [hs] at hnot
          cases hnot

end Scans

namespace DeflateStream

variable {D I : Type} {z : Flate2 D I} (s : DeflateStream D I)

section ReadHead

variable (inbound : Bool) (head : String)

theorem readHead_agreement :
    (s.readHead inbound head).agreement
      = if carriesResponse s.role inbound then some (WsBlast.negotiated head) else s.agreement := by
  unfold readHead
  split
  · rfl
  · split <;> rfl

/-- What a head says changes nothing else. -/
theorem readHead_rest :
    (s.readHead inbound head).role = s.role
      ∧ (s.readHead inbound head).rawIn = s.rawIn ∧ (s.readHead inbound head).inbound = s.inbound
      ∧ (s.readHead inbound head).rawOut = s.rawOut
      ∧ (s.readHead inbound head).outbound = s.outbound := by
  unfold readHead
  split
  · exact ⟨rfl, rfl, rfl, rfl, rfl⟩
  · split <;> exact ⟨rfl, rfl, rfl, rfl, rfl⟩

end ReadHead

variable (z) in
/-- What a call of `processIn` does when some more bytes have arrived: it
processes the inbound side and leaves the outbound one. -/
structure ProcessedIn (chunk : Bytes) (t : DeflateStream D I) (result : Except String Unit) :
    Prop where
  role : t.role = s.role
  outbound : t.outbound = s.outbound
  rawOut : t.rawOut = s.rawOut
  side : ProcessedSide (carriesResponse s.role true) (nextIn z s.role) s.agreement s.inbound
    (s.rawIn ++ chunk) t.agreement t.inbound t.rawIn result

variable (z) in
/-- What a call of `processOut` does when the caller has written some more
bytes. -/
structure ProcessedOut (chunk : Bytes) (t : DeflateStream D I) (result : Except String Unit) :
    Prop where
  role : t.role = s.role
  inbound : t.inbound = s.inbound
  rawIn : t.rawIn = s.rawIn
  side : ProcessedSide (carriesResponse s.role false) (nextOut z s.role) s.agreement s.outbound
    (s.rawOut ++ chunk) t.agreement t.outbound t.rawOut result

theorem rewritesFrames_nextIn (role : Role) : RewritesFrames (nextIn z role) :=
  rewritesFrames (some maxFrame) (rewriteIn z role)

theorem rewritesFrames_nextOut (role : Role) : RewritesFrames (nextOut z role) :=
  rewritesFrames none (rewriteOut z role)

theorem processIn_spec : s.ProcessedIn z [] (s.processIn z).1 (s.processIn z).2 := by
  have hspec := processSide_spec (@rewritesFrames_nextIn D I z s.role) (carriesResponse s.role true)
    s.agreement s.inbound s.rawIn
  have hdone : ∀ side : Side (Inflating I), side.headDone = true →
      { side with headDone := true } = side := fun side h => by rw [← h]
  unfold processSide at hspec
  unfold processIn
  cases hs : s.inbound.headDone with
  | true =>
    rw [hs] at hspec
    simp only [if_true, hdone _ hs] at hspec ⊢
    exact ⟨rfl, rfl, rfl, by rw [List.append_nil]; exact hspec⟩
  | false =>
    rw [hs] at hspec
    simp only [Bool.false_eq_true, if_false] at hspec ⊢
    unfold endHead
    cases hend : headEnd s.rawIn with
    | none =>
      rw [hend] at hspec
      simp only [if_true, hend] at hspec ⊢
      by_cases hlong : maxHead < s.rawIn.length
      · rw [if_pos hlong] at hspec ⊢
        exact ⟨rfl, rfl, rfl, by rw [List.append_nil]; exact hspec⟩
      · rw [if_neg hlong] at hspec ⊢
        exact ⟨rfl, rfl, rfl, by rw [List.append_nil]; exact hspec⟩
    | some n =>
      rw [hend] at hspec
      obtain ⟨hrole, -, hinbound, hrawOut, houtbound⟩ :=
        s.readHead_rest true (fromUtf8Lossy (s.rawIn.take n))
      simp only [if_true, hend, hrole, hinbound, readHead_agreement] at hspec ⊢
      exact ⟨rfl, houtbound, hrawOut, by rw [List.append_nil]; exact hspec⟩

theorem processOut_spec : s.ProcessedOut z [] (s.processOut z).1 (s.processOut z).2 := by
  have hspec := processSide_spec (@rewritesFrames_nextOut D I z s.role)
    (carriesResponse s.role false) s.agreement s.outbound s.rawOut
  have hdone : ∀ side : Side (Deflating D), side.headDone = true →
      { side with headDone := true } = side := fun side h => by rw [← h]
  unfold processSide at hspec
  unfold processOut
  cases hs : s.outbound.headDone with
  | true =>
    rw [hs] at hspec
    simp only [if_true, hdone _ hs] at hspec ⊢
    exact ⟨rfl, rfl, rfl, by rw [List.append_nil]; exact hspec⟩
  | false =>
    rw [hs] at hspec
    simp only [Bool.false_eq_true, if_false] at hspec ⊢
    unfold endHead
    simp only [Bool.false_eq_true, if_false]
    cases hend : headEnd s.rawOut with
    | none =>
      rw [hend] at hspec
      dsimp only at hspec ⊢
      by_cases hlong : maxHead < s.rawOut.length
      · rw [if_pos hlong] at hspec ⊢
        exact ⟨rfl, rfl, rfl, by rw [List.append_nil]; exact hspec⟩
      · rw [if_neg hlong] at hspec ⊢
        exact ⟨rfl, rfl, rfl, by rw [List.append_nil]; exact hspec⟩
    | some n =>
      rw [hend] at hspec
      obtain ⟨hrole, hrawIn, hinbound, -, houtbound⟩ :=
        s.readHead_rest false (fromUtf8Lossy (s.rawOut.take n))
      simp only [hrole, houtbound, readHead_agreement] at hspec ⊢
      exact ⟨rfl, hinbound, hrawIn, by rw [List.append_nil]; exact hspec⟩

/-- The same with bytes that have just arrived. -/
theorem processIn_chunk (chunk : Bytes) :
    s.ProcessedIn z chunk (processIn z { s with rawIn := s.rawIn ++ chunk }).1
      (processIn z { s with rawIn := s.rawIn ++ chunk }).2 := by
  obtain ⟨hrole, houtbound, hrawOut, hside⟩ :=
    processIn_spec (z := z) { s with rawIn := s.rawIn ++ chunk }
  rw [List.append_nil] at hside
  exact ⟨hrole, houtbound, hrawOut, hside⟩

theorem processOut_chunk (chunk : Bytes) :
    s.ProcessedOut z chunk (processOut z { s with rawOut := s.rawOut ++ chunk }).1
      (processOut z { s with rawOut := s.rawOut ++ chunk }).2 := by
  obtain ⟨hrole, hinbound, hrawIn, hside⟩ :=
    processOut_spec (z := z) { s with rawOut := s.rawOut ++ chunk }
  rw [List.append_nil] at hside
  exact ⟨hrole, hinbound, hrawIn, hside⟩

/-- Without bytes, nothing is processed. -/
theorem processedIn_nil (hraw : s.rawIn = []) : s.ProcessedIn z [] s (.ok ()) where
  role := rfl
  outbound := rfl
  rawOut := rfl
  side := by
    rw [hraw]
    refine ⟨?_, ?_, fun _ => ⟨rfl, rfl⟩, .rewritten (scan_wait ?_)⟩
    · show s.agreement = if _ then (none : Option (Option Params)).or s.agreement else s.agreement
      rw [Option.none_or, ite_self]
    · exact (Bool.or_false _).symm
    · exact nextSide_nil (rewritesFrames_nextIn s.role) _ _

end DeflateStream

end WsBlast
