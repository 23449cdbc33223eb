import WsBlast.DeflateChunks

/-!
# A rejected frame and the good ones before it

The frames of a piece are rewritten one after the other, and their bytes are
dropped behind the last one. A frame that is rejected returns at once: the
good frames before it in the same piece are rewritten and counted, but not
delivered, and their bytes still wait, so a later read rewrites and counts them
again. Frames that arrived in earlier pieces are delivered before the next piece
is read.

So the good frames are delivered exactly once before the error exactly when
some piece ends between the last good frame and the byte that shows the
rejection (`good_frames_delivered_iff`).

An early return is what makes the difference. The loop over the frames writes
what it rewrites into `ready` and drops the consumed bytes from `rawIn` when it
is through; the error leaves the method before that.
-/

namespace WsBlast

open Scanner

/-! ## The stream

The shape of the stream that is considered: complete frames that are rewritten,
and one behind them that is rejected as soon as some of its bytes are there. -/

/-- Behind `good`, which is rewritten as a whole, comes a frame that is
rejected; `bad` is as much of it as shows that. -/
structure RejectedBehind {C : Type} (next : Side C → Bytes → Next (Side C) String)
    (start : Side C) (good : Bytes) (rewritten : Side C) (bad : Bytes) : Prop where
  accepted : scan next start good = ⟨rewritten, [], none⟩
  rejected : ∃ state error, next rewritten bad = .reject state error
  soonest : ∀ n < bad.length, next rewritten (bad.take n) = .wait

namespace RejectedBehind

variable {C : Type} {next : Side C → Bytes → Next (Side C) String} {start rewritten : Side C}
  {good bad more part : Bytes}

/-- Until the rejection shows, all good frames are rewritten and the rest
waits. -/
theorem between (h : RejectedBehind next start good rewritten bad) (hprogresses : Progresses next)
    (hsteady : Steady next) (hpart : part <+: good ++ bad ++ more) (hlow : good.length ≤ part.length)
    (hhigh : part.length < (good ++ bad).length) :
    ∃ waiting, part = good ++ waiting ∧ scan next start part = ⟨rewritten, waiting, none⟩ := by
  have hgood : good <+: part := by
    refine List.prefix_of_prefix_length_le ?_ hpart hlow
    rw [List.append_assoc]
    exact List.prefix_append good (bad ++ more)
  obtain ⟨waiting, rfl⟩ := hgood
  refine ⟨waiting, rfl, ?_⟩
  have hwaiting : waiting <+: bad := by
    rw [List.append_assoc] at hpart
    refine List.prefix_of_prefix_length_le ((List.prefix_append_right_inj good).mp hpart)
      (List.prefix_append bad more) ?_
    rw [List.length_append, List.length_append] at hhigh
    omega
  have hwait : next rewritten waiting = .wait := by
    have hshort : waiting.length < bad.length := by
      rw [List.length_append, List.length_append] at hhigh
      omega
    have htake := h.soonest waiting.length hshort
    rwa [← List.prefix_iff_eq_take.mp hwaiting] at htake
  rw [scan_append hprogresses hsteady h.accepted waiting, List.nil_append, scan_wait hwait]

/-- What is not rejected yet ends before the rejection shows. -/
theorem length_lt (h : RejectedBehind next start good rewritten bad) (hprogresses : Progresses next)
    (hsteady : Steady next) (hpart : part <+: good ++ bad ++ more)
    (haccepted : (scan next start part).error = none) : part.length < (good ++ bad).length := by
  by_contra hlong
  obtain ⟨state, error, hbad⟩ := h.rejected
  obtain ⟨rest, rfl⟩ : good ++ bad <+: part :=
    List.prefix_of_prefix_length_le (List.prefix_append _ more) hpart (by omega)
  have hreject : next rewritten (bad ++ rest) = .reject state error := by
    rw [hsteady.same (by rw [hbad]; nofun) rest, hbad]
  rw [List.append_assoc, scan_append hprogresses hsteady h.accepted, List.nil_append,
    scan_reject hreject] at haccepted
  cases haccepted

end RejectedBehind

/-! ## Runs up to the rejection

While nothing is rejected the run keeps track of its scan. -/

section Runs

variable {D I : Type} {z : Flate2 D I} {params : Params} {s t : DeflateStream D I}

/-- Both heads have passed, compression was agreed on, and nothing waits to be
rewritten or delivered. -/
structure Agreed (params : Params) (s : DeflateStream D I) : Prop where
  agreement : s.agreement = some (some params)
  inHead : s.inbound.headDone = true
  outHead : s.outbound.headDone = true
  rawIn : s.rawIn = []
  ready : s.inbound.ready = []

/-- Where a run is that has rejected nothing: all that was received is rewritten
as far as it goes, and what was rewritten is delivered or ready. -/
structure Rewrites (z : Flate2 D I) (params : Params) (role : Role) (start : Side (Inflating I))
    (s : DeflateStream D I) (delivered received : Bytes) : Prop where
  sameRole : s.role = role
  agreement : s.agreement = some (some params)
  inHead : s.inbound.headDone = true
  outHead : s.outbound.headDone = true
  scanned : scan (nextIn z role params) start received
    = ⟨s.inbound.behind delivered, s.rawIn, none⟩

namespace Rewrites

variable {role : Role} {start : Side (Inflating I)} {delivered received chunk : Bytes}
  {result : Except String Unit}

/-- A call that processes more bytes goes on, or leaves all bytes that waited
when it rejects a frame. -/
theorem processed (h : Rewrites z params role start s delivered received)
    (hp : s.ProcessedIn z chunk t result) :
    (result = .ok () ∧ Rewrites z params role start t delivered (received ++ chunk))
    ∨ (∃ error, result = .error error ∧ t.rawIn = s.rawIn ++ chunk
      ∧ (scan (nextIn z role params) start (received ++ chunk)).error ≠ none) := by
  obtain ⟨rfl, hagreement, hin, hout, hscanned⟩ := h
  have hnext := DeflateStream.rewritesFrames_nextIn (z := z) s.role
  have hagreement' : t.agreement = some (some params) := by
    rw [hp.side.agreed, if_neg (by simp [hin]), hagreement]
  have hbehind := scan_behind hnext (some (some params)) delivered s.inbound (s.rawIn ++ chunk)
  have hin' : (s.inbound.behind delivered).headDone = true := hin
  have hall : scan (nextIn z s.role params) start (received ++ chunk)
      = scan (nextSide (nextIn z s.role) (some (some params))) (s.inbound.behind delivered)
        (s.rawIn ++ chunk) := by
    rw [scan_append (hnext.progresses params) (hnext.steady params) hscanned chunk]
    exact (scan_agreed hnext hin' _).symm
  rcases hp.side.processed.behindHead hin with ⟨rfl, hscan⟩ | ⟨error, rest, rfl, hkept, hscan⟩
  · rw [hagreement'] at hscan
    rw [hscan] at hbehind
    refine Or.inl ⟨rfl, hp.role, hagreement', ?_, ?_, hall.trans hbehind⟩
    · rw [hp.side.head, hin, Bool.true_or]
    · rw [hp.outbound, hout]
  · rw [hagreement'] at hscan
    rw [hscan] at hbehind
    refine Or.inr ⟨error, rfl, hkept, ?_⟩
    rw [hall, hbehind]
    nofun

/-- A call without new bytes changes nothing. -/
theorem processed_nil (h : Rewrites z params role start s delivered received)
    (hp : s.ProcessedIn z [] t result) :
    result = .ok () ∧ Rewrites z params role start t delivered received := by
  rcases h.processed hp with hok | ⟨error, -, -, herror⟩
  · rw [List.append_nil] at hok
    exact hok
  · rw [List.append_nil, h.scanned] at herror
    exact absurd rfl herror

/-- **A pass of a read that rejects nothing goes on.** -/
theorem readPassed (h : Rewrites z params role start s delivered received) {pass : ReadPass D I}
    (hpass : s.ReadPassed z pass) (haccepted : pass.outcome.rejection = none) :
    Rewrites z params role start pass.stream (delivered ++ pass.outcome.bytes)
      (received ++ pass.chunk) := by
  cases hpass with
  | delivers room ready =>
    have hall : (s.withReadyIn (s.inbound.ready.drop room)).inbound.behind
        (delivered ++ s.inbound.ready.take room) = s.inbound.behind delivered :=
      s.inbound.behind_moved (List.take_append_drop room s.inbound.ready)
    refine ⟨h.sameRole, h.agreement, h.inHead, h.outHead, ?_⟩
    rw [List.append_nil]
    exact h.scanned.trans (by rw [← hall]; rfl)
  | processes ready processed nothing accepts =>
    rw [nothing, List.append_nil, List.append_nil]
    exact (h.processed_nil processed).2
  | rejects ready processed => cases haccepted
  | passes ready processed declined =>
    rw [(h.processed_nil processed).2.agreement] at declined
    cases declined
  | @reads t u chunk result ready processed nothing notDirect read =>
    rcases (h.processed_nil processed).2.processed read with ⟨rfl, hgoes⟩ | ⟨error, rfl, -⟩
    · show Rewrites z params role start u (delivered ++ []) (received ++ chunk)
      rw [List.append_nil]
      exact hgoes
    · cases haccepted

/-- Writes leave the inbound direction. -/
theorem writePassed (h : Rewrites z params role start s delivered received) {pass : WritePass D I}
    (hpass : s.WritePassed z pass) :
    Rewrites z params role start pass.stream delivered received := by
  cases hpass with
  | drains all => exact ⟨h.sameRole, h.agreement, h.inHead, h.outHead, h.scanned⟩
  | passes declined none_waits => exact ⟨h.sameRole, h.agreement, h.inHead, h.outHead, h.scanned⟩
  | @writes sent ready sent' ready' chunk t result outcome first notDirect processed second =>
    have hout : (s.withReadyOut ready).outbound.headDone = true := h.outHead
    have hagreement : t.agreement = some (some params) := by
      rw [processed.side.agreed, if_neg (by simp [hout])]
      exact h.agreement
    have hhead : t.outbound.headDone = true := by
      rw [processed.side.head, hout, Bool.true_or]
    refine ⟨processed.role.trans h.sameRole, hagreement, ?_, hhead, ?_⟩
    · show t.inbound.headDone = true
      rw [processed.inbound]
      exact h.inHead
    · show _ = (⟨t.inbound.behind delivered, t.rawIn, none⟩ : Scanned _ _ _)
      rw [processed.inbound, processed.rawIn]
      exact h.scanned

end Rewrites

variable {c c' : Connection D I} {calls : List Call} {call : Call}

/-- The run that goes on from a stream. -/
def Connection.goingOn (s : DeflateStream D I) : Connection D I where
  stream := s

/-- **A run that has rejected nothing has rewritten all that was received**, as
far as it goes. -/
theorem run_rewrites (hs : Agreed params s)
    (hrun : Machine.run (Connection.step z) (.goingOn s) calls = some c)
    (haccepted : c.rejections = []) :
    Rewrites z params s.role s.inbound c.stream c.delivered c.received := by
  refine Machine.run_inv (P := fun c => c.rejections = [] →
    Rewrites z params s.role s.inbound c.stream c.delivered c.received) ?_ ?_ hrun haccepted
  · intro c c' call h hstep haccepted
    rcases Connection.step_cases hstep with ⟨pass, hpass, rfl⟩ | ⟨pass, hpass, rfl⟩
    · obtain ⟨hbefore, hpassed⟩ := List.append_eq_nil_iff.mp haccepted
      rw [Connection.received_afterRead]
      exact (h hbefore).readPassed hpass (Option.toList_eq_nil_iff.mp hpassed)
    · exact (h haccepted).writePassed hpass
  · refine fun _ => ⟨rfl, hs.agreement, hs.inHead, hs.outHead, ?_⟩
    show scan _ s.inbound [] = ⟨s.inbound, s.rawIn, none⟩
    rw [hs.rawIn]
    exact scan_wait rfl

/-- **What a rejection leaves**: the bytes of the piece that shows it still wait
behind those that waited before, and nothing was delivered of what the piece
completes. -/
theorem step_rejects {role : Role} {start : Side (Inflating I)}
    (h : Rewrites z params role start c.stream c.delivered c.received)
    (hstep : c.step z call = some c') (haccepted : c.rejections = [])
    (hrejected : c'.rejections ≠ []) :
    ∃ chunk waiting state, c'.reads = c.reads ++ [chunk] ∧ c'.delivered = c.delivered
      ∧ c'.stream.rawIn = waiting ++ chunk ∧ state.ready = c.delivered
      ∧ scan (nextIn z role params) start c.received = ⟨state, waiting, none⟩
      ∧ (scan (nextIn z role params) start c'.received).error ≠ none := by
  rcases Connection.step_cases hstep with ⟨pass, hpass, rfl⟩ | ⟨pass, hpass, rfl⟩
  · have hreject : pass.outcome.rejection ≠ none := by
      intro hnone
      refine hrejected ?_
      show c.rejections ++ pass.outcome.rejection.toList = []
      rw [haccepted, hnone]
      rfl
    rw [Connection.received_afterRead]
    cases hpass with
    | delivers room ready => exact absurd rfl hreject
    | processes ready processed nothing accepts => exact absurd accepts hreject
    | rejects ready processed => cases (h.processed_nil processed).1
    | passes ready processed declined none_waits nothing bytes => exact absurd rfl hreject
    | @reads t u chunk result ready processed nothing notDirect read =>
      have hgoes := (h.processed_nil processed).2
      rcases hgoes.processed read with ⟨rfl, -⟩ | ⟨error, rfl, hraw, herror⟩
      · exact absurd rfl hreject
      · refine ⟨chunk, t.rawIn, t.inbound.behind c.delivered, rfl, ?_, hraw, ?_, hgoes.scanned,
          herror⟩
        · exact List.append_nil c.delivered
        · rw [Side.behind_ready, nothing, List.append_nil]
  · exact absurd haccepted hrejected

/-- **A bad frame leaves the good ones alone exactly when a piece ends between
them.** When a read returns the rejection of a frame, the good frames before it
are delivered exactly once and are no longer among the bytes that wait, if and
only if some piece that was read ends behind the last good frame and before the
byte that shows the rejection. -/
theorem good_frames_delivered_iff (hs : Agreed params s) {good bad more : Bytes}
    {rewritten : Side (Inflating I)}
    (hstream : RejectedBehind (nextIn z s.role params) s.inbound good rewritten bad)
    (hrun : Machine.run (Connection.step z) (.goingOn s) calls = some c)
    (haccepted : c.rejections = []) (hstep : c.step z call = some c')
    (hrejected : c'.rejections ≠ []) (hreceived : c'.received <+: good ++ bad ++ more) :
    (c'.delivered = rewritten.ready ∧ c'.received = good ++ c'.stream.rawIn)
      ↔ ∃ pieces, pieces <+: c'.reads ∧ good.length ≤ pieces.flatten.length
        ∧ pieces.flatten.length < (good ++ bad).length := by
  have hnext := DeflateStream.rewritesFrames_nextIn (z := z) s.role
  have hprogresses := hnext.progresses params
  have hsteady := hnext.steady params
  obtain ⟨chunk, waiting, state, hreads, hdelivered, hraw, hready, hscan, herror⟩ :=
    step_rejects (run_rewrites hs hrun haccepted) hstep haccepted hrejected
  have hsplit : c'.received = c.received ++ chunk := by
    unfold Connection.received
    rw [hreads, List.flatten_append, List.flatten_singleton]
  have hbefore : c.received <+: good ++ bad ++ more := by
    rw [hsplit] at hreceived
    exact (List.prefix_append _ chunk).trans hreceived
  have hshort : c.received.length < (good ++ bad).length :=
    hstream.length_lt hprogresses hsteady hbefore (by rw [hscan])
  constructor
  · rintro ⟨-, hkept⟩
    rw [hsplit, hraw, ← List.append_assoc, List.append_left_inj] at hkept
    refine ⟨c.reads, ?_, ?_, hshort⟩
    · rw [hreads]
      exact List.prefix_append _ _
    · show good.length ≤ c.received.length
      rw [hkept, List.length_append]
      exact Nat.le_add_right _ _
  · rintro ⟨pieces, hpieces, hlow, hhigh⟩
    -- the piece that shows the rejection is not among these pieces
    have hpieces : pieces <+: c.reads := by
      rw [hreads] at hpieces
      rcases List.prefix_concat_iff.mp hpieces with rfl | hpieces
      · have hall : (c.reads ++ [chunk]).flatten = c'.received := by
          unfold Connection.received
          rw [hreads]
        rw [hall] at hlow hhigh
        obtain ⟨_, -, hnone⟩ := hstream.between hprogresses hsteady hreceived hlow hhigh
        rw [hnone] at herror
        exact absurd rfl herror
      · exact hpieces
    obtain ⟨rest, hrest⟩ := hpieces
    have hlow' : good.length ≤ c.received.length := by
      unfold Connection.received
      rw [← hrest, List.flatten_append, List.length_append]
      omega
    obtain ⟨waits, hpart, hbetween⟩ :=
      hstream.between hprogresses hsteady hbefore hlow' hshort
    rw [hscan] at hbetween
    obtain ⟨rfl, rfl⟩ : state = rewritten ∧ waiting = waits :=
      ⟨congrArg Scanned.state hbetween, congrArg Scanned.rest hbetween⟩
    refine ⟨hdelivered.trans hready.symm, ?_⟩
    rw [hsplit, hraw, hpart, List.append_assoc]

end Runs

/-! A text of one byte, and a header that announces 4 GiB. -/

/-- The good frame, -/
def goodFrame : Bytes := [0x81, 1, 65]

/-- and the bad one. -/
def hugeHeader : Bytes := [0x82, 0x7f, 0, 0, 0, 1, 0, 0, 0, 0]

/-- A client behind its handshake. -/
def agreedClient : DeflateStream Unit Unit where
  role := .client
  agreement := some (some {})
  inbound := { headDone := true, codec := { inflater := () } }
  outbound := { headDone := true, codec := {} }

/-- The side behind the text. -/
def textRewritten : Side (Inflating Unit) where
  headDone := true
  codec := { inflater := (), bytesRecv := 1, wireBytesRecv := 1 }
  ready := goodFrame

theorem huge_behind_good : RejectedBehind (nextIn noFlate .client {}) agreedClient.inbound goodFrame
    textRewritten hugeHeader where
  accepted := by decide
  rejected := ⟨textRewritten, "a compressed WebSocket frame is too large", by decide⟩
  soonest := by decide

/-- In one piece with the bad frame, the good one is not delivered before the
error, still waits behind it, and is delivered and counted twice by the reads
that follow. -/
theorem good_frame_repeated :
    RejectedBehind (nextIn noFlate .client {}) agreedClient.inbound goodFrame textRewritten
      hugeHeader
    ∧ (Machine.run (Connection.step noFlate) (.goingOn agreedClient)
        [.read 100 (.data (goodFrame ++ hugeHeader))]).map
        (fun c => (c.delivered, c.rejections, c.stream.rawIn))
      = some ([], ["a compressed WebSocket frame is too large"], goodFrame ++ hugeHeader)
    ∧ (Machine.run (Connection.step noFlate) (.goingOn agreedClient)
        [.read 100 (.data (goodFrame ++ hugeHeader)), .read 100 .pending, .read 100 .pending,
          .read 100 .pending]).map
        (fun c => (c.delivered, c.rejections.length, c.stream.inbound.codec.bytesRecv))
      = some (goodFrame ++ goodFrame, 2, 2) :=
  ⟨huge_behind_good, by rfl, by rfl⟩

/-- In a piece of its own, the good frame is delivered once. -/
theorem good_frame_delivered : ∃ c c' : Connection Unit Unit,
    Machine.run (Connection.step noFlate) (.goingOn agreedClient)
        [.read 100 (.data goodFrame), .read 100 .pending] = some c
      ∧ c.step noFlate (.read 100 (.data hugeHeader)) = some c'
      ∧ c'.delivered = goodFrame ∧ c'.received = goodFrame ++ c'.stream.rawIn := by
  have hagreed : Agreed {} agreedClient := ⟨rfl, rfl, rfl, rfl, rfl⟩
  have hfacts : (Machine.run (Connection.step noFlate) (.goingOn agreedClient)
        [.read 100 (.data goodFrame), .read 100 .pending]).map
      (fun c => decide (c.rejections = [] ∧ (c.step noFlate (.read 100 (.data hugeHeader))).map
        (fun c' => (c'.reads, c'.rejections.length)) = some ([goodFrame, [], hugeHeader], 1)))
      = some true := by
    rfl
  obtain ⟨c, hrun, hfacts⟩ := Option.map_eq_some_iff.mp hfacts
  obtain ⟨haccepted, hfacts⟩ := of_decide_eq_true hfacts
  obtain ⟨c', hstep, hfacts⟩ := Option.map_eq_some_iff.mp hfacts
  obtain ⟨hreads, hrejections⟩ := Prod.mk.inj hfacts
  have hrejected : c'.rejections ≠ [] := by
    intro hnil
    rw [hnil] at hrejections
    cases hrejections
  have hreceived : c'.received <+: goodFrame ++ hugeHeader ++ [] := by
    unfold Connection.received
    rw [hreads]
    decide
  have hiff := good_frames_delivered_iff hagreed huge_behind_good hrun haccepted hstep hrejected
    hreceived
  obtain ⟨hdelivered, hkept⟩ := hiff.mpr ⟨[goodFrame], by rw [hreads]; decide, by decide, by decide⟩
  exact ⟨c, c', hrun, hstep, hdelivered, hkept⟩

end WsBlast
