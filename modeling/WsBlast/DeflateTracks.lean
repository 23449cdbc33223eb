import WsBlast.DeflateScan

/-!
# Keeping track of a direction

`Tracks` relates a direction of the layer to the one scan of its bytes: at any
moment, going on with the bytes that wait, from the state the layer is in, ends
where the scan from the beginning ends. Calls that process more bytes keep it
(`Tracks.processed`), and so do the two shortcuts the layer takes once
compression was declined (`Tracks.passes`). When the response passed before
the head of the other direction, the shortcuts skip the end of that head;
nothing is rewritten then, and `Tracks.passed` says so.

The direction with the response decides the agreement (`Leads`), whatever
becomes of the frames. `ReadPassed` and `WritePassed` say what reads and
writes do to the stream, in these terms.

The scan of a direction is determined by its bytes and by the agreement, and
the layer reaches it in steps that the network chooses. `Tracks` is the
invariant that makes this precise without saying how far the layer is: what it
has done, followed by a scan of what it has left, is the scan of everything.
-/

namespace WsBlast

open Scanner

/-! ## A direction and its scan

Lemmas about `responseAgreement` and about calls come first: what a call
processes, it would also have processed with more bytes behind them. -/

section Directions

variable {C : Type}

/-- What holds in the direction with the response: the agreement is the one in
its head. -/
structure Leads (agreement : Option (Option Params)) (side : Side C) (raw bytes : Bytes) : Prop where
  agreed : agreement = responseAgreement bytes
  head : side.headDone = (headEnd bytes).isSome
  waits : side.headDone = false → raw = bytes

section Heads

variable {next : Params → Side C → Bytes → Next (Side C) String} {response : Bool}
  {agreement agreement' : Option (Option Params)} {side side' : Side C}
  {raw raw' bytes chunk : Bytes} {result : Except String Unit}

theorem responseAgreement_append {agreed : Option Params}
    (h : responseAgreement bytes = some agreed) (more : Bytes) :
    responseAgreement (bytes ++ more) = some agreed := by
  obtain ⟨head, hhead, rfl⟩ := Option.map_eq_some_iff.mp h
  unfold responseAgreement
  rw [headOf_append hhead more]
  rfl

theorem headEnd_isSome_append (h : (headEnd bytes).isSome = true) (more : Bytes) :
    (headEnd (bytes ++ more)).isSome = true := by
  obtain ⟨n, hn⟩ := Option.isSome_iff_exists.mp h
  rw [headEnd_append hn more]
  rfl

theorem responseAgreement_isSome (bytes : Bytes) :
    (responseAgreement bytes).isSome = (headEnd bytes).isSome := by
  unfold responseAgreement headOf
  rw [Option.isSome_map, Option.isSome_map]

/-- What was known of the head stays known when more bytes are processed. -/
theorem ProcessedSide.headKnown
    (h : ProcessedSide response next agreement side (raw ++ chunk) agreement' side' raw' result)
    (head : side.headDone = (headEnd bytes).isSome) (waits : side.headDone = false → raw = bytes) :
    side'.headDone = (headEnd (bytes ++ chunk)).isSome
      ∧ (side'.headDone = false → raw' = bytes ++ chunk) := by
  cases hs : side.headDone with
  | true =>
    have hdone : side'.headDone = true := by rw [h.head, hs, Bool.true_or]
    rw [hs] at head
    refine ⟨?_, fun hnot => ?_⟩
    · rw [hdone, headEnd_isSome_append head.symm chunk]
    · rw [hdone] at hnot
      cases hnot
  | false =>
    obtain rfl := waits hs
    refine ⟨?_, fun hnot => (h.waits hnot).1⟩
    rw [h.head, hs, Bool.false_or]

theorem Leads.processed (hleads : Leads agreement side raw bytes)
    (h : ProcessedSide true next agreement side (raw ++ chunk) agreement' side' raw' result) :
    Leads agreement' side' raw' (bytes ++ chunk) := by
  obtain ⟨hhead, hwaits⟩ := h.headKnown hleads.head hleads.waits
  refine ⟨?_, hhead, hwaits⟩
  rw [h.agreed]
  cases hs : side.headDone with
  | true =>
    have hsome : (responseAgreement bytes).isSome = true := by
      rw [responseAgreement_isSome, ← hleads.head, hs]
    obtain ⟨agreed, hagreed⟩ := Option.isSome_iff_exists.mp hsome
    rw [if_neg (by simp), hleads.agreed, hagreed, responseAgreement_append hagreed chunk]
  | false =>
    obtain rfl := hleads.waits hs
    have hnone : agreement = none := by
      rw [hleads.agreed, ← Option.isNone_iff_eq_none, ← Option.not_isSome, responseAgreement_isSome,
        ← hleads.head, hs]
      rfl
    rw [if_pos ⟨rfl, rfl⟩, hnone, Option.or_none]

/-- More bytes that pass change nothing, once the agreement is known. -/
theorem Leads.passed {agreed : Option Params} (hleads : Leads agreement side raw bytes)
    (hagreed : agreement = some agreed) (hdone : side'.headDone = side.headDone) (more : Bytes) :
    Leads agreement side' raw' (bytes ++ more) := by
  have hknown : responseAgreement bytes = some agreed := hleads.agreed.symm.trans hagreed
  have hs : side.headDone = true := by
    rw [hleads.head, ← responseAgreement_isSome, hknown]
    rfl
  refine ⟨?_, ?_, fun hnot => ?_⟩
  · rw [hagreed, responseAgreement_append hknown more]
  · rw [hdone, hs, headEnd_isSome_append (hleads.head.symm.trans hs) more]
  · rw [hdone, hs] at hnot
    cases hnot

/-- An agreement that is known stays. -/
theorem ProcessedSide.keeps {agreed : Option Params}
    (h : ProcessedSide response next agreement side raw agreement' side' raw' result)
    (hagreed : agreement = some agreed) (hresponse : response = true → side.headDone = true) :
    agreement' = some agreed := by
  rw [h.agreed, if_neg, hagreed]
  rintro ⟨hr, hs⟩
  rw [hresponse hr] at hs
  cases hs

end Heads

/-- What was rewritten before does not matter for a call. -/
theorem ProcessedSide.behind {next : Params → Side C → Bytes → Next (Side C) String}
    (hnext : RewritesFrames next) {response : Bool} {agreement agreement' : Option (Option Params)}
    {side side' : Side C} {raw raw' : Bytes} {result : Except String Unit}
    (h : ProcessedSide response next agreement side raw agreement' side' raw' result)
    (before : Bytes) :
    ProcessedSide response next agreement (side.behind before) raw agreement'
      (side'.behind before) raw' result where
  agreed := h.agreed
  head := h.head
  waits hnot := ⟨(h.waits hnot).1, congrArg (Side.behind · before) (h.waits hnot).2⟩
  processed := by
    have hbehind := scan_behind hnext agreement' before side raw
    cases h.processed with
    | rewritten scanned =>
      rw [scanned] at hbehind
      exact .rewritten hbehind
    | tooLong noHead waits long => exact .tooLong noHead waits long
    | rejected scanned kept =>
      rw [scanned] at hbehind
      exact .rejected hbehind kept

/-- A direction, with all that was rewritten so far in its side, against the
scan of all its bytes. `final` is the agreement the connection comes to. -/
inductive Tracks (next : Params → Side C → Bytes → Next (Side C) String)
    (final : Option (Option Params)) (codec : C) (agreement : Option (Option Params))
    (side : Side C) (raw bytes : Bytes) : Prop where
  | follows (head : side.headDone = (headEnd bytes).isSome)
      (waits : side.headDone = false → raw = bytes ∧ side = { codec })
      (scanned : scan (nextSide next final) { codec } bytes = scan (nextSide next final) side raw)
  /-- Everything passed, the head included. -/
  | passed (declined : agreement = some none) (none_waits : raw = [])
      (all : side = { codec, ready := bytes })

section Tracked

variable {next : Params → Side C → Bytes → Next (Side C) String} {response : Bool}
  {final agreement agreement' : Option (Option Params)} {codec : C} {side side' : Side C}
  {raw raw' bytes chunk total : Bytes} {result : Except String Unit}

/-- A direction in which nothing has happened. -/
theorem Tracks.start : Tracks next final codec agreement { codec } [] [] :=
  .follows rfl (fun _ => ⟨rfl, rfl⟩) rfl

/-- What a scan rejects, it rejects with more bytes behind. -/
theorem scan_total (hnext : RewritesFrames next)
    (htotal : (scan (nextSide next final) { codec } total).error = none) (hle : bytes <+: total) :
    (scan (nextSide next final) { codec } bytes).error = none := by
  obtain ⟨more, rfl⟩ := hle
  have hprogresses := nextSide_progresses hnext final
  generalize hscan : scan (nextSide next final) { codec } bytes = finish
  obtain ⟨state, rest, _ | error⟩ := finish
  · rfl
  · rw [scan_reject_resume hprogresses hprogresses (nextSide_steady hnext final) hscan more] at htotal
    cases htotal

/-- **A call that processes more bytes keeps track**, and succeeds, when the
head fits and no frame is rejected. -/
theorem Tracks.processed (hnext : RewritesFrames next)
    (h : Tracks next final codec agreement side raw bytes)
    (hp : ProcessedSide response next agreement side (raw ++ chunk) agreement' side' raw' result)
    (hdirect : agreement = some none → raw = [] → side.headDone = false → chunk = [])
    (hkept : agreement = some none → agreement' = some none)
    (hfinal : agreement' = none ∨ agreement' = final) (hfits : HeadFits total)
    (htotal : (scan (nextSide next final) { codec } total).error = none)
    (hle : bytes ++ chunk <+: total) :
    result = .ok () ∧ Tracks next final codec agreement' side' raw' (bytes ++ chunk) := by
  have hprogresses := nextSide_progresses hnext
  have hsteady := nextSide_steady hnext final
  have hextends := nextSide_extends hnext hfinal
  -- what the call did is compared with the scan of the bytes it had, and that with the
  -- scan of all bytes
  cases h with
  | follows head waits scanned =>
    obtain ⟨hhead, hwaits⟩ := hp.headKnown head fun hs => (waits hs).1
    have hrest := scan_total hnext htotal ((List.prefix_append bytes chunk).trans hle)
    have hall := scan_total hnext htotal hle
    -- the two scans go on alike over the new bytes
    have hboth : scan (nextSide next final) { codec } (bytes ++ chunk)
        = scan (nextSide next final) side (raw ++ chunk) := by
      generalize hscan : scan (nextSide next final) { codec } bytes = finish at hrest scanned
      obtain ⟨state, rest, error⟩ := finish
      obtain rfl : error = none := hrest
      rw [scan_append (hprogresses final) hsteady hscan,
        scan_append (hprogresses final) hsteady scanned.symm]
    cases hprocessed : hp.processed with
    | rewritten hscan =>
      have hresume := scan_resume (hprogresses agreement') (hprogresses final) hextends hscan []
      rw [List.append_nil, List.append_nil] at hresume
      refine ⟨rfl, .follows hhead (fun hs => ⟨hwaits hs, ?_⟩) (hboth.trans hresume)⟩
      obtain rfl := (hp.waits hs).2
      exact (waits hs).2
    | tooLong noHead hend long =>
      obtain ⟨rfl, -⟩ := waits noHead
      have hshort := hfits.short hle hend
      omega
    | rejected hscan kept =>
      have hreject :=
        scan_reject_resume (hprogresses agreement') (hprogresses final) hextends hscan []
      rw [List.append_nil] at hreject
      rw [hboth, hreject] at hall
      cases hall
  | passed declined none_waits all =>
    obtain rfl := none_waits
    subst all
    obtain rfl := hdirect declined rfl rfl
    rw [List.append_nil] at hp
    have hdeclined := hkept declined
    have hwaits : scan (nextSide next agreement') ({ codec, ready := bytes } : Side C) []
        = ⟨{ codec, ready := bytes }, [], none⟩ := scan_wait (nextSide_nil hnext _ _)
    rw [List.append_nil]
    cases hprocessed : hp.processed with
    | rewritten hscan =>
      rw [hwaits] at hscan
      cases hscan
      exact ⟨rfl, .passed hdeclined rfl rfl⟩
    | tooLong noHead hend long => cases long
    | rejected hscan kept =>
      rw [hwaits] at hscan
      cases hscan

/-- An agreement that is known stays, so a direction keeps track when the other
one is processed. -/
theorem Tracks.agreed (h : Tracks next final codec agreement side raw bytes)
    (hkept : agreement = some none → agreement' = some none) :
    Tracks next final codec agreement' side raw bytes := by
  cases h with
  | follows head waits scanned => exact .follows head waits scanned
  | passed declined none_waits all => exact .passed (hkept declined) none_waits all

/-- **The shortcuts keep track.** -/
theorem Tracks.passes (hnext : RewritesFrames next)
    (h : Tracks next final codec agreement side [] bytes) (hdeclined : agreement = some none)
    (hfinal : final = some none) (more : Bytes) :
    Tracks next final codec agreement { side with ready := side.ready ++ more } []
      (bytes ++ more) := by
  cases h with
  | follows head waits scanned =>
    cases hs : side.headDone with
    | false =>
      obtain ⟨rfl, rfl⟩ := waits hs
      exact .passed hdeclined rfl rfl
    | true =>
      subst hfinal
      refine .follows ?_ (fun hnot => ?_) ?_
      · rw [hs] at head
        exact (headEnd_isSome_append head.symm more).symm
      · cases hnot
      · have hidle : ∀ s : Side C, scan (nextSide next (some none)) s [] = ⟨s, [], none⟩ :=
          fun s => scan_wait (nextSide_nil hnext _ s)
        rw [hidle side] at scanned
        rw [scan_append (nextSide_progresses hnext _) (nextSide_steady hnext _) scanned,
          List.nil_append, scan_declined hnext hs more, hidle, hs]
  | passed declined none_waits all =>
    subst all
    exact .passed declined rfl rfl

/-- **When nothing more can be done, the layer has done what the scan does.** -/
theorem Tracks.settled (hnext : RewritesFrames next)
    (h : Tracks next final codec agreement side raw bytes) (hfinal : agreement = final)
    (hfits : HeadFits bytes)
    (hwaits : scan (nextSide next final) side raw = ⟨side, raw, none⟩) :
    (scan (nextSide next final) { codec } bytes).state.codec = side.codec
      ∧ (scan (nextSide next final) { codec } bytes).state.ready = side.ready
      ∧ (scan (nextSide next final) { codec } bytes).rest = raw := by
  cases h with
  | follows head waits scanned =>
    rw [scanned, hwaits]
    exact ⟨rfl, rfl, rfl⟩
  | passed declined none_waits all =>
    obtain rfl := none_waits
    subst all
    obtain rfl : final = some none := hfinal.symm.trans declined
    obtain ⟨n, hend, -⟩ := (Option.any_eq_true _ _).mp hfits
    rw [scan_take (nextSide_progresses hnext _) (nextSide_head rfl hend),
      scan_declined hnext rfl]
    refine ⟨rfl, ?_, rfl⟩
    show [] ++ bytes.take n ++ bytes.drop n = bytes
    rw [List.nil_append, List.take_append_drop]

end Tracked

end Directions

/-! ## What reads and writes do to the stream

Each poll of the source is reduced to the few effects it can have: it processes
a side, it takes ready bytes away, or it passes bytes through after compression
was declined. -/

/-- The bytes a pass of a read returns. -/
def ReadOutcome.bytes : ReadOutcome → Bytes
  | .returned bytes => bytes
  | _ => []

/-- The error of the layer a pass of a read returns. -/
def ReadOutcome.rejection : ReadOutcome → Option String
  | .rejected error => some error
  | _ => none

namespace DeflateStream

variable {D I : Type} {z : Flate2 D I} (s : DeflateStream D I)

variable (z) in
/-- What a pass of a read does. -/
inductive ReadPassed : ReadPass D I → Prop where
  | delivers (room : ℕ) (ready : s.inbound.ready ≠ []) :
      ReadPassed { stream := s.withReadyIn (s.inbound.ready.drop room)
                   outcome := .returned (s.inbound.ready.take room) }
  | processes {t : DeflateStream D I} {outcome : ReadOutcome} (ready : s.inbound.ready = [])
      (processed : s.ProcessedIn z [] t (.ok ())) (nothing : outcome.bytes = [])
      (accepts : outcome.rejection = none) : ReadPassed { stream := t, outcome }
  | rejects {t : DeflateStream D I} {error : String} (ready : s.inbound.ready = [])
      (processed : s.ProcessedIn z [] t (.error error)) :
      ReadPassed { stream := t, outcome := .rejected error }
  /-- Declined: the caller's buffer is read into. -/
  | passes {t : DeflateStream D I} (ready : s.inbound.ready = [])
      (processed : s.ProcessedIn z [] t (.ok ())) (declined : t.agreement = some none)
      (none_waits : t.rawIn = []) (nothing : t.inbound.ready = []) (bytes : Bytes) :
      ReadPassed { stream := t, chunk := bytes, outcome := .returned bytes }
  | reads {t u : DeflateStream D I} {chunk : Bytes} {result : Except String Unit}
      (ready : s.inbound.ready = []) (processed : s.ProcessedIn z [] t (.ok ()))
      (nothing : t.inbound.ready = []) (notDirect : t.agreement = some none → t.rawIn ≠ [])
      (read : t.ProcessedIn z chunk u result) :
      ReadPassed { stream := u
                   chunk
                   outcome := match result with
                    | .ok () => .again
                    | .error error => .rejected error }

theorem readPass_spec (room : ℕ) (answer : ReadAnswer) :
    s.ReadPassed z (s.readPass z room answer) := by
  unfold readPass
  split
  · exact .delivers room ‹_›
  · rename_i hready
    have hready : s.inbound.ready = [] := not_not.mp hready
    have hprocessed : ∀ r, (if s.rawIn ≠ [] then s.processIn z else (s, .ok ())) = r →
        s.ProcessedIn z [] r.1 r.2 := by
      rintro r rfl
      split
      · exact processIn_spec s
      · exact processedIn_nil s (not_not.mp ‹_›)
    generalize (if s.rawIn ≠ [] then s.processIn z else (s, .ok ())) = r at hprocessed
    obtain ⟨t, result⟩ := r
    have hprocessed := hprocessed _ rfl
    cases result with
    | error error => exact .rejects hready hprocessed
    | ok _ =>
      dsimp only at hprocessed ⊢
      split
      · exact .processes hready hprocessed rfl rfl
      · rename_i hnothing
        have hnothing := not_not.mp hnothing
        cases answer with
        | pending => exact .processes hready hprocessed rfl rfl
        | failed error => exact .processes hready hprocessed rfl rfl
        | data bytes =>
          dsimp only
          split
          · rename_i hdirect
            exact .passes hready hprocessed (of_decide_eq_true hdirect.1) hdirect.2 hnothing _
          · rename_i hdirect
            split
            · exact .processes hready hprocessed rfl rfl
            · have hread := processIn_chunk (z := z) t (bytes.take readChunk)
              have hnot : t.agreement = some none → t.rawIn ≠ [] := fun hagreed hraw =>
                hdirect ⟨decide_eq_true hagreed, hraw⟩
              generalize processIn z { t with rawIn := t.rawIn ++ bytes.take readChunk } = r at hread
              obtain ⟨u, result⟩ := r
              cases result with
              | error error => exact .reads hready hprocessed hnothing hnot hread
              | ok _ => exact .reads hready hprocessed hnothing hnot hread

/-- What the connection took and what is left is what there was. -/
theorem sent_pollDrain (answers : List WriteAnswer) (ready : Bytes) :
    (pollDrain answers ready).sent ++ (pollDrain answers ready).ready = ready := by
  induction answers generalizing ready with
  | nil => cases ready <;> rfl
  | cons answer answers ih =>
    match answer, ready with
    | .pending, [] => rfl
    | .pending, _ :: _ => rfl
    | .failed _, [] => rfl
    | .failed _, _ :: _ => rfl
    | .took 0, [] => rfl
    | .took 0, _ :: _ => rfl
    | .took (n + 1), [] => rfl
    | .took (n + 1), b :: rest =>
      show (b :: rest).take (n + 1) ++ (pollDrain answers _).sent ++ (pollDrain answers _).ready = _
      rw [List.append_assoc, ih, List.take_append_drop]

variable (z) in
/-- What a write, a flush or a shutdown does. -/
inductive WritePassed : WritePass D I → Prop where
  | drains {sent ready : Bytes} {outcome : WriteOutcome} (all : sent ++ ready = s.outbound.ready) :
      WritePassed { stream := s.withReadyOut ready, sent, outcome }
  /-- Declined: the caller's bytes go straight through. -/
  | passes {buf : Bytes} {outcome : WriteOutcome} (declined : s.agreement = some none)
      (none_waits : s.rawOut = []) :
      WritePassed { stream := s.withReadyOut []
                    written := buf
                    sent := s.outbound.ready ++ buf
                    outcome }
  | writes {sent ready sent' ready' chunk : Bytes} {t : DeflateStream D I}
      {result : Except String Unit} {outcome : WriteOutcome}
      (first : sent ++ ready = s.outbound.ready)
      (notDirect : s.agreement = some none → s.rawOut = [] → ready = [] → chunk = [])
      (processed : (s.withReadyOut ready).ProcessedOut z chunk t result)
      (second : sent' ++ ready' = t.outbound.ready) :
      WritePassed { stream := t.withReadyOut ready'
                    written := chunk
                    sent := sent ++ sent'
                    outcome }

theorem pollWrite_spec (buf : Bytes) (answers : List WriteAnswer) :
    s.WritePassed z (s.pollWrite z buf answers) := by
  unfold pollWrite
  have hfirst : ∀ first : Drain, (if highWater < s.outbound.ready.length then
        pollDrain answers s.outbound.ready
      else { ready := s.outbound.ready, answers, outcome := .done 0 }) = first →
      first.sent ++ first.ready = s.outbound.ready := by
    rintro first rfl
    split
    · exact sent_pollDrain answers s.outbound.ready
    · rfl
  dsimp only
  generalize (if highWater < s.outbound.ready.length then pollDrain answers s.outbound.ready
    else { ready := s.outbound.ready, answers, outcome := .done 0 }) = first at hfirst
  obtain ⟨sent, ready, answers, outcome⟩ := first
  replace hfirst : sent ++ ready = s.outbound.ready := hfirst _ rfl
  cases outcome with
  | pending => exact .drains hfirst
  | failed error => exact .drains hfirst
  | rejected error => exact .drains hfirst
  | done n =>
    dsimp only
    split
    · -- the shortcut: nothing waits, so the bytes go to the connection as they are
      rename_i hdirect
      obtain ⟨hdeclined, hraw, hready⟩ := hdirect
      obtain rfl : ready = [] := hready
      rw [List.append_nil] at hfirst
      match answers with
      | .took n :: _ =>
        dsimp only
        rw [hfirst]
        exact .passes (of_decide_eq_true hdeclined) hraw
      | .failed error :: _ => exact .drains (by rw [List.append_nil, hfirst])
      | .pending :: _ => exact .drains (by rw [List.append_nil, hfirst])
      | [] => exact .drains (by rw [List.append_nil, hfirst])
    · rename_i hdirect
      -- otherwise they are processed behind what waits
      have hnot : s.agreement = some none → s.rawOut = [] → ready = [] → buf = [] :=
        fun hagreed hraw hready => absurd ⟨decide_eq_true hagreed, hraw, hready⟩ hdirect
      have hprocessed := processOut_chunk (z := z) (s.withReadyOut ready) buf
      generalize processOut z { s.withReadyOut ready with
        rawOut := (s.withReadyOut ready).rawOut ++ buf } = r at hprocessed ⊢
      obtain ⟨t, result⟩ := r
      cases result with
      | error error =>
        have hwrites : s.WritePassed z
            { stream := t.withReadyOut t.outbound.ready
              written := buf
              sent := sent ++ []
              outcome := .rejected error } := .writes hfirst hnot hprocessed rfl
        rw [List.append_nil] at hwrites
        exact hwrites
      | ok _ => exact .writes hfirst hnot hprocessed (sent_pollDrain answers t.outbound.ready)

theorem pollFlush_spec (answers : List WriteAnswer) :
    s.WritePassed z (s.pollFlush z answers) := by
  have hprocessed := processOut_spec (z := z) s
  unfold pollFlush
  generalize s.processOut z = r at hprocessed ⊢
  obtain ⟨t, result⟩ := r
  have hfirst : [] ++ s.outbound.ready = s.outbound.ready := rfl
  have hwrites : ∀ sent ready outcome, sent ++ ready = t.outbound.ready → s.WritePassed z
      { stream := t.withReadyOut ready, written := [], sent := [] ++ sent, outcome } :=
    fun sent ready outcome h => .writes hfirst (fun _ _ _ => rfl) hprocessed h
  cases result with
  | error error => exact hwrites [] t.outbound.ready _ rfl
  | ok _ => exact hwrites _ _ _ (sent_pollDrain answers t.outbound.ready)

theorem pollShutdown_spec (answers : List WriteAnswer) :
    s.WritePassed z (s.pollShutdown answers) :=
  .drains (sent_pollDrain answers s.outbound.ready)

end DeflateStream

end WsBlast
