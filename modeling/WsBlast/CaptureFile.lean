import WsBlast.MergedCapture
import WsBlast.Lib.BufWriter

/-!
# What a capture file holds

Both writers of capture files, the one of a local run and the one of a
distributed coordinator, write their lines through a buffer of 256 KiB. A
record is counted as written when its line is in the buffer. A failure of the
file shows later, when the buffer is handed over: while some other line is
being written, or at the flush behind the last one. The records whose lines
are still in the buffer then are counted and not in the file.

So the count is right exactly when every failure is noticed in time
(`NoticedInTime`): by the end of a line that the file does not take
completely, more than the file takes must have left the buffer. What leaves
the buffer, and when, depends on the lengths of the lines only.

A buffered writer tells about a failure late. The counts are made at the moment
of writing into the buffer, so how many records are counted depends on when the
buffer happened to be full, and how many are in the file depends on how much
the file took. Both are functions of lengths: the pieces in which lines are
written, the size of the buffer, and the room there is. No text matters beyond
that.
-/

namespace WsBlast

/-- The bytes a writer of capture files collects before they are handed to the
file. -/
def fileBuffer : ℕ := 256 * 1024

/-- The byte at the end of every line. -/
def newline : UInt8 := 10

/-- The pieces in which a line is written: those of its JSON text, and the
newline. -/
def linePieces (text : List Bytes) : List Bytes := text ++ [[newline]]

/-- A line is written piece by piece; the second component says whether every
piece went through. -/
def writeLine (out : BufWriter UInt8) (text : List Bytes) : BufWriter UInt8 × Bool :=
  out.writePieces fileBuffer (linePieces text)

/-! ## The writer of a local run

The thread behind the channel: a header, a line for each record, and a flush. -/

/-- The writer and its file. -/
abbrev RecordFile := CaptureWriter × BufWriter UInt8

/-- The header is written. -/
def startRecords (header : List Bytes) (room : ℕ) : RecordFile :=
  let (out, ok) := writeLine { room } header
  ({ failed := !ok }, out)

/-- A record is taken; nothing is written after an error. -/
def recordLine (s : RecordFile) (text : List Bytes) : RecordFile :=
  if s.1.failed then (s.1.takeRecord false, s.2)
  else
    let (out, ok) := writeLine s.2 text
    (s.1.takeRecord ok, out)

/-- The writer leaves its loop, and flushes unless a write has failed. -/
def leaveRecords (s : RecordFile) : RecordFile :=
  if s.1.failed then (s.1.leave true, s.2)
  else
    let (out, ok) := s.2.flush
    (s.1.leave ok, out)

/-- `write_records`, for a file that takes `room` bytes. `text` is the JSON
text of a line, in the pieces in which it is written. -/
def writeRecords (text : CaptureFileLine → List Bytes) (header : List Bytes)
    (records : List CaptureRecord) (room : ℕ) : RecordFile :=
  let lines := records.map fun record => text (.new record)
  leaveRecords (lines.foldl recordLine (startRecords header room))

/-! ## The writer of a distributed run

The same for batches of records with an agent's number and an offset. -/

/-- The writer of the merged file and its file. -/
abbrev MergedFile := MergedWriter × BufWriter UInt8

/-- The header is written. -/
def startMerged (header : List Bytes) (room : ℕ) : MergedFile :=
  let (out, ok) := writeLine { room } header
  ({ failed := !ok }, out)

/-- The writer goes past a record; nothing is written past the limit, or after
an error. -/
def mergedLine (limit : ℕ) (s : MergedFile) (text : List Bytes) : MergedFile :=
  if effectiveLimit limit ≤ s.1.written + s.1.lost ∨ s.1.failed then
    (ClusterCapture.writeRecord limit s.1 false, s.2)
  else
    let (out, ok) := writeLine s.2 text
    (ClusterCapture.writeRecord limit s.1 ok, out)

/-- The channel is closed, and the writer flushes unless a write has failed. -/
def leaveMerged (s : MergedFile) : MergedFile :=
  if s.1.failed then ({ s.1 with finished := true }, s.2)
  else
    let (out, ok) := s.2.flush
    ({ s.1 with failed := !ok, finished := true }, out)

/-- The thread `start_merged` starts, for a file that takes `room` bytes. -/
def writeMerged (text : MergedLine → List Bytes) (header : List Bytes) (limit : ℕ)
    (batches : List MergedBatch) (room : ℕ) : MergedFile :=
  leaveMerged <| batches.foldl (fun s batch =>
    batch.records.foldl (fun s record =>
      mergedLine limit s (text (.new batch.agent batch.offsetUs record))) s) (startMerged header room)

/-! ## The file -/

/-- What the file holds in the end: the buffer is handed over once more when it
is dropped. -/
def fileHolds (out : BufWriter UInt8) : Bytes := out.flush.1.file

/-- The complete lines of a capture file behind its header. -/
def completeRecords (file : Bytes) : ℕ := file.count newline - 1

/-- **The file holds what is counted**: as many complete lines as frames
written, and every other record counts as dropped. -/
structure HoldsWhatIsCounted (records framesWritten framesDropped : ℕ) (file : Bytes) : Prop where
  written : framesWritten = completeRecords file
  dropped : framesDropped = records - completeRecords file

/-! ## When a failure is noticed

The condition, in terms of what has left the buffer after each line. -/

/-- The pieces of a header and of lines. -/
def filePieces (header : List Bytes) (lines : List (List Bytes)) : List Bytes :=
  (header :: lines).flatMap linePieces

/-- What the file holds when nothing fails. -/
def fileBytes (header : List Bytes) (lines : List (List Bytes)) : Bytes :=
  (filePieces header lines).flatten

/-- The bytes that have left the buffer when a header and lines are written. -/
def handedOver (header : List Bytes) (lines : List (List Bytes)) : ℕ :=
  (fileBytes header lines).length - BufWriter.held fileBuffer 0 (filePieces header lines)

/-- Every failure of a file that takes `room` bytes is noticed in time: by the
end of a line that does not fit, more than that has left the buffer. -/
def NoticedInTime (header : List Bytes) (lines : List (List Bytes)) (room : ℕ) : Prop :=
  ∀ k < lines.length, room < (fileBytes header (lines.take (k + 1))).length →
    room < handedOver header (lines.take (k + 1))

instance (header : List Bytes) (lines : List (List Bytes)) (room : ℕ) :
    Decidable (NoticedInTime header lines room) := Nat.decidableBallLT _ _

section Bytes

variable (header : List Bytes) (lines : List (List Bytes)) (text : List Bytes)

theorem filePieces_snoc :
    filePieces header (lines ++ [text]) = filePieces header lines ++ linePieces text := by
  simp [filePieces, List.flatMap_cons, List.flatMap_append]

theorem fileBytes_snoc :
    fileBytes header (lines ++ [text]) = fileBytes header lines ++ (linePieces text).flatten := by
  rw [fileBytes, filePieces_snoc, List.flatten_append]
  rfl

theorem held_filePieces_le : BufWriter.held fileBuffer 0 (filePieces header lines)
    ≤ (fileBytes header lines).length := by
  have h := BufWriter.held_le fileBuffer 0 (filePieces header lines)
  rw [Nat.zero_add] at h
  exact h

/-- What has left the buffer does not get less. -/
theorem handedOver_le_snoc : handedOver header lines ≤ handedOver header (lines ++ [text]) := by
  have h := BufWriter.held_le fileBuffer (BufWriter.held fileBuffer 0 (filePieces header lines))
    (linePieces text)
  unfold handedOver
  rw [fileBytes_snoc, filePieces_snoc, BufWriter.held_append, List.length_append]
  omega

end Bytes

/-! ## Counting lines

Lines whose end is within some size, for a size that grows with the lines. -/

/-- The lines up to which a size is within `total`. -/
def linesWithin (size : List (List Bytes) → ℕ) (lines : List (List Bytes)) (total : ℕ) : ℕ :=
  ((Finset.range lines.length).filter fun k => size (lines.take (k + 1)) ≤ total).card

section Counting

variable (size : List (List Bytes) → ℕ) (lines : List (List Bytes)) (total : ℕ)

theorem linesWithin_snoc (text : List Bytes) : linesWithin size (lines ++ [text]) total
    = linesWithin size lines total + if size (lines ++ [text]) ≤ total then 1 else 0 := by
  have hlast : (lines ++ [text]).take (lines.length + 1) = lines ++ [text] :=
    List.take_of_length_le (by simp)
  have hbefore : ∀ k ∈ Finset.range lines.length,
      (size ((lines ++ [text]).take (k + 1)) ≤ total ↔ size (lines.take (k + 1)) ≤ total) := by
    intro k hk
    rw [List.take_append_of_le_length (Finset.mem_range.mp hk)]
  unfold linesWithin
  rw [List.length_append, List.length_singleton, Finset.range_add_one, Finset.filter_insert, hlast,
    Finset.filter_congr hbefore]
  split
  · rw [Finset.card_insert_of_notMem]
    simp
  · rfl

/-- Two sizes, one below the other, count the same lines if and only if they
agree on which lines are within. -/
theorem linesWithin_eq_iff {small large : List (List Bytes) → ℕ}
    (hle : ∀ k < lines.length, small (lines.take (k + 1)) ≤ large (lines.take (k + 1))) :
    linesWithin small lines total = linesWithin large lines total
      ↔ ∀ k < lines.length, total < large (lines.take (k + 1)) →
        total < small (lines.take (k + 1)) := by
  have hsubset : (Finset.range lines.length).filter (fun k => large (lines.take (k + 1)) ≤ total)
      ⊆ (Finset.range lines.length).filter (fun k => small (lines.take (k + 1)) ≤ total) := by
    intro k hk
    rw [Finset.mem_filter] at hk ⊢
    exact ⟨hk.1, (hle k (Finset.mem_range.mp hk.1)).trans hk.2⟩
  constructor
  · intro hcard k hk hlarge
    by_contra hsmall
    have hsame := Finset.eq_of_subset_of_card_le hsubset hcard.le
    have hmem : k ∈ (Finset.range lines.length).filter
        (fun k => small (lines.take (k + 1)) ≤ total) :=
      Finset.mem_filter.mpr ⟨Finset.mem_range.mpr hk, Nat.le_of_not_lt hsmall⟩
    rw [← hsame, Finset.mem_filter] at hmem
    exact absurd hmem.2 (Nat.not_le_of_lt hlarge)
  · intro hagree
    refine congrArg Finset.card (Finset.filter_congr fun k hk => ?_)
    have hk' := Finset.mem_range.mp hk
    constructor
    · intro hsmall
      by_contra hlarge
      exact absurd hsmall (Nat.not_le_of_lt (hagree k hk' (Nat.lt_of_not_le hlarge)))
    · exact fun hlarge => (hle k hk').trans hlarge

end Counting

/-! ## What the writers count

The invariant of the loop over the records: what is counted, whether the file
has failed, and what the buffer and the file hold. -/

section Writers

variable {header : List Bytes} {lines : List (List Bytes)} {total : ℕ}

/-- **A writer and its file**, after a header and lines: the records counted as
written are those whose line ended before more than the file takes had left
the buffer. -/
structure Filed (header : List Bytes) (lines : List (List Bytes)) (total : ℕ) (s : RecordFile) :
    Prop where
  written : s.1.written = linesWithin (handedOver header) lines total
  all : s.1.written + s.1.lost = lines.length
  out : s.1.failed = false ∧ s.2.Holds total (fileBytes header lines)
        (BufWriter.held fileBuffer 0 (filePieces header lines))
      ∨ s.1.failed = true ∧ total < handedOver header lines
        ∧ s.2.Failed total (fileBytes header lines)

/-- A write of a line of the file. -/
theorem writeLine_spec {out : BufWriter UInt8} (h : out.Holds total (fileBytes header lines)
      (BufWriter.held fileBuffer 0 (filePieces header lines))) (text : List Bytes) :
    ((writeLine out text).2 = true ↔ handedOver header (lines ++ [text]) ≤ total)
      ∧ ((writeLine out text).2 = true → (writeLine out text).1.Holds total
        (fileBytes header (lines ++ [text]))
        (BufWriter.held fileBuffer 0 (filePieces header (lines ++ [text]))))
      ∧ ((writeLine out text).2 = false →
        (writeLine out text).1.Failed total (fileBytes header (lines ++ [text]))) := by
  have hfits := BufWriter.held_le_capacity (Nat.zero_le fileBuffer) (filePieces header lines)
  obtain ⟨hiff, hok, hfails⟩ := h.writePieces (linePieces text) hfits
  rw [← fileBytes_snoc, ← BufWriter.held_append, ← filePieces_snoc] at hiff hok
  rw [← fileBytes_snoc] at hfails
  have hheld := held_filePieces_le header (lines ++ [text])
  refine ⟨hiff.trans ?_, hok, hfails⟩
  unfold handedOver
  omega

/-- The header is written like a line. -/
theorem filed_start (header : List Bytes) (total : ℕ) :
    Filed header [] total (startRecords header total) := by
  have hempty : BufWriter.Holds ({ room := total } : BufWriter UInt8) total [] 0 :=
    ⟨rfl, Nat.zero_add _, rfl⟩
  obtain ⟨hiff, hok, hfails⟩ := hempty.writePieces (linePieces header) (Nat.zero_le fileBuffer)
  have hpieces : filePieces header [] = linePieces header := List.append_nil _
  have hbytes : fileBytes header [] = (linePieces header).flatten := by
    rw [fileBytes, hpieces]
  have hheld := held_filePieces_le header []
  rw [List.nil_append, ← hbytes, ← hpieces] at hiff
  refine ⟨rfl, rfl, ?_⟩
  rw [hbytes, hpieces]
  cases hwrite : (writeLine ({ room := total } : BufWriter UInt8) header).2 with
  | true => exact .inl ⟨by simp [startRecords, hwrite], hok hwrite⟩
  | false =>
    refine .inr ⟨by simp [startRecords, hwrite], ?_, hfails hwrite⟩
    by_contra hle
    unfold handedOver at hle
    have hwrong := hiff.mpr (by omega)
    rw [hpieces] at hwrong
    exact absurd (hwrong.symm.trans hwrite) (by decide)

/-- **A record is taken.** -/
theorem Filed.recordLine {s : RecordFile} (h : Filed header lines total s) (text : List Bytes) :
    Filed header (lines ++ [text]) total (WsBlast.recordLine s text) := by
  have hsnoc := linesWithin_snoc (handedOver header) lines total text
  have hmono := handedOver_le_snoc header lines text
  have hall := h.all
  have hwritten := h.written
  unfold WsBlast.recordLine
  obtain ⟨hopen, hout⟩ | ⟨hfailed, hover, hout⟩ := h.out
  · obtain ⟨hiff, hok, hfails⟩ := writeLine_spec hout text
    simp only [hopen, Bool.false_eq_true, if_false]
    cases hwrite : (writeLine s.2 text).2 with
    | true =>
      rw [if_pos (hiff.mp hwrite)] at hsnoc
      refine ⟨?_, ?_, .inl ⟨?_, hok hwrite⟩⟩
      · simp [CaptureWriter.takeRecord, hopen, hsnoc, hwritten]
      · simp [CaptureWriter.takeRecord, hopen]
        omega
      · simp [CaptureWriter.takeRecord, hopen]
    | false =>
      have hover : ¬handedOver header (lines ++ [text]) ≤ total := by
        intro hle
        rw [hiff.mpr hle] at hwrite
        cases hwrite
      rw [if_neg hover] at hsnoc
      refine ⟨?_, ?_, .inr ⟨?_, Nat.lt_of_not_le hover, hfails hwrite⟩⟩
      · simp [CaptureWriter.takeRecord, hopen, hsnoc, hwritten]
      · simp [CaptureWriter.takeRecord, hopen]
        omega
      · simp [CaptureWriter.takeRecord, hopen]
  · have hstill : total < handedOver header (lines ++ [text]) := lt_of_lt_of_le hover hmono
    rw [if_neg (Nat.not_le_of_lt hstill)] at hsnoc
    simp only [hfailed, if_true]
    refine ⟨?_, ?_, .inr ⟨?_, hstill, ?_⟩⟩
    · simp [CaptureWriter.takeRecord, hfailed, hsnoc, hwritten]
    · simp [CaptureWriter.takeRecord, hfailed]
      omega
    · simp [CaptureWriter.takeRecord, hfailed]
    · rw [fileBytes_snoc]
      refine hout.append ?_ _
      unfold handedOver at hover
      omega

/-- Every record is taken. -/
theorem filed_foldl (header : List Bytes) (lines : List (List Bytes)) (total : ℕ) :
    Filed header lines total (lines.foldl WsBlast.recordLine (startRecords header total)) := by
  induction lines using List.reverseRecOn with
  | nil => exact filed_start header total
  | append_singleton lines text ih =>
    rw [List.foldl_append]
    exact ih.recordLine text

/-- The bytes a dropped buffer adds to the file. -/
theorem fileHolds_eq (out : BufWriter UInt8) :
    fileHolds out = out.file ++ out.buffer.take out.room := rfl

/-- A failed file takes nothing more when its buffer is dropped. -/
theorem fileHolds_of_failed {out : BufWriter UInt8} {written : Bytes} (h : out.Failed total written) :
    fileHolds out = written.take total := by
  rw [fileHolds_eq, h.room, List.take_zero, List.append_nil]
  exact h.file

/-- After a flush the file holds as much as it takes, and so it does when the
buffer is dropped. -/
theorem fileHolds_flush {out : BufWriter UInt8} {written : Bytes} {held : ℕ}
    (h : out.Holds total written held) : fileHolds out.flush.1 = written.take total := by
  obtain ⟨hiff, hok, hfails⟩ := h.flush
  cases hflush : out.flush.2 with
  | true =>
    have hafter := hok hflush
    have hempty : out.flush.1.buffer = [] := List.eq_nil_of_length_eq_zero hafter.buffered
    have hfile := hafter.bytes
    rw [hempty, List.append_nil] at hfile
    rw [fileHolds_eq, hempty, List.take_nil, List.append_nil, hfile]
    exact (List.take_of_length_le (hiff.mp hflush)).symm
  | false => exact fileHolds_of_failed (hfails hflush)

/-- **In the end the file holds as much of the header and the lines as it
takes.** -/
theorem Filed.leave {s : RecordFile} (h : Filed header lines total s) :
    (leaveRecords s).1.written = s.1.written ∧ (leaveRecords s).1.lost = s.1.lost
      ∧ fileHolds (leaveRecords s).2 = (fileBytes header lines).take total := by
  unfold leaveRecords
  obtain ⟨hopen, hout⟩ | ⟨hfailed, -, hout⟩ := h.out
  · simp only [hopen, Bool.false_eq_true, if_false]
    exact ⟨rfl, rfl, fileHolds_flush hout⟩
  · simp only [hfailed, if_true]
    exact ⟨rfl, rfl, fileHolds_of_failed hout⟩

end Writers

/-! ## The lines of the file

Lines are told apart by newlines, and a JSON text has none. -/

/-- A JSON text is on one line. -/
def OneLine (text : List Bytes) : Prop := newline ∉ text.flatten

section Lines

variable {header : List Bytes} {lines : List (List Bytes)} (total : ℕ)

/-- A line behind other bytes is complete in the file when the file takes it
all. -/
theorem count_take_line (before : Bytes) {text : List Bytes} (htext : OneLine text) :
    ((before ++ (linePieces text).flatten).take total).count newline
      = (before.take total).count newline
        + if (before ++ (linePieces text).flatten).length ≤ total then 1 else 0 := by
  have hline : (linePieces text).flatten = text.flatten ++ [newline] := by
    simp [linePieces]
  have hnone : text.flatten.count newline = 0 := List.count_eq_zero.mpr htext
  rw [hline]
  split
  · rename_i hall
    rw [List.length_append] at hall
    have hbefore : before.take total = before := List.take_of_length_le (by omega)
    rw [List.take_of_length_le (by rw [List.length_append]; exact hall), hbefore, List.count_append,
      List.count_append, hnone, List.count_singleton_self, Nat.zero_add]
  · rename_i hcut
    simp only [List.length_append, List.length_singleton] at hcut
    have hpart : ((text.flatten ++ [newline]).take (total - before.length)).count newline = 0 := by
      refine List.count_eq_zero.mpr fun hmem => htext ?_
      by_cases hinside : total - before.length ≤ text.flatten.length
      · rw [List.take_append_of_le_length hinside] at hmem
        exact List.mem_of_mem_take hmem
      · omega
    rw [List.take_append, List.count_append, hpart]

/-- The complete lines of the file, the header among them. -/
theorem count_newline_take (hheader : OneLine header) (hlines : ∀ text ∈ lines, OneLine text) :
    ((fileBytes header lines).take total).count newline
      = (if (fileBytes header []).length ≤ total then 1 else 0)
        + linesWithin (fun lines => (fileBytes header lines).length) lines total := by
  induction lines using List.reverseRecOn with
  | nil =>
    have hbytes : fileBytes header [] = [] ++ (linePieces header).flatten := by
      simp [fileBytes, filePieces]
    have hzero : linesWithin (fun lines => (fileBytes header lines).length) [] total = 0 := rfl
    rw [hzero, hbytes, count_take_line total [] hheader, List.take_nil, List.count_nil, Nat.add_comm]
  | append_singleton lines text ih =>
    have htext : OneLine text := hlines text (by simp)
    have hbefore := ih fun other hother => hlines other (by simp [hother])
    rw [linesWithin_snoc, fileBytes_snoc, count_take_line total _ htext, hbefore, Nat.add_assoc]

theorem length_fileBytes_nil_le (header : List Bytes) (lines : List (List Bytes)) :
    (fileBytes header []).length ≤ (fileBytes header lines).length := by
  induction lines using List.reverseRecOn with
  | nil => exact le_rfl
  | append_singleton lines text ih =>
    rw [fileBytes_snoc, List.length_append]
    omega

/-- **The complete records of the file** are those whose line ends within what
the file takes. -/
theorem completeRecords_take (hheader : OneLine header) (hlines : ∀ text ∈ lines, OneLine text) :
    completeRecords ((fileBytes header lines).take total)
      = linesWithin (fun lines => (fileBytes header lines).length) lines total := by
  rw [completeRecords, count_newline_take total hheader hlines]
  split
  · exact Nat.add_sub_cancel_left _ _
  · rename_i hcut
    -- without its header the file has no complete line
    have hnone : linesWithin (fun lines => (fileBytes header lines).length) lines total = 0 := by
      refine Finset.card_eq_zero.mpr (Finset.filter_eq_empty_iff.mpr fun k _ hle => hcut ?_)
      exact (length_fileBytes_nil_le header _).trans hle
    rw [hnone]

variable {total}

/-- **A writer counts what its file holds if and only if every failure is
noticed in time.** -/
theorem Filed.holdsWhatIsCounted_iff {s : RecordFile} (h : Filed header lines total s)
    (hheader : OneLine header) (hlines : ∀ text ∈ lines, OneLine text) :
    s.1.written = completeRecords ((fileBytes header lines).take total)
      ↔ NoticedInTime header lines total := by
  rw [completeRecords_take total hheader hlines, h.written]
  exact linesWithin_eq_iff lines total fun k _ => Nat.sub_le _ _

/-- What is counted apart from the complete lines is then counted as
dropped. -/
theorem holdsWhatIsCounted_of_written {records framesWritten framesDropped : ℕ} {file : Bytes}
    (hall : framesWritten + framesDropped = records) :
    HoldsWhatIsCounted records framesWritten framesDropped file
      ↔ framesWritten = completeRecords file :=
  ⟨fun h => h.written, fun h => ⟨h, by omega⟩⟩

end Lines

/-! ## The merged writer

The limit is on records written and lost together. -/

section Merged

variable {limit : ℕ} {header : List Bytes} {total : ℕ}

/-- The merged writer does what the writer of a local run does with the records
within the limit, and counts the others. -/
structure Mirrors (limit records : ℕ) (s : RecordFile) (m : MergedFile) : Prop where
  written : m.1.written = s.1.written
  lost : m.1.lost = s.1.lost
  failed : m.1.failed = s.1.failed
  out : m.2 = s.2
  overLimit : m.1.overLimit = records - effectiveLimit limit

/-- Within the limit both writers do the same with a record. -/
theorem Mirrors.recordLine {records : ℕ} {s : RecordFile} {m : MergedFile}
    (h : Mirrors limit records s m) (hrecords : s.1.written + s.1.lost = records)
    (hroom : records < effectiveLimit limit) (text : List Bytes) :
    Mirrors limit (records + 1) (WsBlast.recordLine s text) (mergedLine limit m text) := by
  obtain ⟨hwritten, hlost, hfailed, hout, hover⟩ := h
  have hunder : ¬effectiveLimit limit ≤ s.1.written + s.1.lost := by omega
  have hnone : m.1.overLimit = records + 1 - effectiveLimit limit := by omega
  unfold mergedLine WsBlast.recordLine ClusterCapture.writeRecord CaptureWriter.takeRecord
  rw [hwritten, hlost, hfailed, hout]
  cases hs : s.1.failed with
  | true =>
    simp only [hunder, false_or, if_true, if_false]
    exact ⟨rfl, rfl, rfl, rfl, hnone⟩
  | false =>
    simp only [hunder, false_or, Bool.false_eq_true, if_false]
    cases (writeLine s.2 text).2 with
    | true =>
      simp only [if_true]
      exact ⟨rfl, rfl, rfl, rfl, hnone⟩
    | false =>
      simp only [Bool.false_eq_true, if_false]
      exact ⟨rfl, rfl, rfl, rfl, hnone⟩

/-- Past the limit the merged writer only counts. -/
theorem Mirrors.pastLimit {records : ℕ} {s : RecordFile} {m : MergedFile}
    (h : Mirrors limit records s m) (hreached : s.1.written + s.1.lost = effectiveLimit limit)
    (hroom : effectiveLimit limit ≤ records) (text : List Bytes) :
    Mirrors limit (records + 1) s (mergedLine limit m text) := by
  obtain ⟨hwritten, hlost, hfailed, hout, hover⟩ := h
  have hmerged : effectiveLimit limit ≤ m.1.written + m.1.lost := by omega
  unfold mergedLine ClusterCapture.writeRecord
  simp only [hmerged, true_or, if_true]
  refine ⟨hwritten, hlost, hfailed, hout, ?_⟩
  show m.1.overLimit + 1 = records + 1 - effectiveLimit limit
  omega

theorem mirrors_foldl (limit : ℕ) (header : List Bytes) (total : ℕ) (lines : List (List Bytes)) :
    Mirrors limit lines.length
      ((lines.take (effectiveLimit limit)).foldl WsBlast.recordLine (startRecords header total))
      (lines.foldl (mergedLine limit) (startMerged header total)) := by
  induction lines using List.reverseRecOn with
  | nil =>
    rw [List.take_nil]
    exact ⟨rfl, rfl, rfl, rfl, (Nat.zero_sub _).symm⟩
  | append_singleton lines text ih =>
    have hall := (filed_foldl header (lines.take (effectiveLimit limit)) total).all
    rw [List.length_take] at hall
    rw [List.foldl_append, List.foldl_cons, List.foldl_nil, List.length_append, List.length_singleton]
    by_cases hroom : lines.length < effectiveLimit limit
    · have hbefore : lines.take (effectiveLimit limit) = lines := List.take_of_length_le hroom.le
      have hafter : (lines ++ [text]).take (effectiveLimit limit) = lines ++ [text] :=
        List.take_of_length_le (by simpa using hroom)
      rw [hbefore] at ih hall
      rw [hafter, List.foldl_append]
      exact ih.recordLine (by omega) hroom text
    · have hafter : (lines ++ [text]).take (effectiveLimit limit)
          = lines.take (effectiveLimit limit) :=
        List.take_append_of_le_length (Nat.le_of_not_lt hroom)
      rw [hafter]
      exact ih.pastLimit (by omega) (Nat.le_of_not_lt hroom) text

theorem Mirrors.leave {records : ℕ} {s : RecordFile} {m : MergedFile}
    (h : Mirrors limit records s m) : Mirrors limit records (leaveRecords s) (leaveMerged m) := by
  obtain ⟨hwritten, hlost, hfailed, hout, hover⟩ := h
  unfold leaveRecords leaveMerged
  rw [hfailed, hout]
  cases hs : s.1.failed with
  | true =>
    simp only [if_true]
    exact ⟨hwritten, hlost, by simp [CaptureWriter.leave, hfailed, hs], rfl, hover⟩
  | false =>
    simp only [Bool.false_eq_true, if_false]
    exact ⟨hwritten, hlost, by simp [CaptureWriter.leave, hs], rfl, hover⟩

end Merged

/-- The lines of batches, in the order in which they are written. -/
def batchLines (text : MergedLine → List Bytes) (batches : List MergedBatch) : List (List Bytes) :=
  batches.flatMap fun batch =>
    batch.records.map fun record => text (.new batch.agent batch.offsetUs record)

theorem writeMerged_eq (text : MergedLine → List Bytes) (header : List Bytes) (limit : ℕ)
    (batches : List MergedBatch) (room : ℕ) :
    writeMerged text header limit batches room
      = leaveMerged
          ((batchLines text batches).foldl (mergedLine limit) (startMerged header room)) := by
  unfold writeMerged batchLines
  rw [List.foldl_flatMap]
  simp only [List.foldl_map]

/-! ## Both writers

The equivalence for each, and both of them in one theorem. -/

/-- **The file of a local run holds what is counted if and only if every
failure is noticed in time.** -/
theorem writeRecords_holds_iff {text : CaptureFileLine → List Bytes}
    (htext : ∀ line, OneLine (text line)) {header : List Bytes} (hheader : OneLine header)
    (records : List CaptureRecord) (room : ℕ) :
    HoldsWhatIsCounted records.length (writeRecords text header records room).1.written
        (writeRecords text header records room).1.lost
        (fileHolds (writeRecords text header records room).2)
      ↔ NoticedInTime header (records.map fun record => text (.new record)) room := by
  have hfiled := filed_foldl header (records.map fun record => text (.new record)) room
  obtain ⟨hwritten, hlost, hfile⟩ := hfiled.leave
  have hall := hfiled.all
  rw [List.length_map] at hall
  have hlines : ∀ line ∈ records.map (fun record => text (.new record)), OneLine line := by
    intro line hline
    obtain ⟨record, -, rfl⟩ := List.mem_map.mp hline
    exact htext _
  unfold writeRecords
  rw [hwritten, hlost, hfile, holdsWhatIsCounted_of_written hall]
  exact hfiled.holdsWhatIsCounted_iff hheader hlines

/-- **So does the merged file**, with the records within the limit. -/
theorem writeMerged_holds_iff {text : MergedLine → List Bytes} (htext : ∀ line, OneLine (text line))
    {header : List Bytes} (hheader : OneLine header) (limit : ℕ) (batches : List MergedBatch)
    (room : ℕ) :
    HoldsWhatIsCounted (batchLines text batches).length
        (writeMerged text header limit batches room).1.written
        ((writeMerged text header limit batches room).1.lost
          + (writeMerged text header limit batches room).1.overLimit)
        (fileHolds (writeMerged text header limit batches room).2)
      ↔ NoticedInTime header ((batchLines text batches).take (effectiveLimit limit)) room := by
  have hmirrors := (mirrors_foldl limit header room (batchLines text batches)).leave
  have hfiled := filed_foldl header ((batchLines text batches).take (effectiveLimit limit)) room
  obtain ⟨hwritten, hlost, hfile⟩ := hfiled.leave
  have hall := hfiled.all
  rw [List.length_take] at hall
  have hlines : ∀ line ∈ (batchLines text batches).take (effectiveLimit limit), OneLine line := by
    intro line hline
    obtain ⟨batch, -, hmem⟩ := List.mem_flatMap.mp (List.mem_of_mem_take hline)
    obtain ⟨record, -, rfl⟩ := List.mem_map.mp hmem
    exact htext _
  rw [writeMerged_eq, hmirrors.written, hmirrors.lost, hmirrors.out, hmirrors.overLimit, hwritten,
    hlost, hfile, holdsWhatIsCounted_of_written (by omega)]
  exact hfiled.holdsWhatIsCounted_iff hheader hlines

/-- **Frames written are what the file holds exactly when every failure is
noticed in time**, in both writers, for all records, all batches and every
number of bytes the file takes before it starts to fail. -/
theorem framesWritten_in_file_iff {text : CaptureFileLine → List Bytes}
    {mergedText : MergedLine → List Bytes} (htext : ∀ line, OneLine (text line))
    (hmergedText : ∀ line, OneLine (mergedText line)) {header : List Bytes}
    (hheader : OneLine header) (room : ℕ) :
    (∀ records : List CaptureRecord,
      HoldsWhatIsCounted records.length (writeRecords text header records room).1.written
          (writeRecords text header records room).1.lost
          (fileHolds (writeRecords text header records room).2)
        ↔ NoticedInTime header (records.map fun record => text (.new record)) room)
    ∧ ∀ (limit : ℕ) (batches : List MergedBatch),
      HoldsWhatIsCounted (batchLines mergedText batches).length
          (writeMerged mergedText header limit batches room).1.written
          ((writeMerged mergedText header limit batches room).1.lost
            + (writeMerged mergedText header limit batches room).1.overLimit)
          (fileHolds (writeMerged mergedText header limit batches room).2)
        ↔ NoticedInTime header ((batchLines mergedText batches).take (effectiveLimit limit)) room :=
  ⟨fun records => writeRecords_holds_iff htext hheader records room,
    fun limit batches => writeMerged_holds_iff hmergedText hheader limit batches room⟩

/-! ### A file on a full disk

The shortest capture that miscounts: a header and one record, on a disk that
takes nothing. -/

/-- The bytes of a text of ASCII characters. -/
def asciiBytes (text : String) : Bytes := text.toList.map fun c => UInt8.ofNat c.toNat

/-- The header of a capture. -/
def someHeader : List Bytes := [asciiBytes "\x7b\"wsblast_capture\":1\x7d"]

/-- The text of the open event of worker 0, five microseconds into the run. -/
def openText : List Bytes :=
  [asciiBytes "\x7b\"t_us\":5,\"worker\":0,\"dir\":\"recv\",\"kind\":\"open\",\"len\":0\x7d"]

/-- The open event. -/
def openRecord : CaptureRecord := ⟨⟨0, .recv, .opened⟩, 5⟩

theorem openText_oneLine : OneLine openText := by
  unfold OneLine
  decide +kernel

theorem someHeader_oneLine : OneLine someHeader := by
  unfold OneLine
  decide +kernel

/-- The header and the record fit in the buffer, so the full disk shows at the
flush: the record is counted as written, and the file is empty. -/
theorem fullDisk_counts :
    ¬HoldsWhatIsCounted [openRecord].length
        (writeRecords (fun _ => openText) someHeader [openRecord] 0).1.written
        (writeRecords (fun _ => openText) someHeader [openRecord] 0).1.lost
        (fileHolds (writeRecords (fun _ => openText) someHeader [openRecord] 0).2)
      ∧ (writeRecords (fun _ => openText) someHeader [openRecord] 0).1.written = 1
      ∧ fileHolds (writeRecords (fun _ => openText) someHeader [openRecord] 0).2 = [] := by
  have hwritten : (writeRecords (fun _ => openText) someHeader [openRecord] 0).1.written = 1 := by
    decide +kernel
  have hfile : fileHolds (writeRecords (fun _ => openText) someHeader [openRecord] 0).2 = [] := by
    decide +kernel
  refine ⟨fun h => ?_, hwritten, hfile⟩
  have hcounted := h.written
  rw [hwritten, hfile] at hcounted
  exact absurd hcounted (by decide)

/-- With room for the header and the record, the file holds the record that is
counted. -/
theorem roomyDisk_counts :
    HoldsWhatIsCounted [openRecord].length
      (writeRecords (fun _ => openText) someHeader [openRecord] 100).1.written
      (writeRecords (fun _ => openText) someHeader [openRecord] 100).1.lost
      (fileHolds (writeRecords (fun _ => openText) someHeader [openRecord] 100).2) := by
  have hiff := (framesWritten_in_file_iff (fun _ : CaptureFileLine => openText_oneLine)
    (fun _ : MergedLine => openText_oneLine) someHeader_oneLine 100).1 [openRecord]
  refine hiff.mpr ?_
  decide +kernel

end WsBlast
