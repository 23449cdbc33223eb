import WsBlast.Replay

/-!
# Replay undoes capture

`Recorded` is a record with the agent it came from and the time its line
names. The first half of this module follows a capture through the reader:
the lines of the text are those that were written, every line is read as the
record it was written for (`ReadsAs`), and its frame is the frame received, if
it is one. The second half is about the recorded workers: grouping the lines
by agent and worker and sorting their frames by time gives back the frames of
each worker in the order in which they were recorded.

What is assumed of the JSON library is asked of the values at hand: their texts
are read back, stand on one line, and are in braces when they are objects.
Base64 and the names of fields are not assumed, they are computed.
-/

namespace WsBlast

/-! ## Records and their lines

A record with its agent and its moved time is what both writers and the reader
agree on. -/

/-- A record as it stands in a capture file. -/
structure Recorded where
  agent : ℕ
  worker : ℕ
  tUs : ℕ
  dir : Dir
  event : CaptureEvent
  deriving DecidableEq, Repr

namespace Recorded

/-- A record of a local run. -/
def ofRecord (record : CaptureRecord) : Recorded :=
  ⟨0, record.worker, record.tUs, record.dir, record.event⟩

/-- A record of an agent, with its time moved by the start of the phase. -/
def ofAgent (agent offsetUs : ℕ) (record : CaptureRecord) : Recorded :=
  ⟨agent, record.worker, min (record.tUs + offsetUs) u64Max, record.dir, record.event⟩

/-- The connection slot of a record. -/
def slot (r : Recorded) : ℕ ×ₗ ℕ := toLex (r.agent, r.worker)

/-- The data frame of a record, if it is one that was received. -/
def received (r : Recorded) : Option Message :=
  match r.dir, r.event with
  | .recv, .text text => some (.text text)
  | .recv, .binary bytes => some (.binary bytes)
  | _, _ => none

/-- The numbers of a record fit the types of the source. -/
def InRange (r : Recorded) : Prop := r.agent < 2 ^ 64 ∧ r.worker < 2 ^ 64 ∧ r.tUs < 2 ^ 64

end Recorded

/-- A line is read as a record: what the reader takes from it names the
record's slot and time, and its frame is the one received. -/
def ReadsAs (line : Json) (r : Recorded) : Prop :=
  ∃ read, CaptureLine.fromJson line = some read ∧ toLex (read.agent, read.worker) = r.slot
    ∧ read.tUs = r.tUs ∧ read.frame = .ok r.received

theorem Json.asU64_nat {n : ℕ} (h : n < 2 ^ 64) : (Json.nat n).asU64 = some n :=
  asU64_number_toString h

/-- A line of a local run is read as it was written. -/
theorem fromJson_captureFileLine (line : CaptureFileLine) (htime : line.tUs < 2 ^ 64)
    (hworker : line.worker < 2 ^ 64) : CaptureLine.fromJson line.toJson
      = some ⟨line.tUs, 0, line.worker, line.dir, line.kind, line.data⟩ := by
  obtain ⟨tUs, worker, dir, kind, len, code, data⟩ := line
  cases code <;> cases data <;>
    simp [CaptureLine.fromJson, CaptureFileLine.toJson, CaptureLine.field, optionalField,
      Json.asU64_nat htime, Json.asU64_nat hworker, CaptureLine.asText, CaptureLine.asOptionalText]

/-- So is a line of a distributed run. -/
theorem fromJson_mergedLine (line : MergedLine) (htime : line.tUs < 2 ^ 64)
    (hagent : line.agent < 2 ^ 64) (hworker : line.worker < 2 ^ 64) :
    CaptureLine.fromJson line.toJson
      = some ⟨line.tUs, line.agent, line.worker, line.dir, line.kind, line.data⟩ := by
  obtain ⟨tUs, agent, worker, dir, kind, len, code, data⟩ := line
  cases code <;> cases data <;>
    simp [CaptureLine.fromJson, MergedLine.toJson, CaptureLine.field, optionalField,
      Json.asU64_nat htime, Json.asU64_nat hagent, Json.asU64_nat hworker, CaptureLine.asText,
      CaptureLine.asOptionalText]

/-- The frame of a record's line is the frame received, if it is one: an empty
text and an empty payload are data, a Close frame is none whatever it
carries. -/
theorem frame_captureFileLine (record : CaptureRecord) (agent tUs : ℕ) :
    CaptureLine.frame ⟨tUs, agent, record.worker, (CaptureFileLine.new record).dir,
        (CaptureFileLine.new record).kind, (CaptureFileLine.new record).data⟩
      = .ok (Recorded.ofRecord record).received := by
  obtain ⟨⟨worker, dir, event⟩, t⟩ := record
  -- by the kind of the frame, whichever way it went
  cases dir with
  | sent => cases event <;> simp [CaptureLine.frame, CaptureFileLine.new, Dir.asStr,
      Recorded.received, Recorded.ofRecord]
  | recv =>
    cases event with
    | opened => simp [CaptureLine.frame, CaptureFileLine.new, Dir.asStr, Recorded.received,
        Recorded.ofRecord]
    | text text => simp [CaptureLine.frame, CaptureFileLine.new, Dir.asStr, Recorded.received,
        Recorded.ofRecord]
    | binary bytes => simp [CaptureLine.frame, CaptureFileLine.new, Dir.asStr, Recorded.received,
        Recorded.ofRecord, Base64.decode_encode]
    | close frame => cases frame <;> simp [CaptureLine.frame, CaptureFileLine.new, Dir.asStr,
        Recorded.received, Recorded.ofRecord]

/-- **A line of a local run is read as its record.** -/
theorem readsAs_ofRecord (record : CaptureRecord) (h : (Recorded.ofRecord record).InRange) :
    ReadsAs (CaptureFileLine.new record).toJson (.ofRecord record) := by
  refine ⟨_, fromJson_captureFileLine (.new record) h.2.2 h.2.1, rfl, rfl, ?_⟩
  exact frame_captureFileLine record 0 record.tUs

/-- **A line of a distributed run is read as the record of its agent.** -/
theorem readsAs_ofAgent (agent offsetUs : ℕ) (record : CaptureRecord)
    (h : (Recorded.ofAgent agent offsetUs record).InRange) :
    ReadsAs (MergedLine.new agent offsetUs (wireRecord record)).toJson
      (.ofAgent agent offsetUs record) := by
  refine ⟨_, fromJson_mergedLine (.new agent offsetUs (wireRecord record)) h.2.2 h.1 h.2.1, rfl,
    rfl, ?_⟩
  exact frame_captureFileLine record agent _

/-! ## The lines of the text -/

/-- **What is assumed of `serde_json` for a value**: parsing its text yields the
value, and an object is on one line, in braces. -/
structure Serde.WritesLine (serde : Serde) (value : Json) : Prop where
  reads : serde.fromStr (serde.toText value) = some value
  oneLine : '\n' ∉ (serde.toText value).toList
  braces : ∃ inner, (serde.toText value).toList = '\x7b' :: inner ++ ['\x7d']

section Text

variable {serde : Serde}

/-- The lines of the text of a capture. -/
theorem splitOn_captureText (values : List Json) (h : ∀ value ∈ values, serde.WritesLine value) :
    (values.flatMap fun value => (serde.toText value).toList ++ ['\n']).splitOn '\n'
      = values.map (fun value => (serde.toText value).toList) ++ [[]] := by
  induction values with
  | nil => rfl
  | cons value rest ih =>
    have hnone := (h value List.mem_cons_self).oneLine
    have hrest := ih fun other hother => h other (List.mem_cons_of_mem _ hother)
    rw [List.flatMap_cons, List.append_assoc, List.singleton_append,
      List.splitOn_append_cons_self_of_not_mem hnone, hrest, List.map_cons, List.cons_append]

/-- A text in braces does not end with a carriage return. -/
theorem withoutReturn_toText {value : Json} (h : serde.WritesLine value) :
    withoutReturn (serde.toText value).toList = (serde.toText value).toList := by
  obtain ⟨inner, hinner⟩ := h.braces
  rw [hinner, withoutReturn, List.getLast?_append, if_neg]
  simp

/-- Nor does it begin or end with white space. -/
theorem trim_toText {value : Json} (h : serde.WritesLine value) :
    trim (serde.toText value) = serde.toText value := by
  obtain ⟨inner, hinner⟩ := h.braces
  have hopen : isWhiteSpace '\x7b' = false := by decide
  have hclose : isWhiteSpace '\x7d' = false := by decide
  have hchars : trimChars (serde.toText value).toList = (serde.toText value).toList := by
    rw [hinner, trimChars, List.cons_append, List.dropWhile_cons, hopen]
    simp [hclose]
  rw [trim, hchars, String.ofList_toList]

theorem textLines_captureText {header : Json} {lines : List Json}
    (h : ∀ value ∈ header :: lines, serde.WritesLine value) :
    textLines (captureText serde header lines) = (header :: lines).map serde.toText := by
  unfold textLines captureText
  rw [String.toList_ofList, splitOn_captureText _ h]
  -- the last line feed ends the text: no line comes after it
  simp only [List.getLast?_append, List.getLast?_singleton, Option.some_or, Option.toList_some,
    List.dropLast_concat, List.filter_cons, List.filter_nil, ne_eq, not_true_eq_false,
    decide_false, Bool.false_eq_true, if_false, List.append_nil, List.map_map]
  refine List.map_congr_left fun value hvalue => ?_
  rw [Function.comp_apply, Function.comp_apply, withoutReturn_toText (h value hvalue),
    String.ofList_toList]

/-- No line of a capture is blank. -/
theorem toText_ne_empty {value : Json} (h : serde.WritesLine value) : serde.toText value ≠ "" := by
  obtain ⟨inner, hinner⟩ := h.braces
  intro hempty
  rw [hempty] at hinner
  cases hinner

/-- **The numbered lines of a capture are those that were written.** -/
theorem numberedLines_captureText {header : Json} {lines : List Json}
    (h : ∀ value ∈ header :: lines, serde.WritesLine value) :
    ReplayScript.numberedLines (captureText serde header lines)
      = ((header :: lines).zipIdx.map fun line => (line.2 + 1, serde.toText line.1)) := by
  have hmap : ((header :: lines).map serde.toText).zipIdx.map (fun line => (line.2 + 1, trim line.1))
      = (header :: lines).zipIdx.map fun line => (line.2 + 1, serde.toText line.1) := by
    rw [List.zipIdx_map, List.map_map]
    refine List.map_congr_left fun line hline => ?_
    have hmem : line.1 ∈ header :: lines := List.fst_mem_of_mem_zipIdx hline
    simp [trim_toText (h line.1 hmem)]
  rw [ReplayScript.numberedLines, textLines_captureText h, hmap]
  refine List.filter_eq_self.mpr fun line hline => ?_
  obtain ⟨entry, hentry, rfl⟩ := List.mem_map.mp hline
  have hmem : entry.1 ∈ header :: lines := List.fst_mem_of_mem_zipIdx hentry
  simpa using toText_ne_empty (h entry.1 hmem)

end Text

/-! ## The recorded workers

Grouping is a fold over the lines into an ordered map (`OrderedMap.group`), so
the value of a worker is a fold over its own lines. -/

/-- The records of a slot. -/
def recordsOf (recorded : List Recorded) (slot : ℕ ×ₗ ℕ) : List Recorded :=
  recorded.filter fun r => r.slot = slot

/-- The data frames received among some records, with their times. -/
def receivedFrames (records : List Recorded) : List (ℕ × Message) :=
  records.filterMap fun r => r.received.map fun message => (r.tUs, message)

/-- The smallest time of some records. -/
def firstTime (records : List Recorded) : ℕ := (records.map Recorded.tUs).min?.getD 0

/-- **The frames a worker is to be sent**: those it received, in recorded order,
each at its time since the worker's first record. -/
def workerFrames (recorded : List Recorded) (slot : ℕ ×ₗ ℕ) : List ReplayFrame :=
  (receivedFrames (recordsOf recorded slot)).map fun frame =>
    { offset := .ofMicros (frame.1 - firstTime (recordsOf recorded slot)), message := frame.2 }

/-- **What a capture is replayed as**: the frames of every worker that received
a data frame, in agent and worker order. -/
def replayed (recorded : List Recorded) : List (List ReplayFrame) :=
  (((recorded.filter fun r => r.received.isSome).map Recorded.slot).toFinset.sort (· ≤ ·)).map
    (workerFrames recorded)

/-- Each worker's records are in non-decreasing time. -/
def InOrder (recorded : List Recorded) : Prop :=
  ∀ slot, (recordsOf recorded slot).Pairwise fun a b => a.tUs ≤ b.tUs

/-- A record is added to the recorded workers. -/
def addRecorded (r : Recorded) : Option RecordedWorker → RecordedWorker :=
  RecordedWorker.add r.tUs r.received

/-- Every line of a capture is added. -/
theorem foldlM_addLine {host : Host} (source : String) {lines : List Json}
    {recorded : List Recorded} (hlines : ∀ value ∈ lines, host.serde.WritesLine value)
    (hreads : List.Forall₂ ReadsAs lines recorded) (start : ℕ)
    (workers : List ((ℕ ×ₗ ℕ) × RecordedWorker)) :
    ((lines.zipIdx start).map fun line => (line.2 + 1, host.serde.toText line.1)).foldlM
        (ReplayScript.addLine host source) workers
      = .ok (recorded.foldl (fun m r => OrderedMap.alter r.slot (addRecorded r) m) workers) := by
  induction hreads generalizing start workers with
  | nil => rfl
  | @cons line r lines recorded hline _ ih =>
    obtain ⟨read, hread, hslot, htime, hframe⟩ := hline
    have hparsed : (host.serde.fromStr (host.serde.toText line)).bind CaptureLine.fromJson
        = some read := by
      rw [(hlines line List.mem_cons_self).reads]
      exact hread
    have hadd : ReplayScript.addLine host source workers (start + 1, host.serde.toText line)
        = .ok (OrderedMap.alter r.slot (addRecorded r) workers) := by
      unfold ReplayScript.addLine addRecorded
      rw [hparsed]
      simp only [hframe, hslot, htime]
    rw [List.zipIdx_cons, List.map_cons, List.foldlM_cons, hadd]
    exact ih (fun value hvalue => hlines value (List.mem_cons_of_mem _ hvalue)) (start + 1) _

/-- The value of a slot: its first time and its frames. -/
theorem groupValue_addRecorded (records : List Recorded) :
    OrderedMap.groupValue addRecorded records
      = (records.map Recorded.tUs).min?.map fun first => (first, receivedFrames records) := by
  induction records using List.reverseRecOn with
  | nil => rfl
  | append_singleton records r ih =>
    have hsnoc : OrderedMap.groupValue addRecorded (records ++ [r])
        = some (addRecorded r (OrderedMap.groupValue addRecorded records)) := by
      simp [OrderedMap.groupValue]
    have hframes : receivedFrames (records ++ [r])
        = receivedFrames records ++ (r.received.map fun message => (r.tUs, message)).toList := by
      unfold receivedFrames
      rw [List.filterMap_append, List.filterMap_cons, List.filterMap_nil]
      cases hreceived : r.received with
      | none => simp
      | some message => simp
    rw [hsnoc, hframes, ih, List.map_append, List.map_singleton]
    cases records with
    | nil => simp [addRecorded, RecordedWorker.add, receivedFrames]
    | cons first rest =>
      rw [List.map_cons, List.cons_append, List.min?_cons', List.min?_cons', List.foldl_append]
      simp [addRecorded, RecordedWorker.add]

/-- Frames in non-decreasing time stay as they are. -/
theorem replay_of_inOrder {first : ℕ} {records : List Recorded}
    (h : records.Pairwise fun a b => a.tUs ≤ b.tUs) :
    RecordedWorker.replay (first, receivedFrames records)
      = (receivedFrames records).map fun frame =>
        { offset := .ofMicros (frame.1 - first), message := frame.2 } := by
  have hsorted : (receivedFrames records).Pairwise fun a b => decide (a.1 ≤ b.1) = true := by
    refine List.Pairwise.filterMap _ ?_ h
    intro a b hab x hx y hy
    obtain ⟨m, -, rfl⟩ := Option.map_eq_some_iff.mp hx
    obtain ⟨m', -, rfl⟩ := Option.map_eq_some_iff.mp hy
    exact decide_eq_true hab
  rw [RecordedWorker.replay, List.mergeSort_of_pairwise hsorted]

/-- A slot has frames if and only if a record of it is a data frame
received. -/
theorem receivedFrames_recordsOf_ne_nil_iff (recorded : List Recorded) (slot : ℕ ×ₗ ℕ) :
    receivedFrames (recordsOf recorded slot) ≠ []
      ↔ slot ∈ (recorded.filter fun r => r.received.isSome).map Recorded.slot := by
  constructor
  · intro hne
    obtain ⟨frame, hframe⟩ := List.exists_mem_of_ne_nil _ hne
    obtain ⟨r, hr, hsome⟩ := List.mem_filterMap.mp hframe
    obtain ⟨message, hmessage, -⟩ := Option.map_eq_some_iff.mp hsome
    obtain ⟨hrecorded, hslot⟩ := List.mem_filter.mp hr
    refine List.mem_map.mpr ⟨r, List.mem_filter.mpr ⟨hrecorded, ?_⟩, of_decide_eq_true hslot⟩
    rw [hmessage]
    rfl
  · intro hslot
    obtain ⟨r, hr, rfl⟩ := List.mem_map.mp hslot
    obtain ⟨hrecorded, hsome⟩ := List.mem_filter.mp hr
    obtain ⟨message, hmessage⟩ := Option.isSome_iff_exists.mp hsome
    have hframe : (r.tUs, message) ∈ receivedFrames (recordsOf recorded r.slot) := by
      refine List.mem_filterMap.mpr ⟨r, ?_, ?_⟩
      · exact List.mem_filter.mpr ⟨hrecorded, decide_eq_true rfl⟩
      · rw [hmessage]
        rfl
    exact List.ne_nil_of_mem hframe

/-- **Grouping and sorting gives the frames of every worker back.** -/
theorem workers_eq_replayed {recorded : List Recorded} (horder : InOrder recorded) :
    (((OrderedMap.group Recorded.slot addRecorded recorded).map Prod.snd).filter
        fun worker => worker.2 ≠ []).map RecordedWorker.replay = replayed recorded := by
  have hvalue : ∀ slot ∈ recorded.map Recorded.slot,
      OrderedMap.groupValue addRecorded (recorded.filter fun r => r.slot = slot)
        = some (firstTime (recordsOf recorded slot),
          receivedFrames (recordsOf recorded slot)) := by
    intro slot hslot
    obtain ⟨r, hr, rfl⟩ := List.mem_map.mp hslot
    rw [groupValue_addRecorded]
    have hmem : r ∈ recorded.filter fun other => other.slot = r.slot :=
      List.mem_filter.mpr ⟨hr, by simp⟩
    cases hmin : ((recorded.filter fun other => other.slot = r.slot).map Recorded.tUs).min? with
    | none =>
      rw [List.min?_eq_none_iff, List.map_eq_nil_iff] at hmin
      rw [hmin] at hmem
      cases hmem
    | some first => simp [firstTime, recordsOf, hmin]
  rw [OrderedMap.group_eq Recorded.slot addRecorded recorded _ hvalue, List.map_map, List.filter_map,
    List.map_map]
  have hkeys : ((recorded.map Recorded.slot).toFinset.sort (· ≤ ·)).filter
      (fun slot => decide (receivedFrames (recordsOf recorded slot) ≠ []))
      = ((recorded.filter fun r => r.received.isSome).map Recorded.slot).toFinset.sort (· ≤ ·) := by
    rw [OrderedMap.filter_sort]
    congr 1
    ext slot
    rw [Finset.mem_filter, List.mem_toFinset, List.mem_toFinset,
      receivedFrames_recordsOf_ne_nil_iff, and_iff_right_iff_imp]
    intro hslot
    obtain ⟨r, hr, rfl⟩ := List.mem_map.mp hslot
    exact List.mem_map_of_mem (List.mem_of_mem_filter hr)
  rw [replayed, ← hkeys]
  refine List.map_congr_left fun slot _ => ?_
  exact replay_of_inOrder (horder slot)

/-! ## Reading what was written

Both formats, and the condition under which there is something to read. -/

section RoundTrip

variable {host : Host} {source : String} {header : Json} {lines : List Json}
  {recorded : List Recorded}

/-- **Reading a capture that was written**: with a header of the format's
version and lines that are read as their records, the script is what the
capture is replayed as. -/
theorem parse_captureText (hlines : ∀ value ∈ header :: lines, host.serde.WritesLine value)
    (hversion : (header.member "wsblast_capture").bind Json.asU64 = some formatVersion)
    (hreads : List.Forall₂ ReadsAs lines recorded) (horder : InOrder recorded) :
    ReplayScript.parse host source (captureText host.serde header lines)
      = if h : replayed recorded = [] then
          .error s!"--replay: '{source}' has no received text or binary frames to replay"
        else .ok ⟨source, replayed recorded, h⟩ := by
  have hheader : ReplayScript.headerVersion host (host.serde.toText header) = some formatVersion := by
    unfold ReplayScript.headerVersion
    rw [(hlines header List.mem_cons_self).reads]
    exact hversion
  have hfold := foldlM_addLine source
    (fun value hvalue => hlines value (List.mem_cons_of_mem _ hvalue)) hreads 1 []
  unfold ReplayScript.parse
  rw [numberedLines_captureText hlines, List.zipIdx_cons, List.map_cons]
  dsimp only
  rw [hheader]
  simp only [ne_eq, not_true_eq_false, if_false, Nat.zero_add, hfold]
  show (if h : _ = [] then _ else _ : Except String ReplayScript) = _
  have hworkers := workers_eq_replayed horder
  unfold OrderedMap.group at hworkers
  simp only [ne_eq] at hworkers
  simp only [hworkers]

/-- A capture is replayed if and only if it has a data frame that was
received. -/
theorem replayed_ne_nil_iff (recorded : List Recorded) :
    replayed recorded ≠ [] ↔ ∃ r ∈ recorded, r.received.isSome := by
  rw [Ne, replayed, List.map_eq_nil_iff, ← List.length_eq_zero_iff, Finset.length_sort,
    Finset.card_eq_zero, List.toFinset_eq_empty_iff, List.map_eq_nil_iff, List.filter_eq_nil_iff]
  simp [Option.isSome_iff_ne_none]

/-- What parsing a capture gives, as one statement. -/
structure Undone (host : Host) (source : String) (text : String) (recorded : List Recorded) :
    Prop where
  /-- It succeeds exactly when there is something to replay. -/
  succeeds : (∃ script, ReplayScript.parse host source text = .ok script)
    ↔ ∃ r ∈ recorded, r.received.isSome
  workers : ∀ script, ReplayScript.parse host source text = .ok script →
    script.workers = replayed recorded
  /-- Connections are given the scripts in turn. -/
  turns : ∀ script, ReplayScript.parse host source text = .ok script → ∀ k,
    (replayed recorded)[k % (replayed recorded).length]? = some (script.framesFor k)

theorem undone_of_parse_eq {text : String}
    (hparse : ReplayScript.parse host source text
      = if h : replayed recorded = [] then
          .error s!"--replay: '{source}' has no received text or binary frames to replay"
        else .ok ⟨source, replayed recorded, h⟩) : Undone host source text recorded := by
  have hscript : ∀ script, ReplayScript.parse host source text = .ok script →
      script.workers = replayed recorded := by
    intro script hok
    rw [hparse] at hok
    split at hok
    · cases hok
    · obtain rfl := Except.ok.inj hok
      rfl
  refine ⟨?_, hscript, ?_⟩
  · rw [← replayed_ne_nil_iff, hparse]
    constructor
    · rintro ⟨script, hok⟩ hnil
      rw [dif_pos hnil] at hok
      cases hok
    · intro hne
      exact ⟨_, dif_neg hne⟩
  · intro script hok k
    rw [← hscript script hok]
    exact List.getElem?_eq_getElem _

/-- The header of a capture names the version that is read. -/
theorem captureHeader_version (target started : String) (agents : Option (List String)) :
    ((captureHeader target started agents).member "wsblast_capture").bind Json.asU64
      = some formatVersion := by
  simp [captureHeader, Json.member, Json.asU64_nat (n := formatVersion) (by decide)]

end RoundTrip

/-- Records of an agent in a phase, as they reach the coordinator. -/
structure AgentRecords where
  agent : ℕ
  offsetUs : ℕ
  records : List CaptureRecord
  deriving DecidableEq, Repr

/-- The lines the coordinator writes for them. -/
def AgentRecords.lines (batch : AgentRecords) : List Json :=
  batch.records.map fun record =>
    (MergedLine.new batch.agent batch.offsetUs (wireRecord record)).toJson

/-- The records of a batch, in order. -/
def AgentRecords.recorded (batch : AgentRecords) : List Recorded :=
  batch.records.map (.ofAgent batch.agent batch.offsetUs)

/-- **Replay undoes capture.** For a local run and for a distributed one, with
any records of any workers, each worker's in non-decreasing time: reading the
header and the lines that were written succeeds if and only if a data frame
was received, and then gives every worker that received one exactly the frames
it received, in order, at their times since its first record. -/
theorem replay_undoes_capture (host : Host) (source target started : String) :
    (∀ records : List CaptureRecord,
      (∀ record ∈ records, (Recorded.ofRecord record).InRange) →
      InOrder (records.map .ofRecord) →
      (∀ value ∈ captureHeader target started none
        :: records.map (fun record => (CaptureFileLine.new record).toJson),
          host.serde.WritesLine value) →
      Undone host source
        (captureText host.serde (captureHeader target started none)
          (records.map fun record => (CaptureFileLine.new record).toJson))
        (records.map .ofRecord))
    ∧ ∀ (agents : List String) (batches : List AgentRecords),
      (∀ batch ∈ batches, ∀ r ∈ batch.recorded, r.InRange) →
      InOrder (batches.flatMap AgentRecords.recorded) →
      (∀ value ∈ captureHeader target started (some agents) :: batches.flatMap AgentRecords.lines,
          host.serde.WritesLine value) →
      Undone host source
        (captureText host.serde (captureHeader target started (some agents))
          (batches.flatMap AgentRecords.lines))
        (batches.flatMap AgentRecords.recorded) := by
  refine ⟨fun records hrange horder hlines => ?_, fun agents batches hrange horder hlines => ?_⟩
  · refine undone_of_parse_eq (parse_captureText hlines (captureHeader_version _ _ _) ?_ horder)
    rw [List.forall₂_map_left_iff, List.forall₂_map_right_iff, List.forall₂_same]
    exact fun record hrecord => readsAs_ofRecord record (hrange record hrecord)
  · refine undone_of_parse_eq (parse_captureText hlines (captureHeader_version _ _ _) ?_ horder)
    clear horder hlines
    induction batches with
    | nil => exact .nil
    | cons batch rest ih =>
      rw [List.flatMap_cons, List.flatMap_cons]
      refine List.rel_append ?_ (ih fun other hother => hrange other (List.mem_cons_of_mem _ hother))
      unfold AgentRecords.lines AgentRecords.recorded
      rw [List.forall₂_map_left_iff, List.forall₂_map_right_iff, List.forall₂_same]
      exact fun record hrecord => readsAs_ofAgent batch.agent batch.offsetUs record
        (hrange batch List.mem_cons_self _ (List.mem_map_of_mem hrecord))

/-! ### A greeting

A capture of one connection, on which a server greets its client. -/

/-- The text of a value without a value inside it. -/
def scalarText : Json → String
  | .number text => text
  | .string text => "\"" ++ text ++ "\""
  | _ => "null"

/-- The text of an object of such values. -/
def flatText : Json → String
  | .object fields =>
    "\x7b" ++ ",".intercalate (fields.map fun field => "\"" ++ field.1 ++ "\":" ++ scalarText field.2)
      ++ "\x7d"
  | value => scalarText value

/-- Worker 0 opens its connection and is greeted 500 microseconds later. -/
def greeting : List CaptureRecord :=
  [⟨⟨0, .recv, .opened⟩, 120⟩, ⟨⟨0, .recv, .text "hi"⟩, 620⟩]

/-- The header of the capture, -/
def greetingHeader : Json := captureHeader "ws://localhost:9001/" "2026-10-25T00:00:00.000Z" none

/-- and its lines. -/
def greetingLines : List Json := greeting.map fun record => (CaptureFileLine.new record).toJson

/-- A machine whose JSON library writes flat objects, and reads the lines of the
greeting. -/
def greetingHost : Host :=
  { plainHost with
    serde :=
      { toText := flatText
        fromStr := fun text => (greetingHeader :: greetingLines).find? fun value =>
          flatText value = text } }

/-- A value whose text is that of no value before it is read back. -/
theorem greetingHost_reads (before : List Json) {after : List Json} {value : Json}
    (hsplit : greetingHeader :: greetingLines = before ++ value :: after)
    (hnew : ∀ other ∈ before, flatText other ≠ flatText value) :
    greetingHost.serde.fromStr (greetingHost.serde.toText value) = some value := by
  show (greetingHeader :: greetingLines).find? (fun other => flatText other = flatText value)
    = some value
  rw [hsplit, List.find?_append, List.find?_eq_none.mpr, Option.none_or]
  · exact List.find?_cons_of_pos (decide_eq_true rfl)
  · intro other hother hsame
    exact hnew other hother (of_decide_eq_true hsame)

theorem greeting_writesLine :
    ∀ value ∈ greetingHeader :: greetingLines, greetingHost.serde.WritesLine value := by
  have hshape : ∀ value ∈ greetingHeader :: greetingLines,
      '\n' ∉ (flatText value).toList
        ∧ (flatText value).toList
          = '\x7b' :: (flatText value).toList.tail.dropLast ++ ['\x7d'] := by
    decide +kernel
  intro value hvalue
  obtain ⟨honeLine, hbraces⟩ := hshape value hvalue
  refine ⟨?_, honeLine, ⟨_, hbraces⟩⟩
  obtain rfl | hvalue := List.mem_cons.mp hvalue
  · exact greetingHost_reads [] rfl nofun
  obtain rfl | hvalue := List.mem_cons.mp hvalue
  · exact greetingHost_reads [greetingHeader] rfl (by decide +kernel)
  obtain rfl | hvalue := List.mem_cons.mp hvalue
  · exact greetingHost_reads (greetingHeader :: greetingLines.take 1) rfl
      (by decide +kernel)
  · cases hvalue

/-- The greeting is read back from the text it was written to. -/
theorem greeting_replayed : ∃ script,
    ReplayScript.parse greetingHost "greeting.jsonl"
        (captureText greetingHost.serde greetingHeader greetingLines) = .ok script
      ∧ script.workers = replayed (greeting.map .ofRecord) := by
  have hundone := (replay_undoes_capture greetingHost "greeting.jsonl" "ws://localhost:9001/"
    "2026-10-25T00:00:00.000Z").1 greeting (by unfold Recorded.InRange; decide)
    (fun slot => List.Pairwise.filter _ (by decide)) greeting_writesLine
  obtain ⟨script, hscript⟩ := hundone.succeeds.mpr (by decide)
  exact ⟨script, hscript, hundone.workers script hscript⟩

end WsBlast
