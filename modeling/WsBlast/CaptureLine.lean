import WsBlast.Capture
import WsBlast.Base64

/-!
# The lines of a capture file

A capture file is a header line and one JSON object for each record. An agent
of a distributed run formats its records the same way and sends them to the
coordinator, which writes them with the agent's number and with the times
moved by the start of the phase.

The two formats differ in the agent's number, and the records in between, as
they travel, have neither number nor moved time. A time is microseconds since
the start of the capture, moved by an offset with saturation; the order of the
lines is the order in which records were queued and not that of their times.
-/

namespace WsBlast

/-- One line of the capture file. -/
structure CaptureFileLine where
  tUs : ℕ
  worker : ℕ
  dir : String
  kind : String
  len : ℕ
  code : Option ℕ
  data : Option String
  deriving DecidableEq, Repr

/-- The line of a record: texts as they are, bytes in base64, and the code and
the reason of a Close frame. -/
def CaptureFileLine.new (record : CaptureRecord) : CaptureFileLine :=
  let (kind, len, code, data) : String × ℕ × Option ℕ × Option String := match record.event with
    | .opened => ("open", 0, none, none)
    | .text text => ("text", text.utf8ByteSize, none, some text)
    | .binary bytes => ("binary", bytes.length, none, some (Base64.encode bytes))
    | .close none => ("close", 0, none, none)
    | .close (some frame) =>
      ("close", 2 + frame.reason.utf8ByteSize, some frame.code, some frame.reason)
  { tUs := record.tUs, worker := record.worker, dir := record.dir.asStr, kind, len, code, data }

/-- A record as it travels to a distributed coordinator. -/
structure WireRecord where
  tUs : ℕ
  worker : ℕ
  dir : String
  kind : String
  len : ℕ
  code : Option ℕ
  data : Option String
  deriving DecidableEq, Repr

/-- A record for the wire: its line, field by field. -/
def wireRecord (record : CaptureRecord) : WireRecord :=
  let line := CaptureFileLine.new record
  { tUs := line.tUs, worker := line.worker, dir := line.dir, kind := line.kind, len := line.len
    code := line.code, data := line.data }

/-- Records of one agent for the coordinator's capture file. -/
structure MergedBatch where
  /-- The agent's position in `--agents`, from 0. -/
  agent : ℕ
  /-- Added to every record's time: when the phase started on the coordinator,
  counted from the start of the capture. -/
  offsetUs : ℕ
  records : List WireRecord
  deriving DecidableEq, Repr

/-- One line of a distributed capture file. -/
structure MergedLine where
  tUs : ℕ
  agent : ℕ
  worker : ℕ
  dir : String
  kind : String
  len : ℕ
  code : Option ℕ
  data : Option String
  deriving DecidableEq, Repr

/-- The line the coordinator writes for a record of an agent. -/
def MergedLine.new (agent offsetUs : ℕ) (record : WireRecord) : MergedLine where
  tUs := min (record.tUs + offsetUs) u64Max
  agent := agent
  worker := record.worker
  dir := record.dir
  kind := record.kind
  len := record.len
  code := record.code
  data := record.data

end WsBlast
