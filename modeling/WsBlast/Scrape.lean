import WsBlast.LiveIntervals
import WsBlast.Lib.FirstPrefix

/-!
# The metrics endpoint

While a run lasts, a `GET /metrics` is answered with its live counters and the
latency of its last interval, in the Prometheus text exposition format. The
responder reads one request head, answers it and closes the connection.
`Prometheus.handle` is one connection: it is told what each read of the
connection gives, and what it writes is a function of that.

How `f64` seconds are written is a parameter of the model.

The endpoint is a small HTTP server of its own and not a library: it reads
until the first empty line, looks at the request line only, and never at a
body. A head is limited to 8 KiB. Each answer says that the connection is
closed, and then it is.
-/

namespace WsBlast

/-! ## What is exported

The metrics in the order in which they are written, each with its name and its
help. -/

/-- Name and description of one exported metric. -/
structure MetricInfo where
  prometheus : String
  help : String

/-- A monotonic counter read from the live counters. -/
structure CounterDef where
  info : MetricInfo
  read : LiveSnapshot → ℕ

/-- Every exported counter, in exposition order. -/
def counters : List CounterDef :=
  [⟨⟨"wsblast_messages_sent_total", "Data frames written successfully."⟩, (·.messagesSent)⟩,
    ⟨⟨"wsblast_messages_received_total", "Data frames counted as received."⟩,
      (·.messagesReceived)⟩,
    ⟨⟨"wsblast_bytes_sent_total", "Payload bytes of the data frames sent."⟩, (·.bytesSent)⟩,
    ⟨⟨"wsblast_bytes_received_total", "Payload bytes of the data frames received."⟩,
      (·.bytesReceived)⟩,
    ⟨⟨"wsblast_errors_total", "Errors recorded in every category."⟩, (·.totalErrors)⟩,
    ⟨⟨"wsblast_connections_established_total",
      "Connection slots that completed their first handshake."⟩, (·.connectionsEstablished)⟩,
    ⟨⟨"wsblast_connections_failed_total",
      "Failed handshake attempts, including failed reconnect attempts."⟩, (·.connectionsFailed)⟩,
    ⟨⟨"wsblast_reconnects_total",
      "Handshakes that re-established a connection slot after it lost its connection."⟩,
      (·.reconnects)⟩]

/-- The number of open connections, -/
def activeConnections : MetricInfo :=
  ⟨"wsblast_active_connections", "WebSocket connections currently open."⟩

/-- the time of the run, -/
def runElapsed : MetricInfo :=
  ⟨"wsblast_run_elapsed_seconds",
    "Seconds since the run's clock started; frozen when the run ends."⟩

/-- the percentiles of an interval -/
def latencyInfo : MetricInfo :=
  ⟨"wsblast_latency_seconds",
    "Latency percentiles of the most recently completed time-series interval."⟩

/-- and its samples. -/
def latencySamples : MetricInfo :=
  ⟨"wsblast_latency_samples",
    "Latency samples recorded in the most recently completed time-series interval."⟩

/-- Latency of one completed interval. -/
structure IntervalExport where
  basis : String
  /-- Number of samples; the percentiles are 0 when it is 0. -/
  count : ℕ
  p50Us : ℕ
  p90Us : ℕ
  p99Us : ℕ
  deriving DecidableEq, Repr

/-- The exported percentiles with their seconds; none without samples. -/
def IntervalExport.quantiles (latency : IntervalExport) : List (String × ℚ) :=
  if latency.count = 0 then []
  else
    [("0.5", (latency.p50Us : ℚ) / 1000000), ("0.9", (latency.p90Us : ℚ) / 1000000),
      ("0.99", (latency.p99Us : ℚ) / 1000000)]

/-- Everything an export publishes, read at one moment. -/
structure ExportSnapshot where
  counters : LiveSnapshot
  elapsed : Duration
  /-- Latency of the last completed interval; none before the first. -/
  latency : Option IntervalExport

namespace Prometheus

/-! ## The text

Two lines of comment for each metric, then its values. -/

/-- The type of the text. -/
def contentType : String := "text/plain; version=0.0.4; charset=utf-8"

/-- Writes the two comment lines of a metric. -/
def header (info : MetricInfo) (kind : String) : String :=
  "# HELP " ++ info.prometheus ++ " " ++ info.help ++ "\n"
    ++ "# TYPE " ++ info.prometheus ++ " " ++ kind ++ "\n"

/-- Renders a snapshot in the text exposition format. -/
def render (showSecs : ℚ → String) (snapshot : ExportSnapshot) : String :=
  String.join (counters.map fun counter =>
      header counter.info "counter" ++ counter.info.prometheus ++ " "
        ++ toString (counter.read snapshot.counters) ++ "\n")
    ++ header WsBlast.activeConnections "gauge"
    ++ WsBlast.activeConnections.prometheus ++ " "
    ++ toString snapshot.counters.activeConnections ++ "\n"
    ++ header runElapsed "gauge"
    ++ runElapsed.prometheus ++ " " ++ showSecs (Duration.asSecs snapshot.elapsed) ++ "\n"
    ++ header latencyInfo "gauge"
    ++ (match snapshot.latency with
      | some latency => String.join (latency.quantiles.map fun (quantile, secs) =>
          latencyInfo.prometheus ++ "\x7bbasis=\"" ++ latency.basis ++ "\",quantile=\"" ++ quantile
            ++ "\"\x7d " ++ showSecs secs ++ "\n")
      | none => "")
    ++ header latencySamples "gauge"
    ++ (match snapshot.latency with
      | some latency =>
        latencySamples.prometheus ++ "\x7bbasis=\"" ++ latency.basis ++ "\"\x7d "
          ++ toString latency.count ++ "\n"
      | none => "")

/-! ## The request -/

/-- Largest request head accepted. -/
def maxRequestBytes : ℕ := 8 * 1024

/-- The most bytes one read gives. -/
def chunkBytes : ℕ := 1024

/-- What a request head asks for. -/
inductive Route where
  | metrics
  | notFound
  | badRequest
  | tooLarge
  deriving DecidableEq, Repr

/-- The first line of a request head as text. -/
def requestLine (head : Bytes) : Option (List Char) :=
  (String.fromUTF8? ⟨(head.takeWhile (· ≠ 10)).toArray⟩).map String.toList

/-- Routes a complete request head. -/
def route (head : Bytes) : Route :=
  match requestLine head with
  | none => .badRequest
  | some line =>
    match (line.rdropWhile (· = '\r')).splitOn ' ' with
    | [method, target, version] =>
      if method = [] ∨ target.head? ≠ some '/' ∨ ¬ "HTTP/1.".toList <+: version then .badRequest
      else if method = "GET".toList ∧ target.takeWhile (· ≠ '?') = "/metrics".toList then .metrics
      else .notFound
    | _ => .badRequest

/-- End of the request head: after the first empty line. -/
def headEnd (buf : Bytes) : Option ℕ :=
  let crlf := FirstPrefix.endOf [13, 10, 13, 10] buf
  let lf := FirstPrefix.endOf [10, 10] buf
  FirstPrefix.earlier crlf lf

/-- Some bytes of a read. -/
abbrev Chunk : Type := {bytes : Bytes // 0 < bytes.length ∧ bytes.length ≤ chunkBytes}

/-- What a read of the connection gives. -/
inductive Received where
  | bytes (chunk : Chunk)
  /-- The client has closed. -/
  | closed
  | failed

/-- How the reading of a request head ended. -/
inductive HeadRead where
  | head (bytes : Bytes)
  | closed
  | failed
  /-- The time for it ran out. -/
  | timedOut
  deriving DecidableEq

/-- The head in the buffer once it is complete, or the buffer once it is full. -/
def bufferedHead (buf : Bytes) : Option Bytes :=
  match headEnd buf with
  | some length => some (buf.take length)
  | none => if maxRequestBytes ≤ buf.length then some buf else none

/-- Reads until the end of the request head, or until the buffer is full,
starting with what the buffer holds. The list is what the reads give in the
time there is. -/
def readHead (buf : Bytes) : List Received → HeadRead
  | [] => (bufferedHead buf).elim .timedOut .head
  | .closed :: _ => (bufferedHead buf).elim .closed .head
  | .failed :: _ => (bufferedHead buf).elim .failed .head
  | .bytes chunk :: rest => (bufferedHead buf).elim (readHead (buf ++ chunk) rest) .head

/-- A response. -/
structure Response where
  status : String
  contentType : String
  body : String
  deriving DecidableEq

/-- The response to a route. -/
def respond (showSecs : ℚ → String) (snapshot : ExportSnapshot) : Route → Response
  | .metrics => ⟨"200 OK", contentType, render showSecs snapshot⟩
  | .notFound => ⟨"404 Not Found", "text/plain; charset=utf-8", "Not Found\n"⟩
  | .badRequest => ⟨"400 Bad Request", "text/plain; charset=utf-8", "Bad Request\n"⟩
  | .tooLarge =>
    ⟨"431 Request Header Fields Too Large", "text/plain; charset=utf-8",
      "Request Header Fields Too Large\n"⟩

/-- Serves one connection: what is written to it, if anything. -/
def handle (showSecs : ℚ → String) (snapshot : ExportSnapshot) (received : List Received) :
    Option Response :=
  match readHead [] received with
  | .head head =>
    some (respond showSecs snapshot (if headEnd head = none then .tooLarge else route head))
  | _ => none

end Prometheus

end WsBlast
