import WsBlast.Config
import WsBlast.Metrics

/-!
# Frames, replies and errors of a session

The frames a session sends and reads, the errors of the WebSocket library
with the category each is counted under, the rule that recognises the reply
to a request, and the checks a reply goes through. JSON texts are read with
a `Serde`.

The model has one inductive type for messages and one for errors, with the
constructors of the library's own types that the program looks at.
-/

namespace WsBlast

/-! ## Frames

What goes over a connection, and how much of it counts as payload. -/

/-- The code and reason of a Close frame. -/
structure CloseFrame where
  code : ℕ
  reason : String
  deriving DecidableEq, Repr

/-- A WebSocket message. -/
inductive Message where
  | text (text : String)
  | binary (bytes : Bytes)
  | ping (bytes : Bytes)
  | pong (bytes : Bytes)
  | close (frame : Option CloseFrame)
  /-- A raw frame, which the library never hands to a reader. -/
  | frame
  deriving DecidableEq, Repr

/-- A frame that carries data. -/
def Message.isData : Message → Bool
  | .text _ => true
  | .binary _ => true
  | _ => false

/-- The size of a message's payload. -/
def messageByteLen : Message → ℕ
  | .text text => text.utf8ByteSize
  | .binary bytes => bytes.length
  | .ping bytes => bytes.length
  | .pong bytes => bytes.length
  | .close _ => 0
  | .frame => 0

/-- The keepalive ping. -/
def keepalive : Message := .ping [104, 98]

/-! ## Errors

An error is counted under a category, which the report lists. -/

/-- The kinds of I/O error the program tells apart. Any other kind is `other`. -/
inductive IoErrorKind where
  | timedOut
  | connectionRefused
  | connectionReset
  | brokenPipe
  | unexpectedEof
  | other
  deriving DecidableEq, Repr

/-- An I/O error. -/
structure IoError where
  kind : IoErrorKind
  message : String
  /-- It wraps an error of the TLS library. -/
  rustls : Bool
  deriving DecidableEq, Repr

/-- An error of the WebSocket library, with what the program reads of it. -/
inductive WsError where
  | connectionClosed
  | alreadyClosed
  | io (err : IoError)
  | tls
  | capacity
  | protocol
  | writeBufferFull
  | utf8
  | attackAttempt
  | url
  | http (status : ℕ)
  | httpFormat
  deriving DecidableEq, Repr

/-- Direction of the I/O operation that produced a session error. -/
inductive ErrorDirection where
  | connect
  | write
  | read
  deriving DecidableEq, Repr

/-- Whether one text occurs in another. -/
def containsText (text part : String) : Bool := decide (part.toList <:+: text.toList)

/-- Whether an I/O error came from hostname resolution. -/
def isDnsResolutionError (err : IoError) : Bool :=
  let message := err.message.toLower
  containsText message "failed to lookup address information"
    || containsText message "nodename nor servname"
    || containsText message "name or service not known"
    || containsText message "temporary failure in name resolution"
    || containsText message "no address associated with hostname"

/-- The category of an error, given what the session was doing. -/
def categorizeSessionError (err : WsError) (direction : ErrorDirection) : ErrorCategory :=
  match err with
  | .connectionClosed => .unexpectedClose
  | .alreadyClosed => .unexpectedClose
  | .http status => if 400 ≤ status ∧ status < 600 then .httpUpgradeRejected else .protocolError
  | .io err =>
    if isDnsResolutionError err then .dnsResolution
    else if direction = .connect ∧ err.rustls then .tlsHandshake
    else match err.kind with
      | .timedOut => .timeout
      | .connectionRefused => .tcpConnect
      | _ => match direction with
        | .connect => .tcpConnect
        | .write => .writeError
        | .read => .readError
  | .tls => .tlsHandshake
  | .protocol => .protocolError
  | .writeBufferFull => .writeError
  | _ => .other

/-- The category of a failed handshake. -/
def categorizeTungsteniteError (err : WsError) : ErrorCategory :=
  categorizeSessionError err .connect

/-! ## JSON values of a reply

`serde_json`'s `Value` as far as replies are examined: equality, integers, and
pointers. -/

namespace Json

/-- Whether two numbers are equal. Distinct numbers are written differently,
but for the two zeros of a float, which compare as equal. -/
def numberEq (a b : String) : Bool :=
  a == b || (a ∈ ["0.0", "-0.0"] && b ∈ ["0.0", "-0.0"])

mutual

/-- `Value`'s equality. -/
def beq : Json → Json → Bool
  | .null, .null => true
  | .bool a, .bool b => a == b
  | .number a, .number b => numberEq a b
  | .string a, .string b => a == b
  | .array as, .array bs => beqItems as bs
  | .object as, .object bs => beqFields as bs
  | _, _ => false
termination_by structural value => value

/-- Equality of the values of two arrays. -/
def beqItems : List Json → List Json → Bool
  | [], [] => true
  | a :: as, b :: bs => beq a b && beqItems as bs
  | _, _ => false
termination_by structural items => items

/-- Equality of the fields of two objects, which are in the order of their
names. -/
def beqFields : List (String × Json) → List (String × Json) → Bool
  | [], [] => true
  | a :: as, b :: bs => beqField a b && beqFields as bs
  | _, _ => false
termination_by structural fields => fields

/-- Equality of two fields. -/
def beqField : String × Json → String × Json → Bool
  | (name, a), (name', b) => name == name' && beq a b
termination_by structural field => field

end

instance : BEq Json := ⟨beq⟩

mutual

theorem beq_self : ∀ value : Json, beq value value = true
  | .null => rfl
  | .bool value => by simp [beq]
  | .number text => by simp [beq, numberEq]
  | .string text => by simp [beq]
  | .array items => beqItems_self items
  | .object fields => beqFields_self fields

theorem beqItems_self : ∀ items : List Json, beqItems items items = true
  | [] => rfl
  | value :: items => by simp [beqItems, beq_self value, beqItems_self items]

theorem beqFields_self : ∀ fields : List (String × Json), beqFields fields fields = true
  | [] => rfl
  | (name, value) :: fields => by
    simp [beqFields, beqField, beq_self value, beqFields_self fields]

end

end Json

/-- A number that fits 64 bits, read as Rust's `parse` does: an optional `+`
and decimal digits. -/
def parseU64 (text : String) : Option ℕ :=
  let digits := match text.toList with
    | '+' :: rest => rest
    | all => all
  if digits ≠ [] ∧ digits.all Char.isDigit then
    let value := digits.foldl (fun acc c => acc * 10 + (c.toNat - 48)) 0
    if value < 2 ^ 64 then some value else none
  else none

/-- A number is no sign and has digits only. -/
theorem not_plus_toDigits (n : ℕ) (rest : List Char) : Nat.toDigits 10 n ≠ '+' :: rest := by
  intro heq
  have hmem : '+' ∈ Nat.toDigits 10 n := by
    rw [heq]
    exact List.mem_cons_self
  exact absurd (Nat.isDigit_of_mem_toDigits (by decide) (by decide) hmem) (by decide)

/-- The text of a number is read as the number. -/
theorem parseU64_toString {n : ℕ} (h : n < 2 ^ 64) : parseU64 (toString n) = some n := by
  have hlist : (toString n).toList = Nat.toDigits 10 n := Nat.toList_repr
  have hdigits : ∀ c ∈ Nat.toDigits 10 n, c.isDigit = true := fun c hc =>
    Nat.isDigit_of_mem_toDigits (by decide) (by decide) hc
  have hvalue : (Nat.toDigits 10 n).foldl (fun acc c => acc * 10 + (c.toNat - 48)) 0 = n := by
    have hread := Nat.ofDigitChars_ten_toDigits (n := n)
    rw [Nat.ofDigitChars_eq_foldl] at hread
    simpa [Nat.mul_comm] using hread
  unfold parseU64
  rw [hlist]
  split
  · rename_i rest heq
    exact absurd heq (not_plus_toDigits n rest)
  · rw [if_pos ⟨Nat.toDigits_ne_nil, List.all_eq_true.mpr hdigits⟩, hvalue, if_pos h]

namespace Json

/-- The value of a number that is a non-negative integer. -/
def asU64 : Json → Option ℕ
  | .number text => if text.startsWith "+" then none else parseU64 text
  | _ => none

theorem asU64_number_toString {n : ℕ} (h : n < 2 ^ 64) :
    asU64 (.number (toString n)) = some n := by
  have hsign : (toString n).startsWith "+" = false := by
    by_contra hstarts
    rw [Bool.not_eq_false, String.startsWith_string_iff] at hstarts
    obtain ⟨rest, heq⟩ := hstarts
    have hlist : (toString n).toList = Nat.toDigits 10 n := Nat.toList_repr
    exact not_plus_toDigits n rest (hlist.symm.trans heq.symm)
  rw [asU64, hsign, if_neg Bool.false_ne_true, parseU64_toString h]

/-- A token of a JSON pointer with its escapes undone. -/
def pointerToken (token : String) : String :=
  (token.replace "~1" "/").replace "~0" "~"

/-- The index a pointer token stands for: digits without a sign or a leading
zero. -/
def pointerIndex (token : String) : Option ℕ :=
  if token.startsWith "+" ∨ (token.startsWith "0" ∧ token.length ≠ 1) then none
  else parseU64 token

/-- The member of a value that one pointer token names. -/
def member (token : String) : Json → Option Json
  | .object fields => (fields.find? (·.1 == token)).map Prod.snd
  | .array items => (pointerIndex token).bind (items[·]?)
  | _ => none

/-- The value at a JSON pointer. -/
def pointer (value : Json) (path : String) : Option Json :=
  if path.isEmpty then some value
  else if path.startsWith "/" then
    ((path.splitOn "/").drop 1).foldlM (fun value token => member (pointerToken token) value) value
  else none

end Json

/-! ## Replies

A frame that arrives answers the request in flight or not, passes its check or
not, and sets variables. -/

section Replies

variable (serde : Serde)

/-- The text of a data frame; a binary frame has one when it is UTF-8. -/
def replyText : Message → Option String
  | .text text => some text
  | .binary bytes => String.fromUTF8? ⟨bytes.toArray⟩
  | _ => none

/-- The JSON value of a data frame. -/
def replyJson (reply : Message) : Option Json := (replyText reply).bind serde.fromStr

/-- Whether an inbound data frame answers the request in flight. -/
def replyMatches (rule : ReplyMatch) (reply : Message) (sent : Option Message) (seq : ℕ) : Bool :=
  match rule with
  | .first => true
  | .exact => sent == some reply
  | .jsonPointer pointer =>
    match (replyJson serde reply).bind (·.pointer pointer) with
    | some (.number text) => (Json.number text).asU64 == some seq
    | some (.string text) => parseU64 text == some seq
    | _ => false

/-- Whether a reply's value equals the expected one. A number or boolean also
equals its text. -/
def sameValue (found expected : Json) : Bool :=
  found == expected ||
    match found, expected with
    | .string text, .number n => (serde.fromStr text).any (· == .number n)
    | .string text, .bool b => (serde.fromStr text).any (· == .bool b)
    | .number n, .string text => (serde.fromStr text).any (· == .number n)
    | .bool b, .string text => (serde.fromStr text).any (· == .bool b)
    | _, _ => false

/-- Whether a reply passes a check. -/
def Check.passes (reply : Message) : Check → Bool
  | .contains text => (replyText reply).any (containsText · text)
  | .json pointer equals =>
    match (replyJson serde reply).bind (·.pointer pointer) with
    | none => false
    | some found => equals.all (sameValue serde found)

/-- The value a capture takes from a reply: a string as it is, any other
value as JSON text. -/
def Capture.value (reply : Message) (capture : Capture) : Option String :=
  ((replyJson serde reply).bind (·.pointer capture.pointer)).map fun found =>
    match found with
    | .string text => text
    | other => serde.toText other

/-- Applies the captures to a reply, in order: the variables afterwards, and
whether every capture found a value and its variable. -/
def applyCaptures (reply : Message) (captures : List Capture) (vars : List String) :
    List String × Bool :=
  captures.foldl (fun (vars, passed) capture =>
    match capture.value serde reply with
    | none => (vars, false)
    | some value =>
      if capture.var < vars.length then (vars.set capture.var value, passed)
      else (vars, false)) (vars, true)

end Replies

/-! ## Scenario actions

A scenario gives each connection a script, which is run from its beginning for
as long as the phase lasts. -/

/-- One action of a phase's script. A `send` is repeated `count` times and may
carry a name, under which it is counted apart. -/
inductive ScenarioAction where
  | send (payload : Option PayloadConfig) (count : ℕ) (expect : Option Check)
      (captures : List Capture) (name : Option ℕ)
  | wait (duration : Duration)
  | ping (interval : Duration)
  | close (code : ℕ) (reason : String)

/-- What a worker reads of its scenario phase. -/
structure ScenarioPhase where
  thinkTime : Duration
  actions : List ScenarioAction
  /-- The variables the actions capture from replies. -/
  vars : List String

/-! ## Pacing

A paced session has a schedule of send times that do not depend on the replies:
a late reply makes the next request late, and how late it was is part of the
response time. -/

/-- How late a paced send can be from timer wake-up alone. -/
def timerSlack : Duration := Duration.ofMillis 2

/-- A quotient to the nearest integer, ties to the even one. -/
def divRound (a b : ℕ) : ℕ :=
  if 2 * (a % b) < b ∨ (2 * (a % b) = b ∧ a / b % 2 = 0) then a / b else a / b + 1

/-- The time between two sends at `rate` a second: the double next to
`1 / rate`, which has 53 significant bits, as a number of nanoseconds. -/
def ratePeriod (rate : ℕ) : Duration :=
  let scale := 2 ^ (53 + Nat.log2 rate)
  divRound (divRound scale rate * 1000000000) scale

/-- The send times of a paced echo session or echo action script. -/
structure SendSchedule where
  period : Duration
  /-- When the next request is due. -/
  nextDue : Instant
  deriving DecidableEq, Repr

namespace SendSchedule

/-- A schedule of `rate` requests per second starting at `now`; `none` for an
unpaced session. -/
def new (rate : ℕ) (now : Instant) : Option SendSchedule :=
  if 0 < rate then some ⟨ratePeriod rate, now⟩ else none

/-- Moves on to the next request's slot. -/
def advance (schedule : SendSchedule) : SendSchedule :=
  { schedule with nextDue := schedule.nextDue + schedule.period }

/-- Moves the next slot, and with it every later one. -/
def shift (schedule : SendSchedule) (delay : Duration) : SendSchedule :=
  { schedule with nextDue := schedule.nextDue + delay }

/-- Restarts the schedule after a deliberate pause that ended at `now`. -/
def restartAfterPause (schedule : SendSchedule) (now : Instant) : SendSchedule :=
  { schedule with nextDue := max schedule.nextDue now }

/-- The response time of a request: its round-trip time plus the time it
waited past its due time, less the timer's own slack. -/
def responseTime (due sentAt : Instant) (rtt : Duration) : Duration :=
  rtt + (sentAt - due - timerSlack)

end SendSchedule

/-- Exponential reconnect delay: 100 ms doubling to a 5 s cap. -/
structure ReconnectBackoff where
  next : Duration
  deriving DecidableEq, Repr

namespace ReconnectBackoff

/-- The first delay, 100 ms. -/
def initial : Duration := Duration.ofMillis 100

/-- The longest delay, 5 s. -/
def max : Duration := Duration.ofSecs 5

/-- The backoff of a worker that has not failed yet. -/
def new : ReconnectBackoff := ⟨initial⟩

/-- The delay before the next attempt, and the backoff after it. -/
def nextDelay (backoff : ReconnectBackoff) : Duration × ReconnectBackoff :=
  (backoff.next, ⟨min (backoff.next * 2) max⟩)

end ReconnectBackoff

/-- What chaos does to one data send: how long it is held back, and whether it
is dropped or one of its bytes is changed. -/
structure SendPlan where
  delay : Duration := 0
  drop : Bool := false
  corrupt : Bool := false
  deriving DecidableEq, Repr

end WsBlast
