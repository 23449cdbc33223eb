import WsBlast.Text
import WsBlast.Message

/-!
# Agreeing on compression

A client offers `permessage-deflate` in the `Sec-WebSocket-Extensions` header
of its request, and a server that agrees names it in the response. Both ends
read the agreement from the response head: the client from the one it
receives, the server from the one it sends. `Params.parse` is the one reader
of extension lists, for offers and for answers.

The layer asks for the full window of 32 KiB from both sides, because the
deflate library compresses with no smaller one.
-/

namespace WsBlast

/-! ## Parameters

The parameters of the extension, the parser for them, and what follows from them
for the two directions. -/

/-- Which end of the connection the compression layer is on. -/
inductive Role where
  | client
  | server
  deriving DecidableEq, Repr

/-- The extension offer a client sends. -/
def offer : String := "permessage-deflate"

/-- The parameters an agreed extension carries. -/
structure Params where
  serverNoContextTakeover : Bool := false
  clientNoContextTakeover : Bool := false
  serverMaxWindowBits : Option ℕ := none
  clientMaxWindowBits : Option ℕ := none
  deriving DecidableEq, Repr

/-- A text without the `c`s at both ends. -/
def trimMatches (c : Char) (text : String) : String :=
  String.ofList ((text.toList.dropWhile (· = c)).reverse.dropWhile (· = c)).reverse

/-- A number that fits 8 bits. -/
def parseU8 (text : String) : Option ℕ := (parseU64 text).filter (· < 256)

namespace Params

/-- The window bits a parameter names: none when it has no value. -/
def windowBits : Option String → Option (Option ℕ)
  | none => some none
  | some value => ((parseU8 value).filter fun bits => 8 ≤ bits ∧ bits ≤ 15).map some

/-- One parameter of an extension is added; an unknown one makes the extension
malformed. -/
def addPart (params : Params) (part : String) : Option Params :=
  let (name, value) : String × Option String := match splitOnce '=' part with
    | some (name, value) => (trim name, some (trimMatches '"' (trim value)))
    | none => (part, none)
  let name := name.toLower
  if name = "server_no_context_takeover" then some { params with serverNoContextTakeover := true }
  else if name = "client_no_context_takeover" then
    some { params with clientNoContextTakeover := true }
  else if name = "server_max_window_bits" then
    (windowBits value).map fun bits => { params with serverMaxWindowBits := bits }
  else if name = "client_max_window_bits" then
    (windowBits value).map fun bits => { params with clientMaxWindowBits := bits }
  else none

/-- The parameters of one extension, if it is `permessage-deflate`. -/
def parseExtension (extension : String) : Option Params :=
  match (splitText ';' extension).map trim with
  | [] => none
  | name :: parts =>
    if name.toLower = offer then (parts.filter (· ≠ "")).foldlM addPart {} else none

/-- The first `permessage-deflate` in a `Sec-WebSocket-Extensions` value, if
any. A malformed one is treated as absent. -/
def parse (value : String) : Option Params := (splitText ',' value).findSome? parseExtension

/-- Whether bits name no window smaller than the deflater's. -/
def fullWindow (bits : Option ℕ) : Bool := bits.all (· = 15)

/-- Whether this end's deflater may use its 32 KiB window. -/
def canCompress (params : Params) : Role → Bool
  | .client => fullWindow params.clientMaxWindowBits
  | .server => fullWindow params.serverMaxWindowBits

/-- Whether this end resets its deflater after every message. -/
def resetDeflater (params : Params) : Role → Bool
  | .client => params.clientNoContextTakeover
  | .server => params.serverNoContextTakeover

/-- Whether the peer resets its deflater after every message. -/
def resetInflater (params : Params) : Role → Bool
  | .client => params.serverNoContextTakeover
  | .server => params.clientNoContextTakeover

end Params

/-- The other end. -/
def Role.peer : Role → Role
  | client => server
  | server => client

/-- **What one end resets after a message, the other resets too.** -/
theorem Params.resetDeflater_eq (params : Params) (role : Role) :
    params.resetDeflater role = params.resetInflater role.peer := by
  cases role <;> rfl

/-- The answer to a client's `Sec-WebSocket-Extensions`: the extension when the
client offered it, with `server_no_context_takeover` when it asked for it, and
nothing when it did not offer it or asked for a smaller window. -/
def acceptOffer (value : String) : Option String :=
  (Params.parse value).bind fun params =>
    if Params.fullWindow params.serverMaxWindowBits then
      some (if params.serverNoContextTakeover then offer ++ "; server_no_context_takeover" else offer)
    else none

/-! ## HTTP heads

A head as the layer sees it: characters, cut into lines. -/

/-- Characters cut at every line break. -/
def splitCrLf : List Char → List (List Char)
  | [] => [[]]
  | '\r' :: '\n' :: rest => [] :: splitCrLf rest
  | c :: rest => (splitCrLf rest).modifyHead (c :: ·)

/-- The lines of an HTTP head. -/
def headLines (head : String) : List String := (splitCrLf head.toList).map String.ofList

/-- The words of a text. -/
def splitWhitespace (text : String) : List String :=
  ((text.toList.splitOnP isWhiteSpace).filter (· ≠ [])).map String.ofList

/-- The values of `name` in an HTTP head, matched without case. -/
def header (head name : String) : List String :=
  ((headLines head).drop 1).filterMap fun line =>
    (splitOnce ':' line).bind fun (key, value) =>
      if (trim key).toLower = name then some (trim value) else none

/-- The agreed parameters in a response head: none unless it is a 101 carrying
`permessage-deflate`. -/
def negotiated (response : String) : Option Params :=
  if ((headLines response).head?.bind fun status => (splitWhitespace status)[1]?) = some "101" then
    (header response "sec-websocket-extensions").findSome? Params.parse
  else none

/-! ## A response

What a server writes, and what the reader of heads finds in it. -/

/-- A header of a response. -/
structure HttpHeader where
  name : String
  value : String
  deriving DecidableEq, Repr

namespace HttpHeader

/-- The line of a header. -/
def line (h : HttpHeader) : List Char := h.name.toList ++ ':' :: ' ' :: h.value.toList

/-- What the HTTP library holds of every header that is made from a text: a
name without a colon, no line breaks, and ASCII throughout. -/
structure Plain (h : HttpHeader) : Prop where
  name : ':' ∉ h.name.toList
  noBreak : '\r' ∉ h.name.toList ∧ '\r' ∉ h.value.toList
  ascii : ∀ c ∈ h.name.toList ++ h.value.toList, c.toNat < 128

end HttpHeader

/-- The status line of a response that switches protocols. -/
def switchingProtocols : String := "HTTP/1.1 101 Switching Protocols"

/-- The head of a response with these headers. -/
def responseHead (headers : List HttpHeader) : String :=
  String.ofList (switchingProtocols.toList ++ '\r' :: '\n' ::
    (headers.flatMap (fun h => h.line ++ ['\r', '\n']) ++ ['\r', '\n']))

/-- A line without a carriage return is cut off as it is. -/
theorem splitCrLf_line {line : List Char} (h : '\r' ∉ line) (rest : List Char) :
    splitCrLf (line ++ '\r' :: '\n' :: rest) = line :: splitCrLf rest := by
  induction line with
  | nil => rfl
  | cons c line ih =>
    have hc := List.ne_of_not_mem_cons h
    have hline := List.not_mem_of_not_mem_cons h
    have hstep : ∀ more, splitCrLf (c :: more) = (splitCrLf more).modifyHead (c :: ·) := by
      intro more
      rw [splitCrLf]
      intro other heq
      exact absurd heq.symm hc
    rw [List.cons_append, hstep, ih hline]
    rfl

theorem not_mem_line {h : HttpHeader} (hplain : h.Plain) : '\r' ∉ h.line := by
  simp [HttpHeader.line, hplain.noBreak]

theorem splitCrLf_headers {headers : List HttpHeader} (h : ∀ x ∈ headers, x.Plain) :
    splitCrLf (headers.flatMap (fun h => h.line ++ ['\r', '\n']) ++ ['\r', '\n'])
      = headers.map HttpHeader.line ++ [[], []] := by
  induction headers with
  | nil => rfl
  | cons first rest ih =>
    have hrest := ih fun x hx => h x (List.mem_cons_of_mem _ hx)
    have hfirst := not_mem_line (h first List.mem_cons_self)
    rw [List.flatMap_cons, List.append_assoc, List.append_assoc, List.cons_append, List.cons_append,
      List.nil_append, splitCrLf_line hfirst, hrest]
    rfl

/-- The lines of a response. -/
theorem headLines_responseHead {headers : List HttpHeader} (h : ∀ x ∈ headers, x.Plain) :
    headLines (responseHead headers)
      = switchingProtocols :: (headers.map (fun x => String.ofList x.line) ++ ["", ""]) := by
  unfold headLines responseHead
  rw [String.toList_ofList, splitCrLf_line (by decide), splitCrLf_headers h]
  simp

/-- A text is cut at the separator behind a part that does not hold it. -/
theorem splitOnce_ofList {separator : Char} {before : List Char} (h : separator ∉ before)
    (after : List Char) :
    splitOnce separator (String.ofList (before ++ separator :: after))
      = some (String.ofList before, String.ofList after) := by
  unfold splitOnce
  rw [String.toList_ofList]
  suffices cutAt separator (before ++ separator :: after) = some (before, after) by
    rw [this]
    rfl
  induction before with
  | nil => simp [cutAt]
  | cons c before ih =>
    have hc := List.ne_of_not_mem_cons h
    have hbefore := List.not_mem_of_not_mem_cons h
    rw [List.cons_append, cutAt, if_neg (Ne.symm hc), ih hbefore]
    rfl

/-- **The values of a header in a response** are those of the headers with its
name. -/
theorem header_responseHead {headers : List HttpHeader} (h : ∀ x ∈ headers, x.Plain)
    (name : String) :
    header (responseHead headers) name
      = headers.filterMap fun x =>
        if (trim x.name).toLower = name then some (trim x.value) else none := by
  have hempty : splitOnce ':' "" = none := by decide
  have hspace : ∀ value : String, trim (String.ofList (' ' :: value.toList)) = trim value := by
    intro value
    have hwhite : isWhiteSpace ' ' = true := by decide
    unfold trim trimChars
    rw [String.toList_ofList, List.dropWhile_cons, if_pos hwhite]
  unfold header
  rw [headLines_responseHead h, List.drop_one, List.tail_cons, List.filterMap_append,
    List.filterMap_map]
  simp only [List.filterMap_cons, hempty, Option.bind_none, List.filterMap_nil, List.append_nil]
  refine List.filterMap_congr fun x hx => ?_
  rw [Function.comp_apply, HttpHeader.line, splitOnce_ofList (h x hx).name, Option.bind_some]
  simp only [String.ofList_toList, hspace]

/-- **What is agreed in a response that switches protocols.** -/
theorem negotiated_responseHead {headers : List HttpHeader} (h : ∀ x ∈ headers, x.Plain) :
    negotiated (responseHead headers)
      = (headers.filterMap fun x =>
          if (trim x.name).toLower = "sec-websocket-extensions" then some (trim x.value)
          else none).findSome? Params.parse := by
  have hstatus : (splitWhitespace switchingProtocols)[1]? = some "101" := by decide +kernel
  unfold negotiated
  rw [headLines_responseHead h, header_responseHead h, List.head?_cons, Option.bind_some, hstatus,
    if_pos rfl]

end WsBlast
