import WsBlast.ReplyRules

/-!
# What a configuration is read from

A configuration is built on a machine: it names a URL, headers and files.
`Host` holds what the program asks of that machine and of the libraries it
uses: the URL parser, the text of a file, whether an address is usable, JSON
texts. A URL is the text it is written as.

Over these, the functions the builder and the agents share: the target's
scheme (`parseTargetUrl`), the Socket.IO query of a URL (`socketioUrl`,
`checkUrl`), header maps, and data files (`DataSet.load`).

A URL library is a parameter because it is not part of the repository; what the
program relies on is asked of it where it is needed, as hypotheses of the
theorems on URLs (`SiteUrls` has one that satisfies them). The same goes for
JSON. Files and addresses belong to the machine, and the theorems speak of any
machine.
-/

namespace WsBlast

open Checked (reject)

/-- What the program uses of the URL library. A URL is the text it is
serialised to; the setters return the changed URL. -/
structure Urls where
  /-- The URL of a text, or the parser's message. -/
  parse : String → Except String String
  scheme : String → String
  path : String → String
  /-- The pairs of the query, with their escapes undone. -/
  queryPairs : String → List (String × String)
  setPath : String → String → String
  /-- Replaces the query by these pairs. -/
  setQueryPairs : String → List (String × String) → String

/-- What the program asks of the machine it runs on and of its libraries. -/
structure Host where
  serde : Serde
  /-- The JSON parser's message for a text it rejects. -/
  jsonError : String → String
  urls : Urls
  /-- The size of a file in bytes, or the system's message. -/
  fileSize : String → Except String ℕ
  /-- The text of a file, or the system's message. -/
  readText : String → Except String String
  /-- The bytes of a file, or the system's message. -/
  readBytes : String → Except String Bytes
  /-- The message for bytes that are not UTF-8. -/
  utf8Error : Bytes → String
  /-- Whether connections can bind a local address. -/
  checkSourceIp : String → Except String Unit
  /-- Milliseconds of the wall clock while a configuration is checked. -/
  nowMs : ℕ

/-- A machine without files that takes a URL as it is written. -/
def plainHost : Host where
  serde := { fromStr := fun _ => none, toText := fun _ => "" }
  jsonError _ := ""
  urls :=
    { parse := .ok
      scheme := fun _ => "ws"
      path := fun _ => "/"
      queryPairs := fun _ => []
      setPath := fun url _ => url
      setQueryPairs := fun url _ => url }
  fileSize _ := .error "no such file"
  readText _ := .error "no such file"
  readBytes _ := .error "no such file"
  utf8Error _ := ""
  checkSourceIp _ := .ok ()
  nowMs := 0

/-! ## Target URLs -/

/-- Parses a target URL and rejects schemes other than `ws` and `wss`. -/
def parseTargetUrl (host : Host) (raw : String) : Except ConfigError String := do
  let url ← (host.urls.parse raw).mapError (.invalidUrl raw)
  let scheme := host.urls.scheme url
  if scheme = "ws" ∨ scheme = "wss" then return url
  else throw (.unsupportedScheme scheme)

namespace EngineIo

/-- The `EIO` query value. -/
def query : EngineIo → String
  | .v3 => "3"
  | .v4 => "4"

/-- The protocol of a `--sio-version`. The versions are those of Socket.IO, of
which 3 and 4 speak Engine.IO 4. -/
def fromVersion (version : ℕ) : Option EngineIo :=
  if version = 2 then some .v3
  else if version = 3 ∨ version = 4 then some .v4
  else none

/-- The Engine.IO version an `EIO` query value asks for. -/
def fromQuery (value : String) : Option EngineIo :=
  if value = "3" then some .v3
  else if value = "4" then some .v4
  else none

end EngineIo

/-- The path Socket.IO servers listen on unless configured otherwise. -/
def defaultPath : String := "/socket.io/"

/-- The query of a Socket.IO session: the URL's own pairs, the Engine.IO
version when they do not ask for it (in place of another one), and the
transport when they name none. -/
def socketioPairs (pairs : List (String × String)) (engine : EngineIo) :
    List (String × String) :=
  let hadEio := pairs.any (fun pair => pair.1 = "EIO" && pair.2 = engine.query)
  let pairs :=
    if hadEio then pairs
    else pairs.filter (fun pair => pair.1 ≠ "EIO") ++ [("EIO", engine.query)]
  if pairs.any (fun pair => pair.1 = "transport") then pairs
  else pairs ++ [("transport", "websocket")]

/-- Adds the Engine.IO query to a URL, and the default Socket.IO path when
the URL has none. -/
def socketioUrl (urls : Urls) (url : String) (engine : EngineIo) : String :=
  let url :=
    if urls.path url = "" ∨ urls.path url = "/" then urls.setPath url defaultPath else url
  urls.setQueryPairs url (socketioPairs (urls.queryPairs url) engine)

/-- Rejects a URL whose `EIO` asks for another Engine.IO version than the
session speaks. -/
def checkUrl (urls : Urls) (url : String) (engine : EngineIo) : Except String Unit :=
  match (urls.queryPairs url).find? (fun pair => pair.1 = "EIO") with
  | some (_, value) =>
    if value = engine.query then .ok ()
    else
      let hint := match EngineIo.fromQuery value with
        | some .v3 => "add --sio-version 2 for a Socket.IO 2 server"
        | some .v4 => "drop --sio-version 2 for a Socket.IO 3 or later server"
        | none => "remove EIO from the URL"
      .error
        s!"the URL asks for EIO={value}, but the session speaks Engine.IO {engine.query}; {hint}"
  | none => .ok ()

/-! ## Header maps

The headers of a configuration are in the order a `HeaderMap` iterates over
them: the names in the order they were first added, the values of a name one
after the other. -/

/-- Whether a character may stand in a header name. -/
def isTokenChar (c : Char) : Bool :=
  c.isAlphanum || "!#$%&'*+-.^_`|~".toList.contains c

/-- A header name: a token of at most 65,535 characters, in lower case. -/
def headerName (text : String) : Option String :=
  let chars := text.toList
  if chars ≠ [] ∧ chars.length ≤ 65535 ∧ chars.all isTokenChar then some text.toLower else none

/-- A header value: no control character but the tab. -/
def headerValue (text : String) : Option Bytes :=
  let bytes := text.toUTF8.data.toList
  if bytes.all (fun b => (32 ≤ b && b ≠ 127) || b = 9) then some bytes else none

/-- Adds a header after the last one of its name, or at the end. -/
def appendHeader (headers : List Header) (header : Header) : List Header :=
  match headers with
  | [] => [header]
  | first :: rest =>
    if first.name = header.name ∧ rest.all (fun other => other.name ≠ header.name) then
      first :: header :: rest
    else first :: appendHeader rest header

/-- Sets a header in place of every one of its name. -/
def insertHeader (headers : List Header) (header : Header) : List Header :=
  match headers with
  | [] => [header]
  | first :: rest =>
    if first.name = header.name then
      header :: rest.filter (fun other => other.name ≠ header.name)
    else first :: insertHeader rest header

end WsBlast
