import WsBlast.Text

/-!
# Payload templates and data files

A template is literal text and placeholders (`Template.parseWithVars`); the
values it is filled with are those of one frame of one connection. `DataSet` is a loaded `--data`
file, and `rowFor` the row a connection uses: connection `n` of agent `i`
of `k` uses row `n * k + i`, modulo the number of rows.

The parser looks for two braces in a row, twice: for the opening pair, and
behind it for the closing one. What stands between them is a placeholder when it
has a known name, and is otherwise kept as it was written, braces and all, so a
template that contains JSON needs no escapes.
-/

namespace WsBlast

/-- A part of a template. -/
inductive Part where
  | text (text : String)
  /-- The sequence number of the frame. -/
  | seq
  /-- The time when the frame is rendered, in milliseconds. -/
  | timestamp
  /-- The number of the connection. -/
  | workerId
  /-- The value of a column in the connection's row. -/
  | data (column : String)
  /-- A variable that an earlier reply was captured into, by its position. -/
  | var (index : ℕ)
  deriving DecidableEq, Repr

/-- A parsed template, with the text it was parsed from. -/
structure Template where
  source : String
  parts : List Part
  deriving DecidableEq, Repr

/-- A loaded data file. -/
structure DataSet where
  path : String
  columns : List String
  rows : List (List String)
  /-- On a distributed agent: its position and the number of agents. -/
  share : Option (ℕ × ℕ)
  deriving DecidableEq, Repr

namespace DataSet

/-- The position of a column. -/
def column (data : DataSet) (name : String) : Option ℕ :=
  data.columns.findIdx? (· == name)

/-- The same rows, for agent `index` of `agents`. -/
def withShare (data : DataSet) (index agents : ℕ) : DataSet :=
  { data with share := if 1 < agents then some (index, agents) else none }

/-- The row connection `workerId` uses. -/
def rowFor (data : DataSet) (workerId : ℕ) : ℕ :=
  let global := match data.share with
    | some (index, agents) => saturate (saturate (workerId * agents) + index)
    | none => workerId
  global % data.rows.length

/-- A row's value in a column. -/
def value (data : DataSet) (row : ℕ) (column : String) : Option String := do
  let index ← data.column column
  let fields ← data.rows[row]?
  fields[index]?

end DataSet

/-- The values a template is filled with for one frame. -/
structure Values where
  seq : ℕ
  workerId : ℕ
  /-- The data file and the connection's row in it. -/
  data : Option (DataSet × ℕ)
  /-- The connection's captured variables, by position. -/
  vars : List String
  /-- Milliseconds of the wall clock when the frame is rendered. -/
  nowMs : ℕ

/-- What a part is replaced by. -/
def Part.render (values : Values) : Part → String
  | .text literal => literal
  | .seq => toString values.seq
  | .timestamp => toString values.nowMs
  | .workerId => toString values.workerId
  | .data column =>
    (values.data.bind (fun file => file.1.value file.2 column)).getD ""
  | .var index => values.vars[index]?.getD ""

namespace Template

/-! ## Parsing -/

/-- The characters before the first two `brace`s in a row, and those after
them. -/
def cutAtPair (brace : Char) : List Char → Option (List Char × List Char)
  | [] => none
  | [_] => none
  | c :: d :: rest =>
    if c = brace ∧ d = brace then some ([], rest)
    else (cutAtPair brace (d :: rest)).map (fun cut => (c :: cut.1, cut.2))

/-- The placeholder a name between braces stands for, if it is one: a
built-in one, a variable by its position in `vars`, or a column. -/
def placeholder (vars : List String) (name : String) : Option Part :=
  if name = "seq" then some .seq
  else if name = "timestamp" then some .timestamp
  else if name = "worker_id" then some .workerId
  else match vars.findIdx? (· == name) with
    | some index => some (.var index)
    | none => ((textAfter "data." name).filter (· ≠ "")).map .data

/-- A text part, when there is text. -/
def textPart (text : List Char) : List Part :=
  if text = [] then [] else [.text (String.ofList text)]

/-- The parts of `rest`, after the literal `text` that was read and is not
part of a placeholder. Every placeholder is at least four characters long, so
`fuel` as large as the source is enough. -/
def partsFrom (vars : List String) : ℕ → List Char → List Char → List Part
  | 0, text, rest => textPart (text ++ rest)
  | fuel + 1, text, rest =>
    match cutAtPair '\x7b' rest with
    | none => textPart (text ++ rest)
    | some (before, opened) =>
      match cutAtPair '\x7d' opened with
      | none => textPart (text ++ rest)
      | some (name, after) =>
        match placeholder vars (String.ofList name) with
        | some part => textPart (text ++ before) ++ part :: partsFrom vars fuel [] after
        -- not a placeholder: kept as written
        | none =>
          let kept := before ++ ['\x7b', '\x7b'] ++ name ++ ['\x7d', '\x7d']
          partsFrom vars fuel (text ++ kept) after

/-- Parses `source`, reading `{{NAME}}` as the variable `vars[i]` when `NAME`
is `vars[i]`. -/
def parseWithVars (source : String) (vars : List String) : Template where
  source := source
  parts := partsFrom vars source.toList.length [] source.toList

/-- Parses `source`. -/
def parse (source : String) : Template := parseWithVars source []

/-! ## Reading a template

Rendering, and what can be asked of a template before anything is sent: whether
it varies at all, whether frames differ by a sequence number that replies can be
matched by, and which columns it needs. -/

/-- Fills the template in. -/
def render (template : Template) (values : Values) : String :=
  String.join (template.parts.map (Part.render values))

/-- Whether the template has a placeholder, so that it can differ between
frames or connections. -/
def isDynamic (template : Template) : Bool :=
  template.parts.any (fun part => match part with | .text _ => false | _ => true)

/-- Whether the template has the sequence number in it. -/
def hasSeq (template : Template) : Bool := template.parts.contains .seq

/-- The data file columns the template reads. -/
def dataColumns (template : Template) : List String :=
  template.parts.filterMap (fun part => match part with | .data column => some column | _ => none)

/-- Checks that every column the template reads is one of `data`, or that it
reads none when the run has no data file. -/
def checkData (template : Template) (data : Option DataSet) : Except String Unit :=
  template.dataColumns.forM fun column =>
    let shown := "\x7b\x7bdata." ++ column ++ "\x7d\x7d"
    match data with
    | none => .error (shown ++
        " needs a data file: pass --data FILE, or data: in the scenario")
    | some data =>
      if data.column column = none then
        .error (shown ++ ": " ++ data.path ++ " has no column '" ++ column ++ "' (columns: "
          ++ String.intercalate ", " data.columns ++ ")")
      else .ok ()

end Template

/-- The payload of a data frame. -/
inductive PayloadConfig where
  | staticText (text : String)
  | dynamicText (template : Template)
  | binary (bytes : Bytes)
  deriving DecidableEq, Repr

namespace PayloadConfig

/-- A text payload, reading the names in `vars` as variables: a template when
it has a placeholder, and a fixed text otherwise. -/
def fromTextWithVars (text : String) (vars : List String) : PayloadConfig :=
  let template := Template.parseWithVars text vars
  if template.isDynamic then .dynamicText template else .staticText template.source

/-- A text payload. -/
def fromText (text : String) : PayloadConfig := fromTextWithVars text []

/-- The template of a text payload with placeholders. -/
def template : PayloadConfig → Option Template
  | .dynamicText template => some template
  | .staticText _ => none
  | .binary _ => none

end PayloadConfig

end WsBlast
