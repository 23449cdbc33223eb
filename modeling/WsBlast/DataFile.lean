import WsBlast.Host

/-!
# Reading data files

A `--data` file is CSV with a header row or JSON Lines; `DataSet.load` reads
either. The CSV reader is a machine over the characters (`csvStep`) that
looks one character ahead.

Whatever is read is a table (`DataSet.WellFormed`): it has a row, and every
row has one value for each column. An agent checks exactly this of the rows
it receives (`DataSet.fromParts`), so it accepts every file that was read.

Both formats are read into the same table, a list of columns and a list of
rows. The checks are made where the source makes them, so the message a user
sees names the first thing that is wrong: a column without a name or named
twice, then the first row with another number of values.
-/

namespace WsBlast

open Checked (reject)

/-! ## Tables

The columns are checked from the left, each against those before it, so that the
name that is reported is the one that stands there a second time. -/

/-- Rejects a column without a name and a name that appears twice, looking at
each column after those before it. -/
def checkColumnsFrom (before : List String) : List String → Except String Unit
  | [] => .ok ()
  | column :: rest =>
    if isBlank column then .error s!"column {before.length + 1} has no name"
    else if column ∈ before then .error s!"column '{column}' appears twice"
    else checkColumnsFrom (before ++ [column]) rest

/-- Rejects columns without a name and names that appear twice. -/
def checkColumns (columns : List String) : Except String Unit := checkColumnsFrom [] columns

/-! ## CSV

The machine of the source, with its flags: whether it is inside quotes, whether
the field has begun, whether the next character was looked at already. -/

/-- Where the CSV reader is. -/
structure CsvState where
  /-- The records read, each with the line it ended on. -/
  records : List (ℕ × List String) := []
  record : List String := []
  field : List Char := []
  quoted : Bool := false
  fieldStarted : Bool := false
  line : ℕ := 1
  /-- The next character belongs to the one before it. -/
  skip : Bool := false
  deriving DecidableEq

namespace CsvState

variable (s : CsvState)

/-- Whether a record has begun. -/
def started : Bool := s.fieldStarted || s.field ≠ [] || s.record ≠ []

/-- Ends the field. -/
def endField : CsvState :=
  { s with record := s.record ++ [String.ofList s.field], field := [] }

/-- Ends the record, which ended on line `line`. -/
def endRecord (line : ℕ) : CsvState :=
  let s := s.endField
  { s with records := s.records ++ [(line, s.record)], record := [] }

end CsvState

/-- Reads one character, `next` being the one after it. -/
def csvStep (s : CsvState) (c : Char) (next : Option Char) : Except String CsvState :=
  if s.skip then .ok { s with skip := false }
  else if s.quoted then
    if c = '"' ∧ next = some '"' then .ok { s with field := s.field ++ ['"'], skip := true }
    else if c = '"' then .ok { s with quoted := false }
    else if c = '\n' then .ok { s with line := s.line + 1, field := s.field ++ [c] }
    else .ok { s with field := s.field ++ [c] }
  else if c = '"' ∧ s.fieldStarted = false then .ok { s with quoted := true, fieldStarted := true }
  else if c = '"' then .error s!"line {s.line}: a quote inside an unquoted field"
  else if c = ',' then .ok { s.endField with fieldStarted := false }
  else if c = '\r' ∧ next = some '\n' then .ok s
  else if c = '\n' then
    let ended := if s.started then s.endRecord s.line else s
    .ok { ended with line := s.line + 1, fieldStarted := false }
  else .ok { s with field := s.field ++ [c], fieldStarted := true }

/-- Reads the characters of a file. -/
def csvFrom (s : CsvState) : List Char → Except String CsvState
  | [] => .ok s
  | c :: rest => do csvFrom (← csvStep s c rest.head?) rest

/-- A row has one value for each column. -/
def checkRow (columns : List String) (row : ℕ × List String) : Except String (List String) :=
  if row.2.length = columns.length then .ok row.2
  else .error s!"line {row.1}: {row.2.length} values for {columns.length} columns"

/-- CSV as RFC 4180 describes it: a header row, then one row a record. Blank
lines are skipped. -/
def parseCsv (text : String) : Except String (List String × List (List String)) := do
  let s ← csvFrom {} text.toList
  reject (s.quoted = true) s!"line {s.line}: a quoted field is not closed"
  let records := (if s.started then s.endRecord s.line else s).records
  match records with
  | [] => throw "no header row"
  | (_, columns) :: rows =>
    checkColumns columns
    return (columns, ← rows.mapM (checkRow columns))

/-! ## JSON Lines -/

/-- A line without the carriage return at its end. -/
def withoutReturn (line : List Char) : List Char :=
  if line.getLast? = some '\r' then line.dropLast else line

/-- The lines of a text. A carriage return is part of the line break when a
line feed follows it; what comes after the last line feed is a line if it is
not empty, and keeps a carriage return at its end. -/
def textLines (text : String) : List String :=
  let lines := text.toList.splitOn '\n'
  let unended := lines.getLast?.toList.filter (fun line => line ≠ [])
  (lines.dropLast.map withoutReturn ++ unended).map String.ofList

/-- The text of a value in a row. -/
def fieldText (host : Host) (number : ℕ) (column : String) : Json → Except String String
  | .string text => .ok text
  | .number text => .ok (host.serde.toText (.number text))
  | .bool value => .ok (host.serde.toText (.bool value))
  | .null => .ok ""
  | _ => .error
      s!"line {number}: '{column}' is an array or object; values must be strings, numbers or booleans"

/-- Adds the row of a line: its object has the keys of the first one. -/
def jsonLine (host : Host) (state : Option (List String) × List (List String))
    (line : ℕ × String) : Except String (Option (List String) × List (List String)) :=
  if isBlank line.2 then .ok state
  else match host.serde.fromStr line.2 with
    | none => .error s!"line {line.1}: {host.jsonError line.2}"
    | some (.object fields) =>
      let columns := state.1.getD (fields.map Prod.fst)
      let keys := String.intercalate ", " columns
      if fields.length ≠ columns.length
          ∨ columns.any (fun column => fields.all (fun field => field.1 ≠ column)) then
        .error s!"line {line.1}: the keys differ from the first line's ({keys})"
      else do
        let row ← columns.mapM fun column =>
          fieldText host line.1 column
            (((fields.find? (·.1 == column)).map Prod.snd).getD .null)
        return (some columns, state.2 ++ [row])
    | some _ => .error s!"line {line.1}: expected a JSON object"

/-- JSON Lines: one object per line, with the keys of the first line. -/
def parseJsonLines (host : Host) (text : String) :
    Except String (List String × List (List String)) := do
  let lines := (textLines text).zipIdx.map (fun line => (line.2 + 1, line.1))
  let (columns, rows) ← lines.foldlM (jsonLine host) (none, [])
  match columns with
  | none => throw "no rows"
  | some columns =>
    checkColumns columns
    return (columns, rows)

/-! ## Data files

The format is chosen by the name or by the first character. -/

namespace DataSet

/-- The largest data file that is read. -/
def maxBytes : ℕ := 256 * 1024 * 1024

/-- Parses the text of a data file named `path`: JSON Lines when the name
says so or the text starts with an object, CSV otherwise. -/
def parse (host : Host) (path text : String) : Except String DataSet := do
  let text := (textAfter "\uFEFF" text).getD text
  let lower := path.toLower
  let jsonLines := lower.endsWith ".jsonl" || lower.endsWith ".ndjson"
    || (text.toList.dropWhile isWhiteSpace).head? = some '\x7b'
  let (columns, rows) ← (if jsonLines then parseJsonLines host text else parseCsv text).mapError
    (fun message => s!"{path}: {message}")
  reject (rows = []) s!"{path}: no rows"
  return { path, columns, rows, share := none }

/-- Reads a data file. -/
def load (host : Host) (path : String) : Except String DataSet := do
  let size ← (host.fileSize path).mapError (fun message => s!"{path}: {message}")
  reject (maxBytes < size)
    s!"{path}: {size} bytes is more than the {maxBytes} a data file may have"
  let text ← (host.readText path).mapError (fun message => s!"{path}: {message}")
  parse host path text

/-- Builds a data set from columns and rows, as a distributed agent receives
it. -/
def fromParts (path : String) (columns : List String) (rows : List (List String)) :
    Except String DataSet :=
  if rows = [] then .error s!"{path}: no rows"
  else match rows.findIdx? (fun row => row.length ≠ columns.length) with
    | some n => .error
        s!"{path}: row {n + 1} has {(rows.getD n []).length} values for {columns.length} columns"
    | none => .ok { path, columns, rows, share := none }

/-- A table: it has a row, and every row has one value for each column. -/
structure WellFormed (data : DataSet) : Prop where
  rows_ne_nil : data.rows ≠ []
  length_row : ∀ row ∈ data.rows, row.length = data.columns.length

end DataSet

/-! ## What is read is a table -/

theorem parseCsv_length {text : String} {columns : List String} {rows : List (List String)}
    (h : parseCsv text = .ok (columns, rows)) : ∀ row ∈ rows, row.length = columns.length := by
  unfold parseCsv at h
  obtain ⟨s, -, h⟩ := Checked.bind_eq_ok.mp h
  obtain ⟨-, h⟩ := Checked.check_bind_eq_ok.mp h
  dsimp only at h
  split at h
  case h_1 => cases h
  case h_2 header records _ =>
    obtain ⟨-, h⟩ := Checked.check_bind_eq_ok.mp h
    obtain ⟨checked, hchecked, h⟩ := Checked.bind_eq_ok.mp h
    cases Checked.pure_eq_ok.mp h
    intro row hrow
    obtain ⟨record, -, hrecord⟩ := Checked.exists_of_mem_mapM hchecked hrow
    unfold checkRow at hrecord
    split at hrecord
    case isTrue hlen => cases hrecord; exact hlen
    case isFalse => cases hrecord

/-- The rows read so far fit the columns of the first line, and there are
none before it. -/
def JsonRows (state : Option (List String) × List (List String)) : Prop :=
  ∀ row ∈ state.2, ∃ columns, state.1 = some columns ∧ row.length = columns.length

theorem jsonRows_jsonLine {host : Host} {state next : Option (List String) × List (List String)}
    {line : ℕ × String} (hs : JsonRows state) (h : jsonLine host state line = .ok next) :
    JsonRows next := by
  unfold jsonLine at h
  split at h
  case isTrue => cases h; exact hs
  case isFalse =>
    split at h
    case h_1 => cases h
    case h_3 => cases h
    case h_2 fields _ =>
      dsimp only at h
      split at h
      case isTrue => cases h
      case isFalse =>
        obtain ⟨row, hrow, h⟩ := Checked.bind_eq_ok.mp h
        cases Checked.pure_eq_ok.mp h
        have hlen : row.length = (state.1.getD (fields.map Prod.fst)).length :=
          (Checked.mapM_eq_ok.mp hrow).length_eq.symm
        intro other hother
        rcases List.mem_append.mp hother with hold | hnew
        · obtain ⟨columns, hcolumns, hlength⟩ := hs other hold
          exact ⟨columns, by rw [hcolumns]; rfl, hlength⟩
        · cases List.mem_singleton.mp hnew
          exact ⟨_, rfl, hlen⟩

theorem jsonRows_foldlM {host : Host} (lines : List (ℕ × String))
    {state final : Option (List String) × List (List String)} (hs : JsonRows state)
    (h : lines.foldlM (jsonLine host) state = .ok final) : JsonRows final := by
  -- line by line, from the columns of the first one
  induction lines generalizing state with
  | nil => cases h; exact hs
  | cons line lines ih =>
    rw [List.foldlM_cons] at h
    obtain ⟨next, hnext, h⟩ := Checked.bind_eq_ok.mp h
    exact ih (jsonRows_jsonLine hs hnext) h

theorem parseJsonLines_length {host : Host} {text : String} {columns : List String}
    {rows : List (List String)} (h : parseJsonLines host text = .ok (columns, rows)) :
    ∀ row ∈ rows, row.length = columns.length := by
  unfold parseJsonLines at h
  obtain ⟨⟨found, all⟩, hfold, h⟩ := Checked.bind_eq_ok.mp h
  have hrows : JsonRows (found, all) := jsonRows_foldlM _ (by simp [JsonRows]) hfold
  dsimp only at h
  split at h
  case h_1 => cases h
  case h_2 first _ =>
    obtain ⟨-, h⟩ := Checked.check_bind_eq_ok.mp h
    cases Checked.pure_eq_ok.mp h
    intro row hrow
    obtain ⟨columns, hcolumns, hlength⟩ := hrows row hrow
    cases hcolumns
    exact hlength

namespace DataSet

variable {host : Host} {path text : String} {data : DataSet}

theorem wellFormed_of_parse (h : parse host path text = .ok data) : data.WellFormed := by
  unfold parse at h
  obtain ⟨⟨columns, rows⟩, hread, h⟩ := Checked.bind_eq_ok.mp h
  obtain ⟨hne, h⟩ := Checked.check_bind_eq_ok.mp h
  cases Checked.pure_eq_ok.mp h
  refine ⟨Checked.reject_eq_ok.mp hne, ?_⟩
  rw [Checked.mapError_eq_ok] at hread
  split at hread
  · exact parseJsonLines_length hread
  · exact parseCsv_length hread

/-- **A file that was read is a table.** -/
theorem wellFormed_of_load (h : load host path = .ok data) :
    data.WellFormed ∧ data.share = none := by
  unfold load at h
  obtain ⟨size, -, h⟩ := Checked.bind_eq_ok.mp h
  obtain ⟨-, h⟩ := Checked.check_bind_eq_ok.mp h
  obtain ⟨text, -, h⟩ := Checked.bind_eq_ok.mp h
  refine ⟨wellFormed_of_parse h, ?_⟩
  unfold parse at h
  obtain ⟨⟨columns, rows⟩, -, h⟩ := Checked.bind_eq_ok.mp h
  obtain ⟨-, h⟩ := Checked.check_bind_eq_ok.mp h
  cases Checked.pure_eq_ok.mp h
  rfl

/-- An agent accepts a table. -/
theorem fromParts_of_wellFormed (h : data.WellFormed) :
    fromParts data.path data.columns data.rows = .ok { data with share := none } := by
  have hall : data.rows.findIdx? (fun row => row.length ≠ data.columns.length) = none := by
    rw [List.findIdx?_eq_none_iff]
    intro row hrow
    simpa using h.length_row row hrow
  unfold fromParts
  rw [if_neg h.rows_ne_nil, hall]

end DataSet

end WsBlast
