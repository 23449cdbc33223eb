import WsBlast.CsvQuotes
import WsBlast.ReplyRules

/-!
# Tables written as CSV

A table can be written in many ways: a field with or without quotes, a line
end with or without a carriage return, blank lines, the last line end left
out, a byte order mark in front. `WrittenTable` relates a table to its
texts as RFC 4180 allows them. Reading any of them gives the table back
(`DataSet.parse_written`), and whatever is read, from CSV or JSON Lines, is a
table with distinct names over its columns (`DataSet.isTable_of_parse`).

The reader is a state machine over characters that sees one character ahead. It
keeps the records so far, the fields of the current record, the text of the
current field, and whether it is inside quotes. A doubled quote is recognised
at its first half, which makes it skip the second.
-/

namespace WsBlast

open Checked (reject)

/-! ## Texts of a table

What RFC 4180 allows to write for a field, for a record and for a table, and
what users write besides. -/

/-- A field without quotes, when nothing in it needs them, or in quotes. -/
inductive WrittenField (text : String) : List Char → Prop
  | plain : (∀ c ∈ text.toList, c ≠ ',' ∧ c ≠ '"' ∧ c ≠ '\r' ∧ c ≠ '\n') →
      WrittenField text text.toList
  | quoted : WrittenField text ('"' :: doubled text.toList ++ ['"'])

/-- Fields with commas between them. -/
inductive WrittenFields : List String → List Char → Prop
  | last {field : String} {chars : List Char} :
      WrittenField field chars → WrittenFields [field] chars
  | more {field : String} {fields : List String} {chars rest : List Char} :
      WrittenField field chars → WrittenFields fields rest →
      WrittenFields (field :: fields) (chars ++ ',' :: rest)

/-- A record; its only field is in quotes when it is empty, for the line
would be blank without them. -/
structure WrittenRecord (record : List String) (chars : List Char) : Prop where
  fields : WrittenFields record chars
  only : record = [""] → chars = ['"', '"']

/-- The end of a line. -/
inductive LineEnd : List Char → Prop
  | lf : LineEnd ['\n']
  | crlf : LineEnd ['\r', '\n']

/-- Records on lines, with blank lines anywhere between them. -/
inductive WrittenTable : List (List String) → List Char → Prop
  | done : WrittenTable [] []
  | blank {records : List (List String)} {ending rest : List Char} :
      LineEnd ending → WrittenTable records rest → WrittenTable records (ending ++ rest)
  | record {record : List String} {records : List (List String)} {chars ending rest : List Char} :
      WrittenRecord record chars → LineEnd ending → WrittenTable records rest →
      WrittenTable (record :: records) (chars ++ (ending ++ rest))
  /-- The last record without a line end. -/
  | last {record : List String} {chars : List Char} :
      WrittenRecord record chars → WrittenTable [record] chars

/-- A field that needs no quotes. -/
theorem WrittenField.of_all {text : String} (h : text.toList.all (fun c =>
    c ≠ ',' ∧ c ≠ '"' ∧ c ≠ '\r' ∧ c ≠ '\n') = true) : WrittenField text text.toList :=
  .plain fun c hc => by simpa using List.all_eq_true.mp h c hc

theorem LineEnd.head {ending : List Char} (h : LineEnd ending) (rest : List Char) :
    (ending ++ rest).head? ≠ some '"' := by
  cases h <;> simp

/-- The line of a record is not blank. -/
theorem WrittenRecord.ne_nil {record : List String} {chars : List Char}
    (h : WrittenRecord record chars) : chars ≠ [] := by
  rintro rfl
  obtain ⟨hfields, honly⟩ := h
  generalize hchars : ([] : List Char) = chars at hfields
  cases hfields with
  | last hfield =>
    cases hfield with
    | plain _ =>
      have hempty := String.toList_eq_nil_iff.mp hchars.symm
      exact absurd (honly (by rw [hempty])) (by simp)
    | quoted => simp at hchars
  | more _ _ => simp at hchars

/-! ## Reading a field

In each lemma the text of the field is followed by any other that does not begin
with a quote, which would be taken for the second half of a doubled one. -/

/-- The reader between two fields. -/
structure CsvState.Between (s : CsvState) : Prop where
  field : s.field = []
  quoted : s.quoted = false
  fieldStarted : s.fieldStarted = false
  skip : s.skip = false

/-- Characters that need no quotes are taken as they are. -/
theorem csvFrom_plain {s : CsvState} {chars : List Char} (rest : List Char)
    (hskip : s.skip = false) (hquoted : s.quoted = false)
    (hplain : ∀ c ∈ chars, c ≠ ',' ∧ c ≠ '"' ∧ c ≠ '\r' ∧ c ≠ '\n') :
    csvFrom s (chars ++ rest)
      = csvFrom { s with field := s.field ++ chars,
                         fieldStarted := s.fieldStarted || decide (chars ≠ []) } rest := by
  induction chars generalizing s with
  | nil => simp
  | cons c chars ih =>
    obtain ⟨⟨hcomma, hquote, hreturn, hline⟩, hchars⟩ := List.forall_mem_cons.mp hplain
    have hstep : csvStep s c (chars ++ rest).head?
        = .ok { s with field := s.field ++ [c], fieldStarted := true } := by
      simp [csvStep, hskip, hquoted, hcomma, hquote, hreturn, hline]
    rw [List.cons_append, csvFrom, hstep, Checked.ok_bind,
      ih (by exact hskip) (by exact hquoted) hchars]
    simp

/-- Doubled quotes inside a field are read as one, up to the closing one. -/
theorem csvFrom_doubled {s : CsvState} {rest : List Char} (body : List Char)
    (hskip : s.skip = false) (hquoted : s.quoted = true) (hrest : rest.head? ≠ some '"') :
    ∃ line, csvFrom s (doubled body ++ '"' :: rest)
      = csvFrom { s with field := s.field ++ body, quoted := false, line := line } rest := by
  induction body generalizing s with
  | nil =>
    refine ⟨s.line, ?_⟩
    have hstep : csvStep s '"' rest.head? = .ok { s with quoted := false } := by
      simp [csvStep, hskip, hquoted, hrest]
    rw [doubled_nil, List.nil_append, csvFrom, hstep, Checked.ok_bind, List.append_nil]
  | cons c body ih =>
    by_cases hc : c = '"'
    · subst hc
      have hfirst : csvStep s '"' (some '"')
          = .ok { s with field := s.field ++ ['"'], skip := true } := by
        simp [csvStep, hskip, hquoted]
      have hsecond (next : Option Char) :
          csvStep { s with field := s.field ++ ['"'], skip := true } '"' next
            = .ok { s with field := s.field ++ ['"'], skip := false } := rfl
      -- the first quote is taken and the second one skipped
      obtain ⟨line, hline⟩ := ih (s := { s with field := s.field ++ ['"'], skip := false })
        rfl hquoted
      refine ⟨line, ?_⟩
      show csvFrom s ('"' :: '"' :: (doubled body ++ '"' :: rest)) = _
      rw [csvFrom, List.head?_cons, hfirst, Checked.ok_bind, csvFrom, hsecond, Checked.ok_bind,
        hline]
      simp [hskip]
    · have hstep : ∃ line, csvStep s c (doubled body ++ '"' :: rest).head?
          = .ok { s with field := s.field ++ [c], line := line } := by
        by_cases hnewline : c = '\n'
        · exact ⟨s.line + 1, by simp [csvStep, hskip, hquoted, hnewline]⟩
        · exact ⟨s.line, by simp [csvStep, hskip, hquoted, hnewline, hc]⟩
      obtain ⟨after, hstep⟩ := hstep
      obtain ⟨line, hline⟩ := ih (s := { s with field := s.field ++ [c], line := after })
        hskip hquoted
      refine ⟨line, ?_⟩
      rw [doubled_cons, doubledChar_of_ne hc, List.cons_append, List.nil_append, List.cons_append,
        csvFrom, hstep, Checked.ok_bind, hline]
      simp

/-- A written field is read as its text. -/
theorem csvFrom_field {s : CsvState} {text : String} {chars rest : List Char}
    (h : WrittenField text chars) (hs : s.Between) (hrest : rest.head? ≠ some '"') :
    ∃ line, csvFrom s (chars ++ rest)
      = csvFrom { s with field := text.toList, fieldStarted := decide (chars ≠ []),
                         line := line } rest := by
  cases h with
  | plain hplain =>
    refine ⟨s.line, ?_⟩
    rw [csvFrom_plain rest hs.skip hs.quoted hplain, hs.field, hs.fieldStarted]
    simp
  | quoted =>
    have hopen : csvStep s '"' (doubled text.toList ++ '"' :: rest).head?
        = .ok { s with quoted := true, fieldStarted := true } := by
      simp [csvStep, hs.skip, hs.quoted, hs.fieldStarted]
    obtain ⟨line, hline⟩ := csvFrom_doubled (s := { s with quoted := true, fieldStarted := true })
      text.toList hs.skip rfl hrest
    refine ⟨line, ?_⟩
    have htext : '"' :: doubled text.toList ++ ['"'] ++ rest
        = '"' :: (doubled text.toList ++ '"' :: rest) := by simp
    rw [htext, csvFrom, hopen, Checked.ok_bind, hline]
    simp [hs.field, hs.quoted]

/-! ## Reading records

Fields one after the other; the last one is still open where the record ends. -/

/-- The reader behind the fields of a record, whose last one it still
holds. -/
structure CsvState.Holds (s : CsvState) (records : List (ℕ × List String))
    (record : List String) : Prop where
  skip : s.skip = false
  quoted : s.quoted = false
  records : s.records = records
  record : s.record ++ [String.ofList s.field] = record

theorem csvFrom_fields {s : CsvState} {fields : List String} {chars rest : List Char}
    (h : WrittenFields fields chars) (hs : s.Between) (hrest : rest.head? ≠ some '"') :
    ∃ s', csvFrom s (chars ++ rest) = csvFrom s' rest ∧ s'.Holds s.records (s.record ++ fields) ∧
      (s.record ≠ [] ∨ chars ≠ [] → s'.started = true) := by
  induction h generalizing s with
  | @last field chars hfield =>
    obtain ⟨line, hline⟩ := csvFrom_field hfield hs hrest
    refine ⟨_, hline, ⟨hs.skip, hs.quoted, rfl, by simp⟩, ?_⟩
    rintro (hrecord | hchars)
    · simp [CsvState.started, hrecord]
    · simp [CsvState.started, hchars]
  | @more field fields chars later hfield hfields ih =>
    have hnext : (',' :: (later ++ rest)).head? ≠ some '"' := by simp
    obtain ⟨line, hline⟩ := csvFrom_field hfield hs hnext
    have hcomma (t : CsvState) (hskip : t.skip = false) (hquoted : t.quoted = false)
        (next : Option Char) :
        csvStep t ',' next = .ok { t.endField with fieldStarted := false } := by
      simp [csvStep, hskip, hquoted]
    obtain ⟨s', hrun, hheld, hstarted⟩ := ih (s := { records := s.records
                                                     record := s.record ++ [field]
                                                     line := line }) ⟨rfl, rfl, rfl, rfl⟩
    refine ⟨s', ?_, by simpa using hheld, fun _ => hstarted (Or.inl (by simp))⟩
    rw [List.append_assoc, List.cons_append, hline, csvFrom,
      hcomma _ (by exact hs.skip) (by exact hs.quoted), Checked.ok_bind, ← hrun]
    simp [CsvState.endField, hs.skip, hs.quoted]

theorem csvFrom_lineEnd {s : CsvState} {ending : List Char} (h : LineEnd ending)
    (rest : List Char) (hskip : s.skip = false) (hquoted : s.quoted = false) :
    csvFrom s (ending ++ rest)
      = csvFrom { (if s.started then s.endRecord s.line else s) with
                    line := s.line + 1, fieldStarted := false } rest := by
  have hfeed (next : Option Char) : csvStep s '\n' next
      = .ok { (if s.started then s.endRecord s.line else s) with
                line := s.line + 1, fieldStarted := false } := by
    simp [csvStep, hskip, hquoted]
  cases h with
  | lf => rw [List.singleton_append, csvFrom, hfeed, Checked.ok_bind]
  | crlf =>
    have hreturn : csvStep s '\r' (some '\n') = .ok s := by simp [csvStep, hskip, hquoted]
    show csvFrom s ('\r' :: '\n' :: rest) = _
    rw [csvFrom, List.head?_cons, hreturn, Checked.ok_bind, csvFrom, hfeed, Checked.ok_bind]

/-- The records that were read, with the one that is still open. -/
def CsvState.allRecords (s : CsvState) : List (ℕ × List String) :=
  (if s.started then s.endRecord s.line else s).records

/-- **A written table is read record by record.** -/
theorem csvFrom_table {s : CsvState} {table : List (List String)} {chars : List Char}
    (h : WrittenTable table chars) (hs : s.Between) (hrecord : s.record = []) :
    ∃ final, csvFrom s chars = .ok final ∧ final.quoted = false ∧
      final.allRecords.map Prod.snd = s.records.map Prod.snd ++ table := by
  induction h generalizing s with
  | done =>
    refine ⟨s, rfl, hs.quoted, ?_⟩
    simp [CsvState.allRecords, CsvState.started, hs.field, hs.fieldStarted, hrecord]
  | @blank table ending rest hending hrest ih =>
    have hblank : s.started = false := by
      simp [CsvState.started, hs.field, hs.fieldStarted, hrecord]
    rw [csvFrom_lineEnd hending rest hs.skip hs.quoted, hblank, if_neg Bool.false_ne_true]
    exact ih ⟨hs.field, hs.quoted, rfl, hs.skip⟩ hrecord
  | @record record table chars ending rest hwritten hending hrest ih =>
    obtain ⟨s', hrun, hheld, hstarted⟩ :=
      csvFrom_fields hwritten.fields hs (hending.head rest)
    rw [hrun, csvFrom_lineEnd hending rest hheld.skip hheld.quoted,
      if_pos (hstarted (Or.inr hwritten.ne_nil))]
    -- the next record begins with a reader that holds nothing
    obtain ⟨final, hfinal, hquoted, hall⟩ :=
      ih (s := { s'.endRecord s'.line with line := s'.line + 1, fieldStarted := false })
        ⟨rfl, hheld.quoted, rfl, hheld.skip⟩ rfl
    refine ⟨final, hfinal, hquoted, hall.trans ?_⟩
    have heq := hheld.record
    rw [hrecord, List.nil_append] at heq
    simp [CsvState.endRecord, CsvState.endField, hheld.records, heq]
  | @last record chars hwritten =>
    have hnext : ([] : List Char).head? ≠ some '"' := by simp
    obtain ⟨s', hrun, hheld, hstarted⟩ := csvFrom_fields hwritten.fields hs hnext
    refine ⟨s', by rw [← List.append_nil chars, hrun]; rfl, hheld.quoted, ?_⟩
    have heq := hheld.record
    rw [hrecord, List.nil_append] at heq
    rw [CsvState.allRecords, if_pos (hstarted (Or.inr hwritten.ne_nil))]
    simp [CsvState.endRecord, CsvState.endField, hheld.records, heq]

/-! ## Reading tables

The first record gives the columns, whose names are checked, and the others the
rows, whose widths are. -/

theorem checkColumnsFrom_eq_ok {before columns : List String} :
    checkColumnsFrom before columns = .ok () ↔
      (∀ column ∈ columns, isBlank column = false ∧ column ∉ before) ∧ columns.Nodup := by
  induction columns generalizing before with
  | nil => simp [checkColumnsFrom]
  | cons column columns ih =>
    unfold checkColumnsFrom
    rw [List.forall_mem_cons, List.nodup_cons]
    split_ifs with hblank htwice
    · simp [hblank]
    · simp [htwice]
    · rw [ih]
      constructor
      · rintro ⟨hcolumns, hnodup⟩
        refine ⟨⟨⟨by simpa using hblank, htwice⟩, fun c hc => ⟨(hcolumns c hc).1, ?_⟩⟩, ?_, hnodup⟩
        · exact fun hmem => (hcolumns c hc).2 (List.mem_append_left _ hmem)
        · exact fun hmem => (hcolumns column hmem).2 (by simp)
      · rintro ⟨⟨-, hcolumns⟩, hnot, hnodup⟩
        refine ⟨fun c hc => ⟨(hcolumns c hc).1, fun hmem => ?_⟩, hnodup⟩
        rcases List.mem_append.mp hmem with hbefore | hlast
        · exact (hcolumns c hc).2 hbefore
        · exact hnot (List.mem_singleton.mp hlast ▸ hc)

/-- The names of columns: distinct, and none blank. -/
theorem checkColumns_eq_ok {columns : List String} :
    checkColumns columns = .ok () ↔
      columns.Nodup ∧ ∀ column ∈ columns, isBlank column = false := by
  rw [checkColumns, checkColumnsFrom_eq_ok, and_comm]
  simp

/-- **Reading undoes writing.** -/
theorem parseCsv_written {text : String} {columns : List String} {rows : List (List String)}
    (h : WrittenTable (columns :: rows) text.toList) (hnodup : columns.Nodup)
    (hnamed : ∀ column ∈ columns, isBlank column = false)
    (hwidth : ∀ row ∈ rows, row.length = columns.length) :
    parseCsv text = .ok (columns, rows) := by
  obtain ⟨final, hfinal, hquoted, hall⟩ := csvFrom_table (s := {}) h ⟨rfl, rfl, rfl, rfl⟩ rfl
  change final.allRecords.map Prod.snd = columns :: rows at hall
  obtain ⟨header, records, hrecords, hheader, hrows⟩ := List.map_eq_cons_iff.mp hall
  have hchecked : records.mapM (checkRow columns) = .ok rows := by
    rw [Checked.mapM_eq_ok, ← hrows, List.forall₂_map_right_iff, List.forall₂_same]
    intro record hrecord
    have hlength := hwidth record.2 (by rw [← hrows]; exact List.mem_map_of_mem hrecord)
    rw [checkRow, if_pos hlength]
  unfold parseCsv
  rw [hfinal, Checked.ok_bind, reject, if_neg (by simp [hquoted]), Checked.ok_bind]
  rw [show (if final.started then final.endRecord final.line else final).records
    = header :: records from hrecords]
  show (do checkColumns header.2
           return (header.2, ← records.mapM (checkRow header.2)) : Except String _) = _
  rw [hheader, checkColumns_eq_ok.mpr ⟨hnodup, hnamed⟩, Checked.ok_bind, hchecked]
  rfl

/-! ## Data files

From the text of a table to a file, and from what is read to what a table is. -/

theorem parseJsonLines_columns {host : Host} {text : String} {columns : List String}
    {rows : List (List String)} (h : parseJsonLines host text = .ok (columns, rows)) :
    columns.Nodup ∧ ∀ column ∈ columns, isBlank column = false := by
  unfold parseJsonLines at h
  obtain ⟨⟨found, all⟩, -, h⟩ := Checked.bind_eq_ok.mp h
  dsimp only at h
  split at h
  case h_1 => cases h
  case h_2 first _ =>
    obtain ⟨hcolumns, h⟩ := Checked.check_bind_eq_ok.mp h
    cases Checked.pure_eq_ok.mp h
    exact checkColumns_eq_ok.mp hcolumns

theorem parseCsv_columns {text : String} {columns : List String} {rows : List (List String)}
    (h : parseCsv text = .ok (columns, rows)) :
    columns.Nodup ∧ ∀ column ∈ columns, isBlank column = false := by
  unfold parseCsv at h
  obtain ⟨s, -, h⟩ := Checked.bind_eq_ok.mp h
  obtain ⟨-, h⟩ := Checked.check_bind_eq_ok.mp h
  dsimp only at h
  split at h
  case h_1 => cases h
  case h_2 header records _ =>
    obtain ⟨hcolumns, h⟩ := Checked.check_bind_eq_ok.mp h
    obtain ⟨checked, -, h⟩ := Checked.bind_eq_ok.mp h
    cases Checked.pure_eq_ok.mp h
    exact checkColumns_eq_ok.mp hcolumns

namespace DataSet

variable {host : Host} {path text : String} {data : DataSet}

/-- A table whose columns have distinct names that are not blank. -/
structure IsTable (data : DataSet) : Prop extends data.WellFormed where
  nodup : data.columns.Nodup
  named : ∀ column ∈ data.columns, isBlank column = false

theorem isTable_of_parse (h : parse host path text = .ok data) : data.IsTable := by
  refine { wellFormed_of_parse h with nodup := ?_, named := ?_ } <;>
  · unfold parse at h
    obtain ⟨⟨columns, rows⟩, hread, h⟩ := Checked.bind_eq_ok.mp h
    obtain ⟨-, h⟩ := Checked.check_bind_eq_ok.mp h
    cases Checked.pure_eq_ok.mp h
    rw [Checked.mapError_eq_ok] at hread
    have hcolumns : columns.Nodup ∧ ∀ column ∈ columns, isBlank column = false := by
      split at hread
      · exact parseJsonLines_columns hread
      · exact parseCsv_columns hread
    first
      | exact hcolumns.1
      | exact hcolumns.2

/-- The text of a file with `text` in it: a byte order mark may stand in
front, and has to when the text itself begins with one. -/
inductive FileText (text : String) : String → Prop
  | plain : text.toList.head? ≠ some '\uFEFF' → FileText text text
  | marked : FileText text ("\uFEFF" ++ text)

theorem FileText.read {file : String} (h : FileText text file) :
    (textAfter "\uFEFF" file).getD file = text := by
  cases h with
  | plain hhead =>
    have hnone : textAfter "\uFEFF" text = none := by
      unfold textAfter
      refine if_neg fun hprefix => hhead ?_
      obtain ⟨rest, hrest⟩ := hprefix
      rw [← hrest]
      rfl
    rw [hnone]
    rfl
  | marked => rw [textAfter_append]; rfl

/-- Whether a file is read as JSON Lines for its name. -/
def NamedJsonLines (path : String) : Prop :=
  path.toLower.endsWith ".jsonl" = true ∨ path.toLower.endsWith ".ndjson" = true

instance (path : String) : Decidable (NamedJsonLines path) :=
  inferInstanceAs (Decidable (_ ∨ _))

end DataSet

/-- **Reading undoes writing, and what is read is a table.** -/
theorem data_file_round_trip (host : Host) (path : String) :
    (∀ (columns : List String) (rows : List (List String)) (text file : String),
      columns.Nodup → (∀ column ∈ columns, isBlank column = false) → rows ≠ [] →
      (∀ row ∈ rows, row.length = columns.length) →
      WrittenTable (columns :: rows) text.toList → DataSet.FileText text file →
      (text.toList.dropWhile isWhiteSpace).head? ≠ some '\x7b' →
      ¬ DataSet.NamedJsonLines path →
      DataSet.parse host path file = .ok { path, columns, rows, share := none }) ∧
    ∀ (text : String) (data : DataSet), DataSet.parse host path text = .ok data →
      (∀ row ∈ data.rows, row.length = data.columns.length) ∧ data.columns.Nodup ∧
        ∀ column ∈ data.columns, isBlank column = false := by
  constructor
  · intro columns rows text file hnodup hnamed hrows hwidth hwritten hfile hobject hpath
    have hcsv : (path.toLower.endsWith ".jsonl" || path.toLower.endsWith ".ndjson"
        || (text.toList.dropWhile isWhiteSpace).head? = some '\x7b') = false := by
      rw [DataSet.NamedJsonLines, not_or] at hpath
      simp [hpath.1, hpath.2, hobject]
    unfold DataSet.parse
    dsimp only
    rw [hfile.read, hcsv, if_neg Bool.false_ne_true,
      parseCsv_written hwritten hnodup hnamed hwidth]
    show (do reject (rows = []) _; return _ : Except String DataSet) = _
    rw [reject, if_neg hrows]
    rfl
  · intro text data hparse
    have htable := DataSet.isTable_of_parse hparse
    exact ⟨htable.length_row, htable.nodup, htable.named⟩

theorem data_file_round_trip_users :
    DataSet.parse plainHost "users.csv" "\uFEFFuser,note\r\n\r\nada,\"say \"\"hi\"\"\"\n\"\","
      = .ok { path := "users.csv", columns := ["user", "note"],
              rows := [["ada", "say \"hi\""], ["", ""]], share := none } ∧
    ∀ data, DataSet.parse plainHost "users.csv" "a\n1" = .ok data → data.columns.Nodup := by
  have hwritten : WrittenTable [["user", "note"], ["ada", "say \"hi\""], ["", ""]]
      "user,note\r\n\r\nada,\"say \"\"hi\"\"\"\n\"\",".toList :=
    @WrittenTable.record ["user", "note"] _ _ _ _
      ⟨.more (.of_all rfl) (.last (.of_all rfl)), by simp⟩ .crlf
      (.blank .crlf (.record ⟨.more (.of_all rfl) (.last .quoted), by simp⟩ .lf
        (.last ⟨.more .quoted (.last (@WrittenField.of_all "" rfl)), by simp⟩)))
  exact ⟨(data_file_round_trip plainHost "users.csv").1 _ _ _ _ (by decide) (by decide) (by decide)
    (by decide) hwritten .marked (by decide +kernel) (by decide +kernel),
    fun data h => ((data_file_round_trip plainHost "users.csv").2 _ data h).2.1⟩

/-- A name is compared in lower case: CSV in a file named `u.JSONL` is read as
JSON Lines. -/
theorem data_file_upper_case :
    WrittenTable [["a"], ["1"]] "a\n1".toList ∧
      "u.JSONL".endsWith ".jsonl" = false ∧ "u.JSONL".endsWith ".ndjson" = false ∧
      ∀ data, DataSet.parse plainHost "u.JSONL" "a\n1" ≠ .ok data := by
  refine ⟨?_, by decide +kernel, by decide +kernel, ?_⟩
  · exact .record ⟨.last (@WrittenField.of_all "a" rfl), by simp⟩ .lf
      (.last ⟨.last (@WrittenField.of_all "1" rfl), by simp⟩)
  · intro data hparse
    have hread : (DataSet.parse plainHost "u.JSONL" "a\n1").isOk = false := by decide +kernel
    rw [hparse] at hread
    cases hread

end WsBlast
