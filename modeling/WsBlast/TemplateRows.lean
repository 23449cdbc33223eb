import WsBlast.Builder
import WsBlast.Session
import WsBlast.TemplateParts

/-!
# The row a template is filled in with

A header template and an auth template are filled in once for each row of the
data file before a run, and then for every connection with its row. The
connection's values give each part the same text as those of one of the checked
rows, or a number like it (`exists_row_alike`).

A connection fills its templates in with the row that its number and its agent
select, and the checks before the run went over the rows of the file with
numbers of their own. Every placeholder but the numbers gets its value from the
row, and every row that a connection can get is one of those that were checked.
-/

namespace WsBlast

/-! ## Templates without variables

A handshake comes before any reply, so its templates have no captured variables.
-/

/-- The data file of a run has the rows that its templates were checked with,
whatever the place of the agent; a template that was checked without one reads
no column. -/
def ReadsTable (checked data : Option DataSet) : Prop :=
  checked = none ∨
    data.map (fun file => (file.columns, file.rows))
      = checked.map (fun file => (file.columns, file.rows))

namespace Template

theorem placeholder_nil_ne_var (name : String) (index : ℕ) :
    placeholder [] name ≠ some (.var index) := by
  unfold placeholder
  split_ifs
  · simp
  · simp
  · simp
  · show (((textAfter "data." name).filter (· ≠ "")).map .data : Option Part) ≠ some (.var index)
    intro h
    obtain ⟨column, -, hcolumn⟩ := Option.map_eq_some_iff.mp h
    cases hcolumn

/-- A template without variables has none of them in it. -/
theorem ne_var_of_mem_partsFrom {fuel : ℕ} {text rest : List Char} {part : Part}
    (h : part ∈ partsFrom [] fuel text rest) (index : ℕ) : part ≠ .var index := by
  have htext : ∀ {text : List Char}, part ∈ textPart text → part ≠ .var index := fun hmem => by
    rw [mem_textPart hmem]
    simp
  refine partsFrom_induction
    (motive := fun _ _ parts => part ∈ parts → part ≠ .var index) ?_ ?_ ?_ fuel text rest h
  · exact fun _ _ => htext
  · intro text before name after found parts hbraced hname ih hmem
    rcases List.mem_append.mp hmem with hmem | hmem
    · exact htext hmem
    · rcases List.mem_cons.mp hmem with rfl | hmem
      · rintro rfl
        exact placeholder_nil_ne_var _ index hname
      · exact ih hmem
  · exact fun _ _ _ _ _ _ _ ih => ih

/-- A template that is not dynamic is its source. -/
theorem render_parse_of_static {source : String} (h : (parse source).isDynamic = false)
    (values : Values) : (parse source).render values = source := by
  refine render_of_forall_isText (fun part hpart => ?_) values
  have hstatic := List.any_eq_false.mp h part hpart
  cases part with
  | text literal => exact ⟨literal, rfl⟩
  | _ => exact absurd rfl hstatic

/-- A template that reads a column is not checked without a data file. -/
theorem dataColumns_of_checkData_none {template : Template}
    (h : template.checkData none = .ok ()) : template.dataColumns = [] := by
  refine List.eq_nil_iff_forall_not_mem.mpr fun column hcolumn => ?_
  cases Checked.forM_eq_ok.mp h column hcolumn

section Rows

variable {host : Host} {source : String} {checked : Option DataSet} {config : LoadTestConfig}

/-! ## The row of a connection -/

/-- The columns of a connection have the values of one of the checked rows. -/
theorem exists_row_columns (hcolumns : (parse source).checkData checked = .ok ())
    (hdata : ReadsTable checked config.data) (htable : ∀ file ∈ config.data, file.rows ≠ [])
    (workerId : ℕ) (vars : List String) (seq nowMs : ℕ) :
    ∃ row, row < rowCount checked ∧ ∀ column, .data column ∈ (parse source).parts →
      Part.render (rowValues host checked row) (.data column)
        = Part.render (templateValues config workerId vars seq nowMs) (.data column) := by
  cases hchecked : checked with
  | none =>
    rw [hchecked] at hcolumns
    refine ⟨0, Nat.one_pos, fun column hpart => ?_⟩
    have hcolumn : column ∈ (parse source).dataColumns := List.mem_filterMap.mpr ⟨_, hpart, rfl⟩
    rw [dataColumns_of_checkData_none hcolumns] at hcolumn
    exact absurd hcolumn List.not_mem_nil
  | some file =>
    have hfile := hdata.resolve_left (by rw [hchecked]; exact Option.some_ne_none file)
    rw [hchecked] at hfile
    obtain ⟨file', hfile', heq⟩ := Option.map_eq_some_iff.mp hfile
    obtain ⟨hcolumns', hrows'⟩ := Prod.mk.inj heq
    have hrows := List.length_pos_of_ne_nil (htable file' hfile')
    refine ⟨file'.rowFor workerId, ?_, fun column _ => ?_⟩
    · show file'.rowFor workerId < file.rows.length
      rw [← hrows']
      exact Nat.mod_lt _ hrows
    · have hvalue : file.value (file'.rowFor workerId) column
          = file'.value (file'.rowFor workerId) column := by
        unfold DataSet.value DataSet.column
        rw [hcolumns', hrows']
      simp [Part.render, rowValues, templateValues, hfile', hvalue]

/-- A part of a template without variables, filled in for a connection, is what
it was when the row of the connection was checked, or both are numbers. -/
theorem exists_row_alike (hcolumns : (parse source).checkData checked = .ok ())
    (hdata : ReadsTable checked config.data) (htable : ∀ file ∈ config.data, file.rows ≠ [])
    (workerId : ℕ) (vars : List String) (seq nowMs : ℕ) :
    ∃ row, row < rowCount checked ∧ ∀ part ∈ (parse source).parts,
      part.render (rowValues host checked row)
          = part.render (templateValues config workerId vars seq nowMs)
        ∨ (∃ n : ℕ, part.render (rowValues host checked row) = toString n)
          ∧ ∃ n : ℕ, part.render (templateValues config workerId vars seq nowMs) = toString n := by
  obtain ⟨row, hrow, hsame⟩ :=
    @exists_row_columns host _ _ _ hcolumns hdata htable workerId vars seq nowMs
  refine ⟨row, hrow, fun part hpart => ?_⟩
  cases part with
  | text literal => exact .inl rfl
  | seq => exact .inr ⟨⟨0, rfl⟩, seq, rfl⟩
  | timestamp => exact .inr ⟨⟨host.nowMs, rfl⟩, nowMs, rfl⟩
  | workerId => exact .inr ⟨⟨row, rfl⟩, workerId, rfl⟩
  | data column => exact .inl (hsame column hpart)
  | var index => exact absurd rfl (ne_var_of_mem_partsFrom hpart index)

end Rows

end Template

end WsBlast
