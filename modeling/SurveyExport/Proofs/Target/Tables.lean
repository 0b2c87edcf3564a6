import SurveyExport.Proofs.Csv.Reading
import SurveyExport.Proofs.Target.Archives
import SurveyExport.Target.Build

/-!
# Tables read back

The entries of an archive of tables are read by the reader for quoted tables, and what it finds is
what was exported: the header rows of the sheet, and behind them the rows that were written to it,
in the order they were written.

No draft of a table ever fails (`neverFails_tableEntry`), so an export succeeds if the form has a
codebook and all submissions can be read (`Built.exists_csvZip_iff`). The draft of a sheet is then
the table of its records (`content_tableEntry`), and `Csv.read?_table` reads any table.

* `Built.exists_readsBack`: the archive of an export that succeeded.
-/

namespace SurveyExport

namespace Sheet

/-- What stands for a row in a column: the text that the cell shows, or `naRep` if there is no cell
or it is null. -/
def textIn (naRep : String) (row : Row) (c : Column) : String :=
  match row.get? c.key with
  | some cell => if cell.isNull then naRep else cell.display
  | none => naRep

/-- The records of a sheet: its header rows, and one record for each row. -/
def records (options : Options) (s : Sheet) (rows : List Row) : List (List String) :=
  s.headerRows options ++ rows.map fun row ↦ s.columns.map (textIn options.naRep row)

theorem map_written_cells (naRep : String) (s : Sheet) (row : Row) :
    (s.cells row).map (Cell.written naRep) = s.columns.map (textIn naRep row) := by
  rw [cells, List.map_map]
  refine List.map_congr_left fun c _ ↦ ?_
  rw [Function.comp_apply, textIn]
  cases row.get? c.key with
  | none => rfl
  | some cell => cases h : cell.isNull <;> simp [Option.filter, Cell.written, h]

/-- Every record has one field for each column. -/
theorem length_of_mem_records {options : Options} {s : Sheet} {rows : List Row}
    {record : List String} (h : record ∈ s.records options rows) :
    record.length = s.columns.length := by
  rcases List.mem_append.1 h with h | h
  · exact length_of_mem_headerRows h
  · obtain ⟨row, -, rfl⟩ := List.mem_map.1 h
    exact List.length_map _

end Sheet

/-! ### The table of a sheet -/

/-- The draft of a sheet's table without rows. -/
def headerDraft (options : Options) (s : Sheet) : TableDraft :=
  ((s.headerRows options).map Csv.record).reverse

/-- No draft of a table fails. -/
theorem neverFails_tableEntry (options : Options) :
    (tableEntry options).NeverFails (headerDraft options) :=
  ⟨fun _ ↦ rfl, fun _ _ _ ↦ rfl⟩

/-- **The finished draft of a sheet** is the table of its records. -/
theorem content_tableEntry (options : Options) (s : Sheet) (rows : List Row) :
    (tableEntry options).content ((tableEntry options).addAll s rows (headerDraft options s)) =
      Csv.table (s.records options rows) := by
  have hadd : ∀ draft, (tableEntry options).addAll s rows draft =
      (rows.map fun row ↦ Csv.record (s.columns.map (Sheet.textIn options.naRep row))).reverse ++
        draft := by
    induction rows with
    | nil => exact fun _ ↦ rfl
    | cons row rest ih =>
      intro draft
      refine (ih (s.record options.naRep row :: draft)).trans ?_
      rw [Sheet.record, Sheet.map_written_cells, List.map_cons, List.reverse_cons,
        List.append_assoc]
      rfl
  show Text.join "" (List.reverse _) = _
  rw [hadd, headerDraft, ← List.reverse_append, List.reverse_reverse, Csv.table, Sheet.records,
    List.map_append, List.map_map]
  rfl

namespace ExportPlan

/-- **The entries of an archive read back** as the rows that were written. -/
structure ReadsBack (p : ExportPlan) (written : List (Nat × Row))
    (entries : List (String × String)) : Prop where
  /-- Every section has a sheet, in the order of the sections. -/
  sections : p.sheets.map (·.sectionName) = p.book.sections.map (·.name)
  /-- Every sheet has an entry, in the order of the sheets. -/
  names : entries.map (·.1) = p.sheets.map fun s ↦ s.name ++ ".csv"
  /-- No two entries have the same name. -/
  names_nodup : (entries.map (·.1)).Nodup
  /-- The entry of a sheet with columns is read as its header rows and the rows written to it. -/
  read : ∀ (i : Nat) (s : Sheet), p.sheets[i]? = some s → s.columns ≠ [] →
    ∃ name text, entries[i]? = some (name, text) ∧
      Csv.read? text = some (s.records p.options (rowsOn i written))
  /-- These records have one field for each column. -/
  width : ∀ (i : Nat) (s : Sheet), p.sheets[i]? = some s →
    ∀ record ∈ s.records p.options (rowsOn i written), record.length = s.columns.length

variable {form : Form} {options : Options}

/-- The entries that an archive of tables is left with read back. -/
theorem readsBack_entriesOf (form : Form) (options : Options) (written : List (Nat × Row)) :
    let p := madePlan form options .file
    p.ReadsBack written (p.entriesOf (tableEntry options) (headerDraft options) written) := by
  set p := madePlan form options .file with hp
  have hnames : (p.entriesOf (tableEntry options) (headerDraft options) written).map (·.1) =
      p.sheets.map fun s ↦ s.name ++ ".csv" := by
    refine List.ext_getElem? fun i ↦ ?_
    simp [entriesOf, tableEntry, String.append_assoc, Function.comp_def]
  refine ⟨?_, hnames, ?_, fun i s hs hcolumns ↦ ?_, fun i s _ _ hrecord ↦
    Sheet.length_of_mem_records hrecord⟩
  · rw [hp, map_sectionName_sheets]
    exact Codebook.map_name_sections_made.symm
  · have hinj : Function.Injective fun name : String ↦ name ++ ".csv" := fun a b h ↦ by
      simpa using h
    have hsheets : (p.sheets.map (·.name)).Nodup := nodup_map_name_sheets
    have hmap := hsheets.map hinj
    rw [List.map_map] at hmap
    rw [hnames]
    exact hmap
  · refine ⟨s.name ++ "." ++ "csv", Csv.table (s.records options (rowsOn i written)), ?_, ?_⟩
    · rw [entriesOf, List.getElem?_mapIdx, hs, ← content_tableEntry]
      rfl
    · -- no record is empty, so each is read as it is
      rw [Csv.read?_table]
      refine congrArg some ((List.map_congr_left fun record hrecord ↦ ?_).trans (List.map_id _))
      have hlength := Sheet.length_of_mem_records hrecord
      cases record with
      | nil => exact absurd (List.eq_nil_of_length_eq_zero hlength.symm) hcolumns
      | cons => rfl

end ExportPlan

/-! ### The archive of an export -/

/-- An archive of tables is made with the options as they are given. -/
@[simp] theorem ExportFormat.effective_csvZip (options : Options) :
    csvZip.effective options = options := rfl

namespace Built

variable {form : Form} {options : Options} {settings : BuildSettings} {path : String}
  {data : DataFile}

/-- The archive of a form with a codebook. -/
theorem outcome_csvZip {book : Codebook} (hbook : Codebook.ofForm form options = .ok book) :
    let p := ExportPlan.make book options .file
    (build form options .csvZip settings path data).outcome =
      match DataFile.fault? data.submissions with
      | some e => .error (.record e)
      | none => .ok (p.result data.submissions.length (p.steps data),
          .tables (p.entriesOf (tableEntry options) (headerDraft options) (p.rows data))) := by
  intro p
  obtain ⟨hrun, hentries⟩ :=
    ExportPlan.run_archive (neverFails_tableEntry options) p data
  have hbuild : build form options .csvZip settings path data =
      ofRun "csv" (fun a ↦ .tables (a.entries.getD []))
        (p.run data (Archive.sink (tableEntry options) p.sheets) {}) := by
    rw [build, ExportFormat.effective_csvZip, hbook]
  rw [hbuild, ofRun, hrun]
  cases hfault : DataFile.fault? data.submissions with
  | some e => rfl
  | none =>
    simp only [hentries hfault]
    rfl

/-- An export succeeds just if the form has a codebook and all submissions can be read. -/
theorem exists_csvZip_iff :
    (∃ built, (build form options .csvZip settings path data).outcome = .ok built) ↔
      (∃ book, Codebook.ofForm form options = .ok book) ∧
        DataFile.fault? data.submissions = none := by
  cases hbook : Codebook.ofForm form options with
  | error e => simp [build, hbook, failed]
  | ok book =>
    rw [outcome_csvZip hbook]
    cases DataFile.fault? data.submissions <;> simp

/-- **An archive of tables reads back as its rows.** -/
theorem exists_readsBack {result : ExportResult} {content : ExportContent}
    (h : (build form options .csvZip settings path data).outcome = .ok (result, content)) :
    ∃ book entries, Codebook.ofForm form options = .ok book ∧ content = .tables entries ∧
      (ExportPlan.make book options .file).ReadsBack
        ((ExportPlan.make book options .file).rows data) entries := by
  obtain ⟨⟨book, hbook⟩, hfault⟩ := exists_csvZip_iff.1 ⟨_, h⟩
  rw [outcome_csvZip hbook, hfault] at h
  obtain ⟨-, rfl⟩ := Prod.mk.inj (Except.ok.inj h)
  refine ⟨book, _, hbook, rfl, ?_⟩
  obtain ⟨rfl, -⟩ := Codebook.ofForm_eq_ok_iff.1 hbook
  exact ExportPlan.readsBack_entriesOf form options _

/-- A form with a question outside and one inside a repeated group; a label holds a comma, quotes
and the end of a line. -/
def remarkForm : Form where
  name := "visit"
  children := [
    .question
      { name := "remark", xpath := "remark", type := .text,
        label := some (.plain "What, \"exactly\"?\n") },
    .group .repeated "kids" "kids" none
      [.question { name := "name", xpath := "kids/name", type := .text }]]

/-- Labels are shown, and nothing stands for a missing cell. -/
def remarkOptions : Options where
  includeLabels := true
  naRep := ""

/-- Submissions with an answer that holds special characters, with instances, and without
answers. -/
def remarkData : DataFile where
  total := none
  submissions := [
    .ok [("remark", .scalar (.text "a,\r\n\"b\"")), ("kids", .instances [[("kids/name",
      .scalar (.text "Ann"))], [("kids/name", .scalar .null)]])],
    .ok []]

/-- Settings that an archive of tables does not depend on. -/
def remarkSettings : BuildSettings where
  created := .midnight SystemFile.Value.gregorianEve
  suffixes := ⟨fun _ ↦ "", 0⟩

/-- The submissions above are exported, and their tables read back. -/
theorem exists_readsBack_remark : ∃ result content,
    (build remarkForm remarkOptions .csvZip remarkSettings "out.zip" remarkData).outcome =
      .ok (result, content) ∧
    ∃ book entries, Codebook.ofForm remarkForm remarkOptions = .ok book ∧
      content = .tables entries ∧
      (ExportPlan.make book remarkOptions .file).ReadsBack
        ((ExportPlan.make book remarkOptions .file).rows remarkData) entries := by
  have hbook : Codebook.ofForm remarkForm remarkOptions =
      .ok (Codebook.made remarkForm remarkOptions) :=
    Codebook.ofForm_eq_ok_iff.2 ⟨rfl, by decide, by decide, by decide, by decide⟩
  have hbuilt : ∃ built, (build remarkForm remarkOptions .csvZip remarkSettings "out.zip"
      remarkData).outcome = .ok built := exists_csvZip_iff.2 ⟨⟨_, hbook⟩, rfl⟩
  obtain ⟨⟨result, content⟩, h⟩ := hbuilt
  exact ⟨result, content, h, exists_readsBack h⟩

end Built

end SurveyExport
