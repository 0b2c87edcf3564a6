import SurveyExport.Target.Destination
import SurveyExport.Target.Format
import SurveyExport.Target.Sheets
import SurveyExport.WideTable.Basic

/-!
# Building an export file

From a form, its submissions and the options to the content of one export file, in any of the
formats.
-/

namespace SurveyExport

/-- The content of an export file. -/
inductive ExportContent where
  /-- An archive of comma-separated tables, by the names of its entries. -/
  | tables (entries : List (String × String))
  | workbook (b : Workbook)
  /-- An archive of system files, by the names of its entries. -/
  | systemFiles (entries : List (String × List UInt8))
  | text (s : String)

/-- Why no export file is built. -/
inductive BuildError where
  | codebook (e : CodebookError)
  /-- A submission cannot be read while sheets are written. -/
  | record (e : SubmissionError)
  /-- A submission cannot be read for a wide table. -/
  | wideRecord (e : SubmissionError)
  /-- An output fails; its name is given. -/
  | sink (output : String) (fault : SinkFault)
deriving DecidableEq, Repr

namespace BuildError

/-- What went wrong, from the outermost cause to the innermost. -/
def causes : BuildError → List String
  | codebook e => [e.message]
  | record e => ["record cursor failed: " ++ e.message, e.message]
  | wideRecord e => ["failed to read submission", e.message]
  | sink output fault => [output ++ " writer failed: " ++ fault.message, fault.message]

end BuildError

/-- What an export depends on beside the form, the options and the data. -/
structure BuildSettings where
  /-- The time that system files name as that of their creation. -/
  created : DateTime
  /-- The suffixes of names that clash. -/
  suffixes : SuffixSource

/-- An export that was attempted. -/
structure Built where
  outcome : Except BuildError (ExportResult × ExportContent)
  /-- The reports of the progress. -/
  reports : List Progress

namespace Built

/-- An attempt that fails before it starts. -/
def failed (e : BuildError) : Built := ⟨.error e, []⟩

/-- The attempt of a run, with the content that its last state stands for. -/
def ofRun {σ : Type} (output : String) (content : σ → ExportContent)
    (run : Except (ExportError SinkFault) ExportResult × σ × List Progress) : Built :=
  { outcome :=
      match run.1 with
      | .ok result => .ok (result, content run.2.1)
      | .error (.submission e) => .error (.record e)
      | .error (.sink fault) => .error (.sink output fault)
    reports := run.2.2 }

/-- The reports of reading submissions one after the other, after `done` others. -/
def readReports (done : Nat) : List (Except SubmissionError Record) → List Progress
  | [] => [.finish done]
  | .error _ :: _ => []
  | .ok _ :: rest => .submission (done + 1) :: readReports (done + 1) rest

/-- The wide table of a form's submissions; its sheet is named by the file. -/
def wide (book : Codebook) (options : Options) (sheetName : String) (data : DataFile) : Built :=
  { outcome :=
      match data.submissions.mapM id with
      | .error e => .error (.wideRecord e)
      | .ok records =>
        let table := WideTable.ofRecords book options records
        let name := book.form.name
        .ok (⟨name, records.length, [⟨name, sheetName, records.length⟩]⟩,
          .text (Csv.table (table.headerRows ++ table.rows)))
    reports := .start data.total :: readReports 0 data.submissions }

/-- Builds the export file of a form's submissions in a format, for a file with a path. -/
def build (form : Form) (options : Options) (format : ExportFormat) (settings : BuildSettings)
    (path : String) (data : DataFile) : Built :=
  let options := format.effective options
  match Codebook.ofForm form options with
  | .error e => failed (.codebook e)
  | .ok book =>
    match format with
    | .csvZip =>
      let plan := ExportPlan.make book options .file
      ofRun "csv" (fun a ↦ .tables (a.entries.getD []))
        (plan.run data (Archive.sink (tableEntry options) plan.sheets) {})
    | .savZip =>
      let plan := ExportPlan.make book options .file
      let kind := systemEntry book options settings.suffixes settings.created
      ofRun "sav" (fun a ↦ .systemFiles (a.entries.getD []))
        (plan.run data (Archive.sink kind plan.sheets) {})
    | .xlsx =>
      let plan := ExportPlan.make book options .worksheet
      ofRun "xlsx" (fun d ↦ .workbook (d.saved.getD {}))
        (plan.run data (WorkbookDraft.sink options plan.sheets) {})
    | .flatCsv => wide book options ((Destination.stem? path).getD form.name) data

end Built

end SurveyExport
