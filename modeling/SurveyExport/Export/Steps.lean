import SurveyExport.Sheet.Layout
import SurveyExport.Submission.DataFile
import SurveyExport.WideTable.Spread

/-!
# The steps of an export

An export visits the submissions of a data file in order. Each becomes the row of the root section
and the rows of its instances; the rows of each declared section go to its sheet, and rows of other
sections are left out. What has to be done is written down as a list of steps: calls of the output,
and reports of the progress. A submission that cannot be read ends the export.
-/

namespace SurveyExport

/-- A call of the output. -/
inductive SinkCall where
  /-- Opens all sheets. -/
  | begin
  /-- Writes a row to the sheet with a number, counted from 0. -/
  | row (sheet : Nat) (cells : Row)
  /-- Closes all sheets. -/
  | finish

/-- A report of the progress. -/
inductive Progress where
  /-- The export starts; the number of submissions is given if it is known. -/
  | start (total : Option Nat)
  /-- So many submissions are done. -/
  | submission (done : Nat)
  /-- The export is finished. -/
  | finish (done : Nat)
deriving DecidableEq, Repr

/-- A step of an export. -/
inductive ExportStep where
  | call (c : SinkCall)
  | report (p : Progress)
  /-- The submission that comes next cannot be read. -/
  | stop (e : SubmissionError)

/-- What stays the same during an export. -/
structure ExportPlan where
  book : Codebook
  options : Options
  sheets : List Sheet

namespace ExportPlan

/-- The plan of an export whose sheets are named in a certain way. -/
def make (book : Codebook) (options : Options) (naming : SheetNaming) : ExportPlan :=
  ⟨book, options, Sheet.ofCodebook book options naming⟩

/-- The name of the root section. -/
def rootName (p : ExportPlan) : String := p.book.form.name

/-- The row with the name of its parent's sheet in place of the parent's section. -/
def nameParent (p : ExportPlan) (row : Row) : Row :=
  match row.get? MetaKey.parentTable with
  | some (.text parent) =>
    match p.sheets.find? (·.sectionName == parent) with
    | some s => row.insert MetaKey.parentTable (.text s.name)
    | none => row
  | _ => row

/-- The calls that write rows of a section; there are none if the form has no such section. -/
def sectionCalls (p : ExportPlan) (name : String) (rows : List Row) : List SinkCall :=
  match p.sheets.findIdx? (·.sectionName == name), p.book.section? name with
  | some i, some s => rows.map fun row ↦ .row i (p.nameParent (row.normalize p.book p.options s))
  | _, _ => []

/-- The calls that write the rows of a submission, by its number, and the counters after it. -/
def recordCalls (p : ExportPlan) (number : Nat) (counters : Counters) (r : Record) :
    List SinkCall × Counters :=
  let linked := r.link (p.book.mediaRule? p.options) p.rootName number counters
  (p.sectionCalls p.rootName [linked.1.own] ++
      linked.1.repeats.toList.flatMap fun e ↦ p.sectionCalls e.1 e.2,
    linked.2)

/-- The steps for the submissions that come after `done` others. -/
def submissionSteps (p : ExportPlan) (done : Nat) (counters : Counters) :
    List (Except SubmissionError Record) → List ExportStep
  | [] => [.call .finish, .report (.finish done)]
  | .error e :: _ => [.stop e]
  | .ok r :: rest =>
    let written := p.recordCalls (done + 1) counters r
    written.1.map .call ++
      .report (.submission (done + 1)) :: submissionSteps p (done + 1) written.2 rest

/-- The steps of the export of a data file. -/
def steps (p : ExportPlan) (data : DataFile) : List ExportStep :=
  .call .begin :: .report (.start data.total) :: p.submissionSteps 0 KeyMap.empty data.submissions

end ExportPlan

end SurveyExport
