import SurveyExport.Csv
import SurveyExport.SystemFile.Columns
import SurveyExport.SystemFile.Draft
import SurveyExport.Target.Archive
import SurveyExport.Workbook.Basic

/-!
# Sheets as tables, worksheets and system files

The three outputs with a sheet for each section: an archive of comma-separated tables, a workbook,
and an archive of system files.
-/

namespace SurveyExport

/-- Why an output fails. -/
inductive SinkFault where
  /-- There is no sheet with the number. -/
  | noSheet (number : Nat)
  | workbook (refusal : Workbook.Refusal)
  | systemFile (fault : SystemFile.Fault)
  /-- The suffixes for a name that clashes ran out. -/
  | noSuffix
deriving DecidableEq, Repr

/-- What failed, in words. -/
def SinkFault.message : SinkFault → String
  | noSheet number => s!"no sheet at position {number}"
  | workbook refusal => refusal.message
  | systemFile fault => fault.message
  | noSuffix => "no variable name is left"

/-! ### Comma-separated tables -/

/-- The records of a table, the latest first. -/
abbrev TableDraft := List String

/-- The record of a row. -/
def Sheet.record (s : Sheet) (naRep : String) (row : Row) : String :=
  Csv.record ((s.cells row).map (Cell.written naRep))

/-- The files of an archive of comma-separated tables. -/
def tableEntry (options : Options) : EntryKind TableDraft String SinkFault where
  extension := "csv"
  start s := .ok ((s.headerRows options).map Csv.record).reverse
  add s row draft := (.ok (), s.record options.naRep row :: draft)
  content draft := Text.join "" draft.reverse
  noSheet := .noSheet

/-! ### System files -/

/-- A system file in the making, with the conversion of each column. -/
structure SystemDraft where
  conversions : List SystemFile.Conversion
  draft : SystemFile.Draft

/-- The values of the case that a row becomes. -/
def SystemDraft.caseOf (s : Sheet) (row : Row) (d : SystemDraft) : List SystemFile.Value :=
  (d.conversions.zip (s.cells row)).map fun e ↦ e.1.value e.2

/-- Adds the case of a row. -/
def SystemDraft.addRow (s : Sheet) (row : Row) (d : SystemDraft) :
    Except SinkFault Unit × SystemDraft :=
  let added := d.draft.addCase (d.caseOf s row)
  (added.1.mapError .systemFile, { d with draft := added.2 })

/-- How names that clash get their suffixes: a stream of them, and how many are tried. -/
structure SuffixSource where
  draw : Nat → String
  limit : Nat

/-- The suffixes counted up from a first one, each tried once. -/
def SuffixSource.counted (first : Nat) : SuffixSource :=
  ⟨SystemFile.countedSuffixes first, SystemFile.suffixCount⟩

/-- The system file of a sheet without rows. -/
def SystemDraft.start (book : Codebook) (options : Options) (source : SuffixSource)
    (created : DateTime) (s : Sheet) : Except SinkFault SystemDraft :=
  match SystemFile.sheetVariables? source.draw source.limit book (.ofOptions options) s with
  | none => .error .noSuffix
  | some columns =>
    match SystemFile.Draft.start ⟨book.form.title, created⟩ (columns.map (·.1)) with
    | .error fault => .error (.systemFile fault)
    | .ok draft => .ok ⟨columns.map (·.2), draft⟩

/-- The files of an archive of system files. -/
def systemEntry (book : Codebook) (options : Options) (source : SuffixSource)
    (created : DateTime) : EntryKind SystemDraft (List UInt8) SinkFault where
  extension := "sav"
  start := SystemDraft.start book options source created
  add := SystemDraft.addRow
  content d := d.draft.finish
  noSheet := .noSheet

/-! ### Worksheets -/

/-- A workbook in the making. -/
structure WorkbookDraft where
  workbook : Workbook := {}
  /-- The sheets that are open, with the line that comes next. -/
  sheets : List (Sheet × Nat) := []
  /-- The workbook as it was last saved. -/
  saved : Option Workbook := none

namespace WorkbookDraft

/-- The grid cell of a cell that may be missing. -/
def gridCell (naRep : String) : Option Cell → Workbook.GridCell
  | some (.bool b) => .bool b
  | some (.int n) => .ofNumber (Float.ofInt n)
  | some (.float x) => .ofNumber x
  | some (.date d) => .number (Workbook.dateNumber d) (some Workbook.dateFormat)
  | some (.dateTime t) => .number (Workbook.dateTimeNumber t) (some Workbook.dateTimeFormat)
  | some (.text s) => .text s
  | some .null => .text ""
  | none => .text naRep

/-- Adds worksheets for sheets, each with its header, until something is refused. -/
def startAll (options : Options) (d : WorkbookDraft) :
    List Sheet → Except SinkFault Unit × WorkbookDraft
  | [] => (.ok (), d)
  | s :: rest =>
    let unnamed : Workbook.Worksheet := { name := d.workbook.defaultName }
    let withSheet := fun w ↦ { d with workbook := ⟨d.workbook.worksheets ++ [w]⟩ }
    match Workbook.checkName s.name with
    | .error refusal => (.error (.workbook refusal), withSheet unnamed)
    | .ok _ =>
      let header := (s.headerRows options).map fun row ↦ row.map .text
      match ({ unnamed with name := s.name } : Workbook.Worksheet).writeLines 0 header with
      | (.error refusal, w) => (.error (.workbook refusal), withSheet w)
      | (.ok _, w) =>
        let d := withSheet w
        startAll options { d with sheets := d.sheets ++ [(s, header.length)] } rest

/-- Writes a row to the sheet with a number; one that is refused leaves the line to the next. -/
def addRow (options : Options) (i : Nat) (row : Row) (d : WorkbookDraft) :
    Except SinkFault Unit × WorkbookDraft :=
  match d.sheets[i]?, d.workbook.worksheets[i]? with
  | some (s, line), some w =>
    let written := w.writeLine line ((s.cells row).map (gridCell options.naRep))
    let d := { d with workbook := ⟨d.workbook.worksheets.set i written.2⟩ }
    match written.1 with
    | .error refusal => (.error (.workbook refusal), d)
    | .ok _ => (.ok (), { d with sheets := d.sheets.set i (s, line + 1) })
  | _, _ => (.error (.noSheet i), d)

/-- Saves the workbook; it stays open. -/
def save (d : WorkbookDraft) : Except SinkFault Unit × WorkbookDraft :=
  match d.workbook.saved with
  | .error refusal => (.error (.workbook refusal), d)
  | .ok b => (.ok (), { d with workbook := b, saved := some b })

/-- The workbook as an output of an export with the given sheets. -/
def sink (options : Options) (sheets : List Sheet) : Sink WorkbookDraft SinkFault where
  begin d := startAll options d sheets
  row := addRow options
  finish := save

end WorkbookDraft

end SurveyExport
