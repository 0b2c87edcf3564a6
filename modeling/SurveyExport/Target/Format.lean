import SurveyExport.Options.Basic
import SurveyExport.Sheet.Naming
import SurveyExport.Text.Blank

/-!
# Formats of export files

An export file is an archive of tables, a workbook, an archive of system files, or one wide table.
-/

namespace SurveyExport

/-- The format of an export file. -/
inductive ExportFormat where
  /-- An archive with a comma-separated table for each section. -/
  | csvZip
  /-- A workbook with a worksheet for each section. -/
  | xlsx
  /-- An archive with a system file for each section. -/
  | savZip
  /-- One comma-separated wide table. -/
  | flatCsv
deriving DecidableEq, Repr

namespace ExportFormat

/-- All formats. -/
def all : List ExportFormat := [csvZip, xlsx, savZip, flatCsv]

/-- The name of a format. -/
def name : ExportFormat → String
  | csvZip => "csv-zip"
  | xlsx => "xlsx"
  | savZip => "sav-zip"
  | flatCsv => "flat-csv"

/-- The extension of a file in the format. -/
def extension : ExportFormat → String
  | csvZip => "zip"
  | xlsx => "xlsx"
  | savZip => "zip"
  | flatCsv => "csv"

/-- How the sheets of the format are named; a wide table has no sheets. -/
def naming? : ExportFormat → Option SheetNaming
  | csvZip => some .file
  | xlsx => some .worksheet
  | savZip => some .file
  | flatCsv => none

/-- The options that an export in the format uses: names of variables are made of short titles. -/
def effective (format : ExportFormat) (options : Options) : Options :=
  if format = savZip then { options with truncateGroupTitle := true } else options

/-- A text as the name of a format: without blanks around, in lower case, with hyphens. -/
def canonicalName (s : String) : String :=
  String.ofList ((Text.trim s).toList.map fun c ↦ if c = '_' then '-' else c.toLower)

/-- The format with a name; case, blanks around and underscores do not matter. -/
def ofName? (s : String) : Option ExportFormat := all.find? (·.name == canonicalName s)

/-- The message that a format is not known. -/
def unknownMessage (s : String) : String := s!"unknown export format: {s}"

/-- A format is found by its name. -/
theorem ofName?_name (f : ExportFormat) : ofName? f.name = some f := by
  cases f <;> rfl

end ExportFormat

end SurveyExport
