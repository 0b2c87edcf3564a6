import SurveyExport.Target.Build
import SurveyExport.Target.Zip
import SurveyExport.Workbook.Parts

/-!
# The bytes of export files

An archive is written with its entries, a workbook as the archive of its parts, and a wide table as
its text.
-/

namespace SurveyExport.ExportContent

/-- Texts as the entries of an archive. -/
def textEntries (entries : List (String × String)) : List Zip.Entry :=
  entries.map fun e ↦ (e.1, Text.bytes e.2)

/-- The bytes of a file with a content. -/
def bytes : ExportContent → List UInt8
  | tables entries => Zip.bytes (textEntries entries)
  | systemFiles entries => Zip.bytes entries
  | workbook b => Zip.bytes (textEntries (Workbook.parts b))
  | text s => Text.bytes s

end SurveyExport.ExportContent
