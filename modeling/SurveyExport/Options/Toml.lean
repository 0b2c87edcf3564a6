import SurveyExport.Options.Json
import SurveyExport.Toml.Reader

/-!
# Options from configuration files

A configuration file is a TOML document whose top table holds the options.
-/

namespace SurveyExport.Options

/-- Reads a delimiter of a configuration file: its name, or a table with its name as only key. -/
def delimiterOfToml? : Json → Option Delimiter
  | .text s => Delimiter.ofName? s
  | .object [(s, .object [])] => Delimiter.ofName? s
  | .object [(s, .array [])] => Delimiter.ofName? s
  | _ => none

/-- Reads the marks of a configuration file: a table, or an array that begins with them. -/
def indexTagsOfToml? : Json → Option IndexTags
  | .array (opening :: closing :: _) => do some ⟨← opening.text?, ← closing.text?⟩
  | v => IndexTags.ofJson? v

/-- The options that the text of a configuration file gives. -/
def ofTomlText? (text : String) : Option Options := do
  let fields ← (← Toml.read? text).fields? fieldNames
  ofFieldsWith? delimiterOfToml? indexTagsOfToml? fields

end SurveyExport.Options
