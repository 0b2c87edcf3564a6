import SurveyExport.Text.Search

/-!
# Comma-separated values

A record is a line of fields with commas between. A field that holds a comma, a quote or the end of
a line stands in quotes, with the quotes inside it doubled. A record without fields, and one whose
only field is empty, is written as an empty field in quotes, so that no record is an empty line.
-/

namespace SurveyExport.Csv

/-- Whether a character makes its field stand in quotes. -/
def needsQuotes (c : Char) : Bool := c == ',' || c == '"' || c == '\r' || c == '\n'

/-- The characters of a field with quotes doubled. -/
def doubled (cs : List Char) : List Char := cs.flatMap fun c ↦ if c = '"' then ['"', '"'] else [c]

/-- The characters of a field as it is written. -/
def fieldChars (cs : List Char) : List Char :=
  if cs.any needsQuotes then '"' :: doubled cs ++ ['"'] else cs

/-- A field as it is written. -/
def field (s : String) : String := String.ofList (fieldChars s.toList)

/-- A record as it is written. -/
def record : List String → String
  | [] => "\"\"\n"
  | [""] => "\"\"\n"
  | fields => Text.join "," (fields.map field) ++ "\n"

/-- Records as they are written. -/
def table (records : List (List String)) : String := Text.join "" (records.map record)

/-- A field without special characters is written as it is. -/
theorem fieldChars_eq_self {cs : List Char} (h : ∀ c ∈ cs, needsQuotes c = false) :
    fieldChars cs = cs := by
  rw [fieldChars, if_neg]
  simpa using h

end SurveyExport.Csv
