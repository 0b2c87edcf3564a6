import SurveyExport.Calendar.Reading
import SurveyExport.Cell
import SurveyExport.Form.Question
import SurveyExport.Text.Utf8

/-!
# Cells of the declared type

The cells of whole-number, decimal and date questions take their native type. What does not read as
that type stays as it is. The time of submission becomes a date-time; of its text only the first 19
bytes count, which hold the date and the time to the second.
-/

namespace SurveyExport.Cell

/-- Reads a date of a year from 1900 to 9999, the years that spreadsheets can hold. -/
def readDate? (s : String) : Option Date :=
  (Calendar.readDate? s).filter fun d ↦ 1900 ≤ d.year && d.year ≤ 9999

/-- The first `n` bytes of a text if they are whole characters and the text is long enough; else
the text. -/
def firstBytes (n : Nat) (s : String) : String :=
  let cs := Text.fitting n s.toList
  if Text.byteLength cs = n then String.ofList cs else s

/-- Reads a time of submission. -/
def readSubmissionTime? (s : String) : Option DateTime :=
  Calendar.readDateTime? [.literal 'T'] [] (firstBytes 19 s)

/-- The cell that a text becomes in a column of a type. -/
def ofText? (type : BindType) (s : String) : Option Cell :=
  match type with
  | .int => (Numeral.readInt? (Text.trim s)).map .int
  | .decimal => (Numeral.readFloat? (Text.trim s)).map .float
  | .date => (readDate? s).map .date
  | _ => none

/-- The whole number of 64 bits nearest to a whole number. -/
def clampInt (n : Int) : Int := max Numeral.minInt (min Numeral.maxInt n)

/-- The cell in the native type of its column. -/
def coerce (type : BindType) (c : Cell) : Cell :=
  if type.isConverted then
    match c with
    | .text s => (ofText? type s).getD (.text s)
    | .float x =>
      let b := Binary64.ofFloat x
      if type = .int && b.isWhole then .int (clampInt b.truncate) else .float x
    | .int n => if type = .decimal then .float (Float.ofInt n) else .int n
    | c => c
  else c

/-- A time of submission as a date-time, if it reads as one. -/
def coerceSubmissionTime : Cell → Cell
  | .text s => ((readSubmissionTime? s).map .dateTime).getD (.text s)
  | c => c

/-- A column of a type that is not converted keeps its cells. -/
theorem coerce_eq_self {type : BindType} (h : type.isConverted = false) (c : Cell) :
    c.coerce type = c := by
  simp [coerce, h]

end SurveyExport.Cell
