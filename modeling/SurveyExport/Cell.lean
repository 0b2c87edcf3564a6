import SurveyExport.Calendar.Date
import SurveyExport.Decimal.Numeral
import SurveyExport.KeyMap
import SurveyExport.Submission.Basic
import SurveyExport.Text.Blank

/-!
# Cells and rows

A cell is a value of an output table. A row maps the keys of columns to cells.

The display of a number that is not an `int` has a point if the number is whole and below `10 ^ 16`
in magnitude; all other numbers have the shortest digits, without an exponent.
-/

namespace SurveyExport

/-- A value of an output table. -/
inductive Cell where
  | null
  | bool (b : Bool)
  /-- A whole number of 64 bits with sign. -/
  | int (n : Int)
  | float (x : Float)
  | text (s : String)
  | date (d : Date)
  | dateTime (t : DateTime)

/-- A row: the cells of some keys, in the order of the keys. -/
abbrev Row := KeyMap Cell

namespace Cell

/-- Whether there is no value. -/
def isNull : Cell → Bool
  | .null => true
  | _ => false

/-- Whether there is no value or an empty text. -/
def isBlank : Cell → Bool
  | .null => true
  | .text s => s.isEmpty
  | _ => false

/-- The text of a cell that is one. -/
def text? : Cell → Option String
  | .text s => some s
  | _ => none

/-- The number that a cell holds; a text counts if it is a numeral with blanks around. -/
def number? : Cell → Option Float
  | .int n => some (Float.ofInt n)
  | .float x => some x
  | .bool b => some (if b then 1 else 0)
  | .text s => Numeral.readFloat? (Text.trim s)
  | _ => none

/-- The display of a number. -/
def displayFloat (x : Float) : String :=
  let b := Binary64.ofFloat x
  if b.isWhole && b.truncate.natAbs < 10000000000000000 then Numeral.ofFloat x ++ ".0"
  else Numeral.ofFloat x

/-- The display of a cell; nothing is shown for no value. -/
def display : Cell → String
  | .null => ""
  | .bool b => if b then "True" else "False"
  | .int n => toString n
  | .float x => displayFloat x
  | .text s => s
  | .date d => d.toText
  | .dateTime t => t.toText

/-- The cell of a single value of an answer. -/
def ofScalar : Scalar → Cell
  | .null => .null
  | .bool b => .bool b
  | .int n => .int n
  | .float x => .float x
  | .text s => .text s

/-- The text written for a cell that may be missing. -/
def written (naRep : String) : Option Cell → String
  | some c => c.display
  | none => naRep

/-- A cell without a value is blank. -/
theorem isBlank_of_isNull {c : Cell} (h : c.isNull = true) : c.isBlank = true := by
  cases c <;> simp_all [isNull, isBlank]

end Cell

end SurveyExport
