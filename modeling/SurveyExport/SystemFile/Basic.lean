import SurveyExport.Calendar.Date
import SurveyExport.Text.Quoted

/-!
# System files

A system file is a table for statistics programs: a dictionary of variables, and one case for each
row. A variable holds numbers or texts of a fixed width in bytes; a case takes one segment of eight
bytes for a number and as many as the width needs for a text. Dates are numbers, too: the seconds
since the eve of the Gregorian calendar.
-/

namespace SurveyExport.SystemFile

/-- How the values of a variable are shown. -/
inductive FormatKind where
  /-- As text. -/
  | text
  /-- As a plain number. -/
  | plain
  /-- As day, month name and year. -/
  | date
  /-- As day, month name and year with the time. -/
  | dateTime
  /-- As day, month number and year. -/
  | europeanDate
deriving DecidableEq, Repr

/-- The code of a format in the dictionary. -/
def FormatKind.code : FormatKind → Nat
  | text => 1
  | plain => 5
  | date => 20
  | dateTime => 22
  | europeanDate => 38

/-- A format with its width and number of decimals, each less than 256. -/
structure Format where
  kind : FormatKind
  width : Nat
  decimals : Nat
deriving DecidableEq, Repr

/-- The format as one number. -/
def Format.packed (f : Format) : Nat := f.kind.code * 65536 + f.width * 256 + f.decimals

/-- The type of a variable. -/
inductive VariableType where
  | numeric
  /-- A text of a width in bytes. -/
  | text (width : Nat)
deriving DecidableEq, Repr

namespace VariableType

/-- The number of segments of eight bytes that a value takes. -/
def segments : VariableType → Nat
  | numeric => 1
  | text width => max 1 ((width + 7) / 8)

/-- The code of the type in the dictionary. -/
def code : VariableType → Nat
  | numeric => 0
  | text width => width

/-- A value takes at least one segment. -/
theorem segments_pos (t : VariableType) : 0 < t.segments := by
  cases t <;> simp only [segments] <;> omega

end VariableType

/-- A value of a case. -/
inductive Value where
  /-- A number as the bits of its binary64 form; none is the missing value. -/
  | number (bits : Option UInt64)
  | text (s : String)

namespace Value

/-- The missing value. -/
def missing : Value := .number none

/-- A number, if there is one. -/
def ofNumber (x : Option Float) : Value := .number (x.map Float.toBits)

/-- The last day before the Gregorian calendar. -/
def gregorianEve : Date := ⟨1582, 10, 14, by decide⟩

/-- The whole seconds since the eve of the Gregorian calendar. -/
def secondsSinceEve (t : DateTime) : Int :=
  (t.nanos - (DateTime.midnight gregorianEve).nanos).tdiv 1000000000

/-- A date-time as a number. -/
def ofDateTime (t : DateTime) : Value := .ofNumber (some (Float.ofInt (secondsSinceEve t)))

/-- A date as a number. -/
def ofDate (d : Date) : Value := ofDateTime (.midnight d)

end Value

/-- A value with a label. -/
structure ValueLabel where
  value : Value
  label : String

/-- A variable of the dictionary. -/
structure Variable where
  name : String
  label : Option String := none
  type : VariableType
  format : Format
  valueLabels : List ValueLabel := []

namespace Variable

/-- A variable for numbers. -/
def numeric (name : String) : Variable := { name, type := .numeric, format := ⟨.plain, 8, 2⟩ }

/-- A variable for texts of a width in bytes. -/
def ofWidth (name : String) (width : Nat) : Variable :=
  { name, type := .text width, format := ⟨.text, min width 255, 0⟩ }

/-- Whether the variable holds numbers. -/
def isNumeric (v : Variable) : Bool := v.type == .numeric

end Variable

/-- The greatest width of a text in bytes. -/
def maxWidth : Nat := 255

/-- The greatest length of a name in bytes. -/
def maxNameLength : Nat := 64

/-- What is wrong with the header of a file. -/
inductive HeaderFault where
  | tooShort
  | wrongMark
  | wrongLayout
  | negativeCaseSize
deriving DecidableEq, Repr

/-- What is wrong with the header, in words. -/
def HeaderFault.message : HeaderFault → String
  | tooShort => "file is shorter than the header"
  | wrongMark => "missing $FL2 record type"
  | wrongLayout => "unsupported layout code"
  | negativeCaseSize => "negative nominal case size"

/-- Why a system file cannot be written or read. -/
inductive Fault where
  | noVariables
  | invalidName (name : String)
  | duplicateVariable (name : String)
  | invalidWidth (name : String) (width : Nat)
  | caseLength (expected actual : Nat)
  /-- A value is not of the kind that its variable holds. -/
  | wrongKind (name : String) (numeric : Bool)
  /-- There are more cases than the header can count. -/
  | tooManyCases
  | header (fault : HeaderFault)
deriving DecidableEq, Repr

/-- What went wrong, in words. -/
def Fault.message : Fault → String
  | noVariables => "a system file needs at least one variable"
  | invalidName name => "invalid variable name: " ++ Text.quoted name
  | duplicateVariable name => s!"duplicate variable name: {name}"
  | invalidWidth name width => s!"variable {name} has unsupported string width {width}"
  | caseLength expected actual => s!"case length mismatch: expected {expected}, got {actual}"
  | wrongKind name numeric =>
    s!"variable {name} expects a " ++ (if numeric then "numeric" else "string") ++ " value"
  | tooManyCases => "case count overflow"
  | header fault => "invalid SAV file: " ++ fault.message

end SurveyExport.SystemFile
