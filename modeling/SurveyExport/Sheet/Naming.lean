import SurveyExport.Text.Blank
import SurveyExport.Text.Fresh
import SurveyExport.Text.Lowercase

/-!
# Names of sheets

Each section of a codebook is written to a sheet of its own: a file of an archive, or a worksheet of
a workbook. The slashes of a section's name become underscores. A worksheet's name has at most 31
characters, none of which is a bracket or one of `: * ? / \`, and no two worksheets have names that
differ in case alone.
-/

namespace SurveyExport

/-- What a sheet is in the output, as far as its name is concerned. -/
inductive SheetNaming where
  /-- A file of an archive. -/
  | file
  /-- A worksheet of a workbook. -/
  | worksheet
deriving DecidableEq, Repr

namespace SheetNaming

/-- The name of a section with its slashes replaced. -/
def stem (sectionName : String) : String :=
  String.ofList (sectionName.toList.map fun c ↦ if c = '/' then '_' else c)

/-- The variants of a file's name: the name, and then the name with a number. -/
def fileVariant (stem : String) (i : Nat) : String := if i = 0 then stem else stem ++ toString i

/-- The first variant of a file's name that is not among the given names. -/
def fileName (stem : String) (existing : List String) : String :=
  Text.firstFree existing.contains (fileVariant stem) existing.length 0

/-- The greatest number of characters in a worksheet's name. -/
def maxWorksheetName : Nat := 31

/-- The characters that a worksheet's name may not hold. -/
def refusedChars : List Char := ['[', ']', ':', '*', '?', '/', '\\']

/-- A text as a worksheet's name, without regard to other names. -/
def worksheetBase (desired : String) : List Char :=
  (desired.toList.map fun c ↦ if refusedChars.contains c then '_' else c).take maxWorksheetName

/-- The variants of a worksheet's name. -/
def worksheetVariant (base : List Char) (i : Nat) : String := Text.numbered maxWorksheetName base i

/-- Whether a worksheet's name is among names in lower case; its own case does not count. -/
def clashes (lowered : List String) (name : String) : Bool :=
  lowered.contains (Text.lowercase name)

/--
The first variant of a worksheet's name that does not clash with the given names. Variants whose
numbers have equally many digits differ, and some number of digits below the bound has more of them
than there are names.
-/
def worksheetName (desired : String) (existing : List String) : String :=
  let lowered := existing.map Text.lowercase
  Text.firstFree (clashes lowered) (worksheetVariant (worksheetBase desired))
    (100 * (existing.length + 1)) 0

/-- The name of a section's sheet, given the names of the sheets before it. -/
def sheetName (naming : SheetNaming) (existing : List String) (sectionName : String) : String :=
  match naming with
  | file => fileName (stem sectionName) existing
  | worksheet => worksheetName (stem sectionName) existing

/-- The names of the sheets of sections. -/
def assign (naming : SheetNaming) (sections : List String) : List String :=
  Text.giveEach naming.sheetName [] sections

/-- Every section has a sheet. -/
@[simp] theorem length_assign (naming : SheetNaming) (sections : List String) :
    (naming.assign sections).length = sections.length :=
  Text.length_giveEach _ _ _

end SheetNaming

end SurveyExport
