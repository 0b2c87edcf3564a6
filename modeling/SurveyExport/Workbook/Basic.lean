import SurveyExport.Calendar.Date
import SurveyExport.Decimal.Binary64
import SurveyExport.Text.Lowercase

/-!
# Workbooks

A workbook is a list of named worksheets, and a worksheet is a grid of cells that hold texts,
numbers or truth values. A date is a number with a format: the days since the end of 1899, where the
day after the 59th is counted twice, and the fraction of the day to the millisecond.
-/

namespace SurveyExport.Workbook

/-- Why a workbook refuses something. -/
inductive Refusal where
  | blankName
  | longName (name : String)
  | refusedChar (name : String)
  /-- A name begins or ends with an apostrophe. -/
  | apostrophe (name : String)
  /-- Two worksheets have names that differ in case at most. -/
  | nameReused (name : String)
  /-- A text has more than 32767 characters. -/
  | longText
  /-- A cell lies outside the greatest grid. -/
  | outsideGrid
deriving DecidableEq, Repr

/-- The setting of a name, as messages show it. -/
def settingOf (name : String) : String := "worksheet.set_name(\"" ++ name ++ "\")"

/-- What is refused, in words. -/
def Refusal.message : Refusal → String
  | blankName => "Worksheet name '" ++ settingOf "" ++ "' cannot be blank."
  | longName name => s!"Worksheet name '{settingOf name}' exceeds Excel's limit of 31 characters."
  | refusedChar name =>
    s!"Worksheet name '{settingOf name}' cannot contain invalid characters: '[ ] : * ? / \\'."
  | apostrophe name =>
    s!"Worksheet name '{settingOf name}' cannot start or end with an apostrophe."
  | nameReused name => s!"Worksheet name '{name}' has already been used."
  | longText => "String exceeds Excel's limit of 32,767 characters."
  | outsideGrid => "Row or column exceeds Excel's allowed limits (1,048,576 x 16,384)."

/-- The value of a cell in a grid. -/
inductive GridCell where
  | text (s : String)
  /-- A number, with the format it is shown in. -/
  | number (x : Float) (format : Option String)
  | bool (b : Bool)

/-- The greatest number of characters in a text. -/
def maxText : Nat := 32767

/-- The number of columns of the greatest grid. -/
def maxColumns : Nat := 16384

/-- The number of rows of the greatest grid. -/
def maxRows : Nat := 1048576

/-- The format of dates. -/
def dateFormat : String := "yyyy-mm-dd"

/-- The format of date-times. -/
def dateTimeFormat : String := "yyyy-mm-dd hh:mm:ss"

/-- The last day of 1899. -/
def gridEve : Date := ⟨1899, 12, 31, by decide⟩

/-- The number of a day in a grid. -/
def dayCount (d : Date) : Int :=
  let days := d.dayNumber - gridEve.dayNumber
  if 59 < days then days + 1 else days

/-- The number of a date. -/
def dateNumber (d : Date) : Float := Float.ofInt (dayCount d)

/-- The number of a date-time. -/
def dateTimeNumber (t : DateTime) : Float :=
  dateNumber t.date + Float.ofNat (t.nanosOfDay / 1000000) / 86400000

/-- The cell of a number; one that is not finite is a text. -/
def GridCell.ofNumber (x : Float) : GridCell :=
  match Binary64.ofFloat x with
  | .nan => .text "NAN"
  | .infinite negative => .text (if negative then "-INF" else "INF")
  | .finite .. => .number x none

/-- Refuses a name that a worksheet may not have. -/
def checkName (name : String) : Except Refusal Unit :=
  let cs := name.toList
  if cs.isEmpty then .error .blankName
  else if 31 < cs.length then .error (.longName name)
  else if cs.any ['[', ']', ':', '*', '?', '/', '\\'].contains then .error (.refusedChar name)
  else if cs.head? = some '\'' ∨ cs.getLast? = some '\'' then .error (.apostrophe name)
  else .ok ()

/-- A row of a grid: its cells by column; none where nothing was written. -/
abbrev GridRow := List (Option GridCell)

/-- A worksheet: a name, and the rows with their numbers, the lowest row first. -/
structure Worksheet where
  name : String
  rows : List (Nat × GridRow) := []

end SurveyExport.Workbook

namespace SurveyExport

/-- A workbook. -/
structure Workbook where
  worksheets : List Workbook.Worksheet := []

namespace Workbook

/-- Refuses a cell that does not fit a grid; an empty text leaves no trace and fits anywhere. -/
def checkCell (line column : Nat) (c : GridCell) : Except Refusal Unit :=
  let inside := line < maxRows ∧ column < maxColumns
  match c with
  | .text s =>
    if s = "" then .ok ()
    else if ¬ inside then .error .outsideGrid
    else if maxText < s.length then .error .longText
    else .ok ()
  | _ => if inside then .ok () else .error .outsideGrid

/-- What a column holds after a cell is written; an empty text leaves what was there. -/
def overwritten (old : Option GridCell) : GridCell → Option GridCell
  | .text "" => old
  | c => some c

/--
Writes cells into the part of a row from a column on. At the first cell that is refused the cells
before it stay written.
-/
def writeCells (line : Nat) : Nat → List GridCell → GridRow → Except Refusal Unit × GridRow
  | _, [], row => (.ok (), row)
  | column, c :: rest, row =>
    match checkCell line column c with
    | .error refusal => (.error refusal, row)
    | .ok _ =>
      let written := writeCells line (column + 1) rest row.tail
      (written.1, overwritten row.head?.join c :: written.2)

namespace Worksheet

/-- What a line holds. -/
def lineAt (line : Nat) : List (Nat × GridRow) → GridRow
  | [] => []
  | (i, row) :: rest => if i < line then [] else if i = line then row else lineAt line rest

/-- The rows with one line replaced. -/
def setLine (line : Nat) (row : GridRow) : List (Nat × GridRow) → List (Nat × GridRow)
  | [] => [(line, row)]
  | (i, old) :: rest =>
    if i < line then (line, row) :: (i, old) :: rest
    else if i = line then (line, row) :: rest
    else (i, old) :: setLine line row rest

/-- The worksheet with cells written into a line. -/
def writeLine (w : Worksheet) (line : Nat) (cells : List GridCell) :
    Except Refusal Unit × Worksheet :=
  let written := writeCells line 0 cells (lineAt line w.rows)
  (written.1, { w with rows := setLine line written.2 w.rows })

/-- The cells from the top to the bottom, and from left to right, with their places. -/
def placedCells (w : Worksheet) : List (Nat × Nat × GridCell) :=
  w.rows.reverse.flatMap fun e ↦
    e.2.zipIdx.filterMap fun c ↦ c.1.map fun cell ↦ (e.1, c.2, cell)

/-- The worksheet with lines written from one on, until a cell is refused. -/
def writeLines (w : Worksheet) (line : Nat) :
    List (List GridCell) → Except Refusal Unit × Worksheet
  | [] => (.ok (), w)
  | cells :: rest =>
    match w.writeLine line cells with
    | (.error refusal, w) => (.error refusal, w)
    | (.ok _, w) => writeLines w (line + 1) rest

end Worksheet

/-- The name of a worksheet before it is named. -/
def defaultName (b : Workbook) : String := "Sheet" ++ toString (b.worksheets.length + 1)

/-- The first name that differs in case at most from one before it or from one of those given. -/
def reusedName? (lowered : List String) : List String → Option String
  | [] => none
  | name :: rest =>
    let low := Text.lowercase name
    if lowered.contains low then some name else reusedName? (low :: lowered) rest

/-- The workbook as it is saved: one without worksheets gets an empty one. -/
def saved (b : Workbook) : Except Refusal Workbook :=
  let worksheets := if b.worksheets.isEmpty then [{ name := b.defaultName }] else b.worksheets
  match reusedName? [] (worksheets.map (·.name)) with
  | some name => .error (.nameReused name)
  | none => .ok ⟨worksheets⟩

/-- The letters of a column: `A` to `Z`, then `AA` and so on. -/
def columnLetters (column : Nat) : String :=
  String.ofList (letters column.succ column)
where
  /-- The letters of a column, with a bound on their number. -/
  letters : Nat → Nat → List Char
    | 0, _ => []
    | bound + 1, n =>
      (if n < 26 then [] else letters bound (n / 26 - 1)) ++ [Char.ofNat (65 + n % 26)]

/-- The name of a cell: the letters of its column and the number of its row, counted from 1. -/
def cellName (line column : Nat) : String := columnLetters column ++ toString (line + 1)

end Workbook

end SurveyExport
