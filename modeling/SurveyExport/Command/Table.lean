import SurveyExport.Command.Wrapping
import SurveyExport.Text.Search

/-!
# Tables in the terminal

A table has a row of headings and rows of cells, and is drawn with lines around its cells. It fits a
given number of columns of the terminal:

1. a column whose cells are no wider than the average room gets what its cells need;
2. a column whose cells leave some of the average room free once they are wrapped gets what the
   wrapped lines need, a column of the terminal for each byte of the longest;
3. the columns that remain share the room that remains, the first ones taking what does not divide.

The average changes with every column that is settled, and each of the first two steps is repeated
until it settles no more column.
-/

namespace SurveyExport

/-- A table. -/
structure TextTable where
  headings : List String
  /-- The rows; each has a cell for each heading. -/
  rows : List (List String)
  /-- The column whose cells are set at the right. -/
  numbers : Nat
deriving DecidableEq, Repr

namespace TextTable

/-- The number of columns of the terminal that a table may take. -/
def span : Nat := 120

/-- The columns of the terminal that a wrapped column must leave free to be settled. -/
def sparing : Nat := 3

/-! ### Widths of columns -/

/-- The lines of each column with its width, once it is settled. -/
abbrev Columns := List (List String × Option Nat)

/-- Columns with the room that those share which are not settled. -/
structure Plan where
  columns : Columns
  room : Nat

/-- The number of columns of the terminal that a line takes. -/
def lineWidth (line : String) : Nat := (Text.Styled.ofChars line.toList).width

/-- The greatest width among lines. -/
def greatest (lines : List String) : Nat := (lines.map lineWidth).foldl max 0

/-- The number of columns that are not settled. -/
def openCount (columns : Columns) : Nat := (columns.filter (·.2.isNone)).length

/--
Settles columns from left to right. `settle` says which width a column gets for an average room, if
any; `waiting` is the number of columns that are not settled.
-/
def settlePass (settle : Nat → List String → Option Nat) : Nat → Nat → Columns → Plan
  | room, _, [] => ⟨[], room⟩
  | room, waiting, (lines, some w) :: rest =>
    let plan := settlePass settle room waiting rest
    { plan with columns := (lines, some w) :: plan.columns }
  | room, waiting, (lines, none) :: rest =>
    match settle (room / waiting) lines with
    | some w =>
      let plan := settlePass settle (room - w) (waiting - 1) rest
      { plan with columns := (lines, some w) :: plan.columns }
    | none =>
      let plan := settlePass settle room waiting rest
      { plan with columns := (lines, none) :: plan.columns }

/-- Settles columns again and again, at most as often as the bound says. -/
def settleAll (settle : Nat → List String → Option Nat) : Nat → Plan → Plan
  | 0, plan => plan
  | bound + 1, plan =>
    let next := settlePass settle plan.room (openCount plan.columns) plan.columns
    if openCount next.columns = openCount plan.columns then plan else settleAll settle bound next

/-- The width of a column that is no wider than the average. -/
def narrow? (average : Nat) (lines : List String) : Option Nat :=
  if greatest lines ≤ average then some (greatest lines) else none

/--
The width of a column that leaves some of the average free once it is wrapped. Its lines are
measured in bytes here, so that a column of other letters than the Latin ones is rarely settled.
-/
def wrapped? (average : Nat) (lines : List String) : Option Nat :=
  let longest := ((lines.flatMap (Wrapping.lines average)).map (·.utf8ByteSize)).foldl max 0
  if longest + sparing ≤ average then some longest else none

/-- The widths of columns that share room: each the average, and one more while there is excess. -/
def shareRoom (average : Nat) : Nat → Columns → List Nat
  | _, [] => []
  | excess, (_, some w) :: rest => w :: shareRoom average excess rest
  | 0, (_, none) :: rest => average :: shareRoom average 0 rest
  | excess + 1, (_, none) :: rest => (average + 1) :: shareRoom average excess rest

/-- The widths of columns with the given lines that share so much room. -/
def widthsWithin (room : Nat) (columns : List (List String)) : List Nat :=
  let start : Plan := ⟨columns.map fun lines ↦ (lines, none), room⟩
  let plan := settleAll wrapped? columns.length (settleAll narrow? columns.length start)
  let waiting := openCount plan.columns
  let shared := max plan.room waiting
  (shareRoom (shared / waiting) (shared % waiting) plan.columns).map (max 1)

/-- The lines of a cell as it is given. -/
def cellLines (cell : String) : List String :=
  ((Text.Styled.ofChars cell.toList).splitAt '\n').map Text.Styled.written

/-- All rows, that of the headings first. -/
def allRows (t : TextTable) : List (List String) := t.headings :: t.rows

/-- The lines that a column's cells are given with. -/
def columnLines (t : TextTable) (i : Nat) : List String :=
  t.allRows.flatMap fun row ↦ (row[i]?.map cellLines).getD []

/-- The columns of the terminal that lines and blanks between `n` columns take. -/
def frameWidth (n : Nat) : Nat := n + 1 + 2 * n

/-- The widths of the columns. -/
def widths (t : TextTable) : List Nat :=
  let n := t.headings.length
  widthsWithin (span - frameWidth n) ((List.range n).map t.columnLines)

/-! ### Drawing -/

/-- The lines of each cell of each row, as wide as the columns allow. -/
def wrappedRows (t : TextTable) : List (List (List String)) :=
  t.allRows.map fun row ↦
    List.zipWith (fun w cell ↦ (cellLines cell).flatMap (Wrapping.lines w)) t.widths row

/-- So many copies of a character. -/
def stroke (n : Nat) (c : Char) : String := String.ofList (List.replicate n c)

/-- A text with blanks up to a width, at its front or at its end. -/
def padded (atFront : Bool) (w : Nat) (s : String) : String :=
  let blanks := stroke (w - lineWidth s) ' '
  if atFront then blanks ++ s else s ++ blanks

/-- A rule across the table. -/
def rule (left line crossing right : String) (widths : List Nat) : String :=
  left ++ Text.join crossing (widths.map fun w ↦ Text.join "" (List.replicate (w + 2) line)) ++
    right

/-- The lines that a row takes, each with a piece of every cell; a cell that has ended is blank. -/
def rowLines (cells : List (List String)) : List (List String) :=
  (List.range ((cells.map (·.length)).foldl max 0)).map fun i ↦
    cells.map fun pieces ↦ pieces[i]?.getD ""

/-- A line of a row as it is drawn. -/
def drawnLine (t : TextTable) (line : List String) : String :=
  let drawn := List.zipWith (fun (e : Nat × Nat) piece ↦
    " " ++ padded (e.2 == t.numbers) e.1 piece ++ " ") t.widths.zipIdx line
  "│" ++ Text.join "┆" drawn ++ "│"

/-- The lines that a row is drawn with. -/
def drawnRow (t : TextTable) (cells : List (List String)) : List String :=
  (rowLines cells).map t.drawnLine

/-- The lines that the table is drawn with. -/
def lines (t : TextTable) : List String :=
  match t.wrappedRows with
  | [] => []
  | headings :: rows =>
    [rule "╭" "─" "┬" "╮" t.widths] ++ t.drawnRow headings ++
      [rule "╞" "═" "╪" "╡" t.widths] ++ rows.flatMap t.drawnRow ++
      [rule "╰" "─" "┴" "╯" t.widths]

/-- A wider average settles a column that a smaller one settles, with the same width. -/
theorem narrow?_mono {average average' : Nat} {lines : List String} {w : Nat}
    (h : narrow? average lines = some w) (hle : average ≤ average') :
    narrow? average' lines = some w := by
  unfold narrow? at h ⊢
  split at h
  · rename_i hfit
    rw [if_pos (Nat.le_trans hfit hle)]
    exact h
  · simp at h

end TextTable

end SurveyExport
