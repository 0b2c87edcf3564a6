import SurveyExport.Cell
import SurveyExport.Codebook.Section

/-!
# Splitting answers into several columns

The answer to a select-multiple is the names of the selected choices with blanks between; it is
replaced by one cell for each choice. The answer to a geopoint is four numerals with blanks between;
it is kept, and each numeral gets a cell.
-/

namespace SurveyExport

/-- How the cells of choices are filled. -/
inductive SplitPolicy where
  /-- True and false, or nothing if the question has no answer. -/
  | boolean
  /-- 1 and 0. -/
  | binary
  /-- The name or label of the choice, or nothing if it is not selected. -/
  | value
deriving DecidableEq, Repr

namespace SplitPolicy

/-- The policy that options ask for. -/
def ofOptions (o : Options) : SplitPolicy :=
  if o.valueSelectMultiples then .value
  else if o.binarySelectMultiples then .binary
  else .boolean

/-- The cell of a choice. -/
def cell (policy : SplitPolicy) (answered selected : Bool) (text : String) : Cell :=
  match policy with
  | .binary => .int (if selected then 1 else 0)
  | .boolean => if answered then .bool selected else .null
  | .value => if selected then .text text else .null

end SplitPolicy

namespace Row

/-- The names of the selected choices in an answer. -/
def selected (answer : Option Cell) : List String :=
  match answer with
  | some c => Text.words c.display
  | none => []

/--
The row with a select-multiple's answer replaced by the cells of its choices. `labelOf` gives the
text of a choice for the policy that shows it; without one its name is shown.
-/
def splitOne (policy : SplitPolicy) (labelOf : String → String → Option String) (row : Row)
    (q : SplitQuestion) : Row :=
  let answer := (row.get? q.xpath).filter (!·.isNull)
  let names := selected answer
  q.choices.foldl
    (fun row c ↦
      row.insert c.key
        (policy.cell answer.isSome (names.contains c.name) ((labelOf q.xpath c.name).getD c.name)))
    (row.erase q.xpath)

/-- The row with the answers to select-multiples split, one question after the other. -/
def split (policy : SplitPolicy) (labelOf : String → String → Option String)
    (splits : List SplitQuestion) (row : Row) : Row :=
  splits.foldl (splitOne policy labelOf) row

/-- The row with the components of a geopoint, if its answer is a text of as many words. -/
def splitPoint (row : Row) (p : Point) : Row :=
  match (row.get? p.xpath).bind Cell.text? with
  | some text =>
    let words := Text.words text
    if words.length = p.components.length then
      (p.components.zip words).foldl (fun row e ↦ row.insert e.1 (.text e.2)) row
    else row
  | none => row

/-- The row with the components of geopoints. -/
def splitPoints (points : List Point) (row : Row) : Row := points.foldl splitPoint row

/-- The row with the choice names in an answer replaced by labels, where there is one. -/
def labelOne (labelOf : String → String → Option String) (row : Row) (xpath : String) : Row :=
  match (row.get? xpath).filter (!·.isBlank) with
  | some c =>
    let texts := (Text.words c.display).map fun name ↦ (labelOf xpath name).getD name
    row.insert xpath (.text (Text.join " " texts))
  | none => row

/-- The row with the choice names in several answers replaced by labels. -/
def labelAnswers (labelOf : String → String → Option String) (xpaths : List String) (row : Row) :
    Row :=
  xpaths.foldl (labelOne labelOf) row

end Row

end SurveyExport
