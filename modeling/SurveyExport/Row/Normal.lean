import SurveyExport.Codebook.Basic
import SurveyExport.Row.Coercion
import SurveyExport.Row.References
import SurveyExport.Row.Splitting

/-!
# Rows in normal form

The steps from the answers of a section's row to the cells of its sheet, in order: stored keys are
restored, select-multiples and geopoints are split, answers are labelled, cells take the types of
their columns, the time of submission becomes a date-time, and references are replaced.
-/

namespace SurveyExport.Row

/-- The row with a cell moved from a stored key to its xpath, unless the xpath has a cell. -/
def restoreKey (row : Row) (key : String × String) : Row :=
  if row.contains key.1 then row
  else
    match row.get? key.2 with
    | some c => (row.erase key.2).insert key.1 c
    | none => row

/-- The row with all stored keys restored. -/
def restoreKeys (storedKeys : List (String × String)) (row : Row) : Row :=
  storedKeys.foldl restoreKey row

/-- The row with the cell of a column in the column's type; a blank cell stays. -/
def coerceColumn (row : Row) (column : Column) : Row :=
  match row.get? column.key with
  | some c => row.insert column.key (if c.isBlank then c else c.coerce column.type)
  | none => row

/-- The row with the time of submission as a date-time. -/
def coerceTime (row : Row) : Row :=
  match row.get? MetaKey.submissionTime with
  | some c => row.insert MetaKey.submissionTime c.coerceSubmissionTime
  | none => row

/-- The text of a choice where labels are shown. -/
def shownChoice (book : Codebook) (options : Options) (xpath choice : String) : Option String :=
  if options.showChoiceLabels then book.choiceLabel? xpath choice else none

/-- The questions of a section whose answers may be labelled. -/
def labelledKeys (options : Options) (s : Section) : List String :=
  s.selectOnes ++ if options.splitSelectMultiples then [] else s.splits.map (·.xpath)

/-- The row after select-multiples and geopoints are split. -/
def parted (book : Codebook) (options : Options) (s : Section) (row : Row) : Row :=
  let row := restoreKeys s.storedKeys row
  let row :=
    if options.splitSelectMultiples then
      split (.ofOptions options) (shownChoice book options) s.splits row
    else row
  splitPoints s.points row

/-- The row after the steps that work on answers, before its cells take the types of columns. -/
def answered (book : Codebook) (options : Options) (s : Section) (row : Row) : Row :=
  let row := row.parted book options s
  if options.showChoiceLabels then
    labelAnswers book.choiceLabel? (labelledKeys options s) row
  else row

/-- The row in normal form but for the references in its texts. -/
def typed (book : Codebook) (options : Options) (s : Section) (row : Row) : Row :=
  coerceTime (s.columns.foldl coerceColumn (row.answered book options s))

/-- The row in normal form. -/
def normalize (book : Codebook) (options : Options) (s : Section) (row : Row) : Row :=
  (row.typed book options s).substitute

end SurveyExport.Row
