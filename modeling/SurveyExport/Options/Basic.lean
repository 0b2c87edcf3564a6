import SurveyExport.Json.Fields

/-!
# Export options

The choices that shape an export: how select-multiples are split, which header rows are written and
how titles are formed, which columns are kept, and what stands for a missing value.
-/

namespace SurveyExport

/-- The separator of group names in column titles. -/
inductive Delimiter where
  | slash
  | dot
deriving DecidableEq, Repr

namespace Delimiter

/-- The separator itself. -/
def text : Delimiter → String
  | slash => "/"
  | dot => "."

/-- The delimiter with a name: the separator itself, `slash` or `dot`. -/
def ofName? : String → Option Delimiter
  | "/" | "slash" => some slash
  | "." | "dot" => some dot
  | _ => none

/-- Reads a delimiter: its name, or an object with its name as the only key. -/
def ofJson? : Json → Option Delimiter := Json.named? ofName?

end Delimiter

/-- The marks around the number of an instance in the columns of a wide table. -/
structure IndexTags where
  opening : String := "["
  closing : String := "]"
deriving DecidableEq, Repr

/-- The options of an export. -/
structure Options where
  /-- Every choice of a select-multiple gets a column. -/
  splitSelectMultiples : Bool := true
  /-- Choice columns hold 1 and 0. -/
  binarySelectMultiples : Bool := false
  /-- Choice columns hold the choice itself where it is selected. -/
  valueSelectMultiples : Bool := false
  /-- Answers are shown as the labels of the choices. -/
  showChoiceLabels : Bool := false
  /-- A row of labels follows the row of titles. -/
  includeLabels : Bool := false
  /-- A row of labels stands in place of the row of titles. -/
  includeLabelsOnly : Bool := false
  /-- Titles are element names without the groups around them. -/
  removeGroupName : Bool := false
  /-- Titles are shortened to element names. -/
  truncateGroupTitle : Bool := false
  groupDelimiter : Delimiter := .slash
  /-- Media answers become addresses of the files. -/
  includeImages : Bool := false
  /-- A row of hashtags ends the header. -/
  includeHashtags : Bool := false
  /-- The columns of the review status are added. -/
  includeReviews : Bool := false
  targetLanguage : Option String := none
  /-- What is written for a missing value. -/
  naRep : String := "n/a"
  indexTags : IndexTags := {}
  /-- The host of the addresses of media files. -/
  host : Option String := none
  /-- The columns that are kept, by title or key; all if absent. -/
  columns : Option (List String) := none
deriving DecidableEq, Repr

namespace Options

/-- Whether titles are element names without the groups around them. -/
def truncatesTitles (o : Options) : Bool := o.truncateGroupTitle || o.removeGroupName

/-- Whether the header has a row of titles. -/
def hasTitleRow (o : Options) : Bool := !o.includeLabelsOnly

/-- Whether the header has a row of labels. -/
def hasLabelRow (o : Options) : Bool := o.includeLabels || o.includeLabelsOnly

end Options

end SurveyExport
