import SurveyExport.Cell
import SurveyExport.Codebook.Basic
import SurveyExport.Sheet.Naming

/-!
# Sheets

A sheet is the output of one section: its columns are those of the section and then the metadata
columns, without the ones that the options leave out. Every row of a sheet has one entry for each
column, so the header and the data line up.
-/

namespace SurveyExport

/-- The layout of one section's sheet. -/
structure Sheet where
  /-- The section's name. -/
  sectionName : String
  /-- The name of the sheet in the output. -/
  name : String
  columns : List Column
deriving DecidableEq, Repr

/-- The column of a metadata key. -/
def Column.extra (key : String) : Column :=
  { key, title := key, label := key, type := .string, origin := .extra, hashtag := none }

/-- Whether the options keep a column. -/
def Options.keeps (options : Options) (c : Column) : Bool :=
  match options.columns with
  | some wanted => wanted.any fun w ↦ w == c.key || w == c.title
  | none => true

namespace Sheet

/-- The sheet of a section. -/
def ofSection (book : Codebook) (options : Options) (s : Section) (name : String) : Sheet :=
  ⟨s.name, name, (s.columns ++ book.extraColumns.map Column.extra).filter options.keeps⟩

/-- The sheets of all sections. -/
def ofCodebook (book : Codebook) (options : Options) (naming : SheetNaming) : List Sheet :=
  (book.sections.zip (naming.assign (book.sections.map (·.name)))).map fun e ↦
    ofSection book options e.1 e.2

/-- The hashtags of the columns, if any column has one. -/
def hashtags (s : Sheet) : Option (List String) :=
  if s.columns.any (·.hashtag.isSome) then some (s.columns.map fun c ↦ c.hashtag.getD "")
  else none

/-- The rows of titles, labels and hashtags that the options ask for. -/
def headerRows (options : Options) (s : Sheet) : List (List String) :=
  (if options.hasTitleRow then [s.columns.map (·.title)] else []) ++
    (if options.hasLabelRow then [s.columns.map (·.label)] else []) ++
    (if options.includeHashtags then s.hashtags.toList else [])

/-- The cells of a row in the order of the columns; one without a value is missing. -/
def cells (s : Sheet) (row : Row) : List (Option Cell) :=
  s.columns.map fun c ↦ (row.get? c.key).filter (!·.isNull)

/-- A row has as many cells as the sheet has columns. -/
@[simp] theorem length_cells (s : Sheet) (row : Row) : (s.cells row).length = s.columns.length := by
  simp [cells]

/-- A header row has as many entries as the sheet has columns. -/
theorem length_of_mem_headerRows {options : Options} {s : Sheet} {header : List String}
    (h : header ∈ s.headerRows options) : header.length = s.columns.length := by
  simp only [headerRows, hashtags, List.mem_append] at h
  rcases h with (h | h) | h
  · split at h <;> simp_all
  · split at h <;> simp_all
  · split at h
    · split at h <;> simp_all
    · simp at h

end Sheet

end SurveyExport
