import SurveyExport.WideTable.Spread

/-!
# Wide tables

The table with one row for each submission, where repeated groups are spread over numbered columns.
Its columns are those of the kept groups, each once, and then the metadata columns. Which columns a
repeated group has is decided by all submissions together, in the order in which they are first met.

* `WideTable.length_of_mem_rows`: every row has one text for each column.
-/

namespace SurveyExport

/-- A table of texts. -/
structure WideTable where
  /-- The names of the columns. -/
  columns : List String
  headerRows : List (List String)
  rows : List (List String)
deriving DecidableEq, Repr

namespace WideTable

/-- The texts without repetitions, each at its first place. -/
def firstOccurrences (seen : List String) : List String → List String
  | [] => []
  | s :: rest =>
    if seen.contains s then firstOccurrences seen rest else s :: firstOccurrences (s :: seen) rest

/-- The columns of a group, given the entries of all submissions. -/
def groupColumns (entries : List WideEntry) : WideGroup → List String
  | .question _ keys => keys
  | .instances xpath _ => (entries.filter (·.owner == xpath)).map (·.column)

/-- The metadata columns, as far as the options keep them. -/
def extraColumns (options : Options) : List String :=
  let all := MetaKey.wideColumns ++ if options.includeReviews then MetaKey.reviewColumns else []
  match options.columns with
  | some wanted => all.filter wanted.contains
  | none => all

/-- The columns of questions and instances, given the entries of all submissions. -/
def spreadColumns (options : Options) (groups : List WideGroup) (entries : List WideEntry) :
    List String :=
  firstOccurrences [] ((groups.filter (·.isKept options)).flatMap (groupColumns entries))

/-- The columns of a table, given the entries of all submissions. -/
def columnsOf (options : Options) (groups : List WideGroup) (entries : List WideEntry) :
    List String :=
  spreadColumns options groups entries ++ extraColumns options

/-- What a column of a choice shows: the names of the question and of the choice. -/
def choiceColumns (book : Codebook) : KeyMap (String × String) :=
  KeyMap.ofList (book.splits.flatMap fun s ↦
    match book.questions.get? s.xpath with
    | some q => s.choices.map fun c ↦ (c.key, (q.name, c.name))
    | none => [])

/-- What a column shows, as far as its title depends on it. -/
def titled (book : Codebook) (choices : KeyMap (String × String)) (column : String) : Titled :=
  match choices.get? column, book.questions.get? column with
  | some (question, choice), _ => .choice question choice
  | none, some q => .question q.name
  | none, none =>
    if pointSuffixes.any fun suffix ↦ Text.finishesWith ("_" ++ suffix) column then .component
    else .column

/-- The label of a column. -/
def label (book : Codebook) (options : Options) (choices : KeyMap (String × String))
    (column : String) : String :=
  match choices.get? column, book.questions.get? column with
  | some (question, choice), _ =>
    let xpath := ((Text.splitLast? '/' column).map (·.1)).getD column
    question ++ options.groupDelimiter.text ++ (book.choiceLabel? xpath choice).getD choice
  | none, some q => (book.languages.textOf q.label).getD q.name
  | none, none => column

/-- The hashtag of a column; empty if it has none. -/
def hashtag (book : Codebook) (column : String) : String :=
  ((book.questions.get? column).bind (·.hashtag)).getD ""

/-- The titles of columns. -/
def titles (book : Codebook) (options : Options) (columns : List String) : List String :=
  let choices := choiceColumns book
  columns.map fun c ↦ options.columnTitle c (titled book choices c)

/-- The labels of columns. -/
def labels (book : Codebook) (options : Options) (columns : List String) : List String :=
  columns.map (label book options (choiceColumns book))

/-- The hashtags of columns. -/
def hashtags (book : Codebook) (columns : List String) : List String := columns.map (hashtag book)

/-- The header rows that the options ask for; there is no row of hashtags if all are empty. -/
def header (book : Codebook) (options : Options) (columns : List String) : List (List String) :=
  (if options.hasTitleRow then [titles book options columns] else []) ++
    (if options.hasLabelRow then [labels book options columns] else []) ++
    (if options.includeHashtags && (hashtags book columns).any (· ≠ "") then
      [hashtags book columns] else [])

/-- The table of submissions. -/
def ofRecords (book : Codebook) (options : Options) (records : List Record) : WideTable :=
  let groups := WideGroup.ofForm book.form options
  let columns :=
    columnsOf options groups (records.flatMap (Record.wideEntries book options groups))
  { columns
    headerRows := header book options columns
    rows := records.map fun r ↦
      let texts := r.wideTexts book options groups
      columns.map fun c ↦ (texts.get? c).getD options.naRep }

/-- There is one row for each submission. -/
@[simp] theorem length_rows (book : Codebook) (options : Options) (records : List Record) :
    (ofRecords book options records).rows.length = records.length := by
  simp [ofRecords]

/-- Every row has one text for each column. -/
theorem length_of_mem_rows {book : Codebook} {options : Options} {records : List Record}
    {row : List String} (h : row ∈ (ofRecords book options records).rows) :
    row.length = (ofRecords book options records).columns.length := by
  simp only [ofRecords, List.mem_map] at h ⊢
  obtain ⟨r, -, rfl⟩ := h
  simp

end WideTable

end SurveyExport
