import SurveyExport.Linkage
import SurveyExport.Row.Normal
import SurveyExport.WideTable.Group

/-!
# Spreading instances over columns

A submission becomes one row of a wide table. The cells of an instance of a repeated group go to
columns whose names hold the instance's number, as in `children[2]/name`; an instance inside an
instance adds a number of its own, as in `children[1]/cartoons[3]/name`.
-/

namespace SurveyExport

/-- The rule for media answers, if the options ask for addresses. -/
def Codebook.mediaRule? (book : Codebook) (options : Options) : Option MediaRule :=
  if options.includeImages then some ⟨book.mediaKeys, options.host⟩ else none

/-- A tag as it is edited: in quotes if it holds both a comma and a space. -/
def quotedTag (tag : String) : String :=
  if tag.toList.contains ',' && tag.toList.contains ' ' then "\"" ++ tag ++ "\"" else tag

/-- Tags as they are edited: sorted, with commas between. -/
def editedTags (tags : List String) : String :=
  Text.join ", " ((tags.map quotedTag).mergeSort fun a b ↦ a ≤ b)

namespace Record

/-- The cell of an answer in a wide table; instances and attachments have none. -/
def wideCell? (media : Option MediaRule) (files : List Attachment) (key : String) :
    Answer → Option Cell
  | .scalar value => some (MediaRule.cell media files key value)
  | .list values => some (.text (Text.join " " (values.map fun v ↦ (Cell.ofScalar v).display)))
  | .tags texts => some (.text (editedTags texts))
  | .notes _ => some (.text "")
  | .instances _ => none
  | .attachments _ => none

/-- The row with the cell of an answer under its decoded key, if it has one. -/
def putWideCell (media : Option MediaRule) (files : List Attachment) (row : Row)
    (e : String × Answer) : Row :=
  match wideCell? media files (KeyEscape.decode e.1) e.2 with
  | some c => row.insert (KeyEscape.decode e.1) c
  | none => row

/-- The cells of a record's own answers before they are split and labelled. -/
def levelCells (media : Option MediaRule) (files : List Attachment) (r : Record) : Row :=
  r.foldl (putWideCell media files) KeyMap.empty

/-- The cells of a record's own answers after select-multiples are split. -/
def splitCells (book : Codebook) (options : Options) (files : List Attachment) (r : Record) : Row :=
  let row := levelCells (book.mediaRule? options) files r
  if options.splitSelectMultiples then
    Row.split (.ofOptions options) (Row.shownChoice book options) book.splits row
  else row

/-- The cells of a record's own answers. -/
def level (book : Codebook) (options : Options) (files : List Attachment) (r : Record) : Row :=
  let row := Row.splitPoints book.points (splitCells book options files r)
  if options.showChoiceLabels then
    Row.labelAnswers book.choiceLabel? (book.sections.flatMap (Row.labelledKeys options)) row
  else row

/-- The instances that a record holds under an xpath, if its first answer there is a list of
them. -/
def instancesAt? (r : Record) (xpath : String) : Option (List Record) :=
  match r.find? fun e ↦ KeyEscape.decode e.1 == xpath with
  | some (_, .instances records) => some records
  | _ => none

end Record

/-- The display of a key's cell; none without a value. -/
def Row.shown (row : Row) (key : String) : Option String :=
  ((row.get? key).filter (!·.isNull)).map Cell.display

/-- A column that an instance takes, and what it writes there. -/
structure WideEntry where
  /-- The xpath of the repeated group that the column belongs to. -/
  owner : String
  column : String
  /-- The text of the cell; none if the instance has no value for it. -/
  text : Option String
deriving DecidableEq, Repr

/-- The part of an xpath below a repeated group. -/
def below (owner xpath : String) : String := (Text.stripStart? (owner ++ "/") xpath).getD xpath

/-- The path of an instance, by its number among the instances at a path. -/
def IndexTags.instancePath (tags : IndexTags) (path : String) (number : Nat) : String :=
  path ++ tags.opening ++ toString number ++ tags.closing

mutual

/-- The entries that a slot of an instance adds; `path` is the instance's own. -/
def WideSlot.entries (book : Codebook) (options : Options) (files : List Attachment)
    (owner path : String) (r : Record) (row : Row) : WideSlot → List WideEntry
  | .cell key => [⟨owner, path ++ "/" ++ below owner key, row.shown key⟩]
  | .instances xpath slots =>
    ((r.instancesAt? xpath).getD []).zipIdx.flatMap fun e ↦
      WideSlot.entriesOfAll book options files xpath
        (options.indexTags.instancePath (path ++ "/" ++ below owner xpath) (e.2 + 1)) e.1
        (Record.level book options files e.1) slots

/-- The entries that slots of an instance add. -/
def WideSlot.entriesOfAll (book : Codebook) (options : Options) (files : List Attachment)
    (owner path : String) (r : Record) (row : Row) : List WideSlot → List WideEntry
  | [] => []
  | slot :: rest =>
    WideSlot.entries book options files owner path r row slot ++
      WideSlot.entriesOfAll book options files owner path r row rest

end

namespace Record

/-- The entries of an answer of a submission: those of the instances it holds. -/
def wideEntriesAt (book : Codebook) (options : Options) (groups : List WideGroup)
    (files : List Attachment) (key : String) : Answer → List WideEntry
  | .instances records =>
    let xpath := KeyEscape.decode key
    if xpath = MetaKey.attachments ∨ xpath = MetaKey.notes then []
    else
      records.zipIdx.flatMap fun e ↦
        WideSlot.entriesOfAll book options files xpath
          (options.indexTags.instancePath xpath (e.2 + 1)) e.1 (level book options files e.1)
          ((WideGroup.slots? groups xpath).getD [])
  | _ => []

/-- The entries of a submission, in the order of visit. -/
def wideEntries (book : Codebook) (options : Options) (groups : List WideGroup) (r : Record) :
    List WideEntry :=
  r.flatMap fun e ↦ wideEntriesAt book options groups r.attachments e.1 e.2

/-- The texts that a submission writes, with their columns: its own answers, and the entries. -/
def written (book : Codebook) (options : Options) (groups : List WideGroup) (r : Record) :
    List (String × String) :=
  ((level book options r.attachments r).toList.filterMap fun e ↦
      if e.2.isNull then none else some (e.1, e.2.display)) ++
    (wideEntries book options groups r).filterMap fun e ↦ e.text.map fun t ↦ (e.column, t)

/-- The texts of a submission's row by column; of two for one column the later counts. -/
def wideTexts (book : Codebook) (options : Options) (groups : List WideGroup) (r : Record) :
    KeyMap String :=
  KeyMap.ofList (written book options groups r)

end Record

end SurveyExport
