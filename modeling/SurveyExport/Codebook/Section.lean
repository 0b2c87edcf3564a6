import SurveyExport.Codebook.Title
import SurveyExport.Form.Basic
import SurveyExport.KeyEscape

/-!
# Sections

A section describes one output table of a form: the root section holds the questions outside all
repeated groups, and each repeated group has a section of its own. Beside the columns a section
lists what has to be done to its rows: which select-multiples and geopoints are split, which
select-ones may be labelled, and under which keys the store keeps answers.
-/

namespace SurveyExport

/-- Where a column comes from. -/
inductive Origin where
  | question
  /-- A choice of a select-multiple. -/
  | choice (question name : String)
  /-- A component of a geopoint. -/
  | component (parent : String)
  /-- The metadata of submissions. -/
  | extra
deriving DecidableEq, Repr

/-- A column of a section. -/
structure Column where
  /-- The key of the column's cells in a row. -/
  key : String
  title : String
  label : String
  type : BindType
  origin : Origin
  hashtag : Option String
deriving DecidableEq, Repr

/-- The column of a choice. -/
structure ChoiceColumn where
  /-- The question's xpath, a slash and the choice's name. -/
  key : String
  name : String
  /-- The label of the choice, or the title of the column if it has none. -/
  label : String
deriving DecidableEq, Repr

/-- A select-multiple question and the choices it is split into. -/
structure SplitQuestion where
  xpath : String
  choices : List ChoiceColumn
deriving DecidableEq, Repr

/-- A geopoint question and the keys of its components. -/
structure Point where
  xpath : String
  components : List String
deriving DecidableEq, Repr

/-- The geopoint question with an xpath. -/
def Point.ofXpath (xpath : String) : Point := ⟨xpath, pointKeys xpath⟩

/-- One output table of a form. -/
structure Section where
  /-- The form's name for the root section, and else the xpath of the repeated group. -/
  name : String
  columns : List Column := []
  splits : List SplitQuestion := []
  points : List Point := []
  selectOnes : List String := []
  /-- The xpaths that the store refuses as keys, with the keys it uses. -/
  storedKeys : List (String × String) := []
deriving DecidableEq, Repr

namespace Form

/-- The languages in which the form's labels are shown. -/
def labelLanguages (form : Form) (options : Options) : LabelLanguages :=
  ⟨options.targetLanguage, form.defaultLanguage⟩

/-- The choices that a select-multiple is split into. -/
def splitChoices (form : Form) (q : Question) : List Choice :=
  if q.usesItemset then ((q.itemset.bind form.itemsets.get?).getD q.choices) else q.choices

/-- The choices that the answers to a question are looked up in. -/
def choicesOf (form : Form) (q : Question) : List Choice :=
  let shared := q.itemset.bind form.itemsets.get?
  match q.usesItemset, shared with
  | true, some choices => choices
  | _, _ => if q.choices.isEmpty then shared.getD [] else q.choices

/-- The columns of the choices that a select-multiple is split into. -/
def choiceColumns (form : Form) (options : Options) (q : Question) : List ChoiceColumn :=
  (form.splitChoices q).map fun c ↦
    let key := q.xpath ++ "/" ++ c.name
    let label := ((form.labelLanguages options).textOf c.label).getD
      (options.columnTitle key (.choice q.name c.name))
    ⟨key, c.name, label⟩

/-- The column of a question. -/
def questionColumn (form : Form) (options : Options) (q : Question) : Column :=
  let title := options.columnTitle q.xpath (.question q.name)
  { key := q.xpath
    title
    label := ((form.labelLanguages options).textOf q.label).getD title
    type := q.type.bindType
    origin := .question
    hashtag := q.hashtag }

/-- The column of a choice of a question. -/
def choiceColumn (options : Options) (q : Question) (c : ChoiceColumn) : Column :=
  { key := c.key
    title := options.columnTitle c.key (.choice q.name c.name)
    label := q.name ++ options.groupDelimiter.text ++ c.label
    type := .string
    origin := .choice q.xpath c.name
    hashtag := none }

/-- The column of a component of a geopoint question. -/
def componentColumn (options : Options) (q : Question) (key : String) : Column :=
  let title := options.columnTitle key .component
  { key, title, label := title, type := .decimal, origin := .component q.xpath, hashtag := none }

end Form

namespace Section

/-- Appends the columns whose keys are not there yet. -/
def appendNew (columns : List Column) : List Column → List Column
  | [] => columns
  | c :: rest =>
    if columns.any (·.key == c.key) then appendNew columns rest
    else appendNew (columns ++ [c]) rest

/-- The section with one more question; a note adds nothing. -/
def add (form : Form) (options : Options) (s : Section) (q : Question) : Section :=
  if q.type.isNote then s
  else
    let columns := s.columns ++ [form.questionColumn options q]
    let storedKeys :=
      if KeyEscape.isRefused q.xpath then s.storedKeys ++ [(q.xpath, KeyEscape.encode q.xpath)]
      else s.storedKeys
    let s := { s with columns, storedKeys }
    match q.type with
    | .selectMultiple =>
      let choices := if options.splitSelectMultiples then form.choiceColumns options q else []
      { s with
        columns := appendNew s.columns (choices.map (Form.choiceColumn options q))
        splits := s.splits ++ [⟨q.xpath, choices⟩] }
    | .selectOne => { s with selectOnes := s.selectOnes ++ [q.xpath] }
    | .geopoint =>
      let point := Point.ofXpath q.xpath
      { s with
        columns := s.columns ++ point.components.map (Form.componentColumn options q)
        points := s.points ++ [point] }
    | _ => s

/-- The section with a name and the given questions. -/
def ofQuestions (form : Form) (options : Options) (name : String) (questions : List Question) :
    Section :=
  questions.foldl (add form options) { name }

/-- The name of a section is kept when a question is added. -/
@[simp] theorem name_add (form : Form) (options : Options) (s : Section) (q : Question) :
    (s.add form options q).name = s.name := by
  simp only [add]
  split
  · rfl
  · split <;> rfl

/-- The section made of questions has the given name. -/
@[simp] theorem name_ofQuestions (form : Form) (options : Options) (name : String)
    (questions : List Question) : (ofQuestions form options name questions).name = name := by
  have h : ∀ s : Section, (questions.foldl (add form options) s).name = s.name := by
    induction questions with
    | nil => exact fun _ ↦ rfl
    | cons q rest ih => exact fun s ↦ (ih _).trans (name_add form options s q)
  exact h { name }

end Section

end SurveyExport
