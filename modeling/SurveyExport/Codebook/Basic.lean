import SurveyExport.Codebook.Section
import SurveyExport.Submission.Basic

/-!
# The codebook of a form

The codebook lists the sections of a form and its questions. It is made in two phases. `placements`
visits the tree in declared order and says which section each question belongs to: that of the
nearest repeated group around it. `check` then refuses a form in which a repeated group shares its
xpath with another section, or a question is unnamed or shares its xpath with another question.

* `Codebook.ofForm` gives the root section, and after it one section for each repeated group in
  declared order.
-/

namespace SurveyExport

/-- Why a form has no codebook. -/
inductive CodebookError where
  | unnamedForm
  | duplicateRepeat (xpath : String)
  | unnamedQuestion (xpath : String)
  | duplicateQuestion (xpath : String)
deriving DecidableEq, Repr

namespace CodebookError

/-- What is wrong with the form, in words. -/
def reason : CodebookError → String
  | unnamedForm => "form has no name"
  | duplicateRepeat xpath => s!"duplicate repeat xpath \x60{xpath}\x60"
  | unnamedQuestion xpath => s!"field at \x60{xpath}\x60 has no name"
  | duplicateQuestion xpath => s!"duplicate field xpath \x60{xpath}\x60"

/-- The message of the error. -/
def message (e : CodebookError) : String := "schema inconsistency: " ++ e.reason

end CodebookError

/-- What a visit to a node of the tree finds. -/
inductive Placement where
  /-- A repeated group, which opens a section. -/
  | opens (xpath : String)
  /-- A question, with the section it belongs to. -/
  | question (owner : String) (q : Question)
deriving DecidableEq, Repr

namespace Node

mutual

/-- What is found in a node that lies in the given section. -/
def placements (owner : String) : Node → List Placement
  | .group .once _ _ _ children => placementsOfAll owner children
  | .group .repeated _ xpath _ children => .opens xpath :: placementsOfAll xpath children
  | .question q => [.question owner q]

/-- What is found in nodes that lie in the given section. -/
def placementsOfAll (owner : String) : List Node → List Placement
  | [] => []
  | n :: rest => placements owner n ++ placementsOfAll owner rest

end

end Node

namespace Placement

/-- The xpath of a section that is opened. -/
def opens? : Placement → Option String
  | .opens xpath => some xpath
  | .question .. => none

/-- The question that is found. -/
def question? : Placement → Option Question
  | .opens _ => none
  | .question _ q => some q

/-- The question that is found, if it belongs to a section. -/
def questionOf? (section_ : String) : Placement → Option Question
  | .opens _ => none
  | .question owner q => if owner = section_ then some q else none

/-- Refuses the first placement at fault, given the sections and question xpaths before it. -/
def check (sections xpaths : List String) : List Placement → Except CodebookError Unit
  | [] => .ok ()
  | .opens xpath :: rest =>
    if sections.contains xpath then .error (.duplicateRepeat xpath)
    else check (xpath :: sections) xpaths rest
  | .question _ q :: rest =>
    if q.name.isEmpty then .error (.unnamedQuestion q.xpath)
    else if xpaths.contains q.xpath then .error (.duplicateQuestion q.xpath)
    else check sections (q.xpath :: xpaths) rest

end Placement

/-- The sections and questions of a form, for one choice of export options. -/
structure Codebook where
  form : Form
  languages : LabelLanguages
  /-- The section of the questions outside all repeated groups. -/
  root : Section
  /-- The sections of the repeated groups. -/
  repeats : List Section
  /-- The questions by their xpaths. -/
  questions : KeyMap Question
  /-- The columns that end every sheet. -/
  extraColumns : List String

namespace Codebook

/-- What is found in a form. -/
def placements (form : Form) : List Placement := Node.placementsOfAll form.name form.children

/-- The questions of a section in declared order, as the visit finds them. -/
def questionsOf (form : Form) (s : String) : List Question :=
  (placements form).filterMap (Placement.questionOf? s)

/-- The section of a codebook with a name. -/
def sectionNamed (form : Form) (options : Options) (s : String) : Section :=
  Section.ofQuestions form options s (questionsOf form s)

/-- The codebook made from what is found in a form. -/
def made (form : Form) (options : Options) : Codebook where
  form
  languages := form.labelLanguages options
  root := sectionNamed form options form.name
  repeats := ((placements form).filterMap Placement.opens?).map (sectionNamed form options)
  questions :=
    KeyMap.ofList (((placements form).filterMap Placement.question?).map fun q ↦ (q.xpath, q))
  extraColumns :=
    MetaKey.sheetColumns ++ if options.includeReviews then MetaKey.reviewColumns else []

/-- The codebook of a form, if it can have one. -/
def ofForm (form : Form) (options : Options) : Except CodebookError Codebook := do
  if (Text.trim form.name).isEmpty then .error .unnamedForm
  Placement.check [form.name] [] (placements form)
  pure (made form options)

/-- All sections, the root first. -/
def sections (book : Codebook) : List Section := book.root :: book.repeats

/-- The section with a name. -/
def section? (book : Codebook) (name : String) : Option Section :=
  book.sections.find? (·.name == name)

/-- The xpaths of the media questions, sorted. -/
def mediaKeys (book : Codebook) : List String :=
  (book.questions.values.filter (·.type.isMedia)).map (·.xpath)

/-- The label of a choice of the question with an xpath, as it is shown. -/
def choiceLabel? (book : Codebook) (xpath choice : String) : Option String := do
  let q ← book.questions.get? xpath
  let c ← (book.form.choicesOf q).find? (·.name == choice)
  book.languages.textOf c.label

/-- The select-multiples of all sections. -/
def splits (book : Codebook) : List SplitQuestion := book.sections.flatMap (·.splits)

/-- The geopoints of all sections. -/
def points (book : Codebook) : List Point := book.sections.flatMap (·.points)

end Codebook

end SurveyExport
