import SurveyExport.Proofs.Export.Calls
import SurveyExport.Proofs.Export.Traces

/-!
# What the options of presentation leave alone

Titles, labels, header rows, the filter of columns, metadata of the review and what stands for a
missing value are matters of presentation. `Options.AgreeOnData` says that two choices of options
differ in nothing else; `ExportPlan.run_eq_of_agreeOnData` says that an export then writes the same
rows to the same sheets, and has the same result or error.

A codebook does depend on these options, in the titles and labels of its sections. `Section.bare` is
a section without them. Two codebooks of a form have the same bare sections
(`Codebook.bare_sectionNamed`), and rows are normalised by the bare section alone
(`Row.normalize_bare`).
-/

namespace SurveyExport

/-- Options that differ at most in matters of presentation: in the titles, labels and hashtags of
columns, in which columns are kept, and in what stands for a missing value. -/
structure Options.AgreeOnData (o o' : Options) : Prop where
  splitSelectMultiples : o.splitSelectMultiples = o'.splitSelectMultiples
  binarySelectMultiples : o.binarySelectMultiples = o'.binarySelectMultiples
  valueSelectMultiples : o.valueSelectMultiples = o'.valueSelectMultiples
  showChoiceLabels : o.showChoiceLabels = o'.showChoiceLabels
  includeImages : o.includeImages = o'.includeImages
  targetLanguage : o.targetLanguage = o'.targetLanguage
  host : o.host = o'.host

/-! ### Sections without titles and labels -/

/-- The column without title and label. -/
def Column.bare (c : Column) : Column := { c with title := "", label := "" }

/-- The choice without its label. -/
def ChoiceColumn.bare (c : ChoiceColumn) : ChoiceColumn := { c with label := "" }

/-- The select-multiple without the labels of its choices. -/
def SplitQuestion.bare (q : SplitQuestion) : SplitQuestion :=
  { q with choices := q.choices.map ChoiceColumn.bare }

namespace Section

/-- The section without titles and labels. -/
def bare (s : Section) : Section :=
  { s with columns := s.columns.map Column.bare, splits := s.splits.map SplitQuestion.bare }

/-- Which columns are new is decided by their keys. -/
theorem map_bare_appendNew (columns new : List Column) :
    (appendNew columns new).map Column.bare =
      appendNew (columns.map Column.bare) (new.map Column.bare) := by
  induction new generalizing columns with
  | nil => rfl
  | cons c rest ih =>
    have hkeys : ((columns.map Column.bare).any fun d ↦ d.key == c.bare.key) =
        columns.any fun d ↦ d.key == c.key := by
      rw [List.any_map]
      rfl
    simp only [List.map_cons, appendNew, hkeys]
    split
    · exact ih columns
    · rw [ih, List.map_append]
      rfl

variable {form : Form} {o o' : Options}

/-- The choices of a select-multiple have keys and names that no option changes. -/
theorem map_bare_choiceColumns (form : Form) (o o' : Options) (q : Question) :
    (form.choiceColumns o q).map ChoiceColumn.bare =
      (form.choiceColumns o' q).map ChoiceColumn.bare := by
  rw [Form.choiceColumns, Form.choiceColumns, List.map_map, List.map_map]
  rfl

/-- The columns of choices are bare alike, if the choices are. -/
theorem map_bare_choiceColumn (q : Question) {choices choices' : List ChoiceColumn}
    (h : choices.map ChoiceColumn.bare = choices'.map ChoiceColumn.bare) :
    (choices.map (Form.choiceColumn o q)).map Column.bare =
      (choices'.map (Form.choiceColumn o' q)).map Column.bare := by
  have hcolumn : ∀ (o : Options) (choices : List ChoiceColumn),
      (choices.map (Form.choiceColumn o q)).map Column.bare =
        (choices.map ChoiceColumn.bare).map fun c ↦
          { Form.choiceColumn o q c with title := "", label := "" } := fun o choices ↦ by
    rw [List.map_map, List.map_map]
    rfl
  rw [hcolumn, hcolumn, h]
  rfl

/-- Sections are bare alike, if their parts are. -/
theorem bare_congr {s s' : Section} (hname : s.name = s'.name)
    (hcolumns : s.columns.map Column.bare = s'.columns.map Column.bare)
    (hsplits : s.splits.map SplitQuestion.bare = s'.splits.map SplitQuestion.bare)
    (hpoints : s.points = s'.points) (hones : s.selectOnes = s'.selectOnes)
    (hkeys : s.storedKeys = s'.storedKeys) : s.bare = s'.bare := by
  simp only [bare, hname, hcolumns, hsplits, hpoints, hones, hkeys]

/-- Adding a question to sections that are bare alike makes sections that are. -/
theorem bare_add (h : o.AgreeOnData o') {s s' : Section} (hs : s.bare = s'.bare) (q : Question) :
    (s.add form o q).bare = (s'.add form o' q).bare := by
  obtain ⟨hname, hcolumns, hsplits, hpoints, hones, hkeys⟩ := Section.mk.inj hs
  have hcolumns' : (s.columns ++ [form.questionColumn o q]).map Column.bare =
      (s'.columns ++ [form.questionColumn o' q]).map Column.bare := by
    rw [List.map_append, List.map_append, hcolumns]
    rfl
  simp only [add, hkeys]
  split
  · exact hs
  · split
    case h_1 =>
      have hchoices : (if o.splitSelectMultiples then form.choiceColumns o q else []).map
          ChoiceColumn.bare = (if o'.splitSelectMultiples then form.choiceColumns o' q else []).map
          ChoiceColumn.bare := by
        rw [h.splitSelectMultiples]
        split
        · exact map_bare_choiceColumns form o o' q
        · rfl
      refine bare_congr hname ?_ ?_ hpoints hones rfl
      · rw [map_bare_appendNew, map_bare_appendNew, hcolumns', map_bare_choiceColumn q hchoices]
      · rw [List.map_append, List.map_append, hsplits]
        exact congrArg (fun c ↦ _ ++ [SplitQuestion.mk q.xpath c]) hchoices
    case h_2 =>
      exact bare_congr hname hcolumns' hsplits hpoints (congrArg (· ++ [q.xpath]) hones) rfl
    case h_3 =>
      have hcomponents : ((pointKeys q.xpath).map (Form.componentColumn o q)).map Column.bare =
          ((pointKeys q.xpath).map (Form.componentColumn o' q)).map Column.bare := by
        rw [List.map_map, List.map_map]
        rfl
      refine bare_congr hname ?_ hsplits (congrArg (· ++ [Point.ofXpath q.xpath]) hpoints) hones rfl
      show ((_ ++ _) ++ (pointKeys q.xpath).map (Form.componentColumn o q)).map Column.bare =
        ((_ ++ _) ++ (pointKeys q.xpath).map (Form.componentColumn o' q)).map Column.bare
      rw [List.map_append, hcolumns', hcomponents, ← List.map_append]
    case h_4 => exact bare_congr hname hcolumns' hsplits hpoints hones rfl

/-- The sections of questions are bare alike under options that agree on data. -/
theorem bare_ofQuestions (h : o.AgreeOnData o') (name : String) (questions : List Question) :
    (ofQuestions form o name questions).bare = (ofQuestions form o' name questions).bare := by
  have hfold : ∀ s s' : Section, s.bare = s'.bare →
      (questions.foldl (add form o) s).bare = (questions.foldl (add form o') s').bare := by
    induction questions with
    | nil => exact fun _ _ hs ↦ hs
    | cons q rest ih => exact fun s s' hs ↦ ih _ _ (bare_add h hs q)
  exact hfold _ _ rfl

end Section

/-! ### Rows in normal form -/

namespace Row

variable {book : Codebook} {options : Options}

theorem splitOne_bare (policy : SplitPolicy) (labelOf : String → String → Option String) (row : Row)
    (q : SplitQuestion) : splitOne policy labelOf row q.bare = splitOne policy labelOf row q := by
  rw [splitOne, splitOne]
  exact List.foldl_map

theorem split_bare (policy : SplitPolicy) (labelOf : String → String → Option String)
    (splits : List SplitQuestion) (row : Row) :
    split policy labelOf (splits.map SplitQuestion.bare) row = split policy labelOf splits row := by
  rw [split, split, List.foldl_map]
  simp only [splitOne_bare]

theorem labelledKeys_bare (options : Options) (s : Section) :
    labelledKeys options s.bare = labelledKeys options s := by
  have hmap : (s.splits.map SplitQuestion.bare).map (·.xpath) = s.splits.map (·.xpath) := by
    rw [List.map_map]
    rfl
  simp only [labelledKeys, Section.bare, hmap]

/-- **No title and no label of a section** has a part in the normal form of its rows. -/
theorem normalize_bare (s : Section) (row : Row) :
    row.normalize book options s.bare = row.normalize book options s := by
  have hcoerce : ∀ row : Row, s.bare.columns.foldl coerceColumn row =
      s.columns.foldl coerceColumn row := fun row ↦ List.foldl_map
  simp only [normalize, typed, answered, parted, hcoerce, labelledKeys_bare]
  simp only [Section.bare, split_bare]

end Row

namespace Codebook

variable {form : Form} {o o' : Options}

theorem bare_sectionNamed (h : o.AgreeOnData o') (s : String) :
    (sectionNamed form o s).bare = (sectionNamed form o' s).bare :=
  Section.bare_ofQuestions h s _

theorem mediaRule?_made (h : o.AgreeOnData o') :
    (made form o).mediaRule? o = (made form o').mediaRule? o' := by
  simp only [mediaRule?, h.includeImages, h.host]
  rfl

/-- Rows have the same normal forms under options that agree on data. -/
theorem normalize_made (h : o.AgreeOnData o') (s : String) (row : Row) :
    row.normalize (made form o) o (sectionNamed form o s) =
      row.normalize (made form o') o' (sectionNamed form o' s) := by
  have hlabels : (made form o).choiceLabel? = (made form o').choiceLabel? := by
    have hlanguages : form.labelLanguages o = form.labelLanguages o' := by
      rw [Form.labelLanguages, Form.labelLanguages, h.targetLanguage]
    funext xpath choice
    simp only [choiceLabel?, made, hlanguages]
  have hshown : Row.shownChoice (made form o) o = Row.shownChoice (made form o') o' := by
    funext xpath choice
    rw [Row.shownChoice, Row.shownChoice, h.showChoiceLabels, hlabels]
  have hpolicy : SplitPolicy.ofOptions o = SplitPolicy.ofOptions o' := by
    simp only [SplitPolicy.ofOptions, h.valueSelectMultiples, h.binarySelectMultiples]
  have hkeys : ∀ s, Row.labelledKeys o s = Row.labelledKeys o' s := fun s ↦ by
    rw [Row.labelledKeys, Row.labelledKeys, h.splitSelectMultiples]
  rw [← Row.normalize_bare, bare_sectionNamed h, Row.normalize_bare]
  simp only [Row.normalize, Row.typed, Row.answered, Row.parted, hlabels, hshown, hpolicy, hkeys,
    h.splitSelectMultiples, h.showChoiceLabels]

end Codebook

/-! ### Exports -/

namespace ExportPlan

variable {form : Form} {o o' : Options} {naming : SheetNaming}

/-- The names of sections and sheets depend on the form and the naming alone. -/
theorem map_names_sheets (form : Form) (o o' : Options) (naming : SheetNaming) :
    (madePlan form o naming).sheets.map (fun s ↦ (s.sectionName, s.name)) =
      (madePlan form o' naming).sheets.map fun s ↦ (s.sectionName, s.name) := by
  have hnames : ∀ o : Options, (madePlan form o naming).sheets.map (fun s ↦ (s.sectionName, s.name))
      = (form.name :: form.repeats).zip (sheetNames form naming) := fun o ↦ by
    have hsections := @map_sectionName_sheets form o naming
    have hsheets := @map_name_sheets form o naming
    rw [← hsections, ← hsheets, List.zip_map']
  rw [hnames, hnames]

theorem nameParent_madePlan (form : Form) (o o' : Options) (naming : SheetNaming) (row : Row) :
    (madePlan form o naming).nameParent row = (madePlan form o' naming).nameParent row := by
  have hfind : ∀ s : String,
      ((madePlan form o naming).sheets.find? (·.sectionName == s)).map (·.name) =
        ((madePlan form o' naming).sheets.find? (·.sectionName == s)).map (·.name) := fun s ↦ by
    have hnames := congrArg (fun l ↦ (l.find? fun e ↦ e.1 == s).map (·.2))
      (map_names_sheets form o o' naming)
    simpa only [List.find?_map, Option.map_map, Function.comp_def] using hnames
  simp only [nameParent]
  split
  · rename_i parent _
    have hparent := hfind parent
    cases h : (madePlan form o naming).sheets.find? (·.sectionName == parent) <;>
      cases h' : (madePlan form o' naming).sheets.find? (·.sectionName == parent) <;>
      simp_all
  · rfl

/-- The results of exports count the same rows of the same sheets. -/
theorem result_madePlan (form : Form) (o o' : Options) (naming : SheetNaming) (submissions : Nat)
    (steps : List ExportStep) :
    (madePlan form o naming).result submissions steps =
      (madePlan form o' naming).result submissions steps := by
  have hsheets : ∀ o : Options, ((madePlan form o naming).result submissions steps).sheets =
      ((madePlan form o naming).sheets.map fun s ↦ (s.sectionName, s.name)).mapIdx
        fun i s ↦ ⟨s.1, s.2, (steps.filterMap ExportStep.sheet?).count i⟩ := fun o ↦
    List.ext_getElem (by simp [result]) fun i hi hi' ↦ by simp [result]
  have heq := (hsheets o).trans ((map_names_sheets form o o' naming) ▸ (hsheets o').symm)
  exact congrArg (ExportResult.mk form.name submissions) heq

theorem sectionCalls_agree (h : o.AgreeOnData o') (s : String) (rows : List Row) :
    (madePlan form o naming).sectionCalls s rows =
      (madePlan form o' naming).sectionCalls s rows := by
  by_cases hs : s ∈ form.name :: form.repeats
  · rw [sectionCalls_madePlan hs, sectionCalls_madePlan hs]
    refine List.map_congr_left fun row _ ↦ ?_
    rw [Codebook.normalize_made h, nameParent_madePlan form o o']
  · rw [sectionCalls_eq_nil hs, sectionCalls_eq_nil hs]

theorem recordCalls_agree (h : o.AgreeOnData o') (number : Nat) (counters : Counters) (r : Record) :
    (madePlan form o naming).recordCalls number counters r =
      (madePlan form o' naming).recordCalls number counters r := by
  have hmedia : (madePlan form o naming).book.mediaRule? (madePlan form o naming).options =
      (madePlan form o' naming).book.mediaRule? (madePlan form o' naming).options :=
    Codebook.mediaRule?_made h
  simp only [recordCalls, hmedia, sectionCalls_agree h]
  rfl

/-- **The steps of an export** are the same under options that agree on data. -/
theorem steps_agree (h : o.AgreeOnData o') (data : DataFile) :
    (madePlan form o naming).steps data = (madePlan form o' naming).steps data := by
  have hsubmissions : ∀ (submissions : List (Except SubmissionError Record)) (done : Nat)
      (counters : Counters), (madePlan form o naming).submissionSteps done counters submissions =
        (madePlan form o' naming).submissionSteps done counters submissions := by
    intro submissions
    induction submissions with
    | nil => exact fun _ _ ↦ rfl
    | cons x rest ih =>
      intro done counters
      cases x with
      | error e => rfl
      | ok r => rw [submissionSteps, submissionSteps, recordCalls_agree h, ih]
  rw [steps, steps, hsubmissions]

/-- **Presentation leaves the data alone.** Under options that agree on data, outputs that accept
every call get the same calls with the same rows, and the result or the error is the same. -/
theorem run_eq_of_agreeOnData {form : Form} {o o' : Options} {book book' : Codebook}
    (h : o.AgreeOnData o') (hbook : Codebook.ofForm form o = .ok book)
    (hbook' : Codebook.ofForm form o' = .ok book') (naming : SheetNaming) (data : DataFile)
    {σ σ' ε : Type} {k : Sink σ ε} {k' : Sink σ' ε} (hk : k.NeverFails) (hk' : k'.NeverFails)
    (s : σ) (s' : σ') :
    (make book o naming).answered data k s = (make book' o' naming).answered data k' s' ∧
      ((make book o naming).run data k s).1 = ((make book' o' naming).run data k' s').1 := by
  obtain ⟨rfl, -⟩ := Codebook.ofForm_eq_ok_iff.1 hbook
  obtain ⟨rfl, -⟩ := Codebook.ofForm_eq_ok_iff.1 hbook'
  show (madePlan form o naming).answered data k s = (madePlan form o' naming).answered data k' s' ∧
    ((madePlan form o naming).run data k s).1 = ((madePlan form o' naming).run data k' s').1
  rw [answered_eq, answered_eq, Sink.answered_of_neverFails hk, Sink.answered_of_neverFails hk',
    run_fst_of_neverFails hk, run_fst_of_neverFails hk', steps_agree h, result_madePlan form o o']
  exact ⟨rfl, rfl⟩

/-! ### An export under two choices of options -/

/-- A form whose columns have titles, labels and hashtags that options change. -/
def mealForm : Form where
  name := "meal"
  children := [.group .once "food" "food" none [
    .question { name := "likes", xpath := "food/likes", type := .selectMultiple,
                label := some (.plain "Likes"), hashtag := some "#likes",
                choices := [⟨"tea", some (.plain "Tea")⟩, ⟨"milk", none⟩] }]]

/-- Options that differ from the default in all matters of presentation. -/
def presentedOptions : Options where
  includeLabels := true
  includeLabelsOnly := true
  removeGroupName := true
  truncateGroupTitle := true
  groupDelimiter := .dot
  includeHashtags := true
  includeReviews := true
  naRep := ""
  indexTags := ⟨"(", ")"⟩
  columns := some ["likes"]

/-- Submissions to the form, the last of which cannot be read. -/
def mealData : DataFile where
  total := none
  submissions := [.ok [("food/likes", .scalar (.text "tea"))], .ok [], .error ⟨3, .notJson⟩]

/-- The options change the columns of the form, and leave its export alone. -/
theorem run_mealData_eq :
    Codebook.ofForm mealForm {} = .ok (Codebook.made mealForm {}) ∧
      Codebook.ofForm mealForm presentedOptions = .ok (Codebook.made mealForm presentedOptions) ∧
      Options.AgreeOnData {} presentedOptions ∧ Sink.journal.NeverFails ∧
      (Codebook.made mealForm {}).root ≠ (Codebook.made mealForm presentedOptions).root ∧
      (make (Codebook.made mealForm {}) {} .file).answered mealData Sink.journal [] =
        (make (Codebook.made mealForm presentedOptions) presentedOptions .file).answered mealData
          Sink.journal [] ∧
      ((make (Codebook.made mealForm {}) {} .file).run mealData Sink.journal []).1 =
        ((make (Codebook.made mealForm presentedOptions) presentedOptions .file).run mealData
          Sink.journal []).1 := by
  have hbook : ∀ o, Codebook.ofForm mealForm o = .ok (Codebook.made mealForm o) := fun o ↦
    Codebook.ofForm_eq_ok_iff.2 ⟨rfl, by decide, by decide, by decide, by decide⟩
  have hagree : Options.AgreeOnData {} presentedOptions := ⟨rfl, rfl, rfl, rfl, rfl, rfl, rfl⟩
  exact ⟨hbook _, hbook _, hagree, Sink.neverFails_journal, by decide,
    run_eq_of_agreeOnData hagree (hbook _) (hbook _) .file mealData Sink.neverFails_journal
      Sink.neverFails_journal [] []⟩

end ExportPlan

end SurveyExport
