import Mathlib.Data.List.Perm.Basic
import SurveyExport.Proofs.Codebook.Partition
import SurveyExport.Proofs.Row.Answers
import SurveyExport.Proofs.WideTable.Keys
import SurveyExport.Proofs.WideTable.Level

/-!
# The cells of a question in a wide table

The cells of an instance are split and labelled by the questions of all sections, one after the
other. If no two questions share a column, each answer goes its own way: `Codebook.columnCell?` says
what becomes of it, and `Record.get?_level` that this is the cell in the row of the instance.
-/

namespace SurveyExport

/-! ### The questions of all sections -/

namespace Codebook

variable {form : Form} {options : Options}

/-- The questions of a form, section by section. -/
def placedQuestions (form : Form) : List Question :=
  (form.name :: form.repeats).flatMap (questionsOf form)

theorem mem_placedQuestions {q : Question} : q ∈ placedQuestions form ↔ q ∈ form.questions := by
  rw [placedQuestions, List.mem_flatMap]
  constructor
  · rintro ⟨s, -, hq⟩
    exact (mem_questionsOf.1 hq).mem_questions
  · intro hq
    obtain ⟨s, hs⟩ := Form.exists_holds hq
    exact ⟨s, mem_names_of_holds hs, mem_questionsOf.2 hs⟩

/-- No question is placed twice. -/
theorem nodup_placedQuestions (hnames : (form.name :: form.repeats).Nodup)
    (hnd : (form.questions.map (·.xpath)).Nodup) :
    ((placedQuestions form).map (·.xpath)).Nodup := by
  rw [placedQuestions, List.map_flatMap]
  exact nodup_flatMap_names hnames hnd fun s ↦ List.Sublist.refl _

/-- What a question asks to be split. -/
def splitsOf (form : Form) (options : Options) (q : Question) : List SplitQuestion :=
  if q.type = .selectMultiple then
    [⟨q.xpath, if options.splitSelectMultiples then form.choiceColumns options q else []⟩]
  else []

/-- The geopoint of a question. -/
def pointsOf (q : Question) : List Point :=
  if q.type = .geopoint then [Point.ofXpath q.xpath] else []

theorem splits_made :
    (made form options).splits = (placedQuestions form).flatMap (splitsOf form options) := by
  rw [splits, sections_made, placedQuestions, List.flatMap_map, List.flatMap_assoc]
  exact List.flatMap_congr fun s _ ↦ Section.splits_ofQuestions _ _

theorem points_made : (made form options).points = (placedQuestions form).flatMap pointsOf := by
  rw [points, sections_made, placedQuestions, List.flatMap_map, List.flatMap_assoc]
  exact List.flatMap_congr fun s _ ↦ Section.points_ofQuestions _ _

/-- Whether the answers to a question are labelled where labels are shown. -/
def isLabelled (options : Options) (q : Question) : Bool :=
  match q.type with
  | .selectOne => true
  | .selectMultiple => !options.splitSelectMultiples
  | _ => false

theorem isNote_of_isLabelled {q : Question} (h : isLabelled options q = true) :
    q.type.isNote = false := by
  rw [isLabelled] at h
  split at h
  · rename_i htype
    rw [htype]
    rfl
  · rename_i htype
    rw [htype]
    rfl
  · cases h

/-- The questions of a section whose answers are labelled, up to their order. -/
theorem labelledKeys_sectionNamed_perm (s : String) :
    (Row.labelledKeys options (sectionNamed form options s)).Perm
      (((questionsOf form s).filter (isLabelled options)).map (·.xpath)) := by
  let ones : Question → List String := fun q ↦ if q.type = .selectOne then [q.xpath] else []
  let multiples : Question → List String := fun q ↦
    if q.type = .selectMultiple ∧ options.splitSelectMultiples = false then [q.xpath] else []
  have hkeys : Row.labelledKeys options (sectionNamed form options s) =
      (questionsOf form s).flatMap ones ++ (questionsOf form s).flatMap multiples := by
    rw [Row.labelledKeys, sectionNamed, Section.selectOnes_ofQuestions,
      Section.splits_ofQuestions]
    refine congrArg (_ ++ ·) ?_
    cases hsplit : options.splitSelectMultiples with
    | true => simp [multiples, hsplit]
    | false =>
      simp only [Bool.false_eq_true, if_false, List.map_flatMap]
      refine List.flatMap_congr fun q _ ↦ ?_
      by_cases htype : q.type = .selectMultiple <;> simp [multiples, htype, hsplit]
  rw [hkeys]
  refine (List.flatMap_append_perm _ _ _).trans (List.Perm.of_eq ?_)
  induction questionsOf form s with
  | nil => rfl
  | cons q rest ih =>
    rw [List.flatMap_cons, ih, List.filter_cons]
    cases htype : q.type <;> cases hsplit : options.splitSelectMultiples <;>
      simp [isLabelled, ones, multiples, htype, hsplit]

/-- The questions whose answers are labelled, up to their order. -/
theorem labelledKeys_perm : ((made form options).sections.flatMap (Row.labelledKeys options)).Perm
    (((placedQuestions form).filter (isLabelled options)).map (·.xpath)) := by
  rw [sections_made, placedQuestions, List.flatMap_map, List.filter_flatMap, List.map_flatMap]
  exact List.Perm.flatMap_left _ fun s _ ↦ labelledKeys_sectionNamed_perm s

end Codebook

/-- No two questions of a form share a column. -/
def Form.ColumnsApart (form : Form) (options : Options) : Prop :=
  ∀ q ∈ form.questions, ∀ q' ∈ form.questions, q.type.isNote = false → q'.type.isNote = false →
    q ≠ q' → ∀ key ∈ form.ownKeys options q, key ∉ form.ownKeys options q'

/-! ### One question among all -/

namespace Row

variable {form : Form} {options : Options} {q : Question} {key : String}

/-- Splitting what a question asks for leaves the columns of other questions alone. -/
theorem get?_foldl_splitsOf (policy : SplitPolicy) (labelOf : String → String → Option String)
    (h : q.type.isNote = false → key ∉ form.ownKeys options q) (row : Row) :
    ((Codebook.splitsOf form options q).foldl (splitOne policy labelOf) row).get? key =
      row.get? key := by
  refine get?_foldl (fun row s hs ↦ ?_) row
  rw [Codebook.splitsOf] at hs
  split at hs
  · rename_i htype
    obtain rfl := List.mem_singleton.1 hs
    have hkey := h (by rw [htype]; rfl)
    refine get?_splitOne (fun heq ↦ hkey (heq ▸ List.mem_cons_self)) fun c hc heq ↦ ?_
    exact hkey (heq ▸ Form.choiceKey_mem_ownKeys htype hc)
  · cases hs

theorem get?_foldl_pointsOf (h : q.type.isNote = false → key ∉ form.ownKeys options q) (row : Row) :
    ((Codebook.pointsOf q).foldl splitPoint row).get? key = row.get? key := by
  refine get?_foldl (fun row p hp ↦ ?_) row
  rw [Codebook.pointsOf] at hp
  split at hp
  · rename_i htype
    obtain rfl := List.mem_singleton.1 hp
    exact get?_splitPoint fun hmem ↦ h (by rw [htype]; rfl) (Form.pointKey_mem_ownKeys htype hmem)
  · cases hp

variable (hnames : (form.name :: form.repeats).Nodup)
  (hxpaths : (form.questions.map (·.xpath)).Nodup) (hapart : form.ColumnsApart options)
  (hq : q ∈ form.questions) (hnote : q.type.isNote = false) (hkey : key ∈ form.ownKeys options q)

include hnames hxpaths hapart hq hnote hkey

/-- A step for all questions does under a column of one of them what the step for this one does. -/
theorem get?_foldl_placed {α : Type} {step : Row → α → Row} {asked : Question → List α}
    (hframe : ∀ q' k, (q'.type.isNote = false → k ∉ form.ownKeys options q') →
      ∀ row : Row, ((asked q').foldl step row).get? k = row.get? k) (row : Row) :
    ∃ row' : Row, row'.get? key = row.get? key ∧ row'.get? q.xpath = row.get? q.xpath ∧
      (((Codebook.placedQuestions form).flatMap asked).foldl step row).get? key =
        ((asked q).foldl step row').get? key := by
  have hother : ∀ k ∈ form.ownKeys options q, ∀ row, ∀ q' ∈ Codebook.placedQuestions form, q' ≠ q →
      ((asked q').foldl step row).get? k = row.get? k := by
    intro k hk row q' hq' hne
    refine hframe q' k (fun hnote' ↦ ?_) row
    exact hapart q hq q' (Codebook.mem_placedQuestions.1 hq') hnote hnote' hne.symm k hk
  rw [List.foldl_flatMap]
  exact get?_foldl_of_mem (Codebook.nodup_placedQuestions hnames hxpaths).of_map
    (Codebook.mem_placedQuestions.2 hq) (hother key hkey) (hother _ List.mem_cons_self) row

/-- After all splitting the columns of a question that is no select-multiple are as before. -/
theorem get?_split_made (htype : q.type ≠ .selectMultiple) (policy : SplitPolicy)
    (labelOf : String → String → Option String) (row : Row) :
    (split policy labelOf (Codebook.made form options).splits row).get? key = row.get? key := by
  obtain ⟨row', hrow', -, heq⟩ := get?_foldl_placed hnames hxpaths hapart hq hnote hkey
    (fun _ _ ↦ get?_foldl_splitsOf policy labelOf) row
  rw [split, Codebook.splits_made, heq, Codebook.splitsOf, if_neg htype]
  exact hrow'

/-- After all splitting the column of a component is as before, and so is that of its geopoint. -/
theorem get?_splitPoints_made (htype : q.type ≠ .geopoint ∨ key = q.xpath) (row : Row) :
    (splitPoints (Codebook.made form options).points row).get? key = row.get? key := by
  obtain ⟨row', hrow', -, heq⟩ := get?_foldl_placed hnames hxpaths hapart hq hnote hkey
    (fun _ _ ↦ get?_foldl_pointsOf) row
  rw [splitPoints, Codebook.points_made, heq, Codebook.pointsOf, ← hrow']
  split
  · rename_i hpoint
    obtain rfl := htype.resolve_left (absurd hpoint)
    exact get?_splitPoint fun hmem ↦ Form.pointKey_ne hmem rfl
  · rfl

omit hnames hxpaths in
/-- Labelling leaves the columns alone that are not the own column of a labelled question. -/
theorem get?_labelAnswers_made (h : Codebook.isLabelled options q = false ∨ key ≠ q.xpath)
    (labelOf : String → String → Option String) (row : Row) :
    (labelAnswers labelOf ((Codebook.made form options).sections.flatMap (labelledKeys options))
      row).get? key = row.get? key := by
  refine get?_foldl (fun row x hx ↦ get?_labelOne ?_) row
  obtain ⟨q', hq', rfl⟩ := List.mem_map.1 (Codebook.labelledKeys_perm.subset hx)
  obtain ⟨hmem, hlabelled⟩ := List.mem_filter.1 hq'
  by_cases heq : q' = q
  · subst heq
    rcases h with h | h
    · simp [h] at hlabelled
    · exact h
  · rintro rfl
    exact hapart q hq q' (Codebook.mem_placedQuestions.1 hmem) hnote
      (Codebook.isNote_of_isLabelled hlabelled) (Ne.symm heq) _ hkey List.mem_cons_self

omit hkey hapart hnote

/-- A labelled question has its labelled cell. -/
theorem get?_labelAnswers_self (h : Codebook.isLabelled options q = true)
    (labelOf : String → String → Option String) (row : Row) :
    (labelAnswers labelOf ((Codebook.made form options).sections.flatMap (labelledKeys options))
      row).get? q.xpath = (row.get? q.xpath).map (labelledCell (labelOf q.xpath)) := by
  -- no xpath is labelled twice, whatever the order of the sections
  have hperm : ((Codebook.made form options).sections.flatMap (labelledKeys options)).Perm
      (((Codebook.placedQuestions form).filter (Codebook.isLabelled options)).map (·.xpath)) :=
    Codebook.labelledKeys_perm
  have hnd := hperm.nodup_iff.2 ((Codebook.nodup_placedQuestions hnames hxpaths).sublist
    (List.filter_sublist.map _))
  have hmem := hperm.mem_iff.2 (List.mem_map.2
    ⟨q, List.mem_filter.2 ⟨Codebook.mem_placedQuestions.2 hq, h⟩, rfl⟩)
  have hother : ∀ row : Row, ∀ x ∈ (Codebook.made form options).sections.flatMap
      (labelledKeys options), x ≠ q.xpath →
        (labelOne labelOf row x).get? q.xpath = row.get? q.xpath :=
    fun row x _ hne ↦ get?_labelOne hne.symm
  obtain ⟨row', hrow', -, heq⟩ := get?_foldl_of_mem hnd hmem hother hother row
  rw [labelAnswers, heq, get?_labelOne_self, hrow']

/-- After all splitting the column of a choice has the choice's cell. -/
theorem get?_split_choice (hapart : form.ColumnsApart options) (htype : q.type = .selectMultiple)
    (hsplit : options.splitSelectMultiples = true) {c : ChoiceColumn}
    (hc : c ∈ form.choiceColumns options q) (policy : SplitPolicy)
    (labelOf : String → String → Option String) (row : Row) :
    (split policy labelOf (Codebook.made form options).splits row).get? c.key = some
      (choiceCell policy ((labelOf q.xpath c.name).getD c.name) c.name (row.get? q.xpath)) := by
  have hkey : c.key ∈ form.ownKeys options q :=
    Form.choiceKey_mem_ownKeys htype (by rwa [if_pos hsplit])
  obtain ⟨row', -, hrow', heq⟩ := get?_foldl_placed hnames hxpaths hapart hq (by rw [htype]; rfl)
    hkey (fun _ _ ↦ get?_foldl_splitsOf policy labelOf) row
  rw [split, Codebook.splits_made, heq, Codebook.splitsOf, if_pos htype, if_pos hsplit, ← hrow']
  exact get?_splitOne_choice (fun c hc d hd ↦ Form.choiceName_eq hc hd) hc

/-- After all splitting the column of a component has the component's cell. -/
theorem get?_splitPoints_component (hapart : form.ColumnsApart options) (htype : q.type = .geopoint)
    (hkey : key ∈ pointKeys q.xpath) (row : Row) :
    (splitPoints (Codebook.made form options).points row).get? key =
      (componentCell? (pointKeys q.xpath) key (row.get? q.xpath) <|> row.get? key) := by
  obtain ⟨row', hrow, hrow', heq⟩ := get?_foldl_placed hnames hxpaths hapart hq (by rw [htype]; rfl)
    (Form.pointKey_mem_ownKeys htype hkey) (fun _ _ ↦ get?_foldl_pointsOf) row
  rw [splitPoints, Codebook.points_made, heq, Codebook.pointsOf, if_pos htype, ← hrow', ← hrow]
  exact get?_splitPoint_component (Form.nodup_pointKeys q.xpath)

end Row

/-! ### The cell of an answer in a column -/

/-- The cell of a question's column, from the cells of a record's answers by their xpaths. A
component that the geopoint does not give keeps an answer under its own key. -/
def Codebook.columnCell? (book : Codebook) (options : Options) (q : Question) (key : String)
    (answers : String → Option Cell) : Option Cell :=
  match q.type, options.splitSelectMultiples with
  | .selectMultiple, true =>
    ((book.form.choiceColumns options q).find? (·.key == key)).map fun c ↦
      Row.choiceCell (.ofOptions options)
        ((Row.shownChoice book options q.xpath c.name).getD c.name) c.name (answers q.xpath)
  | .geopoint, _ =>
    if key = q.xpath then answers q.xpath
    else Row.componentCell? (pointKeys q.xpath) key (answers q.xpath) <|> answers key
  | _, _ =>
    if options.showChoiceLabels ∧ isLabelled options q then
      (answers q.xpath).map (Row.labelledCell (book.choiceLabel? q.xpath))
    else answers q.xpath

theorem Codebook.columnCell?_self {options : Options} {q : Question}
    (h : q.type = .selectMultiple → options.splitSelectMultiples = false) (book : Codebook)
    (answers : String → Option Cell) : book.columnCell? options q q.xpath answers =
      if options.showChoiceLabels ∧ isLabelled options q then
        (answers q.xpath).map (Row.labelledCell (book.choiceLabel? q.xpath))
      else answers q.xpath := by
  rw [columnCell?]
  split
  · rename_i htype hsplit
    simp [h htype] at hsplit
  · rename_i htype
    simp [isLabelled, htype]
  · rfl

namespace Record

variable {form : Form} {options : Options} {q : Question} {key : String} {files : List Attachment}
  {r : Record}

variable (hnames : (form.name :: form.repeats).Nodup)
  (hxpaths : (form.questions.map (·.xpath)).Nodup) (hapart : form.ColumnsApart options)
  (hr : r.KeysApart) (hq : q ∈ form.questions) (hnote : q.type.isNote = false)

include hnames hxpaths hapart hr hq hnote

/-- Where nothing is split, the cell of the answer is kept. -/
theorem get?_splitCells (hkey : key ∈ form.ownKeys options q)
    (h : q.type = .selectMultiple → options.splitSelectMultiples = false) :
    (r.splitCells (Codebook.made form options) options files).get? key =
      r.answerCell? ((Codebook.made form options).mediaRule? options) files key := by
  rw [splitCells, ← get?_levelCells hr]
  split
  · rename_i hon
    refine Row.get?_split_made hnames hxpaths hapart hq hnote hkey (fun htype ↦ ?_) _ _ _
    simp [h htype] at hon
  · rfl

/-- The own column of a question has the cell of the answer, labelled if the question is. -/
theorem get?_level_self (h : q.type = .selectMultiple → options.splitSelectMultiples = false) :
    (r.level (Codebook.made form options) options files).get? q.xpath =
      let answer := r.answerCell? ((Codebook.made form options).mediaRule? options) files q.xpath
      if options.showChoiceLabels ∧ Codebook.isLabelled options q then
        answer.map (Row.labelledCell ((Codebook.made form options).choiceLabel? q.xpath))
      else answer := by
  have hself : q.xpath ∈ form.ownKeys options q := List.mem_cons_self
  have hpoints := Row.get?_splitPoints_made hnames hxpaths hapart hq hnote hself (.inr rfl)
    (r.splitCells (Codebook.made form options) options files)
  rw [get?_splitCells hnames hxpaths hapart hr hq hnote hself h] at hpoints
  rw [level]
  by_cases hshow : options.showChoiceLabels
  · rw [if_pos hshow]
    cases hlabelled : Codebook.isLabelled options q with
    | true =>
      rw [Row.get?_labelAnswers_self hnames hxpaths hq hlabelled, hpoints]
      simp [hshow]
    | false =>
      rw [Row.get?_labelAnswers_made hapart hq hnote hself (.inl hlabelled), hpoints]
      simp
  · rw [if_neg hshow, hpoints]
    simp [hshow]

omit hnames hxpaths hr in
/-- A derived column is as before the labels. -/
theorem get?_level_derived (hkey : key ∈ form.ownKeys options q) (hne : key ≠ q.xpath) :
    (r.level (Codebook.made form options) options files).get? key =
      (Row.splitPoints (Codebook.made form options).points
        (r.splitCells (Codebook.made form options) options files)).get? key := by
  rw [level]
  split
  · exact Row.get?_labelAnswers_made hapart hq hnote hkey (.inr hne) _ _
  · rfl

/-- The column of a choice has the choice's cell. -/
theorem get?_level_choice (htype : q.type = .selectMultiple)
    (hsplit : options.splitSelectMultiples = true) {c : ChoiceColumn}
    (hc : c ∈ form.choiceColumns options q) :
    (r.level (Codebook.made form options) options files).get? c.key =
      some (Row.choiceCell (.ofOptions options)
        ((Row.shownChoice (Codebook.made form options) options q.xpath c.name).getD c.name) c.name
        (r.answerCell? ((Codebook.made form options).mediaRule? options) files q.xpath)) := by
  have hkey : c.key ∈ form.ownKeys options q :=
    Form.choiceKey_mem_ownKeys htype (by rwa [if_pos hsplit])
  have hpoint : q.type ≠ .geopoint := by simp [htype]
  rw [get?_level_derived hapart hq hnote hkey ?_,
    Row.get?_splitPoints_made hnames hxpaths hapart hq hnote hkey (.inl hpoint), splitCells,
    if_pos hsplit, Row.get?_split_choice hnames hxpaths hq hapart htype hsplit hc,
    get?_levelCells hr]
  obtain ⟨choice, -, rfl⟩ := List.mem_map.1 hc
  exact Form.choiceKey_ne q.xpath choice.name

/-- The column of a component has the component's cell, or else that of the answer under its key. -/
theorem get?_level_component (htype : q.type = .geopoint) (hkey : key ∈ pointKeys q.xpath) :
    (r.level (Codebook.made form options) options files).get? key =
      (Row.componentCell? (pointKeys q.xpath) key
        (r.answerCell? ((Codebook.made form options).mediaRule? options) files q.xpath) <|>
          r.answerCell? ((Codebook.made form options).mediaRule? options) files key) := by
  have hown : key ∈ form.ownKeys options q := Form.pointKey_mem_ownKeys htype hkey
  have hsplit : q.type = .selectMultiple → options.splitSelectMultiples = false := by simp [htype]
  rw [get?_level_derived hapart hq hnote hown (Form.pointKey_ne hkey),
    Row.get?_splitPoints_component hnames hxpaths hq hapart htype hkey,
    get?_splitCells hnames hxpaths hapart hr hq hnote List.mem_cons_self hsplit,
    get?_splitCells hnames hxpaths hapart hr hq hnote hown hsplit]

omit hnames hxpaths hq hnote

/-- **What becomes of an answer**: if no two questions share a column, the cells of a question in
the row of an instance are those of the instance's answers to this question. -/
theorem get?_level {book : Codebook} (hbook : Codebook.ofForm form options = .ok book)
    (hq : q ∈ form.questions) (hkey : key ∈ form.wideKeys options q) :
    (r.level book options files).get? key =
      book.columnCell? options q key (r.answerCell? (book.mediaRule? options) files) := by
  obtain ⟨rfl, -, hnames, hxpaths, -⟩ := Codebook.ofForm_eq_ok_iff.1 hbook
  obtain ⟨hnote, hkind⟩ := Form.mem_wideKeys hkey
  -- the own column, that of a choice, that of a component
  rcases hkind with ⟨rfl, hunsplit⟩ | ⟨htype, hsplit, c, hc, rfl⟩ | ⟨htype, hcomponent⟩
  · rw [get?_level_self hnames hxpaths hapart hr hq hnote hunsplit,
      Codebook.columnCell?_self hunsplit]
  · rw [get?_level_choice hnames hxpaths hapart hr hq hnote htype hsplit hc]
    simp only [Codebook.columnCell?, htype, hsplit]
    cases hfind : ((Codebook.made form options).form.choiceColumns options q).find?
      (·.key == c.key) with
    | none => exact absurd (List.find?_eq_none.1 hfind c hc) (by simp)
    | some d =>
      have hname : d.name = c.name :=
        Form.choiceName_eq (List.mem_of_find?_eq_some hfind) hc
          (by simpa using List.find?_some hfind)
      simp only [Option.map_some, hname]
  · rw [get?_level_component hnames hxpaths hapart hr hq hnote htype hcomponent]
    simp [Codebook.columnCell?, htype, Form.pointKey_ne hcomponent]

omit hapart hr in
/-- What is no column of a question is not touched. -/
theorem get?_level_of_foreign
    (hcolumns : ∀ q ∈ form.questions, q.type.isNote = false → key ∉ form.ownKeys options q) :
    (r.level (Codebook.made form options) options files).get? key =
      (r.levelCells ((Codebook.made form options).mediaRule? options) files).get? key := by
  have hplaced : ∀ q ∈ Codebook.placedQuestions form, q.type.isNote = false →
      key ∉ form.ownKeys options q :=
    fun q hq ↦ hcolumns q (Codebook.mem_placedQuestions.1 hq)
  have hsplit : (r.splitCells (Codebook.made form options) options files).get? key =
      (r.levelCells ((Codebook.made form options).mediaRule? options) files).get? key := by
    rw [splitCells]
    split
    · rw [Row.split, Codebook.splits_made, List.foldl_flatMap,
        Row.get?_foldl fun row q hq ↦ Row.get?_foldl_splitsOf _ _ (hplaced q hq) row]
    · rfl
  have hpoints : (Row.splitPoints (Codebook.made form options).points
      (r.splitCells (Codebook.made form options) options files)).get? key =
        (r.levelCells ((Codebook.made form options).mediaRule? options) files).get? key := by
    rw [Row.splitPoints, Codebook.points_made, List.foldl_flatMap,
      Row.get?_foldl fun row q hq ↦ Row.get?_foldl_pointsOf (hplaced q hq) row, hsplit]
  rw [level]
  split
  · rw [Row.labelAnswers, Row.get?_foldl fun row x hx ↦ Row.get?_labelOne ?_, hpoints]
    intro heq
    obtain ⟨q, hq, rfl⟩ := List.mem_map.1 (Codebook.labelledKeys_perm.subset hx)
    obtain ⟨hmem, hlabelled⟩ := List.mem_filter.1 hq
    exact hplaced q hmem (Codebook.isNote_of_isLabelled hlabelled) (heq ▸ List.mem_cons_self)
  · exact hpoints

end Record

end SurveyExport
