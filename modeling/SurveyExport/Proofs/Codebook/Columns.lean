import Mathlib.Data.List.Basic
import SurveyExport.Codebook.Section

/-!
# What a question adds to its section

A section is made by adding its questions one after the other, and each adds the same to every
section: its own column, the columns derived from it, and entries of the side lists. So each part of
a section is the concatenation of what its questions add (`Section.storedKeys_ofQuestions`,
`Section.splits_ofQuestions`, `Section.points_ofQuestions`, `Section.questionColumns_ofQuestions`).

The one exception are the columns of choices, of which those are left out whose keys are taken.
Which they are depends on the section; that a column comes from a question
(`Section.mem_columns_cases`) and that those of choices stand behind the column of their question
(`Section.grounded_ofQuestions`) does not.
-/

namespace SurveyExport

/-- The question that a derived column comes from. -/
def Origin.source? : Origin → Option String
  | .question => none
  | .choice asked _ => some asked
  | .component parent => some parent
  | .extra => none

/-- The columns of choices or components that a question may bring beside its own. -/
def Form.derivedColumns (form : Form) (options : Options) (q : Question) : List Column :=
  match q.type with
  | .selectMultiple =>
    if options.splitSelectMultiples then
      (form.choiceColumns options q).map (Form.choiceColumn options q)
    else []
  | .geopoint => (pointKeys q.xpath).map (Form.componentColumn options q)
  | _ => []

/-- A derived column names the question that brings it. -/
theorem Form.source?_of_mem_derivedColumns {form : Form} {options : Options} {q : Question}
    {c : Column} (h : c ∈ form.derivedColumns options q) : c.origin.source? = some q.xpath := by
  simp only [derivedColumns] at h
  split at h
  · split at h
    · obtain ⟨choice, -, rfl⟩ := List.mem_map.1 h
      rfl
    · simp at h
  · obtain ⟨key, -, rfl⟩ := List.mem_map.1 h
    rfl
  · simp at h

namespace Section

variable {form : Form} {options : Options}

/-! ### The columns -/

/-- Appending leaves out some of the new columns and keeps the order of the others. -/
theorem exists_appendNew_eq (columns new : List Column) :
    ∃ kept, kept.Sublist new ∧ appendNew columns new = columns ++ kept := by
  induction new generalizing columns with
  | nil => exact ⟨[], .slnil, by simp [appendNew]⟩
  | cons c rest ih =>
    simp only [appendNew]
    split
    · obtain ⟨kept, hsub, heq⟩ := ih columns
      exact ⟨kept, hsub.cons _, heq⟩
    · obtain ⟨kept, hsub, heq⟩ := ih (columns ++ [c])
      exact ⟨c :: kept, hsub.cons_cons _, by rw [heq, List.append_assoc, List.singleton_append]⟩

theorem add_of_isNote {s : Section} {q : Question} (h : q.type.isNote = true) :
    s.add form options q = s := by
  simp [add, h]

/-- A question appends its own column and those derived from it, of which those of choices only if
they are not there yet. -/
theorem columns_add {q : Question} (hnote : q.type.isNote = false) (s : Section) :
    (s.add form options q).columns =
      if q.type = .selectMultiple then
        appendNew (s.columns ++ [form.questionColumn options q]) (form.derivedColumns options q)
      else s.columns ++ form.questionColumn options q :: form.derivedColumns options q := by
  simp only [add, hnote, Bool.false_eq_true, if_false, Form.derivedColumns]
  split
  · rename_i htype
    simp only [htype, if_true]
    split <;> rfl
  · rename_i htype
    simp [htype]
  · rename_i htype
    simp [htype, Point.ofXpath]
  · rename_i hmultiple hone hpoint
    have hmultiple : q.type ≠ .selectMultiple := hmultiple
    simp [hmultiple]

/-- A question that is no note adds its column, and after it derived columns of its own. -/
theorem exists_columns_add (form : Form) (options : Options) (s : Section) {q : Question}
    (h : q.type.isNote = false) :
    ∃ kept, kept.Sublist (form.derivedColumns options q) ∧
      (s.add form options q).columns = s.columns ++ form.questionColumn options q :: kept := by
  rw [columns_add h]
  split
  · obtain ⟨kept, hsub, heq⟩ := exists_appendNew_eq (s.columns ++ [form.questionColumn options q])
      (form.derivedColumns options q)
    exact ⟨kept, hsub, by simpa using heq⟩
  · exact ⟨_, .refl _, rfl⟩

/-- The columns of questions. -/
def questionColumns (s : Section) : List Column := s.columns.filter (·.origin = .question)

/-- A part of a section to which every question adds a list holds the lists of all questions. -/
theorem foldl_add_eq {α : Type} (part : Section → List α) {added : Question → List α}
    (h : ∀ s q, part (s.add form options q) = part s ++ added q) (s : Section)
    (questions : List Question) :
    part (questions.foldl (add form options) s) = part s ++ questions.flatMap added := by
  induction questions generalizing s with
  | nil => simp
  | cons q rest ih => rw [List.foldl_cons, ih, h, List.flatMap_cons, List.append_assoc]

/-- The question columns of a section are those of its questions other than notes. -/
theorem questionColumns_ofQuestions (name : String) (questions : List Question) :
    (ofQuestions form options name questions).questionColumns =
      (questions.filter fun q ↦ !q.type.isNote).map (form.questionColumn options) := by
  have hadd : ∀ (s : Section) (q : Question), (s.add form options q).questionColumns =
      s.questionColumns ++ if q.type.isNote then [] else [form.questionColumn options q] := by
    intro s q
    cases hnote : q.type.isNote with
    | true => simp [add_of_isNote hnote]
    | false =>
      obtain ⟨kept, hsub, heq⟩ := exists_columns_add form options s hnote
      -- the columns after that of the question are derived from it
      have hkept : kept.filter (fun c : Column ↦ c.origin = .question) = [] := by
        refine List.filter_eq_nil_iff.2 fun c hc ↦ ?_
        have hsource := Form.source?_of_mem_derivedColumns (hsub.subset hc)
        intro horigin
        rw [of_decide_eq_true horigin] at hsource
        cases hsource
      rw [questionColumns, heq, List.filter_append, List.filter_cons, hkept]
      rfl
  rw [ofQuestions, foldl_add_eq questionColumns hadd]
  induction questions with
  | nil => rfl
  | cons q rest ih =>
    rw [List.flatMap_cons, List.filter_cons, ← List.append_assoc,
      show ({ name } : Section).questionColumns = [] from rfl, List.nil_append]
    rw [show ({ name } : Section).questionColumns = [] from rfl, List.nil_append] at ih
    rw [ih]
    cases q.type.isNote <;> rfl

/-! ### Where a column comes from -/

/-- A column that is appended is the first of the new ones with its key. -/
theorem mem_appendNew {c : Column} {columns new : List Column} (h : c ∈ appendNew columns new) :
    c ∈ columns ∨ (c.key ∉ columns.map (·.key) ∧ new.find? (·.key == c.key) = some c) := by
  induction new generalizing columns with
  | nil => exact .inl h
  | cons d rest ih =>
    rw [appendNew] at h
    split at h
    · rename_i hd
      rcases ih h with h | ⟨hc, hfind⟩
      · exact .inl h
      refine .inr ⟨hc, ?_⟩
      -- the key of `d` is taken, and that of `c` is not
      have hne : d.key ≠ c.key := by
        rintro heq
        obtain ⟨d', hd', hkey⟩ := List.any_eq_true.1 hd
        exact hc (List.mem_map.2 ⟨d', hd', (beq_iff_eq.1 hkey).trans heq⟩)
      rw [List.find?_cons, beq_eq_false_iff_ne.2 hne]
      exact hfind
    · rename_i hd
      rcases ih h with h | ⟨hc, hfind⟩
      · rcases List.mem_append.1 h with h | h
        · exact .inl h
        · obtain rfl := List.mem_singleton.1 h
          refine .inr ⟨fun hmem ↦ hd ?_, by simp⟩
          obtain ⟨d', hd', hkey⟩ := List.mem_map.1 hmem
          exact List.any_eq_true.2 ⟨d', hd', beq_iff_eq.2 hkey⟩
      · rw [List.map_append, List.mem_append, not_or] at hc
        have hne : d.key ≠ c.key := fun heq ↦ hc.2 (by simp [heq])
        refine .inr ⟨hc.1, ?_⟩
        rw [List.find?_cons, beq_eq_false_iff_ne.2 hne]
        exact hfind

/-- The only member with a property is the one that is found. -/
theorem find?_eq_some_of_mem {α : Type} {p : α → Bool} {l : List α} {a : α} (ha : a ∈ l)
    (hp : p a = true) (honly : ∀ b ∈ l, p b = true → b = a) : l.find? p = some a := by
  cases hfind : l.find? p with
  | none => exact absurd hp (List.find?_eq_none.1 hfind a ha)
  | some b => rw [honly b (List.mem_of_find?_eq_some hfind) (List.find?_some hfind)]

/-- A derived column that is no choice's is the only one with its key. -/
theorem find?_derivedColumns {q : Question} (htype : q.type ≠ .selectMultiple) {c : Column}
    (hc : c ∈ form.derivedColumns options q) :
    (form.derivedColumns options q).find? (·.key == c.key) = some c := by
  rw [Form.derivedColumns] at hc ⊢
  split at hc
  · rename_i hmultiple
    exact absurd hmultiple htype
  · obtain ⟨key, hkey, rfl⟩ := List.mem_map.1 hc
    have hfind : (pointKeys q.xpath).find? (· == key) = some key :=
      find?_eq_some_of_mem hkey (beq_self_eq_true key) fun key' _ h ↦ beq_iff_eq.1 h
    show ((pointKeys q.xpath).map (Form.componentColumn options q)).find? (·.key == key) = _
    rw [List.find?_map]
    exact congrArg (Option.map _) hfind
  · cases hc

/-- A column that a question adds is its own, or the first with its key among those derived from
it. -/
theorem mem_columns_add {s : Section} {q : Question} {c : Column}
    (h : c ∈ (s.add form options q).columns) : c ∈ s.columns ∨ q.type.isNote = false ∧
      (c = form.questionColumn options q ∨
        (form.derivedColumns options q).find? (·.key == c.key) = some c) := by
  cases hnote : q.type.isNote with
  | true =>
    rw [add_of_isNote hnote] at h
    exact .inl h
  | false =>
    rw [columns_add hnote] at h
    split at h
    · rcases mem_appendNew h with h | ⟨-, hfind⟩
      · exact (List.mem_append.1 h).imp_right fun h ↦ ⟨rfl, .inl (List.mem_singleton.1 h)⟩
      · exact .inr ⟨rfl, .inr hfind⟩
    · rename_i htype
      rw [List.mem_append, List.mem_cons] at h
      exact h.imp_right fun h ↦ ⟨rfl, h.imp_right (find?_derivedColumns htype)⟩

/-- A column of a section is that of a question, or the first with its key among those derived from
one. -/
theorem mem_columns_cases {name : String} {questions : List Question} {c : Column}
    (h : c ∈ (ofQuestions form options name questions).columns) :
    ∃ q ∈ questions, q.type.isNote = false ∧ (c = form.questionColumn options q ∨
      (form.derivedColumns options q).find? (·.key == c.key) = some c) := by
  have hfold : ∀ s : Section, c ∈ (questions.foldl (add form options) s).columns →
      c ∈ s.columns ∨ ∃ q ∈ questions, q.type.isNote = false ∧
        (c = form.questionColumn options q ∨
          (form.derivedColumns options q).find? (·.key == c.key) = some c) := by
    clear h
    induction questions with
    | nil => exact fun s h ↦ .inl h
    | cons q rest ih =>
      intro s h
      rcases ih _ h with h | ⟨q', hq', h⟩
      · exact (mem_columns_add h).imp_right fun h ↦ ⟨q, List.mem_cons_self, h⟩
      · exact .inr ⟨q', List.mem_cons_of_mem _ hq', h⟩
  exact (hfold _ h).resolve_left List.not_mem_nil

/-- A column of a section is that of a question, or derived from one. -/
theorem exists_question_of_mem_columns {name : String} {questions : List Question} {c : Column}
    (h : c ∈ (ofQuestions form options name questions).columns) :
    ∃ q ∈ questions, q.type.isNote = false ∧
      (c = form.questionColumn options q ∨ c ∈ form.derivedColumns options q) := by
  obtain ⟨q, hq, hnote, hc⟩ := mem_columns_cases h
  exact ⟨q, hq, hnote, hc.imp_right List.mem_of_find?_eq_some⟩

/-! ### Derived columns stand behind their question -/

/-- Every derived column is preceded by the column of the question that it comes from. -/
def Grounded (columns : List Column) : Prop :=
  ∀ before c after x, columns = before ++ c :: after → c.origin.source? = some x →
    ∃ d ∈ before, d.origin = .question ∧ d.key = x

/-- A grounded list stays so with columns at its end that come from a question in it. -/
theorem Grounded.append {columns new : List Column} (h : Grounded columns)
    (hnew : ∀ c ∈ new, ∀ x, c.origin.source? = some x →
      ∃ d ∈ columns, d.origin = .question ∧ d.key = x) : Grounded (columns ++ new) := by
  intro before c after x heq hx
  -- the column is one of the new ones, or stood in the list before
  rcases List.append_eq_append_iff.1 heq with ⟨mid, hbefore, hmid⟩ | ⟨mid, hcolumns, hmid⟩
  · obtain ⟨d, hd, hdx⟩ := hnew c (by rw [hmid]; simp) x hx
    exact ⟨d, by rw [hbefore]; exact List.mem_append_left _ hd, hdx⟩
  · cases mid with
    | nil =>
      obtain ⟨d, hd, hdx⟩ := hnew c (by simp only [List.nil_append] at hmid; simp [← hmid]) x hx
      exact ⟨d, by simpa [hcolumns] using hd, hdx⟩
    | cons c' mid =>
      obtain ⟨rfl, -⟩ := List.cons.inj hmid
      exact h before c mid x hcolumns hx

/-- The columns of a section are grounded. -/
theorem grounded_ofQuestions (name : String) (questions : List Question) :
    Grounded (ofQuestions form options name questions).columns := by
  -- the section that the questions are added to varies in the induction
  have h : ∀ s : Section, Grounded s.columns →
      Grounded (questions.foldl (add form options) s).columns := by
    induction questions with
    | nil => exact fun s hs ↦ hs
    | cons q rest ih =>
      intro s hs
      refine ih _ ?_
      cases hnote : q.type.isNote with
      | true => rwa [add_of_isNote hnote]
      | false =>
        obtain ⟨kept, hsub, heq⟩ :=
          exists_columns_add form options s hnote
        rw [heq, ← List.singleton_append, ← List.append_assoc]
        refine (hs.append fun c hc x hx ↦ ?_).append fun c hc x hx ↦ ?_
        · obtain rfl := List.mem_singleton.1 hc
          cases hx
        · have hsource := Form.source?_of_mem_derivedColumns (hsub.subset hc)
          obtain rfl : q.xpath = x := Option.some.inj (hsource.symm.trans hx)
          exact ⟨form.questionColumn options q, by simp, rfl, rfl⟩
  refine h _ fun before c after x heq ↦ ?_
  cases before <;> cases heq

/-! ### The side lists -/

/-- The keys that the store refuses are listed with those it uses. -/
theorem storedKeys_ofQuestions (name : String) (questions : List Question) :
    (ofQuestions form options name questions).storedKeys =
      questions.flatMap fun q ↦
        if !q.type.isNote && KeyEscape.isRefused q.xpath then
          [(q.xpath, KeyEscape.encode q.xpath)]
        else [] := by
  refine foldl_add_eq storedKeys (fun s q ↦ ?_) { name } questions
  cases hnote : q.type.isNote with
  | true => simp [add_of_isNote hnote]
  | false =>
    simp only [add, hnote, Bool.false_eq_true, if_false]
    split <;> (simp only [Bool.not_false, Bool.true_and]; split <;> simp)

/-- A question adds its entry to the side list of its type, and nothing to the others. -/
theorem sideLists_add (s : Section) (q : Question) :
    (s.add form options q).splits = s.splits ++ (if q.type = .selectMultiple then
      [⟨q.xpath, if options.splitSelectMultiples then form.choiceColumns options q else []⟩]
        else []) ∧
    (s.add form options q).points =
      s.points ++ (if q.type = .geopoint then [Point.ofXpath q.xpath] else []) ∧
    (s.add form options q).selectOnes =
      s.selectOnes ++ (if q.type = .selectOne then [q.xpath] else []) := by
  cases hnote : q.type.isNote with
  | true =>
    have htype (type : QuestionType) (h : type.isNote = false) : q.type ≠ type := by
      rintro rfl
      cases h.symm.trans hnote
    simp [add_of_isNote hnote, htype .selectMultiple rfl, htype .geopoint rfl,
      htype .selectOne rfl]
  | false =>
    simp only [add, hnote, Bool.false_eq_true, if_false]
    split <;> simp_all

/-- The select-multiples are listed with the choices they are split into. -/
theorem splits_ofQuestions (name : String) (questions : List Question) :
    (ofQuestions form options name questions).splits =
      questions.flatMap fun q ↦
        if q.type = .selectMultiple then
          [⟨q.xpath, if options.splitSelectMultiples then form.choiceColumns options q else []⟩]
        else [] :=
  foldl_add_eq splits (fun s q ↦ (sideLists_add s q).1) { name } questions

/-- The geopoints are listed with the keys of their components. -/
theorem points_ofQuestions (name : String) (questions : List Question) :
    (ofQuestions form options name questions).points =
      questions.flatMap fun q ↦
        if q.type = .geopoint then [Point.ofXpath q.xpath] else [] :=
  foldl_add_eq points (fun s q ↦ (sideLists_add s q).2.1) { name } questions

/-- The select-ones are listed by their xpaths. -/
theorem selectOnes_ofQuestions (name : String) (questions : List Question) :
    (ofQuestions form options name questions).selectOnes =
      questions.flatMap fun q ↦ if q.type = .selectOne then [q.xpath] else [] :=
  foldl_add_eq selectOnes (fun s q ↦ (sideLists_add s q).2.2) { name } questions

/-- A list of what some items give holds what one of these items gives. -/
theorem mem_flatMap_ite {α β : Type} {p : α → Prop} [DecidablePred p] {f : α → β} {l : List α}
    {b : β} : b ∈ (l.flatMap fun a ↦ if p a then [f a] else []) ↔ ∃ a ∈ l, p a ∧ b = f a := by
  rw [List.mem_flatMap]
  refine exists_congr fun a ↦ and_congr_right fun _ ↦ ?_
  split <;> simp_all

theorem mem_storedKeys_iff {name : String} {questions : List Question} {e : String × String} :
    e ∈ (ofQuestions form options name questions).storedKeys ↔
      ∃ q ∈ questions, (!q.type.isNote && KeyEscape.isRefused q.xpath) = true ∧
        e = (q.xpath, KeyEscape.encode q.xpath) := by
  rw [storedKeys_ofQuestions, mem_flatMap_ite]

theorem mem_splits_iff {name : String} {questions : List Question} {s : SplitQuestion} :
    s ∈ (ofQuestions form options name questions).splits ↔
      ∃ q ∈ questions, q.type = .selectMultiple ∧ s =
        ⟨q.xpath, if options.splitSelectMultiples then form.choiceColumns options q else []⟩ := by
  rw [splits_ofQuestions, mem_flatMap_ite]

theorem mem_points_iff {name : String} {questions : List Question} {p : Point} :
    p ∈ (ofQuestions form options name questions).points ↔
      ∃ q ∈ questions, q.type = .geopoint ∧ p = Point.ofXpath q.xpath := by
  rw [points_ofQuestions, mem_flatMap_ite]

theorem mem_selectOnes_iff {name x : String} {questions : List Question} :
    x ∈ (ofQuestions form options name questions).selectOnes ↔
      ∃ q ∈ questions, q.type = .selectOne ∧ x = q.xpath := by
  rw [selectOnes_ofQuestions, mem_flatMap_ite]

end Section

end SurveyExport
