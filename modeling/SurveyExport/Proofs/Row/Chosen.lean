import SurveyExport.Proofs.Codebook.Check
import SurveyExport.Proofs.KeyEscape.Codec
import SurveyExport.Proofs.Linkage.Visits
import SurveyExport.Proofs.Row.Answers
import SurveyExport.Proofs.WideTable.Keys

/-!
# What becomes of the answer to a select

A row has the answer to a question under the question's xpath, or under the key that the store keeps
it by (`Row.answerTo`). If no other question of the section has to do with the cells of a question
(`Form.Unshared`), then in normal form

* a select-one keeps the name of its choice, unless labels are shown or the name holds a reference
  (`Row.get?_normalize_selectOne`);
* a select-multiple that is split has the choice's cell in the column of each choice
  (`Row.get?_normalize_choice`).
-/

namespace SurveyExport

/-- No other question of a section has to do with the cells of a question. -/
structure Form.Unshared (form : Form) (options : Options) (s : String) (q : Question) : Prop where
  /-- No other question has a column with the key of one of its columns. -/
  keys : ∀ q', form.Holds s q' → q'.type.isNote = false → q' ≠ q →
    ∀ k ∈ form.ownKeys options q, k ∉ form.ownKeys options q'
  /-- No other question is stored under its xpath, or under the key that it is stored by itself. -/
  stored : ∀ q', form.Holds s q' → q'.type.isNote = false → q' ≠ q →
    KeyEscape.isRefused q'.xpath → KeyEscape.encode q'.xpath ≠ q.xpath ∧
      KeyEscape.encode q'.xpath ≠ KeyEscape.encode q.xpath
  /-- Its xpath is not the name of a link, or of the time of submission. -/
  metadata : q.xpath ∉ MetaKey.submissionTime :: MetaKey.linkKeys

namespace Row

/-- The answer to a question: what a row has under its xpath, or else under its stored key. -/
def answerTo (row : Row) (q : Question) : Option Cell :=
  row.get? q.xpath <|>
    if KeyEscape.isRefused q.xpath then row.get? (KeyEscape.encode q.xpath) else none

/-! ### Restoring -/

/-- A cell is moved to its xpath, unless the xpath has a cell. -/
theorem get?_restoreKey_self (row : Row) (e : String × String) :
    (restoreKey row e).get? e.1 = (row.get? e.1 <|> row.get? e.2) := by
  cases hxpath : row.get? e.1 with
  | some c => simp [restoreKey, KeyMap.contains, hxpath]
  | none => cases hstored : row.get? e.2 <;> simp [restoreKey, KeyMap.contains, hxpath, hstored]

/-- What questions are listed with in a section has the xpaths of different questions. -/
theorem nodup_map_flatMap_ite {α : Type} (xpathOf : α → String) {listed : Question → α}
    (hlisted : ∀ q, xpathOf (listed q) = q.xpath) (p : Question → Prop) [DecidablePred p]
    {form : Form} (hxpaths : (form.questions.map (·.xpath)).Nodup) (s : String) :
    (((Codebook.questionsOf form s).flatMap fun q ↦
      if p q then [listed q] else []).map xpathOf).Nodup := by
  have hnd : ((Codebook.questionsOf form s).map (·.xpath)).Nodup :=
    hxpaths.sublist ((Codebook.questionsOf_sublist form s).map _)
  refine hnd.sublist ?_
  induction Codebook.questionsOf form s with
  | nil => exact .slnil
  | cons q rest ih =>
    rw [List.flatMap_cons, List.map_append, List.map_cons]
    split
    · rw [List.map_singleton, hlisted]
      exact ih.cons_cons _
    · exact ih.cons _

/-- What questions are listed with in a section is listed once. -/
theorem nodup_flatMap_ite {α : Type} (xpathOf : α → String) {listed : Question → α}
    (hlisted : ∀ q, xpathOf (listed q) = q.xpath) (p : Question → Prop) [DecidablePred p]
    {form : Form} (hxpaths : (form.questions.map (·.xpath)).Nodup) (s : String) :
    ((Codebook.questionsOf form s).flatMap fun q ↦ if p q then [listed q] else []).Nodup :=
  (nodup_map_flatMap_ite xpathOf hlisted p hxpaths s).of_map

variable {form : Form} {options : Options} {s : String} {q : Question}

/-- **The answer to a question is restored** under its xpath. -/
theorem get?_restoreKeys_self (hxpaths : (form.questions.map (·.xpath)).Nodup)
    (h : form.Unshared options s q) (hq : form.Holds s q) (hnote : q.type.isNote = false)
    (row : Row) :
    (restoreKeys (Codebook.sectionNamed form options s).storedKeys row).get? q.xpath =
      row.answerTo q := by
  have hother : ∀ e ∈ (Codebook.sectionNamed form options s).storedKeys,
      e ≠ (q.xpath, KeyEscape.encode q.xpath) → q.xpath ≠ e.1 ∧ q.xpath ≠ e.2 ∧
        KeyEscape.encode q.xpath ≠ e.1 ∧ KeyEscape.encode q.xpath ≠ e.2 := by
    intro e he hne
    obtain ⟨q', hq', hcond, rfl⟩ := Section.mem_storedKeys_iff.1 he
    obtain ⟨hnote', hrefused⟩ := Bool.and_eq_true_iff.1 hcond
    have hneq : q' ≠ q := fun heq ↦ hne (heq ▸ rfl)
    have hholds := Codebook.mem_questionsOf.1 hq'
    have hnote' : q'.type.isNote = false := by simpa using hnote'
    obtain ⟨hxpath, hstored⟩ := h.stored q' hholds hnote' hneq hrefused
    refine ⟨fun heq ↦ ?_, hxpath.symm, fun heq ↦ ?_, hstored.symm⟩
    · exact h.keys q' hholds hnote' hneq _ List.mem_cons_self (heq ▸ List.mem_cons_self)
    · -- what is stored is not refused
      rw [← show KeyEscape.encode q.xpath = q'.xpath from heq, KeyEscape.isRefused_encode]
        at hrefused
      cases hrefused
  have hnd : (Codebook.sectionNamed form options s).storedKeys.Nodup := by
    rw [Codebook.sectionNamed, Section.storedKeys_ofQuestions]
    exact nodup_flatMap_ite Prod.fst (fun _ ↦ rfl) _ hxpaths s
  rw [restoreKeys, answerTo]
  by_cases hrefused : KeyEscape.isRefused q.xpath
  · have hmem : (q.xpath, KeyEscape.encode q.xpath) ∈
        (Codebook.sectionNamed form options s).storedKeys :=
      Section.mem_storedKeys_iff.2
        ⟨q, Codebook.mem_questionsOf.2 hq, by simp [hnote, hrefused], rfl⟩
    obtain ⟨row', hxpath, hstored, heq⟩ := get?_foldl_of_mem hnd hmem (k := q.xpath)
      (fun row e he hne ↦ get?_restoreKey (hother e he hne).1 (hother e he hne).2.1)
      (fun row e he hne ↦ get?_restoreKey (hother e he hne).2.2.1 (hother e he hne).2.2.2) row
    rw [heq, get?_restoreKey_self row' (q.xpath, KeyEscape.encode q.xpath), hxpath, hstored,
      if_pos hrefused]
  · rw [if_neg hrefused, get?_foldl fun row e he ↦ ?_]
    · cases row.get? q.xpath <;> rfl
    · have hne : e ≠ (q.xpath, KeyEscape.encode q.xpath) := by
        rintro rfl
        obtain ⟨q', -, hcond, heq⟩ := Section.mem_storedKeys_iff.1 he
        rw [← (Prod.mk.inj heq).1] at hcond
        exact hrefused (Bool.and_eq_true_iff.1 hcond).2
      exact get?_restoreKey (hother e he hne).1 (hother e he hne).2.1

/-! ### Columns of other questions -/

/-- Splitting the geopoints of a section leaves the columns of a question of another type alone. -/
theorem get?_splitPoints_of_unshared (h : form.Unshared options s q) (htype : q.type ≠ .geopoint)
    {k : String} (hk : k ∈ form.ownKeys options q) (row : Row) :
    (splitPoints (Codebook.sectionNamed form options s).points row).get? k = row.get? k := by
  refine get?_splitPoints (fun p hp hmem ↦ ?_) row
  obtain ⟨q', hq', htype', rfl⟩ := Section.mem_points_iff.1 hp
  have hne : q' ≠ q := fun heq ↦ htype (heq ▸ htype')
  exact h.keys q' (Codebook.mem_questionsOf.1 hq') (by rw [htype']; rfl) hne k hk
    (Form.pointKey_mem_ownKeys htype' hmem)

/-- Splitting the answer to another question leaves the columns of a question alone. -/
theorem ne_of_mem_splits (h : form.Unshared options s q) {k : String}
    (hk : k ∈ form.ownKeys options q) {t : SplitQuestion}
    (ht : t ∈ (Codebook.sectionNamed form options s).splits)
    (hne : q.type = .selectMultiple →
      t ≠ ⟨q.xpath, if options.splitSelectMultiples then form.choiceColumns options q else []⟩) :
    k ≠ t.xpath ∧ ∀ c ∈ t.choices, k ≠ c.key := by
  obtain ⟨q', hq', htype', rfl⟩ := Section.mem_splits_iff.1 ht
  have hkey := h.keys q' (Codebook.mem_questionsOf.1 hq') (by rw [htype']; rfl)
    (fun heq ↦ hne (heq ▸ htype') (heq ▸ rfl)) k hk
  refine ⟨?_, fun c hc ↦ ?_⟩
  · rintro rfl
    exact hkey List.mem_cons_self
  · rintro rfl
    exact hkey (Form.choiceKey_mem_ownKeys htype' hc)

/-- A column of the section with the key of a column of the question is the question's. -/
theorem eq_of_mem_columns (h : form.Unshared options s q) {c : Column}
    (hc : c ∈ (Codebook.sectionNamed form options s).columns)
    (hkey : c.key ∈ form.ownKeys options q) :
    c = form.questionColumn options q ∨ c ∈ form.derivedColumns options q := by
  obtain ⟨q', hq', hnote', hcolumn⟩ := Section.exists_question_of_mem_columns hc
  by_cases heq : q' = q
  · exact heq ▸ hcolumn
  · refine absurd ?_ (h.keys q' (Codebook.mem_questionsOf.1 hq') hnote' heq _ hkey)
    rcases hcolumn with rfl | hmem
    · exact List.mem_cons_self
    · exact List.mem_cons_of_mem _ (List.mem_map_of_mem hmem)

variable (hxpaths : (form.questions.map (·.xpath)).Nodup) (h : form.Unshared options s q)
  (hq : form.Holds s q)

include hxpaths h hq

/-! ### Select-ones -/

/-- The name of a choice that is not labelled otherwise goes through the steps that work on
answers. -/
theorem get?_answered_selectOne (htype : q.type = .selectOne) {book : Codebook} {row : Row}
    {name : String} (hanswer : row.answerTo q = some (.text name))
    (hlabel : options.showChoiceLabels = true →
      labelledCell (book.choiceLabel? q.xpath) (.text name) = .text name) :
    (answered book options (Codebook.sectionNamed form options s) row).get? q.xpath =
      some (.text name) := by
  have hself : q.xpath ∈ form.ownKeys options q := List.mem_cons_self
  have hmultiple : q.type ≠ .selectMultiple := by simp [htype]
  have hparted : (parted book options (Codebook.sectionNamed form options s) row).get? q.xpath =
      some (.text name) := by
    rw [parted, get?_splitPoints_of_unshared h (by simp [htype]) hself,
      get?_ite_split fun _ t ht ↦ ne_of_mem_splits h hself ht fun heq ↦ absurd heq hmultiple,
      get?_restoreKeys_self hxpaths h hq (by rw [htype]; rfl), hanswer]
  rw [answered, get?_ite_label fun hshow x _ row' hrow ↦ ?_, hparted]
  rw [hparted] at hrow ⊢
  by_cases hx : x = q.xpath
  · rw [hx, get?_labelOne_self, hrow, Option.map_some, hlabel hshow]
  · rw [get?_labelOne (Ne.symm hx), hrow]

/-- **A select-one keeps the name of a choice** that is not labelled otherwise, and in which no
reference begins. -/
theorem get?_normalize_selectOne (htype : q.type = .selectOne) {book : Codebook} {row : Row}
    {name : String} (hanswer : row.answerTo q = some (.text name))
    (hlabel : options.showChoiceLabels = true →
      labelledCell (book.choiceLabel? q.xpath) (.text name) = .text name)
    (hreference : ¬ ['$', '{'] <:+: name.toList) :
    (row.normalize book options (Codebook.sectionNamed form options s)).get? q.xpath =
      some (.text name) := by
  have htyped := get?_typed_of_answered (fun heq ↦ h.metadata (heq ▸ List.mem_cons_self))
    (fun c hc hkey ↦ .inr ?_) (get?_answered_selectOne hxpaths h hq htype hanswer hlabel)
  · rw [normalize, get?_substitute, htyped, Option.map_some,
      substituteCell_text _ hreference]
  · rcases eq_of_mem_columns h hc (hkey ▸ List.mem_cons_self) with rfl | hmem
    · exact Cell.coerce_eq_self (by simp [Form.questionColumn, htype]; rfl) _
    · simp [Form.derivedColumns, htype] at hmem

/-! ### Select-multiples -/

omit hxpaths hq in
/-- The select-ones of a section that are labelled are no columns of a select-multiple. -/
theorem ne_of_mem_labelledKeys (htype : q.type = .selectMultiple)
    (hsplit : options.splitSelectMultiples = true) {k x : String}
    (hk : k ∈ form.ownKeys options q)
    (hx : x ∈ labelledKeys options (Codebook.sectionNamed form options s)) : k ≠ x := by
  rw [labelledKeys, hsplit, if_pos rfl, List.append_nil] at hx
  obtain ⟨q', hq', htype', rfl⟩ := Section.mem_selectOnes_iff.1 hx
  rintro rfl
  exact h.keys q' (Codebook.mem_questionsOf.1 hq') (by rw [htype']; rfl)
    (fun heq ↦ by simp [← heq, htype'] at htype) _ hk List.mem_cons_self

/-- The column of a choice gets the choice's cell, and keeps it through the steps that work on
answers. -/
theorem get?_answered_choice (htype : q.type = .selectMultiple)
    (hsplit : options.splitSelectMultiples = true) {c : ChoiceColumn}
    (hc : c ∈ form.choiceColumns options q) (book : Codebook) (row : Row) :
    (answered book options (Codebook.sectionNamed form options s) row).get? c.key =
      some (choiceCell (.ofOptions options) ((shownChoice book options q.xpath c.name).getD c.name)
        c.name (row.answerTo q)) := by
  have hself : q.xpath ∈ form.ownKeys options q := List.mem_cons_self
  have hkey : c.key ∈ form.ownKeys options q :=
    Form.choiceKey_mem_ownKeys htype (by rwa [if_pos hsplit])
  have hmem : (⟨q.xpath, form.choiceColumns options q⟩ : SplitQuestion) ∈
      (Codebook.sectionNamed form options s).splits :=
    Section.mem_splits_iff.2 ⟨q, Codebook.mem_questionsOf.2 hq, htype, by rw [if_pos hsplit]⟩
  have hnd : (Codebook.sectionNamed form options s).splits.Nodup := by
    rw [Codebook.sectionNamed, Section.splits_ofQuestions]
    exact nodup_flatMap_ite SplitQuestion.xpath (fun _ ↦ rfl) _ hxpaths s
  have hother : ∀ k ∈ form.ownKeys options q, ∀ row : Row,
      ∀ t ∈ (Codebook.sectionNamed form options s).splits,
        t ≠ ⟨q.xpath, form.choiceColumns options q⟩ →
          (splitOne (.ofOptions options) (shownChoice book options) row t).get? k = row.get? k := by
    intro k hk row t ht hne
    have hkeys := ne_of_mem_splits h hk ht fun _ ↦ by rwa [if_pos hsplit]
    exact get?_splitOne hkeys.1 hkeys.2
  obtain ⟨row', -, hanswer, heq⟩ := get?_foldl_of_mem hnd hmem (hother _ hkey) (hother _ hself)
    (restoreKeys (Codebook.sectionNamed form options s).storedKeys row)
  rw [get?_restoreKeys_self hxpaths h hq (by rw [htype]; rfl)] at hanswer
  rw [answered, get?_ite_label fun _ x hx row' hrow ↦
      (get?_labelOne (ne_of_mem_labelledKeys h htype hsplit hkey hx)).trans hrow,
    parted, get?_splitPoints_of_unshared h (by simp [htype]) hkey, if_pos hsplit, split, heq,
    get?_splitOne_choice (fun c hc d hd ↦ Form.choiceName_eq hc hd) hc, hanswer]

/-- **The column of a choice has the choice's cell**, but for references in it. -/
theorem get?_normalize_choice (htype : q.type = .selectMultiple)
    (hsplit : options.splitSelectMultiples = true) {c : ChoiceColumn}
    (hc : c ∈ form.choiceColumns options q) (book : Codebook) (row : Row) :
    (row.normalize book options (Codebook.sectionNamed form options s)).get? c.key =
      some (substituteCell (typed book options (Codebook.sectionNamed form options s) row)
        (choiceCell (.ofOptions options) ((shownChoice book options q.xpath c.name).getD c.name)
          c.name (row.answerTo q))) := by
  have hkey : c.key ∈ form.ownKeys options q :=
    Form.choiceKey_mem_ownKeys htype (by rwa [if_pos hsplit])
  have hne : c.key ≠ q.xpath := by
    obtain ⟨choice, -, rfl⟩ := List.mem_map.1 hc
    exact Form.choiceKey_ne q.xpath choice.name
  have htime : c.key ≠ MetaKey.submissionTime := by
    obtain ⟨choice, -, rfl⟩ := List.mem_map.1 hc
    intro heq
    have hslash : '/' ∈ MetaKey.submissionTime.toList := by
      rw [← heq]
      simp
    exact absurd hslash (by decide)
  have htyped := get?_typed_of_answered htime (fun d hd hdkey ↦ .inr ?_)
    (get?_answered_choice hxpaths h hq htype hsplit hc book row)
  · rw [normalize, get?_substitute, htyped, Option.map_some]
  · rcases eq_of_mem_columns h hd (hdkey ▸ hkey) with rfl | hmem
    · exact absurd hdkey.symm hne
    · simp only [Form.derivedColumns, htype, hsplit, if_true] at hmem
      obtain ⟨choice, -, rfl⟩ := List.mem_map.1 hmem
      exact Cell.coerce_eq_self rfl _

omit hxpaths h hq in
/-- The cell of a choice that is selected. -/
theorem choiceCell_of_mem_selected {answer : Option Cell} {name : String}
    (hmem : name ∈ selected (answer.filter (!·.isNull))) (policy : SplitPolicy) (text : String) :
    choiceCell policy text name answer = policy.cell true true text := by
  have hgiven : (answer.filter (!·.isNull)).isSome = true := by
    cases hanswer : answer.filter (!·.isNull) with
    | some c => rfl
    | none => simp [hanswer, selected] at hmem
  simp only [choiceCell, hgiven, List.contains_iff_mem.2 hmem]

end Row

end SurveyExport
