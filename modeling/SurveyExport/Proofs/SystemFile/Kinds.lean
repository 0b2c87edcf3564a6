import SurveyExport.Proofs.SystemFile.Choices

/-!
# Rows and labels fit the variables of a sheet

Whether a variable holds numbers or texts is decided by the conversion of its column, before any row
is seen. The value that stands in a case is made by the same conversion, so it is of that kind
whatever the cell holds, and no row is refused for the kinds or the number of its values.

The values that have labels are made apart from that, from the names of choices: numbers for a
conversion to numbers, and texts for every other one. A conversion to dates would go wrong, since it
makes a variable for numbers; but labels belong to select-ones, and these are never converted to
dates (`SystemFile.conversionOf_of_selectOne`, `SystemFile.suits_valueLabel`).

* `SystemFile.holdsRows_of_sheetVariables?`: rows and labels fit, for every sheet of a codebook, and
  whichever way select-multiples are split.
-/

namespace SurveyExport

open SystemFile (Variable Conversion conversionOf variableOf sheetVariables?)

/-- A question's own column on a sheet is that of a question of the form. -/
theorem Sheet.exists_question_of_mem_columns {form : Form} {options layout : Options}
    {naming : SheetNaming} {s : Sheet} {c : Column}
    (hs : s ∈ Sheet.ofCodebook (Codebook.made form options) layout naming)
    (hc : c ∈ s.columns) (horigin : c.origin = .question) :
    ∃ q ∈ form.questions, c = form.questionColumn options q := by
  obtain ⟨e, he, rfl⟩ := List.mem_map.1 hs
  obtain ⟨-, hsection⟩ := Codebook.eq_sectionNamed_of_mem (List.of_mem_zip he).1
  rcases List.mem_append.1 (List.mem_filter.1 hc).1 with hc | hc
  · have hown : c ∈ e.1.questionColumns := List.mem_filter.2 ⟨hc, by simp [horigin]⟩
    rw [hsection, Codebook.sectionNamed, Section.questionColumns_ofQuestions] at hown
    obtain ⟨q, hq, rfl⟩ := List.mem_map.1 hown
    exact ⟨q, (Codebook.mem_questionsOf.1 (List.mem_filter.1 hq).1).mem_questions, rfl⟩
  · obtain ⟨key, -, rfl⟩ := List.mem_map.1 hc
    cases horigin

namespace SystemFile

/-- A select-one's own column is converted to numbers or to texts. -/
theorem conversionOf_of_selectOne {form : Form} {options layout : Options} {naming : SheetNaming}
    {policy : SplitPolicy} {s : Sheet} {c : Column} {q : Question}
    (hxpaths : (form.questions.map (·.xpath)).Nodup)
    (hs : s ∈ Sheet.ofCodebook (Codebook.made form options) layout naming) (hc : c ∈ s.columns)
    (horigin : c.origin = .question)
    (hget : (Codebook.made form options).questions.get? c.key = some q)
    (htype : q.type = .selectOne) :
    conversionOf (Codebook.made form options) policy c = .number ∨
      conversionOf (Codebook.made form options) policy c = .text := by
  -- the question under the column's key is the one that the column is made of
  obtain ⟨q', hq', rfl⟩ := Sheet.exists_question_of_mem_columns hs hc horigin
  have hget' := Codebook.get?_questions_made options hxpaths hq'
  obtain rfl : q' = q := Option.some.inj (hget'.symm.trans hget)
  have hkind : conversionOf (Codebook.made form options) policy (form.questionColumn options q') =
      if isNumericSelectOne form q' then .number else .text :=
    conversionOf_questionColumn hget' htype
  rw [hkind]
  split
  · exact .inl rfl
  · exact .inr rfl

/-- A label is for a value of the kind that the variable holds, as long as no select-one is
converted to dates. -/
theorem suits_valueLabel {book : Codebook} {c : Column} {conversion : Conversion}
    (h : ∀ q, c.origin = .question → book.questions.get? c.key = some q → q.type = .selectOne →
      conversion = .number ∨ conversion = .text) {name : String} {l : ValueLabel}
    (hl : l ∈ (variableOf book conversion c name).valueLabels) :
    (variableOf book conversion c name).Suits l.value := by
  simp only [variableOf, valueLabelsOf] at hl
  split at hl
  · rename_i q horigin hget
    split at hl
    · rename_i htype
      obtain ⟨choice, -, rfl⟩ := List.mem_map.1 hl
      rcases h q horigin hget htype with rfl | rfl
      · rfl
      · exact fun htext ↦ by cases htext
    · cases hl
  · cases hl

/-- **Rows and labels fit the variables** of a sheet with their conversions. -/
structure HoldsRows (s : Sheet) (vs : List (Variable × Conversion)) : Prop where
  /-- The values of a row are as many as the variables, and each is of the kind of its variable. -/
  suits : ∀ d : SystemDraft, d.conversions = vs.map (·.2) → ∀ row,
    Suits (vs.map (·.1)) (d.caseOf s row)
  /-- So a file with these variables takes every row, whatever it holds already, until no case is
  left to count. -/
  answer : ∀ d : SystemDraft, d.conversions = vs.map (·.2) → d.draft.vars = vs.map (·.1) → ∀ row,
    (d.addRow s row).1 =
      if d.draft.count < maxCases then .ok () else .error (.systemFile .tooManyCases)
  /-- Each value that has a label is of the kind of its variable. -/
  labels : ∀ v ∈ vs.map (·.1), ∀ l ∈ v.valueLabels, v.Suits l.value

/-- **The variables of every sheet hold its rows**, for every form that has a codebook, all options,
and every way to split select-multiples. -/
theorem holdsRows_of_sheetVariables? {form : Form} {options : Options} {book : Codebook}
    (hbook : Codebook.ofForm form options = .ok book) {layout : Options} {naming : SheetNaming}
    {s : Sheet} (hs : s ∈ Sheet.ofCodebook book layout naming) {draw : ℕ → String} {limit : ℕ}
    {policy : SplitPolicy} {vs : List (Variable × Conversion)}
    (hvs : sheetVariables? draw limit book policy s = some vs) : HoldsRows s vs := by
  obtain ⟨rfl, -, -, hxpaths, -⟩ := Codebook.ofForm_eq_ok_iff.1 hbook
  have hforall := forall₂_variablesAfter? hvs
  have hsuits : ∀ d : SystemDraft, d.conversions = vs.map (·.2) → ∀ row,
      Suits (vs.map (·.1)) (d.caseOf s row) := fun _ hconversions row ↦
    SystemDraft.suits_caseOf_of_isVariableOf hforall hconversions row
  refine ⟨hsuits, fun d hconversions hvars row ↦ ?_, fun v hv l hl ↦ ?_⟩
  · have hcase : Suits d.draft.vars (d.caseOf s row) := hvars ▸ hsuits d hconversions row
    rw [SystemDraft.addRow]
    split
    · rename_i hcount
      rw [Draft.addCase_of_suits hcase hcount]
      rfl
    · rename_i hfull
      rw [Draft.addCase_of_full hcase (Nat.le_of_not_lt hfull)]
      rfl
  · obtain ⟨e, he, rfl⟩ := List.mem_map.1 hv
    obtain ⟨i, hi, rfl⟩ := List.mem_iff_getElem.1 he
    have hi' : i < s.columns.length := hforall.length_eq.symm ▸ hi
    obtain ⟨hconversion, name, hname⟩ := hforall.get hi' hi
    simp only [List.get_eq_getElem] at hconversion hname
    rw [hname] at hl ⊢
    refine suits_valueLabel (fun q horigin hget htype ↦ ?_) hl
    rw [hconversion]
    exact conversionOf_of_selectOne hxpaths hs (List.getElem_mem hi') horigin hget htype

/-- A form with select-ones of both kinds, a date and a geopoint. -/
def patientForm : Form where
  name := "visit"
  children := [
    .question { name := "rating", xpath := "rating", type := .selectOne,
                choices := [⟨"1", none⟩, ⟨"2", none⟩] },
    .question { name := "code", xpath := "code", type := .selectOne,
                choices := [⟨"01", none⟩, ⟨"2020-01-01", none⟩] },
    .question { name := "dob", xpath := "dob", type := .date },
    .question { name := "gps", xpath := "gps", type := .geopoint }]

/-- The sheet of its root section. -/
def patientSheet : Sheet :=
  .ofSection (Codebook.made patientForm {}) {} (Codebook.sectionNamed patientForm {} "visit")
    "visit"

/-- The variables of that sheet hold its rows. -/
theorem holdsRows_patientForm :
    Codebook.ofForm patientForm {} = .ok (Codebook.made patientForm {}) ∧
      patientSheet ∈ Sheet.ofCodebook (Codebook.made patientForm {}) {} .file ∧
      ∃ vs, sheetVariables? (fun _ ↦ "00ff") 1 (Codebook.made patientForm {}) .boolean
        patientSheet = some vs ∧ HoldsRows patientSheet vs := by
  have hbook : Codebook.ofForm patientForm {} = .ok (Codebook.made patientForm {}) :=
    Codebook.ofForm_eq_ok_iff.2 ⟨rfl, by decide, by decide, by decide, by decide⟩
  have hsheet : patientSheet ∈ Sheet.ofCodebook (Codebook.made patientForm {}) {} .file :=
    List.mem_singleton.2 rfl
  have hends : (sheetVariables? (fun _ ↦ "00ff") 1 (Codebook.made patientForm {}) .boolean
      patientSheet).isSome := by decide +kernel
  obtain ⟨vs, hvs⟩ := Option.isSome_iff_exists.1 hends
  exact ⟨hbook, hsheet, vs, hvs, holdsRows_of_sheetVariables? hbook hsheet hvs⟩

end SystemFile

end SurveyExport
