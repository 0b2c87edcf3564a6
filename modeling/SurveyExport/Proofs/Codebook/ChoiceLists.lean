import SurveyExport.Proofs.WideTable.Cells

/-!
# The two choice lists of a select-multiple

The choices of a question are looked up twice: for the columns that a select-multiple is split into
(`Form.splitChoices`), and for the labels of answers (`Form.choicesOf`). Both look-ups take the
shared list if the question reads one, and else the question's own choices. If there are none of
these, the second falls back on the shared list that the question names, and the first does not
(`Form.choicesOf_eq_ite`).

`Form.Overlooks` says of which questions the columns overlook such a list. For all others the two
lists are the same one, while a question with an overlooked list is split into no columns at all
(`Codebook.map_name_choices_iff`).
-/

namespace SurveyExport

namespace Form

variable {form : Form} {options : Options} {q : Question}

/-- The columns of a question overlook the choices that its answers are looked up in: it has no own
choices and names a shared list, but asks neither for a part of the list nor for random order. -/
structure Overlooks (form : Form) (q : Question) : Prop where
  choices : q.choices = []
  unfiltered : q.choiceFilter = none
  ordered : q.randomize = false
  /-- The shared list is there and has choices. -/
  shared : ∃ choices, q.itemset.bind form.itemsets.get? = some choices ∧ choices ≠ []

/-- The look-up for answers differs from that for columns by what it does without own choices. -/
theorem choicesOf_eq_ite : form.choicesOf q =
    if q.choices = [] ∧ q.usesItemset = false then (q.itemset.bind form.itemsets.get?).getD []
    else form.splitChoices q := by
  rw [choicesOf, splitChoices]
  cases huses : q.usesItemset with
  | true =>
    cases hshared : q.itemset.bind form.itemsets.get? with
    | some choices => simp
    | none => by_cases hchoices : q.choices = [] <;> simp [hchoices]
  | false => by_cases hchoices : q.choices = [] <;> simp [hchoices]

/-- When the columns overlook a list: the question is split into nothing, but its answers are looked
up in choices. -/
theorem overlooks_iff :
    form.Overlooks q ↔ form.splitChoices q = [] ∧ form.choicesOf q ≠ [] := by
  rw [choicesOf_eq_ite]
  constructor
  · rintro ⟨hchoices, hfilter, horder, choices, hshared, hne⟩
    have huses : q.usesItemset = false := by simp [Question.usesItemset, hfilter, horder]
    exact ⟨by simp [splitChoices, huses, hchoices], by simpa [huses, hchoices, hshared] using hne⟩
  · rintro ⟨hnil, hne⟩
    split at hne
    · rename_i hcond
      obtain ⟨hchoices, huses⟩ := hcond
      cases hshared : q.itemset.bind form.itemsets.get? with
      | none => simp [hshared] at hne
      | some choices =>
        obtain ⟨name, hname, -⟩ := Option.bind_eq_some_iff.1 hshared
        have hplain : q.choiceFilter = none ∧ q.randomize = false := by
          simpa [Question.usesItemset, hname, hchoices] using huses
        exact ⟨hchoices, hplain.1, hplain.2, choices, hshared, by simpa [hshared] using hne⟩
    · exact absurd hnil hne

/-- **The two look-ups give the same list** just if the columns overlook none. -/
theorem choicesOf_eq_splitChoices_iff :
    form.choicesOf q = form.splitChoices q ↔ ¬ form.Overlooks q := by
  constructor
  · rintro heq hover
    obtain ⟨hnil, hne⟩ := overlooks_iff.1 hover
    exact hne (heq.trans hnil)
  · intro hnot
    by_cases hnil : form.splitChoices q = []
    · by_contra hne
      exact hnot (overlooks_iff.2 ⟨hnil, fun h ↦ hne (h.trans hnil.symm)⟩)
    · rw [choicesOf_eq_ite, if_neg]
      rintro ⟨hchoices, huses⟩
      exact hnil (by simp [splitChoices, huses, hchoices])

/-- The choices that answers are looked up in are those that a question is split into, if it is
split into any. -/
theorem choicesOf_eq {choice : Choice} (hchoice : choice ∈ form.splitChoices q) :
    form.choicesOf q = form.splitChoices q :=
  choicesOf_eq_splitChoices_iff.2 fun hover ↦
    List.ne_nil_of_mem hchoice (overlooks_iff.1 hover).1

theorem map_name_choiceColumns (form : Form) (options : Options) (q : Question) :
    (form.choiceColumns options q).map (·.name) = (form.splitChoices q).map (·.name) := by
  simp [choiceColumns, Function.comp_def]

end Form

namespace Codebook

variable {form : Form} {options : Options} {book : Codebook} {q : Question}

/-- What questions with other xpaths ask to be split is split under other xpaths. -/
theorem filter_splitsOf_eq_nil {x : String} {questions : List Question}
    (h : ∀ q ∈ questions, q.xpath ≠ x) :
    (questions.flatMap (splitsOf form options)).filter (·.xpath == x) = [] := by
  refine List.filter_eq_nil_iff.2 fun t ht ↦ ?_
  obtain ⟨q, hq, ht⟩ := List.mem_flatMap.1 ht
  rw [splitsOf] at ht
  split at ht
  · obtain rfl := List.mem_singleton.1 ht
    simpa using h q hq
  · cases ht

/-- A select-multiple is split once. -/
theorem filter_splits_made (hnames : (form.name :: form.repeats).Nodup)
    (hxpaths : (form.questions.map (·.xpath)).Nodup) (hsplit : options.splitSelectMultiples = true)
    (hq : q ∈ form.questions) (htype : q.type = .selectMultiple) :
    (made form options).splits.filter (·.xpath == q.xpath) =
      [⟨q.xpath, form.choiceColumns options q⟩] := by
  have hnd := nodup_placedQuestions hnames hxpaths
  obtain ⟨before, after, hplaced⟩ := List.append_of_mem (mem_placedQuestions.2 hq)
  rw [hplaced] at hnd
  have hbefore : ∀ q' ∈ before, q'.xpath ≠ q.xpath := fun q' hq' ↦
    Row.ne_of_nodup_map hnd (.inl hq')
  have hafter : ∀ q' ∈ after, q'.xpath ≠ q.xpath := fun q' hq' ↦
    Row.ne_of_nodup_map hnd (.inr hq')
  rw [splits_made, hplaced, List.flatMap_append, List.flatMap_cons, List.filter_append,
    List.filter_append, filter_splitsOf_eq_nil hbefore, filter_splitsOf_eq_nil hafter]
  simp [splitsOf, htype, hsplit]

/-- **When the two choice lists of a select-multiple agree.** It is split once; the names of its
columns' choices are, in order, those of the choices that its answers are looked up in, just if the
columns overlook no shared list. If they overlook one, there are no columns for its choices. -/
theorem map_name_choices_iff (hbook : ofForm form options = .ok book)
    (hsplit : options.splitSelectMultiples = true) (hq : q ∈ form.questions)
    (htype : q.type = .selectMultiple) :
    ∃ t, book.splits.filter (·.xpath == q.xpath) = [t] ∧
      (t.choices.map (·.name) = (book.form.choicesOf q).map (·.name) ↔ ¬ form.Overlooks q) ∧
      (form.Overlooks q ↔ t.choices = [] ∧ book.form.choicesOf q ≠ []) := by
  obtain ⟨rfl, -, hnames, hxpaths, -⟩ := ofForm_eq_ok_iff.1 hbook
  have hover : form.Overlooks q ↔
      form.choiceColumns options q = [] ∧ form.choicesOf q ≠ [] := by
    rw [Form.overlooks_iff, Form.choiceColumns, List.map_eq_nil_iff]
  refine ⟨_, filter_splits_made hnames hxpaths hsplit hq htype, ?_, hover⟩
  rw [Form.map_name_choiceColumns]
  constructor
  · rintro hagree hboth
    obtain ⟨hnil, hne⟩ := Form.overlooks_iff.1 hboth
    rw [hnil, List.map_nil] at hagree
    exact hne (List.map_eq_nil_iff.1 hagree.symm)
  · exact fun hnot ↦ congrArg _ (Form.choicesOf_eq_splitChoices_iff.2 hnot).symm

/-- A form whose only question takes its choices from a shared list. -/
def cropForm : Form where
  name := "visit"
  children := [.question
    { name := "crops", xpath := "crops", type := .selectMultiple, itemset := some "crops" }]
  itemsets := KeyMap.ofList [("crops", [{ name := "maize" }, { name := "beans" }])]

/-- The question of the form is split into no columns, though there are choices for its answers. -/
theorem map_name_choices_iff_cropForm :
    ofForm cropForm {} = .ok (made cropForm {}) ∧
      ∃ q ∈ cropForm.questions, q.type = .selectMultiple ∧ cropForm.Overlooks q ∧
        ∃ t, (made cropForm {}).splits.filter (·.xpath == q.xpath) = [t] ∧
          t.choices.map (·.name) = [] ∧
          (cropForm.choicesOf q).map (·.name) = ["maize", "beans"] ∧
          t.choices.map (·.name) ≠ (cropForm.choicesOf q).map (·.name) := by
  have hbook : ofForm cropForm {} = .ok (made cropForm {}) :=
    ofForm_eq_ok_iff.2 ⟨rfl, by decide, by decide, by decide, by decide⟩
  have hover : cropForm.Overlooks
      { name := "crops", xpath := "crops", type := .selectMultiple, itemset := some "crops" } :=
    Form.overlooks_iff.2 ⟨by decide, by decide⟩
  obtain ⟨t, hfilter, hagree, hnone⟩ := map_name_choices_iff hbook rfl List.mem_cons_self rfl
  exact ⟨hbook, _, List.mem_cons_self, rfl, hover, t, hfilter,
    List.map_eq_nil_iff.2 (hnone.1 hover).1, by decide, fun heq ↦ hagree.1 heq hover⟩

end Codebook

end SurveyExport
