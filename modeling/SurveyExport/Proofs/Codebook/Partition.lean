import Mathlib.Data.List.Pairwise
import SurveyExport.Proofs.Codebook.Check
import SurveyExport.Proofs.Codebook.Columns

/-!
# The codebook partitions the questions of its form

The sections of a codebook are the root and one for each repeated group, and every question that has
a column at all has it in the one section that it lies in.

* `Codebook.Partitions` is the law, said by the tree of the form and the columns of the codebook.
* `Codebook.partitions_ofForm` proves it for every form that has a codebook. What the order of the
  columns rests on is `Codebook.questionsOf_sublist`; that nothing is placed twice rests on the
  check that refuses a second question, or a second section, with the same xpath.
-/

namespace SurveyExport

namespace Codebook

/-- A codebook partitions the questions of a form. -/
structure Partitions (form : Form) (options : Options) (book : Codebook) : Prop where
  /-- The sections are the root section and then one for each repeated group, in pre-order. -/
  names : book.sections.map (·.name) = form.name :: form.repeats
  /-- No two sections have the same name. -/
  names_nodup : (book.sections.map (·.name)).Nodup
  /-- The question columns of a section are columns of questions other than notes, in the order in
  which the form declares these. -/
  ordered : ∀ s ∈ book.sections, s.questionColumns.Sublist
    ((form.questions.filter fun q ↦ !q.type.isNote).map (form.questionColumn options))
  /-- A question other than a note has its column in the section that it lies in. -/
  placed : ∀ s q, form.Holds s q → q.type.isNote = false →
    ∃ t ∈ book.sections, t.name = s ∧ form.questionColumn options q ∈ t.questionColumns
  /-- Among all sections there is just one question column with its xpath. -/
  once : ∀ q ∈ form.questions, q.type.isNote = false →
    (book.sections.flatMap fun s ↦ s.questionColumns.map (·.key)).count q.xpath = 1
  /-- A note has no question column anywhere. -/
  notes : ∀ q ∈ form.questions, q.type.isNote = true →
    ∀ s ∈ book.sections, q.xpath ∉ s.questionColumns.map (·.key)
  /-- The column of a choice or component names a question of the same section, whose column stands
  before it. -/
  grounded : ∀ s ∈ book.sections, Section.Grounded s.columns

variable {form : Form} {options : Options} {book : Codebook}

/-- The keys of the question columns of a section. -/
theorem map_key_questionColumns (s : String) :
    (sectionNamed form options s).questionColumns.map (·.key) =
      ((questionsOf form s).filter fun q ↦ !q.type.isNote).map (·.xpath) := by
  rw [sectionNamed, Section.questionColumns_ofQuestions, List.map_map]
  rfl

/-- Questions of a form with the same xpath are the same. -/
theorem eq_of_xpath_eq (hnd : (form.questions.map (·.xpath)).Nodup) {q q' : Question}
    (hq : q ∈ form.questions) (hq' : q' ∈ form.questions) (h : q.xpath = q'.xpath) : q = q' :=
  List.inj_on_of_nodup_map hnd hq hq' h

/-- A question lies in one section only. -/
theorem holds_unique (hnd : (form.questions.map (·.xpath)).Nodup) {s t : String} {q : Question}
    (hs : form.Holds s q) (ht : form.Holds t q) : s = t := by
  have hquestions : ((placements form).filterMap Placement.question?).Nodup := by
    rw [filterMap_question?_placements]
    exact hnd.of_map _
  -- two different places of the question would give it twice among the questions
  have hplace := Node.eq_of_nodup_filterMap hquestions (Node.question_mem_placementsOfAll.2 hs)
    (Node.question_mem_placementsOfAll.2 ht) rfl rfl
  exact (Placement.question.inj hplace).1

/-- Xpaths of questions that lie in a section, listed section by section, repeat nothing. -/
theorem nodup_flatMap_names (hnames : (form.name :: form.repeats).Nodup)
    (hnd : (form.questions.map (·.xpath)).Nodup) {xpathsOf : String → List String}
    (h : ∀ s, (xpathsOf s).Sublist ((questionsOf form s).map (·.xpath))) :
    ((form.name :: form.repeats).flatMap xpathsOf).Nodup := by
  rw [List.nodup_flatMap]
  refine ⟨fun s _ ↦ hnd.sublist ((h s).trans ((questionsOf_sublist form s).map _)),
    hnames.imp fun {s t} hne x hx hx' ↦ ?_⟩
  obtain ⟨q, hq, rfl⟩ := List.mem_map.1 ((h s).subset hx)
  obtain ⟨q', hq', heq⟩ := List.mem_map.1 ((h t).subset hx')
  have hs : form.Holds s q := mem_questionsOf.1 hq
  have ht : form.Holds t q' := mem_questionsOf.1 hq'
  obtain rfl := eq_of_xpath_eq hnd ht.mem_questions hs.mem_questions heq
  exact hne (holds_unique hnd hs ht)

/-- No xpath has question columns in two sections, or two of them in one. -/
theorem nodup_keys_questionColumns (hnames : (form.name :: form.repeats).Nodup)
    (hnd : (form.questions.map (·.xpath)).Nodup) :
    ((made form options).sections.flatMap fun s ↦ s.questionColumns.map (·.key)).Nodup := by
  rw [sections_made, List.flatMap_map]
  refine nodup_flatMap_names hnames hnd fun s ↦ ?_
  rw [map_key_questionColumns]
  exact List.filter_sublist.map _

/-- The section in which something lies is a section of the codebook. -/
theorem mem_names_of_holds {s : String} {q : Question} (h : form.Holds s q) :
    s ∈ form.name :: form.repeats :=
  List.mem_cons.2 (Node.LiesIn.section_eq_or_mem h)

/-- **The codebook of a form partitions its questions.** -/
theorem partitions_ofForm (h : ofForm form options = .ok book) : Partitions form options book := by
  obtain ⟨rfl, -, hnames, hnd, -⟩ := ofForm_eq_ok_iff.1 h
  refine ⟨map_name_sections_made, by rwa [map_name_sections_made], ?_, ?_, ?_, ?_, ?_⟩
  case refine_1 =>
    intro t ht
    obtain ⟨-, htn⟩ := eq_sectionNamed_of_mem ht
    rw [htn, sectionNamed, Section.questionColumns_ofQuestions]
    exact ((questionsOf_sublist form t.name).filter _).map _
  case refine_2 =>
    intro s q hq hnote
    refine ⟨sectionNamed form options s, ?_, name_sectionNamed form options s, ?_⟩
    · rw [sections_made]
      exact List.mem_map_of_mem (mem_names_of_holds hq)
    · rw [sectionNamed, Section.questionColumns_ofQuestions]
      exact List.mem_map_of_mem (List.mem_filter.2 ⟨mem_questionsOf.2 hq, by simp [hnote]⟩)
  case refine_3 =>
    intro q hq hnote
    refine List.count_eq_one_of_mem (nodup_keys_questionColumns hnames hnd) ?_
    obtain ⟨s, hs⟩ := Form.exists_holds hq
    rw [sections_made, List.flatMap_map]
    refine List.mem_flatMap.2 ⟨s, mem_names_of_holds hs, ?_⟩
    rw [map_key_questionColumns]
    exact List.mem_map_of_mem (List.mem_filter.2 ⟨mem_questionsOf.2 hs, by simp [hnote]⟩)
  case refine_4 =>
    intro q hq hnote t ht hmem
    obtain ⟨-, htn⟩ := eq_sectionNamed_of_mem ht
    rw [htn, map_key_questionColumns] at hmem
    obtain ⟨q', hq', heq⟩ := List.mem_map.1 hmem
    obtain ⟨hin, hnote'⟩ := List.mem_filter.1 hq'
    -- the column would be that of a question with the note's xpath, which is the note itself
    obtain rfl := eq_of_xpath_eq hnd (mem_questionsOf.1 hin).mem_questions hq heq
    simp [hnote] at hnote'
  case refine_5 =>
    intro t ht
    obtain ⟨-, htn⟩ := eq_sectionNamed_of_mem ht
    rw [htn]
    exact Section.grounded_ofQuestions _ _

/-- A form in which the root section goes on after a repeated group inside a repeated group. -/
def sampleForm : Form where
  name := "visit"
  children := [
    .group .repeated "kids" "kids" none [
      .question { name := "name", xpath := "kids/name", type := .text },
      .group .repeated "pets" "kids/pets" none [
        .question { name := "hint", xpath := "kids/pets/hint", type := .note },
        .question { name := "kind", xpath := "kids/pets/kind", type := .text }],
      .question { name := "likes", xpath := "kids/likes", type := .selectMultiple,
                  choices := [⟨"tea", none⟩, ⟨"milk", none⟩] }],
    .group .once "place" "place" none [
      .question { name := "gps", xpath := "place/gps", type := .geopoint }]]

/-- The sample form has a codebook, and its questions are partitioned. -/
theorem partitions_sampleForm :
    ofForm sampleForm {} = .ok (made sampleForm {}) ∧
      Partitions sampleForm {} (made sampleForm {}) := by
  have h : ofForm sampleForm {} = .ok (made sampleForm {}) :=
    ofForm_eq_ok_iff.2 ⟨rfl, by decide, by decide, by decide, by decide⟩
  exact ⟨h, partitions_ofForm h⟩

end Codebook

end SurveyExport
