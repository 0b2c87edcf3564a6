import Mathlib.Data.List.Nodup
import SurveyExport.Proofs.Form.Tree

/-!
# Which forms have a codebook

A codebook is refused for four reasons, and made otherwise. `Placement.check_eq_ok_iff` says exactly
when the visit of a form passes: the sections that are opened are new and distinct, and the
questions have names and distinct xpaths. `Codebook.ofForm_eq_ok_iff` lifts this to the form and
says which codebook is made; from there on a codebook is read through `Codebook.sections_made`,
`Codebook.section?_made` and `Codebook.mem_questionsOf`.
-/

namespace SurveyExport

namespace Placement

/-- The check passes just if sections and question xpaths are new and distinct, and every question
has a name. -/
theorem check_eq_ok_iff {sections xpaths : List String} {ps : List Placement} :
    check sections xpaths ps = .ok () ↔
      ((ps.filterMap opens?).Nodup ∧ ∀ x ∈ ps.filterMap opens?, x ∉ sections) ∧
      (((ps.filterMap question?).map (·.xpath)).Nodup ∧
        ∀ q ∈ ps.filterMap question?, q.xpath ∉ xpaths) ∧
      ∀ q ∈ ps.filterMap question?, q.name ≠ "" := by
  induction ps generalizing sections xpaths with
  | nil => simp [check]
  | cons p rest ih =>
    cases p with
    | opens x =>
      simp only [check, List.contains_iff_mem]
      split
      · rename_i hx
        simp [opens?, hx]
      · rename_i hx
        -- the rest must not open `x` again, which is the first half of a list without repetitions
        rw [ih]
        simp only [List.filterMap_cons, opens?, question?, List.nodup_cons, List.mem_cons,
          forall_eq_or_imp, not_or]
        constructor
        · rintro ⟨⟨hnd, hnew⟩, hq, hname⟩
          exact ⟨⟨⟨fun h ↦ (hnew x h).1 rfl, hnd⟩, hx, fun y hy ↦ (hnew y hy).2⟩, hq, hname⟩
        · rintro ⟨⟨⟨hx', hnd⟩, -, hnew⟩, hq, hname⟩
          exact ⟨⟨hnd, fun y hy ↦ ⟨fun h ↦ hx' (h ▸ hy), hnew y hy⟩⟩, hq, hname⟩
    | question owner q =>
      simp only [check, List.contains_iff_mem, String.isEmpty_iff]
      split
      · rename_i hname
        simp [question?, hname]
      · rename_i hname
        split
        · rename_i hx
          simp [question?, hx]
        · rename_i hx
          rw [ih]
          simp only [List.filterMap_cons, opens?, question?, List.map_cons, List.nodup_cons,
            List.mem_cons, forall_eq_or_imp, not_or]
          constructor
          · rintro ⟨hs, ⟨hnd, hnew⟩, hnames⟩
            refine ⟨hs, ⟨⟨fun h ↦ ?_, hnd⟩, hx, fun q' hq' ↦ (hnew q' hq').2⟩, hname, hnames⟩
            obtain ⟨q', hq', heq⟩ := List.mem_map.1 h
            exact (hnew q' hq').1 heq
          · rintro ⟨hs, ⟨⟨hx', hnd⟩, -, hnew⟩, -, hnames⟩
            refine ⟨hs, ⟨hnd, fun q' hq' ↦ ⟨fun h ↦ hx' ?_, hnew q' hq'⟩⟩, hnames⟩
            exact List.mem_map.2 ⟨q', hq', h⟩

end Placement

namespace Codebook

variable {form : Form} {options : Options} {book : Codebook}

theorem filterMap_opens?_placements (form : Form) :
    (placements form).filterMap Placement.opens? = form.repeats :=
  Node.filterMap_opens?_placementsOfAll _ _

theorem filterMap_question?_placements (form : Form) :
    (placements form).filterMap Placement.question? = form.questions :=
  Node.filterMap_question?_placementsOfAll _ _

/-- The visit of a form passes just if its repeated groups have distinct xpaths other than the
form's name, and its questions have names and distinct xpaths. -/
theorem check_placements_eq_ok_iff :
    Placement.check [form.name] [] (placements form) = .ok () ↔
      (form.name :: form.repeats).Nodup ∧ (form.questions.map (·.xpath)).Nodup ∧
        ∀ q ∈ form.questions, q.name ≠ "" := by
  rw [Placement.check_eq_ok_iff, filterMap_opens?_placements, filterMap_question?_placements,
    List.nodup_cons]
  simp only [List.mem_singleton, List.not_mem_nil, not_false_eq_true, implies_true, and_true]
  constructor
  · rintro ⟨⟨hnd, hne⟩, h⟩
    exact ⟨⟨fun hmem ↦ hne _ hmem rfl, hnd⟩, h⟩
  · rintro ⟨⟨hmem, hnd⟩, h⟩
    exact ⟨⟨hnd, fun x hx hxe ↦ hmem (hxe ▸ hx)⟩, h⟩

/-- A form has a codebook just if it has a name, its repeated groups have distinct xpaths other than
that name, and its questions have names and distinct xpaths. -/
theorem ofForm_eq_ok_iff :
    ofForm form options = .ok book ↔
      book = made form options ∧ Text.trim form.name ≠ "" ∧
      (form.name :: form.repeats).Nodup ∧ (form.questions.map (·.xpath)).Nodup ∧
      ∀ q ∈ form.questions, q.name ≠ "" := by
  rw [← check_placements_eq_ok_iff, eq_comm (a := book)]
  -- the name of the form is looked at before the visit
  by_cases hname : Text.trim form.name = ""
  · simp [ofForm, hname, bind, Except.bind]
  · cases hres : Placement.check [form.name] [] (placements form) with
    | error e => simp [ofForm, hname, hres, bind, Except.bind]
    | ok u =>
      simp only [ofForm, hname, hres, bind, Except.bind, String.isEmpty_iff, if_false, pure,
        Except.pure, Except.ok.injEq, ne_eq, not_false_eq_true, and_true]

/-! ### Sections by their names -/

/-- The sections are made one by one from their names, the root first. -/
theorem sections_made :
    (made form options).sections = (form.name :: form.repeats).map (sectionNamed form options) := by
  rw [← filterMap_opens?_placements]
  rfl

/-- The questions of the codebook are those of the form, by their xpaths. -/
theorem questions_made : (made form options).questions =
    KeyMap.ofList (form.questions.map fun q ↦ (q.xpath, q)) := by
  rw [← filterMap_question?_placements]
  rfl

@[simp] theorem name_sectionNamed (form : Form) (options : Options) (s : String) :
    (sectionNamed form options s).name = s :=
  Section.name_ofQuestions _ _ _ _

theorem map_name_sections_made :
    (made form options).sections.map (·.name) = form.name :: form.repeats := by
  rw [sections_made, List.map_map]
  exact (List.map_congr_left fun s _ ↦ name_sectionNamed form options s).trans (List.map_id _)

/-- A section of the codebook is the one made from its name. -/
theorem eq_sectionNamed_of_mem {t : Section} (h : t ∈ (made form options).sections) :
    t.name ∈ form.name :: form.repeats ∧ t = sectionNamed form options t.name := by
  rw [sections_made] at h
  obtain ⟨s, hs, rfl⟩ := List.mem_map.1 h
  exact ⟨by simpa using hs, by simp⟩

/-- A section is found by its name, and no other name finds one. -/
theorem section?_made (form : Form) (options : Options) (s : String) :
    (made form options).section? s =
      if s ∈ form.name :: form.repeats then some (sectionNamed form options s) else none := by
  rw [section?, sections_made]
  induction form.name :: form.repeats with
  | nil => rfl
  | cons x rest ih =>
    rw [List.map_cons, List.find?_cons, ih]
    by_cases hx : x = s
    · simp [hx]
    · have hbeq : (x == s) = false := by simpa using hx
      simp [hbeq, Ne.symm hx]

/-- The questions of a section are those that lie in it. -/
theorem mem_questionsOf {s : String} {q : Question} :
    q ∈ questionsOf form s ↔ form.Holds s q := by
  rw [Form.Holds, ← Node.question_mem_placementsOfAll, questionsOf, List.mem_filterMap]
  constructor
  · rintro ⟨p, hp, hq⟩
    cases p with
    | opens => simp [Placement.questionOf?] at hq
    | question owner q' =>
      simp only [Placement.questionOf?] at hq
      split at hq
      · rename_i howner
        obtain rfl : q' = q := by simpa using hq
        exact howner ▸ hp
      · simp at hq
  · exact fun h ↦ ⟨_, h, by simp [Placement.questionOf?]⟩

/-- The questions of a section stand in declared order. -/
theorem questionsOf_sublist (form : Form) (s : String) :
    (questionsOf form s).Sublist form.questions := by
  rw [← filterMap_question?_placements, questionsOf]
  induction placements form with
  | nil => exact .slnil
  | cons p rest ih =>
    cases p with
    | opens => exact ih
    | question owner q =>
      simp only [List.filterMap_cons, Placement.questionOf?, Placement.question?]
      split
      · exact ih.cons _
      · rename_i heq
        split at heq
        · obtain rfl := Option.some.inj heq
          exact ih.cons_cons _
        · simp at heq

end Codebook

end SurveyExport
