import SurveyExport.Proofs.Codebook.Partition
import SurveyExport.WideTable.Group

/-!
# Slots and groups of a form

A slot or a column group goes through groups that occur once, and a repeated group keeps the slots
below it to itself. So the slots of a repeated group are those of the questions that its section
holds and of the repeated groups that it encloses (`Form.cell_mem_slots`,
`Form.instances_mem_slots`), and its slots are found under its xpath (`WideGroup.slots?_ofForm`).
-/

namespace SurveyExport

namespace Node

variable {form : Form} {options : Options}

/-! ### What lies directly in a forest -/

/-- In a section that no repeated group inside opens, nothing lies below those groups. -/
theorem liesIn_group_self_iff {owner name x : String} {occurrence : Occurrence}
    {label : Option Label} {children rest : List Node} {n : Node}
    (h : owner ∉ (preorderOfAll (.group occurrence name x label children :: rest)).filterMap
      repeated?) :
    LiesIn owner (.group occurrence name x label children :: rest) owner n ↔
      n = .group occurrence name x label children ∨
        (occurrence = .once ∧ LiesIn owner children owner n) ∨ LiesIn owner rest owner n := by
  rw [liesIn_cons_iff]
  cases occurrence with
  | once => simp [liesIn_group_iff, sectionBelow, or_assoc]
  | repeated =>
    -- what lies below the group lies in a section that is opened there
    have hbelow : ¬ LiesIn x children owner n := fun hn ↦ by
      rw [preorderOfAll_group, List.filterMap_cons, List.filterMap_append] at h
      rcases hn.section_eq_or_mem with rfl | hmem
      · exact h List.mem_cons_self
      · exact h (List.mem_cons_of_mem _ (List.mem_append_left _ hmem))
    simp [liesIn_group_iff, sectionBelow, hbelow]

/-- What lies in a forest is its first question, or lies in the rest. -/
theorem liesIn_question_cons_iff {owner s : String} {q : Question} {rest : List Node} {n : Node} :
    LiesIn owner (.question q :: rest) s n ↔
      (s = owner ∧ n = .question q) ∨ LiesIn owner rest s n := by
  rw [liesIn_cons_iff, liesIn_question_iff]

theorem liesIn_group_cons_iff {owner s name xpath : String} {occurrence : Occurrence}
    {label : Option Label} {children rest : List Node} {n : Node} :
    LiesIn owner (.group occurrence name xpath label children :: rest) s n ↔
      (s = owner ∧ n = .group occurrence name xpath label children) ∨
        LiesIn (sectionBelow owner xpath occurrence) children s n ∨ LiesIn owner rest s n := by
  rw [liesIn_cons_iff, liesIn_group_iff, or_assoc]

/-- A section that is not opened in a forest is opened neither below its first group nor behind. -/
theorem not_mem_repeats_of_group {owner name x : String} {occurrence : Occurrence}
    {label : Option Label} {children rest : List Node}
    (h : owner ∉ (preorderOfAll (.group occurrence name x label children :: rest)).filterMap
      repeated?) :
    owner ∉ (preorderOfAll children).filterMap repeated? ∧
      owner ∉ (preorderOfAll rest).filterMap repeated? := by
  have hsub : (preorderOfAll children).filterMap repeated? ++
      (preorderOfAll rest).filterMap repeated? ⊆
        (preorderOfAll (.group occurrence name x label children :: rest)).filterMap repeated? := by
    rw [preorderOfAll_group, ← List.filterMap_append]
    exact ((List.sublist_cons_self _ _).filterMap _).subset
  exact ⟨fun hmem ↦ h (hsub (List.mem_append_left _ hmem)),
    fun hmem ↦ h (hsub (List.mem_append_right _ hmem))⟩

/-- The cells among the slots of a forest are those of the questions directly in it. -/
theorem cell_mem_wideSlotsOfAll {owner key : String} {nodes : List Node}
    (h : owner ∉ (preorderOfAll nodes).filterMap repeated?) :
    .cell key ∈ form.wideSlotsOfAll options nodes ↔
      ∃ q, LiesIn owner nodes owner (.question q) ∧ key ∈ form.wideKeys options q := by
  induction nodes using forest_induction with
  | nil => simp [Form.wideSlotsOfAll, not_liesIn_nil]
  | group occurrence name x label children rest ihc ihr =>
    obtain ⟨hc, hr⟩ := not_mem_repeats_of_group h
    simp only [liesIn_group_self_iff h, reduceCtorEq, false_or, or_and_right, exists_or, ← ihr hr]
    cases occurrence with
    | once => simp [Form.wideSlotsOfAll, Form.wideSlots, ihc hc]
    | repeated => simp [Form.wideSlotsOfAll, Form.wideSlots]
  | question q rest ih =>
    simp [liesIn_question_cons_iff, or_and_right, exists_or, ← ih h, Form.wideSlotsOfAll,
      Form.wideSlots]

/-- The other slots are those of the repeated groups directly in the forest. -/
theorem instances_mem_wideSlotsOfAll {owner x : String} {slots : List WideSlot} {nodes : List Node}
    (h : owner ∉ (preorderOfAll nodes).filterMap repeated?) :
    .instances x slots ∈ form.wideSlotsOfAll options nodes ↔ ∃ name label children,
      LiesIn owner nodes owner (.group .repeated name x label children) ∧
        slots = form.wideSlotsOfAll options children := by
  induction nodes using forest_induction with
  | nil => simp [Form.wideSlotsOfAll, not_liesIn_nil]
  | group occurrence name x' label children rest ihc ihr =>
    obtain ⟨hc, hr⟩ := not_mem_repeats_of_group h
    simp only [liesIn_group_self_iff h, or_and_right, exists_or, ← ihr hr]
    cases occurrence with
    | once => simp [Form.wideSlotsOfAll, Form.wideSlots, ihc hc]
    | repeated =>
      simp [Form.wideSlotsOfAll, Form.wideSlots]
  | question q rest ih =>
    simp [liesIn_question_cons_iff, ← ih h, Form.wideSlotsOfAll, Form.wideSlots]

/-! ### Column groups -/

/-- Inside a repeated group no question has a column group. -/
theorem question_not_mem_wideGroupsOfAll {x : String} {keys : List String} {nodes : List Node} :
    .question x keys ∉ form.wideGroupsOfAll options true nodes := by
  induction nodes using forest_induction with
  | nil => simp [Form.wideGroupsOfAll]
  | group occurrence name x' label children rest ihc ihr =>
    cases occurrence <;> simp [Form.wideGroupsOfAll, Form.wideGroups, ihc, ihr]
  | question q rest ih => simp [Form.wideGroupsOfAll, Form.wideGroups, ih]

/-- The questions directly in a forest have column groups, if they have keys. -/
theorem question_mem_wideGroupsOfAll {owner x : String} {keys : List String} {nodes : List Node}
    (h : owner ∉ (preorderOfAll nodes).filterMap repeated?) :
    .question x keys ∈ form.wideGroupsOfAll options false nodes ↔
      ∃ q, LiesIn owner nodes owner (.question q) ∧ x = q.xpath ∧ keys = form.wideKeys options q ∧
        keys ≠ [] := by
  induction nodes using forest_induction with
  | nil => simp [Form.wideGroupsOfAll, not_liesIn_nil]
  | group occurrence name x' label children rest ihc ihr =>
    obtain ⟨hc, hr⟩ := not_mem_repeats_of_group h
    simp only [liesIn_group_self_iff h, reduceCtorEq, false_or, or_and_right, exists_or, ← ihr hr]
    cases occurrence with
    | once => simp [Form.wideGroupsOfAll, Form.wideGroups, ihc hc]
    | repeated =>
      simp [Form.wideGroupsOfAll, Form.wideGroups, question_not_mem_wideGroupsOfAll]
  | question q rest ih =>
    simp only [liesIn_question_cons_iff, or_and_right, exists_or, ← ih h]
    cases hkeys : form.wideKeys options q with
    | nil => simp [Form.wideGroupsOfAll, Form.wideGroups, hkeys]
    | cons key tail =>
      have hne : keys = key :: tail → keys ≠ [] := fun heq ↦ heq ▸ List.cons_ne_nil _ _
      simp only [Form.wideGroupsOfAll, Form.wideGroups, hkeys, true_and, Node.question.injEq]
      simp [hkeys, and_iff_left_of_imp hne]

/-- Every repeated group of a forest has a column group. -/
theorem instances_mem_wideGroupsOfAll {owner x : String} {slots : List WideSlot} {inside : Bool}
    {nodes : List Node} :
    .instances x slots ∈ form.wideGroupsOfAll options inside nodes ↔ ∃ s name label children,
      LiesIn owner nodes s (.group .repeated name x label children) ∧
        slots = form.wideSlotsOfAll options children := by
  induction nodes using forest_induction generalizing owner inside with
  | nil => simp [Form.wideGroupsOfAll, not_liesIn_nil]
  | group occurrence name x' label children rest ihc ihr =>
    cases occurrence with
    | once =>
      simp only [liesIn_group_cons_iff, sectionBelow, or_and_right, exists_or]
      rw [← @ihc owner inside, ← @ihr owner inside]
      simp [Form.wideGroupsOfAll, Form.wideGroups]
    | repeated =>
      simp only [liesIn_group_cons_iff, sectionBelow, or_and_right, exists_or]
      rw [← @ihc x' true, ← @ihr owner inside]
      simp [Form.wideGroupsOfAll, Form.wideGroups]
  | question q rest ih =>
    simp only [liesIn_question_cons_iff, reduceCtorEq, and_false, false_or]
    rw [← @ih owner inside]
    simp only [Form.wideGroupsOfAll, Form.wideGroups]
    split <;> simp

end Node

namespace Form

variable {form : Form} {options : Options} {x y : String} {children children' : List Node}

/-! ### The nodes of a repeated group -/

/-- `form.Opens x children` says that the form has a repeated group with the xpath `x`, and that
`children` are the nodes in it. -/
def Opens (form : Form) (x : String) (children : List Node) : Prop :=
  ∃ s name label, Node.LiesIn form.name form.children s (.group .repeated name x label children)

theorem Encloses.exists_opens {s : String} (h : form.Encloses s x) :
    ∃ children, form.Opens x children := by
  obtain ⟨name, label, children, hx⟩ := h
  exact ⟨children, s, name, label, hx⟩

/-- Repeated groups with the same xpath are the same. -/
theorem Opens.unique (hnd : form.repeats.Nodup) (h : form.Opens x children)
    (h' : form.Opens x children') : children = children' := by
  obtain ⟨s, name, label, hx⟩ := h
  obtain ⟨s', name', label', hx'⟩ := h'
  have hgroup := Node.eq_of_nodup_filterMap hnd hx.mem_preorderOfAll hx'.mem_preorderOfAll rfl rfl
  cases hgroup
  rfl

theorem Opens.mem_repeats (h : form.Opens x children) : x ∈ form.repeats := by
  obtain ⟨s, name, label, hx⟩ := h
  exact Encloses.mem_repeats ⟨name, label, children, hx⟩

/-- A repeated group does not have the name of the root section. -/
theorem Opens.ne_name (hnd : (form.name :: form.repeats).Nodup) (h : form.Opens x children) :
    x ≠ form.name := by
  rintro rfl
  exact (List.nodup_cons.1 hnd).1 h.mem_repeats

/-- The section of a repeated group is not opened again inside the group. -/
theorem Opens.not_mem (hnd : form.repeats.Nodup) (h : form.Opens x children) :
    x ∉ (Node.preorderOfAll children).filterMap Node.repeated? := by
  obtain ⟨s, name, label, hx⟩ := h
  have hsub := hx.preorder_sublist.filterMap Node.repeated?
  exact (List.nodup_cons.1 (hnd.sublist hsub)).1

/-- The section of a repeated group is what lies directly below the group. -/
theorem Opens.liesIn_iff (hnd : (form.name :: form.repeats).Nodup) (h : form.Opens x children)
    {n : Node} : Node.LiesIn form.name form.children x n ↔ Node.LiesIn x children x n := by
  constructor
  · intro hn
    obtain ⟨s, name, label, children', hx, hn'⟩ := hn.exists_repeated (h.ne_name hnd)
    rwa [h.unique (List.nodup_cons.1 hnd).2 ⟨s, name, label, hx⟩]
  · obtain ⟨s, name, label, hx⟩ := h
    exact hx.of_repeated

/-! ### What a repeated group has slots for -/

/-- A repeated group has a slot for each cell of the questions in its section. -/
theorem cell_mem_slots (hnd : (form.name :: form.repeats).Nodup) (h : form.Opens x children)
    {key : String} : .cell key ∈ form.wideSlotsOfAll options children ↔
      ∃ q, form.Holds x q ∧ key ∈ form.wideKeys options q := by
  rw [Node.cell_mem_wideSlotsOfAll (h.not_mem (List.nodup_cons.1 hnd).2)]
  simp only [Holds, h.liesIn_iff hnd]

/-- A repeated group has a slot for each repeated group that its section encloses. -/
theorem instances_mem_slots (hnd : (form.name :: form.repeats).Nodup) (h : form.Opens x children)
    {slots : List WideSlot} : .instances y slots ∈ form.wideSlotsOfAll options children ↔
      form.Encloses x y ∧ ∃ inner, form.Opens y inner ∧
        slots = form.wideSlotsOfAll options inner := by
  rw [Node.instances_mem_wideSlotsOfAll (h.not_mem (List.nodup_cons.1 hnd).2)]
  simp only [Encloses, Opens, ← h.liesIn_iff hnd]
  constructor
  · rintro ⟨name, label, inner, hy, rfl⟩
    exact ⟨⟨name, label, inner, hy⟩, inner, ⟨x, name, label, hy⟩, rfl⟩
  · rintro ⟨⟨name, label, inner, hy⟩, inner', hy', rfl⟩
    obtain rfl := Opens.unique (List.nodup_cons.1 hnd).2 ⟨x, name, label, hy⟩ hy'
    exact ⟨name, label, inner, hy, rfl⟩

end Form

namespace WideGroup

variable {form : Form} {options : Options} {x : String}

/-- The questions of the root section have column groups, if they have keys. -/
theorem question_mem_ofForm (hnd : (form.name :: form.repeats).Nodup) {keys : List String} :
    .question x keys ∈ ofForm form options ↔
      ∃ q, form.Holds form.name q ∧ x = q.xpath ∧ keys = form.wideKeys options q ∧ keys ≠ [] :=
  Node.question_mem_wideGroupsOfAll (List.nodup_cons.1 hnd).1

theorem instances_mem_ofForm {slots : List WideSlot} :
    .instances x slots ∈ ofForm form options ↔
      ∃ children, form.Opens x children ∧ slots = form.wideSlotsOfAll options children := by
  rw [ofForm, @Node.instances_mem_wideGroupsOfAll _ _ form.name]
  constructor
  · rintro ⟨s, name, label, children, hx, rfl⟩
    exact ⟨children, ⟨s, name, label, hx⟩, rfl⟩
  · rintro ⟨children, ⟨s, name, label, hx⟩, rfl⟩
    exact ⟨s, name, label, children, hx, rfl⟩

/-- Slots are found only under the xpath of a repeated group, and they are its own. -/
theorem exists_opens_of_slots? {slots : List WideSlot}
    (h : slots? (ofForm form options) x = some slots) :
    ∃ children, form.Opens x children ∧ slots = form.wideSlotsOfAll options children := by
  obtain ⟨g, hg, heq⟩ := List.exists_of_findSome?_eq_some h
  cases g with
  | question => simp at heq
  | instances x' slots' =>
    simp only [Option.ite_none_right_eq_some, Option.some.injEq] at heq
    obtain ⟨rfl, rfl⟩ := heq
    exact instances_mem_ofForm.1 hg

/-- The slots under an xpath are those of the repeated group. -/
theorem slots?_ofForm (hnd : form.repeats.Nodup) {children : List Node}
    (h : form.Opens x children) :
    slots? (ofForm form options) x = some (form.wideSlotsOfAll options children) := by
  have hmem : instances x (form.wideSlotsOfAll options children) ∈ ofForm form options :=
    instances_mem_ofForm.2 ⟨children, h, rfl⟩
  cases hslots : slots? (ofForm form options) x with
  | none =>
    have hnone := List.findSome?_eq_none_iff.1 hslots _ hmem
    simp at hnone
  | some slots =>
    obtain ⟨children', h', rfl⟩ := exists_opens_of_slots? hslots
    rw [h.unique hnd h']

end WideGroup

end SurveyExport
