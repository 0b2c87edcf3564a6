import SurveyExport.Proofs.Codebook.Partition
import SurveyExport.Proofs.WideTable.Keys
import SurveyExport.Sheet.Layout

/-!
# Columns with the same key

The columns of a section come from three rules, and only one of them looks at what is there: the
column of a choice is left out if its key is taken. The column of a question and the columns of its
components are appended whatever their keys are, so they may repeat the key of an earlier column.

`Form.Clashes` says of two questions of a section when the later one does so. That no two of them
clash is then the exact condition for distinct keys, first for one more question
(`Section.nodup_keys_add_iff`), by induction for a whole section
(`Section.nodup_keys_ofQuestions_iff`), and for all sections and sheets of a form
(`Codebook.nodup_keys_iff`).
-/

namespace SurveyExport

namespace Form

variable {form : Form} {options : Options} {q q' : Question} {key : String}

/-- The keys of the columns that a question brings in any case: its own column, and those of its
components. -/
def firmKeys (q : Question) : List String :=
  q.xpath :: if q.type = .geopoint then pointKeys q.xpath else []

/-- Two questions of a section clash, of which `q` stands before `q'`: a column that `q'` brings in
any case has the key of one of the columns of `q`. -/
inductive Clashes (form : Form) (options : Options) (q q' : Question) : Prop
  /-- The later question has the xpath of a choice of the earlier one. -/
  | choice (htype : q.type = .selectMultiple) (hsplit : options.splitSelectMultiples = true)
      {choice : Choice} (hchoice : choice ∈ form.splitChoices q)
      (h : q'.xpath = q.xpath ++ "/" ++ choice.name)
  /-- The later question has the xpath of a component of the earlier one. -/
  | component (htype : q.type = .geopoint) (h : q'.xpath ∈ pointKeys q.xpath)
  /-- A component of the later question has the xpath of the earlier one. -/
  | laterComponent (htype : q'.type = .geopoint) (h : q.xpath ∈ pointKeys q'.xpath)
  /-- A component of the later question has the xpath of a choice of the earlier one. -/
  | choiceComponent (htype : q.type = .selectMultiple)
      (hsplit : options.splitSelectMultiples = true) {choice : Choice}
      (hchoice : choice ∈ form.splitChoices q) (htype' : q'.type = .geopoint)
      (h : q.xpath ++ "/" ++ choice.name ∈ pointKeys q'.xpath)

theorem mem_firmKeys_iff :
    key ∈ firmKeys q ↔ key = q.xpath ∨ (q.type = .geopoint ∧ key ∈ pointKeys q.xpath) := by
  rw [firmKeys, List.mem_cons]
  split <;> simp_all

theorem nodup_firmKeys (q : Question) : (firmKeys q).Nodup := by
  refine List.nodup_cons.2 ⟨fun hmem ↦ ?_, ?_⟩
  · split at hmem
    · exact pointKey_ne hmem rfl
    · cases hmem
  · split
    · exact nodup_pointKeys q.xpath
    · exact List.nodup_nil

/-- The keys of a question's columns, one rule for each kind of column. -/
theorem mem_ownKeys_iff : key ∈ form.ownKeys options q ↔ key = q.xpath ∨
    (q.type = .selectMultiple ∧ options.splitSelectMultiples = true ∧
      ∃ choice ∈ form.splitChoices q, key = q.xpath ++ "/" ++ choice.name) ∨
    (q.type = .geopoint ∧ key ∈ pointKeys q.xpath) := by
  rw [ownKeys, List.mem_cons, derivedColumns]
  refine or_congr_right ?_
  split
  · rename_i htype
    cases hsplit : options.splitSelectMultiples with
    | true =>
      simp only [if_true, choiceColumns, List.map_map, List.mem_map, htype, true_and, reduceCtorEq,
        false_and, or_false]
      exact exists_congr fun choice ↦ and_congr_right fun _ ↦ eq_comm
    | false => simp [htype]
  · rename_i htype
    simp [htype, componentColumn, Function.comp_def]
  · rename_i hmultiple hpoint
    have hmultiple : q.type ≠ .selectMultiple := hmultiple
    have hpoint : q.type ≠ .geopoint := hpoint
    simp [hmultiple, hpoint]

/-- Two questions clash just if a column that the later one brings in any case has the key of a
column of the earlier one: neither their xpaths nor their components can be the same. -/
theorem clashes_iff (hne : q.xpath ≠ q'.xpath) :
    form.Clashes options q q' ↔ ∃ key ∈ firmKeys q', key ∈ form.ownKeys options q := by
  constructor
  · rintro (⟨htype, hsplit, hchoice, h⟩ | ⟨htype, h⟩ | ⟨htype, h⟩ |
      ⟨htype, hsplit, hchoice, htype', h⟩)
    · exact ⟨_, mem_firmKeys_iff.2 (.inl rfl),
        mem_ownKeys_iff.2 (.inr (.inl ⟨htype, hsplit, _, hchoice, h⟩))⟩
    · exact ⟨_, mem_firmKeys_iff.2 (.inl rfl), mem_ownKeys_iff.2 (.inr (.inr ⟨htype, h⟩))⟩
    · exact ⟨_, mem_firmKeys_iff.2 (.inr ⟨htype, h⟩), mem_ownKeys_iff.2 (.inl rfl)⟩
    · exact ⟨_, mem_firmKeys_iff.2 (.inr ⟨htype', h⟩),
        mem_ownKeys_iff.2 (.inr (.inl ⟨htype, hsplit, _, hchoice, rfl⟩))⟩
  · rintro ⟨key, hfirm, hown⟩
    rcases mem_firmKeys_iff.1 hfirm with rfl | ⟨htype', hkey⟩
    · rcases mem_ownKeys_iff.1 hown with heq | ⟨htype, hsplit, choice, hchoice, heq⟩ | ⟨htype, h⟩
      · exact absurd heq.symm hne
      · exact .choice htype hsplit hchoice heq
      · exact .component htype h
    · rcases mem_ownKeys_iff.1 hown with rfl | ⟨htype, hsplit, choice, hchoice, rfl⟩ | ⟨-, h⟩
      · exact .laterComponent htype' hkey
      · exact .choiceComponent htype hsplit hchoice htype' hkey
      · exact absurd (eq_of_mem_pointKeys h hkey) hne

end Form

namespace Section

variable {form : Form} {options : Options} {q : Question}

/-! ### One more question -/

/-- The keys of a section's columns. -/
def keys (s : Section) : List String := s.columns.map (·.key)

/-- Appending the columns that are not there yet gives all their keys. -/
theorem mem_map_key_appendNew {columns new : List Column} {key : String} :
    key ∈ (appendNew columns new).map (·.key) ↔
      key ∈ columns.map (·.key) ∨ key ∈ new.map (·.key) := by
  induction new generalizing columns with
  | nil => simp [appendNew]
  | cons c rest ih =>
    rw [appendNew]
    split
    · rename_i htaken
      obtain ⟨d, hd, hkey⟩ := List.any_eq_true.1 htaken
      have hmem : c.key ∈ columns.map (·.key) := List.mem_map.2 ⟨d, hd, beq_iff_eq.1 hkey⟩
      rw [ih, List.map_cons, List.mem_cons]
      constructor
      · exact Or.imp_right .inr
      · rintro (h | rfl | h)
        exacts [.inl h, .inl hmem, .inr h]
    · rw [ih, List.map_append, List.mem_append, List.map_cons, List.mem_cons]
      simp [or_assoc]

/-- Appending the columns that are not there yet repeats no key. -/
theorem nodup_appendNew_iff {columns new : List Column} :
    ((appendNew columns new).map (·.key)).Nodup ↔ (columns.map (·.key)).Nodup := by
  induction new generalizing columns with
  | nil => rfl
  | cons c rest ih =>
    rw [appendNew]
    split
    · exact ih
    · rename_i hfree
      have hkey : c.key ∉ columns.map (·.key) := fun hmem ↦ by
        obtain ⟨d, hd, heq⟩ := List.mem_map.1 hmem
        exact hfree (List.any_eq_true.2 ⟨d, hd, beq_iff_eq.2 heq⟩)
      rw [ih, List.map_append, List.nodup_append']
      simp [hkey]

theorem mem_keys_add_iff (hnote : q.type.isNote = false) {s : Section} {key : String} :
    key ∈ (s.add form options q).keys ↔ key ∈ s.keys ∨ key ∈ form.ownKeys options q := by
  rw [keys, columns_add hnote, Form.ownKeys]
  split
  · rw [mem_map_key_appendNew, List.map_append, List.mem_append, or_assoc]
    simp [keys, Form.questionColumn]
  · simp [keys, Form.questionColumn]

/-- **One more question keeps the keys of the columns distinct** just if the columns that it brings
in any case have new keys. -/
theorem nodup_keys_add_iff (hnote : q.type.isNote = false) {s : Section} :
    (s.add form options q).keys.Nodup ↔ s.keys.Nodup ∧ ∀ key ∈ Form.firmKeys q, key ∉ s.keys := by
  rw [keys, columns_add hnote]
  split
  · rename_i htype
    rw [nodup_appendNew_iff, List.map_append, List.nodup_append']
    simp [Form.firmKeys, htype, keys, Form.questionColumn]
  · rename_i htype
    have hnew : (form.questionColumn options q :: form.derivedColumns options q).map (·.key) =
        Form.firmKeys q := by
      rw [Form.firmKeys, Form.derivedColumns]
      split
      · rename_i hmultiple
        exact absurd hmultiple htype
      · rename_i hpoint
        simp [hpoint, Form.questionColumn, Form.componentColumn, Function.comp_def]
      · rename_i hpoint
        have hpoint : q.type ≠ .geopoint := hpoint
        simp [hpoint, Form.questionColumn]
    rw [List.map_append, hnew, List.nodup_append', ← keys, List.disjoint_comm]
    exact and_congr_right fun _ ↦ and_iff_right (Form.nodup_firmKeys q)

/-! ### All questions -/

/-- The keys of a section's columns stay distinct while questions are added just if every question
brings new keys, compared with the section and with the questions before it. -/
theorem nodup_keys_foldl_iff {questions : List Question} {s : Section} :
    (questions.foldl (add form options) s).keys.Nodup ↔ s.keys.Nodup ∧
      (∀ q ∈ questions.filter fun q ↦ !q.type.isNote, ∀ key ∈ Form.firmKeys q, key ∉ s.keys) ∧
      (questions.filter fun q ↦ !q.type.isNote).Pairwise
        fun q q' ↦ ∀ key ∈ Form.firmKeys q', key ∉ form.ownKeys options q := by
  induction questions generalizing s with
  | nil => simp
  | cons q rest ih =>
    rw [List.foldl_cons, ih]
    cases hnote : q.type.isNote with
    | true => simp [add_of_isNote hnote, hnote]
    | false =>
      rw [nodup_keys_add_iff hnote, List.filter_cons_of_pos (by simp [hnote]),
        List.pairwise_cons, List.forall_mem_cons]
      simp only [mem_keys_add_iff hnote, not_or]
      constructor
      · rintro ⟨⟨hs, hq⟩, hrest, hpairs⟩
        exact ⟨hs, ⟨hq, fun q' hq' key hkey ↦ (hrest q' hq' key hkey).1⟩,
          fun q' hq' key hkey ↦ (hrest q' hq' key hkey).2, hpairs⟩
      · rintro ⟨hs, ⟨hq, hrest⟩, hfirst, hpairs⟩
        exact ⟨⟨hs, hq⟩, fun q' hq' key hkey ↦
          ⟨hrest q' hq' key hkey, hfirst q' hq' key hkey⟩, hpairs⟩

/-- **The columns of a section have distinct keys** just if no two of its questions clash. -/
theorem nodup_keys_ofQuestions_iff {name : String} {questions : List Question}
    (hxpaths : (questions.map (·.xpath)).Nodup) :
    (ofQuestions form options name questions).keys.Nodup ↔
      (questions.filter fun q ↦ !q.type.isNote).Pairwise
        fun q q' ↦ ¬ form.Clashes options q q' := by
  have hne : (questions.filter fun q ↦ !q.type.isNote).Pairwise fun q q' ↦ q.xpath ≠ q'.xpath :=
    (List.pairwise_map.1 hxpaths).sublist List.filter_sublist
  rw [ofQuestions, nodup_keys_foldl_iff]
  have hempty : ({ name } : Section).keys = [] := rfl
  simp only [hempty, List.nodup_nil, List.not_mem_nil, not_false_eq_true, implies_true, true_and]
  constructor
  · intro hpairs
    refine (hpairs.and hne).imp fun {q q'} h hclash ↦ ?_
    obtain ⟨key, hfirm, hown⟩ := (Form.clashes_iff h.2).1 hclash
    exact h.1 key hfirm hown
  · intro hpairs
    exact (hpairs.and hne).imp fun {q q'} h key hfirm hown ↦
      h.1 ((Form.clashes_iff h.2).2 ⟨key, hfirm, hown⟩)

end Section

namespace Codebook

variable {form : Form} {options : Options} {book : Codebook}

/-- No two questions of a section clash; notes have no columns. -/
def NoClashes (form : Form) (options : Options) (s : String) : Prop :=
  ((questionsOf form s).filter fun q ↦ !q.type.isNote).Pairwise
    fun q q' ↦ ¬ form.Clashes options q q'

theorem nodup_keys_sectionNamed_iff (hxpaths : (form.questions.map (·.xpath)).Nodup)
    (s : String) : (sectionNamed form options s).keys.Nodup ↔ NoClashes form options s :=
  Section.nodup_keys_ofQuestions_iff (hxpaths.sublist ((questionsOf_sublist form s).map _))

/-- **When the columns of a form have distinct keys.** For every section these are distinct just if
no two questions of the section clash; then no two columns of its sheet, other than the metadata
columns, show the same cell of a row. -/
theorem nodup_keys_iff (hbook : ofForm form options = .ok book) :
    (∀ s ∈ book.sections, s.keys.Nodup ↔ NoClashes form options s.name) ∧
      ∀ naming, ∀ sheet ∈ Sheet.ofCodebook book options naming,
        NoClashes form options sheet.sectionName →
          ((sheet.columns.filter fun c ↦ c.origin ≠ .extra).map (·.key)).Nodup := by
  obtain ⟨rfl, -, -, hxpaths, -⟩ := ofForm_eq_ok_iff.1 hbook
  refine ⟨fun s hs ↦ ?_, fun naming sheet hsheet hclear ↦ ?_⟩
  · obtain ⟨-, hsection⟩ := eq_sectionNamed_of_mem hs
    rw [hsection, name_sectionNamed]
    exact nodup_keys_sectionNamed_iff hxpaths _
  · obtain ⟨e, he, rfl⟩ := List.mem_map.1 hsheet
    obtain ⟨-, hsection⟩ := eq_sectionNamed_of_mem (List.of_mem_zip he).1
    have hkeys : e.1.keys.Nodup := by
      rw [hsection]
      exact (nodup_keys_sectionNamed_iff hxpaths _).2 hclear
    -- the metadata columns of a sheet are not looked at, and the others are columns of its section
    have hextra : (((made form options).extraColumns.map Column.extra).filter options.keeps).filter
        (fun c ↦ c.origin ≠ .extra) = [] := by
      refine List.filter_eq_nil_iff.2 fun c hc ↦ ?_
      obtain ⟨key, -, rfl⟩ := List.mem_map.1 (List.mem_filter.1 hc).1
      simp [Column.extra]
    rw [Sheet.ofSection, List.filter_append, List.filter_append, hextra, List.append_nil]
    exact hkeys.sublist ((List.filter_sublist.trans List.filter_sublist).map _)

/-- A form with a geopoint behind a question that has the name of one of its components. -/
def fixForm : Form where
  name := "visit"
  children :=
    [.question { name := "_gps_latitude", xpath := "_gps_latitude", type := .text },
      .question { name := "gps", xpath := "gps", type := .geopoint }]

/-- The two questions clash, and the root section has two columns with the key `_gps_latitude`. -/
theorem nodup_keys_iff_fixForm :
    ofForm fixForm {} = .ok (made fixForm {}) ∧ ¬ NoClashes fixForm {} "visit" ∧
      (made fixForm {}).root.keys.count "_gps_latitude" = 2 ∧
      ¬ (made fixForm {}).root.keys.Nodup := by
  have hbook : ofForm fixForm {} = .ok (made fixForm {}) :=
    ofForm_eq_ok_iff.2 ⟨rfl, by decide, by decide, by decide, by decide⟩
  have hclash : ¬ NoClashes fixForm {} "visit" := fun hclear ↦
    (List.pairwise_cons.1 hclear).1 _ List.mem_cons_self (.laterComponent rfl (by decide))
  exact ⟨hbook, hclash, by decide,
    fun hnd ↦ hclash (((nodup_keys_iff hbook).1 _ List.mem_cons_self).1 hnd)⟩

end Codebook

end SurveyExport
