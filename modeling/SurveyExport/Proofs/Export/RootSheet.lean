import SurveyExport.Proofs.Export.Integrity

/-!
# The root sheet

Every submission has a row on the root sheet, with its number and without a parent, and the rows
stand in the order of the submissions (`exists_rootRows`). Nothing is asked of the submissions for
this, so it also says what else is on the sheet: the row of an instance goes to the section that its
key names, and if that is the name of the form itself, the row stands among those of the
submissions. The sheet holds one row for each submission just if no submission has such an instance,
at any depth.

Nothing is asked of the form but that no question of the root section takes the place of the number
or of the parent's number with a cell that is no whole number (`Question.KeepsInt`).

* `ExportPlan.rowsOn_recordCalls`: what one submission leaves on the root sheet.
* `ExportPlan.rootSheet_writesAfter`: what submissions leave there, one after the other.
-/

namespace SurveyExport

/-! ### Numbers in the cells of a row -/

namespace Question

/-- The column of the question shows a whole number as it is. -/
structure KeepsInt (options : Options) (q : Question) : Prop where
  /-- The column is not of decimal type. -/
  type : q.type.bindType ≠ .decimal
  /-- The answers are not labelled. -/
  labels : q.type.isSelect = true → options.showChoiceLabels = false
  /-- The answers are not split. -/
  splits : q.type = .selectMultiple → options.splitSelectMultiples = false

end Question

namespace Codebook

variable {form : Form} {options : Options} {s k : String}

/-- Answers that are labelled or split are those of selects. -/
theorem exists_select_of_mem_labelledKeys
    (h : k ∈ Row.labelledKeys options (sectionNamed form options s)) :
    ∃ q, form.Holds s q ∧ k = q.xpath ∧ q.type.isSelect = true := by
  rw [Row.labelledKeys, List.mem_append] at h
  rcases h with h | h
  · obtain ⟨q, hq, htype, rfl⟩ := Section.mem_selectOnes_iff.1 h
    exact ⟨q, mem_questionsOf.1 hq, rfl, by rw [htype]; rfl⟩
  · split at h
    · cases h
    · obtain ⟨t, ht, rfl⟩ := List.mem_map.1 h
      obtain ⟨q, hq, htype, rfl⟩ := Section.mem_splits_iff.1 ht
      exact ⟨q, mem_questionsOf.1 hq, rfl, by rw [htype]; rfl⟩

/-- The steps that work on answers leave a link alone, if no question of the section with the key of
the link makes anything else of it. -/
theorem get?_answered_of_mem_linkKeys (hk : k ∈ MetaKey.linkKeys)
    (hquestions : ∀ q, form.Holds s q → q.xpath = k → q.KeepsInt options) (book : Codebook)
    (row : Row) :
    (Row.answered book options (sectionNamed form options s) row).get? k = row.get? k := by
  have hrefused : ∀ k ∈ MetaKey.linkKeys, ¬ KeyEscape.isRefused k := by decide
  refine Row.get?_answered (fun e he ↦ ?_) (fun hsplit t ht ↦ ?_) (fun p hp hmem ↦ ?_)
    (fun hshow hmem ↦ ?_) book row
  · obtain ⟨q, -, hcond, rfl⟩ := Section.mem_storedKeys_iff.1 he
    have href := (Bool.and_eq_true_iff.1 hcond).2
    exact ⟨fun h : k = q.xpath ↦ hrefused k hk (h ▸ href),
      fun h : k = KeyEscape.encode q.xpath ↦ KeyEscape.encode_not_mem_linkKeys href (h ▸ hk)⟩
  · obtain ⟨q, hq, htype, rfl⟩ := Section.mem_splits_iff.1 ht
    have hne : k ≠ q.xpath := fun h ↦ by
      simp [(hquestions q (mem_questionsOf.1 hq) h.symm).splits htype] at hsplit
    refine ⟨hne, fun c hc h ↦ ?_⟩
    rcases List.mem_cons.1 (Form.choiceKey_mem_ownKeys htype hc) with h' | h'
    · exact hne (h.trans h')
    · obtain ⟨d, hd, hkey⟩ := List.mem_map.1 h'
      exact Form.key_not_mem_linkKeys hd (hkey.trans h.symm ▸ hk)
  · obtain ⟨q, -, htype, rfl⟩ := Section.mem_points_iff.1 hp
    have hc : Form.componentColumn options q k ∈ form.derivedColumns options q := by
      simp only [Form.derivedColumns, htype]
      exact List.mem_map_of_mem hmem
    exact Form.key_not_mem_linkKeys hc hk
  · obtain ⟨q, hq, rfl, hselect⟩ := exists_select_of_mem_labelledKeys hmem
    simp [(hquestions q hq rfl).labels hselect] at hshow

/-- So normalising leaves a link alone that is a number. -/
theorem get?_normalize_int (hk : k ∈ MetaKey.linkKeys)
    (hquestions : ∀ q, form.Holds s q → q.xpath = k → q.KeepsInt options) (book : Codebook)
    {row : Row} {n : Int} (hrow : row.get? k = some (.int n)) :
    (row.normalize book options (sectionNamed form options s)).get? k = some (.int n) := by
  have htime : ∀ k ∈ MetaKey.linkKeys, k ≠ MetaKey.submissionTime := by decide
  have hcolumns : ∀ c ∈ (sectionNamed form options s).columns, c.key = k →
      (Cell.int n).isBlank = true ∨ (Cell.int n).coerce c.type = .int n := by
    rintro c hc rfl
    obtain ⟨q, hq, -, rfl | hc⟩ := Section.exists_question_of_mem_columns hc
    · have htype : (form.questionColumn options q).type ≠ .decimal :=
        (hquestions q (mem_questionsOf.1 hq) rfl).type
      simp [Cell.coerce, htype]
    · exact absurd hk (Form.key_not_mem_linkKeys hc)
  have hanswered := (get?_answered_of_mem_linkKeys hk hquestions book row).trans hrow
  rw [Row.normalize, Row.get?_substitute,
    Row.get?_typed_of_answered (htime k hk) hcolumns hanswered]
  rfl

end Codebook

/-! ### What goes to one sheet -/

namespace ExportPlan

/-- The rows that are written to the sheet with a number. -/
def rowsOn (x : Nat) (written : List (Nat × Row)) : List Row :=
  written.filterMap fun w ↦ if w.1 = x then some w.2 else none

@[simp] theorem rowsOn_append (x : Nat) (written written' : List (Nat × Row)) :
    rowsOn x (written ++ written') = rowsOn x written ++ rowsOn x written' :=
  List.filterMap_append

/-- Rows that are all written to one sheet. -/
theorem rowsOn_map (x y : Nat) (f : Row → Row) (rows : List Row) :
    rowsOn x (rows.map fun row ↦ (y, f row)) = if y = x then rows.map f else [] := by
  rw [rowsOn, List.filterMap_map]
  split
  · rename_i h
    rw [← List.filterMap_eq_map]
    exact List.filterMap_congr fun row _ ↦ if_pos h
  · rename_i h
    exact List.filterMap_eq_nil_iff.2 fun row _ ↦ if_neg h

theorem sheetOf_eq_zero_iff {form : Form} {s : String} : sheetOf form s = 0 ↔ form.name = s := by
  rw [sheetOf, List.idxOf_eq_zero_iff_head_eq (List.cons_ne_nil _ _), List.head_cons]

variable {form : Form} {options : Options} {naming : SheetNaming}

/-- Rows of the root section go to the root sheet, and those of no other section. -/
theorem rowsOn_sectionCalls (form : Form) (options : Options) (naming : SheetNaming) (s : String)
    (rows : List Row) :
    rowsOn 0 (((madePlan form options naming).sectionCalls s rows).filterMap SinkCall.written?) =
      if s = form.name then rows.map fun row ↦ (madePlan form options naming).nameParent
        (row.normalize (Codebook.made form options) options
          (Codebook.sectionNamed form options form.name)) else [] := by
  by_cases hs : s ∈ form.name :: form.repeats
  · rw [filterMap_written?_sectionCalls hs, rowsOn_map _ _ fun row ↦
      (madePlan form options naming).nameParent (row.normalize (Codebook.made form options) options
        (Codebook.sectionNamed form options s))]
    by_cases hname : s = form.name
    · rw [if_pos (sheetOf_eq_zero_iff.2 hname.symm), if_pos hname, hname]
    · rw [if_neg fun h ↦ hname (sheetOf_eq_zero_iff.1 h).symm, if_neg hname]
  · rw [sectionCalls_eq_nil hs, if_neg fun h : s = form.name ↦ hs (h ▸ List.mem_cons_self)]
    rfl

/-- The row that is written for a submission that comes after `done` others. -/
def submissionRow (p : ExportPlan) (done : Nat) (r : Record) : Row :=
  (p.write (.ofRecord (p.book.mediaRule? p.options) p.rootName done r)).2

/-- The rows that are written for the instances in it whose key names the form. -/
def strayRows (p : ExportPlan) (done : Nat) (counters : Counters) (r : Record) : List Row :=
  (Visit.ofSection p.rootName (r.visits p.rootName (done + 1 : Nat) counters)).map fun v ↦
    (p.write (.ofVisit (p.book.mediaRule? p.options) r.attachments done v)).2

/-- **A submission leaves its row on the root sheet**, and behind it those of the instances in it
whose key names the form. -/
theorem rowsOn_recordCalls (form : Form) (options : Options) (naming : SheetNaming) (done : Nat)
    (counters : Counters) (r : Record) :
    rowsOn 0 (((madePlan form options naming).recordCalls (done + 1) counters r).1.filterMap
        SinkCall.written?) =
      (madePlan form options naming).submissionRow done r ::
        (madePlan form options naming).strayRows done counters r := by
  set p := madePlan form options naming with hp
  set media := p.book.mediaRule? p.options with hmedia
  set linked := (r.link media form.name (done + 1 : Nat) counters).1 with hlinked
  set shown : Row → Row := fun row ↦ p.nameParent (row.normalize (Codebook.made form options)
    options (Codebook.sectionNamed form options form.name)) with hshown
  show rowsOn 0 ((p.sectionCalls form.name [linked.own] ++
    linked.repeats.toList.flatMap fun e ↦ p.sectionCalls e.1 e.2).filterMap SinkCall.written?) = _
  have hinside : rowsOn 0 ((linked.repeats.toList.flatMap fun e ↦
      p.sectionCalls e.1 e.2).filterMap SinkCall.written?) =
        (linked.rowsOf form.name).map shown := by
    rw [LinkedRows.rowsOf,
      ← KeyMap.flatMap_toList_ite linked.repeats form.name (f := List.map shown) rfl,
      List.filterMap_flatMap, rowsOn, List.filterMap_flatMap]
    exact List.flatMap_congr fun e _ ↦ rowsOn_sectionCalls form options naming e.1 e.2
  rw [List.filterMap_append, rowsOn_append, hinside, hp, rowsOn_sectionCalls, if_pos rfl, hlinked,
    Record.own_link, Record.rowsOf_link, List.map_map]
  refine congrArg (_ :: ·) (List.map_congr_left fun v hv ↦ ?_)
  have hname : v.sectionName = form.name := of_decide_eq_true (List.mem_filter.1 hv).2
  rw [Function.comp_apply, write_madePlan,
    show (Trace.ofVisit media r.attachments done v).sectionName = form.name from hname]
  rfl

end ExportPlan

/-! ### Instances of the root section -/

namespace Record

/-- The record holds an instance, at any depth, whose key names the section. -/
def HasInstanceOf (r : Record) (s : String) : Prop :=
  ∃ place i, place ≠ [] ∧ r.at? s place = some (s, i)

/-- Such an instance is visited. -/
theorem ofSection_visits_eq_nil_iff {r : Record} {s : String} {index : Int} {counters : Counters} :
    Visit.ofSection s (r.visits s index counters) = [] ↔ ¬ r.HasInstanceOf s := by
  have hcovered := covered_visits r s index counters
  rw [Visit.ofSection, List.filter_eq_nil_iff]
  constructor
  · rintro hnone ⟨place, i, hplace, hat⟩
    obtain ⟨step, rest, rfl⟩ := List.exists_cons_of_ne_nil hplace
    obtain ⟨v, hv, hplace⟩ := hcovered.complete step rest _ trivial hat
    obtain ⟨-, -, -, -, hat'⟩ := hcovered.sound v hv
    rw [hplace, hat] at hat'
    exact hnone v hv (by simpa using (Prod.mk.inj (Option.some.inj hat')).1.symm)
  · intro hnone v hv hname
    obtain ⟨step, rest, hplace, -, hat⟩ := hcovered.sound v hv
    rw [of_decide_eq_true hname] at hat
    exact hnone ⟨_, _, hplace ▸ List.cons_ne_nil _ _, hat⟩

end Record

namespace ExportPlan

variable {form : Form} {options : Options} {naming : SheetNaming}

theorem strayRows_eq_nil_iff {p : ExportPlan} {done : Nat} {counters : Counters} {r : Record} :
    p.strayRows done counters r = [] ↔ ¬ r.HasInstanceOf p.rootName := by
  rw [strayRows, List.map_eq_nil_iff, Record.ofSection_visits_eq_nil_iff]

/-- The rows that are written for submissions that come after `done` others. -/
def submissionRows (p : ExportPlan) (done : Nat) (records : List Record) : List Row :=
  records.mapIdx fun n r ↦ p.submissionRow (done + n) r

theorem submissionRows_cons (p : ExportPlan) (done : Nat) (r : Record) (rest : List Record) :
    p.submissionRows done (r :: rest) =
      p.submissionRow done r :: p.submissionRows (done + 1) rest := by
  rw [submissionRows, List.mapIdx_cons]
  simp only [submissionRows, Nat.add_zero, Nat.add_assoc, Nat.add_comm 1]

/-- **Submissions leave their rows on the root sheet**, in order, and nothing else just if none of
them holds an instance whose key names the form. -/
theorem rootSheet_writesAfter (form : Form) (options : Options) (naming : SheetNaming)
    (records : List Record) (done : Nat) (counters : Counters) :
    let own := (madePlan form options naming).submissionRows done records
    let sheet := rowsOn 0 ((madePlan form options naming).writesAfter done counters records)
    own.Sublist sheet ∧ (sheet = own ↔ ∀ r ∈ records, ¬ r.HasInstanceOf form.name) := by
  set p := madePlan form options naming with hp
  induction records generalizing done counters with
  | nil => simp [submissionRows, writesAfter, rowsOn]
  | cons r rest ih =>
    obtain ⟨hsub, heq⟩ := ih (done + 1) (p.recordCalls (done + 1) counters r).2
    have hstray : p.strayRows done counters r = [] ↔ ¬ r.HasInstanceOf form.name :=
      strayRows_eq_nil_iff
    simp only at hsub heq ⊢
    rw [submissionRows_cons, writesAfter, rowsOn_append, hp, rowsOn_recordCalls, ← hp,
      List.cons_append, List.forall_mem_cons, ← heq, ← hstray]
    refine ⟨(hsub.trans (List.sublist_append_right _ _)).cons_cons _, fun h ↦ ?_, ?_⟩
    · -- the rows of the others leave no room for stray ones
      have htail := (List.cons.inj h).2
      have hlength := congrArg List.length htail
      have hle := hsub.length_le
      rw [List.length_append] at hlength
      have hnil : p.strayRows done counters r = [] := List.eq_nil_of_length_eq_zero (by omega)
      rw [hnil, List.nil_append] at htail
      exact ⟨hnil, htail⟩
    · rintro ⟨hnil, hrest⟩
      rw [hnil, hrest, List.nil_append]

/-! ### The root sheet of an export -/

/-- **What is on the root sheet** of an export: `sheet` are its rows, and `own` those of the
submissions among them. -/
structure RootSheet (p : ExportPlan) (records : List Record) (sheet own : List Row) : Prop where
  /-- Every submission has a row. -/
  length_eq : own.length = records.length
  /-- The row of a submission holds its answers, its number, and no parent. -/
  row : ∀ n row, own[n]? = some row → ∃ r, records[n]? = some r ∧ p.IsRowOf r p.rootName r row ∧
    row.get? MetaKey.index = some (.int (n + 1 : Nat)) ∧
    row.get? MetaKey.parentIndex = some (.int (-1))
  /-- The rows stand on the sheet, in the order of the submissions. -/
  sublist : own.Sublist sheet
  /-- Nothing else is there just if no submission holds an instance whose key names the form. -/
  eq_iff : sheet = own ↔ ∀ r ∈ records, ¬ r.HasInstanceOf p.rootName

/-- The row of a submission holds its answers, its number, and no parent. -/
theorem isRowOf_submissionRow (hkeys : ∀ q, form.Holds form.name q →
      q.xpath = MetaKey.index ∨ q.xpath = MetaKey.parentIndex → q.KeepsInt options) (done : Nat)
    (r : Record) :
    let row := (madePlan form options naming).submissionRow done r
    (madePlan form options naming).IsRowOf r form.name r row ∧
      row.get? MetaKey.index = some (.int (done + 1 : Nat)) ∧
      row.get? MetaKey.parentIndex = some (.int (-1)) := by
  set media := (Codebook.made form options).mediaRule? options
  set t := Trace.ofRecord media form.name done r with ht
  have hne : MetaKey.index ≠ MetaKey.parentIndex := by decide
  have hwrite : (madePlan form options naming).submissionRow done r =
      (madePlan form options naming).nameParent (t.raw.normalize (Codebook.made form options)
        options (Codebook.sectionNamed form options form.name)) := rfl
  have hlink : ∀ {k : String} {n : Int}, k ∈ [MetaKey.index, MetaKey.parentIndex] →
      t.raw.get? k = some (.int n) →
      ((madePlan form options naming).submissionRow done r).get? k = some (.int n) := by
    intro k n hk hget
    have hlinkKeys : ∀ k ∈ [MetaKey.index, MetaKey.parentIndex], k ∈ MetaKey.linkKeys ∧
      k ≠ MetaKey.parentTable := by decide
    rw [hwrite, get?_nameParent_of_ne (hlinkKeys k hk).2]
    exact Codebook.get?_normalize_int (hlinkKeys k hk).1
      (fun q hq hx ↦ hkeys q hq (by simpa [hx] using hk)) _ hget
  have hmem : t ∈ r.traces media form.name done KeyMap.empty := Record.mem_traces_iff.2 (.inl ht)
  obtain ⟨i, hat, hrow⟩ := exists_isRowOf_write naming hmem List.mem_cons_self
  obtain rfl : r = i := (Prod.mk.inj (Option.some.inj hat)).2
  refine ⟨hrow, hlink (by simp) ?_, hlink (by simp) ?_⟩
  · simp [ht, Trace.ofRecord, hne.symm]
  · simp [ht, Trace.ofRecord]

end ExportPlan

/-- **Every submission has its row on the root sheet**, whatever keys the submissions hold: one row
for each, in order, with the number of the submission and without a parent. The form has a codebook,
and its own questions leave the cells of these two links alone. The sheet holds nothing else just if
no submission holds an instance, at any depth, whose key names the form. -/
theorem exists_rootRows {form : Form} {options : Options} {book : Codebook}
    (hbook : Codebook.ofForm form options = .ok book)
    (hkeys : ∀ q, form.Holds form.name q →
      q.xpath = MetaKey.index ∨ q.xpath = MetaKey.parentIndex → q.KeepsInt options)
    (naming : SheetNaming) (data : DataFile) :
    ((ExportPlan.make book options naming).sheets[0]?.map (·.sectionName)) = some form.name ∧
    ∃ own, (ExportPlan.make book options naming).RootSheet (DataFile.readable data.submissions)
      (ExportPlan.rowsOn 0 ((ExportPlan.make book options naming).rows data)) own := by
  obtain ⟨rfl, -⟩ := Codebook.ofForm_eq_ok_iff.1 hbook
  set p := ExportPlan.madePlan form options naming with hp
  have hmem : form.name ∈ form.name :: form.repeats := List.mem_cons_self
  obtain ⟨sheet, hsheet, hname⟩ := ExportPlan.exists_sheet options naming hmem
  rw [ExportPlan.sheetOf_eq_zero_iff.2 rfl] at hsheet
  obtain ⟨hsub, heq⟩ := ExportPlan.rootSheet_writesAfter form options naming
    (DataFile.readable data.submissions) 0 KeyMap.empty
  refine ⟨(congrArg (Option.map _) hsheet).trans (congrArg some hname),
    p.submissionRows 0 (DataFile.readable data.submissions), ?_⟩
  rw [ExportPlan.rows_eq]
  refine ⟨List.length_mapIdx, fun n row hrow ↦ ?_, hsub, heq⟩
  rw [ExportPlan.submissionRows, List.getElem?_mapIdx, Option.map_eq_some_iff] at hrow
  obtain ⟨r, hr, rfl⟩ := hrow
  rw [Nat.zero_add]
  exact ⟨r, hr, ExportPlan.isRowOf_submissionRow hkeys n r⟩

/-- A form with a whole-number question that has the key of a row's number. -/
def countForm : Form where
  name := "visit"
  children := [.question { name := "_index", xpath := "_index", type := .integer },
    .question { name := "n", xpath := "n", type := .text }]

/-- A submission with an instance whose key names the form, and one without. -/
def strayData : DataFile where
  total := none
  submissions := [
    .ok [("n", .scalar (.text "a")), ("visit", .instances [[("n", .scalar (.text "x"))]])],
    .ok [("_index", .scalar (.int 9)), ("n", .scalar (.text "b"))]]

/-- The rows of both submissions are on the root sheet, but not alone. -/
theorem exists_rootRows_stray :
    Codebook.ofForm countForm {} = .ok (Codebook.made countForm {}) ∧
      ∃ own, (ExportPlan.make (Codebook.made countForm {}) {} .file).RootSheet
          (DataFile.readable strayData.submissions)
          (ExportPlan.rowsOn 0
            ((ExportPlan.make (Codebook.made countForm {}) {} .file).rows strayData)) own ∧
        ExportPlan.rowsOn 0
          ((ExportPlan.make (Codebook.made countForm {}) {} .file).rows strayData) ≠ own := by
  have hbook : Codebook.ofForm countForm {} = .ok (Codebook.made countForm {}) :=
    Codebook.ofForm_eq_ok_iff.2 ⟨rfl, by decide, by decide, by decide, by decide⟩
  have hkeeps : ∀ q ∈ countForm.questions, q.KeepsInt {} := by
    have hall : ∀ q ∈ countForm.questions, q.type.bindType ≠ .decimal ∧ q.type.isSelect = false ∧
        q.type ≠ .selectMultiple := by decide
    exact fun q hq ↦ ⟨(hall q hq).1, fun h ↦ by simp [(hall q hq).2.1] at h,
      fun h ↦ absurd h (hall q hq).2.2⟩
  obtain ⟨-, own, hown⟩ := exists_rootRows hbook (fun q hq _ ↦ hkeeps q hq.mem_questions) .file
    strayData
  have hvisit : KeyEscape.decode "visit" = "visit" := by decide
  refine ⟨hbook, own, hown, fun heq ↦ hown.eq_iff.1 heq _ List.mem_cons_self ?_⟩
  refine ⟨[(1, 0)], [("n", .scalar (.text "x"))], List.cons_ne_nil _ _, ?_⟩
  simp only [Record.at?, Record.child?, List.getElem?_cons_succ, List.getElem?_cons_zero,
    Option.map_some, Option.bind_some, hvisit]
  rfl

end SurveyExport
