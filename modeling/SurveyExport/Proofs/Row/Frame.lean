import SurveyExport.Proofs.Codebook.Columns
import SurveyExport.Proofs.KeyMap
import SurveyExport.Proofs.Row.References
import SurveyExport.Row.Normal

/-!
# What normalising a row leaves alone

Each step from a row to its normal form writes to keys that the section lists. `Row.Untouched` says
that a key is in none of the lists; the cell under such a key goes through all steps but the last,
which replaces references in texts (`Row.get?_normalize`). A cell that is no text, and a text in
which no reference begins, is left as it is.
-/

namespace SurveyExport

namespace Row

/-! ### Single steps -/

/-- Steps that leave a key alone leave it alone together. -/
theorem get?_foldl {α : Type} {step : Row → α → Row} {items : List α} {k : String}
    (h : ∀ row, ∀ x ∈ items, (step row x).get? k = row.get? k) (row : Row) :
    (items.foldl step row).get? k = row.get? k := by
  induction items generalizing row with
  | nil => rfl
  | cons x rest ih =>
    rw [List.foldl_cons, ih fun row y hy ↦ h row y (List.mem_cons_of_mem _ hy)]
    exact h row x List.mem_cons_self

/-- Steps that keep what is found under a key keep it together. -/
theorem get?_foldl_of_eq {α : Type} {step : Row → α → Row} {items : List α} {k : String}
    {c : Option Cell} (h : ∀ x ∈ items, ∀ row : Row, row.get? k = c → (step row x).get? k = c)
    {row : Row} (hrow : row.get? k = c) : (items.foldl step row).get? k = c := by
  induction items generalizing row with
  | nil => exact hrow
  | cons x rest ih =>
    exact ih (fun y hy ↦ h y (List.mem_cons_of_mem _ hy)) (h x List.mem_cons_self row hrow)

theorem get?_restoreKey {row : Row} {e : String × String} {k : String} (h : k ≠ e.1)
    (h' : k ≠ e.2) : (restoreKey row e).get? k = row.get? k := by
  simp only [restoreKey]
  split
  · rfl
  · split
    · simp [Ne.symm h, Ne.symm h']
    · rfl

theorem get?_splitOne {policy : SplitPolicy} {labelOf : String → String → Option String}
    {row : Row} {q : SplitQuestion} {k : String} (h : k ≠ q.xpath)
    (h' : ∀ c ∈ q.choices, k ≠ c.key) : (splitOne policy labelOf row q).get? k = row.get? k := by
  rw [splitOne, get?_foldl fun row c hc ↦ by simp [Ne.symm (h' c hc)]]
  simp [Ne.symm h]

theorem get?_splitPoint {row : Row} {p : Point} {k : String} (h : k ∉ p.components) :
    (splitPoint row p).get? k = row.get? k := by
  simp only [splitPoint]
  split
  · split
    · refine get?_foldl (fun row e he ↦ ?_) row
      have hne : e.1 ≠ k := fun heq ↦ h (heq ▸ (List.of_mem_zip he).1)
      simp [hne]
    · rfl
  · rfl

theorem get?_labelOne {labelOf : String → String → Option String} {row : Row} {xpath k : String}
    (h : k ≠ xpath) : (labelOne labelOf row xpath).get? k = row.get? k := by
  simp only [labelOne]
  split
  · simp [Ne.symm h]
  · rfl

theorem get?_coerceColumn {row : Row} {column : Column} {k : String} (h : k ≠ column.key) :
    (coerceColumn row column).get? k = row.get? k := by
  simp only [coerceColumn]
  split
  · simp [Ne.symm h]
  · rfl

theorem get?_coerceColumn_self (row : Row) (column : Column) :
    (coerceColumn row column).get? column.key =
      (row.get? column.key).map fun c ↦ if c.isBlank then c else c.coerce column.type := by
  cases hget : row.get? column.key <;> simp [coerceColumn, hget]

theorem get?_coerceTime {row : Row} {k : String} (h : k ≠ MetaKey.submissionTime) :
    (coerceTime row).get? k = row.get? k := by
  simp only [coerceTime]
  split
  · simp [Ne.symm h]
  · rfl

theorem get?_coerceTime_self (row : Row) : (coerceTime row).get? MetaKey.submissionTime =
    (row.get? MetaKey.submissionTime).map Cell.coerceSubmissionTime := by
  cases hget : row.get? MetaKey.submissionTime <;> simp [coerceTime, hget]

theorem get?_substitute (row : Row) (k : String) :
    row.substitute.get? k = (row.get? k).map (substituteCell row) := by
  rw [substitute, KeyMap.get?_mapValues]

@[simp] theorem substituteCell_int (row : Row) (n : Int) :
    substituteCell row (.int n) = .int n := rfl

/-- A text in which no reference begins is not changed. -/
theorem substituteFrom_eq_self (value : String → Option String) {cs : List Char}
    (h : ¬ ['$', '{'] <:+: cs) : substituteFrom value 0 cs = cs := by
  refine substituteFrom_of_isPlain value fun key _ hin ↦ h ?_
  exact (show ['$', '{'] <+: referenceText key from ⟨key ++ ['}'], rfl⟩).isInfix.trans hin

theorem substituteCell_text (row : Row) {s : String} (h : ¬ ['$', '{'] <:+: s.toList) :
    substituteCell row (.text s) = .text s := by
  rw [substituteCell, substituteFrom_eq_self _ h, String.ofList_toList]

/-! ### All steps -/

/-- A key that no step of a section's normal form writes to, except for references in its cell. -/
structure Untouched (s : Section) (k : String) : Prop where
  storedKeys : ∀ e ∈ s.storedKeys, k ≠ e.1 ∧ k ≠ e.2
  splits : ∀ q ∈ s.splits, k ≠ q.xpath ∧ ∀ c ∈ q.choices, k ≠ c.key
  points : ∀ p ∈ s.points, k ∉ p.components
  selectOnes : k ∉ s.selectOnes
  columns : ∀ c ∈ s.columns, k ≠ c.key
  time : k ≠ MetaKey.submissionTime

/-- Restoring leaves a row alone in which every listed xpath has a cell, or its stored key none. -/
theorem restoreKeys_eq_self {storedKeys : List (String × String)} {row : Row}
    (h : ∀ e ∈ storedKeys, row.contains e.1 = true ∨ row.get? e.2 = none) :
    restoreKeys storedKeys row = row := by
  induction storedKeys with
  | nil => rfl
  | cons e rest ih =>
    have hkey : restoreKey row e = row := by
      rw [restoreKey]
      split
      · rfl
      · rename_i hcell
        rw [(h e List.mem_cons_self).resolve_left hcell]
    rw [restoreKeys, List.foldl_cons, hkey]
    exact ih fun e he ↦ h e (List.mem_cons_of_mem _ he)

theorem get?_restoreKeys {storedKeys : List (String × String)} {k : String}
    (h : ∀ e ∈ storedKeys, k ≠ e.1 ∧ k ≠ e.2) (row : Row) :
    (restoreKeys storedKeys row).get? k = row.get? k :=
  get?_foldl (fun _ e he ↦ get?_restoreKey (h e he).1 (h e he).2) row

/-- A key that no select-multiple is split to keeps its cell if they are split. -/
theorem get?_ite_split {options : Options} {splits : List SplitQuestion} {k : String}
    (h : options.splitSelectMultiples = true →
      ∀ q ∈ splits, k ≠ q.xpath ∧ ∀ c ∈ q.choices, k ≠ c.key) (policy : SplitPolicy)
    (labelOf : String → String → Option String) (row : Row) :
    (if options.splitSelectMultiples then split policy labelOf splits row else row).get? k =
      row.get? k := by
  split
  · rename_i hsplit
    exact get?_foldl (fun _ q hq ↦ get?_splitOne (h hsplit q hq).1 (h hsplit q hq).2) row
  · rfl

theorem get?_splitPoints {points : List Point} {k : String}
    (h : ∀ p ∈ points, k ∉ p.components) (row : Row) :
    (splitPoints points row).get? k = row.get? k :=
  get?_foldl (fun _ p hp ↦ get?_splitPoint (h p hp)) row

/-- A cell that labelling keeps is kept if answers are labelled. -/
theorem get?_ite_label {options : Options} {keys : List String} {k : String}
    {labelOf : String → String → Option String} {row : Row}
    (h : options.showChoiceLabels = true → ∀ x ∈ keys, ∀ row' : Row, row'.get? k = row.get? k →
      (labelOne labelOf row' x).get? k = row.get? k) :
    (if options.showChoiceLabels then labelAnswers labelOf keys row else row).get? k =
      row.get? k := by
  split
  · rename_i hshow
    exact get?_foldl_of_eq (h hshow) rfl
  · rfl

/-- A key that is neither restored nor split nor labelled keeps its cell up to there. -/
theorem get?_answered {options : Options} {s : Section} {k : String}
    (hstored : ∀ e ∈ s.storedKeys, k ≠ e.1 ∧ k ≠ e.2)
    (hsplits : options.splitSelectMultiples = true →
      ∀ q ∈ s.splits, k ≠ q.xpath ∧ ∀ c ∈ q.choices, k ≠ c.key)
    (hpoints : ∀ p ∈ s.points, k ∉ p.components)
    (hlabels : options.showChoiceLabels = true → k ∉ labelledKeys options s) (book : Codebook)
    (row : Row) : (answered book options s row).get? k = row.get? k := by
  have hlabelled : options.showChoiceLabels = true → ∀ x ∈ labelledKeys options s, k ≠ x := by
    rintro hshow x hx rfl
    exact hlabels hshow hx
  rw [answered, get?_ite_label fun hshow x hx row' hrow ↦
    (get?_labelOne (hlabelled hshow x hx)).trans hrow, parted, get?_splitPoints hpoints,
    get?_ite_split hsplits, get?_restoreKeys hstored]

/-- **A key that is not touched keeps its cell** up to the last step. -/
theorem get?_typed {s : Section} {k : String} (h : Untouched s k) (book : Codebook)
    (options : Options) (row : Row) : (typed book options s row).get? k = row.get? k := by
  have hlabels : k ∉ labelledKeys options s := by
    rw [labelledKeys, List.mem_append, not_or]
    refine ⟨h.selectOnes, fun hmem ↦ ?_⟩
    split at hmem
    · simp at hmem
    · obtain ⟨q, hq, heq⟩ := List.mem_map.1 hmem
      exact (h.splits q hq).1 heq.symm
  rw [typed, get?_coerceTime h.time,
    get?_foldl fun row c hc ↦ get?_coerceColumn (h.columns c hc),
    get?_answered h.storedKeys (fun _ ↦ h.splits) h.points fun _ ↦ hlabels]

/-- A cell that the columns with its key keep is kept when cells take their types. -/
theorem get?_typed_of_answered {book : Codebook} {options : Options} {s : Section} {row : Row}
    {k : String} {c : Cell} (htime : k ≠ MetaKey.submissionTime)
    (hcolumns : ∀ column ∈ s.columns, column.key = k → c.isBlank = true ∨ c.coerce column.type = c)
    (hrow : (answered book options s row).get? k = some c) :
    (typed book options s row).get? k = some c := by
  rw [typed, get?_coerceTime htime]
  refine get?_foldl_of_eq (fun column hcolumn row hget ↦ ?_) hrow
  by_cases hkey : column.key = k
  · rw [← hkey, get?_coerceColumn_self, hkey, hget]
    rcases hcolumns column hcolumn hkey with hblank | hcoerce
    · simp [hblank]
    · simp [hcoerce]
  · rw [get?_coerceColumn (Ne.symm hkey), hget]

/-- In the last step only references in the cell are replaced. -/
theorem get?_normalize {s : Section} {k : String} (h : Untouched s k) (book : Codebook)
    (options : Options) (row : Row) :
    (row.normalize book options s).get? k =
      (row.get? k).map (substituteCell (typed book options s row)) := by
  rw [normalize, get?_substitute, get?_typed h]

end Row

/-! ### The keys of a question -/

namespace Form

/-- The keys of the columns of a question: its own and those derived from it. -/
def ownKeys (form : Form) (options : Options) (q : Question) : List String :=
  q.xpath :: (form.derivedColumns options q).map (·.key)

variable {form : Form} {options : Options} {q : Question}

/-- The columns that a select-multiple is split into are its own. -/
theorem choiceKey_mem_ownKeys (h : q.type = .selectMultiple) {c : ChoiceColumn}
    (hc : c ∈ if options.splitSelectMultiples then form.choiceColumns options q else []) :
    c.key ∈ form.ownKeys options q := by
  refine List.mem_cons_of_mem _ ?_
  simp only [derivedColumns, h]
  split at hc
  · rename_i hsplit
    rw [if_pos hsplit, List.map_map]
    exact List.mem_map_of_mem hc
  · simp at hc

/-- The columns of the components of a geopoint are its own. -/
theorem pointKey_mem_ownKeys (h : q.type = .geopoint) {key : String}
    (hkey : key ∈ pointKeys q.xpath) : key ∈ form.ownKeys options q := by
  refine List.mem_cons_of_mem _ ?_
  simp only [derivedColumns, h, List.map_map]
  exact List.mem_map.2 ⟨key, hkey, rfl⟩

end Form

namespace Section

variable {form : Form} {options : Options} {name : String} {questions : List Question}

/-- The key of a column is one of those of a question. -/
theorem exists_key_of_mem_columns {c : Column}
    (h : c ∈ (ofQuestions form options name questions).columns) :
    ∃ q ∈ questions, q.type.isNote = false ∧ c.key ∈ form.ownKeys options q := by
  obtain ⟨q, hq, hnote, rfl | hc⟩ := exists_question_of_mem_columns h
  · exact ⟨q, hq, hnote, List.mem_cons_self⟩
  · exact ⟨q, hq, hnote, List.mem_cons_of_mem _ (List.mem_map_of_mem hc)⟩

/-- A question that is no note has a column. -/
theorem exists_column_of_mem {q : Question} (hq : q ∈ questions) (hnote : q.type.isNote = false) :
    ∃ c ∈ (ofQuestions form options name questions).columns, c.key = q.xpath := by
  have hcolumn : form.questionColumn options q ∈
      (ofQuestions form options name questions).questionColumns := by
    rw [questionColumns_ofQuestions]
    exact List.mem_map_of_mem (List.mem_filter.2 ⟨hq, by simp [hnote]⟩)
  exact ⟨_, (List.mem_filter.1 hcolumn).1, rfl⟩

/-- All xpaths that a section lists are keys of its columns, so a key is not touched if it is
neither that of a column nor one of the other keys that the section lists. -/
theorem untouched_of_columns {k : String}
    (hcolumns : ∀ c ∈ (ofQuestions form options name questions).columns, k ≠ c.key)
    (hstored : ∀ e ∈ (ofQuestions form options name questions).storedKeys, k ≠ e.2)
    (hchoices : ∀ t ∈ (ofQuestions form options name questions).splits,
      ∀ c ∈ t.choices, k ≠ c.key)
    (hpoints : ∀ p ∈ (ofQuestions form options name questions).points, k ∉ p.components)
    (htime : k ≠ MetaKey.submissionTime) :
    Row.Untouched (ofQuestions form options name questions) k := by
  have hxpath : ∀ q ∈ questions, q.type.isNote = false → k ≠ q.xpath := by
    intro q hq hnote
    have hcolumn : ∃ c ∈ (ofQuestions form options name questions).columns, c.key = q.xpath :=
      exists_column_of_mem hq hnote
    obtain ⟨c, hc, hkey⟩ := hcolumn
    exact hkey ▸ hcolumns c hc
  refine ⟨fun e he ↦ ⟨?_, hstored e he⟩, fun t ht ↦ ⟨?_, hchoices t ht⟩, hpoints, fun hmem ↦ ?_,
    hcolumns, htime⟩
  · obtain ⟨q, hq, hcond, rfl⟩ := mem_storedKeys_iff.1 he
    exact hxpath q hq (by simpa using (Bool.and_eq_true_iff.1 hcond).1)
  · obtain ⟨q, hq, htype, rfl⟩ := mem_splits_iff.1 ht
    exact hxpath q hq (by rw [htype]; rfl)
  · obtain ⟨q, hq, htype, rfl⟩ := mem_selectOnes_iff.1 hmem
    exact hxpath q hq (by rw [htype]; rfl) rfl

/-- A key is not touched if it belongs to no question of the section. -/
theorem untouched_ofQuestions {k : String}
    (hkeys : ∀ q ∈ questions, q.type.isNote = false → k ∉ form.ownKeys options q)
    (hstored : ∀ q ∈ questions, KeyEscape.isRefused q.xpath → k ≠ KeyEscape.encode q.xpath)
    (htime : k ≠ MetaKey.submissionTime) :
    Row.Untouched (ofQuestions form options name questions) k := by
  refine untouched_of_columns ?_ (fun e he ↦ ?_) (fun t ht c hc hkey ↦ ?_) (fun p hp hmem ↦ ?_)
    htime
  · rintro c hc rfl
    obtain ⟨q, hq, hnote, hmem⟩ := exists_key_of_mem_columns hc
    exact hkeys q hq hnote hmem
  · obtain ⟨q, hq, hcond, rfl⟩ := mem_storedKeys_iff.1 he
    exact hstored q hq (Bool.and_eq_true_iff.1 hcond).2
  · obtain ⟨q, hq, htype, rfl⟩ := mem_splits_iff.1 ht
    exact hkeys q hq (by rw [htype]; rfl) (hkey ▸ Form.choiceKey_mem_ownKeys htype hc)
  · obtain ⟨q, hq, htype, rfl⟩ := mem_points_iff.1 hp
    exact hkeys q hq (by rw [htype]; rfl) (Form.pointKey_mem_ownKeys htype hmem)

end Section

end SurveyExport
