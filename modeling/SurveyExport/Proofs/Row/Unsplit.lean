import SurveyExport.Proofs.Row.Chosen
import SurveyExport.Proofs.Row.Values

/-!
# Select-multiples without columns for choices

Where select-multiples are split, the answer to each is erased and the cells of its choices are put
in its place. A select-multiple without choices has its answer erased all the same. Since no other
question reads the cell, the row goes on as if there had been no answer (`Row.split_erase`).

In normal form the question then has the cell that another question writes to its xpath, if there is
one. A choice of a later select-multiple may do so; its cell is a value in every row only where
choices are marked with 1 and 0. `Section.Refills` says that there is such a choice, and
`Row.normalize_of_choices_eq_nil` collects what becomes of the answer.
-/

namespace SurveyExport

/-- Behind a select-multiple of a section there is another one with a choice that is split to its
xpath. -/
def Section.Refills (s : Section) (t : SplitQuestion) : Prop :=
  ∃ before after, s.splits = before ++ t :: after ∧ ∃ u ∈ after, ∃ c ∈ u.choices, c.key = t.xpath

namespace Row

variable {row row' : Row} {k x : String}

/-! ### The answer is dropped -/

section Split

variable {policy : SplitPolicy} {labelOf : String → String → Option String}
  {splits before after : List SplitQuestion} {q t : SplitQuestion}

/-- Splitting another answer takes no notice of what is under a key, but it may write to the key. -/
theorem erase_splitOne (h : q.xpath ≠ x) (row : Row) :
    (splitOne policy labelOf (row.erase x) q).erase x =
      (splitOne policy labelOf row q).erase x := by
  refine KeyMap.ext_get? fun k ↦ ?_
  rw [KeyMap.get?_erase, KeyMap.get?_erase]
  split
  · rfl
  · rename_i hk
    rw [splitOne_eq_foldl, splitOne_eq_foldl, KeyMap.get?_foldl_insert, KeyMap.get?_foldl_insert]
    simp [Ne.symm h, hk]

theorem erase_split (h : ∀ q ∈ splits, q.xpath ≠ x) (row : Row) :
    (split policy labelOf splits (row.erase x)).erase x =
      (split policy labelOf splits row).erase x := by
  induction splits generalizing row with
  | nil => exact KeyMap.ext_get? fun k ↦ by by_cases hk : x = k <;> simp [split, hk]
  | cons q rest ih =>
    have hrest := ih fun q' hq' ↦ h q' (List.mem_cons_of_mem _ hq')
    simp only [split, List.foldl_cons] at hrest ⊢
    rw [← hrest, erase_splitOne (h q List.mem_cons_self), hrest]

/-- Among questions with different xpaths, one without choices has its answer erased. -/
theorem split_append_cons (hempty : t.choices = []) (row : Row) :
    split policy labelOf (before ++ t :: after) row =
      split policy labelOf after ((split policy labelOf before row).erase t.xpath) := by
  rw [split, List.foldl_append, List.foldl_cons, splitOne, hempty]
  rfl

/-- **An answer to a question without choices makes no difference**: its cell is erased before
anything reads it. -/
theorem split_erase (hnd : (splits.map (·.xpath)).Nodup) (ht : t ∈ splits) (hempty : t.choices = [])
    (row : Row) :
    split policy labelOf splits (row.erase t.xpath) = split policy labelOf splits row := by
  obtain ⟨before, after, rfl⟩ := List.append_of_mem ht
  have hbefore : ∀ q ∈ before, q.xpath ≠ t.xpath := fun q hq ↦ ne_of_nodup_map hnd (.inl hq)
  rw [split_append_cons hempty, split_append_cons hempty, erase_split hbefore]

/-! ### What other questions write -/

/-- A key that no choice is split to, and that has no cell, has none afterwards. -/
theorem get?_split_eq_none (h : ∀ u ∈ splits, ∀ c ∈ u.choices, c.key ≠ k)
    (hrow : row.get? k = none) : (split policy labelOf splits row).get? k = none := by
  refine get?_foldl_of_eq (fun u hu row hrow ↦ ?_) hrow
  obtain ⟨c, hc, hkey, -⟩ | ⟨-, hget⟩ := get?_splitOne_cases policy labelOf row u k
  · exact absurd hkey (h u hu c hc)
  · rw [hget, hrow, ite_self]

/-- A number stays a number while other answers are split into numbers. -/
theorem get?_split_int (h : ∀ u ∈ splits, u.xpath ≠ k) {n : Int}
    (hrow : row.get? k = some (.int n)) :
    ∃ m, (split .binary labelOf splits row).get? k = some (.int m) := by
  induction splits generalizing row n with
  | nil => exact ⟨n, hrow⟩
  | cons u rest ih =>
    have hrest : ∀ u' ∈ rest, u'.xpath ≠ k := fun u' hu' ↦ h u' (List.mem_cons_of_mem _ hu')
    obtain ⟨c, hc, -, hget⟩ | ⟨-, hget⟩ := get?_splitOne_cases .binary labelOf row u k
    · exact ih hrest hget
    · rw [if_neg (h u List.mem_cons_self), hrow] at hget
      exact ih hrest hget

/-- So a choice that is split to a key leaves a number there. -/
theorem get?_split_binary (h : ∀ u ∈ splits, u.xpath ≠ k) {u : SplitQuestion} (hu : u ∈ splits)
    {c : ChoiceColumn} (hc : c ∈ u.choices) (hkey : c.key = k) (row : Row) :
    ∃ n, (split .binary labelOf splits row).get? k = some (.int n) := by
  obtain ⟨before, after, rfl⟩ := List.append_of_mem hu
  rw [split, List.foldl_append, List.foldl_cons]
  have hafter : ∀ u' ∈ after, u'.xpath ≠ k := fun u' hu' ↦
    h u' (List.mem_append_right _ (List.mem_cons_of_mem _ hu'))
  obtain ⟨d, -, -, hget⟩ | ⟨hnone, -⟩ :=
    get?_splitOne_cases .binary labelOf (before.foldl (splitOne .binary labelOf) row) u k
  · exact get?_split_int hafter hget
  · exact absurd hkey (hnone c hc)

/-- A row without values, except for the numbers of a policy that gives every choice one. -/
def Bare (policy : SplitPolicy) (row : Row) : Prop :=
  ∀ k c, row.get? k = some c → c = .null ∨ (policy = .binary ∧ ∃ n, c = .int n)

/-- Splitting keeps a row bare. -/
theorem Bare.splitOne (h : row.Bare policy) (q : SplitQuestion) :
    (splitOne policy labelOf row q).Bare policy := by
  intro k c hc
  obtain ⟨d, -, -, hget⟩ | ⟨-, hget⟩ := get?_splitOne_cases policy labelOf row q k
  · obtain rfl := Option.some.inj (hget.symm.trans hc)
    cases policy with
    | binary => exact .inr ⟨rfl, _, rfl⟩
    | boolean | value =>
      have hanswer : (row.get? q.xpath).filter (!·.isNull) = none := by
        cases hanswer : row.get? q.xpath with
        | none => rfl
        | some c =>
          obtain rfl | ⟨hpolicy, -⟩ := h _ _ hanswer
          · rfl
          · cases hpolicy
      simp [choiceCell, hanswer, SplitPolicy.cell, selected]
  · split at hget
    · rw [hget] at hc
      cases hc
    · exact h k c (hget.symm.trans hc)

theorem Bare.split (h : row.Bare policy) (splits : List SplitQuestion) :
    (split policy labelOf splits row).Bare policy :=
  List.foldlRecOn splits _ h fun _ hrow q _ ↦ hrow.splitOne q

/-- A bare row has no geopoint to split. -/
theorem Bare.splitPoints_eq (h : row.Bare policy) (points : List Point) :
    splitPoints points row = row := by
  induction points with
  | nil => rfl
  | cons p rest ih =>
    have hpoint : splitPoint row p = row := by
      have htext : (row.get? p.xpath).bind Cell.text? = none := by
        cases hget : row.get? p.xpath with
        | none => rfl
        | some c =>
          obtain rfl | ⟨-, n, rfl⟩ := h _ _ hget
          · rfl
          · rfl
      simp [splitPoint, htext]
    rw [splitPoints, List.foldl_cons, hpoint]
    exact ih

/-- Splitting geopoints takes no value away. -/
theorem HasValue.splitPoints (h : row.HasValue k) (points : List Point) :
    (splitPoints points row).HasValue k := by
  have hinsert : ∀ {row : Row} {key word : String}, row.HasValue k →
      HasValue (row.insert key (.text word)) k := by
    intro row key word hrow
    rw [HasValue, isNullAt?, KeyMap.get?_insert]
    split
    · rfl
    · exact hrow
  refine List.foldlRecOn (motive := fun row : Row ↦ row.HasValue k) points _ h
    fun row hrow p _ ↦ ?_
  simp only [splitPoint]
  split
  · split
    · exact List.foldlRecOn (motive := fun row : Row ↦ row.HasValue k) _ _ hrow
        fun row hrow e _ ↦ hinsert hrow
    · exact hrow
  · exact hrow

end Split

/-! ### Which questions keep a value -/

variable {options : Options} {s : Section} {t : SplitQuestion}

/-- A row with nothing but an answer: all other xpaths that may be restored have null cells. -/
def only (s : Section) (x : String) (answer : Cell) : Row :=
  (KeyMap.ofList (s.storedKeys.map fun e ↦ (e.1, Cell.null))).insert x answer

theorem get?_only (answer : Cell) {k : String} {c : Cell} (h : (only s x answer).get? k = some c) :
    (k = x ∧ c = answer) ∨ (k ≠ x ∧ c = .null) := by
  rw [only, KeyMap.get?_insert] at h
  split at h
  · rename_i hk
    exact .inl ⟨hk.symm, (Option.some.inj h).symm⟩
  · rename_i hk
    obtain ⟨e, -, heq⟩ := List.mem_map.1 (KeyMap.mem_of_get?_ofList h)
    exact .inr ⟨Ne.symm hk, (Prod.mk.inj heq).2.symm⟩

theorem restoreKeys_only (s : Section) (x : String) (answer : Cell) :
    restoreKeys s.storedKeys (only s x answer) = only s x answer := by
  refine restoreKeys_eq_self fun e he ↦ .inl ?_
  have hnull : (KeyMap.ofList (s.storedKeys.map fun e ↦ (e.1, Cell.null))).get? e.1 =
      some .null := by
    refine KeyMap.get?_foldl_insert_of_mem ?_ (fun w hw ↦ ?_) _
    · exact List.mem_map.2 ⟨e, he, rfl⟩
    · obtain ⟨d, -, heq⟩ := List.mem_map.1 hw
      exact (Prod.mk.inj heq).2.symm
  rw [KeyMap.contains, only, KeyMap.get?_insert, hnull]
  split <;> rfl

section Empty

variable (hxpaths : (s.splits.map (·.xpath)).Nodup) (hsplit : options.splitSelectMultiples = true)
  (ht : t ∈ s.splits) (hempty : t.choices = []) (book : Codebook)

include hxpaths hsplit ht hempty

/-- Rows that differ only in the answer to a question without choices have the same normal form. -/
theorem normalize_congr_of_erase (h : (restoreKeys s.storedKeys row).erase t.xpath =
      (restoreKeys s.storedKeys row').erase t.xpath) :
    row.normalize book options s = row'.normalize book options s := by
  simp only [normalize, typed, answered, parted, hsplit, if_true]
  rw [← split_erase hxpaths ht hempty, h, split_erase hxpaths ht hempty]

omit hxpaths hsplit in
/-- Where the answer to a question without choices stood, splitting leaves what the questions behind
it write. -/
theorem get?_split_eq_none_of_not_refills (h : ¬ s.Refills t) (policy : SplitPolicy)
    (labelOf : String → String → Option String) (row : Row) :
    (split policy labelOf s.splits row).get? t.xpath = none := by
  obtain ⟨before, after, hparts⟩ := List.append_of_mem ht
  rw [hparts, split_append_cons hempty]
  refine get?_split_eq_none (fun u hu c hc hkey ↦ h ⟨before, after, hparts, u, hu, c, hc, hkey⟩) ?_
  rw [KeyMap.get?_erase, if_pos rfl]

omit hxpaths in
/-- A question that no other one writes to has no cell in normal form. -/
theorem get?_normalize_eq_none (h : ¬ s.Refills t)
    (hpoints : ∀ p ∈ s.points, t.xpath ∉ p.components) (row : Row) :
    (row.normalize book options s).get? t.xpath = none := by
  have hparted : (parted book options s row).get? t.xpath = none := by
    rw [parted, get?_splitPoints hpoints, if_pos hsplit]
    exact get?_split_eq_none_of_not_refills ht hempty h _ _ _
  have hnull := isNullAt?_normalize book options s row t.xpath
  rw [isNullAt?, isNullAt?, hparted] at hnull
  exact Option.map_eq_none_iff.1 hnull

/-- If the answer is all that a row has, a question keeps no value unless it is refilled with a
number. -/
theorem not_hasValue_normalize_only
    (h : ¬ (SplitPolicy.ofOptions options = .binary ∧ s.Refills t)) (answer : Cell) :
    ¬ ((only s t.xpath answer).normalize book options s).HasValue t.xpath := by
  set policy := SplitPolicy.ofOptions options with hpolicy
  have hbare : Bare policy ((only s t.xpath answer).erase t.xpath) := fun k c hc ↦ by
    rw [KeyMap.get?_erase] at hc
    split at hc
    · cases hc
    · rename_i hk
      obtain ⟨rfl, -⟩ | ⟨-, hnull⟩ := get?_only answer hc
      · exact absurd rfl hk
      · exact .inl hnull
  have hsplits : Bare policy (split policy (shownChoice book options) s.splits
      ((only s t.xpath answer).erase t.xpath)) := hbare.split s.splits
  rw [HasValue, isNullAt?_normalize, parted, restoreKeys_only, if_pos hsplit, ← hpolicy,
    ← split_erase hxpaths ht hempty, hsplits.splitPoints_eq, isNullAt?]
  intro hvalue
  obtain ⟨c, hget, hc⟩ := Option.map_eq_some_iff.1 hvalue
  obtain rfl | ⟨hbinary, -⟩ := hsplits _ _ hget
  · cases hc
  · have hnone := get?_split_eq_none_of_not_refills ht hempty
      (fun hrefills ↦ h ⟨hbinary, hrefills⟩) policy (shownChoice book options)
      ((only s t.xpath answer).erase t.xpath)
    rw [hnone] at hget
    cases hget

omit ht in
/-- A question that is refilled with a number has a value, whatever the row. -/
theorem hasValue_normalize_of_refills (hpolicy : SplitPolicy.ofOptions options = .binary)
    (h : s.Refills t) (row : Row) : (row.normalize book options s).HasValue t.xpath := by
  obtain ⟨before, after, hparts, u, hu, c, hc, hkey⟩ := h
  have hafter : ∀ u ∈ after, u.xpath ≠ t.xpath := fun u hu ↦
    ne_of_nodup_map (hparts ▸ hxpaths) (.inr hu)
  rw [HasValue, isNullAt?_normalize, parted, if_pos hsplit, hpolicy]
  refine HasValue.splitPoints ?_ _
  rw [hparts, split_append_cons hempty]
  obtain ⟨n, hn⟩ := get?_split_binary hafter hu hc hkey _
  rw [HasValue, isNullAt?, hn]
  rfl

end Empty

/-- **What becomes of the answer to a select-multiple without columns for choices**, where
select-multiples are split. The normal form of a row does not depend on it, and has no cell in its
place unless another question writes one. Every row with an answer has a value there just if a
later question refills it with a number. -/
theorem normalize_of_choices_eq_nil {form : Form} {book : Codebook}
    (hbook : Codebook.ofForm form options = .ok book) (hs : s ∈ book.sections)
    (hsplit : options.splitSelectMultiples = true) (ht : t ∈ s.splits) (hempty : t.choices = []) :
    (∀ row row' : Row, (restoreKeys s.storedKeys row).erase t.xpath =
        (restoreKeys s.storedKeys row').erase t.xpath →
      row.normalize book options s = row'.normalize book options s) ∧
    (¬ s.Refills t → (∀ p ∈ s.points, t.xpath ∉ p.components) →
      ∀ row : Row, (row.normalize book options s).get? t.xpath = none) ∧
    ((∀ row : Row, row.HasValue t.xpath → (row.normalize book options s).HasValue t.xpath) ↔
      SplitPolicy.ofOptions options = .binary ∧ s.Refills t) := by
  obtain ⟨rfl, -, -, hform, -⟩ := Codebook.ofForm_eq_ok_iff.1 hbook
  have hxpaths : (s.splits.map (·.xpath)).Nodup := by
    obtain ⟨-, hsection⟩ := Codebook.eq_sectionNamed_of_mem hs
    rw [hsection, Codebook.sectionNamed, Section.splits_ofQuestions]
    exact nodup_map_flatMap_ite SplitQuestion.xpath (fun _ ↦ rfl) _ hform s.name
  refine ⟨fun _ _ ↦ normalize_congr_of_erase hxpaths hsplit ht hempty _,
    fun h hpoints ↦ get?_normalize_eq_none hsplit ht hempty _ h hpoints, fun hkeeps ↦ ?_,
    fun h row _ ↦ hasValue_normalize_of_refills hxpaths hsplit hempty _ h.1 h.2 row⟩
  by_contra h
  refine not_hasValue_normalize_only hxpaths hsplit ht hempty _ h (.text "a") (hkeeps _ ?_)
  rw [HasValue, isNullAt?, only, KeyMap.get?_insert, if_pos rfl]
  rfl

/-- A form whose only question is a select-multiple without choices. -/
def toolForm : Form where
  name := "visit"
  children := [.question { name := "tools", xpath := "tools", type := .selectMultiple }]

/-- A row with an answer to the question. -/
def toolRow : Row := KeyMap.ofList [("tools", .text "hoe rake")]

/-- In the normal form of the row there is no answer. -/
theorem normalize_of_choices_eq_nil_toolForm :
    let book := Codebook.made toolForm {}
    let tools : SplitQuestion := ⟨"tools", []⟩
    Codebook.ofForm toolForm {} = .ok book ∧ tools ∈ book.root.splits ∧
      toolRow.get? "tools" = some (.text "hoe rake") ∧
      (toolRow.normalize book {} book.root).get? "tools" = none := by
  intro book tools
  have hbook : Codebook.ofForm toolForm {} = .ok book :=
    Codebook.ofForm_eq_ok_iff.2 ⟨rfl, by decide, by decide, by decide, by decide⟩
  have hsplits : book.root.splits = [tools] := rfl
  have hrefills : ¬ book.root.Refills tools := by
    rintro ⟨before, after, hparts, u, hu, -⟩
    have hlength := congrArg List.length (hsplits.symm.trans hparts)
    simp only [List.length_append, List.length_cons, List.length_nil] at hlength
    have hafter := List.length_pos_of_mem hu
    omega
  have hmem : tools ∈ book.root.splits := hsplits ▸ List.mem_cons_self
  obtain ⟨-, hnone, -⟩ := normalize_of_choices_eq_nil hbook List.mem_cons_self rfl hmem rfl
  exact ⟨hbook, hmem, rfl, hnone hrefills (fun p hp ↦ nomatch hp) toolRow⟩

end Row

end SurveyExport
