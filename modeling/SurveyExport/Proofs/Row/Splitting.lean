import Mathlib.Data.List.Pairwise
import SurveyExport.Proofs.Row.Values
import SurveyExport.Proofs.Text.Blank

/-!
# Splitting select-multiples

A row goes through a list of select-multiples, which are split one after the other. If no key is
that of two of their questions or choices (`Row.KeysApart`), none of them reads or writes what
another one does, and the row that comes out can be told from the row that went in
(`Row.isSplit_split`): the answers are gone, each choice has a cell that depends on the answer to
its question alone, and all other cells are kept. A row is determined by this
(`Row.IsSplit.unique`), so the order of the select-multiples makes no difference
(`Row.isSplit_split_and_perm`).

Of the three policies only the one with true and false tells a question without an answer from one
that is answered by an empty text. The policy that marks choices with 1 and 0 has 0 for both, and
the policy that shows names has nothing for both (`Row.get?_split_of_unanswered`).
-/

namespace SurveyExport

/-- The keys that splitting a select-multiple writes to: its own and those of its choices. -/
def SplitQuestion.keys (q : SplitQuestion) : List String := q.xpath :: q.choices.map (·.key)

theorem SplitQuestion.key_mem_keys {q : SplitQuestion} {c : ChoiceColumn} (hc : c ∈ q.choices) :
    c.key ∈ q.keys :=
  List.mem_cons_of_mem _ (List.mem_map_of_mem hc)

namespace SplitPolicy

/-- The cell of a choice that is selected; the text is its label or its name. -/
def chosen (policy : SplitPolicy) (text : String) : Cell :=
  match policy with
  | .boolean => .bool true
  | .binary => .int 1
  | .value => .text text

/-- The cell of a choice that is not among those selected. -/
def notChosen : SplitPolicy → Cell
  | .boolean => .bool false
  | .binary => .int 0
  | .value => .null

/-- The cell of a choice whose question has no answer. -/
def unanswered : SplitPolicy → Cell
  | .boolean => .null
  | .binary => .int 0
  | .value => .null

end SplitPolicy

namespace Row

variable {policy : SplitPolicy} {labelOf : String → String → Option String}
  {splits : List SplitQuestion} {q q' : SplitQuestion} {c d : ChoiceColumn} {row row' : Row}

/-! ### The cell of a choice -/

/-- An answer marks the choices whose names are its words. -/
theorem choiceCell_of_isNull_eq_false {answer : Cell} (hnull : answer.isNull = false)
    (policy : SplitPolicy) (text name : String) :
    choiceCell policy text name (some answer) =
      if Text.IsWordOf name answer.display then policy.chosen text else policy.notChosen := by
  have hgiven : (some answer).filter (!·.isNull) = some answer := by simp [Option.filter, hnull]
  by_cases hword : Text.IsWordOf name answer.display
  · have hmem := List.contains_iff_mem.2 (Text.mem_words_iff.2 hword)
    rw [if_pos hword]
    cases policy <;> simp only [choiceCell, hgiven, selected, hmem] <;> rfl
  · have hmem : (Text.words answer.display).contains name = false := by
      rwa [← Bool.not_eq_true, List.contains_iff_mem, Text.mem_words_iff]
    rw [if_neg hword]
    cases policy <;> simp only [choiceCell, hgiven, selected, hmem] <;> rfl

theorem choiceCell_of_not_hasValue {k : String} (h : ¬ row.HasValue k) (policy : SplitPolicy)
    (text name : String) :
    choiceCell policy text name (row.get? k) = policy.unanswered := by
  have hnone : (row.get? k).filter (!·.isNull) = none := by
    cases hget : row.get? k with
    | none => rfl
    | some answer =>
      have hnull : answer.isNull = true := by
        simpa using fun hvalue ↦ h (hasValue_iff.2 ⟨answer, hget, hvalue⟩)
      simp [hnull]
  cases policy <;>
    simp [choiceCell, selected, hnone, SplitPolicy.cell, SplitPolicy.unanswered]

/-! ### Select-multiples that keep apart -/

theorem get?_splitOne_of_not_mem {k : String} (hk : k ∉ q.keys) (row : Row) :
    (splitOne policy labelOf row q).get? k = row.get? k :=
  get?_splitOne (fun heq ↦ hk (heq ▸ List.mem_cons_self)) fun _ hc heq ↦
    hk (heq ▸ SplitQuestion.key_mem_keys hc)

/-- No key is that of two of the questions and choices. -/
def KeysApart (splits : List SplitQuestion) : Prop := (splits.flatMap (·.keys)).Nodup

instance (splits : List SplitQuestion) : Decidable (KeysApart splits) :=
  inferInstanceAs (Decidable (List.Nodup _))

theorem KeysApart.perm (h : KeysApart splits) {order : List SplitQuestion}
    (hperm : order.Perm splits) : KeysApart order :=
  (hperm.flatMap_right _).nodup_iff.2 h

theorem KeysApart.nodup_keys (h : KeysApart splits) (hq : q ∈ splits) : q.keys.Nodup :=
  (List.nodup_flatMap.1 h).1 q hq

/-- A key is that of one question only. -/
theorem KeysApart.eq_of_mem_keys (h : KeysApart splits) (hq : q ∈ splits) (hq' : q' ∈ splits)
    {k : String} (hk : k ∈ q.keys) (hk' : k ∈ q'.keys) : q' = q := by
  by_contra hne
  have : Std.Symm (Function.onFun List.Disjoint SplitQuestion.keys) :=
    ⟨fun _ _ hdisjoint _ hk hk' ↦ hdisjoint hk' hk⟩
  exact (List.nodup_flatMap.1 h).2.forall hq' hq hne hk' hk

theorem KeysApart.nodup (h : KeysApart splits) : splits.Nodup := by
  refine (List.nodup_flatMap.1 h).2.imp fun {q q'} hdisjoint heq ↦ ?_
  subst heq
  exact hdisjoint List.mem_cons_self List.mem_cons_self

theorem KeysApart.key_ne (h : KeysApart splits) (hq : q ∈ splits) (hc : c ∈ q.choices) :
    c.key ≠ q.xpath := fun heq ↦
  (List.nodup_cons.1 (h.nodup_keys hq)).1 (heq ▸ List.mem_map_of_mem hc)

theorem KeysApart.eq_of_key_eq (h : KeysApart splits) (hq : q ∈ splits) (hc : c ∈ q.choices)
    (hd : d ∈ q.choices) (hkey : c.key = d.key) : c = d :=
  List.inj_on_of_nodup_map (List.nodup_cons.1 (h.nodup_keys hq)).2 hc hd hkey

/-! ### All select-multiples -/

/-- Splitting leaves a key to the one question that has it. -/
theorem exists_get?_split_eq (h : KeysApart splits) (hq : q ∈ splits) {k : String}
    (hk : k ∈ q.keys) (row : Row) :
    ∃ row' : Row, row'.get? q.xpath = row.get? q.xpath ∧
      (split policy labelOf splits row).get? k = (splitOne policy labelOf row' q).get? k := by
  have hframe : ∀ k ∈ q.keys, ∀ row, ∀ q' ∈ splits, q' ≠ q →
      (splitOne policy labelOf row q').get? k = row.get? k := by
    intro k hk row q' hq' hne
    exact get?_splitOne_of_not_mem (fun hk' ↦ hne (h.eq_of_mem_keys hq hq' hk hk')) row
  obtain ⟨row', -, hanswer, heq⟩ := get?_foldl_of_mem h.nodup hq (hframe k hk)
    (hframe _ List.mem_cons_self) row
  exact ⟨row', hanswer, heq⟩

theorem get?_split_xpath (h : KeysApart splits) (hq : q ∈ splits) (row : Row) :
    (split policy labelOf splits row).get? q.xpath = none := by
  obtain ⟨row', -, heq⟩ := exists_get?_split_eq h hq List.mem_cons_self row
  obtain ⟨c, hc, hkey, -⟩ | ⟨-, hget⟩ := get?_splitOne_cases policy labelOf row' q q.xpath
  · exact absurd hkey (h.key_ne hq hc)
  · rw [heq, hget, if_pos rfl]

theorem get?_split_key (h : KeysApart splits) (hq : q ∈ splits) (hc : c ∈ q.choices) (row : Row) :
    (split policy labelOf splits row).get? c.key = some
      (choiceCell policy ((labelOf q.xpath c.name).getD c.name) c.name (row.get? q.xpath)) := by
  obtain ⟨row', hanswer, heq⟩ :=
    exists_get?_split_eq h hq (SplitQuestion.key_mem_keys hc) row
  rw [heq, ← hanswer]
  exact get?_splitOne_choice (fun c hc d hd hkey ↦ by rw [h.eq_of_key_eq hq hc hd hkey]) hc

theorem get?_split_of_not_mem {k : String} (hk : ∀ q ∈ splits, k ∉ q.keys) (row : Row) :
    (split policy labelOf splits row).get? k = row.get? k :=
  get?_foldl (fun row q hq ↦ get?_splitOne_of_not_mem (hk q hq) row) row

/-- The second row is the first one with the answers to select-multiples split. `labelOf` gives the
text of a choice by the xpath of its question and its name. -/
structure IsSplit (policy : SplitPolicy) (labelOf : String → String → Option String)
    (splits : List SplitQuestion) (row row' : Row) : Prop where
  /-- No answer is left. -/
  answer : ∀ q ∈ splits, row'.get? q.xpath = none
  /-- A choice is marked as selected just if its name is a word of the answer. -/
  choice : ∀ q ∈ splits, ∀ c ∈ q.choices, ∀ answer, row.get? q.xpath = some answer →
    answer.isNull = false → row'.get? c.key = some
      (if Text.IsWordOf c.name answer.display then
        policy.chosen ((labelOf q.xpath c.name).getD c.name)
      else policy.notChosen)
  /-- Without an answer all choices have the same cell. -/
  unanswered : ∀ q ∈ splits, ∀ c ∈ q.choices, ¬ row.HasValue q.xpath →
    row'.get? c.key = some policy.unanswered
  /-- All other cells are kept, and there are no more. -/
  other : ∀ k, (∀ q ∈ splits, k ∉ q.keys) → row'.get? k = row.get? k

/-- Splitting does what it should for all questions at once. -/
theorem isSplit_split (h : KeysApart splits) (policy : SplitPolicy)
    (labelOf : String → String → Option String) (row : Row) :
    IsSplit policy labelOf splits row (split policy labelOf splits row) where
  answer q hq := get?_split_xpath h hq row
  choice q hq c hc answer hget hnull := by
    rw [get?_split_key h hq hc, hget, choiceCell_of_isNull_eq_false hnull]
  unanswered q hq c hc hvalue := by
    rw [get?_split_key h hq hc, choiceCell_of_not_hasValue hvalue]
  other k hk := get?_split_of_not_mem hk row

/-- There is only one way to split a row, and the order of the questions is no part of it. -/
theorem IsSplit.unique {order : List SplitQuestion} {r r' : Row}
    (hmem : ∀ q, q ∈ order ↔ q ∈ splits) (h : IsSplit policy labelOf splits row r)
    (h' : IsSplit policy labelOf order row r') : r' = r := by
  refine KeyMap.ext_get? fun k ↦ ?_
  by_cases hk : ∃ q ∈ splits, k ∈ q.keys
  · obtain ⟨q, hq, hk⟩ := hk
    have hq' := (hmem q).2 hq
    rcases List.mem_cons.1 hk with rfl | hk
    · rw [h.answer q hq, h'.answer q hq']
    · obtain ⟨c, hc, rfl⟩ := List.mem_map.1 hk
      by_cases hvalue : row.HasValue q.xpath
      · obtain ⟨answer, hget, hnull⟩ := hasValue_iff.1 hvalue
        rw [h.choice q hq c hc answer hget hnull, h'.choice q hq' c hc answer hget hnull]
      · rw [h.unanswered q hq c hc hvalue, h'.unanswered q hq' c hc hvalue]
  · have hother : ∀ q ∈ splits, k ∉ q.keys := fun q hq hmem ↦ hk ⟨q, hq, hmem⟩
    rw [h.other k hother, h'.other k fun q hq ↦ hother q ((hmem q).1 hq)]

/-- **Select-multiples are split exactly**, and in whatever order they are listed. -/
theorem isSplit_split_and_perm (h : KeysApart splits) (policy : SplitPolicy)
    (labelOf : String → String → Option String) (row : Row) :
    IsSplit policy labelOf splits row (split policy labelOf splits row) ∧
      ∀ order : List SplitQuestion, order.Perm splits →
        split policy labelOf order row = split policy labelOf splits row := by
  have hsplit := isSplit_split h policy labelOf row
  refine ⟨hsplit, fun order hperm ↦ ?_⟩
  exact hsplit.unique (fun _ ↦ hperm.mem_iff) (isSplit_split (h.perm hperm) policy labelOf row)

/-- Two select-multiples. -/
def farmSplits : List SplitQuestion :=
  [⟨"crops", [⟨"crops/maize", "maize", "Maize"⟩, ⟨"crops/beans", "beans", "Beans"⟩]⟩,
    ⟨"tools", [⟨"tools/hoe", "hoe", "Hoe"⟩]⟩]

/-- A row with an answer to the first of them, in which one of its choices is named. -/
def farmRow : Row := KeyMap.ofList [("crops", .text "sorghum\tbeans"), ("village", .text "Ndola")]

/-- The choice that is named is marked with its label, the others have no value. -/
theorem isSplit_split_and_perm_farmRow :
    let labelOf : String → String → Option String := fun _ name ↦
      if name = "beans" then some "Beans" else none
    let row := split .value labelOf farmSplits farmRow
    KeysApart farmSplits ∧ row.get? "crops" = none ∧
      row.get? "crops/beans" = some (.text "Beans") ∧ row.get? "crops/maize" = some .null ∧
      row.get? "tools/hoe" = some .null ∧ row.get? "village" = some (.text "Ndola") ∧
      split .value labelOf farmSplits.reverse farmRow = row := by
  intro labelOf row
  have hapart : KeysApart farmSplits := by decide
  obtain ⟨hsplit, horder⟩ := isSplit_split_and_perm hapart .value labelOf farmRow
  refine ⟨hapart, hsplit.answer _ (.head _), ?_, ?_, ?_, ?_, horder _ (List.reverse_perm _)⟩
  · exact hsplit.choice _ (.head _) _ (.tail _ (.head _)) _ rfl rfl
  · exact hsplit.choice _ (.head _) _ (.head _) _ rfl rfl
  · exact hsplit.unanswered _ (.tail _ (.head _)) _ (.head _) (by decide)
  · exact hsplit.other "village" (by decide)

/-! ### No answer and an empty answer -/

/-- **No answer and an empty answer.** A choice of a question without an answer has no value under
two of the policies; under the policy of 1 and 0 it has a 0, as if it were not selected. So only the
policy of true and false tells a question without an answer from one with an empty answer. -/
theorem get?_split_of_unanswered (h : KeysApart splits) (hq : q ∈ splits) (hc : c ∈ q.choices)
    (policy : SplitPolicy) (labelOf : String → String → Option String) (row : Row) :
    let cellOf := fun row : Row ↦ (split policy labelOf splits row).get? c.key
    (¬ row.HasValue q.xpath →
      cellOf row = some policy.unanswered ∧ (cellOf row = some .null ↔ policy ≠ .binary) ∧
        ∀ row' : Row, row'.get? q.xpath = some (.text "") →
          (cellOf row ≠ cellOf row' ↔ policy = .boolean)) ∧
    (row.get? q.xpath = some (.text "") → cellOf row = some policy.notChosen) := by
  intro cellOf
  have hempty : ∀ row : Row, row.get? q.xpath = some (.text "") →
      cellOf row = some policy.notChosen := by
    intro row hget
    have hword : ¬ Text.IsWordOf c.name "" := fun hword ↦ by
      simpa [Text.words, Text.pieces] using Text.mem_words_iff.2 hword
    have hchoice := (isSplit_split h policy labelOf row).choice q hq c hc _ hget rfl
    exact hchoice.trans (congrArg some (if_neg hword))
  refine ⟨fun hvalue ↦ ?_, hempty row⟩
  have hcell : cellOf row = some policy.unanswered :=
    (isSplit_split h policy labelOf row).unanswered q hq c hc hvalue
  refine ⟨hcell, ?_, fun row' hget ↦ ?_⟩
  · rw [hcell]
    cases policy <;> simp [SplitPolicy.unanswered]
  · rw [hcell, hempty row' hget]
    cases policy <;> simp [SplitPolicy.unanswered, SplitPolicy.notChosen]

/-- With 1 and 0 there is a 0 for a choice, be there no answer or an empty one. -/
theorem get?_split_of_unanswered_farmSplits :
    let cellOf := fun policy row ↦
      (split policy (fun _ _ ↦ none) farmSplits row).get? "tools/hoe"
    let asked : Row := KeyMap.ofList [("tools", .text "")]
    KeysApart farmSplits ∧ ¬ farmRow.HasValue "tools" ∧
      cellOf .binary farmRow = some (.int 0) ∧ cellOf .binary asked = some (.int 0) ∧
      cellOf .boolean farmRow = some .null ∧ cellOf .boolean asked = some (.bool false) := by
  intro cellOf asked
  have hapart : KeysApart farmSplits := by decide
  have hvalue : ¬ farmRow.HasValue "tools" := by decide
  have htools : (⟨"tools", [⟨"tools/hoe", "hoe", "Hoe"⟩]⟩ : SplitQuestion) ∈ farmSplits :=
    .tail _ (.head _)
  have hcell := get?_split_of_unanswered hapart htools (.head _)
  exact ⟨hapart, hvalue, ((hcell .binary _ farmRow).1 hvalue).1, (hcell .binary _ asked).2 rfl,
    ((hcell .boolean _ farmRow).1 hvalue).1, (hcell .boolean _ asked).2 rfl⟩

end Row

end SurveyExport
