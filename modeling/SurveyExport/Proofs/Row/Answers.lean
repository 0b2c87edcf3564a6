import Mathlib.Data.List.Nodup
import SurveyExport.Proofs.KeyMap
import SurveyExport.Row.Splitting

/-!
# What becomes of one answer

The three steps that work on answers, splitting choices, splitting geopoints and labelling, each
give the cells of a question from the answer to it alone. Here is what they give. If only one of the
questions writes to a key, the others can be left out (`Row.get?_foldl_of_mem`).
-/

namespace SurveyExport

namespace Row

/-! ### One item among others -/

/-- Where items have different keys, those before and after one of them have other keys than it. -/
theorem ne_of_nodup_map {α β : Type} {f : α → β} {before after : List α} {y : α}
    (hnd : ((before ++ y :: after).map f).Nodup) {x : α} (hx : x ∈ before ∨ x ∈ after) :
    f x ≠ f y := by
  rw [List.map_append, List.map_cons, List.nodup_append] at hnd
  rcases hx with hx | hx
  · exact hnd.2.2 _ (List.mem_map_of_mem hx) _ List.mem_cons_self
  · exact fun heq ↦ (List.nodup_cons.1 hnd.2.1).1 (heq ▸ List.mem_map_of_mem hx)

/-- If one item alone writes to a key and reads from another, then what a fold leaves under the
first is what the item makes of the row, as far as it can tell from what was under the second. -/
theorem get?_foldl_of_mem {α : Type} {step : Row → α → Row} {items : List α} {y : α}
    {k source : String} (hnd : items.Nodup) (hy : y ∈ items)
    (hkey : ∀ row, ∀ x ∈ items, x ≠ y → (step row x).get? k = row.get? k)
    (hsource : ∀ row, ∀ x ∈ items, x ≠ y → (step row x).get? source = row.get? source) (row : Row) :
    ∃ row' : Row, row'.get? k = row.get? k ∧ row'.get? source = row.get? source ∧
      (items.foldl step row).get? k = (step row' y).get? k := by
  obtain ⟨before, after, rfl⟩ := List.append_of_mem hy
  rw [← List.map_id (before ++ y :: after)] at hnd
  have hmem : ∀ {x}, x ∈ before ∨ x ∈ after → x ∈ before ++ y :: after ∧ x ≠ y := fun hx ↦
    ⟨by simp only [List.mem_append, List.mem_cons]; tauto, ne_of_nodup_map hnd hx⟩
  have hframe : ∀ {c : String} (l : List α), (∀ x ∈ l, x ∈ before ∨ x ∈ after) →
      (∀ row, ∀ x ∈ before ++ y :: after, x ≠ y → (step row x).get? c = row.get? c) →
      ∀ row, (l.foldl step row).get? c = row.get? c := by
    intro c l hl hstep
    induction l with
    | nil => exact fun _ ↦ rfl
    | cons x rest ih =>
      intro row
      obtain ⟨hx, hne⟩ := hmem (hl x List.mem_cons_self)
      rw [List.foldl_cons, ih (fun z hz ↦ hl z (List.mem_cons_of_mem _ hz)), hstep row x hx hne]
  -- the item finds what the ones before it leave, and the ones after it leave what it makes
  refine ⟨before.foldl step row, hframe before (fun _ ↦ .inl) hkey row,
    hframe before (fun _ ↦ .inl) hsource row, ?_⟩
  rw [List.foldl_append, List.foldl_cons, hframe after (fun _ ↦ .inr) hkey]

/-! ### The cells that a step gives -/

/-- The cell of a choice, from the cell of the answer. -/
def choiceCell (policy : SplitPolicy) (text name : String) (answer : Option Cell) : Cell :=
  let given := answer.filter (!·.isNull)
  policy.cell given.isSome ((selected given).contains name) text

/-- The cell of a component, from the cell of the answer: a word, if there are as many as keys. -/
def componentCell? (keys : List String) (key : String) (answer : Option Cell) : Option Cell :=
  (answer.bind Cell.text?).bind fun text ↦
    let words := Text.words text
    if words.length = keys.length then (Entries.lookup key (keys.zip words)).map .text else none

/-- The cell of an answer with labels in place of choices; a blank cell stays. -/
def labelledCell (labelOf : String → Option String) (c : Cell) : Cell :=
  if c.isBlank then c
  else .text (Text.join " " ((Text.words c.display).map fun name ↦ (labelOf name).getD name))

variable {row : Row}

/-- Splitting an answer puts the cells of the choices in its place. -/
theorem splitOne_eq_foldl (policy : SplitPolicy) (labelOf : String → String → Option String)
    (row : Row) (s : SplitQuestion) :
    splitOne policy labelOf row s =
      (s.choices.map fun c ↦ (c.key, choiceCell policy ((labelOf s.xpath c.name).getD c.name)
        c.name (row.get? s.xpath))).foldl (fun m e ↦ m.insert e.1 e.2) (row.erase s.xpath) := by
  rw [List.foldl_map]
  rfl

/-- What splitting an answer leaves under a key: the cell of a choice, or else what was there before
unless it is the answer. -/
theorem get?_splitOne_cases (policy : SplitPolicy) (labelOf : String → String → Option String)
    (row : Row) (q : SplitQuestion) (k : String) :
    (∃ c ∈ q.choices, c.key = k ∧ (splitOne policy labelOf row q).get? k = some
      (choiceCell policy ((labelOf q.xpath c.name).getD c.name) c.name (row.get? q.xpath))) ∨
    ((∀ c ∈ q.choices, c.key ≠ k) ∧
      (splitOne policy labelOf row q).get? k = if q.xpath = k then none else row.get? k) := by
  rw [splitOne_eq_foldl, KeyMap.get?_foldl_insert]
  cases hlookup : Entries.lookup k (q.choices.map fun c ↦ (c.key, choiceCell policy
      ((labelOf q.xpath c.name).getD c.name) c.name (row.get? q.xpath))).reverse with
  | some cell =>
    obtain ⟨c, hc, heq⟩ := List.mem_map.1 (List.mem_reverse.1 (KeyMap.mem_of_lookup hlookup))
    obtain ⟨hkey, rfl⟩ := Prod.mk.inj heq
    exact .inl ⟨c, hc, hkey, rfl⟩
  | none =>
    refine .inr ⟨fun c hc hkey ↦ KeyMap.lookup_eq_none_iff.1 hlookup ?_, by simp⟩
    rw [List.map_reverse, List.mem_reverse, List.map_map]
    exact List.mem_map.2 ⟨c, hc, hkey⟩

/-- The column of a choice gets the choice's cell. -/
theorem get?_splitOne_choice {policy : SplitPolicy} {labelOf : String → String → Option String}
    {s : SplitQuestion} (hnames : ∀ c ∈ s.choices, ∀ d ∈ s.choices, c.key = d.key → c.name = d.name)
    {c : ChoiceColumn} (hc : c ∈ s.choices) :
    (splitOne policy labelOf row s).get? c.key = some
      (choiceCell policy ((labelOf s.xpath c.name).getD c.name) c.name (row.get? s.xpath)) := by
  obtain ⟨d, hd, hkey, hget⟩ | ⟨hnone, -⟩ := get?_splitOne_cases policy labelOf row s c.key
  · rw [hget, hnames d hd c hc hkey]
  · exact absurd rfl (hnone c hc)

/-- The column of a component gets the component's cell; it keeps its own if there is none. -/
theorem get?_splitPoint_component {p : Point} (hnd : p.components.Nodup) {key : String} :
    (splitPoint row p).get? key =
      (componentCell? p.components key (row.get? p.xpath) <|> row.get? key) := by
  rw [splitPoint, componentCell?]
  cases (row.get? p.xpath).bind Cell.text? with
  | none => rfl
  | some text =>
    simp only [Option.bind_some]
    split
    · rename_i hlength
      have hfold : (p.components.zip (Text.words text)).foldl
          (fun row e ↦ row.insert e.1 (.text e.2)) row =
            ((p.components.zip (Text.words text)).map fun e ↦ (e.1, Cell.text e.2)).foldl
              (fun m e ↦ m.insert e.1 e.2) row := by rw [List.foldl_map]
      have hkeys : (p.components.zip (Text.words text)).map (·.1) = p.components :=
        List.map_fst_zip (Nat.le_of_eq hlength.symm)
      rw [hfold]
      cases hword : Entries.lookup key (p.components.zip (Text.words text)) with
      | none =>
        rw [KeyMap.lookup_eq_none_iff] at hword
        rw [KeyMap.get?_foldl_insert_of_not_mem]
        · rfl
        · intro v hv
          obtain ⟨e, he, heq⟩ := List.mem_map.1 hv
          exact hword (List.mem_map.2 ⟨e, he, (Prod.mk.inj heq).1⟩)
      | some word =>
        have hmem : (key, Cell.text word) ∈
            (p.components.zip (Text.words text)).map fun e ↦ (e.1, Cell.text e.2) :=
          List.mem_map.2 ⟨_, KeyMap.mem_of_lookup hword, rfl⟩
        refine KeyMap.get?_foldl_insert_of_mem hmem (fun w hw ↦ ?_) row
        obtain ⟨⟨key', word'⟩, he, heq⟩ := List.mem_map.1 hw
        obtain ⟨rfl, rfl⟩ := Prod.mk.inj heq
        have hword' := KeyMap.lookup_eq_some_of_mem he (by rw [hkeys]; exact hnd)
        rw [Option.some.inj (hword.symm.trans hword')]
    · rfl

/-- An answer that may be labelled gets its labelled cell. -/
theorem get?_labelOne_self {labelOf : String → String → Option String} {xpath : String} :
    (labelOne labelOf row xpath).get? xpath =
      (row.get? xpath).map (labelledCell (labelOf xpath)) := by
  rw [labelOne]
  cases hget : row.get? xpath with
  | none => simp [hget]
  | some c =>
    cases hblank : c.isBlank with
    | true => simp [Option.filter, hget, hblank, labelledCell]
    | false => simp [Option.filter, hblank, labelledCell]

end Row

end SurveyExport
