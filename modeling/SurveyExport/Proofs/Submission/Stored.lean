import SurveyExport.Proofs.KeyEscape.Codec
import SurveyExport.Proofs.Linkage.Visits

/-!
# Submissions as they are stored

`Record.store` replaces every key of a submission, at any depth, by the form in which the store
keeps it. If no key has a mark, the stored submission is visited as the submission itself is
(`Record.visitAnswers_store`): the keys of instances are decoded before they are used.

The cells of a record's own answers are moved to other keys. `Row.StoredFrom` relates the two rows,
and holds for all that linking puts around the cells (`Record.storedFrom_cells`,
`Row.StoredFrom.insert`, `Row.StoredFrom.union`).
-/

namespace SurveyExport

mutual

/-- An answer with all keys inside it as they are stored. -/
def Answer.store : Answer → Answer
  | .instances records => .instances (storeAll records)
  | .scalar value => .scalar value
  | .list values => .list values
  | .tags texts => .tags texts
  | .notes texts => .notes texts
  | .attachments files => .attachments files

/-- A record with all keys as they are stored, at any depth. -/
def Answer.storeRecord : List (String × Answer) → List (String × Answer)
  | [] => []
  | (key, answer) :: rest => (KeyEscape.store key, answer.store) :: storeRecord rest

/-- The instances of an answer with all keys as they are stored. -/
def Answer.storeAll : List (List (String × Answer)) → List (List (String × Answer))
  | [] => []
  | r :: rest => storeRecord r :: storeAll rest

end

namespace Record

/-- A record with all keys as they are stored, at any depth. -/
def store (r : Record) : Record := Answer.storeRecord r

@[simp] theorem store_nil : store [] = [] := rfl

@[simp] theorem store_cons (key : String) (a : Answer) (rest : Record) :
    store ((key, a) :: rest) = (KeyEscape.store key, a.store) :: store rest := rfl

end Record

namespace Answer

@[simp] theorem store_instances (records : List Record) :
    store (.instances records) = .instances (records.map Record.store) := by
  have hall : ∀ records : List Record, storeAll records = records.map Record.store := by
    intro records
    induction records with
    | nil => rfl
    | cons r rest ih => exact congrArg (r.store :: ·) ih
  rw [store, hall]

theorem store_of_ne {a : Answer} (h : ∀ records, a ≠ .instances records) : a.store = a := by
  cases a with
  | instances records => exact absurd rfl (h records)
  | _ => rfl

end Answer

/-- The visit of an instance whose answers have all keys as they are stored. -/
def Visit.store (v : Visit) : Visit := { v with answers := v.answers.store }

theorem Visit.ofSection_map_store (s : String) (vs : List Visit) :
    ofSection s (vs.map store) = (ofSection s vs).map store := by
  rw [ofSection, List.filter_map]
  rfl

namespace Record

/-! ### Visits -/

/-- No key of a record of the section `name` has a mark, at any depth. -/
def KeysUnmarked (name : String) (r : Record) : Prop :=
  r.EveryAnswer (fun _ k _ ↦ KeyEscape.Unmarked k) name

/-- Two instances of the section `child`, which are visited as their stored forms are. -/
theorem visitInstances_store {records : List Record} {child : String}
    (hin : ∀ i ∈ records, ∀ index counters,
      visitAnswers child index 0 i.store counters =
        ((visitAnswers child index 0 i counters).1.map Visit.store,
          (visitAnswers child index 0 i counters).2))
    (name : String) (index : Int) (pos n : Nat) (counters : Counters) :
    visitInstances name index pos child n (records.map store) counters =
      ((visitInstances name index pos child n records counters).1.map Visit.store,
        (visitInstances name index pos child n records counters).2) := by
  induction records generalizing n counters with
  | nil => rfl
  | cons i rest ih =>
    simp only [List.map_cons, visitInstances]
    rw [hin i List.mem_cons_self, ih fun j hj ↦ hin j (List.mem_cons_of_mem _ hj)]
    simp only [List.map_append, List.map_map]
    rfl

/-- **A stored submission is visited as the submission is**, if no key has a mark. -/
theorem visitAnswers_store (r : Record) : ∀ (name : String) (index : Int) (pos : Nat)
    (counters : Counters), r.KeysUnmarked name →
    visitAnswers name index pos r.store counters =
      ((visitAnswers name index pos r counters).1.map Visit.store,
        (visitAnswers name index pos r counters).2) := by
  induction r using Record.induction with
  | nil => exact fun name index pos counters _ ↦ rfl
  | instances key records rest ihi ihr =>
    intro name index pos counters h
    obtain ⟨⟨hkey, hinside⟩, hrest⟩ := everyAnswer_cons.1 h
    rw [store_cons, Answer.store_instances]
    simp only [visitAnswers, visitAnswer]
    rw [KeyEscape.decode_store hkey, KeyEscape.decode_eq_self hkey] at *
    rw [visitInstances_store fun i hi index counters ↦
      ihi i hi _ index 0 counters (hinside records rfl i hi), ihr _ _ _ _ hrest]
    simp only [List.map_append]
  | answer key a rest hne ih =>
    intro name index pos counters h
    obtain ⟨-, hrest⟩ := everyAnswer_cons.1 h
    rw [store_cons, Answer.store_of_ne hne, visitAnswers_cons_of_ne hne,
      visitAnswers_cons_of_ne hne]
    exact ih name index (pos + 1) counters hrest

end Record

/-! ### Cells -/

namespace Row

/-- The second row holds the cells of the first, each under the stored form of its key. -/
structure StoredFrom (row stored : Row) : Prop where
  get?_store : ∀ k, KeyEscape.Unmarked k → stored.get? (KeyEscape.store k) = row.get? k
  exists_store : ∀ k c, stored.get? k = some c →
    ∃ k₀, KeyEscape.Unmarked k₀ ∧ k = KeyEscape.store k₀
  unmarked : ∀ k c, row.get? k = some c → KeyEscape.Unmarked k

namespace StoredFrom

variable {row stored row' stored' : Row}

theorem empty : StoredFrom KeyMap.empty KeyMap.empty := by
  refine ⟨fun _ _ ↦ rfl, fun k c h ↦ ?_, fun k c h ↦ ?_⟩ <;> cases h

/-- A cell of the second row is one of the first. -/
theorem exists_get? (h : StoredFrom row stored) {k : String} {c : Cell}
    (hget : stored.get? k = some c) : ∃ k₀, k = KeyEscape.store k₀ ∧ row.get? k₀ = some c := by
  obtain ⟨k₀, hk₀, rfl⟩ := h.exists_store k c hget
  rw [h.get?_store k₀ hk₀] at hget
  exact ⟨k₀, rfl, hget⟩

/-- A cell may be put into both rows, under a key and under its stored form. -/
theorem insert (h : StoredFrom row stored) {k : String} (hk : KeyEscape.Unmarked k) (c : Cell) :
    StoredFrom (row.insert k c) (stored.insert (KeyEscape.store k) c) := by
  refine ⟨fun k' hk' ↦ ?_, fun k' c' hget ↦ ?_, fun k' c' hget ↦ ?_⟩
  · rw [KeyMap.get?_insert, KeyMap.get?_insert, h.get?_store k' hk']
    by_cases heq : k = k'
    · rw [if_pos heq, if_pos (congrArg KeyEscape.store heq)]
    · rw [if_neg heq, if_neg fun hs ↦ heq (KeyEscape.store_inj hk hk' hs)]
  · rw [KeyMap.get?_insert] at hget
    split at hget
    · rename_i heq
      exact ⟨k, hk, heq.symm⟩
    · exact h.exists_store k' c' hget
  · rw [KeyMap.get?_insert] at hget
    split at hget
    · rename_i heq
      exact heq ▸ hk
    · exact h.unmarked k' c' hget

/-- A link may be put into both rows under its own key. -/
theorem insertLink (h : StoredFrom row stored) {k : String} (hk : k ∈ MetaKey.linkKeys) (c : Cell) :
    StoredFrom (row.insert k c) (stored.insert k c) := by
  have hplain : ∀ k ∈ MetaKey.linkKeys, '=' ∉ k.toList ∧ ¬ KeyEscape.isRefused k := by decide
  have hinsert := h.insert (KeyEscape.unmarked_of_not_mem (hplain k hk).1) c
  rwa [KeyEscape.store_of_not_isRefused (hplain k hk).2] at hinsert

/-- Rows may be laid over others. -/
theorem union (h : StoredFrom row stored) (h' : StoredFrom row' stored') :
    StoredFrom (row.union row') (stored.union stored') := by
  refine ⟨fun k hk ↦ ?_, fun k c hget ↦ ?_, fun k c hget ↦ ?_⟩
  · rw [KeyMap.get?_union, KeyMap.get?_union, h.get?_store k hk, h'.get?_store k hk]
  · rw [KeyMap.get?_union] at hget
    cases hstored : stored'.get? k with
    | none => exact h.exists_store k c (by simpa [hstored] using hget)
    | some c' => exact h'.exists_store k c' hstored
  · rw [KeyMap.get?_union] at hget
    cases hrow : row'.get? k with
    | none => exact h.unmarked k c (by simpa [hrow] using hget)
    | some c' => exact h'.unmarked k c' hrow

end StoredFrom

end Row

namespace Record

/-- Where media are not resolved, no cell depends on its key. -/
theorem cell?_store (files : List Attachment) (k k' : String) (a : Answer) :
    cell? none files k a.store = cell? none files k' a := by
  cases a with
  | instances records => rw [Answer.store_instances]; rfl
  | _ => rfl

/-- The cells of a stored record are those of the record, under the stored forms of their keys. -/
theorem storedFrom_cells {r : Record} (h : ∀ e ∈ r, KeyEscape.Unmarked e.1)
    (files : List Attachment) : Row.StoredFrom (r.cells none files) (r.store.cells none files) := by
  have hfold : ∀ row stored : Row, row.StoredFrom stored → Row.StoredFrom
      (r.foldl (putCell none files) row) (r.store.foldl (putCell none files) stored) := by
    induction r with
    | nil => exact fun _ _ hrow ↦ hrow
    | cons e rest ih =>
      intro row stored hrow
      refine ih (fun e he ↦ h e (List.mem_cons_of_mem _ he)) _ _ ?_
      simp only [putCell]
      rw [cell?_store files _ e.1]
      split
      · exact hrow.insert (h e List.mem_cons_self) _
      · exact hrow
  exact hfold _ _ .empty

/-- The links of a row are kept under their own keys. -/
theorem storedFrom_links (number : Nat) (parentIndex : Int) (parentTable : String) :
    Row.StoredFrom (links number parentIndex parentTable)
      (links number parentIndex parentTable) := by
  exact ((Row.StoredFrom.empty.insertLink (k := MetaKey.index) (by decide) _).insertLink
    (k := MetaKey.parentIndex) (by decide) _).insertLink (k := MetaKey.parentTable) (by decide) _

end Record

end SurveyExport
