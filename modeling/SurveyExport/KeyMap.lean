import SurveyExport.Entries

/-!
# Maps from text to values, sorted by key

A row of an export, the labels of a question in several languages and the shared choice lists of a
form are all finite maps whose keys are texts and whose entries are visited in the order of the
keys (by code point). The entries are kept in a list whose keys strictly increase, so a map is
determined by its look-ups (`ext_get?`).
-/

namespace SurveyExport

/-- A finite map from text, with its entries in ascending order of the keys. -/
structure KeyMap (α : Type) where
  /-- The entries, in ascending order of their keys. -/
  entries : List (String × α)
  /-- The keys strictly increase. -/
  sorted : entries.Pairwise fun a b ↦ a.1 < b.1

namespace KeyMap

variable {α β : Type}

instance [Repr α] : Repr (KeyMap α) := ⟨fun m n ↦ reprPrec m.entries n⟩

/-- Two maps with the same entries are the same. -/
@[ext] theorem ext_entries {m n : KeyMap α} (h : m.entries = n.entries) : m = n := by
  cases m; cases n; congr

instance [DecidableEq α] : DecidableEq (KeyMap α) := fun m n ↦
  decidable_of_iff (m.entries = n.entries) ⟨ext_entries, fun h ↦ h ▸ rfl⟩

/-- The map without entries. -/
def empty : KeyMap α := ⟨[], .nil⟩

instance : Inhabited (KeyMap α) := ⟨empty⟩

/-! ### Lists of entries -/

/-- Puts an entry in its place among sorted entries; it replaces one with the same key. -/
def insertEntry (k : String) (v : α) : List (String × α) → List (String × α)
  | [] => [(k, v)]
  | (k', v') :: rest =>
    if k < k' then (k, v) :: (k', v') :: rest
    else if k' = k then (k, v) :: rest
    else (k', v') :: insertEntry k v rest

/-- Takes the entries with a key away. -/
def eraseEntry (k : String) (entries : List (String × α)) : List (String × α) :=
  entries.filter fun e ↦ e.1 ≠ k

/-- A key of the entries after an insertion is the new one or an old one. -/
theorem mem_insertEntry {k : String} {v : α} {entries : List (String × α)} {e : String × α}
    (h : e ∈ insertEntry k v entries) : e = (k, v) ∨ e ∈ entries := by
  induction entries with
  | nil => simpa [insertEntry] using h
  | cons head rest ih =>
    obtain ⟨k', v'⟩ := head
    simp only [insertEntry] at h
    split at h
    · simpa using h
    · split at h
      · rcases List.mem_cons.1 h with h | h
        · exact .inl h
        · exact .inr (List.mem_cons_of_mem _ h)
      · rcases List.mem_cons.1 h with h | h
        · exact .inr (h ▸ List.mem_cons_self)
        · exact (ih h).imp_right (List.mem_cons_of_mem _)

/-- Inserting keeps entries sorted. -/
theorem sorted_insertEntry {k : String} {v : α} {entries : List (String × α)}
    (h : entries.Pairwise fun a b ↦ a.1 < b.1) :
    (insertEntry k v entries).Pairwise fun a b ↦ a.1 < b.1 := by
  induction entries with
  | nil => simp [insertEntry]
  | cons head rest ih =>
    obtain ⟨k', v'⟩ := head
    obtain ⟨hhead, hrest⟩ := List.pairwise_cons.1 h
    simp only [insertEntry]
    split
    · rename_i hlt
      refine List.pairwise_cons.2 ⟨fun e he ↦ ?_, h⟩
      rcases List.mem_cons.1 he with rfl | he
      · exact hlt
      · exact String.lt_trans hlt (hhead e he)
    · split
      · rename_i hk
        subst hk
        exact List.pairwise_cons.2 ⟨hhead, hrest⟩
      · rename_i hnlt hne
        refine List.pairwise_cons.2 ⟨fun e he ↦ ?_, ih hrest⟩
        rcases mem_insertEntry he with rfl | he
        · exact Std.lt_of_le_of_ne (String.not_lt.1 hnlt) hne
        · exact hhead e he

/-! ### Operations -/

/-- The value of a key. -/
def get? (m : KeyMap α) (k : String) : Option α := Entries.lookup k m.entries

/-- Whether a key has a value. -/
def contains (m : KeyMap α) (k : String) : Bool := (m.get? k).isSome

/-- The map with one more entry; an entry with the same key is replaced. -/
def insert (m : KeyMap α) (k : String) (v : α) : KeyMap α :=
  ⟨insertEntry k v m.entries, sorted_insertEntry m.sorted⟩

/-- The map without a key. -/
def erase (m : KeyMap α) (k : String) : KeyMap α :=
  ⟨eraseEntry k m.entries, m.sorted.filter _⟩

/-- The map of a list of entries; of two with the same key the later counts. -/
def ofList (entries : List (String × α)) : KeyMap α :=
  entries.foldl (fun m e ↦ m.insert e.1 e.2) empty

/-- The entries of the second map, where they are missing those of the first. -/
def union (m n : KeyMap α) : KeyMap α := n.entries.foldl (fun m e ↦ m.insert e.1 e.2) m

/-- The entries in ascending order of the keys. -/
def toList (m : KeyMap α) : List (String × α) := m.entries

/-- The keys in ascending order. -/
def keys (m : KeyMap α) : List String := m.entries.map (·.1)

/-- The values in ascending order of their keys. -/
def values (m : KeyMap α) : List α := m.entries.map (·.2)

/-- Whether the map has no entry. -/
def isEmpty (m : KeyMap α) : Bool := m.entries.isEmpty

/-- The map with a function applied to each entry's value. -/
def mapValues (f : String → α → β) (m : KeyMap α) : KeyMap β :=
  ⟨m.entries.map fun e ↦ (e.1, f e.1 e.2), by simpa [List.pairwise_map] using m.sorted⟩

/-! ### Look-ups -/

/-- Nothing is found in the empty map. -/
@[simp] theorem get?_empty (k : String) : (empty : KeyMap α).get? k = none := rfl

/-- What is inserted in a list of entries is found there. -/
theorem lookup_insertEntry (k k' : String) (v : α) (entries : List (String × α)) :
    Entries.lookup k' (insertEntry k v entries) =
      if k = k' then some v else Entries.lookup k' entries := by
  induction entries with
  | nil => simp [insertEntry, Entries.lookup]
  | cons head rest ih =>
    obtain ⟨a, b⟩ := head
    simp only [insertEntry]
    split
    · simp [Entries.lookup]
    · split
      · rename_i hk
        subst hk
        simp only [Entries.lookup]
        split <;> simp_all
      · rename_i hne
        simp only [Entries.lookup, ih]
        rcases Classical.em (a = k') with rfl | hak
        · simp [Ne.symm hne]
        · simp [hak]

/-- After an insertion the key has the new value and all others keep theirs. -/
@[simp] theorem get?_insert (m : KeyMap α) (k k' : String) (v : α) :
    (m.insert k v).get? k' = if k = k' then some v else m.get? k' :=
  lookup_insertEntry k k' v m.entries

/-- After an erasure the key has no value and all others keep theirs. -/
@[simp] theorem get?_erase (m : KeyMap α) (k k' : String) :
    (m.erase k).get? k' = if k = k' then none else m.get? k' := by
  simp only [get?, erase, eraseEntry]
  induction m.entries with
  | nil => simp [Entries.lookup]
  | cons head rest ih =>
    obtain ⟨a, b⟩ := head
    simp only [List.filter_cons]
    split
    · rename_i hne
      have hne : a ≠ k := by simpa using hne
      simp only [Entries.lookup, ih]
      rcases Classical.em (a = k') with rfl | hak
      · simp [Ne.symm hne]
      · simp [hak]
    · rename_i hk
      have hk : a = k := by simpa using hk
      subst hk
      rw [ih]
      simp only [Entries.lookup]
      split <;> rfl

/-- A key that is smaller than all keys of the entries is not found. -/
theorem lookup_eq_none_of_lt {k : String} {entries : List (String × α)}
    (h : ∀ e ∈ entries, k < e.1) : Entries.lookup k entries = none := by
  induction entries with
  | nil => rfl
  | cons head rest ih =>
    obtain ⟨a, b⟩ := head
    have ha : k < a := h (a, b) List.mem_cons_self
    rw [Entries.lookup, if_neg, ih fun e he ↦ h e (List.mem_cons_of_mem _ he)]
    rintro rfl
    exact String.lt_irrefl _ ha

/-- A key of the map has the value of its entry. -/
theorem get?_eq_some_iff {m : KeyMap α} {k : String} {v : α} :
    m.get? k = some v ↔ (k, v) ∈ m.entries := by
  obtain ⟨entries, hs⟩ := m
  simp only [get?]
  induction entries with
  | nil => simp [Entries.lookup]
  | cons head rest ih =>
    obtain ⟨a, b⟩ := head
    obtain ⟨hhead, hrest⟩ := List.pairwise_cons.1 hs
    simp only [Entries.lookup, List.mem_cons, Prod.mk.injEq]
    split
    · rename_i hak
      subst hak
      constructor
      · rintro ⟨⟩
        exact .inl ⟨rfl, rfl⟩
      · rintro (⟨_, rfl⟩ | h)
        · rfl
        · exact absurd (hhead _ h) (String.lt_irrefl _)
    · rename_i hak
      rw [ih hrest]
      constructor
      · exact .inr
      · rintro (⟨rfl, _⟩ | h)
        · exact absurd rfl hak
        · exact h

/-- A key that is looked up with success is not below the least key. -/
theorem not_lt_of_lookup_eq_some {a c : String} {b d : α} {fs : List (String × α)}
    (hf : ∀ x ∈ fs, c < x.1) (h : Entries.lookup a ((c, d) :: fs) = some b) : ¬a < c := by
  intro hlt
  have hnone : Entries.lookup a ((c, d) :: fs) = none :=
    lookup_eq_none_of_lt <|
      List.forall_mem_cons.2 ⟨hlt, fun x hx ↦ String.lt_trans hlt (hf x hx)⟩
  rw [hnone] at h
  cases h

/-- A map is determined by its look-ups. -/
theorem ext_get? {m n : KeyMap α} (h : ∀ k, m.get? k = n.get? k) : m = n := by
  obtain ⟨es, hes⟩ := m
  obtain ⟨fs, hfs⟩ := n
  apply ext_entries
  show es = fs
  have h' : ∀ k, Entries.lookup k es = Entries.lookup k fs := h
  clear h
  induction es generalizing fs with
  | nil =>
    cases fs with
    | nil => rfl
    | cons f fs =>
      have := h' f.1
      simp [Entries.lookup] at this
  | cons e es ih =>
    cases fs with
    | nil =>
      have := h' e.1
      simp [Entries.lookup] at this
    | cons f fs =>
      obtain ⟨a, b⟩ := e
      obtain ⟨c, d⟩ := f
      obtain ⟨he, hes'⟩ := List.pairwise_cons.1 hes
      obtain ⟨hf, hfs'⟩ := List.pairwise_cons.1 hfs
      -- the least keys agree, for otherwise the smaller of them is missing in the other list
      have ha : Entries.lookup a ((c, d) :: fs) = some b := by
        rw [← h', Entries.lookup, if_pos rfl]
      have hc : Entries.lookup c ((a, b) :: es) = some d := by
        rw [h', Entries.lookup, if_pos rfl]
      obtain rfl : a = c := String.le_antisymm
        (String.not_lt.1 (not_lt_of_lookup_eq_some he hc))
        (String.not_lt.1 (not_lt_of_lookup_eq_some hf ha))
      obtain rfl : b = d := by
        simpa [Entries.lookup] using h' a
      congr 1
      refine ih hes' fs hfs' fun k ↦ ?_
      rcases Classical.em (a = k) with rfl | hk
      · rw [lookup_eq_none_of_lt he, lookup_eq_none_of_lt hf]
      · simpa [Entries.lookup, hk] using h' k

end KeyMap

end SurveyExport
