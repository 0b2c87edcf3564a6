import Mathlib.Data.List.Induction
import Mathlib.Data.List.Nodup
import SurveyExport.KeyMap

/-!
# Look-ups in maps made from others

The maps that linking, splitting and laying out make are read through `KeyMap.get?` alone; this
module says what is found after a union, after entries are put one by one, and among the entries.
-/

namespace SurveyExport.KeyMap

variable {α β : Type}

/-- An entry of a list is found under its key if no other entry has the key. -/
theorem lookup_eq_some_of_mem {entries : List (String × α)} {k : String} {v : α}
    (h : (k, v) ∈ entries) (hnd : (entries.map (·.1)).Nodup) :
    Entries.lookup k entries = some v := by
  induction entries with
  | nil => simp at h
  | cons e rest ih =>
    obtain ⟨a, b⟩ := e
    obtain ⟨ha, hrest⟩ := List.nodup_cons.1 hnd
    rcases List.mem_cons.1 h with heq | h
    · obtain ⟨rfl, rfl⟩ := Prod.mk.inj heq
      simp [Entries.lookup]
    · have hne : a ≠ k := fun hak ↦ ha (List.mem_map.2 ⟨(k, v), h, hak.symm⟩)
      rw [Entries.lookup, if_neg hne, ih h hrest]

/-- A key without entries is not found. -/
theorem lookup_eq_none_iff {entries : List (String × α)} {k : String} :
    Entries.lookup k entries = none ↔ k ∉ entries.map (·.1) := by
  induction entries with
  | nil => simp [Entries.lookup]
  | cons e rest ih =>
    obtain ⟨a, b⟩ := e
    rw [Entries.lookup, List.map_cons, List.mem_cons, not_or, ← ih]
    split
    · rename_i hak
      simp [hak]
    · rename_i hak
      simp [Ne.symm hak]

/-- The keys of a map are those under which something is found. -/
theorem mem_keys_iff {m : KeyMap α} {k : String} : k ∈ m.keys ↔ ∃ v, m.get? k = some v := by
  rw [keys, List.mem_map]
  constructor
  · rintro ⟨⟨a, v⟩, h, rfl⟩
    exact ⟨v, get?_eq_some_iff.2 h⟩
  · rintro ⟨v, h⟩
    exact ⟨(k, v), get?_eq_some_iff.1 h, rfl⟩

theorem keys_sorted (m : KeyMap α) : m.keys.Pairwise (· < ·) := by
  simpa [keys, List.pairwise_map] using m.sorted

theorem nodup_keys (m : KeyMap α) : m.keys.Nodup :=
  (keys_sorted m).imp fun {a b} (h : a < b) (heq : a = b) ↦ String.lt_irrefl b (heq ▸ h)

/-- What is put one by one over a map covers it, and the last entry with a key counts. -/
theorem get?_foldl_insert (entries : List (String × α)) (m : KeyMap α) (k : String) :
    (entries.foldl (fun m e ↦ m.insert e.1 e.2) m).get? k =
      (Entries.lookup k entries.reverse <|> m.get? k) := by
  induction entries using List.reverseRecOn generalizing m with
  | nil => simp [Entries.lookup]
  | append_singleton rest e ih =>
    obtain ⟨a, b⟩ := e
    rw [List.foldl_append, List.foldl_cons, List.foldl_nil, get?_insert, ih,
      List.reverse_append, List.reverse_singleton, List.singleton_append, Entries.lookup]
    split <;> simp

/-- A key is found with a value after entries are put, if an entry has it and all such entries
agree. -/
theorem get?_foldl_insert_of_mem {entries : List (String × α)} {k : String} {v : α}
    (hmem : (k, v) ∈ entries) (hagree : ∀ w, (k, w) ∈ entries → w = v) (m : KeyMap α) :
    (entries.foldl (fun m e ↦ m.insert e.1 e.2) m).get? k = some v := by
  rw [get?_foldl_insert]
  have hrev : (k, v) ∈ entries.reverse := List.mem_reverse.2 hmem
  have hagree' : ∀ w, (k, w) ∈ entries.reverse → w = v :=
    fun w hw ↦ hagree w (List.mem_reverse.1 hw)
  generalize entries.reverse = es at hrev hagree'
  have hlookup : Entries.lookup k es = some v := by
    induction es with
    | nil => cases hrev
    | cons e rest ih =>
      obtain ⟨a, w⟩ := e
      rw [Entries.lookup]
      split
      · rename_i hak
        subst hak
        rw [hagree' w List.mem_cons_self]
      · rename_i hak
        refine ih ?_ fun w hw ↦ hagree' w (List.mem_cons_of_mem _ hw)
        exact (List.mem_cons.1 hrev).resolve_left fun heq ↦ hak (Prod.mk.inj heq).1.symm
  rw [hlookup]
  rfl

theorem mem_of_lookup {entries : List (String × α)} {k : String} {v : α}
    (h : Entries.lookup k entries = some v) : (k, v) ∈ entries := by
  induction entries with
  | nil => cases h
  | cons e rest ih =>
    rw [Entries.lookup] at h
    split at h
    · rename_i hk
      rw [← hk, ← Option.some.inj h]
      exact List.mem_cons_self
    · exact List.mem_cons_of_mem _ (ih h)

/-- A key that no entry has is left alone. -/
theorem get?_foldl_insert_of_not_mem {entries : List (String × α)} {k : String}
    (h : ∀ v, (k, v) ∉ entries) (m : KeyMap α) :
    (entries.foldl (fun m e ↦ m.insert e.1 e.2) m).get? k = m.get? k := by
  have hnone : Entries.lookup k entries.reverse = none := by
    rw [lookup_eq_none_iff, List.map_reverse, List.mem_reverse, List.mem_map]
    rintro ⟨⟨a, v⟩, hmem, rfl⟩
    exact h v hmem
  rw [get?_foldl_insert, hnone]
  rfl

/-- If the entries with a key are those with one value, or there are none, the key has this
value. -/
theorem get?_ofList {entries : List (String × α)} {k : String} {o : Option α}
    (h : ∀ v, (k, v) ∈ entries ↔ o = some v) : (ofList entries).get? k = o := by
  cases o with
  | none =>
    rw [ofList, get?_foldl_insert_of_not_mem fun v hv ↦ nomatch (h v).1 hv]
    rfl
  | some v =>
    exact get?_foldl_insert_of_mem ((h v).2 rfl) (fun w hw ↦ (Option.some.inj ((h w).1 hw)).symm) _

/-- What a map made of entries has under a key is the value of one of them. -/
theorem mem_of_get?_ofList {entries : List (String × α)} {k : String} {v : α}
    (h : (ofList entries).get? k = some v) : (k, v) ∈ entries := by
  rw [ofList, get?_foldl_insert, get?_empty] at h
  exact List.mem_reverse.1 (mem_of_lookup (by simpa using h))

/-- The entries of the second map cover those of the first. -/
@[simp] theorem get?_union (m n : KeyMap α) (k : String) :
    (m.union n).get? k = (n.get? k <|> m.get? k) := by
  have hlookup : Entries.lookup k n.entries.reverse = n.get? k := by
    have hnd : (n.entries.reverse.map (·.1)).Nodup := by
      rw [List.map_reverse, List.nodup_reverse]
      exact nodup_keys n
    cases hget : n.get? k with
    | some v =>
      exact lookup_eq_some_of_mem (List.mem_reverse.2 (get?_eq_some_iff.1 hget)) hnd
    | none =>
      rw [lookup_eq_none_iff, List.map_reverse, List.mem_reverse]
      exact lookup_eq_none_iff.1 hget
  rw [union, get?_foldl_insert, hlookup]

/-- A function on values acts on what is found. -/
@[simp] theorem get?_mapValues (f : String → α → β) (m : KeyMap α) (k : String) :
    (m.mapValues f).get? k = (m.get? k).map (f k) := by
  simp only [get?, mapValues]
  induction m.entries with
  | nil => rfl
  | cons e rest ih =>
    obtain ⟨a, b⟩ := e
    simp only [List.map_cons, Entries.lookup]
    split
    · rename_i hak
      simp [hak]
    · exact ih

/-! ### Lists under keys -/

variable {γ : Type}

/-- The keys of a map, picked from a sorted list that holds them all. -/
theorem filter_mem_keys (m : KeyMap α) {keys : List String} (hsorted : keys.Pairwise (· < ·))
    (hsub : m.keys ⊆ keys) : keys.filter (· ∈ m.keys) = m.keys := by
  have hfilter : (keys.filter (· ∈ m.keys)).Pairwise (· < ·) := hsorted.sublist List.filter_sublist
  have hnodup : ∀ {l : List String}, l.Pairwise (· < ·) → l.Nodup := fun h ↦
    h.imp fun {a b} (hlt : a < b) (heq : a = b) ↦ String.lt_irrefl b (heq ▸ hlt)
  refine List.Perm.eq_of_pairwise (fun a b _ _ hab hba ↦ absurd hba (String.lt_asymm hab)) hfilter
    m.keys_sorted ((List.perm_ext_iff_of_nodup (hnodup hfilter) m.nodup_keys).2 fun k ↦ ?_)
  simp only [List.mem_filter, decide_eq_true_eq]
  exact ⟨fun h ↦ h.2, fun h ↦ ⟨hsub h, h⟩⟩

/-- What is collected from a map of lists under one key only. -/
theorem flatMap_toList_ite (m : KeyMap (List α)) (k : String)
    {f : List α → List γ} (hnil : f [] = []) :
    (m.toList.flatMap fun e ↦ if e.1 = k then f e.2 else []) = f ((m.get? k).getD []) := by
  have hnodup : (m.entries.map (·.1)).Nodup := m.nodup_keys
  rw [toList, get?]
  revert hnodup
  induction m.entries with
  | nil => exact fun _ ↦ hnil.symm
  | cons e rest ih =>
    obtain ⟨a, rows⟩ := e
    intro hnodup
    obtain ⟨hnew, hrest⟩ := List.nodup_cons.1 hnodup
    rw [List.flatMap_cons, ih hrest, Entries.lookup]
    split
    · rename_i hak
      have hnone : Entries.lookup k rest = none := lookup_eq_none_iff.2 (hak ▸ hnew)
      rw [hnone, Option.getD_none, hnil, List.append_nil, Option.getD_some]
    · exact List.nil_append _

/-- What is collected from a map of lists may be collected along any sorted list that holds its
keys, if nothing is collected from an empty list. -/
theorem flatMap_toList_eq (m : KeyMap (List α)) {f : String → List α → List γ}
    (hnil : ∀ k, f k [] = []) {keys : List String} (hsorted : keys.Pairwise (· < ·))
    (hsub : m.keys ⊆ keys) : m.toList.flatMap (fun e ↦ f e.1 e.2) =
      keys.flatMap fun k ↦ f k ((m.get? k).getD []) := by
  have hkeys : m.toList.flatMap (fun e ↦ f e.1 e.2) =
      m.keys.flatMap fun k ↦ f k ((m.get? k).getD []) := by
    rw [KeyMap.keys, List.flatMap_map]
    refine List.flatMap_congr fun e he ↦ ?_
    rw [get?_eq_some_iff.2 he]
    rfl
  rw [hkeys, ← filter_mem_keys m hsorted hsub]
  clear hkeys hsorted hsub
  induction keys with
  | nil => rfl
  | cons k rest ih =>
    rw [List.filter_cons, List.flatMap_cons]
    split
    · rw [List.flatMap_cons, ih]
    · rename_i hk
      have hnone : m.get? k = none := by
        cases hget : m.get? k with
        | none => rfl
        | some v => exact absurd (mem_keys_iff.2 ⟨v, hget⟩) (by simpa using hk)
      rw [hnone, Option.getD_none, hnil, List.nil_append, ih]

/-- Two maps of lists give the same collection, if they do under each key. -/
theorem flatMap_toList_congr {m : KeyMap (List α)} {m' : KeyMap (List β)}
    {f : String → List α → List γ} {g : String → List β → List γ} (hf : ∀ k, f k [] = [])
    (hg : ∀ k, g k [] = []) (h : ∀ k, f k ((m.get? k).getD []) = g k ((m'.get? k).getD [])) :
    m.toList.flatMap (fun e ↦ f e.1 e.2) = m'.toList.flatMap fun e ↦ g e.1 e.2 := by
  let both : KeyMap Unit := (m.mapValues fun _ _ ↦ ()).union (m'.mapValues fun _ _ ↦ ())
  have hsub : m.keys ⊆ both.keys := fun k hk ↦ by
    obtain ⟨v, hv⟩ := mem_keys_iff.1 hk
    exact mem_keys_iff.2 ⟨(), by simp [both, hv]⟩
  have hsub' : m'.keys ⊆ both.keys := fun k hk ↦ by
    obtain ⟨v, hv⟩ := mem_keys_iff.1 hk
    exact mem_keys_iff.2 ⟨(), by simp [both, hv]⟩
  rw [flatMap_toList_eq m hf both.keys_sorted hsub, flatMap_toList_eq m' hg both.keys_sorted hsub']
  exact List.flatMap_congr fun k _ ↦ h k

end SurveyExport.KeyMap
