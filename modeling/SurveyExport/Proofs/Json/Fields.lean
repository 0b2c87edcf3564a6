import SurveyExport.Json.Fields
import SurveyExport.Proofs.KeyMap

/-!
# Reading back what was written

A reader and a writer of the same kind of value fit together if the reader makes of everything
written the value that was written (`Json.ReadsBack`). This passes on to lists and to maps, since
they are read item after item (`mapM_eq_some_iff`).

A record is written with its absent fields left out (`Json.presentFields`). If no two of its fields
have the same name, each is read back by its name: one that must be there (`ReadsBack.required_eq`),
one that may be absent (`ReadsBack.optional_eq`) and one that has a default
(`ReadsBack.defaulted_eq`).
-/

namespace SurveyExport

/-- Reading item after item succeeds just if each is read. -/
theorem mapM_eq_some_iff {α β : Type} {f : α → Option β} {as : List α} {bs : List β} :
    as.mapM f = some bs ↔ as.map f = bs.map some := by
  induction as generalizing bs with
  | nil => cases bs <;> simp
  | cons a as ih =>
    rw [List.mapM_cons, List.map_cons, eq_comm (b := bs.map some), List.map_eq_cons_iff]
    constructor
    · intro h
      obtain ⟨b, hb, h⟩ := Option.bind_eq_some_iff.1 h
      obtain ⟨bs', hbs, h⟩ := Option.bind_eq_some_iff.1 h
      exact ⟨b, bs', (Option.some.inj h).symm, hb.symm, (ih.1 hbs).symm⟩
    · rintro ⟨b, bs', rfl, hb, hbs⟩
      rw [← hb, ih.2 hbs.symm]
      rfl

/-- In entries put behind others a key is looked up last. -/
theorem Entries.lookup_append {α : Type} (k : String) (l l' : List (String × α)) :
    lookup k (l ++ l') = (lookup k l <|> lookup k l') := by
  induction l with
  | nil => rfl
  | cons e rest ih =>
    rw [List.cons_append, lookup, lookup, ih]
    split <;> rfl

/-- The map of its entries is the map. -/
theorem KeyMap.ofList_toList {α : Type} (m : KeyMap α) : ofList m.toList = m :=
  ext_get? fun _ ↦ get?_ofList fun _ ↦ get?_eq_some_iff.symm

namespace Json

variable {α : Type} {read : Json → Option α} {write : α → Json}

/-! ### Lists and maps -/

/-- What the writer makes of a value is read as that value. -/
def ReadsBack (read : Json → Option α) (write : α → Json) : Prop := ∀ x, read (write x) = some x

theorem readsBack_text : ReadsBack text? .text := fun _ ↦ rfl

theorem readsBack_bool : ReadsBack bool? .bool := fun _ ↦ rfl

theorem ReadsBack.list (h : ReadsBack read write) :
    ReadsBack (list? read) fun xs ↦ .array (xs.map write) := by
  intro xs
  have hitems : (xs.map write).mapM read = some xs := by
    rw [mapM_eq_some_iff, List.map_map]
    exact List.map_congr_left fun x _ ↦ h x
  exact hitems

theorem ReadsBack.map (h : ReadsBack read write) :
    ReadsBack (map? read) fun m ↦ .object (m.toList.map fun e ↦ (e.1, write e.2)) := by
  intro m
  have hentries (entries : List (String × α)) :
      ((entries.map fun e ↦ (e.1, write e.2)).mapM fun e ↦ (read e.2).map fun x ↦ (e.1, x)) =
        some entries := by
    rw [mapM_eq_some_iff, List.map_map]
    exact List.map_congr_left fun e _ ↦ congrArg (Option.map fun x ↦ (e.1, x)) (h e.2)
  simp only [map?, objectFields?, Option.bind_eq_bind, Option.bind_some, hentries,
    KeyMap.ofList_toList]

/-! ### The fields of a record -/

/-- The fields of a record; those that have no value are left out. -/
def presentFields (entries : List (String × Option Json)) : List (String × Json) :=
  entries.flatMap fun e ↦ e.2.toList.map fun v ↦ (e.1, v)

theorem presentFields_cons (k : String) (v : Option Json) (rest : List (String × Option Json)) :
    presentFields ((k, v) :: rest) = (v.toList.map fun v ↦ (k, v)) ++ presentFields rest :=
  List.flatMap_cons

theorem map_fst_presentFields_sublist (entries : List (String × Option Json)) :
    ((presentFields entries).map (·.1)).Sublist (entries.map (·.1)) := by
  induction entries with
  | nil => exact List.Sublist.slnil
  | cons e rest ih =>
    obtain ⟨k, v⟩ := e
    rw [presentFields_cons, List.map_append, List.map_cons]
    cases v with
    | none => exact ih.cons k
    | some v => exact ih.cons_cons k

/-- Declared fields, each of which stands once, are taken as they are. -/
theorem declaredFields?_eq_self {names : List String} {fields : List (String × Json)}
    (hmem : fields.map (·.1) ⊆ names) (hnodup : (fields.map (·.1)).Nodup) :
    declaredFields? names fields = some fields := by
  induction fields with
  | nil => rfl
  | cons e rest ih =>
    obtain ⟨k, v⟩ := e
    obtain ⟨hk, hrest⟩ := List.nodup_cons.1 hnodup
    have hdeclared : names.contains k = true := List.contains_iff_mem.2 (hmem List.mem_cons_self)
    have hnone : Entries.lookup k rest = none := KeyMap.lookup_eq_none_iff.2 hk
    rw [declaredFields?, ih (fun _ h ↦ hmem (List.mem_cons_of_mem _ h)) hrest]
    simp only [Option.bind_eq_bind, Option.bind_some, hdeclared, if_true, hnone]
    rfl

section Reading

variable {entries : List (String × Option Json)} (hnodup : (entries.map (·.1)).Nodup)
  {name : String}

include hnodup

/-- A record with its fields written by their names is taken as it is. -/
theorem fields?_presentFields :
    fields? (entries.map (·.1)) (.object (presentFields entries)) = some (presentFields entries) :=
  have hsublist := map_fst_presentFields_sublist entries
  declaredFields?_eq_self hsublist.subset (hsublist.nodup hnodup)

/-- Under the name of a field stands its value, if it has one. -/
theorem lookup_presentFields {v : Option Json} (h : (name, v) ∈ entries) :
    Entries.lookup name (presentFields entries) = v := by
  induction entries with
  | nil => cases h
  | cons e rest ih =>
    obtain ⟨k, w⟩ := e
    obtain ⟨hk, hrest⟩ := List.nodup_cons.1 hnodup
    rw [presentFields_cons, Entries.lookup_append]
    rcases List.mem_cons.1 h with heq | hmem
    · obtain ⟨rfl, rfl⟩ := Prod.mk.inj heq
      have hnone : Entries.lookup name (presentFields rest) = none :=
        KeyMap.lookup_eq_none_iff.2 fun hname ↦
          hk ((map_fst_presentFields_sublist rest).subset hname)
      rw [hnone]
      cases v with
      | none => rfl
      | some v => simp [Entries.lookup]
    · have hne : k ≠ name := by
        rintro rfl
        exact hk (List.mem_map.2 ⟨_, hmem, rfl⟩)
      rw [ih hrest hmem]
      cases w with
      | none => rfl
      | some w => simp [Entries.lookup, hne]

/-- A field that is always there is read back. -/
theorem ReadsBack.required_eq (h : ReadsBack read write) {x : α}
    (hfield : (name, some (write x)) ∈ entries) :
    required read (presentFields entries) name = some x := by
  rw [required, lookup_presentFields hnodup hfield]
  exact h x

/-- A field that is left out if it is absent is read back, if no value is written as `null`. -/
theorem ReadsBack.optional_eq (h : ReadsBack read write) (hnull : ∀ x, write x ≠ .null)
    {o : Option α} (hfield : (name, o.map write) ∈ entries) :
    optional read (presentFields entries) name = some o := by
  have hlookup := lookup_presentFields hnodup hfield
  cases o with
  | none => rw [optional, hlookup, Option.map_none]
  | some x =>
    have hread := h x
    rw [Option.map_some] at hlookup
    cases hw : write x with
    | null => exact absurd hw (hnull x)
    | _ =>
      rw [hw] at hlookup hread
      rw [optional, hlookup]
      simp only [hread, Option.map_some]

/-- A field that may be left out if it has its default is read back. -/
theorem ReadsBack.defaulted_eq (h : ReadsBack read write) {default x : α} {v : Option Json}
    (hfield : (name, v) ∈ entries) (hv : v = some (write x) ∨ v = none ∧ x = default) :
    defaulted read default (presentFields entries) name = some x := by
  have hlookup := lookup_presentFields hnodup hfield
  rcases hv with rfl | ⟨rfl, rfl⟩
  · rw [defaulted, hlookup]
    exact h x
  · rw [defaulted, hlookup]

end Reading

end Json

end SurveyExport
