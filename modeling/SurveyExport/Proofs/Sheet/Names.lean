import SurveyExport.Proofs.Text.Fresh
import SurveyExport.Sheet.Naming

/-!
# The names of sheets are valid, and no two are the same

The search for a free name is bounded, so that it finds one has to be shown: among the variants
within the bound there are more different ones than names that are taken
(`Text.exists_not_mem_of_inj`, `Text.exists_variant_not_mem`).

* `SheetNaming.exists_fileVariant_not_mem` and `SheetNaming.exists_worksheetVariant_not_mem` say so
  for the two kinds of sheets. For worksheets the variants are compared in lower case, where their
  ends count: equally many digits that are different stay different
  (`Text.lowercase_numbered_inj`).
* `SheetNaming.exists_isFirstFree`: so a search without a bound ends, too, and finds the same name.
* `SheetNaming.nodup_assign` draws the conclusion for all sheets of an output.
* `SheetNaming.validNames_assign` adds the characters and the length of a name. Both are seen on
  the variants: a number brings digits only, and the base makes room for them.
-/

namespace SurveyExport

namespace SheetNaming

/-! ### Files -/

/-- The variants of a file's name are different. -/
theorem fileVariant_inj {stem : String} {i j : Nat} (h : fileVariant stem i = fileVariant stem j) :
    i = j := by
  have hdigits : ∀ k : Nat, stem ++ toString k ≠ stem := by
    intro k hk
    have := congrArg String.toList hk
    rw [String.toList_append, Text.toList_toString] at this
    exact Nat.toDigits_ne_nil (List.append_right_eq_self.1 this)
  simp only [fileVariant] at h
  split at h <;> split at h
  · omega
  · exact absurd h.symm (hdigits j)
  · exact absurd h (hdigits i)
  · have := congrArg String.toList h
    rw [String.toList_append, String.toList_append, Text.toList_toString,
      Text.toList_toString] at this
    exact Text.toDigits_inj (List.append_cancel_left this)

/-- A variant of a file's name is free, and is found within the bound. -/
theorem exists_fileVariant_not_mem (stem : String) (existing : List String) :
    ∃ i ≤ existing.length, fileVariant stem i ∉ existing := by
  obtain ⟨i, -, hi, hfree⟩ := Text.exists_not_mem_of_inj (fileVariant stem) 0 (l := existing)
    fun i j _ _ _ _ ↦ fileVariant_inj
  exact ⟨i, by omega, hfree⟩

/-! ### Worksheets -/

/-- A variant of a worksheet's name is free, and is found within the bound. -/
theorem exists_worksheetVariant_not_mem (desired : String) (existing : List String) :
    ∃ i ≤ 100 * (existing.length + 1),
      Text.lowercase (worksheetVariant (worksheetBase desired) i) ∉
        existing.map Text.lowercase := by
  obtain ⟨m, hlow, hhigh⟩ := Text.exists_pow_bounds existing.length
  obtain ⟨i, hi, hfree⟩ := Text.exists_variant_not_mem
    (f := fun i ↦ Text.lowercase (worksheetVariant (worksheetBase desired) i))
    (fun i j hi hj ↦ Text.lowercase_numbered_inj hi hj)
    (l := existing.map Text.lowercase) (by rwa [List.length_map])
  rw [List.length_map] at hi
  exact ⟨i, hi.trans hhigh, hfree⟩

/-! ### The search for a name -/

/-- The variants of a section's name among which the name of its sheet is searched. -/
def variant (naming : SheetNaming) (s : String) : ℕ → String :=
  match naming with
  | file => fileVariant (stem s)
  | worksheet => worksheetVariant (worksheetBase (stem s))

/-- What of a name counts when two names are compared: its case does not for worksheets. -/
def compared (naming : SheetNaming) (name : String) : String :=
  match naming with
  | file => name
  | worksheet => Text.lowercase name

/-- A name cannot be given after sheets with the given names. -/
def IsTaken (naming : SheetNaming) (existing : List String) (name : String) : Prop :=
  naming.compared name ∈ existing.map naming.compared

/-- Variant number `k` is the first one that is not taken: the search ends with it. -/
def IsFirstFree (naming : SheetNaming) (existing : List String) (s : String) (k : ℕ) : Prop :=
  ¬ naming.IsTaken existing (naming.variant s k) ∧
    ∀ j < k, naming.IsTaken existing (naming.variant s j)

/-- The search is not cut off: it ends with a free variant, whose number is bounded. -/
theorem exists_isFirstFree (naming : SheetNaming) (existing : List String) (s : String) :
    ∃ k, naming.IsFirstFree existing s k ∧ naming.sheetName existing s = naming.variant s k ∧
      k ≤ 100 * (existing.length + 1) := by
  cases naming with
  | file =>
    obtain ⟨i, hi, hnew⟩ := exists_fileVariant_not_mem (stem s) existing
    obtain ⟨k, hk, hfound, hfree, hbefore⟩ :=
      Text.exists_firstFree existing.contains hi (by simpa using hnew)
    refine ⟨k, ⟨?_, fun j hj ↦ ?_⟩, hfound, by omega⟩
    · simpa [IsTaken, compared, variant] using hfree
    · simpa [IsTaken, compared, variant] using hbefore j hj
  | worksheet =>
    obtain ⟨i, hi, hnew⟩ := exists_worksheetVariant_not_mem (stem s) existing
    obtain ⟨k, hk, hfound, hfree, hbefore⟩ :=
      Text.exists_firstFree (clashes (existing.map Text.lowercase)) hi
        (by simpa [clashes] using hnew)
    rw [clashes, List.contains_eq_mem, decide_eq_false_iff_not] at hfree
    refine ⟨k, ⟨hfree, fun j hj ↦ ?_⟩, hfound, hk⟩
    have htaken := hbefore j hj
    rw [clashes, List.contains_eq_mem, decide_eq_true_eq] at htaken
    exact htaken

/-- The name of a sheet is not taken. -/
theorem not_isTaken_sheetName (naming : SheetNaming) (existing : List String) (s : String) :
    ¬ naming.IsTaken existing (naming.sheetName existing s) := by
  obtain ⟨k, hk, hname, -⟩ := naming.exists_isFirstFree existing s
  rw [hname]
  exact hk.1

/-! ### What names are made of -/

theorem slash_not_mem_stem (s : String) : '/' ∉ (stem s).toList := by
  simp only [stem, String.toList_ofList, List.mem_map, not_exists, not_and]
  intro c _
  split <;> simp_all

/-- No slash is in a file's name. -/
theorem slash_not_mem_fileVariant (s : String) (k : ℕ) :
    '/' ∉ (fileVariant (stem s) k).toList := by
  rw [fileVariant]
  split
  · exact slash_not_mem_stem s
  · rw [String.toList_append, List.mem_append, not_or]
    exact ⟨slash_not_mem_stem s, fun h ↦ absurd (Text.isDigit_of_mem_toString h) (by decide)⟩

/-- A refused character is not in the base of a worksheet's name. -/
theorem not_mem_worksheetBase (desired : String) {c : Char} (hc : c ∈ refusedChars) :
    c ∉ worksheetBase desired := by
  intro h
  obtain ⟨d, -, rfl⟩ := List.mem_map.1 (List.mem_of_mem_take h)
  split at hc
  · exact absurd hc (by decide)
  · simp_all

/-- A refused character is not in a worksheet's name. -/
theorem not_mem_worksheetVariant (desired : String) (k : ℕ) {c : Char} (hc : c ∈ refusedChars) :
    c ∉ (worksheetVariant (worksheetBase desired) k).toList := by
  have hdigits : refusedChars.all (!·.isDigit) = true := by decide
  have hdigit : c.isDigit = false := by simpa using List.all_eq_true.1 hdigits c hc
  intro h
  rcases Text.mem_of_mem_numbered h with h | h
  · exact not_mem_worksheetBase desired hc h
  · exact absurd h (by simp [hdigit])

/-- A worksheet's name fits, as long as its number does. -/
theorem length_worksheetVariant_le (desired : String) {k : ℕ} (hk : k < 10 ^ 31) :
    (worksheetVariant (worksheetBase desired) k).length ≤ 31 :=
  Text.length_numbered_le (by decide) (List.length_take_le _ _) hk

/-! ### All sheets -/

/-- The name of each sheet is found after the names of the sheets before it. -/
theorem getElem?_assign (naming : SheetNaming) (sections : List String) (i : ℕ) :
    (naming.assign sections)[i]? =
      sections[i]?.map (naming.sheetName ((naming.assign sections).take i)) := by
  rw [assign, Text.getElem?_giveEach]
  rfl

/-- The name of a sheet is not taken by the names of the sheets before it. -/
theorem not_isTaken_of_getElem? {naming : SheetNaming} {sections : List String} {i : ℕ}
    {name : String} (h : (naming.assign sections)[i]? = some name) :
    ¬ naming.IsTaken ((naming.assign sections).take i) name := by
  rw [getElem?_assign] at h
  obtain ⟨s, -, rfl⟩ := Option.map_eq_some_iff.1 h
  exact naming.not_isTaken_sheetName _ s

/-- Names differ in what counts when they are compared. -/
theorem nodup_map_compared_assign (naming : SheetNaming) (sections : List String) :
    ((naming.assign sections).map naming.compared).Nodup :=
  Text.nodup_map_of_not_mem_take fun _ _ h ↦ not_isTaken_of_getElem? h

/-- **No two sheets of an output have the same name.** -/
theorem nodup_assign (naming : SheetNaming) (sections : List String) :
    (naming.assign sections).Nodup :=
  (naming.nodup_map_compared_assign sections).of_map

/-- Every name of a sheet is a variant, and its number is bounded by the number of sheets. -/
theorem exists_variant_of_mem_assign {naming : SheetNaming} {sections : List String}
    {name : String} (h : name ∈ naming.assign sections) :
    ∃ s k, name = naming.variant s k ∧ k ≤ 100 * sections.length := by
  obtain ⟨i, hi⟩ := List.mem_iff_getElem?.1 h
  have hlt := (List.getElem?_eq_some_iff.1 hi).1
  rw [length_assign] at hlt
  rw [getElem?_assign] at hi
  obtain ⟨s, -, rfl⟩ := Option.map_eq_some_iff.1 hi
  obtain ⟨k, -, hname, hk⟩ := naming.exists_isFirstFree ((naming.assign sections).take i) s
  have hle := List.length_take_le i (naming.assign sections)
  exact ⟨s, k, hname, by omega⟩

/-- The names are valid names of the sheets of sections. -/
structure ValidNames (naming : SheetNaming) (sections names : List String) : Prop where
  /-- Every section has a name. -/
  length_eq : names.length = sections.length
  /-- The search for each name ends: the name is the first variant that is not taken. -/
  search_ends : ∀ i s, sections[i]? = some s → ∃ k, naming.IsFirstFree (names.take i) s k ∧
    names[i]? = some (naming.variant s k)
  /-- Files have different names. -/
  nodup_of_file : naming = file → names.Nodup
  /-- No slash is in a file's name. -/
  slash_not_mem : naming = file → ∀ name ∈ names, '/' ∉ name.toList
  /-- Worksheets have names that differ in lower case. -/
  nodup_of_worksheet : naming = worksheet → (names.map Text.lowercase).Nodup
  /-- Workbooks refuse no character of a worksheet's name. -/
  refused_not_mem : naming = worksheet →
    ∀ name ∈ names, ∀ c ∈ ['[', ']', ':', '*', '?', '/', '\\'], c ∉ name.toList
  /-- A worksheet's name fits, since a number leaves room for itself. Numbers of more than 31 digits
  could not; they take more sections than any machine can hold. -/
  length_le : naming = worksheet → sections.length < 10 ^ 29 →
    ∀ name ∈ names, name.length ≤ 31

/-- **The names of all sheets are valid, and no two are the same.** -/
theorem validNames_assign (naming : SheetNaming) (sections : List String) :
    naming.ValidNames sections (naming.assign sections) where
  length_eq := naming.length_assign sections
  search_ends := by
    intro i s hs
    obtain ⟨k, hk, hname, -⟩ := naming.exists_isFirstFree ((naming.assign sections).take i) s
    exact ⟨k, hk, by rw [getElem?_assign, hs, Option.map_some, hname]⟩
  nodup_of_file := fun _ ↦ naming.nodup_assign sections
  slash_not_mem := by
    rintro rfl name hmem
    obtain ⟨s, k, rfl, -⟩ := exists_variant_of_mem_assign hmem
    exact slash_not_mem_fileVariant s k
  nodup_of_worksheet := by
    rintro rfl
    exact nodup_map_compared_assign worksheet sections
  refused_not_mem := by
    rintro rfl name hmem c hc
    obtain ⟨s, k, rfl, -⟩ := exists_variant_of_mem_assign hmem
    exact not_mem_worksheetVariant (stem s) k hc
  length_le := by
    rintro rfl hfew name hmem
    obtain ⟨s, k, rfl, hk⟩ := exists_variant_of_mem_assign hmem
    exact length_worksheetVariant_le (stem s) (by omega)

/-- Worksheets of a survey whose sections differ in case and hold a slash. -/
theorem validNames_assign_cartoons :
    ["data", "Data", "a/b"].length < 10 ^ 29 ∧
      worksheet.assign ["data", "Data", "a/b"] = ["data", "Data1", "a_b"] ∧
        ∀ name ∈ ["data", "Data1", "a_b"], name.length ≤ 31 := by
  have hnames : worksheet.assign ["data", "Data", "a/b"] = ["data", "Data1", "a_b"] := by
    decide +kernel
  have hvalid := worksheet.validNames_assign ["data", "Data", "a/b"]
  rw [hnames] at hvalid
  exact ⟨by decide, hnames, hvalid.length_le rfl (by decide)⟩

end SheetNaming

end SurveyExport
