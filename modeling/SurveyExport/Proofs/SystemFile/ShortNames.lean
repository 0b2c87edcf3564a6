import SurveyExport.Proofs.Decimal.Numerals
import SurveyExport.Proofs.Text.Cut
import SurveyExport.Proofs.Text.Fresh
import SurveyExport.SystemFile.Names

/-!
# Short names are well formed, and no two are the same

A short name has at most eight characters, so a number takes the place of those at its end. Variants
whose numbers have equally many digits differ (`shortVariant_inj`). So a search without a bound
ends, and the bounded search finds what it finds (`exists_isFirstFreeShort`).

As long as its number has at most seven digits, the first character of a name stays, which is a
capital letter or an `@` (`IsShort.shortVariant`). There are nine million numbers of seven digits,
so no name needs a longer one if there are fewer names than that (`lt_of_isFirstFreeShort`).

* `wellFormedShorts_shortNames`: what holds of the short names of all names.
-/

namespace SurveyExport.SystemFile

/-! ### The characters of a short name -/

/-- A character that short names may hold, and no lower-case letter. -/
structure IsPlain (c : Char) : Prop where
  isShortChar : isShortChar c = true
  not_isLower : c.isLower = false

instance (c : Char) : Decidable (IsPlain c) :=
  decidable_of_iff (isShortChar c = true ∧ c.isLower = false)
    ⟨fun h ↦ ⟨h.1, h.2⟩, fun h ↦ ⟨h.isShortChar, h.not_isLower⟩⟩

/-- Characters that short names may hold are ASCII. -/
theorem lt_of_isShortChar {c : Char} (h : isShortChar c = true) : c.toNat < 128 := by
  rcases Bool.or_eq_true_iff.1 h with h | h
  · rcases Bool.or_eq_true_iff.1 h with h | h
    · have := Numeral.toNat_of_isAlpha h
      omega
    · have := Numeral.toNat_of_isDigit h
      omega
  · have hmark := List.contains_iff_mem.1 h
    simp only [List.mem_cons, List.not_mem_nil, or_false] at hmark
    rcases hmark with rfl | rfl | rfl | rfl | rfl <;> decide

/-- A property of ASCII characters can be checked for one after the other. -/
theorem forall_ascii {p : Char → Prop} (h : ∀ n < 128, p (Char.ofNat n)) {c : Char}
    (hc : c.toNat < 128) : p c := by
  have hp := h c.toNat hc
  rwa [Char.ofNat_toNat] at hp

theorem isPlain_toUpper {c : Char} (h : isShortChar c = true) : IsPlain c.toUpper :=
  forall_ascii (p := fun c ↦ isShortChar c = true → IsPlain c.toUpper) (by decide)
    (lt_of_isShortChar h) h

theorem isPlain_of_isDigit {c : Char} (h : c.isDigit = true) : IsPlain c := by
  have hc := Numeral.toNat_of_isDigit h
  exact forall_ascii (p := fun c ↦ c.isDigit = true → IsPlain c) (by decide) (by omega) h

/-- Characters that may make a short name. -/
structure IsShort (cs : List Char) : Prop where
  /-- There are at most eight of them. -/
  length_le : cs.length ≤ maxShortName
  plain : ∀ c ∈ cs, IsPlain c
  /-- The first one is a capital letter or an `@`. -/
  starts : ∃ c rest, cs = c :: rest ∧ (c.isUpper = true ∨ c = '@')

/-- A plain character that a short name may begin with is a capital letter or an `@`. -/
theorem IsPlain.isUpper_or {c : Char} (h : IsPlain c) (hc : isShortStart c = true) :
    c.isUpper = true ∨ c = '@' := by
  change (c.isUpper || c.isLower || c == '@') = true at hc
  simpa [h.not_isLower] using hc

/-- **The short name of a name is short**, whatever the name holds. -/
theorem isShort_shortBase (name : String) : IsShort (shortBase name) := by
  have hlength := List.length_take_le maxShortName
    ((name.toList.filter isShortChar).map Char.toUpper)
  have hplain : ∀ c ∈ ((name.toList.filter isShortChar).map Char.toUpper).take maxShortName,
      IsPlain c := by
    intro c hc
    obtain ⟨d, hd, rfl⟩ := List.mem_map.1 (List.mem_of_mem_take hc)
    exact isPlain_toUpper (List.mem_filter.1 hd).2
  have hmark : IsPlain 'V' := by decide
  rw [shortBase]
  generalize ((name.toList.filter isShortChar).map Char.toUpper).take maxShortName = cs
    at hlength hplain ⊢
  cases cs with
  | nil => exact ⟨by decide, List.forall_mem_singleton.2 hmark, 'V', [], rfl, .inl rfl⟩
  | cons c cs =>
    dsimp only
    split
    · rename_i hstart
      exact ⟨hlength, hplain, c, cs, rfl, (hplain c List.mem_cons_self).isUpper_or hstart⟩
    · refine ⟨List.length_take_le _ _, fun d hd ↦ ?_, 'V', _, rfl, .inl rfl⟩
      exact List.forall_mem_cons.2 ⟨hmark, hplain⟩ d (List.mem_of_mem_take hd)

/-! ### Variants -/

/-- **A number of at most seven digits leaves a short name short.** -/
theorem IsShort.shortVariant {base : List Char} (h : IsShort base) {k : ℕ} (hk : k < 10 ^ 7) :
    IsShort (shortVariant base k).toList where
  length_le := by
    rw [String.length_toList]
    exact Text.length_numbered_le (by decide) h.length_le (hk.trans (by decide))
  plain c hc := (Text.mem_of_mem_numbered hc).elim (h.plain c) isPlain_of_isDigit
  starts := by
    rw [SystemFile.shortVariant, Text.numbered]
    split
    · rw [String.toList_ofList]
      exact h.starts
    · have hdigits : (toString k).toList.length ≤ 7 := by
        rw [Text.toList_toString]
        exact (Nat.length_toDigits_le_iff (by decide) (by decide)).2 hk
      obtain ⟨c, rest, rfl, hc⟩ := h.starts
      rw [String.toList_ofList, show maxShortName - (toString k).toList.length =
        7 - (toString k).toList.length + 1 from Nat.succ_sub hdigits, List.take_succ_cons]
      exact ⟨c, _, rfl, hc⟩

/-- Variants whose numbers have equally many digits differ. -/
theorem shortVariant_inj (base : List Char) {i j : ℕ} (hi : i ≠ 0) (hj : j ≠ 0)
    (hlength : (Nat.toDigits 10 i).length = (Nat.toDigits 10 j).length)
    (h : shortVariant base i = shortVariant base j) : i = j :=
  Text.lowercase_numbered_inj hi hj hlength (congrArg Text.lowercase h)

/-! ### The search for a short name -/

/-- Variant number `k` is the first one that is not taken: the search ends with it. -/
def IsFirstFreeShort (taken : List String) (name : String) (k : ℕ) : Prop :=
  shortVariant (shortBase name) k ∉ taken ∧
    ∀ j < k, shortVariant (shortBase name) j ∈ taken

/-- The search is not cut off: it ends with the first free variant. -/
theorem exists_isFirstFreeShort (taken : List String) (name : String) :
    ∃ k, IsFirstFreeShort taken name k ∧
      shortName taken name = shortVariant (shortBase name) k := by
  obtain ⟨m, hlow, hhigh⟩ := Text.exists_pow_bounds taken.length
  obtain ⟨i, hi, hfree⟩ := Text.exists_variant_not_mem
    (fun _ _ ↦ shortVariant_inj (shortBase name)) hlow
  obtain ⟨k, -, hfound, hnew, hbefore⟩ :=
    Text.exists_firstFree taken.contains (hi.trans hhigh) (by simpa using hfree)
  exact ⟨k, ⟨by simpa using hnew, fun j hj ↦ by simpa using hbefore j hj⟩, hfound⟩

/-- **Seven digits are enough** after fewer names than there are numbers of seven digits. -/
theorem lt_of_isFirstFreeShort {taken : List String} {name : String} {k : ℕ}
    (h : IsFirstFreeShort taken name k) (hfew : taken.length < 9000000) : k < 10 ^ 7 := by
  obtain ⟨i, hi, hfree⟩ := Text.exists_variant_not_mem
    (fun _ _ ↦ shortVariant_inj (shortBase name)) (show taken.length < 9 * 10 ^ 6 by omega)
  have hle : k ≤ i := Nat.le_of_not_lt fun hlt ↦ hfree (h.2 i hlt)
  omega

/-! ### All short names -/

/-- The short name of each name is found after the short names of those before it. -/
theorem getElem?_shortNames (names : List String) (i : ℕ) :
    (shortNames names)[i]? = names[i]?.map (shortName ((shortNames names).take i)) := by
  rw [shortNames, Text.getElem?_giveEach]
  rfl

/-- Short names are not repeated. -/
theorem nodup_shortNames (names : List String) : (shortNames names).Nodup := by
  rw [← List.map_id (shortNames names)]
  refine Text.nodup_map_of_not_mem_take fun i short h ↦ ?_
  rw [getElem?_shortNames] at h
  obtain ⟨name, -, rfl⟩ := Option.map_eq_some_iff.1 h
  obtain ⟨k, hk, hname⟩ := exists_isFirstFreeShort ((shortNames names).take i) name
  rw [List.map_id, hname]
  exact hk.1

/-- Short names are short, if there are fewer than the numbers of seven digits. -/
theorem isShort_of_mem_shortNames {names : List String} (hfew : names.length < 9000000)
    {short : String} (h : short ∈ shortNames names) : IsShort short.toList := by
  obtain ⟨i, hi⟩ := List.mem_iff_getElem?.1 h
  rw [getElem?_shortNames] at hi
  obtain ⟨name, hname, rfl⟩ := Option.map_eq_some_iff.1 hi
  obtain ⟨k, hk, hshort⟩ := exists_isFirstFreeShort ((shortNames names).take i) name
  have hlt := (List.getElem?_eq_some_iff.1 hname).1
  have hlength := List.length_take_le i (shortNames names)
  rw [hshort]
  exact (isShort_shortBase name).shortVariant (lt_of_isFirstFreeShort hk (by omega))

/-- A name that can stand in the record of a variable. -/
structure IsShortName (short : String) : Prop where
  size_pos : 1 ≤ short.utf8ByteSize
  size_le : short.utf8ByteSize ≤ 8
  ascii : ∀ c ∈ short.toList, c.toNat < 128
  not_isLower : ∀ c ∈ short.toList, c.isLower = false
  starts : ∃ c rest, short.toList = c :: rest ∧ (c.isUpper = true ∨ c = '@')

theorem IsShort.isShortName {short : String} (h : IsShort short.toList) : IsShortName short := by
  have hascii : ∀ c ∈ short.toList, c.toNat < 128 := fun c hc ↦
    lt_of_isShortChar (h.plain c hc).isShortChar
  have hsize : short.utf8ByteSize = short.toList.length := by
    rw [← Text.byteLength_toList]
    refine Text.byteLength_eq_length fun c hc ↦ ?_
    rw [Char.utf8Size_eq_one_iff, UInt32.le_iff_toNat_le]
    exact Nat.le_of_lt_succ (hascii c hc)
  refine ⟨?_, hsize ▸ h.length_le, hascii, fun c hc ↦ (h.plain c hc).not_isLower, h.starts⟩
  obtain ⟨c, rest, hcs, -⟩ := h.starts
  rw [hsize, hcs]
  exact Nat.succ_le_succ (Nat.zero_le _)

/-- What the short names of names have to be. -/
structure WellFormedShorts (names shorts : List String) : Prop where
  /-- Every name has a short name. -/
  length_eq : shorts.length = names.length
  /-- The search for each one ends: it is the first variant that no name before it has. -/
  search_ends : ∀ i name, names[i]? = some name → ∃ k, IsFirstFreeShort (shorts.take i) name k ∧
    shorts[i]? = some (shortVariant (shortBase name) k)
  nodup : shorts.Nodup
  isShortName : ∀ short ∈ shorts, IsShortName short

/-- **All short names are well formed, and no two are the same**, whatever the names hold. -/
theorem wellFormedShorts_shortNames {names : List String} (hfew : names.length < 9000000) :
    WellFormedShorts names (shortNames names) where
  length_eq := length_shortNames names
  search_ends i name h := by
    obtain ⟨k, hk, hshort⟩ := exists_isFirstFreeShort ((shortNames names).take i) name
    exact ⟨k, hk, by rw [getElem?_shortNames, h, Option.map_some, hshort]⟩
  nodup := nodup_shortNames names
  isShortName _ h := (isShort_of_mem_shortNames hfew h).isShortName

/-- Names that begin alike, one that begins with a digit, and one without any character that a short
name may hold. -/
theorem wellFormedShorts_shortNames_children :
    ["children.name", "children.name2", "@_id", "1st", "名"].length < 9000000 ∧
      WellFormedShorts ["children.name", "children.name2", "@_id", "1st", "名"]
        ["CHILDREN", "CHILDRE1", "@_ID", "V1ST", "V"] := by
  have hfew : ["children.name", "children.name2", "@_id", "1st", "名"].length < 9000000 := by decide
  have hnames : shortNames ["children.name", "children.name2", "@_id", "1st", "名"] =
      ["CHILDREN", "CHILDRE1", "@_ID", "V1ST", "V"] := by decide +kernel
  exact ⟨hfew, hnames ▸ wellFormedShorts_shortNames hfew⟩

end SurveyExport.SystemFile
