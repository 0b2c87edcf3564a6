import Mathlib.Algebra.Group.Nat.Defs
import Mathlib.Data.List.Nodup
import Mathlib.Data.List.Perm.Subperm
import Mathlib.Data.Nat.Log
import SurveyExport.Text.Fresh
import SurveyExport.Text.Lowercase

/-!
# Free names among numbered variants

A name that is taken gets a number, and the number takes the place of as many characters as it has
digits. So variants whose numbers have different lengths may be the same; those whose numbers have
equally many digits differ, in lower case as well (`lowercase_numbered_inj`). Some number of digits
has more numbers than there are names (`exists_variant_not_mem`, `exists_pow_bounds`), and a search
that goes that far ends with the first free variant (`exists_firstFree`).

Names that are given one after the other differ, if none is given that is taken (`giveEach`,
`nodup_map_of_not_mem_take`).
-/

namespace SurveyExport.Text

/-! ### Numbers as digits -/

/-- A number is read off its digits. -/
theorem toDigits_inj {i j : Nat} (h : Nat.toDigits 10 i = Nat.toDigits 10 j) : i = j := by
  rw [← Nat.ofDigitChars_ten_toDigits (n := i), h, Nat.ofDigitChars_ten_toDigits]

theorem toList_toString (i : Nat) : (toString i).toList = Nat.toDigits 10 i := by
  rw [Nat.toString_eq_repr, Nat.toList_repr]

theorem isDigit_of_mem_toString {k : ℕ} {c : Char} (h : c ∈ (toString k).toList) :
    c.isDigit = true := by
  rw [toList_toString] at h
  exact Nat.isDigit_of_mem_toDigits (by decide) (by decide) h

/-- The numbers from a power of ten on have equally many digits for nine times that power. -/
theorem length_toDigits_eq {m i : Nat} (hlow : 10 ^ m ≤ i) (hhigh : i < 10 ^ (m + 1)) :
    (Nat.toDigits 10 i).length = m + 1 := by
  have hle : (Nat.toDigits 10 i).length ≤ m + 1 :=
    (Nat.length_toDigits_le_iff (by decide) (by omega)).2 hhigh
  rcases Nat.eq_zero_or_pos m with rfl | hm
  · have := Nat.length_toDigits_pos (b := 10) (n := i)
    omega
  · have hgt : ¬ (Nat.toDigits 10 i).length ≤ m := fun h ↦
      absurd ((Nat.length_toDigits_le_iff (by decide) hm).1 h) (by omega)
    omega

/-! ### Numbered variants -/

/-- Digits are their own lower case. -/
theorem lowercaseFrom_digits {ds : List Char} (hds : ∀ d ∈ ds, d.isDigit = true) :
    ∀ before, lowercaseFrom before ds = ds := by
  induction ds with
  | nil => exact fun _ ↦ rfl
  | cons d ds ih =>
    intro before
    obtain ⟨hd, hds⟩ := List.forall_mem_cons.1 hds
    have hrange : 48 ≤ d.toNat ∧ d.toNat ≤ 57 := by
      simpa [Char.isDigit, UInt32.le_iff_toNat_le] using hd
    have hsigma : (d == 'Σ') = false := by
      refine beq_eq_false_iff_ne.2 ?_
      rintro rfl
      exact absurd hrange (by decide)
    have hlower : d.toLower = d := by
      refine dif_neg fun h ↦ ?_
      have hupper : 65 ≤ d.toNat := by
        simpa [UInt32.le_iff_toNat_le] using h.1
      omega
    have hchar : lowercaseChar d = [d] := by
      rw [lowercaseChar, if_pos (by omega), hlower]
    rw [lowercaseFrom, hsigma, ih hds, hchar]
    rfl

/-- Lower case keeps the digits at the end of a text. -/
theorem exists_lowercaseFrom_append {ds : List Char} (hds : ∀ d ∈ ds, d.isDigit = true) :
    ∀ before cs : List Char, ∃ xs, lowercaseFrom before (cs ++ ds) = xs ++ ds
  | before, [] => ⟨[], lowercaseFrom_digits hds before⟩
  | before, c :: cs => by
    obtain ⟨xs, hxs⟩ := exists_lowercaseFrom_append hds (c :: before) cs
    rw [List.cons_append, lowercaseFrom, hxs, ← List.append_assoc]
    exact ⟨_, rfl⟩

/-- Variants whose numbers have equally many digits differ, in lower case as well. -/
theorem lowercase_numbered_inj {limit : ℕ} {base : List Char} {i j : ℕ} (hi : i ≠ 0) (hj : j ≠ 0)
    (hlength : (Nat.toDigits 10 i).length = (Nat.toDigits 10 j).length)
    (h : lowercase (numbered limit base i) = lowercase (numbered limit base j)) : i = j := by
  have hdigits : ∀ k, ∀ d ∈ Nat.toDigits 10 k, d.isDigit = true := fun k d hd ↦
    Nat.isDigit_of_mem_toDigits (by decide) (by decide) hd
  have hchars := congrArg String.toList h
  simp only [lowercase, numbered, if_neg hi, if_neg hj, String.toList_ofList, toList_toString]
    at hchars
  obtain ⟨xs, hxs⟩ := exists_lowercaseFrom_append (hdigits i) []
    (base.take (limit - (Nat.toDigits 10 i).length))
  obtain ⟨ys, hys⟩ := exists_lowercaseFrom_append (hdigits j) []
    (base.take (limit - (Nat.toDigits 10 j).length))
  rw [hxs, hys] at hchars
  exact toDigits_inj (List.append_inj' hchars hlength).2

/-- A character of a variant is one of the name or a digit. -/
theorem mem_of_mem_numbered {limit k : ℕ} {base : List Char} {c : Char}
    (h : c ∈ (numbered limit base k).toList) : c ∈ base ∨ c.isDigit = true := by
  rw [numbered] at h
  split at h
  · exact .inl (by rwa [String.toList_ofList] at h)
  · rw [String.toList_ofList, List.mem_append] at h
    exact h.imp List.mem_of_mem_take isDigit_of_mem_toString

/-- A variant of a name that fits does so itself, as long as its number fits. -/
theorem length_numbered_le {limit k : ℕ} {base : List Char} (hlimit : 0 < limit)
    (hbase : base.length ≤ limit) (hk : k < 10 ^ limit) :
    (numbered limit base k).length ≤ limit := by
  have hdigits : (toString k).toList.length ≤ limit := by
    rw [toList_toString]
    exact (Nat.length_toDigits_le_iff (by decide) hlimit).2 hk
  rw [numbered]
  split
  · rwa [String.length_ofList]
  · rw [String.length_ofList, List.length_append]
    have htake := List.length_take_le (limit - (toString k).toList.length) base
    omega

/-! ### Variants that are free -/

/-- Of more different values than a list is long, one is not in the list. -/
theorem exists_not_mem_of_inj {α : Type} (f : Nat → α) (first : Nat) {l : List α}
    (hinj : ∀ i j, first ≤ i → i ≤ first + l.length → first ≤ j → j ≤ first + l.length →
      f i = f j → i = j) : ∃ i, first ≤ i ∧ i ≤ first + l.length ∧ f i ∉ l := by
  by_contra hnone
  simp only [not_exists, not_and, not_not] at hnone
  have hmem : ∀ {i}, i ∈ List.range' first (l.length + 1) → first ≤ i ∧ i ≤ first + l.length := by
    intro i hi
    have := List.mem_range'_1.1 hi
    omega
  have hnd : ((List.range' first (l.length + 1)).map f).Nodup :=
    List.Nodup.map_on (fun i hi j hj h ↦
      hinj i j (hmem hi).1 (hmem hi).2 (hmem hj).1 (hmem hj).2 h) List.nodup_range'
  have hsub : (List.range' first (l.length + 1)).map f ⊆ l := by
    intro x hx
    obtain ⟨i, hi, rfl⟩ := List.mem_map.1 hx
    exact hnone i (hmem hi).1 (hmem hi).2
  -- more different values than the list has members would be in it
  have hlength := (hnd.subperm hsub).length_le
  rw [List.length_map, List.length_range'] at hlength
  omega

/-- Of variants that differ where their numbers have equally many digits, a free one has one digit
more than `m`, if there are fewer names than such numbers. -/
theorem exists_variant_not_mem {α : Type} {f : Nat → α} {m : Nat} {l : List α}
    (hinj : ∀ i j, i ≠ 0 → j ≠ 0 →
      (Nat.toDigits 10 i).length = (Nat.toDigits 10 j).length → f i = f j → i = j)
    (hl : l.length < 9 * 10 ^ m) : ∃ i, i ≤ 10 ^ m + l.length ∧ f i ∉ l := by
  have hpos : 0 < 10 ^ m := Nat.pow_pos (by decide)
  have hsucc : 10 ^ (m + 1) = 10 * 10 ^ m := by rw [Nat.pow_succ, Nat.mul_comm]
  obtain ⟨i, -, hi, hfree⟩ := exists_not_mem_of_inj f (10 ^ m) (l := l) (by
    intro i j hi hi' hj hj' h
    refine hinj i j (by omega) (by omega) ?_ h
    rw [length_toDigits_eq hi (by omega), length_toDigits_eq hj (by omega)])
  exact ⟨i, hi, hfree⟩

/-- If a variant within the bound is free, the search ends with the first free one. -/
theorem exists_firstFree (taken : String → Bool) {variant : Nat → String} {bound i : Nat}
    (hi : i ≤ bound) (hfree : taken (variant i) = false) :
    ∃ k ≤ bound, firstFree taken variant bound 0 = variant k ∧ taken (variant k) = false ∧
      ∀ j < k, taken (variant j) = true := by
  obtain ⟨k, -, hk, hfound, hbefore⟩ := exists_variant_of_firstFree taken variant bound 0
  have hnew : taken (firstFree taken variant bound 0) = false :=
    taken_firstFree (Nat.zero_le i) (by omega) hfree
  exact ⟨k, by omega, hfound, hfound ▸ hnew, fun j hj ↦ hbefore j (Nat.zero_le j) hj⟩

/-- For every number of names there are numbers enough of some length within a hundred times it. -/
theorem exists_pow_bounds (n : Nat) : ∃ m, n < 9 * 10 ^ m ∧ 10 ^ m + n ≤ 100 * (n + 1) := by
  have hlow : n + 1 < 10 ^ (Nat.log 10 (n + 1) + 1) := Nat.lt_pow_succ_log_self (by decide) _
  have hhigh : 10 ^ (Nat.log 10 (n + 1) + 1) ≤ 10 * (n + 1) := by
    rw [Nat.pow_succ, Nat.mul_comm]
    exact Nat.mul_le_mul_left 10 (Nat.pow_log_le_self 10 (by omega))
  exact ⟨Nat.log 10 (n + 1) + 1, by omega, by omega⟩

/-! ### Names given one after the other -/

/-- Each name is given with regard to the names before it. -/
theorem getElem?_giveEach (give : List String → String → String) (taken ss : List String)
    (i : ℕ) : (giveEach give taken ss)[i]? =
      ss[i]?.map fun s ↦ give (taken ++ (giveEach give taken ss).take i) s := by
  induction ss generalizing taken i with
  | nil => simp [giveEach]
  | cons s rest ih =>
    cases i with
    | zero => simp [giveEach]
    | succ i => simp [giveEach, ih]

/-- Values that differ from those before them are all different. -/
theorem nodup_map_of_not_mem_take {α β : Type} {f : α → β} {l : List α}
    (h : ∀ i x, l[i]? = some x → f x ∉ (l.take i).map f) : (l.map f).Nodup := by
  refine List.pairwise_map.2 (List.pairwise_iff_getElem.2 fun i j hi hj hij heq ↦ ?_)
  refine h j _ (List.getElem?_eq_getElem hj) ?_
  rw [← heq]
  exact List.mem_map_of_mem (List.mem_take_iff_getElem.2 ⟨i, by omega, rfl⟩)

end SurveyExport.Text
