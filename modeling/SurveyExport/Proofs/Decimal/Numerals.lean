import SurveyExport.Proofs.Text.Blank
import SurveyExport.Decimal.Numeral

/-!
# The characters of a numeral

What reads as a number is made of digits, letters, signs and points. So no blank stands around it,
and no reference to another answer begins in it.

* `Numeral.isChar_of_readFloat?`: which characters a numeral has;
* `Numeral.trim_of_readFloat?`: a numeral is not trimmed;
* `Numeral.readInt?_trim_toString`: a whole number of 64 bits is read back from its digits.
-/

namespace SurveyExport.Numeral

/-- A character that a numeral may have. -/
def IsChar (c : Char) : Prop := c.isDigit = true ∨ c.isAlpha = true ∨ c = '+' ∨ c = '-' ∨ c = '.'

/-- A letter in lower case comes from a letter. -/
theorem isAlpha_of_isAlpha_toLower {c : Char} (h : c.toLower.isAlpha = true) :
    c.isAlpha = true := by
  by_cases hupper : c.isUpper = true
  · show (c.isUpper || c.isLower) = true
    rw [hupper, Bool.true_or]
  · have hlower : c.toLower = c := dif_neg fun h ↦ hupper (decide_eq_true h)
    rwa [hlower] at h

/-- What a sign is read from holds the sign and what is left. -/
theorem mem_readSign {cs : List Char} {c : Char} (h : c ∈ cs) :
    c = '+' ∨ c = '-' ∨ c ∈ (readSign cs).2 := by
  rw [readSign.eq_def]
  split
  · exact (List.mem_cons.1 h).imp_right .inr
  · exact .inr (List.mem_cons.1 h)
  · exact .inr (.inr h)

/-- An exponent is made of a mark, a sign and digits. -/
theorem mem_readExponent? {cs : List Char} {e : Int} (h : readExponent? cs = some e) {c : Char}
    (hc : c ∈ cs) : c.isDigit = true ∨ c = 'e' ∨ c = 'E' ∨ c = '+' ∨ c = '-' := by
  rw [readExponent?.eq_def] at h
  split at h
  · cases hc
  · split at h
    · rename_i hmark
      dsimp only at h
      split at h
      · cases h
      · rename_i hdigits
        simp only [Bool.or_eq_true, not_or, Bool.not_eq_true', Bool.not_eq_false] at hdigits
        rcases List.mem_cons.1 hc with rfl | hc
        · exact .inr ((Bool.or_eq_true_iff.1 hmark).imp of_decide_eq_true
            fun h ↦ .inl (of_decide_eq_true h))
        · rcases mem_readSign hc with rfl | rfl | hc
          · exact .inr (.inr (.inr (.inl rfl)))
          · exact .inr (.inr (.inr (.inr rfl)))
          · exact .inl (List.all_eq_true.1 hdigits.2 c hc)
    · cases h

theorem isChar_of_readExponent? {cs : List Char} {e : Int} (h : readExponent? cs = some e) :
    ∀ c ∈ cs, IsChar c := by
  intro c hc
  rcases mem_readExponent? h hc with hdigit | rfl | rfl | rfl | rfl
  · exact .inl hdigit
  · exact .inr (.inl rfl)
  · exact .inr (.inl rfl)
  · exact .inr (.inr (.inl rfl))
  · exact .inr (.inr (.inr (.inl rfl)))

theorem isChar_of_mem_takeWhile {cs : List Char} {c : Char} (h : c ∈ cs.takeWhile Char.isDigit) :
    IsChar c := .inl (List.all_eq_true.1 List.all_takeWhile c h)

theorem isChar_of_readMagnitude? {cs : List Char} {x : Float} (h : readMagnitude? cs = some x) :
    ∀ c ∈ cs, IsChar c := by
  rw [← List.takeWhile_append_dropWhile (p := Char.isDigit) (l := cs)]
  refine List.forall_mem_append.2 ⟨fun c ↦ isChar_of_mem_takeWhile, ?_⟩
  simp only [readMagnitude?] at h
  split at h
  · rename_i rest hpoint
    rw [hpoint]
    split at h
    · cases h
    · obtain ⟨e, he, -⟩ := Option.map_eq_some_iff.1 h
      refine List.forall_mem_cons.2 ⟨.inr (.inr (.inr (.inr rfl))), ?_⟩
      rw [← List.takeWhile_append_dropWhile (p := Char.isDigit) (l := rest)]
      exact List.forall_mem_append.2 ⟨fun c ↦ isChar_of_mem_takeWhile,
        isChar_of_readExponent? he⟩
  · split at h
    · cases h
    · obtain ⟨e, he, -⟩ := Option.map_eq_some_iff.1 h
      exact isChar_of_readExponent? he

/-- A word for a number that is none is made of letters. -/
theorem isAlpha_of_lowercase {cs : List Char} {word : String}
    (h : String.ofList (cs.map Char.toLower) = word)
    (hword : ∀ c ∈ word.toList, c.isAlpha = true) : ∀ c ∈ cs, c.isAlpha = true := by
  intro c hc
  refine isAlpha_of_isAlpha_toLower (hword _ ?_)
  rw [← h, String.toList_ofList]
  exact List.mem_map_of_mem hc

/-- **A numeral is made of digits, letters, signs and points.** -/
theorem isChar_of_readFloat? {s : String} {x : Float} (h : readFloat? s = some x) :
    ∀ c ∈ s.toList, IsChar c := by
  intro c hc
  rcases mem_readSign hc with rfl | rfl | hc
  · exact .inr (.inr (.inl rfl))
  · exact .inr (.inr (.inr (.inl rfl)))
  simp only [readFloat?, Option.map_eq_some_iff] at h
  obtain ⟨y, hy, -⟩ := h
  split at hy
  · rename_i hword
    exact .inr (.inl (isAlpha_of_lowercase hword (by simp) c hc))
  · rename_i hword
    exact .inr (.inl (isAlpha_of_lowercase hword (by simp) c hc))
  · rename_i hword
    exact .inr (.inl (isAlpha_of_lowercase hword (by simp) c hc))
  · exact isChar_of_readMagnitude? hy c hc

/-- The numbers of digits. -/
theorem toNat_of_isDigit {c : Char} (h : c.isDigit = true) : 48 ≤ c.toNat ∧ c.toNat ≤ 57 := by
  obtain ⟨hl, hu⟩ := Bool.and_eq_true_iff.1 h
  exact ⟨UInt32.le_iff_toNat_le.1 (of_decide_eq_true hl),
    UInt32.le_iff_toNat_le.1 (of_decide_eq_true hu)⟩

/-- The numbers of letters lie in this range. -/
theorem toNat_of_isAlpha {c : Char} (h : c.isAlpha = true) : 65 ≤ c.toNat ∧ c.toNat ≤ 122 := by
  rcases Bool.or_eq_true_iff.1 h with hupper | hlower
  · obtain ⟨hl, hu⟩ := of_decide_eq_true hupper
    have hle : c.toNat ≤ 90 := UInt32.le_iff_toNat_le.1 hu
    exact ⟨UInt32.le_iff_toNat_le.1 hl, by omega⟩
  · obtain ⟨hl, hu⟩ := Bool.and_eq_true_iff.1 hlower
    have hle : 97 ≤ c.toNat := UInt32.le_iff_toNat_le.1 (of_decide_eq_true hl)
    exact ⟨by omega, UInt32.le_iff_toNat_le.1 (of_decide_eq_true hu)⟩

/-- A character of a numeral is not blank. -/
theorem IsChar.not_isBlank {c : Char} (h : IsChar c) : Text.isBlank c = false := by
  have hbound : 33 ≤ c.toNat ∧ c.toNat ≤ 126 := by
    rcases h with h | h | rfl | rfl | rfl
    · have := toNat_of_isDigit h
      omega
    · have := toNat_of_isAlpha h
      omega
    · decide
    · decide
    · decide
  simp only [Text.isBlank, Bool.or_eq_false_iff, Bool.and_eq_false_iff, decide_eq_false_iff_not,
    beq_eq_false_iff_ne]
  omega

/-- **A numeral is not trimmed.** -/
theorem trim_of_readFloat? {s : String} {x : Float} (h : readFloat? s = some x) :
    Text.trim s = s :=
  Text.trim_eq_self fun c hc ↦ (isChar_of_readFloat? h c hc).not_isBlank

/-- No dollar stands in a numeral. -/
theorem dollar_not_mem_of_readFloat? {s : String} {x : Float} (h : readFloat? s = some x) :
    '$' ∉ s.toList := by
  intro hc
  have hchar := isChar_of_readFloat? h _ hc
  revert hchar
  simp [IsChar]

/-! ### Whole numbers -/

/-- The digits of a number, with zeros in front, have its value. -/
theorem ofDigits_replicate_append (k n : ℕ) :
    ofDigits (List.replicate k '0' ++ Nat.toDigits 10 n) = n := by
  show Nat.ofDigitChars 10 (List.replicate k '0' ++ Nat.toDigits 10 n) 0 = n
  rw [Nat.ofDigitChars_append, Nat.ofDigitChars_replicate_zero, Nat.mul_zero,
    Nat.ofDigitChars_ten_toDigits]

theorem isDigit_of_mem_toDigits {n : ℕ} {c : Char} (h : c ∈ Nat.toDigits 10 n) :
    c.isDigit = true :=
  Nat.isDigit_of_mem_toDigits (by decide) (by decide) h

/-- Digits have no sign. -/
theorem readSign_toDigits (n : ℕ) :
    readSign (Nat.toDigits 10 n) = (false, Nat.toDigits 10 n) := by
  rw [readSign.eq_def]
  split
  · rename_i h
    exact absurd (isDigit_of_mem_toDigits (h ▸ List.mem_cons_self)) (by decide)
  · rename_i h
    exact absurd (isDigit_of_mem_toDigits (h ▸ List.mem_cons_self)) (by decide)
  · rfl

/-- The digits of a number are digits, and there is one. -/
theorem toDigits_isEmpty_or (n : ℕ) :
    ((Nat.toDigits 10 n).isEmpty || !(Nat.toDigits 10 n).all Char.isDigit) = false := by
  have hall : (Nat.toDigits 10 n).all Char.isDigit = true :=
    List.all_eq_true.2 fun c hc ↦ isDigit_of_mem_toDigits hc
  rw [hall, Bool.not_true, Bool.or_false]
  simp

/-- A whole number is written with its digits, after a sign if it is negative. -/
theorem toList_toString_int (n : Int) :
    (toString n).toList = (if n < 0 then ['-'] else []) ++ Nat.toDigits 10 n.natAbs := by
  cases n with
  | ofNat k => exact Nat.toList_repr
  | negSucc k =>
    show ("-" ++ Nat.repr (k + 1)).toList = _
    rw [String.toList_append, Nat.toList_repr, if_pos (Int.negSucc_lt_zero k)]
    rfl

/-- A whole number of 64 bits is read back from its digits and its sign. -/
theorem readInt?_toString {n : Int} (h : fits n = true) : readInt? (toString n) = some n := by
  have hdigits : ofDigits (Nat.toDigits 10 n.natAbs) = n.natAbs := ofDigits_replicate_append 0 _
  rw [readInt?, toList_toString_int]
  by_cases hn : n < 0
  · have habs : -(n.natAbs : Int) = n := by omega
    simp only [hn, List.singleton_append, readSign, toDigits_isEmpty_or, hdigits, habs, h,
      if_true, Bool.false_eq_true, if_false]
  · have habs : (n.natAbs : Int) = n := by omega
    simp only [hn, List.nil_append, readSign_toDigits, toDigits_isEmpty_or, hdigits, habs, h,
      if_true, Bool.false_eq_true, if_false]

/-- **A whole number of 64 bits survives being written.** -/
theorem readInt?_trim_toString {n : Int} (h : fits n = true) :
    readInt? (Text.trim (toString n)) = some n := by
  have hchar : ∀ c ∈ (toString n).toList, IsChar c := by
    intro c hc
    rw [toList_toString_int, List.mem_append] at hc
    rcases hc with hc | hc
    · split at hc
      · exact .inr (.inr (.inr (.inl (List.mem_singleton.1 hc))))
      · cases hc
    · exact .inl (isDigit_of_mem_toDigits hc)
  rw [Text.trim_eq_self fun c hc ↦ (hchar c hc).not_isBlank, readInt?_toString h]

end SurveyExport.Numeral
