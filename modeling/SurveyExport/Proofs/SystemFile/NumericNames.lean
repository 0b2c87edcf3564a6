import SurveyExport.Proofs.Decimal.Grammar
import SurveyExport.Proofs.SystemFile.Choices

/-!
# Choices that are stored as numbers

A select-one is stored as a number if each of its choices is named by a numeral. The number has 53
bits, and a numeral can be written in more than one way; so two choices may be stored as one number.
That happens just if the values that their names spell are rounded to the same (`1` and `1.0`, `+5`
and `5`, or two long numerals that are near to each other).

No digits may be padded with zeros, though. So a whole number is named in one way only, with digits
and a minus where it needs one, and names of this form that spell at most `2 ^ 53` are told apart.
The number zero has two such names, `0` and `-0`.

* `SystemFile.storedNumber?_of_spells`: the number that a name is stored as.
* `SystemFile.eq_toString_of_isNumericName`: the one name of a whole number.
* `SystemFile.storedNumber?_eq_iff`: which names are stored as the same number.
-/

namespace SurveyExport.SystemFile

open Numeral (Spells SpellsWhole)
open Binary64 (rounded round?)

/-- The number that is stored for a cell with a text. -/
def storedNumber? (text : String) : Option ℚ :=
  match Conversion.number.value (some (.text text)) with
  | .number (some bits) => (Binary64.ofFloat (Float.ofBits bits)).value?
  | _ => none

/-- The number of a name is the one that the name reads as. -/
theorem storedNumber?_of_readFloat? {name : String} {x : Float}
    (h : Numeral.readFloat? name = some x) (hfinite : Binary64.FiniteBits x.toBits) :
    storedNumber? name = (Binary64.ofFloat x).value? := by
  have hvalue : Conversion.number.value (some (.text name)) = .number (some x.toBits) := by
    rw [Conversion.value, Option.bind_some, number?_text h]
    rfl
  have hbits : Binary64.ofFloat (Float.ofBits x.toBits) = Binary64.ofFloat x := by
    rw [Binary64.ofFloat, Binary64.toBits_ofBits hfinite, Binary64.ofFloat]
  rw [storedNumber?, hvalue]
  exact congrArg Binary64.value? hbits

/-- **A name is stored as the number nearest to the value that it spells.** -/
theorem storedNumber?_of_spells {name : String} {q : ℚ} (h : isNumericName name = true)
    (hq : Spells name q) : storedNumber? name = some (rounded q) := by
  obtain ⟨x, hx, hfinite⟩ := exists_readFloat?_of_isNumericName h
  obtain ⟨y, hy, hvalue⟩ := Numeral.exists_readFloat?_of_spells hq
  obtain rfl := Option.some_inj.1 (hx.symm.trans hy)
  rw [storedNumber?_of_readFloat? hx hfinite, hvalue, round?]
  refine if_pos (by_contra fun hlarge ↦ ?_)
  -- a number that is too large would not be finite
  have hnone : (Binary64.ofFloat x).value? = none := by rw [hvalue, round?, if_neg hlarge]
  have hparts := (Binary64.isFinite_ofFloat x).2 hfinite
  cases hx : Binary64.ofFloat x with
  | finite => simp [hx, Binary64.value?] at hnone
  | _ => simp [hx, Binary64.isFinite] at hparts

theorem exists_spells_of_isNumericName {name : String} (h : isNumericName name = true) :
    ∃ q, Spells name q := by
  obtain ⟨x, hx, hfinite⟩ := exists_readFloat?_of_isNumericName h
  exact Numeral.exists_spells hx ((Binary64.isFinite_ofFloat x).2 hfinite)

/-! ### Whole numbers -/

/-- Digits are not padded with zeros. -/
theorem isNumericName_of_padded {name : String} {c : Char} {ds : List Char}
    (hs : name.toList = '0' :: c :: ds ∨ name.toList = '-' :: '0' :: c :: ds) (hc : c ≠ '.') :
    isNumericName name = false := by
  rw [isNumericName]
  rcases hs with hs | hs <;> rw [hs] <;> simp [hc]

/-- The digits of a whole number other than zero are those of its value. -/
theorem toDigits_of_isNumericName {name : String} {ds : List Char} (h : isNumericName name = true)
    (hs : name.toList = ds ∨ name.toList = '-' :: ds) (hds : Numeral.IsDigits ds) (hne : ds ≠ [])
    (hzero : Numeral.ofDigits ds ≠ 0) : Nat.toDigits 10 (Numeral.ofDigits ds) = ds := by
  refine Numeral.toDigits_ofDigits hds hne fun hhead ↦ ?_
  obtain ⟨rest, rfl⟩ := List.head?_eq_some_iff.1 hhead
  cases rest with
  | nil => exact hzero rfl
  | cons c ds =>
    have hc : c ≠ '.' := by
      rintro rfl
      exact absurd (hds '.' (by simp)) (by decide)
    rw [isNumericName_of_padded hs hc] at h
    cases h

/-- **A whole number other than zero is named in one way.** -/
theorem eq_toString_of_isNumericName {name : String} {n : ℤ} (h : isNumericName name = true)
    (hn : SpellsWhole name n) (hzero : n ≠ 0) : name = toString n := by
  refine String.toList_injective ?_
  rw [Numeral.toList_toString_int]
  cases hn with
  | positive hs hds hne =>
    have hdigits := toDigits_of_isNumericName h (.inl hs) hds hne (by exact_mod_cast hzero)
    rw [if_neg (by omega), Int.natAbs_natCast, hdigits, hs, List.nil_append]
  | negative hs hds hne =>
    have hpos : Numeral.ofDigits _ ≠ 0 := fun heq ↦ hzero (by rw [heq]; rfl)
    have hdigits := toDigits_of_isNumericName h (.inr hs) hds hne hpos
    rw [if_pos (by omega), Int.natAbs_neg, Int.natAbs_natCast, hdigits, hs,
      List.singleton_append]

/-- **Names are stored as the same number just if what they spell is rounded to the same.** Names
for whole numbers of at most 53 bits, written with digits and a minus, are not, save the two for
zero. -/
theorem storedNumber?_eq_iff {a b : String} (ha : isNumericName a = true)
    (hb : isNumericName b = true) :
    (∃ p q, Spells a p ∧ Spells b q) ∧
    (∀ p q, Spells a p → Spells b q →
      (storedNumber? a).isSome ∧ (storedNumber? a = storedNumber? b ↔ rounded p = rounded q)) ∧
    ∀ m n, SpellsWhole a m → SpellsWhole b n → |m| ≤ 2 ^ 53 → |n| ≤ 2 ^ 53 →
      storedNumber? a = storedNumber? b → a = b ∨ m = 0 ∧ n = 0 := by
  refine ⟨?_, fun p q hp hq ↦ ?_, fun m n hm hn hm53 hn53 heq ↦ ?_⟩
  · obtain ⟨p, hp⟩ := exists_spells_of_isNumericName ha
    obtain ⟨q, hq⟩ := exists_spells_of_isNumericName hb
    exact ⟨p, q, hp, hq⟩
  · rw [storedNumber?_of_spells ha hp, storedNumber?_of_spells hb hq]
    exact ⟨rfl, Option.some_inj⟩
  · rw [storedNumber?_of_spells ha hm.spells, storedNumber?_of_spells hb hn.spells,
      Binary64.rounded_eq_self_of_le hm53, Binary64.rounded_eq_self_of_le hn53] at heq
    obtain rfl := Int.cast_injective (Option.some_inj.1 heq)
    rcases eq_or_ne m 0 with hzero | hzero
    · exact .inr ⟨hzero, hzero⟩
    · rw [eq_toString_of_isNumericName ha hm hzero, eq_toString_of_isNumericName hb hn hzero]
      exact .inl rfl

/-- Two names of one number, and two numbers with one name each. -/
theorem storedNumber?_eq_iff_sizes :
    (isNumericName "1" = true ∧ isNumericName "1.0" = true ∧
      storedNumber? "1" = storedNumber? "1.0") ∧
    isNumericName "12" = true ∧ storedNumber? "1" ≠ storedNumber? "12" := by
  have hone : isNumericName "1" = true := by decide +kernel
  have hpoint : isNumericName "1.0" = true := by decide +kernel
  have htwelve : isNumericName "12" = true := by decide +kernel
  have hdigits : ∀ ds : List Char, ds.all Char.isDigit = true → Numeral.IsDigits ds :=
    fun ds h ↦ List.all_eq_true.1 h
  have hwhole : SpellsWhole "1" 1 :=
    @SpellsWhole.positive "1" ['1'] rfl (hdigits _ rfl) (List.cons_ne_nil _ _)
  have hwhole' : SpellsWhole "12" 12 :=
    @SpellsWhole.positive "12" ['1', '2'] rfl (hdigits _ rfl) (List.cons_ne_nil _ _)
  have hspells : Spells "1.0" ((10 : ℕ) * 10 ^ (0 - (1 : ℕ) : ℤ)) :=
    @Spells.intro "1.0" [] ['1', '.', '0'] false _ rfl .none
      (@Numeral.SpellsMagnitude.point ['1'] ['0'] [] 0 (hdigits _ rfl) (hdigits _ rfl)
        (List.cons_ne_nil _ _) .none)
  have hvalue : ((10 : ℕ) * 10 ^ (0 - (1 : ℕ) : ℤ) : ℚ) = (1 : ℤ) := by norm_num
  rw [hvalue] at hspells
  refine ⟨⟨hone, hpoint, ?_⟩, htwelve, fun heq ↦ ?_⟩
  · exact ((storedNumber?_eq_iff hone hpoint).2.1 _ _ hwhole.spells hspells).2.2 rfl
  · rcases (storedNumber?_eq_iff hone htwelve).2.2 1 12 hwhole hwhole' (by decide) (by decide) heq
      with hname | ⟨hzero, -⟩
    · exact absurd hname (by decide)
    · exact absurd hzero (by decide)

end SurveyExport.SystemFile
