import SurveyExport.Proofs.Decimal.Nearest

/-!
# How arithmetic rounds

Arithmetic drops bits of a significand one after the other, and keeps of them what decides whether
to round up: the bit dropped last, and whether any other was set. So it rounds once, to the nearest
number, also where fewer than 53 bits are left at the least exponent. What is left is stored with a
sign, 11 bits of exponent and 52 bits of fraction, unless it is too large.

* `Binary64.Represents`: what a significand and its two residual bits say, and that dropping a bit
  keeps saying it;
* `Binary64.isCanonical_roundWithAccuracy`: rounding gives the nearest value;
* `Binary64.isCanonical_mul`, `Binary64.isCanonical_div`: products and quotients are rounded once;
* `Binary64.IsCanonical.isStored_unpack_pack`: what is packed is unpacked, unless it is too large;
* `Binary64.ofFloat_eq_ofUnpacked`: the parts of a number are those that arithmetic works with.
-/

namespace SurveyExport.Binary64

open Float.Model (Format totalExponent)
open Float.Model.UnpackedFloat

/-! ### Dropping bits -/

/-- A significand and its two residual bits stand for `x`: they say what its whole part is, whether
it is at least halfway to the next whole number, and whether it is anywhere but at the start or
halfway. -/
structure Represents (em : ExtendedMantissa) (x : ℚ) : Prop where
  floor_eq : ⌊x⌋ = em.mantissa
  roundBit_iff : em.roundBit = true ↔ 1 ≤ 2 * Int.fract x
  stickyBit_iff : em.stickyBit = true ↔ 2 * Int.fract x ≠ 0 ∧ 2 * Int.fract x ≠ 1

namespace Represents

variable {em : ExtendedMantissa} {x : ℚ}

/-- **A significand is rounded to the nearest whole number.** -/
theorem roundedMantissa_eq (h : Represents em x) : (em.roundedMantissa : ℤ) = roundEven x := by
  obtain ⟨m, r, s⟩ := em
  obtain ⟨hfloor, hround, hsticky⟩ := h
  rw [roundEven, hfloor]
  cases r <;> cases s <;> simp at hround hsticky <;> split_ifs <;> first | rfl | grind

/-- Halving drops a bit. -/
theorem shiftRightOne (h : Represents em x) : Represents em.shiftRightOne (x / 2) := by
  obtain ⟨m, r, s⟩ := em
  obtain ⟨hfloor, hround, hsticky⟩ := h
  simp only at hfloor hround hsticky
  have hlow := Int.fract_nonneg x
  have hhigh := Int.fract_lt_one x
  have hx : x = m + Int.fract x := by
    conv_lhs => rw [← Int.floor_add_fract x, hfloor, Int.cast_natCast]
  have hm : (m : ℚ) = 2 * (m / 2 : ℕ) + (m % 2 : ℕ) := by exact_mod_cast (Nat.div_add_mod m 2).symm
  have hfloor' : ⌊x / 2⌋ = (m / 2 : ℕ) := by
    have : (m % 2 : ℕ) ≤ (1 : ℚ) := by exact_mod_cast (show m % 2 ≤ 1 by omega)
    have : (0 : ℚ) ≤ (m % 2 : ℕ) := by positivity
    rw [Int.floor_eq_iff, Int.cast_natCast]
    constructor <;> linarith
  have hfract : 2 * Int.fract (x / 2) = (m % 2 : ℕ) + Int.fract x := by
    rw [← Int.self_sub_floor, hfloor', Int.cast_natCast]
    linarith
  refine ⟨hfloor', ?_, ?_⟩
  · show (m % 2 != 0) = true ↔ _
    rw [hfract]
    rcases Nat.mod_two_eq_zero_or_one m with h | h <;> simp [h, hlow, hhigh]
  · show (r || s) = true ↔ _
    rw [hfract, Bool.or_eq_true, hround, hsticky]
    rcases Nat.mod_two_eq_zero_or_one m with h | h <;> rw [h] <;> grind

/-- Halving several times drops as many bits. -/
theorem shiftRight (h : Represents em x) (k : ℕ) : Represents (em >>> k) (x / 2 ^ k) := by
  show Represents (k.repeat ExtendedMantissa.shiftRightOne em) _
  induction k with
  | zero => simpa [Nat.repeat] using h
  | succ k ih =>
    rw [Nat.repeat, pow_succ, ← div_div]
    exact ih.shiftRightOne

end Represents

theorem represents_exact (m : ℕ) :
    Represents (ExtendedMantissa.ofMantissaAndAccuracy m .exact) m := by
  refine ⟨Int.floor_natCast m, ?_, ?_⟩ <;>
    simp [ExtendedMantissa.ofMantissaAndAccuracy, Int.fract_natCast]

/-- What is left of a division says where the quotient lies. -/
theorem represents_accuracyOfFraction (m : ℕ) {d : ℕ} (hd : 0 < d) :
    Represents (ExtendedMantissa.ofMantissaAndAccuracy (m / d) (accuracyOfFraction (m % d) d))
      (m / d) := by
  have hd' : (0 : ℚ) < d := by exact_mod_cast hd
  have hlt : m % d < d := Nat.mod_lt m hd
  have hfloor : ⌊(m / d : ℚ)⌋ = (m / d : ℕ) := by
    have := Rat.floor_intCast_div_natCast m d
    simpa using this
  have hm : (m : ℚ) = d * (m / d : ℕ) + (m % d : ℕ) := by exact_mod_cast (Nat.div_add_mod m d).symm
  have hfract : 2 * Int.fract (m / d : ℚ) = (2 * (m % d) : ℕ) / d := by
    rw [← Int.self_sub_floor, hfloor, Int.cast_natCast, eq_div_iff hd'.ne', mul_assoc, sub_mul,
      div_mul_cancel₀ _ hd'.ne']
    push_cast
    linarith
  have hone : (1 : ℚ) ≤ (2 * (m % d) : ℕ) / d ↔ d ≤ 2 * (m % d) := by
    rw [one_le_div hd', Nat.cast_le]
  have hzero : ((2 * (m % d) : ℕ) / d : ℚ) ≠ 0 ↔ m % d ≠ 0 := by
    simp [div_eq_zero_iff, hd.ne']
  have hhalf : ((2 * (m % d) : ℕ) / d : ℚ) ≠ 1 ↔ 2 * (m % d) ≠ d := by
    rw [ne_eq, div_eq_one_iff_eq hd'.ne', Nat.cast_inj]
  rw [← hfract] at hone hzero hhalf
  rw [accuracyOfFraction]
  split_ifs with h
  · refine ⟨hfloor, ?_, ?_⟩
    · rw [hone, h]
      simp [ExtendedMantissa.ofMantissaAndAccuracy, hd.ne']
    · rw [hzero]
      simp [ExtendedMantissa.ofMantissaAndAccuracy, h]
  · rcases lt_trichotomy (2 * (m % d)) d with hlt | heq | hgt
    · rw [Nat.compare_eq_lt.2 hlt]
      refine ⟨hfloor, ?_, ?_⟩
      · rw [hone]
        simp [ExtendedMantissa.ofMantissaAndAccuracy, hlt]
      · rw [hzero, hhalf]
        simp [ExtendedMantissa.ofMantissaAndAccuracy, h, hlt.ne]
    · rw [Nat.compare_eq_eq.2 heq]
      refine ⟨hfloor, ?_, ?_⟩
      · rw [hone]
        simp [ExtendedMantissa.ofMantissaAndAccuracy, heq]
      · rw [hzero, hhalf]
        simp [ExtendedMantissa.ofMantissaAndAccuracy, heq]
    · rw [Nat.compare_eq_gt.2 hgt]
      refine ⟨hfloor, ?_, ?_⟩
      · rw [hone]
        simp [ExtendedMantissa.ofMantissaAndAccuracy, hgt.le]
      · rw [hzero, hhalf]
        simp [ExtendedMantissa.ofMantissaAndAccuracy, h, hgt.ne']

/-! ### Rounding to 53 bits or to the least exponent -/

/-- An unpacked number is as arithmetic leaves it: it has a sign, a significand of 53 bits, or of
fewer at the least exponent, and this is its magnitude. -/
def IsCanonical (u : Float.Model.UnpackedFloat) (s : Sign) (v : ℚ) : Prop :=
  u = .zero s ∧ v = 0 ∨
    ∃ m e h, u = .finite s m e h ∧ m < 2 ^ 53 ∧ -1074 ≤ e ∧ (2 ^ 52 ≤ m ∨ e = -1074) ∧
      (m : ℚ) * 2 ^ e = v

theorem targetExponent_eq (m : ℕ) (e : ℤ) :
    Format.binary64.targetExponent (totalExponent m e) = max (m.log2 + e - 52) (-1074) := by
  show max ((m.log2 : ℤ) + 1 + e - 53) (-1074) = _
  omega

/-- The exponent that is asked for is that of the last bit. -/
theorem targetExponent_eq_lastBit {q : ℚ} (hq : 0 < q) {m : ℕ} {e : ℤ}
    (hfloor : ⌊q / 2 ^ e⌋ = m) (he : e ≤ Format.binary64.targetExponent (totalExponent m e)) :
    Format.binary64.targetExponent (totalExponent m e) = lastBit q := by
  have hpos : (0 : ℚ) < 2 ^ e := by positivity
  obtain ⟨hlow, hhigh⟩ := Int.floor_eq_iff.1 hfloor
  rw [le_div_iff₀ hpos, Int.cast_natCast] at hlow
  rw [div_lt_iff₀ hpos, Int.cast_natCast] at hhigh
  rw [targetExponent_eq] at he ⊢
  rw [lastBit, abs_of_pos hq]
  rcases eq_or_ne m 0 with rfl | hm
  · have hlog : Int.log 2 q < e := by
      rw [← Int.lt_zpow_iff_log_lt (by norm_num) hq]
      simpa using hhigh
    rw [Nat.log2_zero] at he ⊢
    omega
  · obtain ⟨hbit, hbits⟩ := (Nat.log2_eq_iff hm).1 rfl
    have hlog : Int.log 2 q = m.log2 + e := by
      refine le_antisymm (Int.lt_add_one_iff.1 ?_) ?_
      · rw [← Int.lt_zpow_iff_log_lt (by norm_num) hq, add_right_comm, zpow_add₀ (by norm_num)]
        refine hhigh.trans_le (mul_le_mul_of_nonneg_right ?_ hpos.le)
        exact_mod_cast hbits
      · rw [← Int.zpow_le_iff_le_log (by norm_num) hq, zpow_add₀ (by norm_num)]
        refine (mul_le_mul_of_nonneg_right ?_ hpos.le).trans hlow
        exact_mod_cast hbit
    rw [hlog]

/-- A significand of at most 53 bits stays as it is. -/
theorem shiftToTargetExponent_of_lt {m : ℕ} {e : ℤ} (hm : m < 2 ^ 53) (he : -1074 ≤ e) :
    shiftToTargetExponent Format.binary64 m e .exact = (⟨m, false, false⟩, e) := by
  have hlog : m.log2 ≤ 52 := by
    rcases eq_or_ne m 0 with rfl | hne
    · simp
    · exact Nat.lt_succ_iff.1 ((Nat.log2_lt hne).2 hm)
  have hshift : (Format.binary64.targetExponent (totalExponent m e) - e).toNat = 0 := by
    rw [targetExponent_eq]
    omega
  rw [shiftToTargetExponent, shiftToExponent, hshift, Int.natCast_zero, add_zero]
  rfl

/-- The least significand of 54 bits loses its last one, which is zero. -/
theorem shiftToTargetExponent_two_pow {e : ℤ} (he : -1074 ≤ e) :
    shiftToTargetExponent Format.binary64 (2 ^ 53) e .exact =
      (⟨2 ^ 52, false, false⟩, e + 1) := by
  have hshift : (Format.binary64.targetExponent (totalExponent (2 ^ 53) e) - e).toNat = 1 := by
    rw [targetExponent_eq, Nat.log2_two_pow]
    omega
  rw [shiftToTargetExponent, shiftToExponent, hshift]
  rfl

/-- **Rounding gives the nearest stored number.** -/
theorem isCanonical_roundWithAccuracy (s : Sign) {q : ℚ} (hq : 0 < q) {m : ℕ} {e : ℤ}
    {accuracy : Accuracy}
    (h : Represents (ExtendedMantissa.ofMantissaAndAccuracy m accuracy) (q / 2 ^ e))
    (he : e ≤ Format.binary64.targetExponent (totalExponent m e)) :
    IsCanonical (roundWithAccuracy Format.binary64 s m e accuracy) s (rounded q) := by
  have hfloor : ⌊q / 2 ^ e⌋ = m := by
    rw [h.floor_eq]
    rcases accuracy with _ | (_ | _ | _) <;> rfl
  have htarget := targetExponent_eq_lastBit hq hfloor he
  rw [htarget] at he
  obtain ⟨k, hk⟩ := Int.eq_ofNat_of_zero_le (sub_nonneg.2 he)
  have hfirst : shiftToTargetExponent Format.binary64 m e accuracy =
      (ExtendedMantissa.ofMantissaAndAccuracy m accuracy >>> k, lastBit q) := by
    rw [shiftToTargetExponent, htarget, shiftToExponent, hk]
    simp only [Int.toNat_natCast]
    rw [← hk, add_sub_cancel]
  -- the significand that is left, rounded
  obtain ⟨r, hr⟩ : ∃ r, (ExtendedMantissa.ofMantissaAndAccuracy m accuracy >>> k).roundedMantissa =
    r := ⟨_, rfl⟩
  have hround : (r : ℤ) = roundEven (q / 2 ^ lastBit q) := by
    have hscale : q / 2 ^ e / 2 ^ k = q / 2 ^ lastBit q := by
      rw [div_div, ← zpow_natCast, ← zpow_add₀ (by norm_num), ← hk, add_sub_cancel]
    rw [← hr, (h.shiftRight k).roundedMantissa_eq, hscale]
  have hvalue : (r : ℚ) * 2 ^ lastBit q = rounded q := by
    rw [rounded, ← hround, Int.cast_natCast]
  have hlast : -1074 ≤ lastBit q := le_max_right _ _
  have hhigh : r ≤ 2 ^ 53 := by
    have := roundEven_div_lastBit_le hq.le
    omega
  have hlow : 2 ^ 52 ≤ r ∨ lastBit q = -1074 := by
    refine or_iff_not_imp_right.2 fun hne ↦ ?_
    have := le_roundEven_div_lastBit hq (lt_of_le_of_ne hlast (Ne.symm hne))
    omega
  rw [roundWithAccuracy, hfirst]
  simp only [hr]
  rcases hhigh.lt_or_eq with hlt | rfl
  · simp only [shiftToTargetExponent_of_lt hlt hlast]
    split_ifs with hzero
    · exact .inl ⟨rfl, by rw [← hvalue, hzero, Nat.cast_zero, zero_mul]⟩
    · exact .inr ⟨_, _, _, rfl, hlt, hlast, hlow, hvalue⟩
  · -- the carry makes a power of two, whose last bit is dropped once more
    simp only [shiftToTargetExponent_two_pow hlast]
    rw [dif_neg (by norm_num)]
    refine .inr ⟨_, _, _, rfl, by norm_num, by omega, .inl le_rfl, ?_⟩
    rw [← hvalue, zpow_add_one₀ (by norm_num)]
    push_cast
    ring

/-! ### Products and quotients -/

/-- A product of numbers with enough bits is rounded once. -/
theorem isCanonical_mul (s₁ s₂ : Sign) {m₁ m₂ : ℕ} {e₁ e₂ : ℤ} (h₁ : 0 < m₁) (h₂ : 0 < m₂) {q : ℚ}
    (hbits : 2 ^ 52 ≤ m₁ * m₂) (hq : m₁ * 2 ^ e₁ * (m₂ * 2 ^ e₂) = q) :
    IsCanonical (mul Format.binary64 (.finite s₁ m₁ e₁ h₁) (.finite s₂ m₂ e₂ h₂)) (s₁ * s₂)
      (rounded q) := by
  subst hq
  have hpos : (0 : ℚ) < m₁ * 2 ^ e₁ * (m₂ * 2 ^ e₂) := by positivity
  have hscale : (m₁ * 2 ^ e₁ * (m₂ * 2 ^ e₂) : ℚ) / 2 ^ (e₁ + e₂) = (m₁ * m₂ : ℕ) := by
    rw [zpow_add₀ (by norm_num)]
    push_cast
    field_simp
  refine isCanonical_roundWithAccuracy (s₁ * s₂) hpos (hscale ▸ represents_exact _) ?_
  have hlog : 52 ≤ (m₁ * m₂).log2 := (Nat.le_log2 (Nat.mul_pos h₁ h₂).ne').2 hbits
  rw [targetExponent_eq]
  omega

/-- The exponent that a quotient is taken at leaves it enough bits. -/
theorem le_targetExponent_div {m₁ m₂ k : ℕ} {e₁ e₂ t : ℤ} (h₁ : 0 < m₁) (h₂ : 0 < m₂)
    (ht : t ≤ Format.binary64.targetExponent (totalExponent m₁ e₁ - totalExponent m₂ e₂))
    (hk : (k : ℤ) = e₁ - e₂ - t) :
    t ≤ Format.binary64.targetExponent (totalExponent (m₁ * 2 ^ k / m₂) t) := by
  have htarget : Format.binary64.targetExponent (totalExponent m₁ e₁ - totalExponent m₂ e₂) =
      max (m₁.log2 + e₁ - m₂.log2 - e₂ - 53) (-1074) := by
    show max ((m₁.log2 : ℤ) + 1 + e₁ - (m₂.log2 + 1 + e₂) - 53) (-1074) = _
    omega
  rw [htarget] at ht
  rw [targetExponent_eq]
  rcases le_or_gt t (-1074) with hle | hgt
  · omega
  · have hlow : 2 ^ m₁.log2 ≤ m₁ := Nat.log2_self_le h₁.ne'
    have hhigh : m₂ < 2 ^ (m₂.log2 + 1) := Nat.lt_log2_self
    have hquot : 2 ^ 52 ≤ m₁ * 2 ^ k / m₂ := by
      rw [Nat.le_div_iff_mul_le h₂]
      calc 2 ^ 52 * m₂ ≤ 2 ^ 52 * 2 ^ (m₂.log2 + 1) := by gcongr
        _ = 2 ^ (m₂.log2 + 53) := by rw [← pow_add]; congr 1; omega
        _ ≤ 2 ^ (m₁.log2 + k) := Nat.pow_le_pow_right (by norm_num) (by omega)
        _ ≤ m₁ * 2 ^ k := by rw [pow_add]; gcongr
    have hlog := (Nat.le_log2 (Nat.lt_of_lt_of_le (by norm_num) hquot).ne').2 hquot
    omega

/-- A quotient is rounded once. -/
theorem isCanonical_div (s₁ s₂ : Sign) {m₁ m₂ : ℕ} {e₁ e₂ : ℤ} (h₁ : 0 < m₁) (h₂ : 0 < m₂) {q : ℚ}
    (hq : m₁ * 2 ^ e₁ / (m₂ * 2 ^ e₂) = q) :
    IsCanonical (div Format.binary64 (.finite s₁ m₁ e₁ h₁) (.finite s₂ m₂ e₂ h₂)) (s₁ / s₂)
      (rounded q) := by
  subst hq
  have hpos : (0 : ℚ) < m₁ * 2 ^ e₁ / (m₂ * 2 ^ e₂) := by positivity
  obtain ⟨t, ht⟩ : ∃ t, min (e₁ - e₂)
    (Format.binary64.targetExponent (totalExponent m₁ e₁ - totalExponent m₂ e₂)) = t := ⟨_, rfl⟩
  obtain ⟨k, hk⟩ := Int.eq_ofNat_of_zero_le (show 0 ≤ e₁ - e₂ - t by omega)
  have hcore : divCore Format.binary64 m₁ e₁ m₂ e₂ =
      (m₁ * 2 ^ k / m₂, t, accuracyOfFraction (m₁ * 2 ^ k % m₂) m₂) := by
    simp only [divCore, ht, hk, Int.toNat_natCast, Nat.shiftLeft_eq]
  have hscale : (m₁ * 2 ^ e₁ / (m₂ * 2 ^ e₂) : ℚ) / 2 ^ t = (m₁ * 2 ^ k : ℕ) / m₂ := by
    have hpow : (2 : ℚ) ^ e₁ = 2 ^ k * 2 ^ e₂ * 2 ^ t := by
      rw [← zpow_natCast, ← zpow_add₀ (by norm_num), ← zpow_add₀ (by norm_num)]
      congr 1
      omega
    rw [hpow]
    push_cast
    field_simp
  have hround := isCanonical_roundWithAccuracy (s₁ / s₂) hpos
    (hscale ▸ represents_accuracyOfFraction (m₁ * 2 ^ k) h₂)
    (le_targetExponent_div h₁ h₂ (by omega) hk.symm)
  rw [div, hcore]
  exact hround

/-! ### Packing -/

theorem unpackSign_packComponents {s : Sign} {e : BitVec 11} {m : BitVec 52} :
    @unpackSign Format.binary64 (packComponents Format.binary64 s e m) = s.toBitVec := by
  refine BitVec.eq_of_getLsbD_eq fun i hi ↦ ?_
  obtain rfl : i = 0 := by omega
  show (BitVec.extractLsb 63 63 (s.toBitVec ++ e ++ m)).getLsbD 0 = _
  rw [BitVec.getLsbD_extractLsb, BitVec.getLsbD_append, BitVec.getLsbD_append]
  rfl

/-- The first bit of a significand is not stored. -/
theorem toNat_one_append (m : BitVec 52) : (1#1 ++ m).toNat = 2 ^ 52 + m.toNat := by
  rw [BitVec.toNat_append, ← Nat.shiftLeft_add_eq_or_of_lt m.isLt]
  rfl

/-- What the parts of packed bits say. -/
theorem unpack_packComponents (s : Sign) (e : BitVec 11) (m : BitVec 52) :
    Float.Model.UnpackedFloat.unpack Format.binary64 (packComponents Format.binary64 s e m) =
      if e = -1#11 then if m = 0#52 then .infinity s else .notANumber
      else if e = 0#11 then
        if h : m = 0#52 then .zero s
        else .finite s m.toNat (-1074) (by simpa [BitVec.toNat_pos, BitVec.pos_iff_ne_zero])
      else .finite s (2 ^ 52 + m.toNat) (e.toNat - 1075) (by omega) := by
  have hsign : Sign.ofBitVec s.toBitVec = s := by cases s <;> rfl
  have hbias : (Format.binary64.exponentBias : ℤ) + (52 : ℕ) = 1075 := rfl
  rw [Float.Model.UnpackedFloat.unpack]
  simp only [unpackExponent_packComponents, unpackMantissa_packComponents,
    unpackSign_packComponents, hsign, hbias, toNat_one_append]
  split_ifs with hones hzeros hzeros hzero
  all_goals first | rfl | skip
  subst hzeros
  rfl

theorem unpack_pack_zero (s : Sign) :
    (Float.Model.pack (Float.Model.UnpackedFloat.zero s)).unpack = .zero s :=
  unpack_packComponents s 0 0

theorem unpack_pack_infinity (s : Sign) :
    (Float.Model.pack (Float.Model.UnpackedFloat.infinity s)).unpack = .infinity s :=
  unpack_packComponents s (-1#11) 0

/-- A number of 53 bits is unpacked from its bits as it was packed. -/
theorem unpack_pack_normal {s : Sign} {m : ℕ} {e : ℤ} {hm : 0 < m}
    (hsig : 2 ^ 52 ≤ m ∧ m < 2 ^ 53) (hexp : -1074 ≤ e ∧ e ≤ 971) :
    (Float.Model.pack (.finite s m e hm)).unpack = .finite s m e hm := by
  have hlog : m.log2 + 1 = Format.binary64.mantissaBits := by
    rw [(Nat.log2_eq_iff hm.ne').2 hsig]
    rfl
  -- the exponent is stored with a bias, which leaves all zeros and all ones to other numbers
  obtain ⟨b, hb⟩ : ∃ b : ℕ, (b : ℤ) = e + 1075 := ⟨(e + 1075).toNat, by omega⟩
  have hbiased : (e + Format.binary64.exponentBias +
      Format.binary64.mantissaBitsWithoutImplicit).toNat = b := by
    show (e + 1023 + 52).toNat = b
    omega
  have hpack : Float.Model.UnpackedFloat.pack Format.binary64 (.finite s m e hm) =
      packComponents Format.binary64 s (BitVec.ofNat 11 b) (BitVec.ofNat 52 m) := by
    rw [Float.Model.UnpackedFloat.pack]
    simp only [hbiased, hlog, if_true]
    rw [if_neg (show ¬ 2 ^ 11 ≤ b + 1 by omega)]
  have hexponent : (BitVec.ofNat 11 b).toNat = b := by
    rw [BitVec.toNat_ofNat, Nat.mod_eq_of_lt (by omega)]
  have hones : BitVec.ofNat 11 b ≠ -1#11 := fun h ↦ by
    have := congrArg BitVec.toNat h
    rw [hexponent] at this
    change b = 2047 at this
    omega
  have hzeros : BitVec.ofNat 11 b ≠ 0#11 := fun h ↦ by
    have := congrArg BitVec.toNat h
    rw [hexponent] at this
    change b = 0 at this
    omega
  have hsignificand : 2 ^ 52 + (BitVec.ofNat 52 m).toNat = m := by
    rw [BitVec.toNat_ofNat]
    omega
  show Float.Model.UnpackedFloat.unpack Format.binary64
    (Float.Model.UnpackedFloat.pack Format.binary64 _) = _
  rw [hpack, unpack_packComponents, if_neg hones, if_neg hzeros]
  simp only [hsignificand, hexponent]
  congr 1
  omega

/-- So is a number of fewer bits at the least exponent. -/
theorem unpack_pack_subnormal {s : Sign} {m : ℕ} {hm : 0 < m} (hlt : m < 2 ^ 52) :
    (Float.Model.pack (.finite s m (-1074) hm)).unpack = .finite s m (-1074) hm := by
  have hlog : ¬ m.log2 + 1 = Format.binary64.mantissaBits := fun heq ↦
    absurd ((Nat.log2_lt hm.ne').2 hlt) (by change m.log2 + 1 = 53 at heq; omega)
  have hpack : Float.Model.UnpackedFloat.pack Format.binary64 (.finite s m (-1074) hm) =
      packComponents Format.binary64 s 0#11 (BitVec.ofNat 52 m) := by
    rw [Float.Model.UnpackedFloat.pack]
    simp only [hlog, if_false]
    rfl
  have hsignificand : (BitVec.ofNat 52 m).toNat = m := by
    rw [BitVec.toNat_ofNat, Nat.mod_eq_of_lt hlt]
  have hzero : BitVec.ofNat 52 m ≠ 0#52 := fun h ↦
    hm.ne' (hsignificand.symm.trans (congrArg BitVec.toNat h))
  show Float.Model.UnpackedFloat.unpack Format.binary64
    (Float.Model.UnpackedFloat.pack Format.binary64 _) = _
  rw [hpack, unpack_packComponents, if_neg (by decide), if_pos rfl, dif_neg hzero]
  simp only [hsignificand]

/-- A number whose exponent is too large is packed as an infinity. -/
theorem unpack_pack_large {s : Sign} {m : ℕ} {e : ℤ} {hm : 0 < m} (he : 971 < e) :
    (Float.Model.pack (.finite s m e hm)).unpack = .infinity s := by
  have hpack : Float.Model.UnpackedFloat.pack Format.binary64 (.finite s m e hm) =
      packedInfinity Format.binary64 s := by
    rw [Float.Model.UnpackedFloat.pack]
    refine if_pos ?_
    show 2 ^ 11 ≤ (e + 1023 + 52).toNat + 1
    omega
  show Float.Model.UnpackedFloat.unpack Format.binary64
    (Float.Model.UnpackedFloat.pack Format.binary64 _) = _
  rw [hpack]
  exact unpack_packComponents s (-1#11) 0

/-- An unpacked number is stored: it is as arithmetic leaves it, or infinite if its magnitude would
be too large. -/
def IsStored (u : Float.Model.UnpackedFloat) (s : Sign) (v : ℚ) : Prop :=
  if v < 2 ^ 1024 then IsCanonical u s v else u = .infinity s

/-- **What arithmetic leaves is stored.** -/
theorem IsCanonical.isStored_unpack_pack {u : Float.Model.UnpackedFloat} {s : Sign} {v : ℚ}
    (h : IsCanonical u s v) : IsStored (Float.Model.pack u).unpack s v := by
  have hcanonical := h
  obtain ⟨rfl, rfl⟩ | ⟨m, e, hm, rfl, hlt, he, hbits, rfl⟩ := h
  · rw [IsStored, if_pos (by positivity), unpack_pack_zero]
    exact hcanonical
  rcases le_or_gt e 971 with hle | hgt
  · have hsmall : (m : ℚ) * 2 ^ e < 2 ^ 1024 := by
      have hm' : (m : ℚ) < 2 ^ 53 := by exact_mod_cast hlt
      calc (m : ℚ) * 2 ^ e < 2 ^ 53 * 2 ^ e := by gcongr
        _ ≤ 2 ^ 53 * 2 ^ (971 : ℤ) := by gcongr; norm_num
        _ = 2 ^ 1024 := by
          rw [← zpow_natCast, ← zpow_natCast, ← zpow_add₀ (by norm_num)]
          rfl
    rw [IsStored, if_pos hsmall]
    rcases le_or_gt (2 ^ 52) m with hnormal | hsubnormal
    · rw [unpack_pack_normal ⟨hnormal, hlt⟩ ⟨he, hle⟩]
      exact hcanonical
    · obtain rfl := hbits.resolve_left (not_le.2 hsubnormal)
      rw [unpack_pack_subnormal hsubnormal]
      exact hcanonical
  · have hlarge : (2 : ℚ) ^ 1024 ≤ m * 2 ^ e := by
      have hle : 972 ≤ e := hgt
      have hm' : (2 ^ 52 : ℚ) ≤ m := by exact_mod_cast hbits.resolve_right (by omega)
      calc (2 : ℚ) ^ 1024 = 2 ^ 52 * 2 ^ (972 : ℤ) := by
            rw [← zpow_natCast, ← zpow_natCast, ← zpow_add₀ (by norm_num)]
            rfl
        _ ≤ 2 ^ 52 * 2 ^ e := by gcongr; norm_num
        _ ≤ m * 2 ^ e := by gcongr
    rw [IsStored, if_neg (not_lt.2 hlarge)]
    exact unpack_pack_large hgt

theorem isCanonical_neg {u : Float.Model.UnpackedFloat} {s : Sign} {v : ℚ}
    (h : IsCanonical u s v) : IsCanonical u.neg (-s) v := by
  obtain ⟨rfl, hv⟩ | ⟨m, e, hm, rfl, hrest⟩ := h
  · exact .inl ⟨rfl, hv⟩
  · exact .inr ⟨m, e, hm, rfl, hrest⟩

/-- Negating a number changes its sign. -/
theorem IsStored.neg {x : Float} {s : Sign} {v : ℚ} (h : IsStored x.toModel.unpack s v) :
    IsStored (-x).toModel.unpack (-s) v := by
  show IsStored (Float.Model.pack x.toModel.unpack.neg).unpack (-s) v
  by_cases hv : v < 2 ^ 1024
  · rw [IsStored, if_pos hv] at h
    exact (isCanonical_neg h).isStored_unpack_pack
  · rw [IsStored, if_neg hv] at h ⊢
    rw [h]
    exact unpack_pack_infinity (-s)

/-! ### The parts of a number -/

theorem toNat_unpackMantissa (b : BitVec Format.binary64.numBits) :
    (unpackMantissa b).toNat = b.toNat % 0x10000000000000 := by
  change (BitVec.extractLsb 51 0 b).toNat = _
  rw [BitVec.extractLsb_toNat, Nat.shiftRight_zero]

theorem ofBitVec_unpackSign (b : BitVec Format.binary64.numBits) :
    (Sign.ofBitVec (unpackSign b) == .negative) = decide (0x8000000000000000 ≤ b.toNat) := by
  have hbit : (unpackSign b).toNat = b.toNat / 0x8000000000000000 := by
    change (BitVec.extractLsb 63 63 b).toNat = _
    rw [BitVec.extractLsb_toNat, Nat.shiftRight_eq_div_pow]
    have := b.isLt
    change b.toNat < 2 ^ 64 at this
    omega
  have hzero : unpackSign b = 0#1 ↔ b.toNat < 0x8000000000000000 := by
    rw [← BitVec.toNat_inj, hbit]
    change _ = 0 ↔ _
    omega
  rw [Sign.ofBitVec]
  split_ifs with h
  · exact (decide_eq_false (Nat.not_le.2 (hzero.1 h))).symm
  · exact (decide_eq_true (Nat.le_of_not_lt fun hlt ↦ h (hzero.2 hlt))).symm

/-- What an unpacked number says. -/
def ofUnpacked : Float.Model.UnpackedFloat → Binary64
  | .notANumber => .nan
  | .infinity s => .infinite (s == .negative)
  | .zero s => .finite (s == .negative) 0 (-1074)
  | .finite s m e _ => .finite (s == .negative) m e

/-- **The parts of a number are those that arithmetic works with.** -/
theorem ofFloat_eq_ofUnpacked (x : Float) : ofFloat x = ofUnpacked x.toModel.unpack := by
  have hsign := ofBitVec_unpackSign x.toBits.toBitVec
  have hexponent := toNat_unpackExponent x.toBits.toBitVec
  have hsignificand := toNat_unpackMantissa x.toBits.toBitVec
  rw [UInt64.toNat_toBitVec] at hsign hexponent hsignificand
  show _ = ofUnpacked (Float.Model.UnpackedFloat.unpack Format.binary64 x.toBits.toBitVec)
  rw [ofFloat, ← hsign, Float.Model.UnpackedFloat.unpack]
  simp only [← hexponent, ← hsignificand, apply_ite ofUnpacked, apply_dite ofUnpacked]
  simp only [ofUnpacked]
  generalize @unpackExponent Format.binary64 x.toBits.toBitVec = e
  generalize @unpackMantissa Format.binary64 x.toBits.toBitVec = m
  have hones : e = -1#11 ↔ e.toNat = 2047 := (BitVec.toNat_inj (y := -1#11)).symm
  have hzeros : e = 0#11 ↔ e.toNat = 0 := (BitVec.toNat_inj (y := 0#11)).symm
  have hzero : m = 0#52 ↔ m.toNat = 0 := (BitVec.toNat_inj (y := 0#52)).symm
  have hleading : (1#1 ++ m).toNat = 0x10000000000000 + m.toNat := toNat_one_append m
  have hbias : (Format.binary64.exponentBias : ℤ) + (52 : ℕ) = 1075 := rfl
  simp only [hones, hzeros, hzero, hleading, hbias, dite_eq_ite]
  split_ifs with hinf hm hsub hm
  · rfl
  · rfl
  · rw [hm]
  · rw [hsub]
    rfl
  · rfl

/-- **The value of a stored number.** -/
theorem value?_of_isStored {x : Float} {s : Sign} {v : ℚ} (h : IsStored x.toModel.unpack s v) :
    (ofFloat x).value? =
      if v < 2 ^ 1024 then some (if s == .negative then -v else v) else none := by
  rw [ofFloat_eq_ofUnpacked]
  by_cases hv : v < 2 ^ 1024
  · rw [IsStored, if_pos hv] at h
    rw [if_pos hv]
    obtain ⟨heq, rfl⟩ | ⟨m, e, hm, heq, -, -, -, rfl⟩ := h
    · simp [heq, ofUnpacked, value?]
    · rw [heq]
      rfl
  · rw [IsStored, if_neg hv] at h
    rw [if_neg hv, h]
    rfl

/-- A stored number whose magnitude is a rounded one has the value that is nearest. -/
theorem value?_of_isStored_rounded {x : Float} {s : Sign} {q : ℚ} (hq : 0 ≤ q)
    (h : IsStored x.toModel.unpack s (rounded q)) :
    (ofFloat x).value? = round? (if s == .negative then -q else q) := by
  have hnonneg := abs_of_nonneg (rounded_nonneg hq)
  rw [value?_of_isStored h, round?]
  cases s with
  | positive =>
    show _ = if |rounded q| < 2 ^ 1024 then some (rounded q) else none
    rw [hnonneg]
    rfl
  | negative =>
    show _ = if |rounded (-q)| < 2 ^ 1024 then some (rounded (-q)) else none
    rw [rounded_neg, abs_neg, hnonneg]
    rfl

end SurveyExport.Binary64
