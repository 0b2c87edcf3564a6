import SurveyExport.Decimal.Numeral
import SurveyExport.Proofs.Decimal.Rounding

/-!
# Decimals as numbers

A decimal becomes a number by one product or one quotient of numbers that are exact, so it is
rounded once. Decimals that are so large or so small that no power of ten is computed become what
rounding would give.

* `Numeral.isStored_nearest`: a coefficient and a power of ten become the nearest number;
* `Binary64.value?_ofInt`: so does a whole number;
* `Binary64.exists_value?_eq_intCast_iff`: whole numbers that are the value of a number.
-/

namespace SurveyExport

namespace Binary64

open Float.Model (Format totalExponent)
open Float.Model.UnpackedFloat

/-! ### Numbers that are exact -/

/-- The parts of a number whose value is positive. -/
theorem isCanonical_of_value? {x : Float} {v : ℚ} (h : (ofFloat x).value? = some v) (hv : 0 < v) :
    IsCanonical x.toModel.unpack .positive v := by
  obtain ⟨negative, m, e, hparts, -⟩ := abs_value? h
  have hlt := significand_lt hparts
  have hle := le_exponent hparts
  have hbits := le_significand_or hparts
  rw [hparts] at h
  rw [ofFloat_eq_ofUnpacked] at hparts
  cases hu : x.toModel.unpack with
  | notANumber => simp [hu, ofUnpacked] at hparts
  | infinity s => simp [hu, ofUnpacked] at hparts
  | zero s =>
    simp only [hu, ofUnpacked, finite.injEq] at hparts
    obtain ⟨-, rfl, -⟩ := hparts
    simp [value?] at h
    exact absurd h hv.ne
  | finite s m' e' hm =>
    simp only [hu, ofUnpacked, finite.injEq] at hparts
    obtain ⟨hs, rfl, rfl⟩ := hparts
    have hpos : (0 : ℚ) < m' * 2 ^ e' := by positivity
    cases s with
    | positive =>
      obtain rfl : negative = false := hs.symm
      exact .inr ⟨m', e', hm, rfl, hlt, hle, hbits, Option.some_inj.1 h⟩
    | negative =>
      obtain rfl : negative = true := hs.symm
      have hneg : -((m' : ℚ) * 2 ^ e') = v := Option.some_inj.1 h
      linarith

/-- A number that is at least one has 53 bits. -/
theorem exists_finite_of_isCanonical {u : Float.Model.UnpackedFloat} {s : Sign} {v : ℚ}
    (h : IsCanonical u s v) (hv : 1 ≤ v) :
    ∃ m e hm, u = .finite s m e hm ∧ 2 ^ 52 ≤ m ∧ (m : ℚ) * 2 ^ e = v := by
  obtain ⟨-, rfl⟩ | ⟨m, e, hm, rfl, hlt, -, hbits, rfl⟩ := h
  · norm_num at hv
  refine ⟨m, e, hm, rfl, hbits.resolve_right ?_, rfl⟩
  rintro rfl
  have hm' : (m : ℚ) < 2 ^ 53 := by exact_mod_cast hlt
  have hsmall : (m : ℚ) * 2 ^ (-1074 : ℤ) < 1 := by
    calc (m : ℚ) * 2 ^ (-1074 : ℤ) < 2 ^ 53 * 2 ^ (-1074 : ℤ) := by gcongr
      _ ≤ 1 := by
        rw [← zpow_natCast, ← zpow_add₀ (by norm_num)]
        exact zpow_le_one_of_nonpos₀ (by norm_num) (by norm_num)
  linarith

/-- The table of powers of ten holds them exactly. -/
theorem isWhole_powerOfTen : ∀ k : Fin Float.exactlyRepresentablePowersOfTen.size,
    (ofFloat Float.exactlyRepresentablePowersOfTen[k]).isWhole ∧
      (ofFloat Float.exactlyRepresentablePowersOfTen[k]).truncate = 10 ^ k.val := by
  decide +kernel

theorem isCanonical_powerOfTen {k : ℕ} (hk : k < Float.exactlyRepresentablePowersOfTen.size) :
    IsCanonical Float.exactlyRepresentablePowersOfTen[k].toModel.unpack .positive (10 ^ k) := by
  have hvalue := value?_eq_intCast_iff.2 (isWhole_powerOfTen ⟨k, hk⟩)
  rw [Int.cast_pow, Int.cast_ofNat] at hvalue
  exact isCanonical_of_value? hvalue (by positivity)

theorem log2_mul_two_pow {m : ℕ} (hm : m ≠ 0) (k : ℕ) : (m * 2 ^ k).log2 = m.log2 + k := by
  obtain ⟨hlow, hhigh⟩ := (Nat.log2_eq_iff hm).1 rfl
  have hpos : 0 < 2 ^ k := by positivity
  refine (Nat.log2_eq_iff (by positivity)).2 ⟨?_, ?_⟩
  · rw [Nat.pow_add]
    exact Nat.mul_le_mul_right _ hlow
  · rw [Nat.add_right_comm, Nat.pow_add]
    exact Nat.mul_lt_mul_of_pos_right hhigh hpos

/-- A natural number is rounded to the nearest number. -/
theorem isCanonical_round {n : ℕ} (hn : n ≠ 0) :
    IsCanonical (Float.Model.UnpackedFloat.round Format.binary64 .positive n 0) .positive
      (rounded n) := by
  obtain ⟨t, ht⟩ : ∃ t, Format.binary64.targetExponent (totalExponent n 0) = t := ⟨_, rfl⟩
  obtain ⟨k, hk⟩ : ∃ k : ℕ, (0 - t).toNat = k := ⟨_, rfl⟩
  rw [Float.Model.UnpackedFloat.round]
  simp only [ht, decreaseExponent, hk, Nat.shiftLeft_eq]
  have hpos : (0 : ℚ) < n := by positivity
  have hscale : (n : ℚ) / 2 ^ (0 - k : ℤ) = (n * 2 ^ k : ℕ) := by
    rw [zero_sub, zpow_neg, div_inv_eq_mul, zpow_natCast]
    push_cast
    rfl
  refine isCanonical_roundWithAccuracy .positive hpos (hscale ▸ represents_exact _) ?_
  rw [targetExponent_eq] at ht ⊢
  rw [log2_mul_two_pow hn]
  omega

/-- A natural number of at most 53 bits is stored as it is. -/
theorem isCanonical_toFloat {n : ℕ} (hn : n ≠ 0) (hlt : n < 2 ^ 53) :
    IsCanonical n.toUInt64.toFloat.toModel.unpack .positive n := by
  have hmod : n.toUInt64.toNat = n := by
    rw [Nat.toUInt64_eq, UInt64.toNat_ofNat', Nat.mod_eq_of_lt (by omega)]
  have hstored : n.toUInt64.toFloat.toModel =
      Float.Model.pack (Float.Model.UnpackedFloat.round Format.binary64 .positive n 0) := by
    show Float.Model.pack (normalize Format.binary64 (n.toUInt64.toNat : ℤ) 0 .positive) = _
    rw [hmod, Float.Model.UnpackedFloat.normalize, Int.compare_eq_gt.2 (by omega),
      Int.toNat_natCast]
  have hself : rounded n = n := by
    have hle : |(n : ℤ)| ≤ 2 ^ 53 := by
      rw [Nat.abs_cast]
      exact_mod_cast hlt.le
    exact_mod_cast rounded_eq_self_of_le hle
  have hround := (isCanonical_round hn).isStored_unpack_pack
  have hsmall : (n : ℚ) < 2 ^ 1024 := by
    calc (n : ℚ) < 2 ^ 53 := by exact_mod_cast hlt
      _ ≤ 2 ^ 1024 := by gcongr <;> norm_num
  rw [hself, IsStored, if_pos hsmall] at hround
  rw [hstored]
  exact hround

/-! ### Decimals -/

/-- A decimal is rounded once. -/
theorem isStored_unpack_pack_ofScientific {m : ℕ} (hm : m ≠ 0) (e : ℤ) :
    IsStored (Float.Model.pack
      (Float.Model.UnpackedFloat.ofScientific Format.binary64 m e)).unpack .positive
      (rounded (m * 10 ^ e)) := by
  have hone : (1 : ℚ) ≤ m := by exact_mod_cast Nat.one_le_iff_ne_zero.2 hm
  rw [Float.Model.UnpackedFloat.ofScientific, dif_neg hm]
  split_ifs with hlarge hsmall hnonneg
  · -- the value is not below the least power of two that is too large
    have hle : (2 : ℚ) ^ 1024 ≤ m * 10 ^ e := by
      change (2 : ℤ) ^ 11 < e at hlarge
      calc (2 : ℚ) ^ 1024 ≤ 10 ^ 1024 := by gcongr; norm_num
        _ = 10 ^ (1024 : ℤ) := (zpow_natCast _ _).symm
        _ ≤ 10 ^ e := zpow_le_zpow_right₀ (by norm_num) (by omega)
        _ ≤ m * 10 ^ e := le_mul_of_one_le_left (by positivity) hone
    rw [IsStored, if_neg (not_lt.2 (le_rounded hle))]
    exact unpack_pack_infinity .positive
  · -- the value is below half of the least number
    change e < -((2 : ℤ) ^ 11 + m.log2) at hsmall
    have hbits : (m : ℚ) < 2 ^ ((m.log2 : ℤ) + 1) := by exact_mod_cast Nat.lt_log2_self
    have hpow : (10 : ℚ) ^ e ≤ 2 ^ e := by
      obtain ⟨k, hk⟩ := Int.eq_ofNat_of_zero_le (show 0 ≤ -e by omega)
      rw [← neg_neg e, hk, zpow_neg, zpow_neg, zpow_natCast, zpow_natCast]
      exact inv_anti₀ (by positivity) (pow_le_pow_left₀ (by norm_num) (by norm_num) k)
    have hlt : (m : ℚ) * 10 ^ e < 2 ^ (-1075 : ℤ) := by
      calc (m : ℚ) * 10 ^ e < 2 ^ ((m.log2 : ℤ) + 1) * 2 ^ e :=
            mul_lt_mul_of_pos_of_nonneg' hbits hpow (by positivity) (by positivity)
        _ = 2 ^ ((m.log2 : ℤ) + 1 + e) := (zpow_add₀ (by norm_num) _ _).symm
        _ ≤ 2 ^ (-1075 : ℤ) := zpow_le_zpow_right₀ (by norm_num) (by omega)
    have hzero : IsCanonical (.zero .positive) .positive (rounded (m * 10 ^ e)) :=
      .inl ⟨rfl, rounded_eq_zero (by positivity) hlt⟩
    exact hzero.isStored_unpack_pack
  · obtain ⟨k, rfl⟩ := Int.eq_ofNat_of_zero_le hnonneg
    have hbits : 2 ^ 52 ≤ (m <<< 53) * 10 ^ k := by
      have := Nat.pos_of_ne_zero hm
      have := Nat.one_le_pow k 10 (by norm_num)
      rw [Nat.shiftLeft_eq]
      nlinarith
    refine (isCanonical_mul .positive .positive _ _ hbits ?_).isStored_unpack_pack
    rw [Nat.shiftLeft_eq, zpow_zero, mul_one, zpow_natCast]
    show ((m * 2 ^ 53 : ℕ) : ℚ) * 2 ^ (-53 : ℤ) * (10 ^ k : ℕ) = _
    push_cast
    ring
  · obtain ⟨k, hk⟩ := Int.eq_ofNat_of_zero_le (show 0 ≤ -e by omega)
    refine (isCanonical_div .positive .positive _ _ ?_).isStored_unpack_pack
    rw [hk, Int.toNat_natCast, zpow_zero, mul_one, mul_one, ← neg_neg e, hk, zpow_neg, zpow_natCast,
      ← div_eq_mul_inv]
    push_cast
    rfl

/-- **A decimal becomes the nearest number.** -/
theorem isStored_ofScientific {m : ℕ} (hm : m ≠ 0) (negative : Bool) (k : ℕ) :
    IsStored (Float.ofScientific m negative k).toModel.unpack .positive
      (rounded (m * 10 ^ (if negative then -k else k : ℤ))) := by
  by_cases hfast : m < 2 ^ 53 ∧ k ≤ 22
  · -- both the coefficient and the power of ten are exact
    have hk : k < Float.exactlyRepresentablePowersOfTen.size := by
      show k < 23
      omega
    obtain ⟨m₁, e₁, h₁, heq₁, hbits, hvalue₁⟩ :=
      exists_finite_of_isCanonical (isCanonical_toFloat hm hfast.1)
        (by exact_mod_cast Nat.one_le_iff_ne_zero.2 hm)
    obtain ⟨m₂, e₂, h₂, heq₂, -, hvalue₂⟩ :=
      exists_finite_of_isCanonical (isCanonical_powerOfTen hk) (one_le_pow₀ (by norm_num))
    rw [Float.ofScientific, dif_pos hfast]
    cases negative with
    | true =>
      show IsStored (Float.Model.pack (div Format.binary64 _ _)).unpack _ _
      rw [heq₁, heq₂]
      refine (isCanonical_div .positive .positive h₁ h₂ ?_).isStored_unpack_pack
      rw [hvalue₁, hvalue₂, if_pos rfl, zpow_neg, zpow_natCast, div_eq_mul_inv]
    | false =>
      show IsStored (Float.Model.pack (mul Format.binary64 _ _)).unpack _ _
      rw [heq₁, heq₂]
      refine (isCanonical_mul .positive .positive h₁ h₂
        (hbits.trans (Nat.le_mul_of_pos_right _ h₂)) ?_).isStored_unpack_pack
      rw [hvalue₁, hvalue₂, if_neg Bool.false_ne_true, zpow_natCast]
  · rw [Float.ofScientific, dif_neg hfast]
    cases negative with
    | true =>
      show IsStored (Float.Model.pack (Float.Model.UnpackedFloat.ofScientific Format.binary64 m
        (Int.negOfNat k))).unpack .positive _
      have hneg : Int.negOfNat k = -k := Int.negOfNat_eq
      rw [hneg]
      exact isStored_unpack_pack_ofScientific hm (-k)
    | false => exact isStored_unpack_pack_ofScientific hm k

/-! ### Whole numbers -/

theorem isStored_ofNat {n : ℕ} (hn : n ≠ 0) :
    IsStored (Float.ofNat n).toModel.unpack .positive (rounded n) := by
  have hstored := isStored_ofScientific hn false 0
  rw [if_neg Bool.false_ne_true, Int.natCast_zero, zpow_zero, mul_one] at hstored
  exact hstored

/-- **A whole number becomes the nearest number.** -/
theorem value?_ofInt (n : ℤ) : (ofFloat (Float.ofInt n)).value? = round? n := by
  cases n with
  | ofNat n =>
    show (ofFloat (Float.ofNat n)).value? = _
    rw [Int.ofNat_eq_natCast, Int.cast_natCast]
    rcases eq_or_ne n 0 with rfl | hn
    · have hzero : ofFloat (Float.ofNat 0) = .finite false 0 (-1074) := by decide +kernel
      rw [hzero]
      simp [value?, round?]
    · rw [value?_of_isStored_rounded (by positivity) (isStored_ofNat hn)]
      rfl
  | negSucc n =>
    show (ofFloat (-Float.ofNat n.succ)).value? = _
    rw [value?_of_isStored_rounded (by positivity) (isStored_ofNat n.succ_ne_zero).neg,
      Int.negSucc_eq, Int.cast_neg]
    rfl

/-- A whole number of at most 1023 bits is not too large. -/
theorem round?_intCast {n : ℤ} (hlog : n.natAbs.log2 < 1023) : round? n = some (rounded n : ℚ) := by
  have hle := rounded_le (abs_nonneg (n : ℚ))
  rw [← abs_rounded, ← Int.cast_abs, lastBit_intCast, Int.natAbs_abs] at hle
  refine if_pos (hle.trans_lt ?_)
  calc (2 : ℚ) ^ 53 * 2 ^ ((n.natAbs.log2 : ℤ) - 52) ≤ 2 ^ 53 * 2 ^ (970 : ℤ) := by
        gcongr
        · norm_num
        · omega
    _ < 2 ^ 1024 := by
      rw [← zpow_natCast, ← zpow_natCast, ← zpow_add₀ (by norm_num)]
      exact zpow_lt_zpow_right₀ (by norm_num) (by norm_num)

/-- A whole number becomes the nearest number. -/
theorem isNearest_ofInt {n : ℤ} (hlog : n.natAbs.log2 < 1023) : IsNearest (Float.ofInt n) n :=
  isNearest_of_value? ((value?_ofInt n).trans (round?_intCast hlog))

/-- **Whole numbers that are the value of a stored number.** -/
theorem exists_value?_eq_intCast_iff {n : ℤ} (hlog : n.natAbs.log2 < 1023) :
    (∃ x, (ofFloat x).value? = some (n : ℚ)) ↔ 2 ^ excess n ∣ n.natAbs := by
  rw [← rounded_eq_self_iff]
  constructor
  · rintro ⟨x, hx⟩
    have hle := abs_rounded_sub_le hx n
    rw [sub_self, abs_zero] at hle
    exact sub_eq_zero.1 (abs_nonpos_iff.1 hle)
  · intro h
    exact ⟨Float.ofInt n, by rw [value?_ofInt, round?_intCast hlog, h]⟩

end Binary64

namespace Numeral

open Binary64 (IsStored rounded)

theorem unpack_zero : (0 : Float).toModel.unpack = .zero .positive := by rfl

theorem unpack_infinity : (1 / 0 : Float).toModel.unpack = .infinity .positive := by rfl

/-- The number of digits bounds a number. -/
theorem pow_le_and_lt_pow {c : ℕ} (hc : c ≠ 0) :
    10 ^ ((Decimal.digits c).length - 1) ≤ c ∧ c < 10 ^ (Decimal.digits c).length := by
  have hpos : 0 < (Decimal.digits c).length := Nat.length_toDigits_pos
  refine ⟨?_, (Nat.length_toDigits_le_iff (by norm_num) hpos).1 le_rfl⟩
  rcases Nat.eq_zero_or_pos ((Decimal.digits c).length - 1) with hone | hmore
  · rw [hone, pow_zero]
    omega
  · refine Nat.le_of_not_lt fun hlt ↦ ?_
    have hle : (Decimal.digits c).length ≤ _ :=
      (Nat.length_toDigits_le_iff (by norm_num) hmore).2 hlt
    omega

/-- **A coefficient and a power of ten become the nearest number.** -/
theorem isStored_nearest (c : ℕ) (e : ℤ) :
    IsStored (nearest c e).toModel.unpack .positive (rounded (c * 10 ^ e)) := by
  have hzero : ∀ q, rounded q = 0 → IsStored (0 : Float).toModel.unpack .positive (rounded q) := by
    intro q hq
    rw [hq, IsStored, if_pos (by positivity), unpack_zero]
    exact .inl ⟨rfl, rfl⟩
  simp only [nearest]
  split_ifs with hc hlarge hsmall
  · subst hc
    exact hzero _ (by simp)
  · obtain ⟨hle, -⟩ := pow_le_and_lt_pow hc
    have hpos : 0 < (Decimal.digits c).length := Nat.length_toDigits_pos
    have hvalue : (2 : ℚ) ^ 1024 ≤ c * 10 ^ e := by
      calc (2 : ℚ) ^ 1024 ≤ 10 ^ (310 : ℤ) := by
            rw [zpow_ofNat]
            exact_mod_cast (by decide +kernel : 2 ^ 1024 ≤ 10 ^ 310)
        _ ≤ 10 ^ ((((Decimal.digits c).length - 1 : ℕ) : ℤ) + e) :=
          zpow_le_zpow_right₀ (by norm_num) (by omega)
        _ = 10 ^ ((Decimal.digits c).length - 1) * 10 ^ e := by
          rw [zpow_add₀ (by norm_num), zpow_natCast]
        _ ≤ c * 10 ^ e := by
          gcongr
          exact_mod_cast hle
    rw [IsStored, if_neg (not_lt.2 (Binary64.le_rounded hvalue))]
    exact unpack_infinity
  · obtain ⟨-, hlt⟩ := pow_le_and_lt_pow hc
    refine hzero _ (Binary64.rounded_eq_zero (by positivity) ?_)
    calc (c : ℚ) * 10 ^ e < 10 ^ (Decimal.digits c).length * 10 ^ e := by
          gcongr
          exact_mod_cast hlt
      _ = 10 ^ (((Decimal.digits c).length : ℤ) + e) := by
        rw [zpow_add₀ (by norm_num), zpow_natCast]
      _ ≤ 10 ^ (-331 : ℤ) := zpow_le_zpow_right₀ (by norm_num) (by omega)
      _ ≤ 2 ^ (-1075 : ℤ) := by
        rw [zpow_neg, zpow_neg, zpow_ofNat, zpow_ofNat]
        refine inv_anti₀ (by positivity) ?_
        exact_mod_cast (by decide +kernel : 2 ^ 1075 ≤ 10 ^ 331)
  · have hstored := Binary64.isStored_ofScientific hc (decide (e < 0)) e.natAbs
    have hexponent : (if decide (e < 0) = true then -(e.natAbs : ℤ) else e.natAbs) = e := by
      simp only [decide_eq_true_eq]
      split_ifs <;> omega
    rwa [hexponent] at hstored

end Numeral

end SurveyExport
