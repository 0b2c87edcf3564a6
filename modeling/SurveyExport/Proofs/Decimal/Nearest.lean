import SurveyExport.Proofs.Decimal.Exact

/-!
# The number nearest to a value

The values of finite numbers are multiples of powers of two. A rational number lies between two of
them, and the nearer one is taken; halfway it is the one whose last bit is zero. Which power of two
is meant depends on the magnitude: 53 bits are kept, but none below `2 ^ (-1074)`.

* `Binary64.rounded`: the value that is taken;
* `Binary64.abs_rounded_sub_le`: no value of a number is nearer;
* `Binary64.round?`: the value, if a number can have it;
* `Binary64.rounded_eq_self_iff`: whole numbers that are taken themselves.
-/

namespace SurveyExport.Binary64

/-! ### Whole numbers -/

/-- The whole number that is nearest to `x`; halfway it is the even one. -/
def roundEven (x : ℚ) : ℤ :=
  if 2 * Int.fract x < 1 then ⌊x⌋
  else if 2 * Int.fract x = 1 then ⌊x⌋ + ⌊x⌋ % 2
  else ⌊x⌋ + 1

/-- No whole number is nearer. -/
theorem abs_roundEven_sub_le (x : ℚ) (c : ℤ) : |(roundEven x : ℚ) - x| ≤ |c - x| := by
  have hlow := Int.fract_nonneg x
  have hhigh := Int.fract_lt_one x
  have hx : x = ⌊x⌋ + Int.fract x := (Int.floor_add_fract x).symm
  -- the other whole number is below `x` or above it
  have hother : Int.fract x ≤ |c - x| ∨ 1 - Int.fract x ≤ |c - x| := by
    rcases le_or_gt c ⌊x⌋ with hc | hc
    · have : (c : ℚ) ≤ ⌊x⌋ := by exact_mod_cast hc
      exact .inl (le_abs.2 (.inr (by linarith)))
    · have : (⌊x⌋ + 1 : ℚ) ≤ c := by exact_mod_cast hc
      exact .inr (le_abs.2 (.inl (by linarith)))
  have hbelow : |(⌊x⌋ : ℚ) - x| = Int.fract x := by
    rw [abs_sub_comm, Int.self_sub_floor, abs_of_nonneg hlow]
  have habove : |((⌊x⌋ + 1 : ℤ) : ℚ) - x| = 1 - Int.fract x := by
    rw [abs_of_nonneg] <;> push_cast <;> linarith
  rw [roundEven]
  split_ifs with hless hhalf
  · rw [hbelow]
    rcases hother with h | h <;> linarith
  · rcases Int.emod_two_eq_zero_or_one ⌊x⌋ with heven | hodd
    · rw [heven, add_zero, hbelow]
      rcases hother with h | h <;> linarith
    · rw [hodd, habove]
      rcases hother with h | h <;> linarith
  · have : 1 < 2 * Int.fract x := lt_of_le_of_ne (not_lt.1 hless) (Ne.symm hhalf)
    rw [habove]
    rcases hother with h | h <;> linarith

theorem roundEven_intCast (n : ℤ) : roundEven n = n := by simp [roundEven]

theorem floor_le_roundEven (x : ℚ) : ⌊x⌋ ≤ roundEven x := by
  rw [roundEven]
  split_ifs <;> omega

theorem roundEven_le_floor_add_one (x : ℚ) : roundEven x ≤ ⌊x⌋ + 1 := by
  rw [roundEven]
  split_ifs <;> omega

/-- Rounding does not see the sign. -/
theorem roundEven_neg (x : ℚ) : roundEven (-x) = -roundEven x := by
  rcases eq_or_ne (Int.fract x) 0 with hwhole | hwhole
  · obtain ⟨n, rfl⟩ : ∃ n : ℤ, (n : ℚ) = x := ⟨⌊x⌋, by
      rw [← Int.self_sub_fract, hwhole, sub_zero]⟩
    rw [← Int.cast_neg, roundEven_intCast, roundEven_intCast]
  · have hfract : Int.fract (-x) = 1 - Int.fract x := Int.fract_neg hwhole
    have hfloor : ⌊-x⌋ = -⌊x⌋ - 1 := by
      have hcast : ((⌊-x⌋ : ℤ) : ℚ) = ((-⌊x⌋ - 1 : ℤ) : ℚ) := by
        push_cast
        linarith [Int.self_sub_fract x, Int.self_sub_fract (-x)]
      exact_mod_cast hcast
    rw [roundEven, roundEven, hfract, hfloor]
    rcases lt_trichotomy (2 * Int.fract x) 1 with hless | hhalf | hmore
    · rw [if_pos hless, if_neg (by linarith), if_neg (by linarith), sub_add_cancel]
    · rw [if_neg (by linarith), if_pos (by linarith), if_neg (by linarith), if_pos hhalf]
      omega
    · rw [if_pos (by linarith), if_neg (by linarith), if_neg (by linarith)]
      omega

/-! ### Multiples of the last bit -/

/-- The exponent of the last bit that a stored number near `q` has. -/
def lastBit (q : ℚ) : ℤ := max (Int.log 2 |q| - 52) (-1074)

/-- The value of the stored number that is nearest to `q`; halfway it is the one whose last bit is
zero. -/
def rounded (q : ℚ) : ℚ := roundEven (q / 2 ^ lastBit q) * 2 ^ lastBit q

@[simp]
theorem rounded_zero : rounded 0 = 0 := by simp [rounded, roundEven]

theorem lastBit_neg (q : ℚ) : lastBit (-q) = lastBit q := by rw [lastBit, abs_neg, lastBit]

theorem rounded_neg (q : ℚ) : rounded (-q) = -rounded q := by
  rw [rounded, lastBit_neg, neg_div, roundEven_neg, Int.cast_neg, neg_mul, rounded]

/-- As many bits as there are. -/
theorem abs_div_lt (q : ℚ) : |q| / 2 ^ lastBit q < 2 ^ 53 := by
  have hpos : (0 : ℚ) < 2 ^ lastBit q := by positivity
  rw [div_lt_iff₀ hpos, ← zpow_natCast, ← zpow_add₀ (by norm_num)]
  refine (Int.lt_zpow_succ_log_self (b := 2) (by norm_num) |q|).trans_le ?_
  exact zpow_le_zpow_right₀ (by norm_num) (by rw [lastBit]; omega)

/-- All 53 bits are there, unless the exponent is the least. -/
theorem le_abs_div {q : ℚ} (hq : q ≠ 0) (h : -1074 < lastBit q) :
    2 ^ 52 ≤ |q| / 2 ^ lastBit q := by
  have hpos : (0 : ℚ) < 2 ^ lastBit q := by positivity
  rw [le_div_iff₀ hpos, ← zpow_natCast, ← zpow_add₀ (by norm_num)]
  refine le_trans ?_ (Int.zpow_log_le_self (b := 2) (by norm_num) (abs_pos.2 hq))
  exact zpow_le_zpow_right₀ (by norm_num) (by rw [lastBit] at h ⊢; omega)

/-- Rounding can carry into a bit above 53 bits, but then leaves only that. -/
theorem roundEven_div_lastBit_le {q : ℚ} (hq : 0 ≤ q) :
    roundEven (q / 2 ^ lastBit q) ≤ 2 ^ 53 := by
  have hlt := abs_div_lt q
  rw [abs_of_nonneg hq] at hlt
  have hfloor : ⌊q / 2 ^ lastBit q⌋ < 2 ^ 53 := Int.floor_lt.2 (by exact_mod_cast hlt)
  exact (roundEven_le_floor_add_one _).trans hfloor

theorem le_roundEven_div_lastBit {q : ℚ} (hq : 0 < q) (h : -1074 < lastBit q) :
    2 ^ 52 ≤ roundEven (q / 2 ^ lastBit q) := by
  have hle := le_abs_div hq.ne' h
  rw [abs_of_pos hq] at hle
  have hfloor : 2 ^ 52 ≤ ⌊q / 2 ^ lastBit q⌋ := Int.le_floor.2 (by exact_mod_cast hle)
  exact hfloor.trans (floor_le_roundEven _)

/-- No multiple of the last bit is nearer. -/
theorem abs_rounded_sub_le_multiple (q : ℚ) (c : ℤ) :
    |rounded q - q| ≤ |c * 2 ^ lastBit q - q| := by
  have hpos : (0 : ℚ) < 2 ^ lastBit q := by positivity
  have hscale : ∀ n : ℤ, |n * 2 ^ lastBit q - q| = |n - q / 2 ^ lastBit q| * 2 ^ lastBit q := by
    intro n
    rw [← abs_of_pos hpos, ← abs_mul, abs_of_pos hpos, sub_mul, div_mul_cancel₀ _ hpos.ne']
  rw [rounded, hscale, hscale]
  exact mul_le_mul_of_nonneg_right (abs_roundEven_sub_le _ c) hpos.le

/-- **No stored number is nearer.** -/
theorem abs_rounded_sub_le {x : Float} {w : ℚ} (h : (ofFloat x).value? = some w) (q : ℚ) :
    |rounded q - q| ≤ |w - q| := by
  obtain ⟨negative, m, e, heq, hw⟩ := abs_value? h
  rcases eq_or_ne q 0 with rfl | hq
  · rw [rounded_zero, sub_zero, abs_zero]
    exact abs_nonneg _
  rcases le_or_gt (lastBit q) e with hle | hlt
  · -- the number is itself a multiple of the last bit
    obtain ⟨j, hj⟩ := Int.eq_ofNat_of_zero_le (sub_nonneg.2 hle)
    have hpow : (2 : ℚ) ^ e = 2 ^ j * 2 ^ lastBit q := by
      rw [eq_add_of_sub_eq hj, zpow_add₀ (by norm_num), zpow_natCast]
    rw [hpow, ← mul_assoc] at hw
    rcases (abs_eq (by positivity)).1 hw with rfl | rfl
    · simpa using abs_rounded_sub_le_multiple q (m * 2 ^ j)
    · simpa using abs_rounded_sub_le_multiple q (-(m * 2 ^ j))
  · -- it is not above the power of two under the value, which is such a multiple
    have hbelow : |w| ≤ 2 ^ 52 * 2 ^ lastBit q := by
      have hm : (m : ℚ) ≤ 2 ^ 53 := by exact_mod_cast (significand_lt heq).le
      have hpow : (2 : ℚ) ^ e * 2 ≤ 2 ^ lastBit q := by
        rw [← zpow_add_one₀ (by norm_num)]
        exact zpow_le_zpow_right₀ (by norm_num) (by omega)
      calc |w| = m * 2 ^ e := hw
        _ ≤ 2 ^ 53 * 2 ^ e := by gcongr
        _ = 2 ^ 52 * (2 ^ e * 2) := by ring
        _ ≤ 2 ^ 52 * 2 ^ lastBit q := by gcongr
    have hlow : 2 ^ 52 * 2 ^ lastBit q ≤ |q| :=
      (le_div_iff₀ (by positivity)).1 (le_abs_div hq (by have := le_exponent heq; omega))
    have hnear : |rounded q - q| ≤ |q| - 2 ^ 52 * 2 ^ lastBit q := by
      rcases abs_choice q with habs | habs <;> rw [habs] at hlow ⊢
      · refine (abs_rounded_sub_le_multiple q (2 ^ 52)).trans_eq ?_
        rw [Int.cast_pow, Int.cast_ofNat, abs_of_nonpos (sub_nonpos.2 hlow), neg_sub]
      · refine (abs_rounded_sub_le_multiple q (-2 ^ 52)).trans_eq ?_
        rw [Int.cast_neg, Int.cast_pow, Int.cast_ofNat, abs_of_nonneg (by linarith)]
        ring
    calc |rounded q - q| ≤ |q| - 2 ^ 52 * 2 ^ lastBit q := hnear
      _ ≤ |q| - |w| := by linarith
      _ ≤ |w - q| := by rw [abs_sub_comm]; exact abs_sub_abs_le_abs_sub q w

/-- A number whose value is the rounded one is nearest. -/
theorem isNearest_of_value? {x : Float} {q : ℚ} (h : (ofFloat x).value? = some (rounded q)) :
    IsNearest x q :=
  ⟨_, h, fun _ _ hw ↦ abs_rounded_sub_le hw q⟩

/-! ### The range of numbers -/

theorem rounded_nonneg {q : ℚ} (hq : 0 ≤ q) : 0 ≤ rounded q := by
  have hfloor : 0 ≤ ⌊q / 2 ^ lastBit q⌋ := Int.floor_nonneg.2 (by positivity)
  have hround : (0 : ℚ) ≤ roundEven (q / 2 ^ lastBit q) := by
    exact_mod_cast hfloor.trans (floor_le_roundEven _)
  rw [rounded]
  positivity

theorem abs_rounded (q : ℚ) : |rounded q| = rounded |q| := by
  rcases le_total 0 q with hq | hq
  · rw [abs_of_nonneg hq, abs_of_nonneg (rounded_nonneg hq)]
  · rw [abs_of_nonpos hq, ← abs_neg, ← rounded_neg, abs_of_nonneg (rounded_nonneg (by linarith))]

/-- Rounding up gives a power of two at most. -/
theorem rounded_le {q : ℚ} (hq : 0 ≤ q) : rounded q ≤ 2 ^ 53 * 2 ^ lastBit q := by
  have hround : (roundEven (q / 2 ^ lastBit q) : ℚ) ≤ 2 ^ 53 := by
    exact_mod_cast roundEven_div_lastBit_le hq
  rw [rounded]
  gcongr

/-- What is too large stays too large. -/
theorem le_rounded {q : ℚ} (h : 2 ^ 1024 ≤ q) : 2 ^ 1024 ≤ rounded q := by
  have hpos : 0 < q := lt_of_lt_of_le (by positivity) h
  have hlog : 1024 ≤ Int.log 2 q := by
    rw [← Int.zpow_le_iff_le_log (by norm_num) hpos]
    exact_mod_cast h
  have hlast : 972 ≤ lastBit q := by
    rw [lastBit, abs_of_pos hpos]
    omega
  have hround : (2 ^ 52 : ℚ) ≤ roundEven (q / 2 ^ lastBit q) := by
    exact_mod_cast le_roundEven_div_lastBit hpos (by omega)
  calc (2 : ℚ) ^ 1024 = 2 ^ 52 * 2 ^ (972 : ℤ) := by
          rw [← zpow_natCast, ← zpow_natCast, ← zpow_add₀ (by norm_num)]
          rfl
    _ ≤ 2 ^ 52 * 2 ^ lastBit q := by gcongr; norm_num
    _ ≤ rounded q := by rw [rounded]; gcongr

/-- What is below half of the least stored number is rounded to zero. -/
theorem rounded_eq_zero {q : ℚ} (hq : 0 < q) (h : q < 2 ^ (-1075 : ℤ)) : rounded q = 0 := by
  have hlast : lastBit q = -1074 := by
    have hlog : Int.log 2 q < -1075 := (Int.lt_zpow_iff_log_lt (by norm_num) hq).1 h
    rw [lastBit, abs_of_pos hq]
    omega
  have hsmall : q / 2 ^ (-1074 : ℤ) < 1 / 2 := by
    rw [div_lt_iff₀ (by positivity)]
    refine h.trans_eq ?_
    rw [show (-1074 : ℤ) = -1075 + 1 by norm_num, zpow_add_one₀ (by norm_num)]
    ring
  have hnonneg : 0 ≤ q / 2 ^ (-1074 : ℤ) := by positivity
  have hfract : Int.fract (q / 2 ^ (-1074 : ℤ)) = q / 2 ^ (-1074 : ℤ) :=
    Int.fract_eq_self.2 ⟨hnonneg, by linarith⟩
  have hfloor : ⌊q / 2 ^ (-1074 : ℤ)⌋ = 0 := Int.floor_eq_zero_iff.2 ⟨hnonneg, by linarith⟩
  rw [rounded, hlast, roundEven, hfract, if_pos (by linarith), hfloor, Int.cast_zero, zero_mul]

/-- The value of the number that is nearest to `q`, unless that would be too large. -/
def round? (q : ℚ) : Option ℚ := if |rounded q| < 2 ^ 1024 then some (rounded q) else none

/-! ### Whole numbers that are kept -/

/-- How many bits a whole number has above 53. -/
def excess (n : ℤ) : ℕ := n.natAbs.log2 - 52

theorem lastBit_intCast (n : ℤ) : lastBit n = n.natAbs.log2 - 52 := by
  have habs : |(n : ℚ)| = n.natAbs := by rw [Nat.cast_natAbs, Int.cast_abs]
  rw [lastBit, habs, Int.log_natCast, Nat.log2_eq_log_two]
  omega

theorem roundEven_eq_self_iff {x : ℚ} : (roundEven x : ℚ) = x ↔ ∃ n : ℤ, x = n := by
  constructor
  · exact fun h ↦ ⟨_, h.symm⟩
  · rintro ⟨n, rfl⟩
    rw [roundEven_intCast]

/-- **Whole numbers of at most 53 bits between zeros are kept.** -/
theorem rounded_eq_self_iff {n : ℤ} : rounded n = n ↔ 2 ^ excess n ∣ n.natAbs := by
  have hpos : (0 : ℚ) < 2 ^ lastBit n := by positivity
  rw [rounded, ← eq_div_iff hpos.ne', roundEven_eq_self_iff, lastBit_intCast]
  rcases le_or_gt n.natAbs.log2 52 with hle | hgt
  · obtain ⟨k, hk⟩ := Nat.exists_eq_add_of_le hle
    have hexcess : excess n = 0 := Nat.sub_eq_zero_of_le hle
    refine iff_of_true ⟨n * 2 ^ k, ?_⟩ (by rw [hexcess, pow_zero]; exact one_dvd _)
    rw [show (n.natAbs.log2 : ℤ) - 52 = -k by omega, zpow_neg, zpow_natCast, div_inv_eq_mul]
    push_cast
    rfl
  · have hexcess : (n.natAbs.log2 : ℤ) - 52 = excess n := by rw [excess]; omega
    rw [hexcess, zpow_natCast, ← Int.natCast_dvd_natCast, Int.dvd_natAbs]
    constructor
    · rintro ⟨c, hc⟩
      rw [div_eq_iff (by positivity)] at hc
      exact ⟨c, by rw [mul_comm]; exact_mod_cast hc⟩
    · rintro ⟨c, hc⟩
      refine ⟨c, ?_⟩
      rw [div_eq_iff (by positivity), mul_comm]
      exact_mod_cast hc

/-- A whole number of at most `2 ^ 53` is kept. -/
theorem rounded_eq_self_of_le {n : ℤ} (h : |n| ≤ 2 ^ 53) : rounded n = n := by
  rw [Binary64.rounded_eq_self_iff]
  have hle : n.natAbs ≤ 2 ^ 53 := by
    rw [Int.abs_eq_natAbs] at h
    exact_mod_cast h
  rcases hle.lt_or_eq with hlt | heq
  · have hexcess : excess n = 0 := by
      rcases eq_or_ne n.natAbs 0 with hzero | hne
      · rw [excess, hzero, Nat.log2_zero]
      · exact Nat.sub_eq_zero_of_le (Nat.lt_succ_iff.1 ((Nat.log2_lt hne).2 hlt))
    rw [hexcess, pow_zero]
    exact one_dvd _
  · rw [excess, heq, Nat.log2_two_pow]
    exact pow_dvd_pow 2 (by norm_num)

end SurveyExport.Binary64
