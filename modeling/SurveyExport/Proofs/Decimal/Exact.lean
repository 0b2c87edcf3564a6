import SurveyExport.Proofs.Decimal.Bits

/-!
# The exact value of a number

A finite number stands for one rational number: a significand of at most 53 bits times a power of
two. It is a whole number just if no bit stands behind the point.

* `Binary64.value?_eq_intCast_iff`: numbers whose value is a whole number;
* `Binary64.IsNearest`: no other number has a value nearer to a rational number.
-/

namespace SurveyExport.Binary64

/-- The exact value of a finite number. -/
def value? : Binary64 → Option ℚ
  | .finite negative significand exponent =>
    let magnitude : ℚ := significand * 2 ^ exponent
    some (if negative then -magnitude else magnitude)
  | _ => none

/-- A magnitude is a whole number just if no bit stands behind the point. -/
theorem mul_zpow_eq_intCast_iff (m : ℕ) (e w : ℤ) :
    (m : ℚ) * 2 ^ e = w ↔
      (0 ≤ e ∨ m % 2 ^ (-e).toNat = 0) ∧ (wholeMagnitude m e : ℤ) = w := by
  by_cases he : 0 ≤ e
  · obtain ⟨k, rfl⟩ := Int.eq_ofNat_of_zero_le he
    have hwhole : wholeMagnitude m k = m * 2 ^ k := by
      rw [wholeMagnitude, if_pos he, Int.toNat_natCast]
      rfl
    rw [hwhole, zpow_natCast, and_iff_right (.inl he), ← Int.cast_inj (α := ℚ)]
    norm_cast
  · obtain ⟨k, hk⟩ := Int.eq_ofNat_of_zero_le (show 0 ≤ -e by omega)
    obtain rfl : e = -(k : ℤ) := by omega
    have hwhole : wholeMagnitude m (-k) = m / 2 ^ k := by
      rw [wholeMagnitude, if_neg he, neg_neg, Int.toNat_natCast]
      rfl
    rw [hwhole, or_iff_right he, neg_neg, Int.toNat_natCast, zpow_neg, zpow_natCast,
      ← div_eq_mul_inv, div_eq_iff (by positivity), ← Nat.dvd_iff_mod_eq_zero]
    have hcast : ((m : ℚ) = w * 2 ^ k) ↔ (m : ℤ) = w * 2 ^ k := by norm_cast
    rw [hcast]
    constructor
    · intro h
      have hdvd : 2 ^ k ∣ m := by
        rw [← Int.natCast_dvd_natCast, h]
        exact_mod_cast dvd_mul_left _ w
      refine ⟨hdvd, ?_⟩
      push_cast
      rw [h, Int.mul_ediv_cancel _ (by positivity)]
    · rintro ⟨hdvd, hw⟩
      rw [← hw]
      exact_mod_cast (Nat.div_mul_cancel hdvd).symm

/-- **A number has the value of a whole number just if it has no fraction and is cut to it.** -/
theorem value?_eq_intCast_iff {b : Binary64} {n : ℤ} :
    b.value? = some (n : ℚ) ↔ b.isWhole ∧ b.truncate = n := by
  cases b with
  | nan => simp [value?, isWhole]
  | infinite negative => simp [value?, isWhole]
  | finite negative m e =>
    have hwhole : (Binary64.finite negative m e).isWhole ↔ 0 ≤ e ∨ m % 2 ^ (-e).toNat = 0 := by
      simp [isWhole]
    rw [hwhole]
    cases negative with
    | false => exact Option.some_inj.trans (mul_zpow_eq_intCast_iff m e n)
    | true =>
      have hneg : -((m : ℚ) * 2 ^ e) = n ↔ (m : ℚ) * 2 ^ e = (-n : ℤ) := by
        rw [Int.cast_neg, neg_eq_iff_eq_neg]
      refine Option.some_inj.trans (hneg.trans ((mul_zpow_eq_intCast_iff m e (-n)).trans ?_))
      exact and_congr_right fun _ ↦ neg_eq_iff_eq_neg.symm

/-- A significand has at most 53 bits. -/
theorem significand_lt {x : Float} {negative : Bool} {m : ℕ} {e : ℤ}
    (h : ofFloat x = .finite negative m e) : m < 2 ^ 53 := by
  unfold ofFloat at h
  grind

/-- The exponent of a stored number is not below the least. -/
theorem le_exponent {x : Float} {negative : Bool} {m : ℕ} {e : ℤ}
    (h : ofFloat x = .finite negative m e) : -1074 ≤ e := by
  unfold ofFloat at h
  grind

/-- All 53 bits of a significand are there, unless the exponent is the least. -/
theorem le_significand_or {x : Float} {negative : Bool} {m : ℕ} {e : ℤ}
    (h : ofFloat x = .finite negative m e) : 2 ^ 52 ≤ m ∨ e = -1074 := by
  unfold ofFloat at h
  grind

theorem abs_value? {b : Binary64} {v : ℚ} (h : b.value? = some v) :
    ∃ negative m e, b = .finite negative m e ∧ |v| = m * 2 ^ e := by
  cases b with
  | nan => simp [value?] at h
  | infinite negative => simp [value?] at h
  | finite negative m e =>
    obtain rfl := Option.some_inj.1 h
    refine ⟨negative, m, e, rfl, ?_⟩
    split_ifs
    · rw [abs_neg, abs_of_nonneg (by positivity)]
    · rw [abs_of_nonneg (by positivity)]

/-- The value of a number is as near to `q` as that of any other. -/
def IsNearest (x : Float) (q : ℚ) : Prop :=
  ∃ v, (ofFloat x).value? = some v ∧ ∀ y w, (ofFloat y).value? = some w → |v - q| ≤ |w - q|

end SurveyExport.Binary64
