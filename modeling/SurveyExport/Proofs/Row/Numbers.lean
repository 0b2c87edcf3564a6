import SurveyExport.Proofs.Decimal.Decimals
import SurveyExport.Row.Coercion

/-!
# Numbers in columns of the other kind

A column of whole numbers takes a number without a fraction as a whole number, and a decimal column
takes a whole number as a decimal. The new cell has the value of the old one, unless the number has
no cell of the new kind: a decimal column rounds whole numbers of more than 53 bits to a nearest
number, and a column of whole numbers cannot hold what does not fit 64 bits.

* `Cell.keepsNumber_float_iff`: numbers in a column of whole numbers;
* `Cell.keepsNumber_int_iff`: whole numbers in a decimal column;
* `Cell.keepsNumber_iff`: all cells and types.
-/

namespace SurveyExport

theorem Numeral.fits_iff {n : ℤ} : fits n = true ↔ minInt ≤ n ∧ n ≤ maxInt := by
  simp [Numeral.fits]

namespace Cell

/-- A whole number in a cell fits 64 bits. -/
def Fits : Cell → Prop
  | .int n => Numeral.fits n = true
  | _ => True

/-- The exact value of a number in a cell. -/
def value? : Cell → Option ℚ
  | .int n => some n
  | .float x => (Binary64.ofFloat x).value?
  | _ => none

/-- A cell of the other kind of number, which is the kind of the column, has the same value. -/
inductive Restates : BindType → Cell → Cell → Prop
  | int {x : Float} {n : ℤ} (heq : (Cell.int n).value? = (Cell.float x).value?)
      (hfits : (Cell.int n).Fits) : Restates .int (.float x) (.int n)
  | decimal {n : ℤ} {x : Float} (heq : (Cell.float x).value? = (Cell.int n).value?) :
      Restates .decimal (.int n) (.float x)

/-- A cell is a text that reads as a value of the column's type. -/
def IsRead (type : BindType) (c : Cell) : Prop := ∃ s, c = .text s ∧ ofText? type s ≠ none

/-- Coercion keeps the number of a cell. -/
structure KeepsNumber (type : BindType) (c : Cell) : Prop where
  /-- A number that the column has a cell for is in the new cell. -/
  restates : (∃ d, Restates type c d) → Restates type c (c.coerce type)
  /-- Every other cell stays, unless it is a text that is read. -/
  unchanged : (¬∃ d, Restates type c d) → ¬ IsRead type c → c.coerce type = c

/-- A number without a fraction, in a column of whole numbers, does not fit 64 bits. -/
inductive IsTooLarge : BindType → Cell → Prop
  | intro {x : Float} {n : ℤ} (heq : (Cell.float x).value? = some (n : ℚ))
      (hfits : ¬ Numeral.fits n = true) : IsTooLarge .int (.float x)

/-- A whole number, in a decimal column, has more than 53 bits between zeros. -/
inductive IsTooLong : BindType → Cell → Prop
  | intro {n : ℤ} (hbits : ¬ 2 ^ Binary64.excess n ∣ n.natAbs) : IsTooLong .decimal (.int n)

theorem clampInt_eq_self {n : ℤ} (h : Numeral.fits n = true) : clampInt n = n := by
  obtain ⟨hlow, hhigh⟩ := Numeral.fits_iff.1 h
  rw [clampInt, min_eq_right hhigh, max_eq_right hlow]

theorem coerce_float_of_value? {x : Float} {n : ℤ} (h : (Cell.float x).value? = some (n : ℚ)) :
    (Cell.float x).coerce .int = .int (clampInt n) := by
  obtain ⟨hwhole, rfl⟩ := Binary64.value?_eq_intCast_iff.1 h
  simp [coerce, BindType.isConverted, hwhole]

theorem coerce_float_of_forall_ne {x : Float}
    (h : ∀ n : ℤ, (Cell.float x).value? ≠ some (n : ℚ)) :
    (Cell.float x).coerce .int = .float x := by
  have hwhole : (Binary64.ofFloat x).isWhole = false := Bool.eq_false_iff.2 fun hwhole ↦
    h _ (Binary64.value?_eq_intCast_iff.2 ⟨hwhole, rfl⟩)
  simp [coerce, BindType.isConverted, hwhole]

theorem log2_natAbs_lt_of_fits {n : ℤ} (h : Numeral.fits n = true) : n.natAbs.log2 < 1023 := by
  rw [Numeral.fits_iff, Numeral.minInt, Numeral.maxInt] at h
  rcases eq_or_ne n 0 with rfl | hn
  · decide
  · have hlog : n.natAbs.log2 < 64 := (Nat.log2_lt (by omega)).2 (by omega)
    omega

/-- A column of whole numbers keeps just the numbers that are not too large. -/
theorem keepsNumber_float_iff (x : Float) :
    (Cell.float x).KeepsNumber .int ↔ ¬ IsTooLarge .int (.float x) := by
  by_cases hwhole : ∃ n : ℤ, (Cell.float x).value? = some (n : ℚ)
  · obtain ⟨n, hn⟩ := hwhole
    have hunique : ∀ m : ℤ, (Cell.float x).value? = some (m : ℚ) → m = n := fun m hm ↦
      Int.cast_injective (Option.some_inj.1 (hm.symm.trans hn))
    by_cases hfits : Numeral.fits n = true
    · have hrestates : Restates .int (.float x) (.int n) := .int hn.symm hfits
      refine iff_of_true ⟨fun _ ↦ ?_, fun hnone ↦ absurd ⟨_, hrestates⟩ hnone⟩ ?_
      · rwa [coerce_float_of_value? hn, clampInt_eq_self hfits]
      · rintro ⟨hm, hlarge⟩
        exact hlarge (hunique _ hm ▸ hfits)
    · refine iff_of_false (fun hkeeps ↦ ?_) (not_not.2 (.intro hn hfits))
      have hnone : ¬ ∃ d, Restates .int (.float x) d := by
        rintro ⟨_, ⟨hm, hfits'⟩⟩
        exact hfits (hunique _ hm.symm ▸ hfits')
      have hread : ¬ IsRead .int (.float x) := by
        rintro ⟨_, ⟨⟩, -⟩
      have hsame := hkeeps.unchanged hnone hread
      rw [coerce_float_of_value? hn] at hsame
      cases hsame
  · rw [not_exists] at hwhole
    refine iff_of_true ⟨?_, fun _ _ ↦ coerce_float_of_forall_ne hwhole⟩ ?_
    · rintro ⟨_, ⟨hm, -⟩⟩
      exact absurd hm.symm (hwhole _)
    · rintro ⟨hm, -⟩
      exact hwhole _ hm

/-- A decimal column keeps just the whole numbers that are not too long. -/
theorem keepsNumber_int_iff {n : ℤ} (hfits : Numeral.fits n = true) :
    (Cell.int n).KeepsNumber .decimal ↔ ¬ IsTooLong .decimal (.int n) := by
  have hlog := log2_natAbs_lt_of_fits hfits
  have hcoerce : (Cell.int n).coerce .decimal = .float (Float.ofInt n) := rfl
  have hexists : (∃ d, Restates .decimal (.int n) d) ↔ 2 ^ Binary64.excess n ∣ n.natAbs := by
    rw [← Binary64.exists_value?_eq_intCast_iff hlog]
    constructor
    · rintro ⟨_, _ | hx⟩
      exact ⟨_, hx⟩
    · rintro ⟨x, hx⟩
      exact ⟨_, .decimal hx⟩
  by_cases hbits : 2 ^ Binary64.excess n ∣ n.natAbs
  · refine iff_of_true ⟨fun _ ↦ ?_, fun hnone ↦ absurd (hexists.2 hbits) hnone⟩ ?_
    · rw [hcoerce]
      refine .decimal ((Binary64.value?_ofInt n).trans ?_)
      rw [Binary64.round?_intCast hlog, Binary64.rounded_eq_self_iff.2 hbits]
      rfl
    · rintro ⟨hlong⟩
      exact hlong hbits
  · refine iff_of_false (fun hkeeps ↦ ?_) (not_not.2 (.intro hbits))
    have hread : ¬ IsRead .decimal (.int n) := by
      rintro ⟨_, ⟨⟩, -⟩
    have hsame := hkeeps.unchanged (mt hexists.1 hbits) hread
    rw [hcoerce] at hsame
    cases hsame

/-- Every other cell stays, unless it is a text. -/
theorem keepsNumber_of_ne {type : BindType} {c : Cell}
    (hfloat : ∀ x, ¬ (type = .int ∧ c = .float x)) (hint : ∀ n, ¬ (type = .decimal ∧ c = .int n)) :
    c.KeepsNumber type := by
  have hnone : ¬ ∃ d, Restates type c d := by
    rintro ⟨_, ⟨-, -⟩ | -⟩
    · exact hfloat _ ⟨rfl, rfl⟩
    · exact hint _ ⟨rfl, rfl⟩
  refine ⟨fun h ↦ absurd h hnone, fun _ hread ↦ ?_⟩
  cases c with
  | text s =>
    have hunread : ofText? type s = none := by_contra fun h ↦ hread ⟨s, rfl, h⟩
    simp [coerce, hunread]
  | float x =>
    have htype : type ≠ .int := fun h ↦ hfloat x ⟨h, rfl⟩
    simp [coerce, htype]
  | int n =>
    have htype : type ≠ .decimal := fun h ↦ hint n ⟨h, rfl⟩
    simp [coerce, htype]
  | _ => simp [coerce]

/-- **Coercion keeps every number but a whole number that is too long.** Such a number becomes one
to which no other is nearer, since the numbers of a decimal column have 53 bits. -/
theorem keepsNumber_iff {type : BindType} {c : Cell} (hc : c.Fits) (hlarge : ¬ IsTooLarge type c) :
    (c.KeepsNumber type ↔ ¬ IsTooLong type c) ∧
    (IsTooLong type c → ∀ q, c.value? = some q →
      ∃ x, c.coerce type = .float x ∧ Binary64.IsNearest x q) := by
  refine ⟨?_, ?_⟩
  · by_cases hfloat : ∃ x, type = .int ∧ c = .float x
    · obtain ⟨x, rfl, rfl⟩ := hfloat
      exact iff_of_true ((keepsNumber_float_iff x).2 hlarge) (by rintro ⟨⟩)
    by_cases hint : ∃ n, type = .decimal ∧ c = .int n
    · obtain ⟨n, rfl, rfl⟩ := hint
      exact keepsNumber_int_iff hc
    refine iff_of_true (keepsNumber_of_ne (not_exists.1 hfloat) (not_exists.1 hint)) ?_
    rintro ⟨-⟩
    exact hint ⟨_, rfl, rfl⟩
  · rintro ⟨-⟩ q hq
    obtain rfl := Option.some_inj.1 hq
    exact ⟨_, rfl, Binary64.isNearest_ofInt (log2_natAbs_lt_of_fits hc)⟩

/-- A number without a fraction, and the first whole number of more than 53 bits. -/
theorem keepsNumber_iff_four :
    (Cell.Fits (.float (Float.ofBits 0x4010000000000000)) ∧
      ¬ IsTooLarge .int (.float (Float.ofBits 0x4010000000000000)) ∧
      (Cell.float (Float.ofBits 0x4010000000000000)).KeepsNumber .int) ∧
    Cell.Fits (.int 9007199254740993) ∧ ¬ IsTooLarge .decimal (.int 9007199254740993) ∧
      IsTooLong .decimal (.int 9007199254740993) ∧
      ∃ x, (Cell.int 9007199254740993).coerce .decimal = .float x ∧
        Binary64.IsNearest x (9007199254740993 : ℤ) := by
  have hvalue : (Cell.float (Float.ofBits 0x4010000000000000)).value? = some ((4 : ℤ) : ℚ) :=
    (Binary64.value?_eq_intCast_iff (b := Binary64.ofFloat (Float.ofBits 0x4010000000000000))
      (n := 4)).2 (by decide +kernel)
  have hsmall : ¬ IsTooLarge .int (.float (Float.ofBits 0x4010000000000000)) := by
    rintro ⟨hn, hlarge⟩
    obtain rfl := Int.cast_injective (Option.some_inj.1 (hvalue.symm.trans hn))
    exact hlarge rfl
  have hlong : IsTooLong .decimal (.int 9007199254740993) := .intro (by decide +kernel)
  have hother : ¬ IsTooLarge .decimal (.int 9007199254740993) := by rintro ⟨⟩
  exact ⟨⟨trivial, hsmall, (keepsNumber_iff (c := .float _) trivial hsmall).1.2 (by rintro ⟨⟩)⟩,
    rfl, hother, hlong, (keepsNumber_iff (c := .int 9007199254740993) rfl hother).2 hlong _ rfl⟩

/-- The whole number of a decimal column that becomes another one. -/
theorem not_keepsNumber_int : ¬ (Cell.int 9007199254740993).KeepsNumber .decimal := fun h ↦
  (keepsNumber_int_iff rfl).1 h (.intro (by decide +kernel))

end Cell

end SurveyExport
