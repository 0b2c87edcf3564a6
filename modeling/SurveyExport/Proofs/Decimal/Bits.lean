import Mathlib
import SurveyExport.Decimal.Binary64

/-!
# The bits of a finite number

The bits of a binary64 number are a sign, 11 bits of exponent and 52 bits of fraction. An exponent
of all ones marks the infinities and what is not a number; the bits of every other number survive
when a number is made of them and asked for its bits.

* `Binary64.toBits_ofBits`: finite bits are kept;
* `Binary64.isFinite_ofBits`: bits make a finite number just if their exponent says so.
-/

namespace SurveyExport.Binary64

open Float.Model (Format)
open Float.Model.UnpackedFloat

/-- The bits are those of a finite number: their exponent is not all ones. -/
def FiniteBits (b : UInt64) : Prop := b.toNat / 0x10000000000000 % 0x800 ≠ 2047

instance : DecidablePred FiniteBits := fun _ ↦ inferInstanceAs (Decidable (_ ≠ _))

/-- The exponent as a number. -/
theorem toNat_unpackExponent (b : BitVec Format.binary64.numBits) :
    (unpackExponent b).toNat = b.toNat / 0x10000000000000 % 0x800 := by
  change (BitVec.extractLsb 62 52 b).toNat = _
  rw [BitVec.extractLsb_toNat, Nat.shiftRight_eq_div_pow]

theorem finiteBits_iff {b : UInt64} :
    FiniteBits b ↔ @unpackExponent Format.binary64 b.toBitVec ≠ -1#11 := by
  rw [FiniteBits, ← UInt64.toNat_toBitVec, ← toNat_unpackExponent]
  exact not_congr ⟨fun h ↦ BitVec.eq_of_toNat_eq h, congrArg BitVec.toNat⟩

/-- A number made of bits has these bits, unless they say that it is not a number. -/
theorem toBitVec_toBits_ofBits (b : UInt64) :
    (Float.ofBits b).toBits.toBitVec =
      if @isNaNBits Format.binary64 b.toBitVec then packedNaN Format.binary64 else b.toBitVec :=
  @pack_unpack Format.binary64 b.toBitVec (by decide)

/-- **The bits of a finite number are kept.** -/
theorem toBits_ofBits {b : UInt64} (h : FiniteBits b) : (Float.ofBits b).toBits = b := by
  have hnan : @isNaNBits Format.binary64 b.toBitVec = false :=
    decide_eq_false fun hb ↦ finiteBits_iff.mp h hb.1
  refine UInt64.toBitVec_inj.mp ?_
  rw [toBitVec_toBits_ofBits, hnan]
  rfl

/-- Bits that are not those of a finite number make none. -/
theorem not_finiteBits_ofBits {b : UInt64} (h : ¬ FiniteBits b) :
    ¬ FiniteBits (Float.ofBits b).toBits := by
  rw [finiteBits_iff, not_not] at h ⊢
  rw [toBitVec_toBits_ofBits]
  split
  · exact unpackExponent_packComponents
  · exact h

/-- A number is finite just if its bits are. -/
theorem isFinite_ofFloat (x : Float) : (ofFloat x).isFinite ↔ FiniteBits x.toBits := by
  unfold ofFloat FiniteBits
  grind [isFinite]

/-- **Bits make a finite number just if they are those of one.** -/
theorem isFinite_ofBits (b : UInt64) : (ofFloat (Float.ofBits b)).isFinite ↔ FiniteBits b := by
  rw [isFinite_ofFloat]
  by_cases h : FiniteBits b
  · rw [toBits_ofBits h]
  · exact iff_of_false (not_finiteBits_ofBits h) h

end SurveyExport.Binary64
