import SurveyExport.Decimal.Binary64

/-!
# The shortest decimal that reads back

A number is written with the fewest decimal digits from which reading gives the same number. The
reals that read as a given binary64 number form an interval around it, ends included exactly when
its significand is even. On each decimal grid, from coarse to fine, the two neighbours of the
number are tried; the first grid with a neighbour inside the interval gives the answer, and of two
neighbours inside the nearer one is taken.
-/

namespace SurveyExport

/-- The number `coefficient · 10 ^ exponent`. -/
structure Decimal where
  coefficient : Nat
  exponent : Int
deriving DecidableEq, Repr

/-- Which of two decimals at the same distance is taken. -/
inductive Tie where
  /-- The one farther from zero. -/
  | away
  /-- The one with an even last digit. -/
  | toEven
deriving DecidableEq, Repr

namespace Decimal

/-- The multiple of `10 ^ grid` inside the interval of `m · 2 ^ e`, the nearer if there are two. -/
def onGrid? (tie : Tie) (m : Nat) (e : Int) (grid : Int) : Option Nat :=
  -- all quantities are counted in units of 2 ^ (e - 2) · 10 ^ (min grid 0)
  let unit := Nat.pow 2 (e - 2).toNat * Nat.pow 10 (-grid).toNat
  let step := Nat.pow 2 (2 - e).toNat * Nat.pow 10 grid.toNat
  let value := 4 * m * unit
  let low := (if m = 0x10000000000000 ∧ -1074 < e then 4 * m - 1 else 4 * m - 2) * unit
  let high := (4 * m + 2) * unit
  let inside (c : Nat) : Bool :=
    if m % 2 = 0 then low ≤ c * step && c * step ≤ high
    else low < c * step && c * step < high
  let below := value / step
  let above := below + 1
  if inside below then
    if inside above then
      let down := value - below * step
      let up := above * step - value
      if down < up then some below
      else if up < down then some above
      else
        match tie with
        | .away => some above
        | .toEven => some (if below % 2 = 0 then below else above)
    else some below
  else if inside above then some above
  else none

/-- Takes zeros off the end of a coefficient, at most `fuel` of them. -/
def dropZeros : Nat → Nat → Int → Decimal
  | 0, c, e => ⟨c, e⟩
  | fuel + 1, c, e => if c % 10 = 0 && c != 0 then dropZeros fuel (c / 10) (e + 1) else ⟨c, e⟩

/-- The shortest decimal that reads back as `m · 2 ^ e`, where `m` is not zero. -/
def shortest (tie : Tie) (m : Nat) (e : Int) : Decimal :=
  -- a power of ten above the number: log₁₀ 2 is a little less than 30103 / 100000
  let top := ((m.log2 : Int) + 1 + e) * 30103 / 100000 + 1
  let found := (List.range 21).findSome? fun (i : Nat) ↦
    (onGrid? tie m e (top - i)).map fun c ↦ (c, top - (i : Int))
  match found with
  | some (c, grid) => dropZeros 20 c grid
  | none => ⟨m, e⟩

/-- The decimal digits of a number. -/
def digits (n : Nat) : List Char := Nat.toDigits 10 n

/-- A decimal written with a point where needed and without an exponent. -/
def positional (d : Decimal) : String :=
  let ds := digits d.coefficient
  if 0 ≤ d.exponent then String.ofList (ds ++ List.replicate d.exponent.toNat '0')
  else
    let places := (-d.exponent).toNat
    if places < ds.length then
      String.ofList (ds.take (ds.length - places) ++ '.' :: ds.drop (ds.length - places))
    else String.ofList ('0' :: '.' :: (List.replicate (places - ds.length) '0' ++ ds))

/-- The power of ten of the leading digit. -/
def power (d : Decimal) : Int := d.exponent + (digits d.coefficient).length - 1

/-- A decimal of one leading digit, a point if more follow, and an exponent with its sign. -/
def scientific (d : Decimal) : String :=
  let exponent := (if 0 ≤ d.power then "e+" else "e-") ++ toString d.power.natAbs
  match digits d.coefficient with
  | [] => ""
  | [c] => c.toString ++ exponent
  | c :: cs => String.ofList (c :: '.' :: cs) ++ exponent

end Decimal

end SurveyExport
