import SurveyExport.Decimal.Shortest

/-!
# Numerals

How numbers are written in cells and read from answers.

* A binary64 number is written with the shortest digits, positionally and without an exponent.
* A numeral for a binary64 number has an optional sign, digits with an optional point (at least
  one digit in all) and an optional exponent; `inf`, `infinity` and `nan` are numerals in any
  case. Reading rounds to the nearest number.
* A numeral for a whole number has an optional sign and digits, and its value fits 64 bits.
-/

namespace SurveyExport.Numeral

/-- A number written positionally with the shortest digits. -/
def ofFloat (x : Float) : String :=
  match Binary64.ofFloat x with
  | .nan => "NaN"
  | .infinite negative => if negative then "-inf" else "inf"
  | .finite negative m e =>
    let magnitude := if m = 0 then "0" else (Decimal.shortest .away m e).positional
    if negative then "-" ++ magnitude else magnitude

/-- The greatest whole number of 64 bits with sign. -/
def maxInt : Int := 9223372036854775807

/-- The least whole number of 64 bits with sign. -/
def minInt : Int := -9223372036854775808

/-- The greatest whole number of 64 bits without sign. -/
def maxWord : Nat := 18446744073709551615

/-- Whether a whole number fits 64 bits with sign. -/
def fits (n : Int) : Bool := minInt ≤ n && n ≤ maxInt

/-- The value of decimal digits. -/
def ofDigits (ds : List Char) : Nat := ds.foldl (fun n c ↦ 10 * n + (c.toNat - 48)) 0

/-- Whether a character is a hexadecimal digit. -/
def isHexDigit (c : Char) : Bool :=
  c.isDigit || ('a' ≤ c && c ≤ 'f') || ('A' ≤ c && c ≤ 'F')

/-- The value of a hexadecimal digit. -/
def hexValue? (c : Char) : Option Nat :=
  if c.isDigit then some (c.toNat - 48)
  else if 'a' ≤ c && c ≤ 'f' then some (c.toNat - 87)
  else if 'A' ≤ c && c ≤ 'F' then some (c.toNat - 55)
  else none

/-- An optional sign: whether it is a minus, and what follows. -/
def readSign : List Char → Bool × List Char
  | '+' :: cs => (false, cs)
  | '-' :: cs => (true, cs)
  | cs => (false, cs)

/-- Reads a whole number of 64 bits; nothing may stand around it. -/
def readInt? (s : String) : Option Int :=
  let (negative, ds) := readSign s.toList
  if ds.isEmpty || !ds.all Char.isDigit then none
  else
    let n : Int := ofDigits ds
    let n := if negative then -n else n
    if fits n then some n else none

/-- The binary64 number nearest to `coefficient · 10 ^ exponent`. -/
def nearest (coefficient : Nat) (exponent : Int) : Float :=
  if coefficient = 0 then 0
  else
    let magnitude := (Decimal.digits coefficient).length + exponent
    if 310 < magnitude then 1 / 0
    else if magnitude < -330 then 0
    else Float.ofScientific coefficient (exponent < 0) exponent.natAbs

/-- The exponent at the end of a numeral: nothing, or `e`, an optional sign and digits. -/
def readExponent? : List Char → Option Int
  | [] => some 0
  | c :: cs =>
    if c = 'e' || c = 'E' then
      let (negative, ds) := readSign cs
      if ds.isEmpty || !ds.all Char.isDigit then none
      else
        let n : Int := ofDigits ds
        some (if negative then -n else n)
    else none

/-- Reads the magnitude of a numeral with digits. -/
def readMagnitude? (cs : List Char) : Option Float :=
  let whole := cs.takeWhile Char.isDigit
  let rest := cs.dropWhile Char.isDigit
  let (fraction, rest) :=
    match rest with
    | '.' :: rest => (rest.takeWhile Char.isDigit, rest.dropWhile Char.isDigit)
    | rest => ([], rest)
  if whole.isEmpty && fraction.isEmpty then none
  else
    (readExponent? rest).map fun e ↦ nearest (ofDigits (whole ++ fraction)) (e - fraction.length)

/-- Reads a binary64 number; nothing may stand around it. -/
def readFloat? (s : String) : Option Float :=
  let (negative, cs) := readSign s.toList
  let magnitude :=
    match String.ofList (cs.map Char.toLower) with
    | "inf" | "infinity" => some (1 / 0)
    | "nan" => some (0 / 0)
    | _ => readMagnitude? cs
  magnitude.map fun x ↦ if negative then -x else x

/-- What is read as a whole number fits 64 bits. -/
theorem fits_of_readInt? {s : String} {n : Int} (h : readInt? s = some n) : fits n = true := by
  simp only [readInt?] at h
  split at h
  · simp at h
  · split at h
    · split at h
      · simp_all
      · simp at h
    · split at h
      · simp_all
      · simp at h

end SurveyExport.Numeral
