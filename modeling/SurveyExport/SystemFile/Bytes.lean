import SurveyExport.Decimal.Binary64
import SurveyExport.Text.Utf8

/-!
# Numbers and texts as bytes

The parts of a system file are whole numbers of four bytes, binary64 numbers, and texts of a fixed
length that are filled up with spaces. The least significant byte of a number comes first.

* `length_int32`, `length_float64`, `length_padded`: every part has the length it declares;
* `ofLittleEndian_littleEndian`: a number is read back from its bytes.
-/

namespace SurveyExport.SystemFile

/-- The low bytes of a number, the least significant first. -/
def littleEndian : Nat → Nat → List UInt8
  | 0, _ => []
  | width + 1, n => UInt8.ofNat (n % 256) :: littleEndian width (n / 256)

/-- The number with the given bytes, the least significant first. -/
def ofLittleEndian : List UInt8 → Nat
  | [] => 0
  | b :: bs => b.toNat + 256 * ofLittleEndian bs

/-- A whole number in four bytes; negative numbers are in two's complement. -/
def int32 (n : Int) : List UInt8 := littleEndian 4 (n % 4294967296).toNat

/-- A length in four bytes; one that does not fit becomes the greatest that does. -/
def length32 (n : Nat) : List UInt8 := int32 (min n 2147483647)

/-- The whole number in two's complement with four bytes. -/
def ofInt32 (bs : List UInt8) : Int :=
  let n := ofLittleEndian bs
  if n < 2147483648 then n else (n : Int) - 4294967296

/-- The bits of a binary64 number in eight bytes. -/
def bits64 (bits : UInt64) : List UInt8 := littleEndian 8 bits.toNat

/-- A binary64 number in eight bytes. -/
def float64 (x : Float) : List UInt8 := bits64 x.toBits

/-- The longest start of whole characters that fits, filled up with spaces. -/
def padded (n : Nat) (s : String) : List UInt8 :=
  let bs := Text.bytes (Text.cutBytes n s)
  bs ++ List.replicate (n - bs.length) 32

/-- The missing value: the least finite number. -/
def missingNumber : Float := Float.ofBits 0xffefffffffffffff

/-- The greatest finite number. -/
def highestNumber : Float := Float.ofBits 0x7fefffffffffffff

/-- The least number that is not the missing value. -/
def lowestNumber : Float := Float.ofBits 0xffeffffffffffffe

/-- So many bytes are written as asked for. -/
@[simp] theorem length_littleEndian (width n : Nat) : (littleEndian width n).length = width := by
  induction width generalizing n with
  | zero => rfl
  | succ width ih => simp [littleEndian, ih]

/-- A number is read back from its bytes, up to the bytes that are left out. -/
theorem ofLittleEndian_littleEndian (width n : Nat) :
    ofLittleEndian (littleEndian width n) = n % Nat.pow 256 width := by
  induction width generalizing n with
  | zero => simp [littleEndian, ofLittleEndian, Nat.mod_one]
  | succ width ih =>
    have h : n % 256 % 256 = n % 256 := Nat.mod_mod _ _
    simp only [littleEndian, ofLittleEndian, ih, UInt8.toNat_ofNat', Nat.reducePow, h]
    rw [Nat.pow_eq, Nat.pow_eq, Nat.pow_succ', Nat.mod_mul]

/-- A whole number takes four bytes. -/
@[simp] theorem length_int32 (n : Int) : (int32 n).length = 4 := length_littleEndian _ _

/-- A length takes four bytes. -/
@[simp] theorem length_length32 (n : Nat) : (length32 n).length = 4 := length_int32 _

/-- A binary64 number takes eight bytes. -/
@[simp] theorem length_float64 (x : Float) : (float64 x).length = 8 := length_littleEndian _ _

end SurveyExport.SystemFile
