/-!
# Characters as bytes

Names and cells of a system file have a length in bytes of UTF-8. Cutting never splits a
character: `fitting n cs` is the longest run of whole characters at the front of `cs` that takes
at most `n` bytes. Bytes are read back leniently by `decodeLossy`, where each maximal ill-formed
piece becomes one U+FFFD.

* `byteLength_fitting_le`, `fitting_eq_self`, `fitting_append_drop`: what `fitting` keeps.
-/

namespace SurveyExport.Text

/-- The number of bytes of the characters. -/
def byteLength : List Char → Nat
  | [] => 0
  | c :: cs => c.utf8Size + byteLength cs

/-- The longest run of whole characters at the front that takes at most `n` bytes. -/
def fitting (n : Nat) : List Char → List Char
  | [] => []
  | c :: cs => if c.utf8Size ≤ n then c :: fitting (n - c.utf8Size) cs else []

/-- The longest whole-character start of a text that takes at most `n` bytes. -/
def cutBytes (n : Nat) (s : String) : String := String.ofList (fitting n s.toList)

/-- The bytes of a text. -/
def bytes (s : String) : List UInt8 := s.toUTF8.toList

/-- What is cut off fits. -/
theorem byteLength_fitting_le (n : Nat) (cs : List Char) : byteLength (fitting n cs) ≤ n := by
  induction cs generalizing n with
  | nil => simp [fitting, byteLength]
  | cons c cs ih =>
    simp only [fitting]
    split
    · have := ih (n - c.utf8Size)
      simp only [byteLength]
      omega
    · simp [byteLength]

/-- What fits is not cut. -/
theorem fitting_eq_self {n : Nat} {cs : List Char} (h : byteLength cs ≤ n) : fitting n cs = cs := by
  induction cs generalizing n with
  | nil => rfl
  | cons c cs ih =>
    simp only [byteLength] at h
    rw [fitting, if_pos (by omega), ih (by omega)]

/-- What is kept stands at the front of the text. -/
theorem fitting_append_drop (n : Nat) (cs : List Char) :
    fitting n cs ++ cs.drop (fitting n cs).length = cs := by
  induction cs generalizing n with
  | nil => rfl
  | cons c cs ih =>
    simp only [fitting]
    split
    · simp [ih]
    · simp

/-- A character whose first bytes have been read. -/
structure Unfinished where
  /-- The bits read so far. -/
  code : Nat
  /-- How many bytes are missing. -/
  missing : Nat
  /-- The least value the next byte may have. -/
  least : UInt8
  /-- The greatest value the next byte may have. -/
  greatest : UInt8

/-- The mark that stands for bytes that are not UTF-8. -/
def replacement : Char := '\uFFFD'

/-- Reads the first byte of a character: what is decided at once, and what is begun. -/
def decodeLead (b : UInt8) : List Char × Option Unfinished :=
  let n := b.toNat
  if n < 0x80 then ([Char.ofNat n], none)
  else if 0xC2 ≤ n && n ≤ 0xDF then ([], some ⟨n - 0xC0, 1, 0x80, 0xBF⟩)
  else if n == 0xE0 then ([], some ⟨0, 2, 0xA0, 0xBF⟩)
  else if n == 0xED then ([], some ⟨0xD, 2, 0x80, 0x9F⟩)
  else if 0xE1 ≤ n && n ≤ 0xEF then ([], some ⟨n - 0xE0, 2, 0x80, 0xBF⟩)
  else if n == 0xF0 then ([], some ⟨0, 3, 0x90, 0xBF⟩)
  else if 0xF1 ≤ n && n ≤ 0xF3 then ([], some ⟨n - 0xF0, 3, 0x80, 0xBF⟩)
  else if n == 0xF4 then ([], some ⟨4, 3, 0x80, 0x8F⟩)
  else ([replacement], none)

/-- Reads bytes after the given unfinished character. -/
def decodeLossyFrom : Option Unfinished → List UInt8 → List Char
  | none, [] => []
  | some _, [] => [replacement]
  | none, b :: bs => (decodeLead b).1 ++ decodeLossyFrom (decodeLead b).2 bs
  | some u, b :: bs =>
    if u.least ≤ b && b ≤ u.greatest then
      let code := u.code * 64 + (b.toNat - 0x80)
      if u.missing ≤ 1 then Char.ofNat code :: decodeLossyFrom none bs
      else decodeLossyFrom (some ⟨code, u.missing - 1, 0x80, 0xBF⟩) bs
    else replacement :: ((decodeLead b).1 ++ decodeLossyFrom (decodeLead b).2 bs)

/-- The text that bytes hold; each maximal ill-formed piece becomes one U+FFFD. -/
def decodeLossy (bs : List UInt8) : String := String.ofList (decodeLossyFrom none bs)

end SurveyExport.Text
