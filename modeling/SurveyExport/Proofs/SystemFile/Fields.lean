import Mathlib.Data.List.DropRight
import SurveyExport.Proofs.Decimal.Bits
import SurveyExport.Proofs.Text.Boundary
import SurveyExport.SystemFile.Draft
import SurveyExport.SystemFile.Header

/-!
# The fields of a system file

What is read back from a field. Whole numbers that four bytes hold come back unchanged. A text comes
back as its longest start of whole characters that fits the field, up to the spaces at its end:
fields are filled up with spaces, so those of the text cannot be told from the others.

* `ofInt32_int32`, `ofInt32_length32`: whole numbers are read back;
* `FillsField`, `exists_fillsField_padded`: a filled-up text has its length and is a text again;
* `HoldsText`, `holdsText_padded`: what a filled-up text holds;
* `slice_flatten`: a part is found after the parts before it;
* `length_headerBytes`, `ofBytes_headerFront`: how long the header is, and what it says.
-/

namespace SurveyExport.SystemFile

/-! ### Numbers -/

/-- **A whole number that four bytes hold is read back.** -/
theorem ofInt32_int32 {n : Int} (hl : -2147483648 ≤ n) (hu : n < 2147483648) :
    ofInt32 (int32 n) = n := by
  have hpow : Nat.pow 256 4 = 4294967296 := rfl
  simp only [ofInt32, int32, ofLittleEndian_littleEndian, hpow]
  split <;> omega

/-- A length that four bytes hold is written as it is. -/
theorem length32_eq {n : Nat} (h : n < 2147483648) : length32 n = int32 n :=
  congrArg int32 (Int.min_eq_left (show (n : Int) ≤ 2147483647 by omega))

/-- A length that four bytes hold is read back. -/
theorem ofInt32_length32 {n : Nat} (h : n < 2147483648) : ofInt32 (length32 n) = n := by
  rw [length32_eq h, ofInt32_int32] <;> omega

/-- The bits of a number take eight bytes. -/
@[simp] theorem length_bits64 (b : UInt64) : (bits64 b).length = 8 := length_littleEndian _ _

/-- The bits of the missing value. -/
def missingBits : UInt64 := 0xffefffffffffffff

/-- The missing value is what stands for it. -/
theorem toBits_missingNumber : missingNumber.toBits = missingBits :=
  Binary64.toBits_ofBits (by decide)

/-! ### Texts -/

/-- Bytes without the spaces at their end. -/
def trimmed (bs : List UInt8) : List UInt8 := bs.rdropWhile (· == 32)

/-- Spaces at the end do not count. -/
@[simp] theorem trimmed_append_replicate (bs : List UInt8) (k : Nat) :
    trimmed (bs ++ List.replicate k 32) = trimmed bs := by
  induction k with
  | zero => simp
  | succ k ih =>
    rw [List.replicate_succ', ← List.append_assoc, trimmed,
      List.rdropWhile_concat_pos _ _ _ (by rfl)]
    exact ih

/-- The bytes are a text cut to `n` bytes, but for spaces at the end. -/
def HoldsText (n : Nat) (s : String) (bs : List UInt8) : Prop :=
  ∃ p, Text.LongestFit n s p ∧ trimmed bs = trimmed (Text.bytes p)

/-- A filled-up text has the length asked for. -/
@[simp] theorem length_padded (n : Nat) (s : String) : (padded n s).length = n :=
  length_padded_of_le (by rw [Text.length_bytes]; exact (Text.longestFit_cutBytes n s).fits)

/-- A field of `n` bytes is filled with what is kept of a text. -/
structure FillsField (n : Nat) (s kept : String) (field : List UInt8) : Prop where
  /-- There are as many bytes as asked for. -/
  length_eq : field.length = n
  /-- The longest start of whole characters that fits is kept. -/
  longest : Text.LongestFit n s kept
  /-- Spaces stand behind it, and nothing else. -/
  eq_append : field = Text.bytes kept ++ List.replicate (n - kept.utf8ByteSize) 32
  /-- The bytes are UTF-8: they are read as what is kept and spaces. -/
  isText : String.fromUTF8? ⟨field.toArray⟩ =
    some (kept ++ String.ofList (List.replicate (n - kept.utf8ByteSize) ' '))
  /-- The end of what is kept is found by going back, from the end of the text or of the field, to
  a place where the bytes of the text can be parted. -/
  found : Text.bytes kept =
    (Text.bytes s).take (Text.lastBoundary (Text.bytes s) (min s.utf8ByteSize n))

/-- **No character is split in a filled-up text**, which has the length asked for and is a text. -/
theorem exists_fillsField_padded (n : Nat) (s : String) :
    ∃ kept, FillsField n s kept (padded n s) := by
  have hpadded : padded n s = Text.bytes (Text.cutBytes n s) ++
      List.replicate (n - (Text.cutBytes n s).utf8ByteSize) 32 := by
    rw [← Text.length_bytes]
    rfl
  refine ⟨Text.cutBytes n s, length_padded n s, Text.longestFit_cutBytes n s, hpadded, ?_,
    (Text.take_lastBoundary n s).symm⟩
  rw [hpadded, Text.bytes_eq_encode, ← Text.encode_replicate_space, ← Text.encode_append,
    Text.fromUTF8?_encode, String.ofList_append, String.ofList_toList]

example : padded 2 "héllo" = [104, 32] := by decide +kernel

/-- **A filled-up text holds the text.** -/
theorem holdsText_padded (n : Nat) (s : String) : HoldsText n s (padded n s) :=
  ⟨Text.cutBytes n s, Text.longestFit_cutBytes n s, trimmed_append_replicate _ _⟩

theorem length_padded_min_le (n : Nat) (s : String) :
    (padded (min s.utf8ByteSize n) s).length ≤ n := by
  rw [length_padded]
  exact Nat.min_le_right _ _

/-- A text that is filled up to its own length, or to `n` bytes if it is longer, holds the text. -/
theorem holdsText_padded_min (n : Nat) (s : String) :
    HoldsText n s (padded (min s.utf8ByteSize n) s) :=
  ⟨_, Text.longestFit_cutBytes_min n s, trimmed_append_replicate _ _⟩

/-- Spaces may be added. -/
theorem HoldsText.append_replicate {n : Nat} {s : String} {bs : List UInt8} (h : HoldsText n s bs)
    (k : Nat) : HoldsText n s (bs ++ List.replicate k 32) := by
  obtain ⟨p, hp, hbs⟩ := h
  exact ⟨p, hp, by rw [trimmed_append_replicate, hbs]⟩

/-! ### Segments -/

@[simp] theorem caseSegments_nil : caseSegments [] = 0 := rfl

@[simp] theorem caseSegments_cons (v : Variable) (vars : List Variable) :
    caseSegments (v :: vars) = v.type.segments + caseSegments vars := rfl

@[simp] theorem caseSegments_append (vars vars' : List Variable) :
    caseSegments (vars ++ vars') = caseSegments vars + caseSegments vars' := by
  induction vars with
  | nil => simp
  | cons v vars ih => simp [ih, Nat.add_assoc]

/-! ### Places -/

open Header (slice intAt)

/-- A part is found after the lengths of the parts before it. -/
theorem slice_flatten {parts : List (List UInt8)} {i start length : Nat} {part : List UInt8}
    (h : parts[i]? = some part) (hstart : (parts.take i).flatten.length = start)
    (hlength : part.length = length) : slice parts.flatten start length = part := by
  subst hstart hlength
  obtain ⟨hi, rfl⟩ := List.getElem?_eq_some_iff.mp h
  have hparts : parts.flatten =
      (parts.take i).flatten ++ (parts[i] ++ (parts.drop (i + 1)).flatten) := by
    rw [← List.flatten_cons, ← List.drop_eq_getElem_cons hi, ← List.flatten_append,
      List.take_append_drop]
  rw [hparts, slice, List.drop_left, List.take_left]

/-- A part of what stands at a place is found from there. -/
theorem slice_slice {bs : List UInt8} {start length start' length' : Nat}
    (h : start' + length' ≤ length) :
    slice (slice bs start length) start' length' = slice bs (start + start') length' := by
  simp only [slice, List.drop_take, List.drop_drop, List.take_take]
  rw [Nat.min_eq_left (by omega)]

/-- What stands behind a front part is found after its length. -/
theorem slice_append_right (as bs : List UInt8) (start length : Nat) :
    slice (as ++ bs) (as.length + start) length = slice bs start length := by
  rw [slice, ← List.drop_drop, List.drop_left, slice]

/-! ### The header -/

/-- **The header has 176 bytes.** -/
theorem length_headerBytes (info : FileInfo) (segments : Nat) :
    (headerBytes info segments).length = headerLength := by
  simp [headerBytes, headerFront, magic, headerLength]

@[simp] theorem length_headerFront (segments : Nat) :
    (headerFront segments).length = countOffset := by
  simp [headerFront, magic, countOffset]

/-- The number of cases stands after the front of a header. -/
theorem take_headerBytes (info : FileInfo) (segments : Nat) (rest : List UInt8) :
    (headerBytes info segments ++ rest).take countOffset = headerFront segments := by
  simp only [headerBytes, List.append_assoc]
  exact List.take_left' (length_headerFront segments)

/-- The mark, the layout and the number of segments stand at their places in the front. -/
theorem headerFront_places {segments : Nat} (h : segments < 2147483648) (rest : List UInt8) :
    slice (headerFront segments ++ rest) 0 4 = magic ∧
      intAt (headerFront segments ++ rest) 64 = 2 ∧
      intAt (headerFront segments ++ rest) 68 = segments := by
  let parts := [magic, padded 60 product, int32 2, length32 segments, int32 0, int32 0, rest]
  have hparts : headerFront segments ++ rest = parts.flatten := by simp [headerFront, parts]
  have hmagic : slice parts.flatten 0 4 = magic := slice_flatten (i := 0) rfl rfl rfl
  have hlayout : slice parts.flatten 64 4 = int32 2 :=
    slice_flatten (i := 2) rfl (by simp [parts, magic]) rfl
  have hsize : slice parts.flatten 68 4 = length32 segments :=
    slice_flatten (i := 3) rfl (by simp [parts, magic]) (length_length32 _)
  rw [hparts, intAt, intAt, hlayout, hsize]
  exact ⟨hmagic, by decide, ofInt32_length32 h⟩

/-- **A header is read** with its number of segments, and the number of cases put in. -/
theorem ofBytes_headerFront {segments cases : Nat} {rest : List UInt8}
    (hs : segments < 2147483648) (hc : cases < 2147483648)
    (hrest : headerLength ≤ countOffset + 4 + rest.length) :
    ∃ h, Header.ofBytes (headerFront segments ++ int32 cases ++ rest) = .ok h ∧
      h.caseSize = segments ∧ h.cases = some cases := by
  obtain ⟨hmagic, hlayout, hsize⟩ := headerFront_places hs (int32 cases ++ rest)
  have hcases : intAt (headerFront segments ++ (int32 cases ++ rest)) countOffset = cases := by
    have h := slice_append_right (headerFront segments) (int32 cases ++ rest) 0 4
    rw [length_headerFront, Nat.add_zero] at h
    rw [intAt, h, slice, List.drop_zero, List.take_left' (length_int32 _)]
    exact ofInt32_int32 (by omega) (by omega)
  have hlength : ¬ (headerFront segments ++ (int32 cases ++ rest)).length < headerLength := by
    simp only [List.length_append, length_headerFront, length_int32]
    omega
  rw [List.append_assoc, Header.ofBytes, if_neg hlength, hmagic, hlayout, hsize, hcases,
    if_neg (not_not_intro rfl), if_neg (not_not_intro rfl), if_neg (by omega)]
  exact ⟨_, rfl, Int.toNat_natCast _, congrArg some (Int.toNat_natCast _)⟩

/-! ### A new draft -/

/-- A draft is begun just if there are variables and none is at fault. -/
theorem start_eq_ok_iff {info : FileInfo} {vars : List Variable} {d : Draft} :
    Draft.start info vars = .ok d ↔
      vars ≠ [] ∧ checkVariables [] vars = .ok () ∧
        d = ⟨vars, dictionaryBytes info vars (shortNames (vars.map (·.name))), [], 0⟩ := by
  rw [Draft.start]
  cases vars with
  | nil => simp
  | cons v vars =>
    cases h : checkVariables [] (v :: vars) with
    | error fault => simp [bind, Except.bind]
    | ok _ => simp [bind, Except.bind, pure, Except.pure, eq_comm]

/-- A dictionary begins with its header. -/
theorem exists_dictionaryBytes (info : FileInfo) (vars : List Variable) (shorts : List String) :
    ∃ rest, dictionaryBytes info vars shorts = headerBytes info (caseSegments vars) ++ rest := by
  simp only [dictionaryBytes, List.append_assoc]
  exact ⟨_, rfl⟩

end SurveyExport.SystemFile
