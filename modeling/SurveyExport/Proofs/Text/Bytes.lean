import SurveyExport.Proofs.Text.Cut

/-!
# Bytes below 128

In the bytes of a text a byte below 128 stands for a character of its own, wherever it occurs
(`Text.eq_of_mem_utf8EncodeChar`). So a file can be cut at such a byte without decoding it, and
the pieces are again the bytes of texts.
-/

namespace SurveyExport.Text

/-- The bytes of characters. -/
def encode (cs : List Char) : List UInt8 := cs.flatMap String.utf8EncodeChar

@[simp] theorem encode_nil : encode [] = [] := rfl

@[simp] theorem encode_cons (c : Char) (cs : List Char) :
    encode (c :: cs) = String.utf8EncodeChar c ++ encode cs := List.flatMap_cons

@[simp] theorem encode_append (cs ds : List Char) : encode (cs ++ ds) = encode cs ++ encode ds :=
  List.flatMap_append

theorem encode_replicate_space (k : Nat) : encode (List.replicate k ' ') = List.replicate k 32 := by
  induction k with
  | zero => rfl
  | succ k ih => rw [List.replicate_succ, encode_cons, ih]; rfl

theorem encode_eq_nil_iff {cs : List Char} : encode cs = [] ↔ cs = [] := by
  cases cs with
  | nil => simp
  | cons c cs => simp [String.utf8EncodeChar_ne_nil]

theorem bytes_eq_encode (s : String) : bytes s = encode s.toList := by
  rw [← String.ofList_toList (s := s), bytes_ofList, String.toList_ofList]
  rfl

/-- The bytes of a text are read as that text. -/
theorem fromUTF8?_encode (cs : List Char) :
    String.fromUTF8? ⟨(encode cs).toArray⟩ = some (String.ofList cs) := by
  have hbytes : (⟨(encode cs).toArray⟩ : ByteArray) = (String.ofList cs).toByteArray := by
    rw [String.toByteArray_ofList, List.utf8Encode]
    ext : 1
    simp [encode]
  rw [hbytes, String.fromUTF8?, dif_pos (String.ofList cs).isValidUTF8]
  rfl

theorem utf8EncodeChar_of_lt {c : Char} (h : c.toNat < 128) :
    String.utf8EncodeChar c = [UInt8.ofNat c.toNat] := by
  have hc : c.val.toNat ≤ 127 := Nat.le_of_lt_succ h
  simp only [String.utf8EncodeChar, if_pos hc]
  rfl

/-- A character from 128 on has no byte below 128. -/
theorem le_of_mem_utf8EncodeChar {c : Char} (h : 128 ≤ c.toNat) {b : UInt8}
    (hb : b ∈ String.utf8EncodeChar c) : 128 ≤ b.toNat := by
  have hc : ¬ c.val.toNat ≤ 127 := Nat.not_le.2 h
  simp only [String.utf8EncodeChar, if_neg hc] at hb
  split at hb
  · simp only [List.mem_cons, List.not_mem_nil, or_false] at hb
    rcases hb with rfl | rfl <;> rw [UInt8.toNat_ofNat'] <;> omega
  · split at hb
    · simp only [List.mem_cons, List.not_mem_nil, or_false] at hb
      rcases hb with rfl | rfl | rfl <;> rw [UInt8.toNat_ofNat'] <;> omega
    · simp only [List.mem_cons, List.not_mem_nil, or_false] at hb
      rcases hb with rfl | rfl | rfl | rfl <;> rw [UInt8.toNat_ofNat'] <;> omega

/-- A byte below 128 is all of its character. -/
theorem eq_of_mem_utf8EncodeChar {c : Char} {b : UInt8} (hb : b ∈ String.utf8EncodeChar c)
    (hlt : b.toNat < 128) : c = Char.ofNat b.toNat ∧ String.utf8EncodeChar c = [b] := by
  have hc : c.toNat < 128 := Nat.lt_of_not_le fun hc ↦
    Nat.not_le.2 hlt (le_of_mem_utf8EncodeChar hc hb)
  rw [utf8EncodeChar_of_lt hc] at hb ⊢
  obtain rfl := List.mem_singleton.1 hb
  have hcode : (UInt8.ofNat c.toNat).toNat = c.toNat := by
    rw [UInt8.toNat_ofNat']
    omega
  exact ⟨by rw [hcode, Char.ofNat_toNat], rfl⟩

/-- If the first byte of a text is below 128, it is the first character. -/
theorem eq_of_encode_eq_cons {c : Char} {cs : List Char} {b : UInt8} {bs : List UInt8}
    (h : encode (c :: cs) = b :: bs) (hlt : b.toNat < 128) : c = Char.ofNat b.toNat := by
  obtain ⟨d, ds, hd⟩ := List.exists_cons_of_ne_nil (String.utf8EncodeChar_ne_nil (c := c))
  rw [encode_cons, hd, List.cons_append] at h
  have hmem : b ∈ String.utf8EncodeChar c := by
    rw [hd, (List.cons.inj h).1]
    exact List.mem_cons_self
  exact (eq_of_mem_utf8EncodeChar hmem hlt).1

/-- If the last byte of a text is below 128, it is the last character. -/
theorem eq_of_reverse_encode_eq_cons {c : Char} {cs : List Char} {b : UInt8} {bs : List UInt8}
    (h : (encode (cs ++ [c])).reverse = b :: bs) (hlt : b.toNat < 128) :
    c = Char.ofNat b.toNat := by
  obtain ⟨d, ds, hd⟩ := List.exists_cons_of_ne_nil
    (mt List.reverse_eq_nil_iff.1 (String.utf8EncodeChar_ne_nil (c := c)))
  rw [encode_append, encode_cons, encode_nil, List.append_nil, List.reverse_append, hd,
    List.cons_append] at h
  have hmem : b ∈ String.utf8EncodeChar c := by
    rw [← List.mem_reverse, hd, (List.cons.inj h).1]
    exact List.mem_cons_self
  exact (eq_of_mem_utf8EncodeChar hmem hlt).1

end SurveyExport.Text
