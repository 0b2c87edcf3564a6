import SurveyExport.Text.Utf8

/-!
# Texts cut to a number of bytes

A cut is specified without saying how it is found: among the starts of the text that consist of
whole characters and fit, it is the one that all others are starts of. There is exactly one such
start, and `cutBytes` is it. Lengths are those of the UTF-8 form, so that a cut can be laid out in a
field of bytes.

* `Text.LongestFit`, `Text.longestFit_cutBytes`, `Text.LongestFit.eq_cutBytes`: the cut, and that
  nothing else is one;
* `Text.length_bytes`: a text takes as many bytes as its characters do.
-/

namespace SurveyExport.Text

/-! ### The bytes of a text -/

/-- The loop behind the bytes of an array lists those from a place on after those it has. -/
private theorem toList_loop_eq (bs : ByteArray) (i : Nat) (r : List UInt8) :
    ByteArray.toList.loop bs i r = r.reverse ++ bs.data.toList.drop i := by
  fun_induction ByteArray.toList.loop bs i r with
  | case1 i r hi ih =>
    have hi' : i < bs.data.toList.length := by simpa using hi
    rw [ih, List.drop_eq_getElem_cons hi', List.reverse_cons, List.append_assoc,
      List.singleton_append, Array.getElem_toList]
    congr 2
    exact getElem!_pos bs.data i hi
  | case2 i r hi =>
    have hi' : bs.data.toList.length ≤ i := by simpa using hi
    rw [List.drop_eq_nil_of_le hi', List.append_nil]

/-- The bytes of a text are those of its characters, one after the other. -/
theorem bytes_ofList (cs : List Char) :
    bytes (String.ofList cs) = cs.flatMap String.utf8EncodeChar := by
  rw [bytes, String.toUTF8, String.toByteArray_ofList, ByteArray.toList, toList_loop_eq]
  simp [List.utf8Encode]

/-- The characters count as many bytes as the text takes. -/
theorem byteLength_toList (s : String) : byteLength s.toList = s.utf8ByteSize := by
  have h (cs : List Char) : byteLength cs = (String.ofList cs).utf8ByteSize := by
    induction cs with
    | nil => rfl
    | cons c cs ih =>
      rw [byteLength, ih, ← List.singleton_append, String.ofList_append,
        String.utf8ByteSize_append, ← String.singleton_eq_ofList, String.utf8ByteSize_singleton]
  rw [h, String.ofList_toList]

/-- A text takes as many bytes as its size says. -/
@[simp] theorem length_bytes (s : String) : (bytes s).length = s.utf8ByteSize := by
  rw [← byteLength_toList, ← String.ofList_toList (s := s), bytes_ofList, String.toList_ofList]
  induction s.toList with
  | nil => rfl
  | cons c cs ih => simp [byteLength, ih]

/-- The bytes of two runs of characters add up. -/
theorem byteLength_append (cs ds : List Char) :
    byteLength (cs ++ ds) = byteLength cs + byteLength ds := by
  induction cs with
  | nil => simp [byteLength]
  | cons c cs ih => simp [byteLength, ih, Nat.add_assoc]

/-- A start of a text takes no more bytes than the text. -/
theorem utf8ByteSize_mono {p s : String} (h : p.toList <+: s.toList) :
    p.utf8ByteSize ≤ s.utf8ByteSize := by
  obtain ⟨rest, hrest⟩ := h
  rw [← byteLength_toList, ← byteLength_toList, ← hrest, byteLength_append]
  exact Nat.le_add_right _ _

/-- Characters of one byte each are as many as their bytes. -/
theorem byteLength_eq_length {cs : List Char} (h : ∀ c ∈ cs, c.utf8Size = 1) :
    byteLength cs = cs.length := by
  induction cs with
  | nil => rfl
  | cons c cs ih =>
    obtain ⟨hc, hcs⟩ := List.forall_mem_cons.1 h
    rw [byteLength, hc, ih hcs, List.length_cons, Nat.add_comm]

/-! ### The longest start that fits -/

/-- A text is the longest start of whole characters that takes at most `n` bytes. -/
structure LongestFit (n : Nat) (s p : String) : Prop where
  /-- It is a start of whole characters. -/
  front : p.toList <+: s.toList
  /-- It takes at most `n` bytes. -/
  fits : p.utf8ByteSize ≤ n
  /-- Every start that fits is a start of it. -/
  longest (q : String) : q.toList <+: s.toList → q.utf8ByteSize ≤ n → q.toList <+: p.toList

/-- What is kept is a start of the characters. -/
theorem fitting_prefix (n : Nat) (cs : List Char) : fitting n cs <+: cs :=
  ⟨_, fitting_append_drop n cs⟩

/-- What takes just as many bytes as fit is kept, whatever follows. -/
theorem fitting_append {n : Nat} {cs : List Char} (h : byteLength cs = n) (ds : List Char) :
    fitting n (cs ++ ds) = cs := by
  induction cs generalizing n with
  | nil =>
    obtain rfl : n = 0 := h.symm
    cases ds with
    | nil => rfl
    | cons d ds =>
      have hd := d.utf8Size_pos
      rw [List.nil_append, fitting, if_neg (by omega)]
  | cons c cs ih =>
    rw [byteLength] at h
    rw [List.cons_append, fitting, if_pos (by omega), ih (by omega)]

/-- A start of the characters that fits is a start of what is kept. -/
theorem prefix_fitting {n : Nat} {cs ds : List Char} (h : ds <+: cs) (hd : byteLength ds ≤ n) :
    ds <+: fitting n cs := by
  induction ds generalizing n cs with
  | nil => exact List.nil_prefix
  | cons d ds ih =>
    obtain ⟨es, rfl⟩ := h
    rw [byteLength] at hd
    rw [List.cons_append, fitting, if_pos (by omega)]
    exact List.cons_prefix_cons.mpr ⟨rfl, ih ⟨es, rfl⟩ (by omega)⟩

/-- **The cut of a text is its longest start that fits.** -/
theorem longestFit_cutBytes (n : Nat) (s : String) : LongestFit n s (cutBytes n s) where
  front := by
    rw [cutBytes, String.toList_ofList]
    exact fitting_prefix n s.toList
  fits := by
    rw [← byteLength_toList, cutBytes, String.toList_ofList]
    exact byteLength_fitting_le n s.toList
  longest q hq hfits := by
    rw [cutBytes, String.toList_ofList]
    exact prefix_fitting hq (by rwa [byteLength_toList])

/-- No other text is the longest start that fits. -/
theorem LongestFit.eq_cutBytes {n : Nat} {s p : String} (h : LongestFit n s p) :
    p = cutBytes n s := by
  have hcut := longestFit_cutBytes n s
  have hp := hcut.longest p h.front h.fits
  have hc := h.longest _ hcut.front hcut.fits
  exact String.toList_inj.mp (hp.eq_of_length (Nat.le_antisymm hp.length_le hc.length_le))

/-- A bound that the text itself keeps may be added to the one that cuts. -/
theorem longestFit_cutBytes_min (n : Nat) (s : String) :
    LongestFit n s (cutBytes (min s.utf8ByteSize n) s) := by
  have hcut := longestFit_cutBytes (min s.utf8ByteSize n) s
  refine ⟨hcut.front, Nat.le_trans hcut.fits (Nat.min_le_right _ _), fun q hq hfits ↦ ?_⟩
  exact hcut.longest q hq (Nat.le_min.mpr ⟨utf8ByteSize_mono hq, hfits⟩)

end SurveyExport.Text
