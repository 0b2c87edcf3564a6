import SurveyExport.Proofs.Text.Bytes

/-!
# Where the bytes of a text can be parted

The bytes of a text can be parted in front of each byte that begins a character, and at their end;
everywhere else they would fall into pieces that are no texts. So a text can be cut without looking
at its characters: from the greatest length allowed one goes back, byte by byte, to a place where
the bytes can be parted.

* `isBoundary_encode_iff`: these places are the ends of whole characters, whatever the lengths of
  the characters are;
* `lastBoundary_spec`: the search ends at the last such place that is allowed;
* `take_lastBoundary`: what it keeps is the cut of the text, its longest start of whole characters
  that fits.
-/

namespace SurveyExport.Text

/-- Whether a byte goes on with a character that a byte before it has begun. -/
def isContinuation (b : UInt8) : Bool := 0x80 ≤ b && b ≤ 0xBF

/-- Whether a byte that begins a character stands at a place, or the bytes end there. -/
def beginsAt (bs : List UInt8) (i : Nat) : Bool :=
  match bs[i]? with
  | some b => !isContinuation b
  | none => i == bs.length

/-- Whether the bytes of a text can be parted after so many of them. -/
def isBoundary (bs : List UInt8) (i : Nat) : Bool := i == 0 || beginsAt bs i

/-- The last place, from the given one back, where the bytes of a text can be parted. -/
def lastBoundary (bs : List UInt8) : Nat → Nat
  | 0 => 0
  | i + 1 => if isBoundary bs (i + 1) then i + 1 else lastBoundary bs i

/-! ### The search -/

/-- The search goes back to a boundary, and there is none on the way. -/
theorem lastBoundary_spec (bs : List UInt8) (i : Nat) :
    lastBoundary bs i ≤ i ∧ isBoundary bs (lastBoundary bs i) = true ∧
      ∀ j ≤ i, isBoundary bs j = true → j ≤ lastBoundary bs i := by
  induction i with
  | zero => exact ⟨Nat.le_refl 0, rfl, fun j hj _ ↦ hj⟩
  | succ i ih =>
    rw [lastBoundary]
    split
    · rename_i hi
      exact ⟨Nat.le_refl _, hi, fun j hj _ ↦ hj⟩
    · rename_i hi
      obtain ⟨hle, hboundary, hlast⟩ := ih
      refine ⟨Nat.le_succ_of_le hle, hboundary, fun j hj hjb ↦ ?_⟩
      rcases Nat.le_succ_iff.1 hj with hj | rfl
      · exact hlast j hj hjb
      · exact absurd hjb hi

/-! ### Boundaries in the bytes of characters -/

theorem isContinuation_ofNat {n : Nat} (hn : n < 256) :
    isContinuation (UInt8.ofNat n) = true ↔ 128 ≤ n ∧ n ≤ 191 := by
  rw [isContinuation, Bool.and_eq_true, decide_eq_true_eq, decide_eq_true_eq,
    UInt8.le_iff_toNat_le, UInt8.le_iff_toNat_le, UInt8.toNat_ofNat_of_lt' hn]
  rfl

/-- The first byte of a character begins it, and all others go on with it. -/
theorem exists_utf8EncodeChar_eq_cons (c : Char) : ∃ b bs, String.utf8EncodeChar c = b :: bs ∧
    isContinuation b = false ∧ ∀ b' ∈ bs, isContinuation b' = true := by
  have hlead : ∀ n, n < 128 ∨ 192 ≤ n → n < 256 → isContinuation (UInt8.ofNat n) = false := by
    intro n hn hlt
    rw [← Bool.not_eq_true, isContinuation_ofNat hlt]
    omega
  have hrest : ∀ n, isContinuation (UInt8.ofNat (n % 64 + 128)) = true := by
    intro n
    rw [isContinuation_ofNat (by omega)]
    omega
  simp only [String.utf8EncodeChar]
  split
  · exact ⟨_, [], rfl, hlead _ (by omega) (by omega), List.forall_mem_nil _⟩
  · split
    · exact ⟨_, [_], rfl, hlead _ (by omega) (by omega), List.forall_mem_singleton.2 (hrest _)⟩
    · split
      · exact ⟨_, [_, _], rfl, hlead _ (by omega) (by omega),
          List.forall_mem_cons.2 ⟨hrest _, List.forall_mem_singleton.2 (hrest _)⟩⟩
      · exact ⟨_, [_, _, _], rfl, hlead _ (by omega) (by omega), List.forall_mem_cons.2 ⟨hrest _,
          List.forall_mem_cons.2 ⟨hrest _, List.forall_mem_singleton.2 (hrest _)⟩⟩⟩

/-- The bytes of characters begin with one that begins a character, if there are any. -/
theorem beginsAt_zero (cs : List Char) : beginsAt (encode cs) 0 = true := by
  cases cs with
  | nil => rfl
  | cons c cs =>
    obtain ⟨b, bs, hc, hb, -⟩ := exists_utf8EncodeChar_eq_cons c
    simp [beginsAt, hc, hb]

/-- No character begins inside the first one. -/
theorem beginsAt_encode_cons_of_lt (c : Char) (cs : List Char) {i : Nat}
    (h : i + 1 < c.utf8Size) : beginsAt (encode (c :: cs)) (i + 1) = false := by
  obtain ⟨b, bs, hc, -, hbs⟩ := exists_utf8EncodeChar_eq_cons c
  have hi : i < bs.length := by
    rw [← String.length_utf8EncodeChar, hc, List.length_cons] at h
    omega
  have hbyte : (encode (c :: cs))[i + 1]? = some bs[i] := by
    rw [encode_cons, hc, List.cons_append, List.getElem?_cons_succ,
      List.getElem?_append_left hi, List.getElem?_eq_getElem hi]
  rw [beginsAt, hbyte]
  simp [hbs bs[i] (List.getElem_mem hi)]

/-- Behind the first character the others begin where they do on their own. -/
theorem beginsAt_encode_cons_add (c : Char) (cs : List Char) (j : Nat) :
    beginsAt (encode (c :: cs)) (c.utf8Size + j) = beginsAt (encode cs) j := by
  have hbyte : (encode (c :: cs))[c.utf8Size + j]? = (encode cs)[j]? := by
    rw [encode_cons, ← String.length_utf8EncodeChar c]
    rw [List.getElem?_append_right (Nat.le_add_right _ _), Nat.add_sub_cancel_left]
  have hend : (c.utf8Size + j == (encode (c :: cs)).length) = (j == (encode cs).length) := by
    rw [Bool.eq_iff_iff, beq_iff_eq, beq_iff_eq, encode_cons, List.length_append,
      String.length_utf8EncodeChar, Nat.add_left_cancel_iff]
  rw [beginsAt, beginsAt, hbyte, hend]

/-- A character begins just behind whole characters. -/
theorem beginsAt_encode_iff {cs : List Char} {i : Nat} :
    beginsAt (encode cs) i = true ↔ ∃ ds, ds <+: cs ∧ byteLength ds = i := by
  induction cs generalizing i with
  | nil =>
    change (i == 0) = true ↔ _
    rw [beq_iff_eq]
    constructor
    · rintro rfl
      exact ⟨[], List.nil_prefix, rfl⟩
    · rintro ⟨ds, hds, rfl⟩
      rw [List.prefix_nil.1 hds, byteLength]
  | cons c cs ih =>
    rcases Nat.lt_or_ge i c.utf8Size with hlt | hge
    · cases i with
      | zero => exact iff_of_true (beginsAt_zero _) ⟨[], List.nil_prefix, rfl⟩
      | succ i =>
        -- inside the first character
        rw [beginsAt_encode_cons_of_lt c cs hlt]
        refine iff_of_false Bool.false_ne_true ?_
        rintro ⟨ds, hds, hlength⟩
        cases ds with
        | nil => cases hlength
        | cons d ds =>
          obtain ⟨rfl, -⟩ := List.cons_prefix_cons.1 hds
          rw [byteLength] at hlength
          omega
    · -- behind it
      obtain ⟨j, rfl⟩ := Nat.exists_eq_add_of_le hge
      rw [beginsAt_encode_cons_add, ih]
      constructor
      · rintro ⟨ds, hds, rfl⟩
        exact ⟨c :: ds, List.cons_prefix_cons.2 ⟨rfl, hds⟩, rfl⟩
      · rintro ⟨ds, hds, hlength⟩
        cases ds with
        | nil =>
          have := c.utf8Size_pos
          rw [byteLength] at hlength
          omega
        | cons d ds =>
          obtain ⟨rfl, hds'⟩ := List.cons_prefix_cons.1 hds
          rw [byteLength] at hlength
          exact ⟨ds, hds', by omega⟩

/-- **The bytes of a text can be parted just behind whole characters.** -/
theorem isBoundary_encode_iff {cs : List Char} {i : Nat} :
    isBoundary (encode cs) i = true ↔ ∃ ds, ds <+: cs ∧ byteLength ds = i := by
  rw [isBoundary, Bool.or_eq_true, beq_iff_eq, beginsAt_encode_iff]
  refine or_iff_right_of_imp ?_
  rintro rfl
  exact ⟨[], List.nil_prefix, rfl⟩

/-! ### The cut -/

theorem length_encode (cs : List Char) : (encode cs).length = byteLength cs := by
  have h := length_bytes (String.ofList cs)
  rwa [bytes_eq_encode, ← byteLength_toList, String.toList_ofList] at h

/-- Of two starts, that with fewer bytes is a start of the other. -/
theorem prefix_of_byteLength_le {cs ds es : List Char} (hds : ds <+: cs) (hes : es <+: cs)
    (h : byteLength ds ≤ byteLength es) : ds <+: es := by
  rcases List.prefix_or_prefix_of_prefix hds hes with hsub | ⟨rest, rfl⟩
  · exact hsub
  · cases rest with
    | nil => simp
    | cons c rest =>
      have := c.utf8Size_pos
      rw [byteLength_append, byteLength] at h
      omega

/-- **Going back to a boundary cuts the text.** -/
theorem take_lastBoundary (n : Nat) (s : String) :
    (bytes s).take (lastBoundary (bytes s) (min s.utf8ByteSize n)) = bytes (cutBytes n s) := by
  obtain ⟨hle, hboundary, hlast⟩ := lastBoundary_spec (bytes s) (min s.utf8ByteSize n)
  rw [bytes_eq_encode s] at hboundary hlast hle ⊢
  obtain ⟨ds, hds, hlength⟩ := isBoundary_encode_iff.1 hboundary
  rw [← hlength] at hle hlast ⊢
  have hlongest : LongestFit n s (String.ofList ds) := by
    refine ⟨by rwa [String.toList_ofList], ?_, fun q hq hfits ↦ ?_⟩
    · rw [← byteLength_toList, String.toList_ofList]
      omega
    · have hq' := hlast _ (Nat.le_min.2 ⟨utf8ByteSize_mono hq, hfits⟩)
        (isBoundary_encode_iff.2 ⟨q.toList, hq, byteLength_toList q⟩)
      rw [String.toList_ofList]
      exact prefix_of_byteLength_le hq hds (by rwa [byteLength_toList])
  rw [← hlongest.eq_cutBytes, bytes_eq_encode, String.toList_ofList, ← length_encode]
  obtain ⟨rest, hrest⟩ := hds
  rw [← hrest, encode_append, List.take_left]

end SurveyExport.Text
