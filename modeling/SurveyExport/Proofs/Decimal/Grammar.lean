import SurveyExport.Proofs.Decimal.Decimals
import SurveyExport.Proofs.Decimal.Numerals

/-!
# The values that numerals spell

A numeral spells one rational number: its digits as a whole number, times the power of ten that its
exponent and the digits behind its point say. This module says so apart from reading
(`Numeral.Spells`), and proves that reading gives the number nearest to what is spelled.

* `Numeral.exists_spells`: what reads as a finite number spells a value;
* `Numeral.exists_readFloat?_of_spells`: what spells a value reads as the number nearest to it.
-/

namespace SurveyExport.Numeral

open Binary64 (IsStored rounded round?)

/-! ### Numerals -/

/-- Digits only. -/
def IsDigits (ds : List Char) : Prop := ∀ c ∈ ds, c.isDigit = true

/-- What may stand for a sign. -/
inductive SpellsSign : List Char → Bool → Prop
  | none : SpellsSign [] false
  | plus : SpellsSign ['+'] false
  | minus : SpellsSign ['-'] true

/-- What may stand for an exponent: nothing, or `e`, a sign and digits. -/
inductive SpellsExponent : List Char → ℤ → Prop
  | none : SpellsExponent [] 0
  | mark {c : Char} {sign ds : List Char} {negative : Bool} (hc : c = 'e' ∨ c = 'E')
      (hsign : SpellsSign sign negative) (hne : ds ≠ []) (hds : IsDigits ds) :
      SpellsExponent (c :: (sign ++ ds)) (if negative then -(ofDigits ds : ℤ) else ofDigits ds)

/-- What may stand for a magnitude: digits, before and behind a point if there is one, and an
exponent. -/
inductive SpellsMagnitude : List Char → ℚ → Prop
  | whole {ds cs : List Char} {e : ℤ} (hds : IsDigits ds) (hne : ds ≠ [])
      (he : SpellsExponent cs e) : SpellsMagnitude (ds ++ cs) (ofDigits ds * 10 ^ e)
  | point {ds fs cs : List Char} {e : ℤ} (hds : IsDigits ds) (hfs : IsDigits fs)
      (hne : ds ++ fs ≠ []) (he : SpellsExponent cs e) :
      SpellsMagnitude (ds ++ '.' :: (fs ++ cs)) (ofDigits (ds ++ fs) * 10 ^ (e - fs.length))

/-- A numeral spells a value: a sign and a magnitude. -/
inductive Spells : String → ℚ → Prop
  | intro {s : String} {sign cs : List Char} {negative : Bool} {v : ℚ}
      (hs : s.toList = sign ++ cs) (hsign : SpellsSign sign negative) (hcs : SpellsMagnitude cs v) :
      Spells s (if negative then -v else v)

/-! ### What is read spells a value -/

theorem spellsSign_readSign (cs : List Char) :
    ∃ sign, cs = sign ++ (readSign cs).2 ∧ SpellsSign sign (readSign cs).1 := by
  rw [readSign.eq_def]
  split
  · exact ⟨_, rfl, .plus⟩
  · exact ⟨_, rfl, .minus⟩
  · exact ⟨_, rfl, .none⟩

theorem isDigits_takeWhile (cs : List Char) : IsDigits (cs.takeWhile Char.isDigit) := fun _ hc ↦
  List.all_eq_true.1 List.all_takeWhile _ hc

theorem spellsExponent_of_readExponent? {cs : List Char} {e : ℤ}
    (h : readExponent? cs = some e) : SpellsExponent cs e := by
  rw [readExponent?.eq_def] at h
  split at h
  · obtain rfl := Option.some_inj.1 h
    exact .none
  · rename_i c cs
    obtain ⟨sign, hcs, hsign⟩ := spellsSign_readSign cs
    split at h
    · rename_i hc
      simp only [Bool.or_eq_true, decide_eq_true_eq] at hc
      simp only at h
      split at h
      · cases h
      · rename_i hdigits
        simp only [Bool.or_eq_true, not_or, Bool.not_eq_true', Bool.not_eq_false,
          List.isEmpty_iff] at hdigits
        obtain rfl := Option.some_inj.1 h
        have hspells := SpellsExponent.mark hc hsign hdigits.1 (List.all_eq_true.1 hdigits.2)
        rwa [← hcs] at hspells
    · cases h

/-- **What is read as a magnitude spells one**, and the number is the nearest. -/
theorem spellsMagnitude_of_readMagnitude? {cs : List Char} {x : Float}
    (h : readMagnitude? cs = some x) :
    ∃ v, SpellsMagnitude cs v ∧ IsStored x.toModel.unpack .positive (rounded v) := by
  have hcs := (List.takeWhile_append_dropWhile (p := Char.isDigit) (l := cs)).symm
  have hds := isDigits_takeWhile cs
  simp only [readMagnitude?] at h
  split at h
  · rename_i rest hpoint
    have hrest := (List.takeWhile_append_dropWhile (p := Char.isDigit) (l := rest)).symm
    split at h
    · cases h
    · rename_i hne
      obtain ⟨e, he, rfl⟩ := Option.map_eq_some_iff.1 h
      have hne' : cs.takeWhile Char.isDigit ++ rest.takeWhile Char.isDigit ≠ [] := by
        simpa [List.isEmpty_iff] using hne
      refine ⟨_, ?_, isStored_nearest _ _⟩
      rw [hpoint, hrest] at hcs
      have hspells := SpellsMagnitude.point hds (isDigits_takeWhile rest) hne'
        (spellsExponent_of_readExponent? he)
      rwa [← hcs] at hspells
  · split at h
    · cases h
    · rename_i hne
      obtain ⟨e, he, rfl⟩ := Option.map_eq_some_iff.1 h
      have hne' : cs.takeWhile Char.isDigit ≠ [] := by
        simpa [List.isEmpty_iff] using hne
      rw [List.append_nil, List.length_nil, Int.natCast_zero, sub_zero]
      refine ⟨_, ?_, isStored_nearest _ _⟩
      have hspells := SpellsMagnitude.whole hds hne' (spellsExponent_of_readExponent? he)
      rwa [← hcs] at hspells

theorem nonneg_of_spellsMagnitude {cs : List Char} {v : ℚ} (h : SpellsMagnitude cs v) : 0 ≤ v := by
  cases h <;> positivity

/-- The number of a sign and a magnitude. -/
theorem value?_signed {x : Float} {v : ℚ} (hv : 0 ≤ v)
    (h : IsStored x.toModel.unpack .positive (rounded v)) (negative : Bool) :
    (Binary64.ofFloat (if negative then -x else x)).value? =
      round? (if negative then -v else v) := by
  cases negative with
  | false => simpa using Binary64.value?_of_isStored_rounded hv h
  | true =>
    rw [if_pos rfl, if_pos rfl, Binary64.value?_of_isStored_rounded hv h.neg]
    rfl

/-- **What reads as a finite number spells a value.** -/
theorem exists_spells {s : String} {x : Float} (h : readFloat? s = some x)
    (hfinite : (Binary64.ofFloat x).isFinite = true) : ∃ q, Spells s q := by
  obtain ⟨sign, hcs, hsign⟩ := spellsSign_readSign s.toList
  simp only [readFloat?, Option.map_eq_some_iff] at h
  obtain ⟨y, hy, rfl⟩ := h
  split at hy
  · -- a word for an infinity
    obtain rfl := Option.some_inj.1 hy
    exfalso
    revert hfinite
    cases (readSign s.toList).1 <;> decide +kernel
  · obtain rfl := Option.some_inj.1 hy
    exfalso
    revert hfinite
    cases (readSign s.toList).1 <;> decide +kernel
  · obtain rfl := Option.some_inj.1 hy
    exfalso
    revert hfinite
    cases (readSign s.toList).1 <;> decide +kernel
  · obtain ⟨v, hv, -⟩ := spellsMagnitude_of_readMagnitude? hy
    exact ⟨_, .intro hcs hsign hv⟩

/-! ### What spells a value is read -/

/-- A list does not begin with a digit. -/
def EndsDigits (cs : List Char) : Prop := ∀ c ∈ cs.head?, c.isDigit = false

theorem takeWhile_isDigit_append {ds cs : List Char} (hds : IsDigits ds) (hcs : EndsDigits cs) :
    (ds ++ cs).takeWhile Char.isDigit = ds := by
  rw [List.takeWhile_append_of_pos hds]
  cases cs with
  | nil => exact List.append_nil ds
  | cons c cs => rw [List.takeWhile_cons_of_neg (by simp [hcs c rfl]), List.append_nil]

theorem dropWhile_isDigit_append {ds cs : List Char} (hds : IsDigits ds) (hcs : EndsDigits cs) :
    (ds ++ cs).dropWhile Char.isDigit = cs := by
  have hparts := @List.takeWhile_append_dropWhile _ Char.isDigit (ds ++ cs)
  rw [takeWhile_isDigit_append hds hcs] at hparts
  exact List.append_cancel_left hparts

theorem endsDigits_of_spellsExponent {cs : List Char} {e : ℤ} (h : SpellsExponent cs e) :
    EndsDigits cs := by
  cases h with
  | none => rintro c ⟨⟩
  | mark hc =>
    rintro c ⟨⟩
    rcases hc with rfl | rfl <;> decide

/-- A sign in front of what begins with none is read. -/
theorem readSign_append {sign cs : List Char} {negative : Bool} (h : SpellsSign sign negative)
    (hcs : ∀ c ∈ cs.head?, c ≠ '+' ∧ c ≠ '-') : readSign (sign ++ cs) = (negative, cs) := by
  cases h with
  | plus => rfl
  | minus => rfl
  | none =>
    rw [List.nil_append, readSign.eq_def]
    split
    · exact absurd rfl (hcs '+' rfl).1
    · exact absurd rfl (hcs '-' rfl).2
    · rfl

theorem readExponent?_of_spells {cs : List Char} {e : ℤ} (h : SpellsExponent cs e) :
    readExponent? cs = some e := by
  cases h with
  | none => rfl
  | @mark c sign ds negative hc hsign hne hds =>
    have hmark : (c = 'e' || c = 'E' : Bool) = true := by simpa using hc
    have hhead : ∀ c ∈ ds.head?, c ≠ '+' ∧ c ≠ '-' := by
      intro c hc
      have hdigit := hds c (List.mem_of_mem_head? hc)
      constructor <;> rintro rfl <;> exact absurd hdigit (by decide)
    have hdigits : (ds.isEmpty || !ds.all Char.isDigit) = false := by
      simp [hne, List.all_eq_true.2 hds]
    rw [readExponent?, if_pos hmark, readSign_append hsign hhead]
    simp only [hdigits]
    rfl

/-- **What spells a magnitude is read as the nearest number.** -/
theorem readMagnitude?_of_spells {cs : List Char} {v : ℚ} (h : SpellsMagnitude cs v) :
    ∃ x, readMagnitude? cs = some x ∧ IsStored x.toModel.unpack .positive (rounded v) := by
  cases h with
  | @whole ds cs e hds hne he =>
    have hends := endsDigits_of_spellsExponent he
    refine ⟨nearest (ofDigits ds) e, ?_, isStored_nearest _ _⟩
    simp only [readMagnitude?, takeWhile_isDigit_append hds hends,
      dropWhile_isDigit_append hds hends]
    split
    · -- no exponent begins with a point
      rcases he with _ | ⟨hc | hc, -, -, -⟩ <;> exact absurd hc (by decide)
    · simp [hne, readExponent?_of_spells he]
  | @point ds fs cs e hds hfs hne he =>
    have hends := endsDigits_of_spellsExponent he
    have hpoint : EndsDigits ('.' :: (fs ++ cs)) := by
      rintro c ⟨⟩
      decide
    refine ⟨nearest (ofDigits (ds ++ fs)) (e - fs.length), ?_, isStored_nearest _ _⟩
    have hne' : (ds.isEmpty && fs.isEmpty) = false := by simpa [List.isEmpty_iff] using hne
    simp only [readMagnitude?, takeWhile_isDigit_append hds hpoint,
      dropWhile_isDigit_append hds hpoint, takeWhile_isDigit_append hfs hends,
      dropWhile_isDigit_append hfs hends, hne', readExponent?_of_spells he]
    rfl

/-- A magnitude begins with a digit or a point. -/
theorem head_of_spellsMagnitude {cs : List Char} {v : ℚ} (h : SpellsMagnitude cs v) :
    ∃ c ∈ cs.head?, c.isDigit = true ∨ c = '.' := by
  cases h with
  | @whole ds cs e hds hne he =>
    obtain ⟨c, ds, rfl⟩ := List.exists_cons_of_ne_nil hne
    exact ⟨c, rfl, .inl (hds c List.mem_cons_self)⟩
  | @point ds fs cs e hds =>
    cases ds with
    | nil => exact ⟨'.', rfl, .inr rfl⟩
    | cons c ds => exact ⟨c, rfl, .inl (hds c List.mem_cons_self)⟩

theorem not_isAlpha_of_isDigit_or {c : Char} (h : c.isDigit = true ∨ c = '.') :
    ¬ c.isAlpha = true := by
  rintro halpha
  have hletter := toNat_of_isAlpha halpha
  rcases h with h | rfl
  · have hdigit := toNat_of_isDigit h
    omega
  · exact absurd halpha (by decide)

/-- **What spells a value reads as the number nearest to it.** -/
theorem exists_readFloat?_of_spells {s : String} {q : ℚ} (h : Spells s q) :
    ∃ x, readFloat? s = some x ∧ (Binary64.ofFloat x).value? = round? q := by
  obtain @⟨sign, cs, negative, v, hs, hsign, hcs⟩ := h
  obtain ⟨x, hread, hx⟩ := readMagnitude?_of_spells hcs
  obtain ⟨c, hc, hstart⟩ := head_of_spellsMagnitude hcs
  refine ⟨if negative then -x else x, ?_, value?_signed (nonneg_of_spellsMagnitude hcs) hx _⟩
  have hsigned : readSign s.toList = (negative, cs) := by
    rw [hs]
    refine readSign_append hsign fun d hd ↦ ?_
    obtain rfl : c = d := Option.some_inj.1 (hc.symm.trans hd)
    constructor <;> rintro rfl <;> revert hstart <;> decide
  have hword : ∀ word : String, (∀ c ∈ word.toList, c.isAlpha = true) →
      String.ofList (cs.map Char.toLower) ≠ word := fun word hletters heq ↦
    not_isAlpha_of_isDigit_or hstart
      (isAlpha_of_lowercase heq hletters c (List.mem_of_mem_head? hc))
  simp only [readFloat?, hsigned]
  refine Option.map_eq_some_iff.2 ⟨x, ?_, rfl⟩
  split
  · rename_i heq
    exact absurd heq (hword _ (by simp))
  · rename_i heq
    exact absurd heq (hword _ (by simp))
  · rename_i heq
    exact absurd heq (hword _ (by simp))
  · exact hread

/-! ### Whole numbers -/

/-- A numeral spells a whole number: digits, after a minus if any sign. -/
inductive SpellsWhole : String → ℤ → Prop
  | positive {s : String} {ds : List Char} (hs : s.toList = ds) (hds : IsDigits ds)
      (hne : ds ≠ []) : SpellsWhole s (ofDigits ds)
  | negative {s : String} {ds : List Char} (hs : s.toList = '-' :: ds) (hds : IsDigits ds)
      (hne : ds ≠ []) : SpellsWhole s (-(ofDigits ds : ℤ))

theorem SpellsWhole.spells {s : String} {n : ℤ} (h : SpellsWhole s n) : Spells s n := by
  cases h with
  | @positive ds hs hds hne =>
    have hspells := @Spells.intro s [] (ds ++ []) _ _ (by simpa using hs) .none
      (.whole hds hne .none)
    simpa using hspells
  | @negative ds hs hds hne =>
    have hspells := @Spells.intro s ['-'] (ds ++ []) _ _ (by simpa using hs) .minus
      (.whole hds hne .none)
    simpa using hspells

theorem digitChar_of_isDigit {c : Char} (h : c.isDigit = true) :
    Nat.digitChar (c.toNat - 48) = c := by
  have hbound := toNat_of_isDigit h
  rw [← Char.ofNat_toNat c]
  generalize c.toNat = n at hbound
  obtain ⟨hlow, hhigh⟩ := hbound
  interval_cases n <;> rfl

/-- Digits that do not begin with a zero are those of their value. -/
theorem toDigits_ofDigits {ds : List Char} (hds : IsDigits ds) (hne : ds ≠ [])
    (hzero : '0' ∉ ds.head?) : Nat.toDigits 10 (ofDigits ds) = ds := by
  induction ds using List.reverseRecOn with
  | nil => exact absurd rfl hne
  | append_singleton ds c ih =>
    rw [IsDigits, List.forall_mem_append] at hds
    have hc := hds.2 c (List.mem_singleton_self c)
    have hlt : c.toNat - 48 < 10 := by
      have := toNat_of_isDigit hc
      omega
    have hlast : Nat.toDigits 10 (c.toNat - 48) = [c] := by
      rw [Nat.toDigits_of_lt_base hlt, digitChar_of_isDigit hc]
    have hvalue : ofDigits (ds ++ [c]) = 10 * ofDigits ds + (c.toNat - 48) := by
      rw [ofDigits, List.foldl_append]
      rfl
    rw [hvalue]
    cases ds with
    | nil => simpa [ofDigits] using hlast
    | cons d ds =>
      have hinit := ih hds.1 (List.cons_ne_nil d ds) hzero
      have hpos : 0 < ofDigits (d :: ds) := Nat.pos_of_ne_zero fun h ↦ by
        rw [h, Nat.toDigits_zero] at hinit
        exact hzero (by rw [← hinit]; rfl)
      rw [← Nat.toDigits_append_toDigits (by norm_num) hpos hlt, hinit, hlast]

end SurveyExport.Numeral
