import Mathlib.Data.List.Infix
import Mathlib.Data.List.TakeWhile
import SurveyExport.Row.References

/-!
# References in texts

A reference is a `$` with a key of word characters in braces behind it. References never overlap,
since there is no `$` among the other characters of a reference. So the characters of a text are cut
at their references in one way only: into stretches without references, and the keys of the
references between them. The `Template` of a text is this cut (`Template.exists_isOf`,
`Template.IsOf.unique`).

The scan that replaces references fills the template from front to back
(`Template.substituteFrom_fill`). What is put in is no part of the template, so it is not searched
itself, whatever it looks like.
-/

namespace SurveyExport

namespace Row

/-! ### References -/

/-- The keys that a reference may have: one or more word characters. -/
def IsReferenceKey (key : List Char) : Prop := key ≠ [] ∧ ∀ c ∈ key, Text.isWord c = true

instance (key : List Char) : Decidable (IsReferenceKey key) :=
  decidable_of_iff (key ≠ [] ∧ key.all Text.isWord = true) (by
    rw [List.all_eq_true, IsReferenceKey])

/-- No reference stands among the characters. -/
def IsPlain (cs : List Char) : Prop := ∀ key, IsReferenceKey key → ¬ referenceText key <:+: cs

variable {key key' cs : List Char}

theorem isPlain_of_not_mem (h : '$' ∉ cs) : IsPlain cs := fun _ _ hin ↦
  h (hin.subset List.mem_cons_self)

theorem isPlain_nil : IsPlain [] := isPlain_of_not_mem List.not_mem_nil

theorem isPlain_cons_iff {c : Char} : IsPlain (c :: cs) ↔
    (∀ key, IsReferenceKey key → ¬ referenceText key <+: c :: cs) ∧ IsPlain cs := by
  simp only [IsPlain, List.infix_cons_iff, not_or]
  exact ⟨fun h ↦ ⟨fun key hkey ↦ (h key hkey).1, fun key hkey ↦ (h key hkey).2⟩,
    fun h key hkey ↦ ⟨h.1 key hkey, h.2 key hkey⟩⟩

/-- Behind the `$` of a reference there is no other `$`. -/
theorem dollar_not_mem_tail (h : IsReferenceKey key) : '$' ∉ (referenceText key).tail := by
  simp only [referenceText, List.cons_append, List.tail_cons, List.mem_cons, List.mem_append,
    List.not_mem_nil, or_false]
  rintro (hbrace | hmem | hbrace)
  · cases hbrace
  · exact absurd (h.2 _ hmem) (by decide)
  · cases hbrace

/-- A reference does not reach over the next `$`. -/
theorem prefix_of_prefix_append (h : IsReferenceKey key) (hne : cs ≠ []) {rest : List Char}
    (hstart : referenceText key <+: cs ++ '$' :: rest) : referenceText key <+: cs := by
  have hdollar : cs ++ ['$'] <+: cs ++ '$' :: rest := ⟨rest, by simp⟩
  have hlong : ¬ cs ++ ['$'] <+: referenceText key := fun hlong ↦ by
    obtain ⟨c, cs, rfl⟩ := List.exists_cons_of_ne_nil hne
    have htail : cs ++ ['$'] <+: (referenceText key).tail := (List.cons_prefix_cons.1 hlong).2
    exact dollar_not_mem_tail h (htail.subset (by simp))
  rcases List.prefix_or_prefix_of_prefix hstart hdollar with hshort | hshort
  · rcases List.prefix_concat_iff.1 hshort with heq | hshort
    · exact absurd (heq ▸ List.prefix_refl _) hlong
    · exact hshort
  · exact absurd hshort hlong

theorem reference?_append (h : IsReferenceKey key) (rest : List Char) :
    reference? ('{' :: key ++ '}' :: rest) = some key := by
  have hbrace : ¬ Text.isWord '}' = true := by decide
  have htake : (key ++ '}' :: rest).takeWhile Text.isWord = key := by
    rw [List.takeWhile_append_of_pos h.2, List.takeWhile_cons_of_neg hbrace, List.append_nil]
  have hdrop : (key ++ '}' :: rest).dropWhile Text.isWord = '}' :: rest := by
    rw [List.dropWhile_append_of_pos h.2, List.dropWhile_cons_of_neg hbrace]
  simp only [List.cons_append, reference?, htake, hdrop, List.isEmpty_iff, h.1, if_false]

/-- What is read behind a `$` is a reference. -/
theorem prefix_of_reference? (h : reference? cs = some key) :
    IsReferenceKey key ∧ referenceText key <+: '$' :: cs := by
  unfold reference? at h
  split at h
  · rename_i cs
    by_cases hempty : (cs.takeWhile Text.isWord).isEmpty
    · simp only [hempty, if_true] at h
      cases h
    · simp only [hempty, Bool.false_eq_true, if_false] at h
      split at h
      · rename_i rest hdrop
        obtain rfl := Option.some.inj h
        refine ⟨⟨by simpa using hempty, fun c hc ↦ List.mem_takeWhile_imp hc⟩, rest, ?_⟩
        simp [referenceText, ← hdrop]
      · cases h
  · cases h

/-- Two references that the same characters begin with have the same key. -/
theorem key_eq_of_append_eq (h : IsReferenceKey key) (h' : IsReferenceKey key')
    {rest rest' : List Char} (heq : referenceText key ++ rest = referenceText key' ++ rest') :
    key = key' ∧ rest = rest' := by
  have hread : reference? ('{' :: key ++ '}' :: rest) =
      reference? ('{' :: key' ++ '}' :: rest') := by
    simpa [referenceText] using congrArg (fun cs ↦ reference? cs.tail) heq
  rw [reference?_append h, reference?_append h'] at hread
  obtain rfl := Option.some.inj hread
  exact ⟨rfl, List.append_cancel_left heq⟩

/-! ### The scan -/

variable (value : String → Option String)

/-- Characters that are to be passed over are passed over. -/
theorem substituteFrom_length_append (skipped rest : List Char) :
    substituteFrom value skipped.length (skipped ++ rest) = substituteFrom value 0 rest := by
  induction skipped with
  | nil => rfl
  | cons c skipped ih => exact ih

/-- A reference is replaced, and the scan goes on behind it. -/
theorem substituteFrom_reference (h : IsReferenceKey key) (rest : List Char) :
    substituteFrom value 0 (referenceText key ++ rest) =
      replacement value key ++ substituteFrom value 0 rest := by
  have htext : referenceText key ++ rest = '$' :: ('{' :: key ++ '}' :: rest) := by
    simp [referenceText]
  have hskip := substituteFrom_length_append value ('{' :: key ++ ['}']) rest
  rw [show ('{' :: key ++ ['}']).length = key.length + 2 by simp,
    show '{' :: key ++ ['}'] ++ rest = '{' :: key ++ '}' :: rest by simp] at hskip
  rw [htext, substituteFrom, if_pos rfl, reference?_append h, ← hskip]

/-- A character at which no reference begins is kept. -/
theorem substituteFrom_cons {c : Char} {rest : List Char}
    (h : ∀ key, IsReferenceKey key → ¬ referenceText key <+: c :: rest) :
    substituteFrom value 0 (c :: rest) = c :: substituteFrom value 0 rest := by
  have hnone : (if c = '$' then reference? rest else none) = none := by
    split
    · rename_i hc
      subst hc
      cases hread : reference? rest with
      | none => rfl
      | some key =>
        obtain ⟨hkey, hstart⟩ := prefix_of_reference? hread
        exact absurd hstart (h key hkey)
    · rfl
  rw [substituteFrom, hnone]

theorem substituteFrom_of_isPlain (h : IsPlain cs) : substituteFrom value 0 cs = cs := by
  induction cs with
  | nil => rfl
  | cons c cs ih =>
    obtain ⟨hnone, hrest⟩ := isPlain_cons_iff.1 h
    rw [substituteFrom_cons value hnone, ih hrest]

/-- A plain stretch in front of a reference is kept. -/
theorem substituteFrom_append (h : IsPlain cs) (key rest : List Char) :
    substituteFrom value 0 (cs ++ (referenceText key ++ rest)) =
      cs ++ substituteFrom value 0 (referenceText key ++ rest) := by
  induction cs with
  | nil => rfl
  | cons c cs ih =>
    obtain ⟨hnone, hrest⟩ := isPlain_cons_iff.1 h
    rw [List.cons_append, substituteFrom_cons value fun key' hkey' hstart ↦ ?_, ih hrest,
      List.cons_append]
    exact hnone key' hkey' (prefix_of_prefix_append hkey' (List.cons_ne_nil _ _) hstart)

end Row

/-! ### Templates -/

/-- Characters cut at the references among them. -/
inductive Template where
  /-- What comes behind the last reference. -/
  | last (cs : List Char)
  /-- A stretch of characters, the key of the reference behind it, and what comes then. -/
  | reference (stretch key : List Char) (rest : Template)

namespace Template

open Row

/-- The characters of a template with something put in for each reference. -/
def fill (textOf : List Char → List Char) : Template → List Char
  | last cs => cs
  | reference stretch key rest => stretch ++ (textOf key ++ rest.fill textOf)

/-- The stretches are plain, and the keys are those of references. -/
def IsCut : Template → Prop
  | last cs => IsPlain cs
  | reference stretch key rest => IsPlain stretch ∧ IsReferenceKey key ∧ rest.IsCut

/-- The template is that of the characters: they are cut at all references among them. -/
def IsOf (t : Template) (cs : List Char) : Prop := t.IsCut ∧ t.fill referenceText = cs

variable {t t' : Template} {cs : List Char}

/-- **Replacing references fills the template.** -/
theorem substituteFrom_fill (value : String → Option String) (h : t.IsCut) :
    substituteFrom value 0 (t.fill referenceText) = t.fill (replacement value) := by
  induction t with
  | last cs => exact substituteFrom_of_isPlain value h
  | reference stretch key rest ih =>
    obtain ⟨hstretch, hkey, hrest⟩ := h
    rw [fill, fill, substituteFrom_append value hstretch, substituteFrom_reference value hkey,
      ih hrest]

/-! ### Every text has one template -/

/-- The template with a character in front of its first stretch. -/
def cons (c : Char) : Template → Template
  | last cs => last (c :: cs)
  | reference stretch key rest => reference (c :: stretch) key rest

theorem fill_cons (c : Char) (t : Template) (textOf : List Char → List Char) :
    (t.cons c).fill textOf = c :: t.fill textOf := by
  cases t <;> rfl

/-- A character at which no reference begins belongs to the first stretch. -/
theorem IsOf.cons (h : t.IsOf cs) {c : Char}
    (hnone : ∀ key, IsReferenceKey key → ¬ referenceText key <+: c :: cs) :
    (t.cons c).IsOf (c :: cs) := by
  obtain ⟨hcut, rfl⟩ := h
  refine ⟨?_, fill_cons c t _⟩
  cases t with
  | last cs => exact isPlain_cons_iff.2 ⟨hnone, hcut⟩
  | reference stretch key rest =>
    obtain ⟨hstretch, hkey, hrest⟩ := hcut
    refine ⟨isPlain_cons_iff.2 ⟨fun key' hkey' hstart ↦ ?_, hstretch⟩, hkey, hrest⟩
    exact hnone key' hkey' (hstart.trans (List.prefix_append (c :: stretch) _))

/-- A reference in front is the first one. -/
theorem IsOf.reference (h : t.IsOf cs) {key : List Char} (hkey : IsReferenceKey key) :
    (reference [] key t).IsOf (referenceText key ++ cs) := by
  obtain ⟨hcut, rfl⟩ := h
  exact ⟨⟨isPlain_nil, hkey, hcut⟩, rfl⟩

/-- All characters have a template. -/
theorem exists_isOf (cs : List Char) : ∃ t : Template, t.IsOf cs := by
  -- a reference in front is passed over as a whole, so the induction is on the length
  induction hn : cs.length using Nat.strong_induction_on generalizing cs with
  | _ n ih =>
    cases cs with
    | nil => exact ⟨last [], isPlain_nil, rfl⟩
    | cons c cs =>
      by_cases hstart : ∃ key, IsReferenceKey key ∧ referenceText key <+: c :: cs
      · obtain ⟨key, hkey, rest, hrest⟩ := hstart
        have hlength : rest.length < n := by
          rw [← hn, ← hrest, List.length_append]
          simp [referenceText]
        obtain ⟨t, ht⟩ := ih _ hlength rest rfl
        exact ⟨_, hrest ▸ ht.reference hkey⟩
      · obtain ⟨t, ht⟩ := ih cs.length (by simp [← hn]) cs rfl
        exact ⟨_, ht.cons fun key hkey hprefixed ↦ hstart ⟨key, hkey, hprefixed⟩⟩

/-- A plain stretch in front of a reference ends where the reference begins. -/
theorem prefix_of_append_eq {stretch stretch' key key' rest rest' : List Char}
    (hkey : IsReferenceKey key) (hplain : IsPlain stretch')
    (h : stretch ++ (referenceText key ++ rest) = stretch' ++ (referenceText key' ++ rest')) :
    stretch' <+: stretch := by
  rcases List.append_eq_append_iff.1 h with ⟨d, rfl, hd⟩ | ⟨d, rfl, -⟩
  · by_cases hne : d = []
    · simp [hne]
    · -- otherwise the reference would lie in the other stretch
      have hstart : referenceText key <+: d ++ '$' :: ('{' :: key' ++ ['}'] ++ rest') :=
        ⟨rest, hd⟩
      have hin := (prefix_of_prefix_append hkey hne hstart).isInfix
      exact absurd (hin.trans (List.suffix_append _ _).isInfix) (hplain key hkey)
  · exact List.prefix_append _ _

/-- Characters with a reference among them are not plain. -/
theorem not_isPlain_append {stretch key rest : List Char} (hkey : IsReferenceKey key) :
    ¬ IsPlain (stretch ++ (referenceText key ++ rest)) := fun h ↦
  h key hkey ⟨stretch, rest, by rw [List.append_assoc]⟩

theorem eq_of_fill_eq (h : t.IsCut) (h' : t'.IsCut)
    (heq : t.fill referenceText = t'.fill referenceText) : t = t' := by
  induction t generalizing t' with
  | last cs =>
    cases t' with
    | last cs' => exact congrArg last heq
    | reference stretch' key' rest' =>
      obtain rfl : cs = stretch' ++ (referenceText key' ++ rest'.fill referenceText) := heq
      exact absurd h (not_isPlain_append h'.2.1)
  | reference stretch key rest ih =>
    cases t' with
    | last cs' =>
      obtain rfl : stretch ++ (referenceText key ++ rest.fill referenceText) = cs' := heq
      exact absurd h' (not_isPlain_append h.2.1)
    | reference stretch' key' rest' =>
      obtain ⟨hstretch, hkey, hrest⟩ := h
      obtain ⟨hstretch', hkey', hrest'⟩ := h'
      rw [fill, fill] at heq
      obtain rfl : stretch = stretch' :=
        (prefix_of_append_eq hkey' hstretch heq.symm).eq_of_length_le
          (prefix_of_append_eq hkey hstretch' heq).length_le
      obtain ⟨rfl, hfill⟩ := key_eq_of_append_eq hkey hkey' (List.append_cancel_left heq)
      rw [ih hrest hrest' hfill]

/-- **Characters have one template only.** -/
theorem IsOf.unique (h : t.IsOf cs) (h' : t'.IsOf cs) : t' = t :=
  eq_of_fill_eq h'.1 h.1 (h'.2.trans h.2.symm)

/-- Filling with two texts that agree on the references among the characters makes no difference. -/
theorem fill_congr {textOf textOf' : List Char → List Char} (h : t.IsCut)
    (hagree : ∀ key, IsReferenceKey key → referenceText key <:+: t.fill referenceText →
      textOf key = textOf' key) : t.fill textOf = t.fill textOf' := by
  induction t with
  | last cs => rfl
  | reference stretch key rest ih =>
    obtain ⟨-, hkey, hrest⟩ := h
    have hself : textOf key = textOf' key :=
      hagree key hkey ⟨stretch, rest.fill referenceText, by rw [fill, List.append_assoc]⟩
    rw [fill, fill, hself, ih hrest fun key' hkey' hin ↦ hagree key' hkey' ?_]
    have hsuffix : rest.fill referenceText <:+ fill referenceText (reference stretch key rest) :=
      ⟨stretch ++ referenceText key, by rw [fill, List.append_assoc]⟩
    exact hin.trans hsuffix.isInfix

end Template

end SurveyExport
