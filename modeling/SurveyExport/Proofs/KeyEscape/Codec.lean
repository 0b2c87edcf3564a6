import Mathlib.Data.List.Infix
import SurveyExport.KeyEscape

/-!
# Stored keys are read back

Encoding a key is lossy: a key that holds a mark itself is read back as another key. `Unmarked` says
that a key holds no mark where decoding would look for one. Such a key is read back, from its stored
form as well as from itself (`decode_encode`, `decode_eq_self`), so `store`, the form in which the
store keeps a key, is injective on unmarked keys (`store_inj`). What encoding makes of a refused key
is marked and not refused again (`not_unmarked_encode`, `isRefused_encode`).

No other key is read back, because decoding leaves no mark (`unmarked_decode`);
`storable_encode_and_decode_encode_iff` says so for all keys.
-/

namespace SurveyExport

namespace Text

/-- Characters that do not begin with a pattern have no rest after it. -/
theorem isPrefixOf?_eq_none_iff {ps cs : List Char} :
    ps.isPrefixOf? cs = none ↔ ¬ ps <+: cs := by
  rw [← Option.not_isSome_iff_eq_none, List.isSome_isPrefixOf?_eq_isPrefixOf,
    List.isPrefixOf_iff_prefix]

/-- Characters that are passed over are not looked at. -/
theorem replaceFrom_length_append (pattern value skipped cs : List Char) :
    replaceFrom pattern value skipped.length (skipped ++ cs) = replaceFrom pattern value 0 cs := by
  induction skipped with
  | nil => rfl
  | cons c skipped ih => exact ih

/-- Where a pattern does not occur nothing is replaced. -/
theorem replaceFrom_eq_self {pattern : List Char} (value : List Char) {cs : List Char}
    (h : ¬ pattern <:+: cs) : replaceFrom pattern value 0 cs = cs := by
  induction cs with
  | nil => rfl
  | cons c rest ih =>
    have hnone : ¬ pattern.isPrefixOf (c :: rest) = true := fun hp ↦
      h (List.isPrefixOf_iff_prefix.1 hp).isInfix
    have hrest : ¬ pattern <:+: rest := fun hi ↦ h (hi.trans (List.suffix_cons c rest).isInfix)
    rw [replaceFrom, if_neg hnone, ih hrest]

/-- What stands in a text after replacing was put in or was there before. -/
theorem mem_replaceFrom {pattern value cs : List Char} {skip : Nat} {c : Char}
    (h : c ∈ replaceFrom pattern value skip cs) : c ∈ value ∨ c ∈ cs := by
  induction cs generalizing skip with
  | nil => simp [replaceFrom] at h
  | cons d rest ih =>
    cases skip with
    | succ skip => exact (ih h).imp_right (List.mem_cons_of_mem d)
    | zero =>
      rw [replaceFrom] at h
      split at h
      · rcases List.mem_append.1 h with hvalue | hrest
        · exact .inl hvalue
        · exact (ih hrest).imp_right (List.mem_cons_of_mem d)
      · rcases List.mem_cons.1 h with rfl | hrest
        · exact .inr List.mem_cons_self
        · exact (ih hrest).imp_right (List.mem_cons_of_mem d)

/-- A beginning without the character that is put in was there before. -/
theorem prefix_of_prefix_replaceFrom {pattern ps cs : List Char} {d : Char} (hd : d ∉ ps)
    (h : ps <+: replaceFrom pattern [d] 0 cs) : ps <+: cs := by
  induction ps generalizing cs with
  | nil => exact List.nil_prefix
  | cons p ps ih =>
    cases cs with
    | nil => exact absurd (List.prefix_nil.1 h) (List.cons_ne_nil _ _)
    | cons c rest =>
      rw [replaceFrom] at h
      split at h
      · exact absurd (List.cons_prefix_cons.1 h).1.symm (List.ne_of_not_mem_cons hd)
      · obtain ⟨hpc, hrest⟩ := List.cons_prefix_cons.1 h
        exact List.cons_prefix_cons.2 ⟨hpc, ih (List.not_mem_of_not_mem_cons hd) hrest⟩

/-- **Nothing is left to replace**: the character that is put in begins no new occurrence. -/
theorem not_infix_replaceFrom {pattern : List Char} {d : Char} (hne : pattern ≠ [])
    (hd : d ∉ pattern) (skip : Nat) (cs : List Char) :
    ¬ pattern <:+: replaceFrom pattern [d] skip cs := by
  induction cs generalizing skip with
  | nil =>
    rw [replaceFrom, List.infix_nil]
    exact hne
  | cons c rest ih =>
    cases skip with
    | succ skip => exact ih skip
    | zero =>
      rw [replaceFrom]
      split
      · rw [List.singleton_append, List.infix_cons_iff]
        rintro (hp | hi)
        · obtain ⟨p, ps, rfl⟩ := List.exists_cons_of_ne_nil hne
          exact hd ((List.cons_prefix_cons.1 hp).1 ▸ List.mem_cons_self)
        · exact ih _ hi
      · -- an occurrence that begins with a character kept would have been replaced
        rename_i hnone
        rw [List.infix_cons_iff]
        rintro (hp | hi)
        · have hout : pattern <+: replaceFrom pattern [d] 0 (c :: rest) := by
            rwa [replaceFrom, if_neg hnone]
          exact hnone (List.isPrefixOf_iff_prefix.2 (prefix_of_prefix_replaceFrom hd hout))
        · exact ih 0 hi

end Text

namespace KeyEscape

/-! ### Keys without marks -/

/-- A key in which decoding finds nothing to replace. -/
def Unmarked (k : String) : Prop := ¬ pointMark <:+: k.toList ∧ ¬ dollarMark <+: k.toList

/-- A key without an equals sign is unmarked. -/
theorem unmarked_of_not_mem {k : String} (h : '=' ∉ k.toList) : Unmarked k :=
  ⟨fun hi ↦ h (hi.subset (by decide)), fun hp ↦ h (hp.subset (by decide))⟩

/-- An unmarked key stands for itself. -/
theorem decode_eq_self {k : String} (h : Unmarked k) : decode k = k := by
  rw [decode, decodeChars, Text.isPrefixOf?_eq_none_iff.2 h.2]
  exact (congrArg String.ofList (Text.replaceFrom_eq_self _ h.1)).trans (String.ofList_toList)

/-- A beginning without the first character of the mark is seen through marked points. -/
theorem prefix_of_prefix_markPoints {ps cs : List Char} (hps : 'L' ∉ ps)
    (h : ps <+: markPoints cs) : ps <+: cs := by
  induction ps generalizing cs with
  | nil => exact List.nil_prefix
  | cons p ps ih =>
    have hmark : pointMark = 'L' :: "g==".toList := by decide
    cases cs with
    | nil => exact absurd (List.prefix_nil.1 h) (List.cons_ne_nil _ _)
    | cons c cs =>
      rw [markPoints, List.flatMap_cons] at h
      split at h
      · rw [hmark, List.cons_append, List.cons_prefix_cons] at h
        exact absurd (h.1 ▸ List.mem_cons_self) hps
      · rw [List.singleton_append, List.cons_prefix_cons] at h
        rw [List.cons_prefix_cons]
        exact ⟨h.1, ih (fun hp ↦ hps (List.mem_cons_of_mem _ hp)) h.2⟩

/-- Marked points are read back where no mark was before. -/
theorem replaceFrom_markPoints {cs : List Char} (h : ¬ pointMark <:+: cs) :
    Text.replaceFrom pointMark ['.'] 0 (markPoints cs) = cs := by
  induction cs with
  | nil => rfl
  | cons c rest ih =>
    have hrest : ¬ pointMark <:+: rest := fun hi ↦ h (hi.trans (List.suffix_cons c rest).isInfix)
    have hmark : pointMark = 'L' :: "g==".toList := by decide
    rw [markPoints, List.flatMap_cons, ← markPoints]
    split
    · rename_i hc
      subst hc
      have hbegins : pointMark.isPrefixOf (pointMark ++ markPoints rest) = true :=
        List.isPrefixOf_iff_prefix.2 (List.prefix_append _ _)
      rw [hmark, List.cons_append] at hbegins ⊢
      rw [Text.replaceFrom, if_pos hbegins]
      exact congrArg ('.' :: ·) ((Text.replaceFrom_length_append _ _ "g==".toList _).trans
        (hmark ▸ ih hrest))
    · -- a mark that begins here would have been there before
      rename_i hc
      have hnone : ¬ pointMark.isPrefixOf (c :: markPoints rest) = true := by
        rw [List.isPrefixOf_iff_prefix, hmark, List.cons_prefix_cons]
        rintro ⟨rfl, hp⟩
        have hg := prefix_of_prefix_markPoints (by decide) hp
        refine h (List.IsPrefix.isInfix ?_)
        rw [hmark, List.cons_prefix_cons]
        exact ⟨rfl, hg⟩
      rw [List.singleton_append, Text.replaceFrom, if_neg hnone, ih hrest]

/-- **A key without marks is read back** from its stored form. -/
theorem decode_encode {k : String} (h : Unmarked k) : decode (encode k) = k := by
  have hchars : decodeChars (encodeChars k.toList) = k.toList := by
    obtain ⟨hpoint, hdollar⟩ := h
    generalize k.toList = cs at hpoint hdollar
    rw [encodeChars.eq_def]
    split
    · -- the dollar in front is encoded apart from the points behind it
      rename_i cs
      have hrest : ¬ pointMark <:+: cs := fun hi ↦
        hpoint (hi.trans (List.suffix_cons '$' cs).isInfix)
      have hnone : ¬ pointMark.isPrefixOf ('$' :: markPoints cs) = true := by
        rw [List.isPrefixOf_iff_prefix]
        exact fun hp ↦ absurd (List.cons_prefix_cons.1 hp).1 (by decide)
      rw [decodeChars, List.isPrefixOf?_eq_some_iff_append_eq.2 rfl]
      show Text.replaceFrom pointMark ['.'] 0 ('$' :: markPoints cs) = '$' :: cs
      rw [Text.replaceFrom, if_neg hnone, replaceFrom_markPoints hrest]
    · -- a mark in front would have been there before
      have hnone : dollarMark.isPrefixOf? (markPoints cs) = none :=
        Text.isPrefixOf?_eq_none_iff.2 fun hp ↦
          hdollar (prefix_of_prefix_markPoints (by decide) hp)
      rw [decodeChars, hnone]
      exact replaceFrom_markPoints hpoint
  rw [decode, encode, String.toList_ofList, hchars, String.ofList_toList]

/-- What a stored key stands for is unmarked: decoding looks for every mark. -/
theorem unmarked_decode (k : String) : Unmarked (decode k) := by
  have hpoint : '.' ∉ pointMark := by decide
  have hdollar : '.' ∉ dollarMark := by decide
  rw [Unmarked, decode, String.toList_ofList, decodeChars]
  split
  · refine ⟨Text.not_infix_replaceFrom (by decide) hpoint 0 _, fun hp ↦ ?_⟩
    obtain ⟨rest, hrest⟩ := Text.prefix_of_prefix_replaceFrom hdollar hp
    exact absurd (congrArg List.head? hrest) (by simp [dollarMark])
  · rename_i hnone
    refine ⟨Text.not_infix_replaceFrom (by decide) hpoint 0 _, fun hp ↦ ?_⟩
    exact Text.isPrefixOf?_eq_none_iff.1 hnone (Text.prefix_of_prefix_replaceFrom hdollar hp)

/-- Decoding puts in nothing but points and a leading `$`. -/
theorem mem_of_mem_decode {k : String} {c : Char} (hpoint : c ≠ '.') (hdollar : c ≠ '$')
    (h : c ∈ (decode k).toList) : c ∈ k.toList := by
  rw [decode, String.toList_ofList, decodeChars] at h
  split at h
  · rename_i rest hrest
    rcases Text.mem_replaceFrom h with hmem | hmem
    · exact absurd (List.mem_singleton.1 hmem) hpoint
    · rw [← List.append_eq_of_isPrefixOf?_eq_some hrest]
      exact List.mem_append_right _ ((List.mem_cons.1 hmem).resolve_left hdollar)
  · rcases Text.mem_replaceFrom h with hmem | hmem
    · exact absurd (List.mem_singleton.1 hmem) hpoint
    · exact hmem

/-! ### The form in which a key is kept -/

/-- The form in which the store keeps a key. -/
def store (k : String) : String := if isRefused k then encode k else k

theorem store_of_not_isRefused {k : String} (h : ¬ isRefused k) : store k = k := if_neg h

theorem store_of_isRefused {k : String} (h : isRefused k) : store k = encode k := if_pos h

/-- An unmarked key and its stored form stand for the same. -/
theorem decode_store {k : String} (h : Unmarked k) : decode (store k) = k := by
  rw [store]
  split
  · exact decode_encode h
  · exact decode_eq_self h

/-- Unmarked keys are kept in different forms. -/
theorem store_inj {k k' : String} (h : Unmarked k) (h' : Unmarked k') (heq : store k = store k') :
    k = k' := by
  rw [← decode_store h, heq, decode_store h']

/-- The encoded form of a refused key holds a mark. -/
theorem not_unmarked_encode {k : String} (h : isRefused k) : ¬ Unmarked (encode k) := by
  simp only [isRefused, Bool.and_eq_true, Bool.or_eq_true, beq_iff_eq, List.contains_iff_mem] at h
  rintro ⟨hpoint, hdollar⟩
  rw [encode, String.toList_ofList, encodeChars.eq_def] at hpoint hdollar
  split at hdollar
  · exact hdollar (List.prefix_append _ _)
  · rename_i hne
    simp only at hpoint
    rcases h.2 with hhead | hmem
    · obtain ⟨cs, hcs⟩ := List.head?_eq_some_iff.1 hhead
      exact hne cs hcs
    · obtain ⟨before, after, hcs⟩ := List.append_of_mem hmem
      refine hpoint ⟨markPoints before, markPoints after, ?_⟩
      rw [hcs]
      simp [markPoints]

theorem point_not_mem_encode (k : String) : '.' ∉ (encode k).toList := by
  rw [encode, String.toList_ofList, encodeChars.eq_def]
  split
  · rw [List.mem_append, not_or]
    exact ⟨by decide, point_not_mem_markPoints _⟩
  · exact point_not_mem_markPoints _

theorem head?_encode_ne (k : String) : (encode k).toList.head? ≠ some '$' := by
  rw [encode, String.toList_ofList, encodeChars.eq_def]
  split
  · have hhead : dollarMark.head? = some 'J' := by decide
    rw [List.head?_append, hhead]
    simp
  · rename_i hne
    intro h
    cases hcs : k.toList with
    | nil => rw [hcs] at h; cases h
    | cons c cs =>
      rw [hcs, markPoints, List.flatMap_cons] at h
      split at h
      · have hhead : pointMark.head? = some 'L' := by decide
        rw [List.head?_append, hhead] at h
        exact absurd (Option.some.inj h) (by decide)
      · obtain rfl := Option.some.inj h
        exact hne cs hcs

/-- The store does not refuse the form in which it keeps a key. -/
theorem isRefused_encode (k : String) : isRefused (encode k) = false := by
  simp [isRefused, head?_encode_ne k, point_not_mem_encode k]

theorem isRefused_store (k : String) : isRefused (store k) = false := by
  rw [store]
  split
  · exact isRefused_encode k
  · rename_i h
    simpa using h

/-! ### What encoding keeps -/

/-- **A key is stored without points and without a dollar in front, and read back just if it is
unmarked**: it neither begins with the mark of a dollar nor holds the mark of a point. -/
theorem storable_encode_and_decode_encode_iff (k : String) :
    '.' ∉ (encode k).toList ∧ (encode k).toList.head? ≠ some '$' ∧
      (decode (encode k) = k ↔ ¬ "JA==".toList <+: k.toList ∧ ¬ "Lg==".toList <:+: k.toList) := by
  refine ⟨point_not_mem_encode k, head?_encode_ne k, fun h ↦ ?_, fun ⟨hdollar, hpoint⟩ ↦ ?_⟩
  · -- the key is what a stored key stands for
    obtain ⟨hpoint, hdollar⟩ := h ▸ unmarked_decode (encode k)
    exact ⟨hdollar, hpoint⟩
  · exact decode_encode ⟨hpoint, hdollar⟩

end KeyEscape

end SurveyExport
