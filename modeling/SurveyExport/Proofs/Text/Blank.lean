import Mathlib.Data.List.DropRight
import SurveyExport.Text.Blank

/-!
# Trimming and cutting

What is left of a text without the blank characters at its two ends: nothing just if all of its
characters are blank (`trim_isEmpty_iff`), and trimming it again changes nothing (`trim_trim`).
A text that is cut at separators is cut at the first of them and then behind it
(`pieces_append_cons`). The words of a text are the runs of characters that are not blank, as far as
they reach (`mem_words_iff`).
-/

namespace SurveyExport.Text

theorem dropBlanks_eq_nil_iff {cs : List Char} : dropBlanks cs = [] ↔ ∀ c ∈ cs, isBlank c = true :=
  List.dropWhile_eq_nil_iff

/-- A text is trimmed to nothing just if it is blank throughout. -/
theorem trim_isEmpty_iff {s : String} :
    (trim s).isEmpty = true ↔ ∀ c ∈ s.toList, isBlank c = true := by
  have hdrop : dropBlanksEnd (dropBlanks s.toList) = [] ↔ dropBlanks s.toList = [] := by
    constructor
    · intro h
      -- the first character that is left at the front is not blank, so it is left at the end, too
      rw [dropBlanksEnd, List.reverse_eq_nil_iff, List.dropWhile_eq_nil_iff] at h
      rw [dropBlanks, ← List.dropWhile_idempotent]
      exact List.dropWhile_eq_nil_iff.2 fun c hc ↦ h c (List.mem_reverse.2 hc)
    · intro h
      rw [h]
      rfl
  rw [← dropBlanks_eq_nil_iff, ← hdrop, trim, String.isEmpty_iff, String.ofList_eq_empty_iff]

/-- A trimmed text has no blank character at its ends. -/
theorem trim_trim (s : String) : trim (trim s) = trim s := by
  have hprefix : dropBlanksEnd (dropBlanks s.toList) <+: dropBlanks s.toList :=
    List.rdropWhile_prefix isBlank _
  have hfront : dropBlanks (dropBlanksEnd (dropBlanks s.toList)) =
      dropBlanksEnd (dropBlanks s.toList) := by
    cases h : dropBlanksEnd (dropBlanks s.toList) with
    | nil => rfl
    | cons c rest =>
      obtain ⟨rest', hrest⟩ := h ▸ hprefix
      have hc : isBlank c = false := by
        have := List.head?_dropWhile_not isBlank s.toList
        rw [← dropBlanks, ← hrest] at this
        simpa using this
      exact List.dropWhile_cons_of_neg (by rw [hc]; exact Bool.false_ne_true)
  have hend : dropBlanksEnd (dropBlanksEnd (dropBlanks s.toList)) =
      dropBlanksEnd (dropBlanks s.toList) := by
    rw [dropBlanksEnd, dropBlanksEnd, List.reverse_reverse, List.dropWhile_idempotent]
  rw [trim, trim, String.toList_ofList, hfront, hend]

/-- A text without blank characters is not trimmed. -/
theorem trim_eq_self {s : String} (h : ∀ c ∈ s.toList, isBlank c = false) : trim s = s := by
  have hdrop : ∀ cs : List Char, (∀ c ∈ cs, isBlank c = false) → cs.dropWhile isBlank = cs := by
    intro cs hcs
    cases cs with
    | nil => rfl
    | cons c cs => rw [List.dropWhile_cons, hcs c List.mem_cons_self, if_neg (by simp)]
  rw [trim, dropBlanks, dropBlanksEnd, hdrop _ h, hdrop _ fun c hc ↦ h c (List.mem_reverse.1 hc),
    List.reverse_reverse, String.ofList_toList]

/-- What has no separator is one piece. -/
theorem pieces_eq_singleton {p : Char → Bool} {cs : List Char} (h : ∀ c ∈ cs, p c = false) :
    pieces p cs = [cs] := by
  induction cs with
  | nil => rfl
  | cons c rest ih =>
    obtain ⟨hc, hrest⟩ := List.forall_mem_cons.1 h
    rw [pieces, if_neg (by rw [hc]; exact Bool.false_ne_true), ih hrest]

/-- A separator cuts the pieces in front of it from those behind it. -/
theorem pieces_append_separator {p : Char → Bool} (cs : List Char) {c : Char} (hc : p c = true)
    (rest : List Char) : pieces p (cs ++ c :: rest) = pieces p cs ++ pieces p rest := by
  induction cs with
  | nil => simp [pieces, hc]
  | cons d cs ih =>
    rw [List.cons_append, pieces, pieces, ih]
    split
    · rfl
    · cases hcs : pieces p cs with
      | nil => exact absurd hcs (pieces_ne_nil p cs)
      | cons piece pieces => rfl

/-- The first piece ends at the first separator. -/
theorem pieces_append_cons {p : Char → Bool} {cs : List Char} (h : ∀ c ∈ cs, p c = false) {c : Char}
    (hc : p c = true) (rest : List Char) : pieces p (cs ++ c :: rest) = cs :: pieces p rest := by
  rw [pieces_append_separator cs hc, pieces_eq_singleton h, List.singleton_append]

/-! ### Words -/

/-- A run of characters without separators reaches as far as it can: it is bounded by separators or
by the ends of the text. -/
def Bounded (p : Char → Bool) (cs run : List Char) : Prop :=
  (∀ c ∈ run, p c = false) ∧ ∃ before after, cs = before ++ run ++ after ∧
    (∀ c ∈ before.getLast?, p c = true) ∧ ∀ c ∈ after.head?, p c = true

theorem mem_pieces_of_bounded {p : Char → Bool} {cs run : List Char} (h : Bounded p cs run) :
    run ∈ pieces p cs := by
  obtain ⟨hrun, before, after, rfl, hbefore, hafter⟩ := h
  have hbehind : run ∈ pieces p (run ++ after) := by
    cases after with
    | nil => simp [pieces_eq_singleton hrun]
    | cons c rest =>
      rw [pieces_append_cons hrun (hafter c rfl)]
      exact List.mem_cons_self
  rw [List.append_assoc]
  rcases List.eq_nil_or_concat' before with rfl | ⟨front, c, rfl⟩
  · exact hbehind
  · rw [List.append_assoc, List.singleton_append,
      pieces_append_separator front (hbefore c (by simp))]
    exact List.mem_append_right _ hbehind

theorem bounded_of_mem_pieces {p : Char → Bool} {cs run : List Char} (h : run ∈ pieces p cs) :
    Bounded p cs run := by
  induction hn : cs.length using Nat.strong_induction_on generalizing cs with
  | _ n ih =>
    by_cases hcs : ∀ c ∈ cs, p c = false
    · rw [pieces_eq_singleton hcs, List.mem_singleton] at h
      subst h
      exact ⟨hcs, [], [], by simp, by simp, by simp⟩
    · -- at a separator the text is cut into two shorter ones
      obtain ⟨c, hmem, hc⟩ : ∃ c ∈ cs, p c = true := by simpa using hcs
      obtain ⟨front, rest, rfl⟩ := List.append_of_mem hmem
      simp only [List.length_append, List.length_cons] at hn
      rw [pieces_append_separator front hc, List.mem_append] at h
      rcases h with h | h
      · obtain ⟨hrun, before, after, rfl, hbefore, hafter⟩ := ih front.length (by omega) h rfl
        refine ⟨hrun, before, after ++ c :: rest, by simp, hbefore, fun d hd ↦ ?_⟩
        cases after with
        | nil => simp_all
        | cons e after => exact hafter d hd
      · obtain ⟨hrun, before, after, rfl, hbefore, hafter⟩ := ih rest.length (by omega) h rfl
        refine ⟨hrun, front ++ c :: before, after, by simp, fun d hd ↦ ?_, hafter⟩
        rcases List.eq_nil_or_concat' before with rfl | ⟨before, e, rfl⟩
        · simp_all
        · rw [← List.cons_append, ← List.append_assoc, List.getLast?_concat] at hd
          exact hbefore d (by rwa [List.getLast?_concat])

/-- A word of a text: one or more characters that are not blank, bounded by blank characters or by
the ends of the text. -/
def IsWordOf (word s : String) : Prop := word ≠ "" ∧ Bounded isBlank s.toList word.toList

/-- The words that a text is cut into are all words of it. -/
theorem mem_words_iff {word s : String} : word ∈ words s ↔ IsWordOf word s := by
  rw [words, List.mem_map, IsWordOf]
  constructor
  · rintro ⟨run, hrun, rfl⟩
    obtain ⟨hmem, hne⟩ := List.mem_filter.1 hrun
    refine ⟨fun h ↦ ?_, ?_⟩
    · rw [String.ofList_eq_empty_iff] at h
      simp [h] at hne
    · rw [String.toList_ofList]
      exact bounded_of_mem_pieces hmem
  · rintro ⟨hne, hbounded⟩
    refine ⟨word.toList, List.mem_filter.2 ⟨mem_pieces_of_bounded hbounded, ?_⟩,
      String.ofList_toList⟩
    simpa using hne

instance (word s : String) : Decidable (IsWordOf word s) := decidable_of_iff _ mem_words_iff

end SurveyExport.Text
