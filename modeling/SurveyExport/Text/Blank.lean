/-!
# Blank characters

Answers and names are trimmed and cut into words at blank characters. Blank is the Unicode
property White_Space, so a no-break space separates two words while a zero-width space does not.

* `isBlank_of_isWhitespace`: the white space known to `Char` is blank;
* `pieces` cuts a text at every separator, and `intercalate_pieces` puts it together again.
-/

namespace SurveyExport.Text

/-- The characters with the Unicode property White_Space. -/
def isBlank (c : Char) : Bool :=
  let n := c.toNat
  (9 ≤ n && n ≤ 13) || n == 0x20 || n == 0x85 || n == 0xA0 || n == 0x1680 ||
    (0x2000 ≤ n && n ≤ 0x200A) || n == 0x2028 || n == 0x2029 || n == 0x202F || n == 0x205F ||
    n == 0x3000

/-- The characters without the blank ones at their front. -/
def dropBlanks (cs : List Char) : List Char := cs.dropWhile isBlank

/-- The characters without the blank ones at their end. -/
def dropBlanksEnd (cs : List Char) : List Char := (cs.reverse.dropWhile isBlank).reverse

/-- A text without blank characters at its two ends. -/
def trim (s : String) : String := String.ofList (dropBlanksEnd (dropBlanks s.toList))

/-- A text without blank characters at its end. -/
def trimEnd (s : String) : String := String.ofList (dropBlanksEnd s.toList)

/-- Cuts characters at each one that is a separator: one piece more than there are separators. -/
def pieces (isSeparator : Char → Bool) : List Char → List (List Char)
  | [] => [[]]
  | c :: cs =>
    if isSeparator c then [] :: pieces isSeparator cs
    else
      match pieces isSeparator cs with
      | [] => [[c]]
      | piece :: rest => (c :: piece) :: rest

/-- The maximal runs of characters that are not blank. -/
def words (s : String) : List String :=
  ((pieces isBlank s.toList).filter (!·.isEmpty)).map String.ofList

/-- A text cut at every occurrence of one character. -/
def splitAt (separator : Char) (s : String) : List String :=
  (pieces (· == separator) s.toList).map String.ofList

/-- Every white space character of `Char` is blank. -/
theorem isBlank_of_isWhitespace {c : Char} (h : c.isWhitespace = true) : isBlank c = true := by
  simp only [Char.isWhitespace, Bool.or_eq_true, decide_eq_true_eq] at h
  rcases h with ((rfl | rfl) | rfl) | rfl <;> rfl

/-- There is always a first piece. -/
theorem pieces_ne_nil (p : Char → Bool) (cs : List Char) : pieces p cs ≠ [] := by
  cases cs with
  | nil => simp [pieces]
  | cons c cs =>
    simp only [pieces]
    split
    · simp
    · split <;> simp

/-- No piece holds a separator. -/
theorem not_separator_of_mem_pieces {p : Char → Bool} {cs piece : List Char} {c : Char}
    (hpiece : piece ∈ pieces p cs) (hc : c ∈ piece) : p c = false := by
  induction cs generalizing piece with
  | nil => simp_all [pieces]
  | cons d cs ih =>
    simp only [pieces] at hpiece
    split at hpiece
    · rcases List.mem_cons.1 hpiece with rfl | h
      · simp at hc
      · exact ih h hc
    · rename_i hd
      split at hpiece
      · simp_all
      · rename_i first rest hp
        rcases List.mem_cons.1 hpiece with rfl | h
        · rcases List.mem_cons.1 hc with rfl | hc
          · simpa using hd
          · exact ih (hp ▸ List.mem_cons_self) hc
        · exact ih (hp ▸ List.mem_cons_of_mem _ h) hc

/-- The pieces at one character, joined by that character, are the text. -/
theorem intercalate_pieces (d : Char) (cs : List Char) :
    List.intercalate [d] (pieces (· == d) cs) = cs := by
  induction cs with
  | nil => rfl
  | cons c cs ih =>
    have hne := pieces_ne_nil (· == d) cs
    simp only [pieces]
    cases hp : pieces (· == d) cs with
    | nil => exact absurd hp hne
    | cons first rest =>
      rw [hp] at ih
      split
      · rename_i hc
        have : c = d := by simpa using hc
        subst this
        cases rest <;> simp_all [List.intercalate, List.intersperse]
      · cases rest <;> simp_all [List.intercalate, List.intersperse]

end SurveyExport.Text
