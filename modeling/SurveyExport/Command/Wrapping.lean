import SurveyExport.Text.Styled

/-!
# Wrapping

A text that is wider than its place is broken into lines. It is broken at spaces where it can be,
and a word that is wider than a whole line is cut between two clusters. A line that has no more than
`slack` columns left is ended, so that a cut word does not begin with a stub.
-/

namespace SurveyExport.Wrapping

open Text (Styled)

/-- The number of columns that are too few to begin a word in. -/
def slack : Nat := 2

/-- A line followed by a word, with a space between them unless the line is empty. -/
def joined (line word : Styled) : Styled := if line.isEmpty then word else line.join ' ' word

/-- The columns that are left for a word after a line. -/
def roomAfter (limit : Nat) (line : Styled) : Nat :=
  if line.isEmpty then limit else limit - line.width - 1

/--
How many characters of a word go on a line when it is cut: a line of its own gets at least one.
-/
def cutCount (limit : Nat) (line word : Styled) : Nat :=
  let count := word.fitting (roomAfter limit line)
  if line.isEmpty then max 1 count else count

/-- Characters of the words of a text, and the words themselves. -/
def load (words : List Styled) : Nat := words.foldr (fun word n ↦ word.glyphs.length + 1 + n) 0

/-- Sets words into lines, after a line that is begun. -/
def fill (limit : Nat) (line : Styled) : List Styled → List Styled
  | [] => if line.isEmpty then [] else [line]
  | word :: rest =>
    if (joined line word).width ≤ limit then
      if limit - slack < (joined line word).width then joined line word :: fill limit .empty rest
      else fill limit (joined line word) rest
    else if ¬ line.isEmpty ∧ roomAfter limit line ≤ slack then
      line :: fill limit .empty (word :: rest)
    else if limit < word.width then
      joined line (word.cutAt (cutCount limit line word)).1 ::
        fill limit .empty ((word.cutAt (cutCount limit line word)).2 :: rest)
    else if limit - slack < word.width then line :: word :: fill limit .empty rest
    else line :: fill limit word rest
termination_by words => 2 * load words + (if line.isEmpty then 0 else 1)
decreasing_by
  all_goals simp only [load, List.foldr_cons, show Styled.empty.isEmpty = true from rfl, if_true]
  · omega
  · split <;> omega
  · rename_i h
    simp [h.1]
  · rename_i wide
    simp only [Styled.length_cutAt_snd]
    have hword : word.glyphs ≠ [] := by
      intro h
      simp [Styled.width, Styled.shown, h] at wide
    have := List.length_pos_iff.mpr hword
    by_cases hline : line.isEmpty
    · have : 1 ≤ cutCount limit line word := by
        simp only [cutCount, hline, if_true]
        omega
      simp only [hline, if_true]
      omega
    · simp only [hline, Bool.false_eq_true, if_false]
      omega
  · omega
  · split <;> omega

/-- The lines of a text in a place that is so many columns wide. -/
def lines (limit : Nat) (text : String) : List String :=
  let s := Styled.ofChars text.toList
  if s.width ≤ limit then [text] else (fill limit .empty (s.splitAt ' ')).map Styled.written

end SurveyExport.Wrapping
