import SurveyExport.Text.WordTable

/-!
# Word characters

A reference to another answer, as in `${name}`, is spelled with word characters. This is the
Unicode notion of a word: letters, marks, decimal digits, connectors such as `_`, and the two
join controls.
-/

namespace SurveyExport.Text

/-- Whether a code point lies in one of the ranges. -/
def inRanges (ranges : List (Nat × Nat)) (n : Nat) : Bool :=
  ranges.any fun r ↦ r.1 ≤ n && n ≤ r.2

/-- The word characters; for ASCII they are the letters, the digits and `_`. -/
def isWord (c : Char) : Bool :=
  if c.toNat < 128 then c.isAlphanum || c == '_' else inRanges wordRanges c.toNat

/-- A letter or digit of ASCII is a word character. -/
theorem isWord_of_isAlphanum {c : Char} (hc : c.toNat < 128) (h : c.isAlphanum = true) :
    isWord c = true := by
  simp [isWord, hc, h]

end SurveyExport.Text
