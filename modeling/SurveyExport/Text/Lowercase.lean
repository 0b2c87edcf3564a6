import SurveyExport.Text.CaseTable
import SurveyExport.Text.Word

/-!
# Lower case

Sheet names and variable names clash when they agree after lower-casing. The mapping is the full
Unicode one: beyond the simple mappings, `İ` becomes `i` with a dot above, and a capital sigma
becomes the final form at the end of a word.
-/

namespace SurveyExport.Text

/-- The cased characters: letters that are upper, lower or title case. -/
def isCased (c : Char) : Bool := inRanges casedRanges c.toNat

/-- The characters that are passed over when one looks for a cased neighbour. -/
def isCaseIgnorable (c : Char) : Bool := inRanges caseIgnorableRanges c.toNat

/-- The image of a code point in a run of lower-case mappings, if the run holds it. -/
def lowercaseInRun (n : Nat) (run : Nat × Nat × Nat × Nat) : Option Nat :=
  let (first, last, step, image) := run
  if first ≤ n && n ≤ last && (n - first) % step == 0 then some (image + (n - first)) else none

/-- The lower-case form of a character outside any context. -/
def lowercaseChar (c : Char) : List Char :=
  if c.toNat < 128 then [c.toLower]
  else if c == 'İ' then ['i', '\u0307']
  else
    match lowercaseRuns.findSome? (lowercaseInRun c.toNat) with
    | some n => [Char.ofNat n]
    | none => [c]

/-- Whether the first character that is not case-ignorable exists and is cased. -/
def meetsCased (cs : List Char) : Bool :=
  match cs.dropWhile isCaseIgnorable with
  | c :: _ => isCased c
  | [] => false

/--
Lower case of the characters `cs`, where `before` holds what stands before them, nearest first. A
capital sigma is final when a cased character comes before it and none after it.
-/
def lowercaseFrom (before : List Char) : List Char → List Char
  | [] => []
  | c :: cs =>
    (if c == 'Σ' then [if meetsCased before && !meetsCased cs then 'ς' else 'σ']
      else lowercaseChar c) ++ lowercaseFrom (c :: before) cs

/-- The lower-case form of a text. -/
def lowercase (s : String) : String := String.ofList (lowercaseFrom [] s.toList)

/-- ASCII letters in lower case; every other character stays. -/
def lowercaseAscii (s : String) : String := String.ofList (s.toList.map Char.toLower)

end SurveyExport.Text
