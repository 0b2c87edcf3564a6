/-!
# Finding and replacing parts of a text

Searching goes from left to right and occurrences do not overlap. All functions work on the
characters of a text; `…Text` versions take and give `String`.
-/

namespace SurveyExport.Text

/--
The characters with each occurrence of `pattern` replaced by `value`; `skip` counts the
characters of an occurrence that are still to be passed over.
-/
def replaceFrom (pattern value : List Char) : Nat → List Char → List Char
  | _, [] => []
  | 0, c :: cs =>
    if pattern.isPrefixOf (c :: cs) then value ++ replaceFrom pattern value (pattern.length - 1) cs
    else c :: replaceFrom pattern value 0 cs
  | skip + 1, _ :: cs => replaceFrom pattern value skip cs

/-- The text after a given beginning, if it begins so. -/
def stripStart? (start s : String) : Option String :=
  (start.toList.isPrefixOf? s.toList).map String.ofList

/-- Whether a text begins so. -/
def beginsWith (start s : String) : Bool := start.toList.isPrefixOf s.toList

/-- Whether a text ends so. -/
def finishesWith (ending s : String) : Bool := ending.toList.isSuffixOf s.toList

/-- The characters before and after the last occurrence of `d`, if there is one. -/
def splitLastChars? (d : Char) : List Char → Option (List Char × List Char)
  | [] => none
  | c :: cs =>
    match splitLastChars? d cs with
    | some (before, after) => some (c :: before, after)
    | none => if c = d then some ([], cs) else none

/-- The texts before and after the last occurrence of `d`, if there is one. -/
def splitLast? (d : Char) (s : String) : Option (String × String) :=
  (splitLastChars? d s.toList).map fun p ↦ (String.ofList p.1, String.ofList p.2)

/-- The part of a path after its last slash; a path without a slash is one segment. -/
def lastSegment (path : String) : String := ((splitLast? '/' path).map (·.2)).getD path

/-- The two sides of the last occurrence make up the text, and the right side is free of it. -/
theorem splitLastChars?_eq_some {d : Char} {cs before after : List Char}
    (h : splitLastChars? d cs = some (before, after)) :
    cs = before ++ d :: after ∧ d ∉ after := by
  induction cs generalizing before with
  | nil => simp [splitLastChars?] at h
  | cons c cs ih =>
    simp only [splitLastChars?] at h
    split at h
    · rename_i b a hs
      obtain ⟨rfl, rfl⟩ := by simpa using h
      obtain ⟨hcs, hd⟩ := ih hs
      exact ⟨by rw [List.cons_append, ← hcs], hd⟩
    · rename_i hs
      split at h
      · rename_i hc
        obtain ⟨rfl, rfl⟩ := by simpa using h
        refine ⟨by simp [hc], ?_⟩
        clear h ih
        induction cs with
        | nil => simp
        | cons c' cs' ih' =>
          simp only [splitLastChars?] at hs
          split at hs
          · simp at hs
          · rename_i hs'
            split at hs
            · simp at hs
            · rename_i hc'
              simp only [List.mem_cons, not_or]
              exact ⟨fun h ↦ hc' h.symm, ih' hs'⟩
      · simp at h

/-- Joins texts with a separator between two neighbours. -/
def join (separator : String) (parts : List String) : String := separator.intercalate parts

end SurveyExport.Text
