import SurveyExport.Text.Search

/-!
# Stored keys

A document store refuses keys that begin with `$` or hold a point, apart from its query operators.
Such a key is stored with its leading `$` and every point replaced by fixed marks, and the marks
are replaced back when the data is read.
-/

namespace SurveyExport.KeyEscape

/-- The query operators; they are keys that are never escaped. -/
def operators : List String :=
  ["$or", "$and", "$exists", "$in", "$gt", "$gte", "$lt", "$lte", "$regex", "$options", "$all"]

/-- The mark that stands for a leading `$`. -/
def dollarMark : List Char := "JA==".toList

/-- The mark that stands for a point. -/
def pointMark : List Char := "Lg==".toList

/-- Whether the store refuses a key. -/
def isRefused (key : String) : Bool :=
  !operators.contains key && (key.toList.head? == some '$' || key.toList.contains '.')

/-- The characters with every point replaced by its mark. -/
def markPoints (cs : List Char) : List Char :=
  cs.flatMap fun c ↦ if c = '.' then pointMark else [c]

/-- The characters of a key as they are stored. -/
def encodeChars : List Char → List Char
  | '$' :: cs => dollarMark ++ markPoints cs
  | cs => markPoints cs

/-- The key as it is stored. -/
def encode (key : String) : String := String.ofList (encodeChars key.toList)

/-- The characters of a stored key with the marks replaced back. -/
def decodeChars (cs : List Char) : List Char :=
  match dollarMark.isPrefixOf? cs with
  | some rest => Text.replaceFrom pointMark ['.'] 0 ('$' :: rest)
  | none => Text.replaceFrom pointMark ['.'] 0 cs

/-- The key that a stored key stands for. -/
def decode (key : String) : String := String.ofList (decodeChars key.toList)

/-- A stored key holds no point. -/
theorem point_not_mem_markPoints (cs : List Char) : '.' ∉ markPoints cs := by
  simp only [markPoints, List.mem_flatMap, not_exists, not_and]
  intro c _
  split
  · decide
  · rename_i h
    simp [Ne.symm h]

end SurveyExport.KeyEscape
