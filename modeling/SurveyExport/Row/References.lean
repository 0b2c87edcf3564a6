import SurveyExport.Cell
import SurveyExport.Text.Word

/-!
# References between answers

A text may refer to another answer of its row by `$` and the key in braces. Every reference to an
answer that is not blank is replaced by the answer's display. All replacements use the row as it was
before, and text that is put in is not searched again.
-/

namespace SurveyExport.Row

/-- The key of a reference whose `$` has been read, if the characters go on as one. -/
def reference? : List Char → Option (List Char)
  | '{' :: cs =>
    let key := cs.takeWhile Text.isWord
    if key.isEmpty then none
    else
      match cs.dropWhile Text.isWord with
      | '}' :: _ => some key
      | _ => none
  | _ => none

/-- The reference with a key, as it is written. -/
def referenceText (key : List Char) : List Char := '$' :: '{' :: key ++ ['}']

/-- What a reference with a key is replaced by: the value of the key, or the reference itself. -/
def replacement (value : String → Option String) (key : List Char) : List Char :=
  ((value (String.ofList key)).map String.toList).getD (referenceText key)

/--
The characters with references replaced; `skip` counts the characters of a reference that are still
to be passed over.
-/
def substituteFrom (value : String → Option String) : Nat → List Char → List Char
  | _, [] => []
  | 0, c :: cs =>
    match (if c = '$' then reference? cs else none) with
    | some key => replacement value key ++ substituteFrom value (key.length + 2) cs
    | none => c :: substituteFrom value 0 cs
  | skip + 1, _ :: cs => substituteFrom value skip cs

/-- The display of an answer that a reference may be replaced by. -/
def referenced (row : Row) (key : String) : Option String :=
  ((row.get? key).filter (!·.isBlank)).map Cell.display

/-- The cell with the references in it replaced by answers of a row. -/
def substituteCell (row : Row) : Cell → Cell
  | .text s => .text (String.ofList (substituteFrom (referenced row) 0 s.toList))
  | c => c

/-- The row with all references in its texts replaced. -/
def substitute (row : Row) : Row := row.mapValues fun _ c ↦ row.substituteCell c

end SurveyExport.Row
