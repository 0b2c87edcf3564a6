import SurveyExport.Json.Reader
import SurveyExport.Submission.Reading
import SurveyExport.Text.Blank

/-!
# Files of submissions

A data file holds submissions in one of two layouts: one JSON array, or one JSON value on each
line. The first byte that is no white space tells them apart. In the second layout blank lines do
not count, and a line that cannot be read is an error of that submission alone.
-/

namespace SurveyExport

/-- Why a data file cannot be opened. -/
inductive DataFileError where
  /-- There is no such file, or it is not text. -/
  | unreadable
  /-- The array is not JSON. -/
  | notJson
deriving DecidableEq, Repr

/-- The submissions of an opened data file. -/
structure DataFile where
  /-- The number of submissions, if the layout tells it in advance. -/
  total : Option Nat
  /-- The submissions, or what is wrong with each, in order. -/
  submissions : List (Except SubmissionError Record)

namespace DataFile

/-- Numbers values from `n` on and reads each as a submission. -/
def readFrom (n : Nat) : List Json → List (Except SubmissionError Record)
  | [] => []
  | v :: rest => Record.ofJson n v :: readFrom (n + 1) rest

/-- A data file that holds the given values. -/
def ofValues (values : List Json) : DataFile :=
  ⟨some values.length, readFrom 1 values⟩

/-- White space before the first value of a file. -/
def isFileSpace (b : UInt8) : Bool := b == 32 || b == 9 || b == 10 || b == 12 || b == 13

/-- The text of bytes, if they are one. -/
def textOf? (bs : List UInt8) : Option String := String.fromUTF8? ⟨bs.toArray⟩

/-- A line, given in reverse, without the carriage return at its end. -/
def endLine : List UInt8 → List UInt8
  | 13 :: line => line.reverse
  | line => line.reverse

/--
The lines of bytes. A line ends with a line feed, which a carriage return may precede; the last
line may lack its end. `line` and `done` hold what has been read, in reverse.
-/
def linesFrom (line : List UInt8) (done : List (List UInt8)) : List UInt8 → List (List UInt8)
  | [] => (if line.isEmpty then done else line.reverse :: done).reverse
  | b :: rest =>
    if b = 10 then linesFrom [] (endLine line :: done) rest else linesFrom (b :: line) done rest

/-- Reads the submission on a line that is number `n`; a blank line holds none. -/
def readLine? (n : Nat) (line : List UInt8) : Option (Except SubmissionError Record) :=
  match textOf? line with
  | none => some (.error ⟨n, .notText⟩)
  | some text =>
    if (Text.trim text).isEmpty then none
    else
      match Json.read? text with
      | none => some (.error ⟨n, .notJson⟩)
      | some v => some (Record.ofJson n v)

/-- Reads the submissions on lines, numbered from `n` on. -/
def readLines (n : Nat) : List (List UInt8) → List (Except SubmissionError Record)
  | [] => []
  | line :: rest =>
    match readLine? n line with
    | none => readLines n rest
    | some result => result :: readLines (n + 1) rest

/-- Opens a data file with the given content. -/
def ofBytes (bs : List UInt8) : Except DataFileError DataFile :=
  let bs := bs.dropWhile isFileSpace
  match bs with
  | 91 :: _ =>
    match textOf? bs with
    | none => .error .unreadable
    | some text =>
      match (Json.read? text).bind Json.items? with
      | none => .error .notJson
      | some values => .ok (ofValues values)
  | _ => .ok ⟨none, readLines 1 (linesFrom [] [] bs)⟩

end DataFile

end SurveyExport
