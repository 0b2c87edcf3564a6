import SurveyExport.SystemFile.Dictionary
import SurveyExport.Text.Blank

/-!
# Reading the header of a system file

The header says which program wrote the file, how many segments a case has, and how many cases there
are, if the file was finished.
-/

namespace SurveyExport.SystemFile

/-- What the header of a file says. -/
structure Header where
  product : String
  /-- The number of segments of a case. -/
  caseSize : Nat
  /-- The number of cases; none if the file was not finished. -/
  cases : Option Nat
  label : String
deriving DecidableEq, Repr

namespace Header

/-- So many bytes from a place on. -/
def slice (bs : List UInt8) (start length : Nat) : List UInt8 := (bs.drop start).take length

/-- The text of a part of the header, without the blanks at its end. -/
def textAt (bs : List UInt8) (start length : Nat) : String :=
  Text.trimEnd (Text.decodeLossy (slice bs start length))

/-- The whole number at a place. -/
def intAt (bs : List UInt8) (start : Nat) : Int := ofInt32 (slice bs start 4)

/-- Reads the header of a file. -/
def ofBytes (bs : List UInt8) : Except HeaderFault Header :=
  let caseSize := intAt bs 68
  let cases := intAt bs countOffset
  if bs.length < headerLength then .error .tooShort
  else if slice bs 0 4 ≠ magic then .error .wrongMark
  else if intAt bs 64 ≠ 2 then .error .wrongLayout
  else if caseSize < 0 then .error .negativeCaseSize
  else
    .ok {
      product := textAt bs 4 60
      caseSize := caseSize.toNat
      cases := if cases < 0 then none else some cases.toNat
      label := textAt bs 109 64 }

end Header

end SurveyExport.SystemFile
