import SurveyExport.SystemFile.Dictionary
import SurveyExport.SystemFile.Names

/-!
# Writing a system file

A draft holds the dictionary and the cases accepted so far. When the file is finished, the number of
cases is put into the header. A case is refused, and the draft kept, if it has too few or too many
values or one of the wrong kind.
-/

namespace SurveyExport.SystemFile

/-- Refuses the first variable at fault, given the names before it in lower case. -/
def checkVariables (seen : List String) : List Variable → Except Fault Unit
  | [] => .ok ()
  | v :: rest =>
    if v.name.isEmpty || maxNameLength < v.name.utf8ByteSize then .error (.invalidName v.name)
    else if seen.contains (Text.lowercase v.name) then .error (.duplicateVariable v.name)
    else
      match v.type with
      | .text width =>
        if width = 0 || maxWidth < width then .error (.invalidWidth v.name width)
        else checkVariables (Text.lowercase v.name :: seen) rest
      | .numeric => checkVariables (Text.lowercase v.name :: seen) rest

/-- A system file in the making. -/
structure Draft where
  vars : List Variable
  /-- The dictionary, with an unknown number of cases. -/
  dictionary : List UInt8
  /-- What has been written after the dictionary, the latest case first. -/
  written : List (List UInt8) := []
  /-- The number of cases. -/
  count : Nat := 0

/-- The greatest number of cases. -/
def maxCases : Nat := 2147483647

namespace Draft

/-- A draft without cases. -/
def start (info : FileInfo) (vars : List Variable) : Except Fault Draft :=
  if vars.isEmpty then .error .noVariables
  else do
    checkVariables [] vars
    pure {
      vars
      dictionary := dictionaryBytes info vars (shortNames (vars.map (·.name))) }

/-- Refuses the first value that is not of the kind its variable holds. -/
def checkKinds : List Variable → List Value → Except Fault Unit
  | v :: vars, value :: values =>
    match v.type, value with
    | .numeric, .text _ => .error (.wrongKind v.name true)
    | .text _, .number _ => .error (.wrongKind v.name false)
    | _, _ => checkKinds vars values
  | _, _ => .ok ()

/-- A value as it is written for a variable; a number that is not finite is missing. -/
def valueBytes (v : Variable) : Value → List UInt8
  | .number bits =>
    float64 (((bits.map Float.ofBits).filter fun x ↦ (Binary64.ofFloat x).isFinite).getD
      missingNumber)
  | .text s =>
    match v.type with
    | .text width =>
      let bs := padded width s
      bs ++ List.replicate (v.type.segments * 8 - bs.length) 32
    | .numeric => []

/-- Adds a case. -/
def addCase (d : Draft) (values : List Value) : Except Fault Unit × Draft :=
  if values.length ≠ d.vars.length then
    (.error (.caseLength d.vars.length values.length), d)
  else
    match checkKinds d.vars values with
    | .error fault => (.error fault, d)
    | .ok _ =>
      let written := (d.vars.zipWith valueBytes values).flatten :: d.written
      if maxCases ≤ d.count then (.error .tooManyCases, { d with written })
      else (.ok (), { d with written, count := d.count + 1 })

/-- The bytes of the dictionary with the number of cases in the header. -/
def countedDictionary (d : Draft) : List UInt8 :=
  d.dictionary.take countOffset ++ int32 d.count ++ d.dictionary.drop (countOffset + 4)

/-- The finished file. -/
def finish (d : Draft) : List UInt8 := d.countedDictionary ++ d.written.reverse.flatten

/-- A refused case is not counted. -/
theorem count_addCase_of_error {d : Draft} {values : List Value} {fault : Fault}
    (h : (d.addCase values).1 = .error fault) : (d.addCase values).2.count = d.count := by
  unfold addCase at h ⊢
  split
  · rfl
  · rename_i hlen
    rw [if_neg hlen] at h
    split
    · rfl
    · rename_i hkinds
      rw [hkinds] at h
      split
      · rfl
      · rename_i hmax
        simp [if_neg hmax] at h

end Draft

end SurveyExport.SystemFile
