import SurveyExport.Json.Fields
import SurveyExport.Json.Writer
import SurveyExport.Submission.Basic

/-!
# Submissions from JSON

How a JSON object becomes a record. A list of objects is the list of instances of a repeated group,
except under the keys of tags, notes and attachments; any other list holds single values. An object
in place of a single value is kept as its JSON text.
-/

namespace SurveyExport

/-- What is wrong with a submission. -/
inductive SubmissionFault where
  /-- The line is not JSON. -/
  | notJson
  /-- The line is not text. -/
  | notText
  /-- The JSON is no object; it is given in its written form. -/
  | notObject (found : String)
  /-- An attachment lacks its file name or has a field of the wrong type. -/
  | badAttachment
deriving DecidableEq, Repr

/-- A submission that cannot be read, with its number. -/
structure SubmissionError where
  ordinal : Nat
  fault : SubmissionFault
deriving DecidableEq, Repr

namespace SubmissionError

/-- What is wrong with the submission, in words. -/
def message (e : SubmissionError) : String :=
  match e.fault with
  | .notJson => s!"invalid json in submission {e.ordinal}"
  | .notText => s!"submission {e.ordinal}: stream did not contain valid UTF-8"
  | .notObject found => s!"submission {e.ordinal}: expected a JSON object, found {found}"
  | .badAttachment => s!"submission {e.ordinal}: invalid attachment"

end SubmissionError

namespace Scalar

/-- A JSON value as a single value. A whole number beyond 64 bits with sign is not kept exactly. -/
def ofJson : Json → Scalar
  | .null => .null
  | .bool b => .bool b
  | .int n => if Numeral.fits n then .int n else .float (Float.ofInt n)
  | .float x => .float x
  | .text s => .text s
  | v => .text v.write

end Scalar

namespace Attachment

/-- Reads an attachment. -/
def ofJson? (v : Json) : Option Attachment := do
  let fields ← v.fields? ["filename", "download_url", "mimetype"]
  some {
    filename := ← Json.required Json.text? fields "filename"
    downloadUrl := ← Json.optional Json.text? fields "download_url"
    mimetype := ← Json.optional Json.text? fields "mimetype" }

end Attachment

namespace Record

/-- A JSON value as a text of tags or notes. -/
def textOfJson : Json → String
  | .text s => s
  | .null => ""
  | v => v.write

/-- A note: the text of an object's `note`, or the value itself. -/
def noteOfJson (v : Json) : String :=
  match v with
  | .object fields => ((Entries.lookup "note" fields).map textOfJson).getD ""
  | v => textOfJson v

mutual

/-- Reads the answer under a key; repeated keys must have been merged. -/
def answer? (key : String) : Json → Except SubmissionFault Answer
  | .array items =>
    if key = MetaKey.tags then .ok (.tags (items.map textOfJson))
    else if key = MetaKey.notes then .ok (.notes (items.map noteOfJson))
    else if key = MetaKey.attachments then
      match items.mapM Attachment.ofJson? with
      | some files => .ok (.attachments files)
      | none => .error .badAttachment
    else if items.all Json.isObject then (instances? items).map .instances
    else .ok (.list (items.map Scalar.ofJson))
  | v => .ok (.scalar (.ofJson v))

/-- Reads the instances of a repeated group. -/
def instances? : List Json → Except SubmissionFault (List (List (String × Answer)))
  | [] => .ok []
  | .object fields :: rest => do
    let record ← ofFields? fields
    pure (record :: (← instances? rest))
  | _ :: rest => instances? rest

/-- Reads the answers of a record. -/
def ofFields? : List (String × Json) → Except SubmissionFault (List (String × Answer))
  | [] => .ok []
  | (k, v) :: rest => do
    let a ← answer? k v
    pure ((k, a) :: (← ofFields? rest))

end

/-- Reads a submission. -/
def ofJson (ordinal : Nat) (v : Json) : Except SubmissionError Record :=
  match v.merged with
  | .object fields => (ofFields? fields).mapError fun fault ↦ ⟨ordinal, fault⟩
  | other => .error ⟨ordinal, .notObject other.write⟩

end Record

end SurveyExport
