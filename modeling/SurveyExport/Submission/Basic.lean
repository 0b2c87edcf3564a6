import SurveyExport.Entries

/-!
# Submissions

A submission is a record: an ordered list of keys with answers. The keys are xpaths of the form, or
metadata keys that begin with an underscore. The answer to a repeated group is a list of records,
one for each instance.
-/

namespace SurveyExport

/-- A single value of an answer. -/
inductive Scalar where
  | null
  | bool (b : Bool)
  /-- A whole number of 64 bits with sign. -/
  | int (n : Int)
  | float (x : Float)
  | text (s : String)

/-- A file that came with a submission. -/
structure Attachment where
  /-- The path under which the file is stored. -/
  filename : String
  /-- The address from which the file is fetched. -/
  downloadUrl : Option String := none
  mimetype : Option String := none
deriving DecidableEq, Repr

/-- The answer stored under a key. -/
inductive Answer where
  | scalar (value : Scalar)
  /-- The instances of a repeated group, in the order submitted. -/
  | instances (records : List (List (String × Answer)))
  /-- Several values that are no instances. -/
  | list (values : List Scalar)
  | tags (texts : List String)
  | notes (texts : List String)
  | attachments (files : List Attachment)

/-- The answers of a submission or of one instance of a repeated group, in order. -/
abbrev Record := List (String × Answer)

namespace Record

/-- The attachments of a record: those of the first answer that holds any. -/
def attachments (r : Record) : List Attachment :=
  (r.findSome? fun e ↦
    match e.2 with
    | .attachments files => some files
    | _ => none).getD []

end Record

/-! ### Metadata keys -/

namespace MetaKey

def id : String := "_id"
def uuid : String := "_uuid"
def submissionTime : String := "_submission_time"
/-- The number of a row among the rows of its sheet. -/
def index : String := "_index"
/-- The sheet that holds the parent of a row. -/
def parentTable : String := "_parent_table_name"
/-- The number of a row's parent in its sheet. -/
def parentIndex : String := "_parent_index"
def tags : String := "_tags"
def notes : String := "_notes"
def version : String := "_version"
def duration : String := "_duration"
def submittedBy : String := "_submitted_by"
def attachments : String := "_attachments"
def dateModified : String := "_date_modified"
def totalMedia : String := "_total_media"
def mediaCount : String := "_media_count"
def mediaAllReceived : String := "_media_all_received"

/-- The columns that end every sheet. -/
def sheetColumns : List String :=
  [id, uuid, submissionTime, index, parentTable, parentIndex, tags, notes, version, duration,
    submittedBy]

/-- The columns that end a wide table. -/
def wideColumns : List String :=
  [id, uuid, submissionTime, dateModified, tags, notes, version, duration, submittedBy,
    totalMedia, mediaCount, mediaAllReceived]

/-- The columns of the review status. -/
def reviewColumns : List String := ["_review_status", "_review_comment", "_review_date"]

end MetaKey

end SurveyExport
