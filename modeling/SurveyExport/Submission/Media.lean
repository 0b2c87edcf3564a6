import SurveyExport.Submission.Basic
import SurveyExport.Text.Search

/-!
# Addresses of media files

The answer to a media question is a file name. Its address is that of the first attachment whose
stored path ends with the name; a host is put before an address that begins with a slash.
-/

namespace SurveyExport.Attachment

/-- A host without the slashes at its end. -/
def trimHost (host : String) : String :=
  String.ofList (host.toList.reverse.dropWhile (· == '/')).reverse

/-- The address of an attachment: where it is fetched, or else the path of stored media. -/
def address (a : Attachment) : String := a.downloadUrl.getD ("/media/" ++ a.filename)

/-- An address with a host before it, if it begins with a slash and there is a host. -/
def withHost (host : Option String) (address : String) : String :=
  match host with
  | some host => if Text.beginsWith "/" address then trimHost host ++ address else address
  | none => address

/-- The address of the file with a name, if an attachment's stored path ends with the name. -/
def resolve? (host : Option String) (files : List Attachment) (name : String) : Option String :=
  if name.isEmpty then none
  else (files.find? fun a ↦ Text.finishesWith name a.filename).map fun a ↦ withHost host a.address

end SurveyExport.Attachment
