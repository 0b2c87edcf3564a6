import SurveyExport.Form.Label
import SurveyExport.Text.Blank

/-!
# Questions

The types of questions a form can ask, the type of value that each is bound to, and questions with
their choices. A type name that is not known is kept as it is, and its answers are text.

* `BindType.ofName?_name`: the name of a bind type names it.
-/

namespace SurveyExport

/-- The type of value that a question is bound to. -/
inductive BindType where
  | string
  | int
  | decimal
  | date
  | dateTime
  | time
  | geopoint
  | geotrace
  | geoshape
  | select
  | select1
  | binary
  | barcode
  | osm
deriving DecidableEq, Repr

namespace BindType

/-- The name of a bind type. -/
def name : BindType → String
  | string => "string"
  | int => "int"
  | decimal => "decimal"
  | date => "date"
  | dateTime => "dateTime"
  | time => "time"
  | geopoint => "geopoint"
  | geotrace => "geotrace"
  | geoshape => "geoshape"
  | select => "select"
  | select1 => "select1"
  | binary => "binary"
  | barcode => "barcode"
  | osm => "osm"

/-- All bind types. -/
def all : List BindType :=
  [string, int, decimal, date, dateTime, time, geopoint, geotrace, geoshape, select, select1,
    binary, barcode, osm]

/-- The bind type with a name. -/
def ofName? (s : String) : Option BindType := all.find? (·.name == s)

/-- Reads a bind type: its name, or an object with its name as the only key. -/
def ofJson? : Json → Option BindType := Json.named? ofName?

/-- The types whose answers become numbers or dates in an export. -/
def isConverted : BindType → Bool
  | int | decimal | date => true
  | _ => false

/-- The name of a bind type names it. -/
@[simp] theorem ofName?_name (t : BindType) : ofName? t.name = some t := by cases t <;> decide

end BindType

/-- The types of questions. -/
inductive QuestionType where
  | text
  | integer
  | decimal
  | range
  | date
  | dateTime
  | time
  | geopoint
  | geotrace
  | geoshape
  | selectOne
  | selectMultiple
  | photo
  | image
  | audio
  | video
  | file
  | barcode
  | calculate
  | acknowledge
  | note
  | osm
  /-- The time at which the interview began. -/
  | startTime
  /-- The time at which the interview ended. -/
  | endTime
  | today
  | deviceId
  /-- A type that is not known, with its name. -/
  | other (name : String)
deriving DecidableEq, Repr

namespace QuestionType

/-- The type with a name; blanks around the name do not count. -/
def ofName (s : String) : QuestionType :=
  match Text.trim s with
  | "text" | "string" => text
  | "integer" | "int" => integer
  | "decimal" => decimal
  | "range" => range
  | "date" => date
  | "dateTime" | "datetime" => dateTime
  | "time" => time
  | "geopoint" | "gps" => geopoint
  | "geotrace" => geotrace
  | "geoshape" => geoshape
  | "select one" | "select_one" | "select1" => selectOne
  | "select all that apply" | "select_multiple" | "select" => selectMultiple
  | "photo" => photo
  | "image" => image
  | "audio" => audio
  | "video" => video
  | "file" => file
  | "barcode" => barcode
  | "calculate" => calculate
  | "acknowledge" | "trigger" => acknowledge
  | "note" => note
  | "osm" => osm
  | "start" => startTime
  | "end" => endTime
  | "today" => today
  | "deviceid" => deviceId
  | name => other name

/-- The name of a type. -/
def name : QuestionType → String
  | text => "text"
  | integer => "integer"
  | decimal => "decimal"
  | range => "range"
  | date => "date"
  | dateTime => "dateTime"
  | time => "time"
  | geopoint => "geopoint"
  | geotrace => "geotrace"
  | geoshape => "geoshape"
  | selectOne => "select one"
  | selectMultiple => "select all that apply"
  | photo => "photo"
  | image => "image"
  | audio => "audio"
  | video => "video"
  | file => "file"
  | barcode => "barcode"
  | calculate => "calculate"
  | acknowledge => "acknowledge"
  | note => "note"
  | osm => "osm"
  | startTime => "start"
  | endTime => "end"
  | today => "today"
  | deviceId => "deviceid"
  | other name => name

/-- The type of value that the answers are bound to. -/
def bindType : QuestionType → BindType
  | integer => .int
  | decimal | range => .decimal
  | date | today => .date
  | dateTime | startTime | endTime => .dateTime
  | time => .time
  | geopoint => .geopoint
  | geotrace => .geotrace
  | geoshape => .geoshape
  | selectOne => .select1
  | selectMultiple => .select
  | photo | image | audio | video | file => .binary
  | barcode => .barcode
  | osm => .osm
  | text | calculate | acknowledge | note | deviceId | other _ => .string

/-- Notes are shown to the interviewer and have no answers. -/
def isNote : QuestionType → Bool
  | note => true
  | _ => false

/-- The types whose answers are names of attached media files. -/
def isMedia : QuestionType → Bool
  | photo | image | audio | video => true
  | _ => false

/-- The types whose answers are chosen from a list. -/
def isSelect : QuestionType → Bool
  | selectOne | selectMultiple => true
  | _ => false

end QuestionType

/-- A choice of a select question. -/
structure Choice where
  name : String
  label : Option Label := none
deriving DecidableEq, Repr

/-- A question of a form. -/
structure Question where
  name : String
  /-- The names on the path to the question, with slashes between; answers are stored under it. -/
  xpath : String
  type : QuestionType
  label : Option Label := none
  /-- The choices listed with the question itself. -/
  choices : List Choice := []
  /-- The name of one of the form's shared choice lists. -/
  itemset : Option String := none
  /-- A condition on the choices that are offered. -/
  choiceFilter : Option String := none
  /-- Whether the choices are offered in random order. -/
  randomize : Bool := false
  /-- A hashtag that classifies the answers. -/
  hashtag : Option String := none
deriving DecidableEq, Repr

namespace Question

/-- Whether the choices come from a shared list although there may be own ones. -/
def usesItemset (q : Question) : Bool :=
  q.itemset.isSome && ((q.choices.isEmpty && q.choiceFilter.isSome) || q.randomize)

end Question

end SurveyExport
