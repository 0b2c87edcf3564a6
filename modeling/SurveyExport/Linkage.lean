import SurveyExport.Cell
import SurveyExport.KeyEscape
import SurveyExport.Submission.Media

/-!
# Linked rows

A submission becomes a row of the root section and one row for each instance of a repeated group, at
any depth. The instances of each section are numbered in the order of their visit, over all
submissions of an export, and the row of an instance names its own number, the number of the row
around it and that row's section.
-/

namespace SurveyExport

/-- How answers that name media files become addresses. -/
structure MediaRule where
  /-- The keys of the answers. -/
  keys : List String
  host : Option String

namespace MediaRule

/-- The cell of a single value: an address if the value names an attached file. -/
def cell (media : Option MediaRule) (files : List Attachment) (key : String) (value : Scalar) :
    Cell :=
  match media, value with
  | some rule, .text name =>
    if rule.keys.contains key then
      match Attachment.resolve? rule.host files name with
      | some address => .text address
      | none => .text name
    else .text name
  | _, value => .ofScalar value

end MediaRule

/-- For each section the number of its last instance so far. -/
abbrev Counters := KeyMap Nat

namespace Counters

/-- The number of a section's last instance; zero if it has none. -/
def count (c : Counters) (name : String) : Nat := (c.get? name).getD 0

/-- The counters after one more instance of a section. -/
def next (c : Counters) (name : String) : Counters := c.insert name (c.count name + 1)

end Counters

/-- The rows that a record becomes. -/
structure LinkedRows where
  /-- The record's own row. -/
  own : Row := KeyMap.empty
  /-- The rows of the instances inside, by section, in the order of their visit. -/
  repeats : KeyMap (List Row) := KeyMap.empty

namespace LinkedRows

/-- Adds rows to a section. -/
def addRows (repeats : KeyMap (List Row)) (name : String) (rows : List Row) : KeyMap (List Row) :=
  repeats.insert name ((repeats.get? name).getD [] ++ rows)

/-- Adds the rows of an instance of a section. -/
def addInstance (l : LinkedRows) (name : String) (inner : LinkedRows) : LinkedRows :=
  { l with
    repeats := inner.repeats.toList.foldl (fun m e ↦ addRows m e.1 e.2)
      (addRows l.repeats name [inner.own]) }

/-- The number of rows. -/
def rowCount (l : LinkedRows) : Nat := 1 + l.repeats.values.flatten.length

end LinkedRows

namespace Record

/-- The cell of an answer other than instances; attachments have none. -/
def cell? (media : Option MediaRule) (files : List Attachment) (key : String) :
    Answer → Option Cell
  | .scalar value => some (MediaRule.cell media files key value)
  | .list values =>
    some (.text (Text.join " " ((values.filter fun v ↦ !(Cell.ofScalar v).isNull).map fun v ↦
      (Cell.ofScalar v).display)))
  | .tags texts => some (.text (Text.join "," texts))
  | .notes texts => some (.text (Text.join "\r\n" texts))
  | .instances _ => none
  | .attachments _ => none

/-- The cells that link the row of an instance to the row around it. -/
def links (number : Nat) (parentIndex : Int) (parentTable : String) : Row :=
  KeyMap.ofList [(MetaKey.index, .int number), (MetaKey.parentIndex, .int parentIndex),
    (MetaKey.parentTable, .text parentTable)]

mutual

/-- Adds an answer of a record of a section to its rows; `index` is the record's number. -/
def linkAnswer (media : Option MediaRule) (files : List Attachment) (name : String) (index : Int)
    (key : String) : Answer → LinkedRows → Counters → LinkedRows × Counters
  | .instances records, rows, counters =>
    linkInstances media files name index (KeyEscape.decode key) records rows counters
  | answer, rows, counters =>
    match cell? media files key answer with
    | some c => ({ rows with own := rows.own.insert key c }, counters)
    | none => (rows, counters)

/-- Adds the answers of a record one after the other. -/
def linkAnswers (media : Option MediaRule) (files : List Attachment) (name : String) (index : Int) :
    List (String × Answer) → LinkedRows → Counters → LinkedRows × Counters
  | [], rows, counters => (rows, counters)
  | (key, answer) :: rest, rows, counters =>
    let linked := linkAnswer media files name index key answer rows counters
    linkAnswers media files name index rest linked.1 linked.2

/-- Adds the instances of the section `child` to the rows of the record around them. -/
def linkInstances (media : Option MediaRule) (files : List Attachment) (name : String)
    (index : Int) (child : String) :
    List (List (String × Answer)) → LinkedRows → Counters → LinkedRows × Counters
  | [], rows, counters => (rows, counters)
  | record :: rest, rows, counters =>
    let counters := counters.next child
    let number := counters.count child
    let inner := linkAnswers media files child number record {} counters
    let own := (links number index name).union inner.1.own
    linkInstances media files name index child rest
      (rows.addInstance child { inner.1 with own }) inner.2

end

/-- The rows of a submission that is number `index`, for the root section with a name. -/
def link (media : Option MediaRule) (name : String) (index : Int) (counters : Counters)
    (r : Record) : LinkedRows × Counters :=
  let (rows, counters) := linkAnswers media r.attachments name index r {} counters
  let own := (rows.own.insert MetaKey.index (.int index)).insert MetaKey.parentIndex (.int (-1))
  ({ rows with own }, counters)

end Record

end SurveyExport
