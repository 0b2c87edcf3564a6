import SurveyExport.Decimal.Numeral
import SurveyExport.Json.Writer
import SurveyExport.Text.Search
import SurveyExport.Workbook.Basic

/-!
# The parts of a workbook file

The file of a workbook is an archive of XML parts: one for each worksheet, one that lists them, one
with the formats of numbers, and those that tell a reader where the others are. Texts stand in the
cells that hold them.
-/

namespace SurveyExport.Workbook

/-! ### Markup -/

/-- Whether characters begin with what a reader takes for an escaped character. -/
def beginsEscape : List Char → Bool
  | '_' :: 'x' :: a :: b :: c :: d :: '_' :: _ => [a, b, c, d].all Numeral.isHexDigit
  | _ => false

/-- Whether a character cannot stand in XML as it is. -/
def isRefusedChar (c : Char) : Bool :=
  (c.toNat < 32 && c != '\t' && c != '\n') || c.toNat == 0xFFFE || c.toNat == 0xFFFF

/-- A character that cannot stand in XML, by its number in four digits. -/
def numbered (c : Char) : List Char :=
  let digits := (Nat.toDigits 16 c.toNat).map Char.toUpper
  ['_', 'x'] ++ List.replicate (4 - digits.length) '0' ++ digits ++ ['_']

/-- Characters as the text of an element or of an attribute. -/
def escapedChars : List Char → List Char
  | [] => []
  | c :: cs =>
    let written :=
      if c = '&' then "&amp;".toList
      else if c = '<' then "&lt;".toList
      else if c = '>' then "&gt;".toList
      else if c = '"' then "&quot;".toList
      else if isRefusedChar c || beginsEscape (c :: cs) then numbered c
      else [c]
    written ++ escapedChars cs

/-- A text as that of an element or of an attribute. -/
def escaped (s : String) : String := String.ofList (escapedChars s.toList)

/-- An element with attributes, around the markup of what it holds. -/
def element (name : String) (attributes : List (String × String)) (inner : String) : String :=
  let shown := attributes.map fun a ↦ " " ++ a.1 ++ "=\"" ++ escaped a.2 ++ "\""
  "<" ++ name ++ Text.join "" shown ++
    if inner.isEmpty then "/>" else ">" ++ inner ++ "</" ++ name ++ ">"

/-- The start of an XML part. -/
def declaration : String := "<?xml version=\"1.0\" encoding=\"UTF-8\" standalone=\"yes\"?>\n"

/-- The name of a vocabulary of elements: a path below the authority that names all of them. -/
def vocabulary (path : List String) : String :=
  Text.join "/" (["http:", "", "schemas.openxmlformats.org"] ++ path)

/-- The vocabulary of workbooks. -/
def mainVocabulary : String := vocabulary ["spreadsheetml", "2006", "main"]

/-- The vocabulary of relations inside a document. -/
def documentRelations : String := vocabulary ["officeDocument", "2006", "relationships"]

/-! ### Parts -/

/-- The number of a format among the formats of cells. -/
def styleOf : Option String → Nat
  | none => 0
  | some format => if format = dateFormat then 1 else 2

/-- The element of a cell. -/
def cellElement (line column : Nat) (c : GridCell) : String :=
  let place := ("r", cellName line column)
  match c with
  | .text s =>
    element "c" [place, ("t", "inlineStr")]
      (element "is" [] (element "t" [("xml:space", "preserve")] (escaped s)))
  | .number x format =>
    element "c" [place, ("s", toString (styleOf format))] (element "v" [] (Json.floatText x))
  | .bool b => element "c" [place, ("t", "b")] (element "v" [] (if b then "1" else "0"))

/-- The element of a row. -/
def rowElement (row : Nat × GridRow) : String :=
  let cells := row.2.zipIdx.filterMap fun c ↦ c.1.map (cellElement row.1 c.2)
  element "row" [("r", toString (row.1 + 1))] (Text.join "" cells)

/-- The part of a worksheet. -/
def sheetPart (w : Worksheet) : String :=
  declaration ++ element "worksheet" [("xmlns", mainVocabulary)]
    (element "sheetData" [] (Text.join "" (w.rows.reverse.map rowElement)))

/-- The place of the part of a worksheet, below the workbook's own. -/
def sheetPath (i : Nat) : String := "worksheets/sheet" ++ toString (i + 1) ++ ".xml"

/-- The part that lists the worksheets. -/
def workbookPart (b : Workbook) : String :=
  let sheets := b.worksheets.zipIdx.map fun e ↦
    element "sheet" [("name", e.1.name), ("sheetId", toString (e.2 + 1)),
      ("r:id", "rId" ++ toString (e.2 + 1))] ""
  declaration ++ element "workbook" [("xmlns", mainVocabulary), ("xmlns:r", documentRelations)]
    (element "sheets" [] (Text.join "" sheets))

/-- The part of the formats of cells: none, that of dates and that of date-times. -/
def stylesPart : String :=
  let formats := [dateFormat, dateTimeFormat].zipIdx.map fun e ↦
    element "numFmt" [("numFmtId", toString (164 + e.2)), ("formatCode", e.1)] ""
  let style := fun (format : Nat) ↦
    element "xf" [("numFmtId", toString format), ("fontId", "0"), ("fillId", "0"),
      ("borderId", "0"), ("applyNumberFormat", "1")] ""
  let border := Text.join "" (["left", "right", "top", "bottom", "diagonal"].map (element · [] ""))
  let fill := fun (pattern : String) ↦
    element "fill" [] (element "patternFill" [("patternType", pattern)] "")
  declaration ++ element "styleSheet" [("xmlns", mainVocabulary)]
    (element "numFmts" [("count", "2")] (Text.join "" formats) ++
      element "fonts" [("count", "1")]
        (element "font" [] (element "sz" [("val", "11")] "")) ++
      element "fills" [("count", "2")] (fill "none" ++ fill "gray125") ++
      element "borders" [("count", "1")] (element "border" [] border) ++
      element "cellStyleXfs" [("count", "1")] (style 0) ++
      element "cellXfs" [("count", "3")] (style 0 ++ style 164 ++ style 165))

/-- A part that relates other parts to one: the kinds and places of the others. -/
def relationsPart (relations : List (String × String)) : String :=
  let items := relations.zipIdx.map fun e ↦
    element "Relationship" [("Id", "rId" ++ toString (e.2 + 1)),
      ("Type", documentRelations ++ "/" ++ e.1.1), ("Target", e.1.2)] ""
  declaration ++
    element "Relationships" [("xmlns", vocabulary ["package", "2006", "relationships"])]
      (Text.join "" items)

/-- The part that names the content of all parts. -/
def contentTypesPart (b : Workbook) : String :=
  let spreadsheet := "application/vnd.openxmlformats-officedocument.spreadsheetml."
  let override := fun (path kind : String) ↦
    element "Override" [("PartName", path), ("ContentType", spreadsheet ++ kind ++ "+xml")] ""
  let sheets := (List.range b.worksheets.length).map fun i ↦
    override ("/xl/" ++ sheetPath i) "worksheet"
  declaration ++ element "Types" [("xmlns", vocabulary ["package", "2006", "content-types"])]
    (element "Default" [("Extension", "rels"),
        ("ContentType", "application/vnd.openxmlformats-package.relationships+xml")] "" ++
      element "Default" [("Extension", "xml"), ("ContentType", "application/xml")] "" ++
      override "/xl/workbook.xml" "sheet.main" ++ override "/xl/styles.xml" "styles" ++
      Text.join "" sheets)

/-- The parts of a workbook by their places in the archive. -/
def parts (b : Workbook) : List (String × String) :=
  let places := (List.range b.worksheets.length).map sheetPath
  [("[Content_Types].xml", contentTypesPart b),
    ("_rels/.rels", relationsPart [("officeDocument", "xl/workbook.xml")]),
    ("xl/workbook.xml", workbookPart b),
    ("xl/_rels/workbook.xml.rels",
      relationsPart (places.map (fun place ↦ ("worksheet", place)) ++ [("styles", "styles.xml")])),
    ("xl/styles.xml", stylesPart)] ++
  (places.zip b.worksheets).map fun e ↦ ("xl/" ++ e.1, sheetPart e.2)

/-- A workbook has a part for each of its worksheets, and five more. -/
theorem length_parts (b : Workbook) : (parts b).length = 5 + b.worksheets.length := by
  simp [parts]
  omega

end SurveyExport.Workbook
