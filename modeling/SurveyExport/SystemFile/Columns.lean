import SurveyExport.Calendar.Reading
import SurveyExport.Row.Splitting
import SurveyExport.Sheet.Layout
import SurveyExport.SystemFile.Names

/-!
# Columns as variables

Every column of a sheet becomes a variable of a system file. Numbers, truth values and dates become
numbers, and so do the answers to a select-one all of whose choices are named by numerals; all else
becomes text. The choices of a select-one label the values of its variable.
-/

namespace SurveyExport.SystemFile

/-- How the cells of a column become values. -/
inductive Conversion where
  | number
  | date
  | dateTime
  | text
deriving DecidableEq, Repr

namespace Conversion

/-- The value of a cell that may be missing. -/
def value (conversion : Conversion) (cell : Option Cell) : Value :=
  match conversion with
  | number => .ofNumber (cell.bind Cell.number?)
  | text => .text ((cell.map Cell.display).getD "")
  | date | dateTime =>
    match cell with
    | some (.date d) => .ofDate d
    | some (.dateTime t) => .ofDateTime t
    | some (.text s) => ((Calendar.readTimestamp? s).map Value.ofDateTime).getD .missing
    | _ => .missing

/-- The variable with a name for a column that is converted so. -/
def variableNamed (name : String) : Conversion → Variable
  | number => .numeric name
  | date => { Variable.numeric name with format := ⟨.europeanDate, 40, 0⟩ }
  | dateTime => { Variable.numeric name with format := ⟨.dateTime, 40, 0⟩ }
  | text => .ofWidth name maxWidth

end Conversion

/-- Whether the number that a choice's name reads as stands for it: no digit would be lost. -/
def isNumericName (name : String) : Bool :=
  let digits :=
    match name.toList with
    | '-' :: cs => cs
    | cs => cs
  let zeroPadded :=
    match digits with
    | '0' :: c :: _ => c != '.'
    | _ => false
  !zeroPadded && (Numeral.readFloat? name).any fun x ↦ (Binary64.ofFloat x).isFinite

/-- Whether a question is a select-one all of whose choices are named by numerals. -/
def isNumericSelectOne (form : Form) (q : Question) : Bool :=
  let choices := form.choicesOf q
  q.type == .selectOne && !choices.isEmpty && choices.all fun c ↦ isNumericName c.name

/-- How the cells of a column become values. -/
def conversionOf (book : Codebook) (policy : SplitPolicy) (c : Column) : Conversion :=
  match c.origin with
  | .extra =>
    if c.key = MetaKey.id ∨ c.key = MetaKey.index ∨ c.key = MetaKey.parentIndex then .number
    else if c.key = MetaKey.submissionTime then .dateTime
    else .text
  | .choice _ name => if policy = .value && !isNumericName name then .text else .number
  | .component _ => .number
  | .question =>
    match c.type with
    | .int | .decimal => .number
    | .date => .date
    | _ =>
      if (book.questions.get? c.key).any (isNumericSelectOne book.form) then .number else .text

/-- The labels of a column's values: those of the choices of a select-one. -/
def valueLabelsOf (book : Codebook) (conversion : Conversion) (c : Column) : List ValueLabel :=
  match c.origin, book.questions.get? c.key with
  | .question, some q =>
    if q.type = .selectOne then
      (book.form.choicesOf q).map fun choice ↦
        { value :=
            match conversion with
            | .number => .ofNumber (Numeral.readFloat? choice.name)
            | _ => .text choice.name
          label := (book.languages.textOf choice.label).getD choice.name }
    else []
  | _, _ => []

/-- The variable of a column, once it has a name. -/
def variableOf (book : Codebook) (conversion : Conversion) (c : Column) (name : String) :
    Variable :=
  { conversion.variableNamed name with
    label := if c.label.isEmpty then none else some c.label
    valueLabels := valueLabelsOf book conversion c }

/-- The title that names a column; a component repeats the suffix of its geopoint's name. -/
def namingTitle (assigned : KeyMap String) (c : Column) : String :=
  match c.origin with
  | .component parent =>
    match (assigned.get? parent).bind clashSuffix? with
    | some digits => c.title ++ "_" ++ digits
    | none => c.title
  | _ => c.title

/--
The variables of columns, with the conversion of each, given the names of the columns before them.
There are none if the suffixes for a name that clashes run out.
-/
def variablesAfter? (draw : Nat → String) (limit : Nat) (book : Codebook) (policy : SplitPolicy)
    (pool : NamePool) (assigned : KeyMap String) :
    List Column → Option (List (Variable × Conversion))
  | [] => some []
  | c :: rest => do
    let (name, pool) ← pool.assign? draw limit (namingTitle assigned c)
    let conversion := conversionOf book policy c
    let others ←
      variablesAfter? draw limit book policy pool (assigned.insert c.key name) rest
    some ((variableOf book conversion c name, conversion) :: others)

/-- The variables of a sheet, with the conversion of each column. -/
def sheetVariables? (draw : Nat → String) (limit : Nat) (book : Codebook) (policy : SplitPolicy)
    (s : Sheet) : Option (List (Variable × Conversion)) :=
  variablesAfter? draw limit book policy {} KeyMap.empty s.columns

end SurveyExport.SystemFile
