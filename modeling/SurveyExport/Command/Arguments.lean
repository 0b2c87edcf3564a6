import SurveyExport.Command.Grammar
import SurveyExport.Options.Basic
import SurveyExport.Target.Format

/-!
# Command lines

The program has two commands. `export` writes an export file; `sections` lists the sheets that an
export would have. Options that concern how the program reports on its work may stand in front of
the command or behind it; those behind it count.
-/

namespace SurveyExport.Command

/-- The export options that a command line sets, over those of a configuration file. -/
structure Policy where
  /-- The path of the configuration file. -/
  config : Option String
  /-- The names of the flags that were given. -/
  flags : List String
  delimiter : Option Delimiter
  host : Option String
  language : Option String
  naRep : Option String
  columns : Option (List String)
deriving DecidableEq, Repr

/-- What the `export` command is given. -/
structure ExportArguments where
  /-- The path of the survey definition. -/
  form : String
  /-- The path of the submissions. -/
  data : String
  format : ExportFormat
  /-- The path of the export file; it is named for the form if absent. -/
  output : Option String
  policy : Policy
deriving DecidableEq, Repr

/-- What the `sections` command is given. -/
structure SectionsArguments where
  /-- The path of the survey definition. -/
  form : String
  format : ExportFormat
  policy : Policy
deriving DecidableEq, Repr

/-- What the program is asked to do. -/
inductive Task where
  | makeExport (a : ExportArguments)
  | listSections (a : SectionsArguments)
deriving DecidableEq, Repr

/-- The paths of the files that a task reads. -/
def Task.inputs : Task → List String
  | makeExport a => a.form :: a.data :: a.policy.config.toList
  | listSections a => a.form :: a.policy.config.toList

/-- A command line that was read. -/
structure Invocation where
  task : Task
  /-- The path of the file that takes the program's log. -/
  logFile : Option String
deriving DecidableEq, Repr

/-- The version of the program. -/
def version : String := "0.1.0"

/-- The name of the program. -/
def programName : String := "odk-export"

/-! ### Options -/

/-- The options that every level has. -/
def sharedSpecs : List OptionSpec := [
  { name := "help", letter := some 'h', rule := .help },
  { name := "verbose", letter := some 'v', rule := .count },
  { name := "quiet", letter := some 'q', rule := .count },
  { name := "color", rule := .single (.oneOf ["auto", "always", "never"]) },
  { name := "log-level", rule := .single (.oneOf ["error", "warn", "info", "debug", "trace"]) },
  { name := "log-format", rule := .single (.oneOf ["pretty", "compact", "json"]) },
  { name := "log-file", rule := .single .path }]

/-- The options in front of the command. -/
def rootSpecs : List OptionSpec :=
  { name := "version", letter := some 'V', rule := .version } :: sharedSpecs

/-- The names of the flags of export options. -/
def policyFlags : List String :=
  ["no-split-select-multiples", "binary-select-multiples", "value-select-multiples",
    "show-choice-labels", "include-labels", "labels-only", "remove-group-name",
    "truncate-group-title", "include-images", "include-hxl", "include-reviews"]

/-- The options that both commands have. -/
def commandSpecs : List OptionSpec :=
  sharedSpecs ++ [
    { name := "form", rule := .single .path },
    { name := "format", rule := .single (.oneOf (ExportFormat.all.map (·.name))) },
    { name := "config", rule := .single .path },
    { name := "group-delimiter", rule := .single (.oneOf ["slash", "dot"]) },
    { name := "host", rule := .single .text },
    { name := "language", rule := .single .text },
    { name := "na-rep", rule := .single .text },
    { name := "columns", rule := .many }] ++
  policyFlags.map fun name ↦ { name, rule := .flag }

/-- The options of the `export` command. -/
def exportSpecs : List OptionSpec :=
  commandSpecs ++ [
    { name := "data", rule := .single .path },
    { name := "output", letter := some 'o', rule := .single .path },
    { name := "no-progress", rule := .flag }]

/-- The commands. -/
def commandNames : List String := ["export", "sections", "help"]

/-- The options that exclude each other. -/
def conflicts : List (String × String) := [("verbose", "quiet")]

/-! ### Reading -/

namespace Policy

/-- The policy that options set. -/
def ofGiven (g : Given) : Policy where
  config := g.value? "config"
  flags := policyFlags.filter g.has
  delimiter := (g.value? "group-delimiter").bind Delimiter.ofName?
  host := g.value? "host"
  language := g.value? "language"
  naRep := g.value? "na-rep"
  columns := g.values? "columns"

/-- Whether a flag was given. -/
def has (p : Policy) (name : String) : Bool := p.flags.contains name

/-- Options with those of the policy set. -/
def apply (p : Policy) (o : Options) : Options :=
  { o with
    splitSelectMultiples := o.splitSelectMultiples && !p.has "no-split-select-multiples"
    binarySelectMultiples := o.binarySelectMultiples || p.has "binary-select-multiples"
    valueSelectMultiples := o.valueSelectMultiples || p.has "value-select-multiples"
    showChoiceLabels := o.showChoiceLabels || p.has "show-choice-labels"
    includeLabels := o.includeLabels || p.has "include-labels"
    includeLabelsOnly := o.includeLabelsOnly || p.has "labels-only"
    removeGroupName := o.removeGroupName || p.has "remove-group-name"
    truncateGroupTitle := o.truncateGroupTitle || p.has "truncate-group-title"
    includeImages := o.includeImages || p.has "include-images"
    includeHashtags := o.includeHashtags || p.has "include-hxl"
    includeReviews := o.includeReviews || p.has "include-reviews"
    groupDelimiter := p.delimiter.getD o.groupDelimiter
    host := p.host <|> o.host
    targetLanguage := p.language <|> o.targetLanguage
    naRep := p.naRep.getD o.naRep
    columns := p.columns <|> o.columns }

/-- A policy that sets nothing. -/
def empty : Policy := ⟨none, [], none, none, none, none, none⟩

/-- A policy that sets nothing leaves the options as they are. -/
theorem apply_empty (o : Options) : empty.apply o = o := by
  simp [apply, empty, has]

end Policy

/-- The format that options name; archives of tables unless they name one. -/
def formatOf (g : Given) : ExportFormat :=
  ((g.value? "format").bind fun s ↦ ExportFormat.all.find? (·.name == s)).getD .csvZip

/-- Reads the words of a command to their end. -/
def readLevel (specs : List OptionSpec) (needed : List String) (words : List String) :
    Except Stop Given := do
  let (s, _) ← scan specs [] words {}
  s.level conflicts needed

/-- Reads the words behind the `export` command. -/
def readExport (words : List String) : Except Stop (ExportArguments × Given) := do
  let g ← readLevel exportSpecs ["form", "data"] words
  match g.value? "form", g.value? "data" with
  | some form, some data =>
    .ok (⟨form, data, formatOf g, g.value? "output", .ofGiven g⟩, g)
  | _, _ => .error .misuse

/-- Reads the words behind the `sections` command. -/
def readSections (words : List String) : Except Stop (SectionsArguments × Given) := do
  let g ← readLevel commandSpecs ["form"] words
  match g.value? "form" with
  | some form => .ok (⟨form, formatOf g, .ofGiven g⟩, g)
  | none => .error .misuse

/-- Answers a call of the `help` command: it may name one command. -/
def readHelp : List String → Stop
  | [] => .help
  | [word] => if commandNames.contains word then .help else .misuse
  | _ => .misuse

/-- Reads a command line. -/
def read (words : List String) : Except Stop Invocation := do
  let (s, named) ← scan rootSpecs commandNames words {}
  let (task, given) ← match named with
    | some ("export", rest) => do
      let (a, g) ← readExport rest
      pure (Task.makeExport a, g)
    | some ("sections", rest) => do
      let (a, g) ← readSections rest
      pure (Task.listSections a, g)
    | some (_, rest) => .error (readHelp rest)
    | none => .error .misuse
  let outer ← s.level conflicts []
  return ⟨task, given.value? "log-file" <|> outer.value? "log-file"⟩

end SurveyExport.Command
