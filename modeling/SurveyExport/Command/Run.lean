import SurveyExport.Command.Arguments
import SurveyExport.Command.Surroundings
import SurveyExport.Command.Table
import SurveyExport.Form.Survey
import SurveyExport.Options.Toml
import SurveyExport.Target.Build

/-!
# Runs of the program

A run reads the survey definition first, then the configuration file, then the submissions. The file
of an export is created before the export is built, so it is there even if the export fails.

The whole of a run is a function of the words on the command line and of what is found around it:
its status, what it prints, and the files it creates.
-/

namespace SurveyExport.Command

/-- Why a run fails. -/
inductive Failure where
  /-- The file for the log cannot be opened. -/
  | log (fault : PathFault)
  | unreadForm (path : String) (fault : ReadFault)
  | form (path : String) (e : FormError)
  | unreadConfig (path : String) (fault : ReadFault)
  | config (path : String)
  | unreadData (path : String) (fault : ReadFault)
  /-- The array of submissions is not JSON. -/
  | data (path : String)
  /-- The file of the export cannot be created, for what happens at a place on its path. -/
  | create (destination place : String) (fault : PathFault)
  | build (destination : String) (e : BuildError)
  | codebook (e : CodebookError)
deriving DecidableEq, Repr

namespace Failure

/-- The causes of a file that is not read. -/
def unreadCauses (path : String) (fault : ReadFault) : List String :=
  [s!"failed to read {path}: {fault.message}", fault.message]

/-- What went wrong, from the outermost cause to the innermost. -/
def causes : Failure → List String
  | log fault => ["failed to initialize logging", fault.message]
  | unreadForm path fault => s!"failed to load form {path}" :: unreadCauses path fault
  | form path e => [s!"failed to load form {path}", e.message]
  | unreadConfig path fault => s!"failed to load config {path}" :: unreadCauses path fault
  | config path => [s!"failed to load config {path}", s!"invalid export config {path}"]
  | unreadData path fault => s!"failed to open submissions {path}" :: unreadCauses path fault
  | data path => [s!"failed to open submissions {path}", s!"invalid json in {path}"]
  | create destination place fault =>
    [s!"failed to export {destination}", s!"failed to create {place}", fault.message]
  | build destination e => s!"failed to export {destination}" :: e.causes
  | codebook e => ["failed to index form", e.message]

/-- The line that reports a failure. -/
def line (f : Failure) : String := "error: " ++ Text.join ": " f.causes

end Failure

/-! ### Inputs -/

/-- Reads the form with a path. -/
def loadForm (around : Surroundings) (path : String) : Except Failure Form := do
  let text ← (around.text path).mapError (.unreadForm path)
  (Form.ofSurveyText text).mapError (.form path)

/-- The options of a policy over those of its configuration file. -/
def loadOptions (around : Surroundings) (policy : Policy) : Except Failure Options :=
  match policy.config with
  | none => .ok (policy.apply {})
  | some path => do
    let text ← (around.text path).mapError (.unreadConfig path)
    match Options.ofTomlText? text with
    | some options => .ok (policy.apply options)
    | none => .error (.config path)

/-- Opens the submissions with a path. -/
def loadData (around : Surroundings) (path : String) : Except Failure DataFile :=
  match around.read path with
  | .error fault => .error (.unreadData path (.path fault))
  | .ok bytes =>
    match DataFile.ofBytes bytes with
    | .ok data => .ok data
    | .error .unreadable => .error (.unreadData path .notText)
    | .error .notJson => .error (.data path)

/-- An export whose inputs were read. -/
structure ExportJob where
  form : Form
  options : Options
  format : ExportFormat
  data : DataFile
  /-- The path of the export file. -/
  destination : String

namespace ExportJob

/-- Reads the inputs of an export. -/
def load (around : Surroundings) (a : ExportArguments) : Except Failure ExportJob := do
  let form ← loadForm around a.form
  let options ← loadOptions around a.policy
  let data ← loadData around a.data
  let destination := a.output.getD (form.name ++ "." ++ a.format.extension)
  return ⟨form, options, a.format, data, destination⟩

/-- Builds the export. -/
def build (job : ExportJob) (settings : BuildSettings) :
    Except Failure (ExportResult × ExportContent) :=
  (Built.build job.form job.options job.format settings job.destination job.data).outcome.mapError
    (.build job.destination)

end ExportJob

/-! ### Reports -/

/-- The table of what an export wrote. -/
def resultTable (r : ExportResult) : TextTable where
  headings := ["Section", "Sheet", "Rows"]
  rows := r.sheets.map (fun s ↦ [s.sectionName, s.sheetName, toString s.rows]) ++
    [["TOTAL", "-", toString r.totalRows]]
  numbers := 2

/-- The number of titles that a list of them shows. -/
def shownTitles : Nat := 6

/-- The first titles, and how many there are beside them. -/
def titleList (titles : List String) : String :=
  Text.join ", " (titles.take shownTitles) ++
    if shownTitles < titles.length then s!", … (+{titles.length - shownTitles})" else ""

/-- The row of a sheet in the table of sheets; the metadata of submissions is not named. -/
def sheetRow (s : Sheet) : List String :=
  [s.sectionName, s.name, toString s.columns.length,
    titleList ((s.columns.filter (·.origin ≠ .extra)).map (·.title))]

/-- The table of the sheets that an export would have. A wide table has the form's name. -/
def sheetTable (book : Codebook) (options : Options) (format : ExportFormat) : TextTable where
  headings := ["Section", "Sheet", "Columns", "Titles"]
  rows :=
    match format.naming? with
    | some naming => (Sheet.ofCodebook book options naming).map sheetRow
    | none =>
      [[book.root.name, book.form.name, toString book.root.columns.length,
        titleList (book.root.columns.map (·.title))]]
  numbers := 2

/-! ### Runs -/

/-- A file that a run creates. -/
inductive CreatedFile where
  | log
  /-- An export that failed after its file was created. -/
  | unfinished
  | finished (content : ExportContent)

/-- What a run does. -/
structure Outcome where
  /-- 0 if all went well, 1 if the run failed, and 2 if the command line is none. -/
  status : Nat
  /-- The lines printed in front of the table. -/
  output : List String := []
  table : Option TextTable := none
  /-- The lines of errors and warnings. -/
  errors : List String := []
  /-- The files that are created, by the paths they are given with. -/
  created : List (String × CreatedFile) := []

namespace Outcome

/-- The outcome of a run that fails. -/
def failed (f : Failure) : Outcome := { status := 1, errors := [f.line] }

end Outcome

/-- Writes an export. -/
def runExport (around : Surroundings) (settings : BuildSettings) (a : ExportArguments) : Outcome :=
  match ExportJob.load around a with
  | .error f => .failed f
  | .ok job =>
    match around.createFault? job.destination with
    | some (place, fault) => .failed (.create job.destination place fault)
    | none =>
      match job.build settings with
      | .error f => { Outcome.failed f with created := [(job.destination, .unfinished)] }
      | .ok (result, content) =>
        { status := 0
          output := [s!"Form: {result.form}", s!"Output: {job.destination} ({job.format.name})",
            s!"Submissions: {result.submissions}"]
          table := some (resultTable result)
          errors := result.warning?.toList.map ("warning: " ++ ·)
          created := [(job.destination, .finished content)] }

/-- Lists the sheets of an export. -/
def runSections (around : Surroundings) (a : SectionsArguments) : Outcome :=
  let table : Except Failure TextTable := do
    let form ← loadForm around a.form
    let options := a.format.effective (← loadOptions around a.policy)
    let book ← (Codebook.ofForm form options).mapError .codebook
    return sheetTable book options a.format
  match table with
  | .error f => .failed f
  | .ok table => { status := 0, table := some table }

/-- Does what a command line asks for; the file for the log is opened first. -/
def perform (around : Surroundings) (settings : BuildSettings) (i : Invocation) : Outcome :=
  match i.logFile.bind around.logFault? with
  | some fault => .failed (.log fault)
  | none =>
    let outcome := match i.task with
      | .makeExport a => runExport around settings a
      | .listSections a => runSections around a
    { outcome with created := i.logFile.toList.map (·, .log) ++ outcome.created }

/-- How the program is called. -/
def usage : List String := [
  "Export XLSForm submissions to tabular files.",
  "",
  s!"Usage: {programName} export --form <FORM_JSON> --data <DATA> [OPTIONS]",
  s!"       {programName} sections --form <FORM_JSON> [OPTIONS]"]

/-- A run of the program with the words of a command line. -/
def run (around : Surroundings) (settings : BuildSettings) (words : List String) : Outcome :=
  match read words with
  | .ok i => perform around settings i
  | .error .help => { status := 0, output := usage }
  | .error .version => { status := 0, output := [s!"{programName} {version}"] }
  | .error .misuse => { status := 2 }

end SurveyExport.Command
