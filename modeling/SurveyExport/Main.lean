import Std.Time.Zoned
import SurveyExport.Command.Run
import SurveyExport.Target.File

/-!
# The program

The program finds out what its run needs to know of the system: it reads the files that the command
line names, opens the file for the log, and creates the file of the export with the directories
around it. The run itself is then computed, and what it prints and writes is carried out.
-/

namespace SurveyExport.Program

/-- The number of an error of the system, which may come with its sign turned. -/
def errorNumber (code : UInt32) : UInt32 := if code < 0x80000000 then code else 0 - code

/-- The fault that an error of the system stands for. -/
def faultOf : IO.Error → PathFault
  | .noFileOrDirectory .. => .missing
  | .alreadyExists .. => .occupied
  | .inappropriateType _ code _ => if errorNumber code = 20 then .noDirectory else .isDirectory
  | .invalidArgument _ code _ => if errorNumber code = 36 then .longName else .zeroByte
  | _ => .denied

/-- What an action gives, or the fault that it meets. -/
def attempt {α : Type} (action : IO α) : IO (Except PathFault α) := do
  match ← action.toBaseIO with
  | .ok a => return .ok a
  | .error e => return .error (faultOf e)

/-- The fault of an action that is done for its effect. -/
def faultIn (action : IO Unit) : IO (Option PathFault) := do
  match ← attempt action with
  | .ok _ => return none
  | .error fault => return some fault

/-- Reads files by their paths. -/
def readFiles (paths : List String) : IO (List (String × Except PathFault (List UInt8))) :=
  paths.mapM fun (path : String) ↦ do
    let content ← attempt (IO.FS.readBinFile path)
    return (path, content.map (·.toList))

/--
Creates a file and the directories around it; the path at which that fails, and why. If a directory
cannot be made, trying it alone tells whether a file is in its place or on the way to it.
-/
def create (path : String) : IO (Option (String × PathFault)) := do
  if let some directory := Destination.parent? path then
    if let some fault ← faultIn (IO.FS.createDirAll directory) then
      let again ← faultIn (IO.FS.createDir directory)
      return some (directory, again.getD fault)
  return (← faultIn (IO.FS.writeFile path "")).map fun fault ↦ (path, fault)

/-- Prepares the system for a run, and tells what the run finds. -/
def prepare (i : Command.Invocation) : IO Command.Surroundings := do
  let logFault ← match i.logFile with
    | some path => faultIn do let _ ← IO.FS.Handle.mk path .append
    | none => pure none
  let files ← readFiles i.task.inputs
  let read := fun path ↦ (Entries.lookup path files).getD (.error .missing)
  let found : Command.Surroundings :=
    { read, createFault? := fun _ ↦ none, logFault? := fun _ ↦ logFault }
  match i.task with
  | .listSections _ => return found
  | .makeExport a =>
    match Command.ExportJob.load found a with
    | .error _ => return found
    | .ok job =>
      if logFault.isSome then return found
      let fault ← create job.destination
      return { found with createFault? := fun _ ↦ fault }

/-- What a run finds that reads and creates nothing. -/
def nothingAround : Command.Surroundings :=
  ⟨fun _ ↦ .error .missing, fun _ ↦ none, fun _ ↦ none⟩

/-- The time on the clock of the system. -/
def clock : IO (Option DateTime) := do
  match ← attempt Std.Time.PlainDateTime.now with
  | .error _ => return none
  | .ok now => return do
    let date ← Date.ofParts? now.year.toInt now.month.toNat now.day.toNat
    DateTime.ofParts? date now.hour.val.toNat now.minute.val.toNat now.second.val.toNat 0

/-- Writes the content of the file of an export. -/
def writeCreated : String × Command.CreatedFile → IO Unit
  | (path, .finished content) => IO.FS.writeBinFile path ⟨content.bytes.toArray⟩
  | _ => pure ()

/-- Prints and writes what a run does. -/
def carryOut (o : Command.Outcome) : IO Unit := do
  for line in o.output ++ (o.table.map (·.lines)).getD [] do IO.println line
  for line in o.errors do IO.eprintln line
  if o.status = 2 then
    for line in Command.usage do IO.eprintln line
  for file in o.created do writeCreated file

end SurveyExport.Program

/-- Runs the program with the words of a command line. -/
def main (words : List String) : IO UInt32 := do
  let around ← match SurveyExport.Command.read words with
    | .ok i => SurveyExport.Program.prepare i
    | .error _ => pure SurveyExport.Program.nothingAround
  let eve := SurveyExport.DateTime.midnight SurveyExport.SystemFile.Value.gregorianEve
  let settings : SurveyExport.BuildSettings :=
    { created := (← SurveyExport.Program.clock).getD eve
      suffixes := .counted (← IO.rand 0 65535) }
  let outcome := SurveyExport.Command.run around settings words
  SurveyExport.Program.carryOut outcome
  return UInt32.ofNat outcome.status
