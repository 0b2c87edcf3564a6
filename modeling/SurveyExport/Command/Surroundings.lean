import SurveyExport.Target.Destination

/-!
# What a run finds around it

A run reads files by their paths and creates others. What becomes of that is all it knows of the
system; here it is also given for a tree of files, in which a run starts at the root. What lies
outside the tree is not known: no file can be read there but the one that is always empty, and one
can be made wherever the path does not name a directory.
-/

namespace SurveyExport.Command

/-- Why the text of a file cannot be had. -/
inductive ReadFault where
  | path (fault : PathFault)
  /-- The bytes of the file are no text. -/
  | notText
deriving DecidableEq, Repr

/-- The reason in words. -/
def ReadFault.message : ReadFault → String
  | path fault => fault.message
  | notText => "stream did not contain valid UTF-8"

/-- What a run finds around it. -/
structure Surroundings where
  /-- The content of the file with a path. -/
  read : String → Except PathFault (List UInt8)
  /-- The path at which creating a file fails, and why; the directories around it are made. -/
  createFault? : String → Option (String × PathFault)
  /-- Why the file for the log cannot be opened; it is made, but no directory is. -/
  logFault? : String → Option PathFault

namespace Surroundings

/-- The text of the file with a path. -/
def text (around : Surroundings) (path : String) : Except ReadFault String :=
  match around.read path with
  | .error fault => .error (.path fault)
  | .ok bytes =>
    match String.fromUTF8? ⟨bytes.toArray⟩ with
    | some s => .ok s
    | none => .error .notText

/-- Follows pieces of a path down from a directory, unless they leave the tree. -/
def follow (followed : List String) : List String → Option (List String)
  | [] => some followed
  | s :: rest =>
    if s = "" ∨ s = "." then follow followed rest
    else if s = ".." then if followed = [] then none else follow followed.dropLast rest
    else follow (followed ++ [s]) rest

/-- The names on the way to a path from the root of the tree, unless it lies outside. -/
def inside? (path : String) : Option (List String) :=
  if path.startsWith "/" then none else follow [] (Text.splitAt '/' path)

/-- The path of the file that is always empty. -/
def emptyFile : String := "/dev/null"

/-- Why a file cannot be created outside the tree, as far as its path tells. -/
def outsideFault? (path : String) : Option PathFault :=
  match (Text.splitAt '/' path).getLast? with
  | some name => if Destination.isIdle name ∨ name = ".." then some .isDirectory else none
  | none => none

/-- The content of the file with a path in a tree. -/
def readIn (tree : FileTree) (path : String) : Except PathFault (List UInt8) :=
  if path = emptyFile then .ok []
  else if path = "" ∨ (inside? path).isNone then .error .missing
  else do
    let place ← Destination.walk tree [] [] (Text.splitAt '/' path)
    match tree.toList.find? fun file ↦ Destination.segments file.1 == place with
    | some (_, bytes) => .ok bytes
    | none => .error .isDirectory

/-- Why the file for the log cannot be opened in a tree. -/
def logFaultIn? (tree : FileTree) (path : String) : Option PathFault :=
  if (inside? path).isSome then Destination.fileFault? tree [] path else outsideFault? path

/-- The path at which creating a file in a tree fails, and why. -/
def createFaultIn? (tree : FileTree) (path : String) : Option (String × PathFault) :=
  if (inside? path).isSome then Destination.fault? tree path
  else (outsideFault? path).map fun fault ↦ (path, fault)

/-- A tree of files around a run. -/
def ofTree (tree : FileTree) : Surroundings where
  read := readIn tree
  createFault? := createFaultIn? tree
  logFault? := logFaultIn? tree

/-- The files of a tree that were not there before, by their paths from the root. -/
def newPath? (tree : FileTree) (path : String) : Option String :=
  (inside? path).bind fun followed ↦
    if Destination.isFile tree followed then none else some (Text.join "/" followed)

end Surroundings

end SurveyExport.Command
