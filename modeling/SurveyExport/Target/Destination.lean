import SurveyExport.KeyMap
import SurveyExport.Text.Blank
import SurveyExport.Text.Search

/-!
# Where an export file goes

Before a file is written the directories around it are made, and it is created or emptied. This
fails if a file stands where a directory is needed, or a directory where the file shall be.

Paths are taken as they are written: a path's own text is what a message shows. A path is followed
piece by piece, and whatever comes after a piece, be it `.` or `..`, needs a directory there.

* `walk_append`: two paths in a row are walked one after the other.
-/

namespace SurveyExport

/-- The files that exist, by their paths. -/
abbrev FileTree := KeyMap (List UInt8)

/-- Why a file cannot be made or read. -/
inductive PathFault where
  | missing
  | occupied
  | noDirectory
  | isDirectory
  | denied
  /-- A name on the path, or the whole path, has more bytes than it may have. -/
  | longName
  /-- The path holds the character that ends a text for the system. -/
  | zeroByte
deriving DecidableEq, Repr

/-- The reason in the words of the system. -/
def PathFault.message : PathFault → String
  | missing => "No such file or directory (os error 2)"
  | occupied => "File exists (os error 17)"
  | noDirectory => "Not a directory (os error 20)"
  | isDirectory => "Is a directory (os error 21)"
  | denied => "Permission denied (os error 13)"
  | longName => "File name too long (os error 36)"
  | zeroByte => "file name contained an unexpected NUL byte"

namespace Destination

/-- The segments of a path as it is followed. -/
def segments (path : String) : List String :=
  ((Text.splitAt '/' path).filter fun s ↦ s ≠ "" ∧ s ≠ ".").foldl
    (fun followed s ↦ if s = ".." then followed.dropLast else followed ++ [s]) []

/-- The pieces of a path without those at its end that are empty or `.`; a first piece stays. -/
def trimmedPieces : List String → List String
  | [] => []
  | first :: rest => first :: (rest.reverse.dropWhile fun s ↦ s = "" ∨ s = ".").reverse

/-- The path of the directory around a file; none if the path has no directory in front. -/
def parent? (path : String) : Option String :=
  match (trimmedPieces (trimmedPieces (Text.splitAt '/' path)).dropLast) with
  | [] => none
  | [""] => some "/"
  | pieces => some (Text.join "/" pieces)

/-- The last segment of a path without its extension. -/
def stem? (path : String) : Option String :=
  match (trimmedPieces (Text.splitAt '/' path)).getLast? with
  | none => none
  | some name =>
    if name = "" ∨ name = "." ∨ name = ".." then none
    else
      match Text.splitLast? '.' name with
      | some (before, _) => some (if before = "" then name else before)
      | none => some name

/-- Whether there is a file at a followed path. -/
def isFile (tree : FileTree) (path : List String) : Bool :=
  tree.keys.any fun f ↦ segments f == path

/-- Whether there is a directory at a followed path. -/
def isDirectory (tree : FileTree) (path : List String) : Bool :=
  path.isEmpty ||
    tree.keys.any fun f ↦
      let followed := segments f
      decide (path.length < followed.length) && followed.take path.length == path

/-- The greatest number of bytes in a name. -/
def maxNameBytes : Nat := 255

/-- The greatest number of bytes in a path. -/
def maxPathBytes : Nat := 4095

/-- Whether a piece of a path stays where it is. -/
def isIdle (piece : String) : Bool := piece == "" || piece == "."

/--
Where a piece of a path leads from a place. Beside the tree's own directories there are those that
were made.
-/
def step (tree : FileTree) (made : List (List String)) (place : List String) (piece : String) :
    Except PathFault (List String) :=
  let isHere := fun place ↦ isDirectory tree place || made.contains place
  if !isHere place then .error .noDirectory
  else if isIdle piece then .ok place
  else if piece = ".." then .ok place.dropLast
  else if maxNameBytes < piece.utf8ByteSize then .error .longName
  else if isFile tree (place ++ [piece]) || isHere (place ++ [piece]) then .ok (place ++ [piece])
  else .error .missing

/-- Where pieces of a path lead from a place, one after the other. -/
def walk (tree : FileTree) (made : List (List String)) :
    List String → List String → Except PathFault (List String)
  | place, [] => .ok place
  | place, piece :: rest =>
    match step tree made place piece with
    | .error fault => .error fault
    | .ok next => walk tree made next rest

/--
Makes the directories that pieces of a path lead through, from a place on: those that were made, or
why that fails. Where a directory was made before, a file in the way is met when it should be made
itself, and not when the way leads through it.
-/
def makeDirectories (tree : FileTree) (made : List (List String)) :
    List String → List String → Except PathFault (List (List String))
  | _, [] => .ok made
  | place, piece :: rest =>
    if isIdle piece then makeDirectories tree made place rest
    else if piece = ".." then makeDirectories tree made place.dropLast rest
    else if maxNameBytes < piece.utf8ByteSize then .error .longName
    else
      let next := place ++ [piece]
      if isFile tree next then
        .error (if rest.isEmpty || !made.isEmpty then .occupied else .noDirectory)
      else if isDirectory tree next then makeDirectories tree made next rest
      else makeDirectories tree (next :: made) next rest

/-- The character that no path may hold. -/
def zeroByte : Char := '\x00'

/-- The directories made for a path, or why that fails. -/
def directories (tree : FileTree) (path : String) : Except PathFault (List (List String)) :=
  if path.toList.contains zeroByte then .error .zeroByte
  else if maxPathBytes < path.utf8ByteSize then .error .longName
  else makeDirectories tree [] [] (Text.splitAt '/' path)

/-- Why a file cannot be created at a path, once some directories were made. -/
def fileFault? (tree : FileTree) (made : List (List String)) (path : String) : Option PathFault :=
  if path = "" then some .missing
  else if path.toList.contains zeroByte then some .zeroByte
  else if maxPathBytes < path.utf8ByteSize then some .longName
  else
    let pieces := Text.splitAt '/' path
    let named := (pieces.reverse.dropWhile (· = "")).reverse
    let onWay := walk tree made []
    match named.getLast? with
    | none => some .isDirectory
    | some name =>
      if name = "." ∨ name = ".." then
        match onWay named with
        | .error fault => some fault
        | .ok _ => some .isDirectory
      else
        match onWay named.dropLast with
        | .error fault => some fault
        | .ok place =>
          let file := place ++ [name]
          if !isDirectory tree place && !made.contains place then some .noDirectory
          else if named.length < pieces.length then some .isDirectory
          else if maxNameBytes < name.utf8ByteSize then some .longName
          else if isDirectory tree file || made.contains file then some .isDirectory
          else none

/-- The path at which making a file fails, and why. -/
def fault? (tree : FileTree) (path : String) : Option (String × PathFault) :=
  match parent? path with
  | none => (fileFault? tree [] path).map fun fault ↦ (path, fault)
  | some directory =>
    match directories tree directory with
    | .error fault => some (directory, fault)
    | .ok made => (fileFault? tree made path).map fun fault ↦ (path, fault)

/-- Two paths are walked one after the other. -/
theorem walk_append (tree : FileTree) (made : List (List String)) (place xs ys : List String) :
    walk tree made place (xs ++ ys) =
      match walk tree made place xs with
      | .error fault => .error fault
      | .ok next => walk tree made next ys := by
  induction xs generalizing place with
  | nil => rfl
  | cons x xs ih =>
    simp only [List.cons_append, walk]
    split
    · rfl
    · exact ih _

end Destination

end SurveyExport
