import SurveyExport.Export.Run

/-!
# Archives of sheets

An archive holds one file for each sheet. The files are drafted side by side while rows of different
sheets come in; when the archive is finished they become its entries, in the order of the sheets.
-/

namespace SurveyExport

/-- How the files of an archive are made: drafts `α`, finished contents `β` and errors `ε`. -/
structure EntryKind (α β ε : Type) where
  /-- The extension of the files. -/
  extension : String
  /-- The draft of a sheet without rows. -/
  start : Sheet → Except ε α
  /-- Adds a row to a draft. -/
  add : Sheet → Row → α → Except ε Unit × α
  /-- The content of a finished file. -/
  content : α → β
  /-- The error that there is no sheet with a number. -/
  noSheet : Nat → ε

/-- An archive in the making. -/
structure Archive (α β : Type) where
  /-- The drafts of the sheets. -/
  drafts : List (Sheet × α) := []
  /-- The entries by their names, once the archive is finished. -/
  entries : Option (List (String × β)) := none

namespace Archive

variable {α β ε : Type}

/-- Adds drafts of sheets; at the first that fails the ones before it are kept. -/
def startAll (kind : EntryKind α β ε) (a : Archive α β) :
    List Sheet → Except ε Unit × Archive α β
  | [] => (.ok (), a)
  | sheet :: rest =>
    match kind.start sheet with
    | .error e => (.error e, a)
    | .ok draft => startAll kind { a with drafts := a.drafts ++ [(sheet, draft)] } rest

/-- Adds a row to the draft with a number. -/
def addRow (kind : EntryKind α β ε) (i : Nat) (row : Row) (a : Archive α β) :
    Except ε Unit × Archive α β :=
  match a.drafts[i]? with
  | none => (.error (kind.noSheet i), a)
  | some (sheet, draft) =>
    let added := kind.add sheet row draft
    (added.1, { a with drafts := a.drafts.set i (sheet, added.2) })

/-- Finishes the archive; one that is finished stays as it is. -/
def close (kind : EntryKind α β ε) (a : Archive α β) : Archive α β :=
  match a.entries with
  | some _ => a
  | none =>
    { drafts := []
      entries := some (a.drafts.map fun e ↦
        (e.1.name ++ "." ++ kind.extension, kind.content e.2)) }

/-- The archive as an output of an export with the given sheets. -/
def sink (kind : EntryKind α β ε) (sheets : List Sheet) : Sink (Archive α β) ε where
  begin a := startAll kind a sheets
  row := addRow kind
  finish a := (.ok (), close kind a)

/-- Finishing twice is finishing once. -/
@[simp] theorem close_close (kind : EntryKind α β ε) (a : Archive α β) :
    close kind (close kind a) = close kind a := by
  cases h : a.entries <;> simp [close, h]

end Archive

end SurveyExport
