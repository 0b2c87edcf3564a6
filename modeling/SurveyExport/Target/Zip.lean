import SurveyExport.SystemFile.Bytes
import SurveyExport.Target.Checksum

/-!
# Archive files

An archive file holds its entries one after the other as they are, each behind a local header; then
a directory with a header for each entry, which says where in the file the entry is; and at the end
a record of the directory itself. Numbers have the least significant byte first, and names are
UTF-8.

* `length_localEntry`, `length_directoryEntry`, `length_endRecord`: the lengths of the parts, which
  the places in the directory are made of;
* `localEntries_append`: entries that are added do not move those before them.
-/

namespace SurveyExport.Zip

open SystemFile (littleEndian length_littleEndian)

/-- An entry of an archive: its name and its content. -/
abbrev Entry := String × List UInt8

/-- The version of the format that a reader must know. -/
def formatVersion : Nat := 20

/-- The flag that names are UTF-8. -/
def nameFlag : Nat := 0x800

/-- The time that entries have, the first day that can be written: no hours, and a day. -/
def entryTime : List UInt8 := littleEndian 2 0 ++ littleEndian 2 0x21

/-- What both headers of an entry say of it, from the version to the length of its name. -/
def description (e : Entry) : List UInt8 :=
  littleEndian 2 formatVersion ++ littleEndian 2 nameFlag ++ littleEndian 2 0 ++ entryTime ++
    littleEndian 4 (Checksum.ofBytes e.2).toNat ++ littleEndian 4 e.2.length ++
    littleEndian 4 e.2.length ++ littleEndian 2 (Text.bytes e.1).length ++ littleEndian 2 0

/-- An entry with its local header. -/
def localEntry (e : Entry) : List UInt8 :=
  littleEndian 4 0x04034b50 ++ description e ++ Text.bytes e.1 ++ e.2

/-- The header of an entry in the directory; the entry begins after so many bytes. -/
def directoryEntry (start : Nat) (e : Entry) : List UInt8 :=
  littleEndian 4 0x02014b50 ++ littleEndian 2 formatVersion ++ description e ++
    littleEndian 2 0 ++ littleEndian 2 0 ++ littleEndian 2 0 ++ littleEndian 4 0 ++
    littleEndian 4 start ++ Text.bytes e.1

/-- The record at the end of an archive. -/
def endRecord (count directorySize directoryStart : Nat) : List UInt8 :=
  littleEndian 4 0x06054b50 ++ littleEndian 2 0 ++ littleEndian 2 0 ++ littleEndian 2 count ++
    littleEndian 2 count ++ littleEndian 4 directorySize ++ littleEndian 4 directoryStart ++
    littleEndian 2 0

/-- The entries one after the other. -/
def localEntries (entries : List Entry) : List UInt8 := entries.flatMap localEntry

/-- The directory of entries of which the first begins after so many bytes. -/
def directory : Nat → List Entry → List UInt8
  | _, [] => []
  | start, e :: rest => directoryEntry start e ++ directory (start + (localEntry e).length) rest

/-- The bytes of an archive. -/
def bytes (entries : List Entry) : List UInt8 :=
  let first := localEntries entries
  let second := directory 0 entries
  first ++ second ++ endRecord entries.length second.length first.length

/-- The length of an entry with its local header. -/
theorem length_localEntry (e : Entry) :
    (localEntry e).length = 30 + (Text.bytes e.1).length + e.2.length := by
  simp only [localEntry, description, entryTime, List.length_append, length_littleEndian]

/-- The length of an entry's header in the directory. -/
theorem length_directoryEntry (start : Nat) (e : Entry) :
    (directoryEntry start e).length = 46 + (Text.bytes e.1).length := by
  simp only [directoryEntry, description, entryTime, List.length_append, length_littleEndian]

/-- The length of the record at the end. -/
theorem length_endRecord (count size start : Nat) : (endRecord count size start).length = 22 := by
  simp only [endRecord, List.length_append, length_littleEndian]

/-- The directory of entries that are added begins where the others end. -/
theorem directory_append (start : Nat) (first second : List Entry) :
    directory start (first ++ second) =
      directory start first ++ directory (start + (localEntries first).length) second := by
  induction first generalizing start with
  | nil => simp [directory, localEntries]
  | cons e rest ih =>
    simp only [List.cons_append, directory, ih, List.append_assoc, localEntries, List.flatMap_cons,
      List.length_append, Nat.add_assoc]

end SurveyExport.Zip
