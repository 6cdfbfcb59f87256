import PromptPress.Path.Relative
import PromptPress.Text.Decoding
import PromptPress.Text.Lower

/-!
# Template archives

An archive is a list of entries, each with a name and a content; a name may occur twice, and the last
entry with it is the one that is found by name.  Entries whose names end in a slash are folders.
-/

namespace PromptPress

open Text

/-- An entry of an archive. -/
structure ArchiveEntry where
  name : String
  content : List UInt8
deriving DecidableEq, Inhabited

/-- The entries of an archive. -/
abbrev Archive := List ArchiveEntry

namespace ArchiveEntry

/-- Whether an entry is a folder. -/
def isFolder (entry : ArchiveEntry) : Bool :=
  entry.name.toList.getLast? == some '/'

/-- An entry; its name ends before the first null character. -/
def ofNamed (name : String) (content : List UInt8) : ArchiveEntry :=
  ⟨String.ofList (name.toList.takeWhile (· != '\x00')), content⟩

end ArchiveEntry

namespace Archive

/-- The entries that are files. -/
def files (archive : Archive) : List ArchiveEntry :=
  archive.filter (!·.isFolder)

/-- The content of the last entry with a name. -/
def content? (archive : Archive) (name : String) : Option (List UInt8) :=
  (archive.reverse.find? (·.name == name)).map (·.content)

/-- The signature that the end record of an archive begins with. -/
def endSignature : List UInt8 := [0x50, 0x4b, 5, 6]

/-- The rest of bytes from the last end record on. -/
def lastEndRecord? : List UInt8 → Option (List UInt8)
  | [] => none
  | byte :: rest =>
    (lastEndRecord? rest).or
      (if endSignature.isPrefixOf (byte :: rest) then some (byte :: rest) else none)

/-- How many bytes an end record has. -/
def endRecordSize : Nat := 22

/-- The archive that the bytes of a file hold, if it can be told.  The file of an empty archive has an
end record that names a directory without bytes. -/
def ofBytes? (bytes : List UInt8) : Option Archive :=
  match lastEndRecord? bytes with
  | none => none
  | some record =>
    if endRecordSize ≤ record.length && ((record.drop 12).take 4).all (· == 0) then some [] else none

end Archive

/-- What is handed in to be imported: an archive, or bytes that are none. -/
inductive Upload where
  | archive (entries : Archive)
  | damaged

/-- The message on bytes that are no archive. -/
def damagedMessage : String := "File is not a zip file"

/-- What bytes hold. -/
def Upload.ofBytes (bytes : List UInt8) : Upload :=
  (Archive.ofBytes? bytes).elim .damaged .archive

/-- The segments of an entry name that count: lower case, without empty ones and single points. -/
def entrySegments (name : String) : List (List Char) :=
  let slashed := (Path.toSlashes name.toList).dropWhile (· == '/')
  (cut (· == '/') slashed).filter fun segment => !segment.isEmpty && segment != ['.']

/-- The normal form of an entry name. -/
def normalEntryName (name : String) : String :=
  String.ofList (lower (join ['/'] (entrySegments name)))

end PromptPress
