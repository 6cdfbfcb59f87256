import PromptPress.Archive.Basic
import PromptPress.Digest.Md5

/-!
# Archive files

The bytes of an archive file: the entries as they are, each behind a header, then a directory that repeats
the headers and says where each entry begins, and the end record.  The checksum is the 32-bit cyclic
redundancy check.
-/

namespace PromptPress

namespace Digest

/-- One bit of a checksum. -/
def shiftBit (crc : UInt32) : UInt32 :=
  if crc &&& 1 == 1 then (crc >>> 1) ^^^ 0xedb88320 else crc >>> 1

/-- One byte of a checksum. -/
def shiftByte (crc : UInt32) (byte : UInt8) : UInt32 :=
  (List.range 8).foldl (fun crc _ => shiftBit crc) (crc ^^^ byte.toUInt32)

/-- The cyclic redundancy check of bytes. -/
def checksum (bytes : List UInt8) : UInt32 :=
  bytes.foldl shiftByte 0xffffffff ^^^ 0xffffffff

end Digest

namespace Archive

open Digest

/-- The part that the header of an entry and its place in the directory share: version, flags for names
in UTF-8, no compression, the first day that can be written, checksum and sizes. -/
def commonHeader (entry : ArchiveEntry) : List UInt8 :=
  let size := littleEndian 4 entry.content.length
  littleEndian 2 20 ++ littleEndian 2 0x800 ++ littleEndian 2 0 ++ littleEndian 4 0x210000 ++
    littleEndian 4 (checksum entry.content).toNat ++ size ++ size ++
    littleEndian 2 (utf8 entry.name).length ++ littleEndian 2 0

/-- An entry with its header. -/
def localPart (entry : ArchiveEntry) : List UInt8 :=
  [0x50, 0x4b, 3, 4] ++ commonHeader entry ++ utf8 entry.name ++ entry.content

/-- The place of an entry in the directory. -/
def directoryPart (entry : ArchiveEntry) (offset : Nat) : List UInt8 :=
  [0x50, 0x4b, 1, 2] ++ littleEndian 2 20 ++ commonHeader entry ++ littleEndian 2 0 ++
    littleEndian 2 0 ++ littleEndian 2 0 ++ littleEndian 4 0x1800000 ++ littleEndian 4 offset ++
    utf8 entry.name

/-- The directory of entries of which the first begins at some offset. -/
def directory (offset : Nat) : Archive → List UInt8
  | [] => []
  | entry :: rest => directoryPart entry offset ++ directory (offset + (localPart entry).length) rest

/-- The end record of a file. -/
def endRecord (entries directorySize directoryOffset : Nat) : List UInt8 :=
  endSignature ++ littleEndian 4 0 ++ littleEndian 2 entries ++ littleEndian 2 entries ++
    littleEndian 4 directorySize ++ littleEndian 4 directoryOffset ++ littleEndian 2 0

/-- The bytes of the file of an archive. -/
def toBytes (archive : Archive) : List UInt8 :=
  let entries := archive.flatMap localPart
  let places := directory 0 archive
  entries ++ places ++ endRecord archive.length places.length entries.length

end Archive

end PromptPress
