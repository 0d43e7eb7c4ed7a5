/-
ELF64 header parsing (`elf/parser.rs`).

What `ElfFile.parse` accepts carries the fact that its program header table lies inside the file.

* `ElfFile.parse`: the header checks;
* `ElfFile.programHeaders`: the entries of the table, in order.
-/
import ManaOS.Memory.UserPointer

namespace ManaOS
open Checked

def elfHeaderSize : ℕ := 64

def programHeaderSize : ℕ := 56

def elfMagic : List UInt8 := [0x7f, 0x45, 0x4c, 0x46]

inductive ElfError
  | headerTooSmall
  | badMagic
  | unsupportedClass
  | unsupportedEndian
  | unsupportedVersion
  | unsupportedType
  | unsupportedMachine
  | unsupportedProgramHeaderSize
  | emptyProgramHeaderTable
  | programHeaderTableOutOfBounds
  | programHeaderOutOfBounds
  deriving DecidableEq

def ElfError.message : ElfError → String
  | .headerTooSmall => "ELF header is too small"
  | .badMagic => "ELF magic is invalid"
  | .unsupportedClass => "ELF class is not 64-bit"
  | .unsupportedEndian => "ELF byte order is not little-endian"
  | .unsupportedVersion => "ELF version is unsupported"
  | .unsupportedType => "ELF type is not executable"
  | .unsupportedMachine => "ELF machine is not x86_64"
  | .unsupportedProgramHeaderSize => "ELF program header size is unsupported"
  | .emptyProgramHeaderTable => "ELF program header table is empty"
  | .programHeaderTableOutOfBounds => "ELF program header table is out of bounds"
  | .programHeaderOutOfBounds => "ELF program header entry is out of bounds"

/-- `read_u16`, `read_u32` and `read_u64`; every caller has checked the length of the slice. -/
def readField (size : ℕ) (bytes : List UInt8) (offset : ℕ) : ℕ :=
  fromBytes ((bytes.drop offset).take size)

structure ElfHeader where
  elfType : ℕ
  machine : ℕ
  version : ℕ
  entry : ℕ
  programHeaderOffset : ℕ
  headerSize : ℕ
  programHeaderEntrySize : ℕ
  programHeaderCount : ℕ
  deriving DecidableEq

/-- The header fields of an image of at least 64 bytes. -/
def ElfHeader.read (bytes : List UInt8) : ElfHeader where
  elfType := readField 2 bytes 16
  machine := readField 2 bytes 18
  version := readField 4 bytes 20
  entry := readField 8 bytes 24
  programHeaderOffset := readField 8 bytes 32
  headerSize := readField 2 bytes 52
  programHeaderEntrySize := readField 2 bytes 54
  programHeaderCount := readField 2 bytes 56

/-- `ElfFile`: an image with the header `parse` accepted. -/
structure ElfFile where
  bytes : List UInt8
  header : ElfHeader
  table_fits : header.programHeaderOffset + programHeaderSize * header.programHeaderCount ≤
    bytes.length

structure ProgramHeader where
  headerType : ℕ
  flags : ℕ
  offset : ℕ
  virtualAddress : ℕ
  fileSize : ℕ
  memorySize : ℕ
  alignment : ℕ
  deriving DecidableEq

def ProgramHeader.isLoad (programHeader : ProgramHeader) : Bool := programHeader.headerType == 1

/-- The fields of one 56-byte table entry. -/
def ProgramHeader.read (bytes : List UInt8) : ProgramHeader where
  headerType := readField 4 bytes 0
  flags := readField 4 bytes 4
  offset := readField 8 bytes 8
  virtualAddress := readField 8 bytes 16
  fileSize := readField 8 bytes 32
  memorySize := readField 8 bytes 40
  alignment := readField 8 bytes 48

namespace ElfFile

/-- `ElfFile::parse`.  A sum of table bounds up to the image's length is a word: the overflow check
is the last comparison. -/
def parse (bytes : List UInt8) : Except ElfError ElfFile :=
  if bytes.length < elfHeaderSize then .error .headerTooSmall
  else if bytes.take 4 ≠ elfMagic then .error .badMagic
  else if readField 1 bytes 4 ≠ 2 then .error .unsupportedClass
  else if readField 1 bytes 5 ≠ 1 then .error .unsupportedEndian
  else if readField 1 bytes 6 ≠ 1 then .error .unsupportedVersion
  else
    let header := ElfHeader.read bytes
    if header.elfType ≠ 2 then .error .unsupportedType
    else if header.machine ≠ 0x3e then .error .unsupportedMachine
    else if header.version ≠ 1 then .error .unsupportedVersion
    else if header.headerSize ≠ elfHeaderSize then .error .headerTooSmall
    else if header.programHeaderEntrySize ≠ programHeaderSize then
      .error .unsupportedProgramHeaderSize
    else if header.programHeaderCount = 0 then .error .emptyProgramHeaderTable
    else if h : header.programHeaderOffset + programHeaderSize * header.programHeaderCount ≤
        bytes.length then
      .ok ⟨bytes, header, h⟩
    else .error .programHeaderTableOutOfBounds

/-- `ProgramHeaderIter::next` at an index below the count, inside the table. -/
def programHeaderAt (elf : ElfFile) (index : ℕ) : Except ElfError ProgramHeader :=
  let start := elf.header.programHeaderOffset + index * programHeaderSize
  if start + programHeaderSize ≤ elf.bytes.length then
    .ok (.read ((elf.bytes.drop start).take programHeaderSize))
  else .error .programHeaderOutOfBounds

def programHeaders (elf : ElfFile) : List (Except ElfError ProgramHeader) :=
  (List.range elf.header.programHeaderCount).map elf.programHeaderAt

end ElfFile
end ManaOS
