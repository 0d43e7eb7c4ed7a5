/-
Filesystem nodes and paths (`filesystem/node.rs`, `device.rs`, `ramfs.rs`, `directory.rs`,
`read_only.rs`, `backend.rs`).

`Arc<dyn FileNode>` is the inductive type of its implementations; `FileState` is what they share.

* `readAt`, `writeAt`: the reads and writes of all nodes;
* `normalizePath`: a path without empty and dot segments.
-/
import ManaOS.Lib.Checked
import Mathlib.Logic.Function.Basic

namespace ManaOS
open Checked

abbrev Path := List Char

inductive FileSystemError
  | notFound
  | invalidFileDescriptor
  | unsupportedOperation
  | tooManyOpenFiles
  | alreadyInitialized
  | notDirectory
  | isDirectory
  | invalidPath
  | invalidArgument
  | wouldBlock
  deriving DecidableEq

abbrev FileSystemResult (α : Type) := Except FileSystemError α

inductive FileType
  | regular
  | directory
  | device
  deriving DecidableEq

structure FileMetadata where
  fileType : FileType
  size : ℕ
  writable : Bool
  deriving DecidableEq

structure DirectoryEntry where
  name : Path
  metadata : FileMetadata
  deriving DecidableEq

/-- `BackendRead`: a callback that returns how many bytes it read, with the buffer it leaves. -/
structure BackendRead where
  read : (context offset : ℕ) → (buffer : List UInt8) → Option ℕ × List UInt8
  count_le : ∀ {context offset count : ℕ} {buffer : List UInt8},
    (read context offset buffer).1 = some count → count ≤ buffer.length
  length_eq : ∀ (context offset : ℕ) (buffer : List UInt8),
    (read context offset buffer).2.length = buffer.length

/-- The implementations of `FileNode`. -/
inductive FileNode
  | consoleDevice
  | keyboardInputDevice
  | nullDevice
  | ramFile (identity : ℕ)
  | directoryNode (entries : List DirectoryEntry)
  | readOnlyFile (data : List UInt8)
  | readOnlyBackendFile (size context : ℕ) (read : BackendRead)

/-- What the nodes share: the data of the RAM files, the queue of typed bytes, and for each RAM file
the length up to which the kernel heap can grow its vector at present. -/
structure FileState where
  ramFiles : ℕ → List UInt8
  stdinBytes : List UInt8
  growable : ℕ → ℕ

/-- The largest byte length of a `Vec`: `isize::MAX`. -/
def vecCapacity : ℕ := 2 ^ 63 - 1

/-- `RamFile::read_at` and `ReadOnlyFile::read_at`: the bytes from the offset that fit the buffer.
-/
def readFrom (data : List UInt8) (offset : ℕ) (buffer : List UInt8) : ℕ × List UInt8 :=
  if data.length ≤ offset then (0, buffer)
  else
    let count := min (data.length - offset) buffer.length
    (count, (data.drop offset).take count ++ buffer.drop count)

/-- `HEAP_SIZE` of `memory/heap.rs`. -/
def heapSize : ℕ := 32 * 1024 * 1024

/-- `RamFile::write_at`: grow with zeros, then overwrite.  `Vec::resize` panics beyond the capacity
of a vector, and ends in the allocation error handler where the kernel heap has no room. -/
def writeInto (growable : ℕ) (data : List UInt8) (offset : ℕ) (buffer : List UInt8) :
  Panicking (List UInt8) := do
  let requiredLength := saturatingAdd offset buffer.length
  require (data.length ≥ requiredLength || requiredLength ≤ vecCapacity) "capacity overflow"
  require (data.length ≥ requiredLength || requiredLength ≤ min growable heapSize)
    "memory allocation failed"
  let grown := data ++ List.replicate (requiredLength - data.length) 0
  return grown.take offset ++ buffer ++ grown.drop (offset + buffer.length)

namespace FileNode

/-- `FileNode::read_at`: the result, the buffer it leaves and the state behind the nodes. -/
def readAt (node : FileNode) (files : FileState) (offset : ℕ) (buffer : List UInt8) :
  FileSystemResult ℕ × List UInt8 × FileState :=
  match node with
  | .consoleDevice => (.error .unsupportedOperation, buffer, files)
  | .keyboardInputDevice =>
    if buffer.length = 0 then (.ok 0, buffer, files)
    else
      -- `get_stdin_bytes` pops one queued byte for each place of the buffer
      let count := min files.stdinBytes.length buffer.length
      let rest := { files with stdinBytes := files.stdinBytes.drop count }
      if count = 0 then (.error .wouldBlock, buffer, rest)
      else (.ok count, files.stdinBytes.take count ++ buffer.drop count, rest)
  | .nullDevice => (.ok 0, buffer, files)
  | .ramFile identity =>
    let (count, filled) := readFrom (files.ramFiles identity) offset buffer
    (.ok count, filled, files)
  | .directoryNode _ => (.error .isDirectory, buffer, files)
  | .readOnlyFile data =>
    let (count, filled) := readFrom data offset buffer
    (.ok count, filled, files)
  | .readOnlyBackendFile _ context backend =>
    match backend.read context offset buffer with
    | (some count, filled) => (.ok count, filled, files)
    | (none, filled) => (.error .unsupportedOperation, filled, files)

def writeAt (node : FileNode) (files : FileState) (offset : ℕ) (buffer : List UInt8) :
  Panicking (FileSystemResult ℕ × FileState) :=
  match node with
  | .consoleDevice | .nullDevice => return (.ok buffer.length, files)
  | .ramFile identity => do
      let data ← writeInto (files.growable identity) (files.ramFiles identity) offset buffer
      return (.ok buffer.length,
        { files with ramFiles := Function.update files.ramFiles identity data })
  | .keyboardInputDevice | .directoryNode _ | .readOnlyFile _ | .readOnlyBackendFile _ _ _ =>
    return (.error .unsupportedOperation, files)

def metadata (node : FileNode) (files : FileState) : FileMetadata :=
  match node with
  | .consoleDevice => ⟨.device, 0, true⟩
  | .keyboardInputDevice => ⟨.device, 0, false⟩
  | .nullDevice => ⟨.device, 0, true⟩
  | .ramFile identity => ⟨.regular, (files.ramFiles identity).length, true⟩
  | .directoryNode entries => ⟨.directory, entries.length, false⟩
  | .readOnlyFile data => ⟨.regular, data.length, false⟩
  | .readOnlyBackendFile size _ _ => ⟨.regular, size, false⟩

def listEntries (node : FileNode) : FileSystemResult (List DirectoryEntry) :=
  match node with
  | .directoryNode entries => .ok entries
  | _ => .error .notDirectory

end FileNode

/-- One segment of the loop of `normalize_path`; the kept segments are in reverse. -/
def pushSegment (segments : List Path) (segment : Path) : List Path :=
  if segment = [] ∨ segment = ['.'] then segments
  else if segment = ['.', '.'] then segments.tail
  else segment :: segments

def normalizePath (path : Path) : Path :=
  let segments := ((path.splitOn '/').foldl pushSegment []).reverse
  if segments = [] then ['/'] else segments.flatMap ('/' :: ·)

def resolvePath (currentWorkingDirectory path : Path) : Path :=
  if path.head? = some '/' then normalizePath path
  else normalizePath (currentWorkingDirectory ++ '/' :: path)

def Path.bytes (path : Path) : List UInt8 := path.flatMap String.utf8EncodeChar

end ManaOS
