/-
Open file descriptors (`filesystem/descriptor.rs`) and the filesystem service on top of them
(`filesystem/namespace.rs`, `filesystem/service.rs`).

* `FileDescriptorTable`: open files under their numbers;
* `sweepEntries`: the loop that closes descriptors on `execve`.
-/
import ManaOS.Filesystem.Node
import Mathlib.Data.Int.Notation

namespace ManaOS
open Checked

def maxOpenFiles : ℕ := 64

inductive SeekWhence
  | start
  | current
  | «end»
  deriving DecidableEq

structure OpenFile where
  node : FileNode
  offset : ℕ
  closeOnExec : Bool

/-- `FileDescriptorTable`; a table never grows beyond `MAX_OPEN_FILES`. -/
structure FileDescriptorTable where
  entries : List (Option OpenFile)
  length_le : entries.length ≤ maxOpenFiles

/-- `add_signed_offset`, the offset being an `i64`. -/
def addSignedOffset (base : ℕ) (offset : ℤ) : Option ℕ :=
  if 0 ≤ offset then checkedAdd base offset.toNat
  else if offset = -2 ^ 63 then none  -- `checked_abs` of the least `i64`
  else checkedSub base (-offset).toNat

namespace FileDescriptorTable
variable (table : FileDescriptorTable)

def setEntry (descriptor : ℕ) (entry : Option OpenFile) :
  FileDescriptorTable :=
  ⟨table.entries.set descriptor entry, by rw [List.length_set]; exact table.length_le⟩

/-- The loop of `close_on_exec_descriptors`: the entries left and the number closed. -/
def sweepEntries : List (Option OpenFile) → (closedCount : ℕ) → List (Option OpenFile) × ℕ
  | [], closedCount => ([], closedCount)
  | entry :: rest, closedCount =>
    if entry.any OpenFile.closeOnExec then
      let swept := sweepEntries rest (closedCount + 1)
      (none :: swept.1, swept.2)
    else
      let swept := sweepEntries rest closedCount
      (entry :: swept.1, swept.2)

lemma sweepEntries_length (entries : List (Option OpenFile)) (closedCount : ℕ) :
  (sweepEntries entries closedCount).1.length = entries.length := by
  induction entries generalizing closedCount with
  | nil => rfl
  | cons entry _ ih =>
    rw [sweepEntries]
    split <;> rw [List.length_cons, List.length_cons, ih]

def new : FileDescriptorTable := ⟨[], Nat.zero_le _⟩

def getOpenFile (descriptor : ℕ) : FileSystemResult OpenFile :=
  match table.entries[descriptor]?.join with
  | some openFile => .ok openFile
  | none => .error .invalidFileDescriptor

def setOffset (descriptor : ℕ) (openFile : OpenFile) (offset : ℕ) :
  FileDescriptorTable :=
  table.setEntry descriptor (some { openFile with offset })

def openWithCloseOnExec (node : FileNode) (closeOnExec : Bool) :
  FileSystemResult (ℕ × FileDescriptorTable) :=
  match table.entries.findIdx? Option.isNone with
  | some descriptor => .ok (descriptor, table.setEntry descriptor (some ⟨node, 0, closeOnExec⟩))
  | none =>
    if h : maxOpenFiles ≤ table.entries.length then .error .tooManyOpenFiles
    else
      .ok (table.entries.length, ⟨table.entries ++ [some ⟨node, 0, closeOnExec⟩],
          by rw [List.length_append]; exact Nat.lt_of_not_le h⟩)

def close (descriptor : ℕ) :
  FileSystemResult FileDescriptorTable :=
  match table.entries[descriptor]?.join with
  | some _ => .ok (table.setEntry descriptor none)
  | none => .error .invalidFileDescriptor

/-- `close_on_exec_descriptors`: the table that the sweep leaves. -/
def closeOnExecDescriptors : FileDescriptorTable :=
  ⟨(sweepEntries table.entries 0).1, by rw [sweepEntries_length]; exact table.length_le⟩

/-- `inherit_for_spawn`: the entries without those marked close-on-exec. -/
def inheritForSpawn : FileDescriptorTable :=
  ⟨table.entries.map (Option.filter fun openFile => !openFile.closeOnExec),
    by rw [List.length_map]; exact table.length_le⟩

/-- `read`: the count, the buffer it leaves and the table with the advanced offset. -/
def read (files : FileState) (descriptor : ℕ)
  (buffer : List UInt8) :
  FileSystemResult ℕ × List UInt8 × FileDescriptorTable × FileState :=
  match table.getOpenFile descriptor with
  | .error error => (.error error, buffer, table, files)
  | .ok openFile =>
    match openFile.node.readAt files openFile.offset buffer with
    | (.error error, filled, files) => (.error error, filled, table, files)
    | (.ok count, filled, files) =>
      (.ok count, filled,
        table.setOffset descriptor openFile (saturatingAdd openFile.offset count), files)

def readAt (table : FileDescriptorTable) (files : FileState) (descriptor offset : ℕ)
  (buffer : List UInt8) : FileSystemResult ℕ × List UInt8 × FileState :=
  match table.getOpenFile descriptor with
  | .error error => (.error error, buffer, files)
  | .ok openFile => openFile.node.readAt files offset buffer

def write (files : FileState) (descriptor : ℕ)
  (buffer : List UInt8) :
  Panicking (FileSystemResult ℕ × FileDescriptorTable × FileState) :=
  match table.getOpenFile descriptor with
  | .error error => return (.error error, table, files)
  | .ok openFile => do
      let (result, files) ← openFile.node.writeAt files openFile.offset buffer
      match result with
      | .error error => return (.error error, table, files)
      | .ok count =>
        return (.ok count,
          table.setOffset descriptor openFile (saturatingAdd openFile.offset count), files)

def seekBase (files : FileState) (openFile : OpenFile) : SeekWhence → ℕ
  | .start => 0
  | .current => openFile.offset
  | .end => (openFile.node.metadata files).size

def seekFrom (files : FileState) (descriptor : ℕ) (offset : ℤ)
  (whence : SeekWhence) : FileSystemResult (ℕ × FileDescriptorTable) :=
  match table.getOpenFile descriptor with
  | .error error => .error error
  | .ok openFile =>
    match addSignedOffset (seekBase files openFile whence) offset with
    | none => .error .invalidArgument
    | some nextOffset => .ok (nextOffset, table.setOffset descriptor openFile nextOffset)

def metadata (table : FileDescriptorTable) (files : FileState) (descriptor : ℕ) : FileSystemResult
  FileMetadata := (table.getOpenFile descriptor).map fun openFile => openFile.node.metadata files

def readDirectory (descriptor : ℕ) :
  FileSystemResult (Option DirectoryEntry × FileDescriptorTable) := do
  let openFile ← table.getOpenFile descriptor
  let entries ← openFile.node.listEntries
  match entries[openFile.offset]? with
  | none => return (none, table)
  | some entry =>
    return (some entry, table.setOffset descriptor openFile (saturatingAdd openFile.offset 1))

end FileDescriptorTable

/-! ### The filesystem service -/

/-- `VIRTUAL_FILE_SYSTEM` with the state of its nodes, and the kernel's `FILE_DESCRIPTORS`. -/
structure FileSystem where
  nodes : List (Path × FileNode)
  files : FileState
  fileDescriptors : FileDescriptorTable

namespace FileSystem

def getNode (fileSystem : FileSystem) (path : Path) : FileSystemResult FileNode :=
  if path.bytes.contains 0 then .error .invalidPath
  else
    match fileSystem.nodes.lookup (normalizePath path) with
    | some node => .ok node
    | none => .error .notFound

/-- `metadata` of a path. -/
def metadata (fileSystem : FileSystem) (path : Path) : FileSystemResult FileMetadata :=
  (fileSystem.getNode path).map fun node => node.metadata fileSystem.files

def openWithCloseOnExecIn (fileSystem : FileSystem) (table : FileDescriptorTable) (path : Path)
  (closeOnExec : Bool) : FileSystemResult (ℕ × FileDescriptorTable) := do
  let node ← fileSystem.getNode path
  table.openWithCloseOnExec node closeOnExec

/-- `open` in the kernel's own table. -/
def «open» (fileSystem : FileSystem) (path : Path) : FileSystemResult (ℕ × FileSystem) := do
  let (descriptor, fileDescriptors) ←
    fileSystem.openWithCloseOnExecIn fileSystem.fileDescriptors path false
  return (descriptor, { fileSystem with fileDescriptors })

/-- `close` in the kernel's own table. -/
def close (fileSystem : FileSystem) (descriptor : ℕ) : FileSystemResult FileSystem := do
  let fileDescriptors ← fileSystem.fileDescriptors.close descriptor
  return { fileSystem with fileDescriptors }

/-- `read` in the kernel's own table. -/
def read (fileSystem : FileSystem) (descriptor : ℕ) (buffer : List UInt8) : FileSystemResult
  ℕ × List UInt8 × FileSystem := let (result, filled, fileDescriptors, files) :=
    fileSystem.fileDescriptors.read fileSystem.files descriptor buffer
  (result, filled, { fileSystem with fileDescriptors, files })

end FileSystem
end ManaOS
