/-
File syscalls (`syscall.rs`): descriptors, directories, paths and the blocking read.

* `sysRead`, `sysOpen`, `sysGetdents64`: the handlers.
-/
import ManaOS.Syscall.Contract

namespace ManaOS
open Checked

def fileTypeWord : FileType → ℕ
  | .regular => 1
  | .directory => 2
  | .device => 3

/-- `write_user_file_stat`: three words. -/
def userFileStat (metadata : FileMetadata) : List UInt8 := toBytes
  8 (fileTypeWord metadata.fileType) ++ toBytes 8 metadata.size ++ toBytes 8 metadata.writable.toNat

def userFileStatBytes : ℕ := 24

def directoryEntryNameBytes : ℕ := 56

def userDirectoryEntryBytes : ℕ := 80

/-- `write_user_directory_entry`. -/
def userDirectoryEntry (entry : DirectoryEntry) : List UInt8 :=
  let name := entry.name.bytes.take directoryEntryNameBytes
  toBytes 8 (fileTypeWord entry.metadata.fileType) ++ toBytes 8 entry.metadata.size ++
    toBytes 8 name.length ++ name ++ List.replicate (directoryEntryNameBytes - name.length) 0

/-- `OPEN_CLOSE_ON_EXEC`, bit 19 of the open flags. -/
def openCloseOnExec (flags : ℕ) : Bool := flags.testBit 19

def atFdcwd : ℕ := wordSize - 100

namespace Kernel
variable (mapper : PageMapper)

def sysWrite (kernel : Kernel) (fileDescriptor userPointer length : ℕ) :
  Panicking (ℕ × Kernel) :=
  match kernel.copyInputBuffer mapper userPointer length with
  | none => return (errorBadAddress, kernel)
  | some buffer => do
      let (result, kernel) ← kernel.withCurrentFileDescriptorTable fun table files =>
        table.write files fileDescriptor buffer
      return (syscallResult result, kernel)

def sysOpen (kernel : Kernel) (userPathPointer flags : ℕ) : Panicking (ℕ × Kernel) :=
  match kernel.copyPathArgument mapper userPathPointer with
  | none => return (errorBadAddress, kernel)
  | some path => do
      let path ← kernel.resolveCurrentProcessPath path
      let (result, kernel) ← kernel.withCurrentFileDescriptorTable fun table files =>
        match kernel.fileSystem.openWithCloseOnExecIn table path (openCloseOnExec flags) with
        | .error error => return (.error error, table, files)
        | .ok (descriptor, table) => return (.ok descriptor, table, files)
      return (syscallResult result, kernel)

def sysOpenat (kernel : Kernel) (directoryFileDescriptor userPathPointer flags : ℕ) :
  Panicking (ℕ × Kernel) :=
  if directoryFileDescriptor ≠ atFdcwd then return (errorNotImplemented, kernel)
  else kernel.sysOpen mapper userPathPointer flags

def sysChdir (kernel : Kernel) (userPathPointer : ℕ) : Panicking (ℕ × Kernel) :=
  match kernel.copyPathArgument mapper userPathPointer with
  | none => return (errorBadAddress, kernel)
  | some path => do
      let path ← kernel.resolveCurrentProcessPath path
      match kernel.fileSystem.metadata path with
      | .error error => return (filesystemErrorToLinux error, kernel)
      | .ok metadata =>
        if metadata.fileType = .directory then
          return (0, { kernel with scheduler := kernel.scheduler.setCurrentWorkingDirectory path })
        else return (errorNotDirectory, kernel)

def sysGetcwd (kernel : Kernel) (userBufferPointer bufferLength : ℕ) :
  Panicking (ℕ × Kernel) := do
  let currentWorkingDirectory ← kernel.scheduler.getCurrentWorkingDirectory
  let pathBytes := currentWorkingDirectory.bytes
  match checkedAdd pathBytes.length 1 with
  | none => return (errorRange, kernel)
  | some requiredLength =>
    if bufferLength < requiredLength then return (errorRange, kernel)
    else
      match kernel.copyOutputBuffer mapper userBufferPointer requiredLength with
      | none => return (errorBadAddress, kernel)
      | some buffer => return (requiredLength, kernel.storeBuffer mapper buffer (pathBytes ++ [0]))

def sysClose (kernel : Kernel) (fileDescriptor : ℕ) : Panicking (ℕ × Kernel) := do
  let (result, kernel) ← kernel.withCurrentFileDescriptorTable fun table files =>
    match table.close fileDescriptor with
    | .error error => return (.error error, table, files)
    | .ok table => return (.ok 0, table, files)
  return (syscallResult result, kernel)

def sysFstat (kernel : Kernel) (fileDescriptor userStatPointer : ℕ) : Panicking (ℕ × Kernel) :=
  match kernel.copyOutputBuffer mapper userStatPointer userFileStatBytes with
  | none => return (errorBadAddress, kernel)
  | some buffer => do
      let (result, kernel) ← kernel.withCurrentFileDescriptorTable fun table files =>
        return (table.metadata files fileDescriptor, table, files)
      match result with
      | .error error => return (error, kernel)
      | .ok metadata => return (0, kernel.storeBuffer mapper buffer (userFileStat metadata))

/-- Read from a descriptor of the current task into a user buffer. -/
def readIntoBuffer (kernel : Kernel) (fileDescriptor : ℕ) (buffer : UserBuffer) :
  Panicking (Except ℕ ℕ × Kernel) := do
  let table ← kernel.scheduler.currentFileDescriptorTable
  let (result, filled, table, files) :=
    table.read kernel.fileSystem.files fileDescriptor buffer.bytes
  let kernel :=
    { kernel with
      scheduler := kernel.scheduler.replaceCurrentFileDescriptorTable table
      fileSystem := { kernel.fileSystem with files } }
  return (result.mapError filesystemErrorToLinux, kernel.storeBuffer mapper buffer filled)

def sysRead (kernel : Kernel) (fileDescriptor userPointer length : ℕ) :
  Panicking (ℕ × Kernel) :=
  match kernel.copyOutputBuffer mapper userPointer length with
  | none => return (errorBadAddress, kernel)
  | some buffer => do
      let (result, kernel) ← kernel.readIntoBuffer mapper fileDescriptor buffer
      match result with
      | .ok bytesRead => return (bytesRead, kernel)
      | .error error =>
        if error = errorTryAgain then
          match outputBufferRange userPointer length with
          | none => return (0, kernel)
          | some userBuffer => do
              let (prepared, scheduler) ←
                kernel.scheduler.prepareCurrentUserRead ⟨fileDescriptor, userBuffer⟩
              let kernel := { kernel with scheduler }
              if prepared.isNone then return (errorTryAgain, kernel)
              else return (userBlockSentinel, kernel)
        else return (error, kernel)

def completeUserReadRequest (kernel : Kernel) (request : UserReadRequest) :
  Panicking (ℕ × Kernel) :=
  match kernel.userBuffer mapper request.userBuffer with
  | none => return (errorBadAddress, kernel)
  | some buffer => do
      let (result, kernel) ← kernel.readIntoBuffer mapper request.fileDescriptor buffer
      return (syscallResult result, kernel)

def completePendingUserRead (kernel : Kernel) (taskId : ℕ) :
  Panicking (Option ℕ × Kernel) := do
  let (request, scheduler) ← kernel.scheduler.takeCurrentUserReadRequest taskId
  let kernel := { kernel with scheduler }
  match request with
  | none => return (none, kernel)
  | some request => do
      let (result, kernel) ← kernel.completeUserReadRequest mapper request
      let scheduler ← kernel.scheduler.completeCurrentUserRead taskId result
      return (some result, { kernel with scheduler })

/-- The loop of `sys_getdents64`; `written` are the bytes of the entries read so far. -/
def readDirectoryEntries (fileDescriptor : ℕ) :
  (remaining : ℕ) → (written : List UInt8) → Kernel → Panicking (Except ℕ (List UInt8) × Kernel)
  | 0, written, kernel => return (.ok written, kernel)
  | remaining + 1, written, kernel => do
      let (result, kernel) ← kernel.withCurrentFileDescriptorTable fun table files =>
        match table.readDirectory fileDescriptor with
        | .error error => return (.error error, table, files)
        | .ok (entry, table) => return (.ok entry, table, files)
      match result with
      | .ok (some entry) =>
        readDirectoryEntries fileDescriptor remaining (written ++ userDirectoryEntry entry)
          kernel
      | .ok none => return (.ok written, kernel)
      | .error error =>
        if written.isEmpty then return (.error error, kernel) else return (.ok written, kernel)

def sysGetdents64 (kernel : Kernel) (fileDescriptor userPointer length : ℕ) :
  Panicking (ℕ × Kernel) :=
  if length < userDirectoryEntryBytes then return (errorInvalidArgument, kernel)
  else
    match kernel.copyOutputBuffer mapper userPointer length with
    | none => return (errorBadAddress, kernel)
    | some buffer => do
        let (result, kernel) ← readDirectoryEntries fileDescriptor
          (buffer.bytes.length / userDirectoryEntryBytes) [] kernel
        match result with
        | .error error => return (error, kernel)
        | .ok written => return (written.length, kernel.storeBuffer mapper buffer written)

/-- The whence argument of `lseek`. -/
def seekWhence (whence : ℕ) : Option SeekWhence :=
  match whence with
  | 0 => some .start
  | 1 => some .current
  | 2 => some .end
  | _ => none

def sysLseek (kernel : Kernel) (fileDescriptor offset whence : ℕ) : Panicking (ℕ × Kernel) :=
  match seekWhence whence with
  | none => return (errorInvalidArgument, kernel)
  | some whence => do
      let (result, kernel) ← kernel.withCurrentFileDescriptorTable fun table files =>
        match table.seekFrom files fileDescriptor (toSigned offset) whence with
        | .error error => return (.error error, table, files)
        | .ok (nextOffset, table) => return (.ok nextOffset, table, files)
      return (syscallResult result, kernel)

end Kernel
end ManaOS
