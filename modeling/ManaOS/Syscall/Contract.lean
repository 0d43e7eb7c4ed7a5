/-
Syscall numbers, results and user buffers (`shared/syscall_contract.rs`, `syscall.rs`).

* `linuxError`, `userExitSentinel`: results that are no values.
-/
import ManaOS.Process

namespace ManaOS
open Checked

/-! ### Numbers -/

def sysRead : ℕ := 0
def sysWrite : ℕ := 1
def sysOpen : ℕ := 2
def sysClose : ℕ := 3
def sysFstat : ℕ := 5
def sysLseek : ℕ := 8
def sysMmap : ℕ := 9
def sysMunmap : ℕ := 11
def sysBrk : ℕ := 12
def sysNanosleep : ℕ := 35
def sysGetpid : ℕ := 39
def sysExecve : ℕ := 59
def sysExit : ℕ := 60
def sysWaitpid : ℕ := 61
def sysGetcwd : ℕ := 79
def sysChdir : ℕ := 80
def sysGetppid : ℕ := 110
def sysGetdents64 : ℕ := 217
def sysExitGroup : ℕ := 231
def sysOpenat : ℕ := 257
def sysSpawn : ℕ := 400

/-! ### Results -/

/-- `linux_error`: `0_u64.wrapping_sub(errno)`. -/
def linuxError (errno : ℕ) : ℕ := wordSize - errno

def errorNotFound : ℕ := linuxError 2
def errorArgumentListTooLong : ℕ := linuxError 7
def errorBadFileDescriptor : ℕ := linuxError 9
def errorNoChild : ℕ := linuxError 10
def errorTryAgain : ℕ := linuxError 11
def errorOutOfMemory : ℕ := linuxError 12
def errorBadAddress : ℕ := linuxError 14
def errorFileExists : ℕ := linuxError 17
def errorNotDirectory : ℕ := linuxError 20
def errorIsDirectory : ℕ := linuxError 21
def errorInvalidArgument : ℕ := linuxError 22
def errorTooManyOpenFiles : ℕ := linuxError 24
def errorRange : ℕ := linuxError 34
def errorNotImplemented : ℕ := linuxError 38
def errorNotSupported : ℕ := linuxError 95

def linuxErrnoMax : ℕ := 4095

def userExitSentinel : ℕ := wordMax - linuxErrnoMax

def userBlockSentinel : ℕ := wordMax - linuxErrnoMax - 1

def userExecveSentinel : ℕ := wordMax - linuxErrnoMax - 2

def filesystemErrorToLinux : FileSystemError → ℕ
  | .notFound => errorNotFound
  | .invalidFileDescriptor => errorBadFileDescriptor
  | .unsupportedOperation => errorNotSupported
  | .tooManyOpenFiles => errorTooManyOpenFiles
  | .alreadyInitialized | .invalidPath | .invalidArgument => errorInvalidArgument
  | .notDirectory => errorNotDirectory
  | .isDirectory => errorIsDirectory
  | .wouldBlock => errorTryAgain

def spawnErrorToLinux : UserProgramSpawnError → ℕ
  | .notFound => errorNotFound
  | .invalidPath | .readFailed | .invalidImage => errorInvalidArgument
  | .outOfMemory => errorOutOfMemory
  | .directoryTarget => errorIsDirectory
  | .unsupportedTarget => errorNotSupported

def userMappingErrorToLinux : UserMappingError → ℕ
  | .invalidRequest => errorInvalidArgument
  | .addressInUse => errorFileExists
  | .outOfMemory => errorOutOfMemory
  | .initializationFailed => errorNotSupported

/-- The `i64` with the bits of a 64-bit word. -/
def toSigned (word : ℕ) : ℤ := if word < 2 ^ 63 then word else word - 2 ^ 64

/-! ### User buffers -/

/-- A span of user memory with its bytes, the source's `&mut [u8]`; the empty span has no address.
-/
structure UserBuffer where
  start : ℕ
  bytes : List UInt8

namespace Kernel
variable (mapper : PageMapper)
variable (kernel : Kernel)

def copyInputBuffer (userPointer byteLen : ℕ) : Option (List UInt8) :=
  if byteLen = 0 then some []
  else
    (UserReadableRange.fromSyscallArguments userPointer byteLen).bind
      (copyFromUser mapper kernel.memory)

def outputBufferRange (userPointer byteLen : ℕ) : Option UserWritableRange :=
  UserWritableRange.fromSyscallArguments userPointer byteLen

/-- The writable span of a validated user range. -/
def userBuffer (range : UserWritableRange) : Option UserBuffer := (copyToUser mapper
  kernel.memory range).map fun span => ⟨span.start.asU64, kernel.memory.userBytes mapper span⟩

def copyOutputBuffer (userPointer byteLen : ℕ) : Option UserBuffer :=
  if byteLen = 0 then some ⟨0, []⟩
  else (outputBufferRange userPointer byteLen).bind (kernel.userBuffer mapper)

/-- Write bytes at the front of a user buffer. -/
def storeBuffer (buffer : UserBuffer) (bytes : List UInt8) : Kernel :=
  { kernel with memory := kernel.memory.storeUserBytes mapper buffer.start bytes }

def maxUserStringLength : ℕ := 256

def copyPathArgument (userPointer : ℕ) : Option Path :=
  (UserCString.fromSyscallArguments userPointer maxUserStringLength).bind
    (copyCstrFromUser mapper kernel.memory)

def resolveCurrentProcessPath (path : Path) : Panicking Path :=
  return resolvePath (← kernel.scheduler.getCurrentWorkingDirectory) path

end Kernel

/-- `with_current_file_descriptor_table`: run an operation and turn its error into an errno. -/
def Kernel.withCurrentFileDescriptorTable {α : Type} (kernel : Kernel)
  (operation : FileDescriptorTable → FileState →
    Panicking (FileSystemResult α × FileDescriptorTable × FileState)) :
  Panicking (Except ℕ α × Kernel) := do
  let table ← kernel.scheduler.currentFileDescriptorTable
  let (result, table, files) ← operation table kernel.fileSystem.files
  return (result.mapError filesystemErrorToLinux, { kernel with
      scheduler := kernel.scheduler.replaceCurrentFileDescriptorTable table
      fileSystem := { kernel.fileSystem with files } })

/-- The result of a handler: `Ok(value) => value, Err(error) => error`. -/
def syscallResult : Except ℕ ℕ → ℕ
  | .ok value => value
  | .error error => error

end ManaOS
