/-
The kernel state and user program spawning (`process.rs`).

* `Kernel`: the state of all modelled modules;
* `spawnUserProgram`: from an image to a task.
-/
import ManaOS.Elf.Loader
import ManaOS.Task.Switch

namespace ManaOS
open Checked

/-- `PreemptionStateDiagnostics`. -/
inductive PreemptionState
  | disabled
  | enabled
  | userReturn
  deriving DecidableEq

/-- The kernel's statics; `reservableBytes` is what the kernel heap can still reserve. -/
structure Kernel where
  memory : Memory
  scheduler : Scheduler
  fileSystem : FileSystem
  timerTicks : ℕ
  selectors : UserModeSelectors
  preemptionState : PreemptionState
  userRuntimeFrameAllocator : Bool
  userReturnStack : ℕ
  userReturnWindowTaskId : ℕ
  reservableBytes : ℕ

/-! ### Program images -/

inductive UserProgramSpawnError
  | notFound
  | invalidPath
  | directoryTarget
  | unsupportedTarget
  | readFailed
  | outOfMemory
  | invalidImage
  deriving DecidableEq

def mapFilesystemSpawnError : FileSystemError → UserProgramSpawnError
  | .notFound => .notFound
  | .invalidPath | .invalidArgument => .invalidPath
  | .isDirectory => .directoryTarget
  | .unsupportedOperation => .unsupportedTarget
  | .invalidFileDescriptor | .tooManyOpenFiles | .alreadyInitialized | .notDirectory
  | .wouldBlock => .readFailed

/-- The loop of `read_exact_program_image` and `read_execve_descriptor_image`: `done` has been read,
`rest` is to fill; a read of zero bytes ends it. -/
def readExactFrom (descriptor : ℕ) : (rounds : ℕ) →
  (done rest : List UInt8) → FileSystem → FileSystemResult (Option (List UInt8)) × FileSystem
  | _, done, [], fileSystem => (.ok (some done), fileSystem)
  | 0, _, _ :: _, fileSystem => (.ok none, fileSystem)
  | rounds + 1, done, byte :: rest, fileSystem =>
    match fileSystem.read descriptor (byte :: rest) with
    | (.error error, _, fileSystem) => (.error error, fileSystem)
    | (.ok 0, _, fileSystem) => (.ok none, fileSystem)
    | (.ok (count + 1), filled, fileSystem) =>
      readExactFrom descriptor rounds (done ++ filled.take (count + 1))
        (filled.drop (count + 1)) fileSystem

/-- The whole buffer of `byteLen` zero bytes, filled by `readExactFrom`. -/
def readExact (descriptor byteLen : ℕ) (fileSystem : FileSystem) : FileSystemResult (Option (List
  UInt8)) × FileSystem := readExactFrom descriptor byteLen [] (List.replicate byteLen 0) fileSystem

namespace Kernel

/-- `Vec::try_reserve_exact` on an empty vector. -/
def tryReserveExact (kernel : Kernel) (byteLen : ℕ) : Bool :=
  byteLen ≤ vecCapacity && byteLen ≤ kernel.reservableBytes

/-- `read_program_image`.  A failed reservation leaves the descriptor open, as in the source. -/
def readProgramImage (kernel : Kernel) (path : Path) :
  Except UserProgramSpawnError (List UInt8) × Kernel :=
  if path.head? ≠ some '/' then (.error .invalidPath, kernel)
  else
    match kernel.fileSystem.metadata path with
    | .error error => (.error (mapFilesystemSpawnError error), kernel)
    | .ok metadata =>
      match metadata.fileType with
      | .directory => (.error .directoryTarget, kernel)
      | .device => (.error .unsupportedTarget, kernel)
      | .regular =>
        match kernel.fileSystem.open path with
        | .error error => (.error (mapFilesystemSpawnError error), kernel)
        | .ok (descriptor, fileSystem) =>
          if !kernel.tryReserveExact metadata.size then
            (.error .outOfMemory, { kernel with fileSystem })
          else
            let (readResult, fileSystem) := readExact descriptor metadata.size fileSystem
            match fileSystem.close descriptor, readResult with
            | .error _, _ => (.error .readFailed, { kernel with fileSystem })
            | .ok fileSystem, .ok (some contents) => (.ok contents, { kernel with fileSystem })
            | .ok fileSystem, _ => (.error .readFailed, { kernel with fileSystem })

def loadProgramImage (kernel : Kernel) (path : Path) :
  Except UserProgramSpawnError (List UInt8) × Kernel :=
  match kernel.readProgramImage path with
  | (.error error, kernel) => (.error error, kernel)
  | (.ok image, kernel) =>
    if validateUserProgramImage image then (.ok image, kernel)
    else (.error .invalidImage, kernel)

end Kernel

section
variable (mapper : PageMapper) (space : UserAddressSpace)

def UserAddressSpace.verifyKernelUserMappingPermissions (memory : Memory) (kernelPointer : ℕ)
  (userStackPointer userEntryPointer : UserVirtualAddress) : Bool :=
  match space.mappingFlagsForAddress mapper memory kernelPointer,
      space.mappingFlagsForAddress mapper memory userStackPointer.asU64,
      space.mappingFlagsForAddress mapper memory userEntryPointer.asU64 with
  | some kernelFlags, some userStackFlags, some userEntryFlags =>
    kernelFlags.contains { present := true } &&
      !kernelFlags.contains { userAccessible := true } &&
      userStackFlags.contains
        { present := true, userAccessible := true, writable := true, noExecute := true } &&
      userEntryFlags.contains { present := true, userAccessible := true } &&
      !userEntryFlags.contains { writable := true } &&
      !userEntryFlags.contains { noExecute := true }
  | _, _, _ => false

def UserAddressSpace.verifySyscallUserDataPermissions (memory : Memory)
  (userStackPointer userEntryPointer : UserVirtualAddress) : Bool :=
  match UserVirtualRange.new userStackPointer 1, UserVirtualRange.new userEntryPointer 1 with
  | some userStackRange, some userEntryRange =>
    space.isUserRangeMappedReadable mapper memory ⟨userStackRange⟩ &&
      space.isUserRangeMappedWritable mapper memory ⟨userStackRange⟩ &&
      !space.isUserRangeMappedReadable mapper memory ⟨userEntryRange⟩ &&
      !space.isUserRangeMappedWritable mapper memory ⟨userEntryRange⟩
  | _, _ => false

end

/-- `UserProgramSpawnRequest` with its entry vectors. -/
structure UserProgramSpawnRequest where
  path : Path
  arguments : List (List UInt8)
  environment : List (List UInt8)
  userStackPages : PageCount
  kernelProbeAddress : Option ℕ := none

def verifyUserProgramMappings (mapper : PageMapper) (memory : Memory) (space : UserAddressSpace)
  (userStack : AllocatedUserStack) (userEntryPoint : UserVirtualAddress)
  (kernelProbeAddress : Option ℕ) : Panicking Unit := do
  let userStackProbe ← expect (userStack.top.checkedSub 1)
    "user stack top must be above the mapped stack"
  match kernelProbeAddress with
  | none => pure ()
  | some probe =>
    require
      (space.verifyKernelUserMappingPermissions mapper memory probe userStackProbe userEntryPoint)
      "kernel and user mapping permission smoke must pass"
  require (space.verifySyscallUserDataPermissions mapper memory userStackProbe userEntryPoint)
    "syscall user data permission smoke must pass"

/-- `UserEntryArguments::new` from a prepared stack. -/
def PreparedUserStack.entryArguments (stack : PreparedUserStack) : UserEntryArguments :=
  ⟨stack.argumentCount, stack.argumentValuesPointer, stack.environmentValuesPointer⟩

namespace Kernel
variable (mapper : PageMapper)

/-- `spawn_user_program` after the image has been read. -/
def spawnFromImage (kernel : Kernel) (request : UserProgramSpawnRequest) (image : List UInt8) :
  Panicking (ℕ × Kernel) := do
  let (space, memory) ← createUserAddressSpace kernel.memory
  let (loaded, memory) ← loadUserProgram mapper space memory image
  let (userStack, memory) ← allocateUserStack mapper space memory request.userStackPages
  let verified ← verifyUserStackMapping mapper space memory userStack
  require verified "user stack mapping and guard page smoke must pass"
  verifyUserProgramMappings mapper memory space userStack loaded.entryPoint
    request.kernelProbeAddress
  let (prepared, memory) ←
    prepareInitialStackBytes mapper space memory userStack request.arguments request.environment
  let (taskId, scheduler, memory) ←
    kernel.scheduler.spawnUserTask mapper memory kernel.selectors
      ⟨space, loaded.entryPoint, prepared.stackPointer, loaded.heapStart, prepared.entryArguments⟩
  return (taskId, { kernel with memory, scheduler })

def spawnUserProgram (kernel : Kernel) (request : UserProgramSpawnRequest) :
  Panicking (Except UserProgramSpawnError ℕ × Kernel) :=
  match kernel.loadProgramImage request.path with
  | (.error error, kernel) => return (.error error, kernel)
  | (.ok image, kernel) => do
      let (taskId, kernel) ← kernel.spawnFromImage mapper request image
      return (.ok taskId, kernel)

end Kernel
end ManaOS
