/-
Process syscalls (`syscall.rs`): waitpid, spawn, execve, exit and identifiers.

* `sysWaitpid`, `sysSpawn`, `sysExecve`: the handlers.
-/
import ManaOS.Syscall.Contract

namespace ManaOS
open Checked

/-! ### Waiting -/

inductive WaitProcessSelector
  | anyChild
  | childIdentifier (childTaskId : ℕ)
  deriving DecidableEq

namespace WaitProcessSelector

/-- `WaitProcessSelector::from_syscall_argument`: `-1` or a positive `i64`. -/
def fromSyscallArgument (processIdentifier : ℕ) : Option WaitProcessSelector :=
  if toSigned processIdentifier = -1 then some .anyChild
  else if 0 < toSigned processIdentifier then some (.childIdentifier processIdentifier)
  else none

def childTaskId : WaitProcessSelector → Option ℕ
  | .anyChild => none
  | .childIdentifier childTaskId => some childTaskId

end WaitProcessSelector

/-- `WNOHANG`, the only supported option bit. -/
def wnohang : ℕ := 1

def userWaitStatusBytes : ℕ := 4

namespace Kernel

section
variable (mapper : PageMapper)

/-- The immediate status store of `sys_waitpid`. -/
def storeWaitStatus (kernel : Kernel) (statusBuffer : Option UserWritableRange)
  (exit : UserTaskExit) : Panicking Kernel :=
  match statusBuffer with
  | none => return kernel
  | some statusBuffer => do
      let buffer ← expect (kernel.userBuffer mapper statusBuffer)
        "validated waitpid status pointer must remain writable"
      return kernel.storeBuffer mapper buffer (toBytes 4 exit.waitStatus)

/-- `sys_waitpid` after its checks: collect a child that has exited, or wait. -/
def waitForChild (kernel : Kernel) (parentTaskId : ℕ) (selector : WaitProcessSelector)
  (waitStatusBuffer : Option UserWritableRange) (noHang : Bool) : Panicking (ℕ × Kernel) := do
  let (exit, scheduler) ←
    kernel.scheduler.collectWaitableChildExit parentTaskId selector.childTaskId
  let kernel := { kernel with scheduler }
  match exit with
  | some exit => do
      let kernel ← kernel.storeWaitStatus mapper waitStatusBuffer exit
      return (exit.taskId, kernel)
  | none =>
    if noHang then return (0, kernel)
    else do
      let (prepared, scheduler) ←
        kernel.scheduler.prepareCurrentUserWaitpid selector.childTaskId waitStatusBuffer
      let kernel := { kernel with scheduler }
      if prepared.isNone then return (errorNotImplemented, kernel)
      else return (userBlockSentinel, kernel)

def sysWaitpid (kernel : Kernel) (processIdentifier statusPointer options : ℕ) :
  Panicking (ℕ × Kernel) :=
  if options ≠ 0 ∧ options ≠ wnohang then return (errorInvalidArgument, kernel)
  else
    match WaitProcessSelector.fromSyscallArgument processIdentifier with
    | none => return (errorInvalidArgument, kernel)
    | some selector => do
        let parentTaskId ← kernel.scheduler.getCurrentTaskId
        let hasMatchingChild ← kernel.scheduler.currentUserTaskHasChild selector.childTaskId
        match hasMatchingChild with
        | none => return (errorNotImplemented, kernel)
        | some false => return (errorNoChild, kernel)
        | some true =>
          if statusPointer = 0 then
            kernel.waitForChild mapper parentTaskId selector none (options == wnohang)
          else
            match outputBufferRange statusPointer userWaitStatusBytes with
            | none => return (errorBadAddress, kernel)
            | some statusBuffer =>
              kernel.waitForChild mapper parentTaskId selector (some statusBuffer)
                (options == wnohang)

end

/-! ### Entry vectors -/

/-- `MAX_USER_ENTRY_ARGUMENT_COUNT` and `MAX_USER_ENTRY_ENVIRONMENT_COUNT`. -/
def maxUserEntryValueCount : ℕ := 8

def maxUserEntryCopiedStringBytes : ℕ := 4096

structure UserProgramEntryStaging where
  path : Path
  argumentValues : List (List UInt8)
  environmentValues : List (List UInt8)

section
variable (mapper : PageMapper)
variable (kernel : Kernel)

def copyUserEntryPointerArraySlot (userPointerArray index : ℕ) :
  Except ℕ ℕ := do
  let offset ← okOr (checkedMul index 8) errorBadAddress
  let slotPointer ← okOr (checkedAdd userPointerArray offset) errorBadAddress
  let buffer ← okOr (kernel.copyInputBuffer mapper slotPointer 8) errorBadAddress
  return fromBytes buffer

/-- `copy_user_entry_string_value`: the string and the advanced byte counter. -/
def copyUserEntryStringValue (userStringPointer copiedStringBytes : ℕ) :
  Except ℕ (List UInt8 × ℕ) := do
  let userString ← okOr
    (UserCString.fromSyscallArguments userStringPointer maxUserEntryCopiedStringBytes)
    errorBadAddress
  let value ← okOr (copyCstrBytesFromUser mapper kernel.memory userString) errorBadAddress
  let nextStringBytes ←
    okOr ((checkedAdd value.length 1).bind (checkedAdd copiedStringBytes))
      errorArgumentListTooLong
  if maxUserEntryCopiedStringBytes < nextStringBytes then throw errorArgumentListTooLong
  return (value, nextStringBytes)

/-- The loop of `copy_user_entry_string_vector`; `remaining` values may still be copied. -/
def copyUserEntryStringsFrom (kernel : Kernel) (userPointerArray : ℕ) :
  (remaining index copiedStringBytes : ℕ) → Except ℕ (List (List UInt8) × ℕ)
  | remaining, index, copiedStringBytes => do
      let stringPointer ← kernel.copyUserEntryPointerArraySlot mapper userPointerArray index
      if stringPointer = 0 then return ([], copiedStringBytes)
      match remaining with
      | 0 => throw errorArgumentListTooLong
      | remaining + 1 => do
          let (value, copiedStringBytes) ←
            kernel.copyUserEntryStringValue mapper stringPointer copiedStringBytes
          let (values, copiedStringBytes) ←
            copyUserEntryStringsFrom kernel userPointerArray remaining (index + 1)
              copiedStringBytes
          return (value :: values, copiedStringBytes)

def copyUserEntryStringVector (userPointerArray maxValues : ℕ)
  (copiedStringBytes : ℕ) : Except ℕ (List (List UInt8) × ℕ) :=
  if userPointerArray = 0 then return ([], copiedStringBytes)
  else kernel.copyUserEntryStringsFrom mapper userPointerArray maxValues 0 copiedStringBytes

def copyUserProgramEntryStaging
  (userPathPointer userArgumentValuesPointer userEnvironmentValuesPointer : ℕ) :
  Panicking (Except ℕ UserProgramEntryStaging) :=
  match kernel.copyPathArgument mapper userPathPointer with
  | none => return .error errorBadAddress
  | some path => do
      let path ← kernel.resolveCurrentProcessPath path
      return do
        let (argumentValues, copied) ←
          kernel.copyUserEntryStringVector mapper userArgumentValuesPointer
            maxUserEntryValueCount 0
        let (environmentValues, _) ←
          kernel.copyUserEntryStringVector mapper userEnvironmentValuesPointer
            maxUserEntryValueCount copied
        return ⟨path, argumentValues, environmentValues⟩

/-- `SPAWN_USER_STACK_PAGES` and `EXECVE_USER_STACK_PAGES`. -/
def syscallUserStackPages : PageCount := ⟨4, by decide, by decide⟩

/-- The spawn request of `sys_spawn`: without arguments the path is the only one. -/
def UserProgramEntryStaging.spawnRequest (staging : UserProgramEntryStaging) :
  UserProgramSpawnRequest where
  path := staging.path
  arguments :=
    if staging.argumentValues.isEmpty then [staging.path.bytes] else staging.argumentValues
  environment := staging.environmentValues
  userStackPages := syscallUserStackPages

def sysSpawn
  (userPathPointer userArgumentValuesPointer userEnvironmentValuesPointer : ℕ) :
  Panicking (ℕ × Kernel) := do
  let staging ← kernel.copyUserProgramEntryStaging mapper userPathPointer
    userArgumentValuesPointer userEnvironmentValuesPointer
  match staging with
  | .error error => return (error, kernel)
  | .ok staging =>
    if !kernel.userRuntimeFrameAllocator then return (errorNotImplemented, kernel)
    else do
      let (result, kernel) ← kernel.spawnUserProgram mapper staging.spawnRequest
      match result with
      | .error error => return (spawnErrorToLinux error, kernel)
      | .ok childTaskId => do
          let (activated, scheduler) ← kernel.scheduler.activateUserTask childTaskId
          let kernel := { kernel with scheduler }
          if activated then return (childTaskId, kernel)
          else return (errorNotImplemented, kernel)

/-! ### Execve -/

def readExecveCandidateImage (path : Path) :
  Panicking (Except ℕ (List UInt8) × Kernel) :=
  if path.head? ≠ some '/' then return (.error errorInvalidArgument, kernel)
  else
    match kernel.fileSystem.metadata path with
    | .error error => return (.error (filesystemErrorToLinux error), kernel)
    | .ok metadata =>
      match metadata.fileType with
      | .directory => return (.error errorIsDirectory, kernel)
      | .device => return (.error errorNotSupported, kernel)
      | .regular =>
        match kernel.fileSystem.open path with
        | .error error => return (.error (filesystemErrorToLinux error), kernel)
        | .ok (descriptor, fileSystem) => do
            let (result, fileSystem) :=
              if kernel.tryReserveExact metadata.size then
                match readExact descriptor metadata.size fileSystem with
                | (.ok (some image), fileSystem) => (.ok image, fileSystem)
                | (.ok none, fileSystem) => (.error errorInvalidArgument, fileSystem)
                | (.error error, fileSystem) => (.error (filesystemErrorToLinux error), fileSystem)
              else (.error errorOutOfMemory, fileSystem)
            match fileSystem.close descriptor with
            | .error _ => .error "failed to close execve image descriptor"
            | .ok fileSystem => return (result, { kernel with fileSystem })

structure ExecveImageCandidate where
  addressSpace : UserAddressSpace
  trapFrame : UserTrapFrame
  heapStart : UserVirtualAddress

def buildExecveCandidate (staging : UserProgramEntryStaging)
  (executableImage : List UInt8) : Panicking (ExecveImageCandidate × Memory) := do
  let (space, memory) ← createUserAddressSpace kernel.memory
  let (loaded, memory) ← loadUserProgram mapper space memory executableImage
  let (candidateStack, memory) ← allocateUserStack mapper space memory syscallUserStackPages
  let (prepared, memory) ←
    prepareInitialStackBytes mapper space memory candidateStack staging.argumentValues
      staging.environmentValues
  let trapFrame ←
    userEntryFrame kernel.selectors loaded.entryPoint prepared.stackPointer
      prepared.entryArguments
  return (⟨space, trapFrame, loaded.heapStart⟩, memory)

/-- `build_and_publish_execve_candidate`: the new trap frame when the image was published. -/
def buildAndPublishExecveCandidate (staging : UserProgramEntryStaging)
  (executableImage : List UInt8) : Panicking (Option UserTrapFrame × Kernel) := do
  let currentAddressSpace ← kernel.scheduler.currentUserAddressSpace
  let (candidate, memory) ← kernel.buildExecveCandidate mapper staging executableImage
  let (replaced, scheduler) ←
    kernel.scheduler.replaceCurrentUserImage candidate.addressSpace candidate.trapFrame
      candidate.heapStart
  match replaced with
  | none => do
      let (_, memory) ← destroyUserAddressSpace memory candidate.addressSpace
      let memory :=
        match currentAddressSpace with
        | none => memory
        | some space => switchToUserAddressSpace memory space
      return (none, { kernel with scheduler, memory })
  | some (_, oldAddressSpace) => do
      let (_, memory) ← destroyUserAddressSpace memory oldAddressSpace
      let table ← scheduler.currentFileDescriptorTable
      let scheduler := scheduler.replaceCurrentFileDescriptorTable table.closeOnExecDescriptors
      let memory := switchToUserAddressSpace memory candidate.addressSpace
      let _ ← expect candidate.trapFrame.instructionPointerAddress
        "published execve entry point must be a user virtual address"
      let _ ← expect candidate.trapFrame.stackPointerAddress
        "published execve stack pointer must be a user virtual address"
      return (some candidate.trapFrame, { kernel with scheduler, memory })

/-- `sys_execve` with a trap frame to replace; the frame comes back with the result. -/
def sysExecve
  (userPathPointer userArgumentValuesPointer userEnvironmentValuesPointer : ℕ)
  (trapFrame : UserTrapFrame) : Panicking (ℕ × UserTrapFrame × Kernel) := do
  let staging ← kernel.copyUserProgramEntryStaging mapper userPathPointer
    userArgumentValuesPointer userEnvironmentValuesPointer
  match staging with
  | .error error => return (error, trapFrame, kernel)
  | .ok staging => do
      let (image, kernel) ← kernel.readExecveCandidateImage staging.path
      match image with
      | .error error => return (error, trapFrame, kernel)
      | .ok image =>
        if !validateUserProgramImage image then
          return (errorInvalidArgument, trapFrame, kernel)
        else if !kernel.userRuntimeFrameAllocator then
          return (errorNotImplemented, trapFrame, kernel)
        else do
          let (published, kernel) ←
            kernel.buildAndPublishExecveCandidate mapper staging image
          match published with
          | none => return (errorNotImplemented, trapFrame, kernel)
          | some trapFrame => return (userExecveSentinel, trapFrame, kernel)

end

/-- `sys_exit`, with `close_user_return_preemption_window` when a task finished. -/
def sysExit (kernel : Kernel) (exitCode : ℕ) : Panicking (ℕ × Kernel) := do
  let (exit, scheduler) ← kernel.scheduler.finishCurrentTask exitCode
  let kernel := { kernel with scheduler }
  match exit with
  | none => return (userExitSentinel, kernel)
  | some _ => return (userExitSentinel, { kernel with preemptionState := .userReturn })

def sysGetpid (kernel : Kernel) : Panicking (ℕ × Kernel) :=
  return (← kernel.scheduler.getCurrentTaskId, kernel)

def sysGetppid (kernel : Kernel) : Panicking (ℕ × Kernel) :=
  return ((← kernel.scheduler.getCurrentParentTaskId).getD errorNotImplemented, kernel)

end Kernel
end ManaOS
