/-
Memory and sleep syscalls (`syscall/memory.rs`).

* `sysMmap`, `sysBrk`, `sysNanosleep`: the handlers.
-/
import ManaOS.Syscall.Contract

namespace ManaOS
open Checked

def nanosecondsPerSecond : ℕ := 1000000000

def timerTicksPerSecond : ℕ := 1000

def nanosecondsPerTimerTick : ℕ := nanosecondsPerSecond / timerTicksPerSecond

def userTimespecBytes : ℕ := 16

def nanosleepDurationTicks (seconds nanoseconds : ℕ) : Option ℕ :=
  if nanosecondsPerSecond ≤ nanoseconds then none
  else
    (checkedMul seconds timerTicksPerSecond).bind fun secondTicks =>
      checkedAdd secondTicks
        ((nanoseconds + nanosecondsPerTimerTick - 1) / nanosecondsPerTimerTick)

/-- The protection bits of `mmap`: read, write, execute. -/
def protRead (protection : ℕ) : Bool := protection.testBit 0

def protWrite (protection : ℕ) : Bool := protection.testBit 1

/-- `MAP_PRIVATE`, `MAP_FIXED`, `MAP_ANONYMOUS` and `MAP_FIXED_NOREPLACE` as bit positions. -/
def mapPrivateBit : ℕ := 1

/-- `MAP_FIXED`. -/
def mapFixedBit : ℕ := 4

/-- `MAP_ANONYMOUS`. -/
def mapAnonymousBit : ℕ := 5

/-- `MAP_FIXED_NOREPLACE`. -/
def mapFixedNoreplaceBit : ℕ := 20

/-- Only the given bits of a word are set: `word & !mask == 0`. -/
def onlyBits (word : ℕ) (bits : List ℕ) : Bool :=
  (List.range 64).all fun bit => !word.testBit bit || bits.contains bit

/-- `is_supported_mapping_request`; of the protection bits 0, 1 and 2 the execute bit is clear. -/
def isSupportedMappingRequest (protection flags : ℕ) : Bool :=
  onlyBits protection [0, 1, 2] && !protection.testBit 2 &&
    (protRead protection || protWrite protection) &&
    onlyBits flags [mapPrivateBit, mapFixedBit, mapAnonymousBit, mapFixedNoreplaceBit] &&
    flags.testBit mapPrivateBit

def mappingPlacement (requestedAddress flags : ℕ) : Option UserMappingPlacement :=
  if flags.testBit mapFixedNoreplaceBit then
    if requestedAddress = 0 ∨ requestedAddress % pageSize ≠ 0 then none
    else (userPageStartFromRaw requestedAddress).map .fixedNoReplace
  else if flags.testBit mapFixedBit then
    if requestedAddress = 0 ∨ requestedAddress % pageSize ≠ 0 then none
    else (userPageStartFromRaw requestedAddress).map .fixedReplace
  else if requestedAddress = 0 then some .any
  else none

inductive SyscallMappingSource
  | anonymous
  | filePrivate (fileDescriptors : FileDescriptorTable) (fileDescriptor offset : ℕ)

def SyscallMappingSource.userMappingSource : SyscallMappingSource → UserMappingSource
  | .anonymous => .anonymous
  | .filePrivate _ _ _ => .filePrivate

/-- What the page initializer captures: the first read error and the file state. -/
abbrev MappingCapture := Option FileSystemError × FileState

def initializeMappingPage (source : SyscallMappingSource) : PageInitializer MappingCapture :=
  fun captured pageIndex pageBuffer =>
    match source with
    | .anonymous => (.ok pageBuffer, captured)
    | .filePrivate fileDescriptors fileDescriptor offset =>
      match (checkedMul pageIndex pageSize).bind (checkedAdd offset) with
      | none => (.error .invalidRequest, captured)
      | some readOffset =>
        match fileDescriptors.readAt captured.2 fileDescriptor readOffset pageBuffer with
        | (.ok _, filled, files) => (.ok filled, (captured.1, files))
        | (.error error, _, files) => (.error .initializationFailed, (some error, files))

namespace Kernel
variable (mapper : PageMapper)
variable (kernel : Kernel)

def sysBrk (requestedBreak : ℕ) : Panicking (ℕ × Kernel) :=
  match UserHeapBreakRequest.fromSyscallArgument requestedBreak with
  | none => return (errorInvalidArgument, kernel)
  | some request =>
    if !kernel.userRuntimeFrameAllocator then return (errorNotImplemented, kernel)
    else do
      let (result, scheduler, memory) ←
        kernel.scheduler.processCurrentUserBreak mapper kernel.memory request
      return (result.getD errorNotImplemented, { kernel with scheduler, memory })

def sysNanosleep (requestPointer remainingPointer : ℕ) :
  Panicking (ℕ × Kernel) :=
  match kernel.copyInputBuffer mapper requestPointer userTimespecBytes with
  | none => return (errorBadAddress, kernel)
  | some requestBuffer =>
    let remainingBuffer :=
      if remainingPointer = 0 then some none
      else (kernel.copyOutputBuffer mapper remainingPointer userTimespecBytes).map some
    match remainingBuffer with
    | none => return (errorBadAddress, kernel)
    | some remainingBuffer =>
      match nanosleepDurationTicks (fromBytes (requestBuffer.take 8))
          (fromBytes ((requestBuffer.drop 8).take 8)) with
      | none => return (errorInvalidArgument, kernel)
      | some durationTicks => do
          let kernel :=
            match remainingBuffer with
            | none => kernel
            | some buffer => kernel.storeBuffer mapper buffer (List.replicate userTimespecBytes 0)
          if durationTicks = 0 then return (0, kernel)
          else
            match checkedAdd kernel.timerTicks durationTicks with
            | none => return (errorInvalidArgument, kernel)
            | some wakeTick => do
                let (prepared, scheduler) ←
                  kernel.scheduler.prepareCurrentUserSleep wakeTick
                let kernel := { kernel with scheduler }
                if prepared.isNone then return (errorNotImplemented, kernel)
                else return (userBlockSentinel, kernel)

def mappingSourceFromArguments (fileDescriptor offset flags : ℕ) :
  Panicking (Except ℕ SyscallMappingSource) :=
  if flags.testBit mapAnonymousBit then return .ok .anonymous
  else if offset % pageSize ≠ 0 then return .error errorInvalidArgument
  else do
    let fileDescriptors ← kernel.scheduler.currentFileDescriptorTable
    match fileDescriptors.metadata kernel.fileSystem.files fileDescriptor with
    | .error error => return .error (filesystemErrorToLinux error)
    | .ok metadata =>
      match metadata.fileType with
      | .regular => return .ok (.filePrivate fileDescriptors fileDescriptor offset)
      | .directory => return .error errorIsDirectory
      | .device => return .error errorNotSupported

/-- The result of `sys_mmap` from the outcome of the mapping. -/
def mmapResult (captured : MappingCapture) : Except UserMappingError ℕ → ℕ
  | .ok startAddress => startAddress
  | .error .initializationFailed => (captured.1.map filesystemErrorToLinux).getD errorNotSupported
  | .error error => userMappingErrorToLinux error

def sysMmap
  (requestedAddress length protection flags fileDescriptor offset : ℕ) :
  Panicking (ℕ × Kernel) :=
  match mappingPlacement requestedAddress flags, UserMappingLength.fromSyscallArgument length with
  | some placement, some mappingLength =>
    if !isSupportedMappingRequest protection flags then return (errorInvalidArgument, kernel)
    else do
      let source ← kernel.mappingSourceFromArguments fileDescriptor offset flags
      match source with
      | .error error => return (error, kernel)
      | .ok source =>
        if !kernel.userRuntimeFrameAllocator then return (errorNotImplemented, kernel)
        else do
          let (result, scheduler, memory, captured) ←
            kernel.scheduler.processCurrentUserMapping mapper kernel.memory
              ⟨placement, source.userMappingSource, mappingLength, protWrite protection⟩
              (initializeMappingPage source) (none, kernel.fileSystem.files)
          return (mmapResult captured result, { kernel with
              scheduler
              memory
              fileSystem := { kernel.fileSystem with files := captured.2 } })
  | _, _ => return (errorInvalidArgument, kernel)

def sysMunmap (startAddress length : ℕ) : Panicking (ℕ × Kernel) :=
  match UserMappingUnmapRequest.fromSyscallArguments startAddress length with
  | none => return (errorInvalidArgument, kernel)
  | some request =>
    if !kernel.userRuntimeFrameAllocator then return (errorNotImplemented, kernel)
    else do
      let (result, scheduler, memory) ←
        kernel.scheduler.processCurrentUserUnmapping mapper kernel.memory request
      let kernel := { kernel with scheduler, memory }
      return (if result.isSome then 0 else errorInvalidArgument, kernel)

end Kernel
end ManaOS
