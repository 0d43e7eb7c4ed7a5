/-
The user ELF loader (`elf/loader.rs`).

`load_user_elf` runs the checks of `load_user_elf_metadata` and maps each checked segment.

* `loadUserElfMetadata`, `loadUserElf`: the checks alone, and the checks with the mapping.
-/
import ManaOS.Elf.Parser
import ManaOS.Memory.UserStack

namespace ManaOS
open Checked

inductive LoadError
  | elf (error : ElfError)
  | entryOutOfRange
  | noLoadSegments
  | segmentAddressOverflow
  | segmentAddressOutOfRange
  | segmentAlignmentUnsupported
  | segmentPermissionUnsupported
  | segmentFileOutOfBounds
  | segmentFileLargerThanMemory
  deriving DecidableEq

def LoadError.message : LoadError → String
  | .elf error => error.message
  | .entryOutOfRange => "ELF entry point is outside user space"
  | .noLoadSegments => "ELF contains no PT_LOAD segments"
  | .segmentAddressOverflow => "ELF segment address overflowed"
  | .segmentAddressOutOfRange => "ELF segment is outside user space"
  | .segmentAlignmentUnsupported => "ELF segment alignment is unsupported"
  | .segmentPermissionUnsupported => "ELF segment permission is unsupported"
  | .segmentFileOutOfBounds => "ELF segment file range is out of bounds"
  | .segmentFileLargerThanMemory => "ELF segment file size exceeds memory size"

structure LoadedElf where
  entryPoint : UserVirtualAddress
  heapStart : UserVirtualAddress
  deriving DecidableEq

def okOr {ε α : Type} (value : Option α) (error : ε) : Except ε α :=
  match value with
  | some a => .ok a
  | none => .error error

structure LoadSegmentRange where
  memoryRange : UserVirtualRange
  firstPage : UserPageStart
  lastPage : UserPageStart
  fileBackedRange : Option UserVirtualRange
  deriving DecidableEq

namespace LoadSegmentRange

def fromProgramHeader (programHeader : ProgramHeader) : Except LoadError LoadSegmentRange := do
  if programHeader.memorySize = 0 then throw .segmentAddressOutOfRange
  let segmentStart ← okOr (UserVirtualAddress.new programHeader.virtualAddress)
    .segmentAddressOutOfRange
  let memoryRange ← okOr (UserVirtualRange.new segmentStart programHeader.memorySize)
    .segmentAddressOutOfRange
  let lastByteAddress ← okOr (checkedSub memoryRange.endExclusive 1) .segmentAddressOverflow
  let lastByteAddress ← okOr (UserVirtualAddress.new lastByteAddress) .segmentAddressOutOfRange
  let firstPage ← okOr segmentStart.alignDownToPage .segmentAddressOutOfRange
  let lastPage ← okOr lastByteAddress.alignDownToPage .segmentAddressOutOfRange
  if programHeader.fileSize = 0 then
    return ⟨memoryRange, firstPage, lastPage, none⟩
  else do
    let fileBackedRange ← okOr (UserVirtualRange.new segmentStart programHeader.fileSize)
      .segmentAddressOutOfRange
    return ⟨memoryRange, firstPage, lastPage, some fileBackedRange⟩

def heapStartAfterSegment (range : LoadSegmentRange) : Except LoadError UserPageStart := do
  let endAddress ← okOr (UserVirtualAddress.new range.memoryRange.endExclusive)
    .segmentAddressOutOfRange
  okOr endAddress.alignUpToPage .segmentAddressOutOfRange

def contains (range : LoadSegmentRange) (address : UserVirtualAddress) : Bool :=
  range.memoryRange.start.asU64 ≤ address.asU64 && address.asU64 < range.memoryRange.endExclusive

def fileBackedRangeFits (range : LoadSegmentRange) : Bool :=
  range.fileBackedRange.all (·.endExclusive ≤ range.memoryRange.endExclusive)

end LoadSegmentRange

/-! ### Checks -/

/-- `PF_EXECUTE`, bit 0 of the segment flags. -/
def isExecutable (segmentFlags : ℕ) : Bool := segmentFlags.testBit 0

/-- `PF_WRITE`, bit 1 of the segment flags. -/
def isWritable (segmentFlags : ℕ) : Bool := segmentFlags.testBit 1

/-- `PF_READ`, bit 2 of the segment flags. -/
def isReadable (segmentFlags : ℕ) : Bool := segmentFlags.testBit 2

def hasSupportedAlignment (programHeader : ProgramHeader) : Bool :=
  let alignment := programHeader.alignment
  (alignment ≤ 1 || 2 ^ alignment.log2 == alignment) &&
    programHeader.virtualAddress % pageSize == 0 && programHeader.offset % pageSize == 0 &&
    (alignment ≤ 1 || programHeader.virtualAddress % alignment == programHeader.offset % alignment)

def hasSupportedPermissions (segmentFlags : ℕ) : Bool :=
  isReadable segmentFlags && !(isWritable segmentFlags && isExecutable segmentFlags)

variable (image : List UInt8)

/-- The file bounds checked by `validate_load_segment` and again by `map_load_segment`. -/
def checkFileBounds (programHeader : ProgramHeader) :
  Except LoadError Unit := do
  let fileEnd ← okOr (checkedAdd programHeader.offset programHeader.fileSize)
    .segmentFileOutOfBounds
  if image.length < fileEnd then throw .segmentFileOutOfBounds

def validateLoadSegment (programHeader : ProgramHeader) :
  Except LoadError Unit := do
  if programHeader.memorySize = 0 then return
  if programHeader.memorySize < programHeader.fileSize then throw .segmentFileLargerThanMemory
  if !hasSupportedAlignment programHeader then throw .segmentAlignmentUnsupported
  if !hasSupportedPermissions programHeader.flags then throw .segmentPermissionUnsupported
  let segmentRange ← LoadSegmentRange.fromProgramHeader programHeader
  checkFileBounds image programHeader
  if !segmentRange.fileBackedRangeFits then throw .segmentFileLargerThanMemory

def executableSegmentContainsEntry (programHeader : ProgramHeader)
  (entryPoint : UserVirtualAddress) : Bool :=
  isExecutable programHeader.flags &&
    match LoadSegmentRange.fromProgramHeader programHeader with
    | .ok segmentRange => segmentRange.contains entryPoint
    | .error _ => false

def maxUserPageStart (current : Option UserPageStart) (candidate : UserPageStart) :
  UserPageStart :=
  match current with
  | some current => if candidate.asU64 ≤ current.asU64 then current else candidate
  | none => candidate

/-- The accumulators of the two header loops. -/
structure SegmentScan where
  loadSegments : ℕ := 0
  entrySegmentFound : Bool := false
  heapStart : Option UserPageStart := none
  deriving DecidableEq

/-- The checks that both loops make for one `PT_LOAD` header. -/
def inspectSegment (entryPoint : UserVirtualAddress)
  (programHeader : ProgramHeader) (scan : SegmentScan) :
  Except LoadError (SegmentScan × LoadSegmentRange) := do
  validateLoadSegment image programHeader
  let segmentRange ← LoadSegmentRange.fromProgramHeader programHeader
  let segmentHeapStart ← segmentRange.heapStartAfterSegment
  return ({
    loadSegments := min (scan.loadSegments + 1) 65535
    entrySegmentFound :=
      scan.entrySegmentFound || executableSegmentContainsEntry programHeader entryPoint
    heapStart := some (maxUserPageStart scan.heapStart segmentHeapStart) }, segmentRange)

/-- What both functions return after their loop. -/
def SegmentScan.finish (scan : SegmentScan) (entryPoint : UserVirtualAddress) :
  Except LoadError LoadedElf := do
  if scan.loadSegments = 0 then throw .noLoadSegments
  if !scan.entrySegmentFound then throw .entryOutOfRange
  let heapStart ← okOr scan.heapStart .noLoadSegments
  return ⟨entryPoint, heapStart.asAddress⟩

/-- The loop of `load_user_elf_metadata`. -/
def scanSegments (image : List UInt8) (entryPoint : UserVirtualAddress) (scan : SegmentScan) :
  List (Except ElfError ProgramHeader) → Except LoadError SegmentScan
  | [] => .ok scan
  | item :: rest => do
      let programHeader ← item.mapError .elf
      if programHeader.isLoad then do
        let (scan, _) ← inspectSegment image entryPoint programHeader scan
        scanSegments image entryPoint scan rest
      else scanSegments image entryPoint scan rest

def validateEntryPoint (entryPoint : ℕ) : Except LoadError UserVirtualAddress :=
  okOr (UserVirtualAddress.new entryPoint) .entryOutOfRange

def loadUserElfMetadata : Except LoadError LoadedElf := do
  let elf ← (ElfFile.parse image).mapError .elf
  let entryPoint ← validateEntryPoint elf.header.entry
  let scan ← scanSegments image entryPoint {} elf.programHeaders
  scan.finish entryPoint

def validateUserProgramImage : Bool :=
  match loadUserElfMetadata image with
  | .ok _ => true
  | .error _ => false

/-! ### Mapping -/

def pageFlagsForSegment (segmentFlags : ℕ) : PageTableFlags where
  present := true
  userAccessible := true
  writable := isWritable segmentFlags
  noExecute := !isExecutable segmentFlags

def copySegmentPage (programHeader : ProgramHeader)
  (segmentRange : LoadSegmentRange) (pageStart : UserPageStart)
  (physicalAddress : PhysicalFrameStart) (memory : Memory) : Except LoadError Memory :=
  match segmentRange.fileBackedRange with
  | none => .ok memory
  | some fileBackedRange => do
      let copyStart := max pageStart.asU64 fileBackedRange.start.asU64
      let pageEnd ← okOr (checkedAdd pageStart.asU64 pageSize) .segmentAddressOverflow
      let copyEnd := min pageEnd fileBackedRange.endExclusive
      if copyEnd ≤ copyStart then return memory
      else do
        let sourceStart ←
          okOr (checkedAdd programHeader.offset (copyStart - fileBackedRange.start.asU64))
            .segmentFileOutOfBounds
        let copyLength := copyEnd - copyStart
        let sourceEnd ← okOr (checkedAdd sourceStart copyLength) .segmentFileOutOfBounds
        if image.length < sourceEnd then throw .segmentFileOutOfBounds
        return memory.writeBytes (physicalAddress.asAddress + (copyStart - pageStart.asU64))
          ((image.drop sourceStart).take copyLength)

section
variable (mapper : PageMapper) (space : UserAddressSpace)

/-- The page loop of `map_load_segment`, by the number of pages after the current one. -/
def mapSegmentPages (image : List UInt8) (programHeader : ProgramHeader)
  (segmentRange : LoadSegmentRange) :
  (remaining : ℕ) → UserPageStart → Memory → Panicking (Except LoadError Unit × Memory)
  | remaining, pageStart, memory => do
      let (physicalAddress, memory) ←
        allocateAndMapUserPage mapper space memory pageStart
          (pageFlagsForSegment programHeader.flags) .userElf
      match copySegmentPage image programHeader segmentRange pageStart physicalAddress memory with
      | .error error => return (.error error, memory)
      | .ok memory =>
        match remaining with
        | 0 => return (.ok (), memory)
        | remaining + 1 =>
          match pageStart.checkedAdd pageSize with
          | none => return (.error .segmentAddressOverflow, memory)
          | some nextPageStart =>
            mapSegmentPages image programHeader segmentRange remaining nextPageStart memory

def mapLoadSegment (image : List UInt8) (programHeader : ProgramHeader)
  (segmentRange : LoadSegmentRange) (memory : Memory) :
  Panicking (Except LoadError Unit × Memory) :=
  if programHeader.memorySize = 0 then return (.ok (), memory)
  else
    match checkFileBounds image programHeader with
    | .error error => return (.error error, memory)
    | .ok () =>
      mapSegmentPages mapper space image programHeader segmentRange
        ((segmentRange.lastPage.asU64 - segmentRange.firstPage.asU64) / pageSize)
        segmentRange.firstPage memory

/-- The loop of `load_user_elf`. -/
def loadSegments (image : List UInt8) (entryPoint : UserVirtualAddress) : SegmentScan → List
  (Except ElfError ProgramHeader) → Memory → Panicking (Except LoadError SegmentScan × Memory)
  | scan, [], memory => return (.ok scan, memory)
  | scan, item :: rest, memory =>
    match item.mapError LoadError.elf with
    | .error error => return (.error error, memory)
    | .ok programHeader =>
      if programHeader.isLoad then
        match inspectSegment image entryPoint programHeader scan with
        | .error error => return (.error error, memory)
        | .ok (scan, segmentRange) => do
            let (mapped, memory) ←
              mapLoadSegment mapper space image programHeader segmentRange memory
            match mapped with
            | .error error => return (.error error, memory)
            | .ok () => loadSegments image entryPoint scan rest memory
      else loadSegments image entryPoint scan rest memory

def loadUserElf (memory : Memory) (image : List UInt8) :
  Panicking (Except LoadError LoadedElf × Memory) :=
  match (ElfFile.parse image).mapError LoadError.elf with
  | .error error => return (.error error, memory)
  | .ok elf =>
    match validateEntryPoint elf.header.entry with
    | .error error => return (.error error, memory)
    | .ok entryPoint => do
        let (scan, memory) ←
          loadSegments mapper space image entryPoint {} elf.programHeaders memory
        return (scan.bind (·.finish entryPoint), memory)

def loadUserProgram (memory : Memory) (image : List UInt8) : Panicking (LoadedElf × Memory) := do
  let (loaded, memory) ← loadUserElf mapper space memory image
  match loaded with
  | .ok loaded => return (loaded, memory)
  | .error error =>
    let reason := error.message
    .error s!"failed to load user ELF: {reason}"

end
end ManaOS
