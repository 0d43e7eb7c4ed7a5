/-
Kernel stacks of tasks (`task/stack.rs`) and the kernel range mappings they use
(`memory/paging.rs`): one guard page and four writable pages.

* `KernelStack.newDefault`, `KernelStack.destroy`: the life of a stack.
-/
import ManaOS.Memory.AddressSpace
import ManaOS.Memory.VirtualAllocator

namespace ManaOS
open Checked

/-! ### Kernel ranges -/

section
variable (mapper : PageMapper)

/-- `mapping_flags_for_address` in the active address space. -/
def mappingFlagsForAddress (memory : Memory) (address : ℕ) : Option PageTableFlags :=
  (mapper.translate memory.activeLevel4Frame address memory.tables).map Translation.flags

/-- The loop of `map_kernel_writable_no_execute_range` over page indices. -/
def mapKernelPages (virtualRange : KernelVirtualRange) (physicalRange : PhysicalFrameRange) :
  List ℕ → Memory → Panicking Memory
  | [], memory => .ok memory
  | index :: rest, memory => do
      let offset ← expect (checkedMul index pageSize) "kernel mapping offset overflowed"
      let virtualPageStart ← expect (virtualRange.start.checkedAdd offset)
        "kernel virtual mapping address overflowed"
      let physicalAddress ← expect (checkedAdd physicalRange.start.asAddress offset)
        "kernel physical mapping address overflowed"
      -- `PhysFrame::containing_address` of an aligned start plus whole pages
      let frame ← expect (PhysicalFrameStart.new physicalAddress)
        "kernel physical mapping address overflowed"
      let digits := String.ofList (Nat.toDigits 16 virtualPageStart.asU64)
      require
        (mapper.translate memory.activeLevel4Frame virtualPageStart.asU64 memory.tables).isNone
        s!"kernel virtual page is already mapped: 0x{digits}"
      let memory ← memory.mapPage mapper memory.activeLevel4Frame virtualPageStart.asU64 frame
        { present := true, writable := true, noExecute := true }
        "failed to map kernel writable NX page"
      mapKernelPages virtualRange physicalRange rest memory

/-- `map_kernel_writable_no_execute_range`; its result is the start of the range. -/
def mapKernelWritableNoExecuteRange (memory : Memory) (virtualRange : KernelVirtualRange)
  (physicalRange : PhysicalFrameRange) : Panicking Memory := do
  require (virtualRange.pageCount.asU64 == physicalRange.frameCount.asU64)
    "kernel virtual mapping page count must match physical frame count"
  mapKernelPages mapper virtualRange physicalRange (List.range virtualRange.pageCount.asU64)
    memory

/-- The loop of `unmap_kernel_range_and_free_frames` over page indices. -/
def unmapKernelPages (virtualRange : KernelVirtualRange) (owner : FrameRangeOwner) :
  List ℕ → Memory → Panicking Memory
  | [], memory => .ok memory
  | index :: rest, memory => do
      let offset ← expect (checkedMul index pageSize) "kernel unmapping offset overflowed"
      let virtualPageStart ← expect (virtualRange.start.checkedAdd offset)
        "kernel virtual unmapping address overflowed"
      let (frame, tables) :=
        mapper.unmap memory.activeLevel4Frame virtualPageStart.asU64 memory.tables
      let frame ← expect frame "failed to unmap kernel dynamic page"
      let physicalRange ← oneFrameRange frame "single unmapped frame range must be valid"
      let (freed, memory) ← { memory with tables }.freeFramesFor physicalRange owner
      require freed "unmapped kernel frame owner did not match"
      unmapKernelPages virtualRange owner rest memory

def unmapKernelRangeAndFreeFrames (memory : Memory) (virtualRange : KernelVirtualRange)
  (owner : FrameRangeOwner) : Panicking Memory :=
  unmapKernelPages mapper virtualRange owner (List.range virtualRange.pageCount.asU64) memory

/-- What the range checks of `paging.rs` share: the flags of every page pass the test. -/
def allKernelPages (memory : Memory) (range : KernelVirtualRange)
  (test : Option PageTableFlags → Bool) : Bool :=
  (List.range range.pageCount.asU64).all fun index =>
    match (checkedMul index pageSize).bind range.start.checkedAdd with
    | none => false
    | some pageStart => test (mappingFlagsForAddress mapper memory pageStart.asU64)

def isKernelRangeMappedWritableNoExecute (memory : Memory) (range : KernelVirtualRange) : Bool :=
  allKernelPages mapper memory range fun flags =>
    match flags with
    | none => false
    | some flags =>
      flags.contains { present := true, writable := true, noExecute := true } &&
        !flags.contains { userAccessible := true }

def isKernelRangeUnmapped (memory : Memory) (range : KernelVirtualRange) : Bool :=
  allKernelPages mapper memory range Option.isNone

end

/-! ### Kernel stacks -/

def defaultKernelStackWritablePages : ℕ := 4

def kernelStackGuardPages : ℕ := 1

def defaultKernelStackSize : ℕ := 16 * 1024

structure KernelStackVirtualReservation where
  range : KernelVirtualRange
  writablePageCount : PageCount
  deriving DecidableEq

/-- `page_count` of `stack.rs`. -/
def stackPageCount (count : ℕ) : Panicking PageCount :=
  expect (PageCount.new count) "kernel stack page count must be valid"

namespace KernelStackVirtualReservation

def new (allocator : KernelVirtualRangeAllocator) (writablePageCount : PageCount) :
  Option KernelStackVirtualReservation × KernelVirtualRangeAllocator :=
  match (checkedAdd writablePageCount.asU64 kernelStackGuardPages).bind PageCount.new with
  | none => (none, allocator)
  | some reservedPageCount =>
    let (range, allocator) := allocator.allocatePages reservedPageCount
    (range.map fun range => ⟨range, writablePageCount⟩, allocator)

def guardRange (reservation : KernelStackVirtualReservation) : Panicking KernelVirtualRange := do
  let count ← stackPageCount kernelStackGuardPages
  expect (KernelVirtualRange.new reservation.range.start count)
    "kernel stack guard range must be valid"

def writableStart (reservation : KernelStackVirtualReservation) : Panicking KernelPageStart :=
  expect (reservation.range.start.checkedAdd pageSize)
    "kernel stack writable range must follow the guard page"

def writableRange (reservation : KernelStackVirtualReservation) :
  Panicking KernelVirtualRange := do
  let start ← reservation.writableStart
  expect (KernelVirtualRange.new start reservation.writablePageCount)
    "kernel stack writable range must be valid"

end KernelStackVirtualReservation

structure KernelStack where
  virtualReservation : KernelStackVirtualReservation
  physicalRange : PhysicalFrameRange
  deriving DecidableEq

namespace KernelStack

def virtualTop (stack : KernelStack) : ℕ := stack.virtualReservation.range.endExclusive

variable (mapper : PageMapper)

def newDefault (memory : Memory) (rangeAllocator : KernelVirtualRangeAllocator) :
  Panicking (KernelStack × Memory × KernelVirtualRangeAllocator) := do
  let writablePageCount ← stackPageCount defaultKernelStackWritablePages
  let (reservation, rangeAllocator) :=
    KernelStackVirtualReservation.new rangeAllocator writablePageCount
  let reservation ← expect reservation
    "kernel stack virtual reservation allocator must have capacity"
  let writableFrameCount ← expect (FrameCount.new defaultKernelStackWritablePages)
    "kernel stack frame count must be valid"
  let (range, allocator) ← memory.allocator.allocateFramesFor writableFrameCount .kernelStack
  let memory := { memory with allocator }
  let physicalRange ← expect range "OOM: failed to allocate kernel stack frames"
  let memory := memory.zeroBytes physicalRange.start.asAddress defaultKernelStackSize
  let writableRange ← reservation.writableRange
  let memory ← mapKernelWritableNoExecuteRange mapper memory writableRange physicalRange
  let guardRange ← reservation.guardRange
  require (isKernelRangeUnmapped mapper memory guardRange)
    "kernel stack guard page must remain unmapped"
  require (isKernelRangeMappedWritableNoExecute mapper memory writableRange)
    "kernel stack writable pages must be kernel-only writable NX"
  return (⟨reservation, physicalRange⟩, memory, rangeAllocator)

def destroy (stack : KernelStack) (memory : Memory)
  (rangeAllocator : KernelVirtualRangeAllocator) :
  Panicking (Memory × KernelVirtualRangeAllocator) := do
  let writableRange ← stack.virtualReservation.writableRange
  let reservedRange := stack.virtualReservation.range
  let memory ← unmapKernelRangeAndFreeFrames mapper memory writableRange .kernelStack
  require (isKernelRangeUnmapped mapper memory reservedRange)
    "destroyed kernel stack virtual reservation must be fully unmapped"
  let (freed, rangeAllocator) := rangeAllocator.freePages reservedRange
  require freed "destroyed kernel stack virtual reservation must be returned once"
  return (memory, rangeAllocator)

end KernelStack
end ManaOS
