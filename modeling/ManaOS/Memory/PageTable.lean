/-
Page tables and the machine state the memory modules work on.

The mapper of the `x86_64` crate is not part of the repository: it is the parameter `PageMapper`.

* `PageMapper`, `Memory`: the mapper and the state.
-/
import ManaOS.Memory.FrameAllocator

namespace ManaOS
open Checked

/-- The bits of `PageTableFlags` that the kernel sets or tests. -/
structure PageTableFlags where
  present : Bool := false
  writable : Bool := false
  userAccessible : Bool := false
  hugePage : Bool := false
  noExecute : Bool := false
  deriving DecidableEq

namespace PageTableFlags

def contains (flags required : PageTableFlags) : Bool :=
  (!required.present || flags.present) && (!required.writable || flags.writable) &&
    (!required.userAccessible || flags.userAccessible) &&
    (!required.hugePage || flags.hugePage) && (!required.noExecute || flags.noExecute)

/-- The union `a | b` of two flag sets. -/
def union (a b : PageTableFlags) : PageTableFlags where
  present := a.present || b.present
  writable := a.writable || b.writable
  userAccessible := a.userAccessible || b.userAccessible
  hugePage := a.hugePage || b.hugePage
  noExecute := a.noExecute || b.noExecute

end PageTableFlags

/-- `PageTableEntry`: the frame field, whose low bits are not stored, and the flags. -/
structure PageTableEntry where
  address : PhysicalFrameStart
  flags : PageTableFlags
  deriving DecidableEq

namespace PageTableEntry

/-- The zero entry written by `set_unused`. -/
def unused : PageTableEntry := ⟨⟨0, rfl⟩, {}⟩

def isUnused (entry : PageTableEntry) : Bool := entry == unused

/-- `PageTableEntry::frame`: only a present entry that is not huge names a 4 KiB frame. -/
def frame (entry : PageTableEntry) : Option PhysicalFrameStart :=
  if entry.flags.present && !entry.flags.hugePage then some entry.address else none

end PageTableEntry

abbrev PageTable := Fin 512 → PageTableEntry

/-- The content of every frame read as a page table. -/
abbrev PageTables := ℕ → PageTable

/-- The table after `PageTable::zero`. -/
def zeroTable : PageTable := fun _ => .unused

/-- The index of a virtual address in the table of a level, level 1 holding the leaves. -/
def tableIndex (level address : ℕ) : Fin 512 :=
  ⟨address / 2 ^ (12 + 9 * (level - 1)) % 512, Nat.mod_lt _ (by decide)⟩

/-- The four table indices of a virtual address, from the level-4 table down. -/
def tablePath (address : ℕ) : List (Fin 512) :=
  [tableIndex 4 address, tableIndex 3 address, tableIndex 2 address, tableIndex 1 address]

inductive MapToError
  | frameAllocationFailed
  | parentEntryHugePage
  | pageAlreadyMapped
  deriving DecidableEq

/-- What `translate` reports for a mapped address. -/
structure Translation where
  physicalAddress : ℕ
  flags : PageTableFlags
  deriving DecidableEq

/-- A frame allocator callback as the mapper takes it. -/
abbrev TableFrameSource :=
  PhysicalFrameAllocator → Panicking (Option PhysicalFrameStart × PhysicalFrameAllocator)

/-- The mapper of the `x86_64` crate below one level-4 frame: `mapTo` returns its error with the
tables and allocator it leaves, `unmap` the frame of the removed leaf. -/
structure PageMapper where
  mapTo : TableFrameSource → (root : PhysicalFrameStart) → (page : ℕ) →
    (frame : PhysicalFrameStart) → PageTableFlags → PageTables → PhysicalFrameAllocator →
    Panicking (Option MapToError × PageTables × PhysicalFrameAllocator)
  unmap : (root : PhysicalFrameStart) → (page : ℕ) → PageTables →
    Option PhysicalFrameStart × PageTables
  translate : (root : PhysicalFrameStart) → (address : ℕ) → PageTables → Option Translation

/-- `AddressSpaceFrameAllocator` and `FrameAllocWrapper`: frames under the page-table owner. -/
def allocateTableFrame : TableFrameSource := fun allocator =>
  allocator.allocateFrameFor .pageTable

/-- The state of the memory modules: the frame allocator, physical memory as tables and as bytes,
CR3, and two statics. -/
structure Memory where
  allocator : PhysicalFrameAllocator
  tables : PageTables
  bytes : ℕ → UInt8
  activeLevel4Frame : PhysicalFrameStart
  kernelLevel4Frame : ℕ
  nextUserStackSlot : ℕ

namespace Memory

/-- `core::ptr::write_bytes` with zero. -/
def zeroBytes (memory : Memory) (start length : ℕ) : Memory :=
  { memory with
    bytes := fun address =>
      if start ≤ address ∧ address < start + length then 0 else memory.bytes address }

/-- A copy of `data` to the physical address `start`. -/
def writeBytes (memory : Memory) (start : ℕ) (data : List UInt8) : Memory :=
  { memory with
    bytes := fun address =>
      if start ≤ address then (data[address - start]?).getD (memory.bytes address)
      else memory.bytes address }

def setTable (memory : Memory) (frame : ℕ) (table : PageTable) : Memory :=
  { memory with tables := Function.update memory.tables frame table }

/-- Overwrite one entry of the table in a frame. -/
def setEntry (memory : Memory) (frame : ℕ) (index : Fin 512) (entry : PageTableEntry) : Memory :=
  memory.setTable frame (Function.update (memory.tables frame) index entry)

/-- `allocate_frame_for` on the allocator of the machine. -/
def allocateFrameFor (memory : Memory) (owner : FrameRangeOwner) :
  Panicking (Option PhysicalFrameStart × Memory) := do
  let (frame, allocator) ← memory.allocator.allocateFrameFor owner
  return (frame, { memory with allocator })

/-- `free_frames_for` on the allocator of the machine. -/
def freeFramesFor (memory : Memory) (range : PhysicalFrameRange) (owner : FrameRangeOwner) :
  Panicking (Bool × Memory) := do
  let (freed, allocator) ← memory.allocator.freeFramesFor range owner
  return (freed, { memory with allocator })

end Memory
end ManaOS
