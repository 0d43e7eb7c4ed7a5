/-
User address spaces (`memory/address_space.rs`).

An address space is its level-4 frame; the mapper of the `x86_64` crate is the parameter `mapper`.
The three `reclaim_level` loops and `reclaim_user_child_table` run one body, `reclaimChildTable`.

* `createUserAddressSpace`, `destroyUserAddressSpace`: the life of a space;
* `UserAddressSpace.mapUserPage`, `UserAddressSpace.unmapUserPageFor`: its pages.
-/
import ManaOS.Memory.PageTable

namespace ManaOS
open Checked

def processUserPml4Start : ℕ := 128

def processUserPml4EndExclusive : ℕ := 256

/-- `UserAddressSpaceReclaim`: page counts of one destroyed address space. -/
structure UserAddressSpaceReclaim where
  userPages : ℕ
  pageTablePages : ℕ
  deriving DecidableEq

/-- `UserAddressSpace`: the level-4 frame. -/
structure UserAddressSpace where
  level4Frame : PhysicalFrameStart
  deriving DecidableEq

abbrev UserAddressSpace.root (space : UserAddressSpace) : ℕ := space.level4Frame.asAddress

/-- `single_frame_count` and `one_frame_range`. -/
def oneFrameRange (frame : PhysicalFrameStart) (message : String) :
  Panicking PhysicalFrameRange := do
  let count ← expect (FrameCount.new 1) "single-frame count must be valid"
  expect (PhysicalFrameRange.new frame count) message

/-! ### Mapping and validation -/

section Mapper
variable (mapper : PageMapper)

/-- The body of the mapping loops: `map_to` below a root, panicking with `message` on its error. -/
def Memory.mapPage (memory : Memory) (root : PhysicalFrameStart) (page : ℕ)
  (frame : PhysicalFrameStart) (flags : PageTableFlags) (message : String) :
  Panicking Memory := do
  let (error, tables, allocator) ←
    mapper.mapTo allocateTableFrame root page frame flags memory.tables memory.allocator
  require (error == none) message
  return { memory with tables, allocator }

namespace UserAddressSpace
variable (space : UserAddressSpace)

def mapUserPage (memory : Memory) (virtualPageStart : UserPageStart)
  (physicalStart : PhysicalFrameStart) (flags : PageTableFlags) : Panicking Memory :=
  memory.mapPage mapper space.level4Frame virtualPageStart.asU64 physicalStart flags
    "failed to map user address-space page"

def unmapUserPageFor (memory : Memory) (virtualPageStart : UserPageStart)
  (owner : FrameRangeOwner) : Panicking (Bool × Memory) :=
  match mapper.unmap space.level4Frame virtualPageStart.asU64 memory.tables with
  | (none, _) => .ok (false, memory)
  | (some frame, tables) => do
      let physicalRange ← oneFrameRange frame "single-frame range must be valid"
      let (freed, memory) ← { memory with tables }.freeFramesFor physicalRange owner
      require freed "unmapped user page frame owner did not match expected owner"
      return (true, memory)

def mappingFlagsForAddress (memory : Memory) (address : ℕ) : Option PageTableFlags :=
  (mapper.translate space.level4Frame address memory.tables).map Translation.flags

end UserAddressSpace

/-- `is_page_mapped_with_flags` below a level-4 frame. -/
def isPageMappedWithFlags (memory : Memory) (root : PhysicalFrameStart) (page : UserPageStart)
  (requiredFlags : PageTableFlags) : Bool :=
  match mapper.translate root page.asU64 memory.tables with
  | some translation =>
    translation.flags.contains
      (requiredFlags.union { present := true, userAccessible := true })
  | none => false

/-- The loop of `validate_user_mapping`, with turns enough for the whole user half. -/
def validatePagesFrom (check : UserPageStart → Bool) (lastPageStart : UserPageStart) :
  ℕ → UserPageStart → Bool
  | 0, _ => false
  | turns + 1, pageStart =>
    if !check pageStart then false
    else if pageStart = lastPageStart then true
    else
      match pageStart.checkedAdd pageSize with
      | none => false
      | some nextPageStart => validatePagesFrom check lastPageStart turns nextPageStart

/-- `validate_user_mapping` below a level-4 frame, which `paging.rs` reads from CR3. -/
def validateUserMapping (memory : Memory) (root : PhysicalFrameStart) (range : UserVirtualRange)
  (requiredFlags : PageTableFlags) : Bool :=
  match range.firstPageStart, range.lastPageStart with
  | some firstPageStart, some lastPageStart =>
    validatePagesFrom (isPageMappedWithFlags mapper memory root · requiredFlags) lastPageStart
      (userSpaceEnd / pageSize) firstPageStart
  | _, _ => false

/-- `is_user_range_mapped_readable` for the active address space. -/
def isUserRangeMappedReadable (memory : Memory) (range : UserReadableRange) : Bool :=
  validateUserMapping mapper memory memory.activeLevel4Frame range.asRange { noExecute := true }

/-- `is_user_range_mapped_writable` for the active address space. -/
def isUserRangeMappedWritable (memory : Memory) (range : UserWritableRange) : Bool :=
  validateUserMapping mapper memory memory.activeLevel4Frame range.asRange
    { writable := true, noExecute := true }

end Mapper

def createUserAddressSpace (memory : Memory) : Panicking (UserAddressSpace × Memory) := do
  let (frame, memory) ← memory.allocateFrameFor .pageTable
  let level4Frame ← expect frame "OOM: failed to allocate user address-space PML4 frame"
  let memory := memory.setTable level4Frame.asAddress zeroTable
  let activeTable := memory.tables memory.activeLevel4Frame.asAddress
  let userTable : PageTable := fun index =>
    if processUserPml4Start ≤ index.val ∧ index.val < processUserPml4EndExclusive then .unused
    else activeTable index
  return (⟨level4Frame⟩, memory.setTable level4Frame.asAddress userTable)

def switchToUserAddressSpace (memory : Memory) (space : UserAddressSpace) : Memory :=
  { memory with activeLevel4Frame := space.level4Frame }

def getKernelLevel4Frame (memory : Memory) : Option PhysicalFrameStart :=
  if memory.kernelLevel4Frame = 0 then none else PhysicalFrameStart.new memory.kernelLevel4Frame

def switchToKernelAddressSpace (memory : Memory) : Panicking Memory := do
  let level4Frame ← expect (getKernelLevel4Frame memory) "kernel address space must be initialized"
  return { memory with activeLevel4Frame := level4Frame }

/-! ### Destruction -/

def entryFrameStart (entry : PageTableEntry) : Panicking PhysicalFrameStart :=
  expect entry.frame "present user address-space entry must reference a 4KiB frame"

/-- The owners `free_user_data_frame` tries, in its order. -/
def userDataOwners : List FrameRangeOwner := [.userElf, .userStack, .userHeap, .userMapping]

/-- The first owner of the list under which the range can be freed. -/
def freeFramesForAny (memory : Memory) (range : PhysicalFrameRange) :
  List FrameRangeOwner → Panicking (Bool × Memory)
  | [] => .ok (false, memory)
  | owner :: owners => do
      let (freed, memory) ← memory.freeFramesFor range owner
      if freed then return (true, memory) else freeFramesForAny memory range owners

/-- The memory and the page counts that the reclaim loops carry. -/
abbrev ReclaimState := Memory × UserAddressSpaceReclaim

def freeUserDataFrame (frame : PhysicalFrameStart) (state : ReclaimState) :
  Panicking ReclaimState := do
  let range ← oneFrameRange frame "single-frame range must be non-empty"
  let (freed, memory) ← freeFramesForAny state.1 range userDataOwners
  let digits := String.ofList (Nat.toDigits 16 frame.asAddress)
  require freed
    s!"user address-space data frame 0x{digits} was not tracked as user-owned memory"
  return (memory, { state.2 with userPages := saturatingAdd state.2.userPages 1 })

def freePageTableFrame (frame : PhysicalFrameStart) (state : ReclaimState) :
  Panicking ReclaimState := do
  let range ← oneFrameRange frame "single-frame range must be non-empty"
  let (freed, memory) ← state.1.freeFramesFor range .pageTable
  require freed "user address-space page-table frame was not tracked as a page table"
  return (memory, { state.2 with pageTablePages := saturatingAdd state.2.pageTablePages 1 })

/-- The body of `reclaim_level_1_table`'s loop: unmap one leaf and free its data frame. -/
def reclaimLeaf (table : ℕ) (state : ReclaimState) (index : Fin 512) : Panicking ReclaimState :=
  let entry := state.1.tables table index
  if entry.isUnused then return state
  else do
    require (!entry.flags.hugePage) "user address-space PT entry must not be a huge page"
    let dataFrame ← entryFrameStart entry
    freeUserDataFrame dataFrame (state.1.setEntry table index .unused, state.2)

/-- The body of the reclaim loops: reclaim the table an entry points to, then the entry. -/
def reclaimChildTable (hugePageMessage : String)
  (reclaimTable : ℕ → ReclaimState → Panicking ReclaimState) (table : ℕ)
  (state : ReclaimState) (index : Fin 512) : Panicking ReclaimState :=
  let entry := state.1.tables table index
  if entry.isUnused then return state
  else do
    require (!entry.flags.hugePage) hugePageMessage
    let childFrame ← entryFrameStart entry
    let (memory, reclaim) ← reclaimTable childFrame.asAddress state
    let memory := memory.setTable childFrame.asAddress zeroTable
    let memory := memory.setEntry table index .unused
    freePageTableFrame childFrame (memory, reclaim)

def reclaimLevel1Table (table : ℕ) (state : ReclaimState) : Panicking ReclaimState :=
  (List.finRange 512).foldlM (reclaimLeaf table) state

def reclaimLevel2Table (table : ℕ) (state : ReclaimState) : Panicking ReclaimState :=
  (List.finRange 512).foldlM
    (reclaimChildTable "user address-space PD entry must not be a huge page" reclaimLevel1Table
      table)
    state

def reclaimLevel3Table (table : ℕ) (state : ReclaimState) : Panicking ReclaimState :=
  (List.finRange 512).foldlM
    (reclaimChildTable "user address-space PDP entry must not be a huge page" reclaimLevel2Table
      table)
    state

def reclaimUserChildTable (table : ℕ) (state : ReclaimState) (index : Fin 512) :
  Panicking ReclaimState :=
  reclaimChildTable "user address-space PML4 entry must not be a huge page" reclaimLevel3Table
    table state index

/-- The level-4 indices of the process window. -/
def processUserWindow : List (Fin 512) := (List.finRange 512).filter
  fun index => processUserPml4Start ≤ index.val ∧ index.val < processUserPml4EndExclusive

def destroyUserAddressSpace (memory : Memory) (space : UserAddressSpace) :
  Panicking (UserAddressSpaceReclaim × Memory) := do
  let memory ← switchToKernelAddressSpace memory
  let root := space.level4Frame.asAddress
  let (memory, reclaim) ← processUserWindow.foldlM (reclaimUserChildTable root) (memory, ⟨0, 0⟩)
  let memory := memory.setTable root zeroTable
  let (memory, reclaim) ← freePageTableFrame space.level4Frame (memory, reclaim)
  return (reclaim, memory)

end ManaOS
