/-
User stacks and single user pages (`memory/user_stack.rs`).

* `prepareInitialStackBytes`: strings and pointer arrays, from the top of the stack down;
* `allocateAndMapUserPage`: one zeroed page for the ELF loader.
-/
import ManaOS.Memory.UserHeap
import ManaOS.Memory.UserPointer

namespace ManaOS
open Checked

def pointerSize : ℕ := 8

def userStackAlignment : ℕ := 16

/-- `MAX_USER_ENTRY_ARGUMENTS` and `MAX_USER_ENTRY_ENVIRONMENT`. -/
def maxUserEntryStrings : ℕ := 8

structure AllocatedUserStack where
  base : UserVirtualAddress
  top : UserVirtualAddress
  physicalRange : PhysicalFrameRange
  pageCount : PageCount
  deriving DecidableEq

structure PreparedUserStack where
  stackPointer : UserVirtualAddress
  argumentCount : ℕ
  argumentValuesPointer : UserVirtualAddress
  environmentValuesPointer : UserVirtualAddress
  deriving DecidableEq

section
variable (mapper : PageMapper) (space : UserAddressSpace)

/-- The mapping loop of `allocate_user_stack` over page indices. -/
def mapStackPages (stackBasePage : UserPageStart) (physicalRange : PhysicalFrameRange) :
  List ℕ → Memory → Panicking Memory
  | [], memory => .ok memory
  | index :: rest, memory => do
      let offset ← expect (checkedMul index pageSize) "user stack mapping offset overflowed"
      let virtualPageStart ← expect (stackBasePage.checkedAdd offset)
        "user stack virtual address overflowed"
      let physicalAddress ← expect (checkedAdd physicalRange.start.asAddress offset)
        "user stack physical address overflowed"
      let physicalStart ← expect (PhysicalFrameStart.new physicalAddress)
        "user stack physical page must remain aligned"
      let memory ← space.mapUserPage mapper memory virtualPageStart physicalStart userDataFlags
      mapStackPages stackBasePage physicalRange rest memory

variable (memory : Memory)

def allocateUserStack (pages : PageCount) :
  Panicking (AllocatedUserStack × Memory) := do
  let frameCount ← expect (FrameCount.new pages.asU64) "user stack frame count must be valid"
  let (range, allocator) ← memory.allocator.allocateFramesFor frameCount .userStack
  let memory := { memory with allocator }
  let requestedPages := pages.asU64
  let physicalRange ← expect range
    s!"OOM: failed to allocate {requestedPages} pages for user stack"
  let stackSize := pages.byteLen
  require (stackSize < userStackSlotBytes - pageSize)
    "user stack must fit inside one virtual stack slot"
  let stackSlot := memory.nextUserStackSlot
  let memory := { memory with nextUserStackSlot := (stackSlot + 1) % wordSize }
  let stackSlotOffset ← expect (checkedMul stackSlot userStackSlotBytes)
    "user stack slot offset overflowed"
  let stackBase ← expect (checkedAdd userStackRegionBase stackSlotOffset)
    "user stack base address overflowed"
  let stackBase ← expect (UserVirtualAddress.new stackBase)
    "user stack base must be a valid user address"
  let stackBasePage ← expect (UserPageStart.new stackBase) "user stack base must be page-aligned"
  let stackTop ← expect (stackBase.checkedAdd stackSize) "user stack top address overflowed"
  let memory ← mapStackPages mapper space stackBasePage physicalRange (List.range pages.asU64)
    memory
  return (⟨stackBase, stackTop, physicalRange, pages⟩, memory)

def allocateAndMapUserPage (virtualPageStart : UserPageStart)
  (flags : PageTableFlags) (owner : FrameRangeOwner) :
  Panicking (PhysicalFrameStart × Memory) := do
  require (virtualPageStart.asU64 < userStackRegionBase)
    "user page virtual address must stay below the user stack"
  let (frame, memory) ← memory.allocateFrameFor owner
  let physicalAddress ← expect frame "OOM: failed to allocate user page"
  let memory := memory.zeroBytes physicalAddress.asAddress pageSize
  let memory ← space.mapUserPage mapper memory virtualPageStart physicalAddress flags
  return (physicalAddress, memory)

def writableUserRange (start : UserVirtualAddress) (byteLen : ℕ) :
  Panicking UserWritableRange := do
  let range ← expect (UserVirtualRange.new start byteLen) "user writable range must be valid"
  return ⟨range⟩

def readableUserRange (start : UserVirtualAddress) (byteLen : ℕ) :
  Panicking UserReadableRange := do
  let range ← expect (UserVirtualRange.new start byteLen) "user readable range must be valid"
  return ⟨range⟩

def UserAddressSpace.isUserRangeMappedWritable (range : UserWritableRange) :
  Bool := validateUserMapping mapper memory space.level4Frame range.asRange
    { writable := true, noExecute := true }

def UserAddressSpace.isUserRangeMappedReadable (range : UserReadableRange) :
  Bool :=
  validateUserMapping mapper memory space.level4Frame range.asRange { noExecute := true }

def verifyUserStackMapping (stack : AllocatedUserStack) : Panicking Bool := do
  let guardPage ← expect (checkedSub stack.base.asU64 pageSize)
    "user stack guard address underflowed"
  let guardPage ← expect (UserVirtualAddress.new guardPage)
    "user stack guard must be a valid user address"
  let stackRange ← writableUserRange stack.base stack.pageCount.byteLen
  if space.isUserRangeMappedWritable mapper memory stackRange then do
    let guardRange ← readableUserRange guardPage pageSize
    return !space.isUserRangeMappedReadable mapper memory guardRange
  else return false

end

/-! ### The initial stack -/

structure UserStackCursor where
  stack : AllocatedUserStack
  pointer : UserVirtualAddress

namespace UserStackCursor

def new (stack : AllocatedUserStack) (pointer : UserVirtualAddress) :
  Panicking UserStackCursor := do
  require (stack.base.asU64 < pointer.asU64) "user stack cursor must start above the stack base"
  return ⟨stack, pointer⟩

def pushBytes (cursor : UserStackCursor) (byteCount : ℕ) : Panicking UserStackCursor := do
  let nextPointer ← expect (cursor.pointer.checkedSub byteCount) "user stack cursor underflowed"
  require (cursor.stack.base.asU64 ≤ nextPointer.asU64)
    "user entry data must fit in the mapped user stack"
  return { cursor with pointer := nextPointer }

def alignDown (cursor : UserStackCursor) (alignment : ℕ) : Panicking UserStackCursor := do
  let alignedPointer ←
    expect (UserVirtualAddress.new (Checked.alignDown cursor.pointer.asU64 alignment))
      "aligned user stack pointer must remain valid"
  require (cursor.stack.base.asU64 ≤ alignedPointer.asU64)
    "aligned user stack pointer must stay inside the mapped user stack"
  return { cursor with pointer := alignedPointer }

/-- `UserStackCursor::stack_pointer`: the physical address behind a stack address. -/
def stackPointer (cursor : UserStackCursor) (address : UserVirtualAddress) : Panicking ℕ := do
  let offset ← expect (checkedSub address.asU64 cursor.stack.base.asU64)
    "user stack write address must be inside stack"
  require (offset < cursor.stack.pageCount.byteLen)
    "user stack write address must stay inside stack"
  expect (checkedAdd cursor.stack.physicalRange.start.asAddress offset)
    "user stack physical write address overflowed"

def writeU64 (cursor : UserStackCursor) (memory : Memory) (address : UserVirtualAddress)
  (value : ℕ) : Panicking Memory := do
  let pointer ← cursor.stackPointer address
  return memory.writeBytes pointer (toBytes 8 value)

end UserStackCursor

def pushCStringBytes (cursor : UserStackCursor) (memory : Memory) (value : List UInt8) :
  Panicking (UserStackCursor × Memory) := do
  let cursor ← cursor.pushBytes (saturatingAdd value.length 1)
  let destination ← cursor.stackPointer cursor.pointer
  return (cursor, memory.writeBytes destination (value ++ [0]))

/-- The strings of one vector, pushed from the last on, with their pointers in order. -/
def pushCStrings (cursor : UserStackCursor) (memory : Memory) :
  List (List UInt8) → Panicking (UserStackCursor × Memory × List UserVirtualAddress)
  | [] => .ok (cursor, memory, [])
  | value :: rest => do
      let (cursor, memory, pointers) ← pushCStrings cursor memory rest
      let (cursor, memory) ← pushCStringBytes cursor memory value
      return (cursor, memory, cursor.pointer :: pointers)

/-- The slots of `push_pointer_array` from one index on, then the null terminator. -/
def writePointerSlots (cursor : UserStackCursor) (arrayStart : UserVirtualAddress) :
  ℕ → List UserVirtualAddress → Memory → Panicking Memory
  | index, [], memory => do
      let offset ← expect (checkedMul index pointerSize)
        "user entry pointer terminator offset overflowed"
      let terminatorAddress ← expect (arrayStart.checkedAdd offset)
        "user entry pointer terminator address overflowed"
      cursor.writeU64 memory terminatorAddress 0
  | index, pointer :: rest, memory => do
      let offset ← expect (checkedMul index pointerSize) "user entry pointer offset overflowed"
      let slotAddress ← expect (arrayStart.checkedAdd offset)
        "user entry pointer slot address overflowed"
      let memory ← cursor.writeU64 memory slotAddress pointer.asU64
      writePointerSlots cursor arrayStart (index + 1) rest memory

def pushPointerArray (cursor : UserStackCursor) (memory : Memory)
  (pointers : List UserVirtualAddress) : Panicking (UserStackCursor × Memory) := do
  let byteCount ← expect (checkedMul (saturatingAdd pointers.length 1) pointerSize)
    "user entry pointer array size overflowed"
  let cursor ← cursor.pushBytes byteCount
  let memory ← writePointerSlots cursor cursor.pointer 0 pointers memory
  return (cursor, memory)

def prepareInitialStackBytes (mapper : PageMapper) (space : UserAddressSpace) (memory : Memory)
  (stack : AllocatedUserStack) (arguments environment : List (List UInt8)) :
  Panicking (PreparedUserStack × Memory) := do
  require (stack.base.asU64 < stack.top.asU64)
    "user stack top must be above the allocated stack base"
  let stackRange ← writableUserRange stack.base stack.pageCount.byteLen
  require (space.isUserRangeMappedWritable mapper memory stackRange)
    "user entry arguments require a mapped writable user stack"
  require (arguments.length ≤ maxUserEntryStrings) "too many user entry arguments"
  require (environment.length ≤ maxUserEntryStrings) "too many user entry environment entries"
  require ((arguments ++ environment).all fun value => !value.contains 0)
    "user entry strings must not contain interior NUL bytes"
  let cursor ← UserStackCursor.new stack stack.top
  let (cursor, memory, argumentPointers) ← pushCStrings cursor memory arguments
  let (cursor, memory, environmentPointers) ← pushCStrings cursor memory environment
  let cursor ← cursor.alignDown pointerSize
  let (cursor, memory) ← pushPointerArray cursor memory environmentPointers
  let environmentValuesPointer := cursor.pointer
  let (cursor, memory) ← pushPointerArray cursor memory argumentPointers
  let argumentValuesPointer := cursor.pointer
  let cursor ← cursor.alignDown userStackAlignment
  return (⟨cursor.pointer, arguments.length, argumentValuesPointer, environmentValuesPointer⟩,
    memory)

end ManaOS
