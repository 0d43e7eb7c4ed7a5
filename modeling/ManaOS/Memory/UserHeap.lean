/-
The user heap (`memory/user_heap.rs`).

Growth maps zeroed pages one by one, shrinking unmaps them from the top.

* `UserHeap.processBreak`: the `brk` call.
-/
import ManaOS.Memory.AddressSpace

namespace ManaOS
open Checked

/-- `UserHeap`: base, break and the first page after the mapped extent. -/
structure UserHeap where
  base : UserVirtualAddress
  currentBreak : UserVirtualAddress
  mappedEnd : UserPageStart
  deriving DecidableEq

inductive UserHeapBreakRequest
  | current
  | set (requestedBreak : UserVirtualAddress)
  deriving DecidableEq

def UserHeapBreakRequest.fromSyscallArgument (requestedBreak : ℕ) : Option UserHeapBreakRequest :=
  if requestedBreak = 0 then some .current else (UserVirtualAddress.new requestedBreak).map .set

def userDataFlags : PageTableFlags :=
  { present := true, writable := true, userAccessible := true, noExecute := true }

namespace UserHeap

def new (initialBreak : UserVirtualAddress) : Panicking UserHeap := do
  let mappedEnd ← expect (UserPageStart.new initialBreak)
    "user heap initial break must be page-aligned"
  require (initialBreak.asU64 < userHeapEnd)
    "user heap initial break must stay below the heap ceiling"
  return ⟨initialBreak, initialBreak, mappedEnd⟩

section
variable (mapper : PageMapper) (space : UserAddressSpace)

/-- `UserHeap::map_new_pages`; a failed allocation stops the growth with the pages mapped so far. -/
def mapNewPages : ℕ → UserHeap → Memory → Panicking (Bool × UserHeap × Memory)
  | 0, heap, memory => .ok (true, heap, memory)
  | pages + 1, heap, memory => do
      let (frame, memory) ← memory.allocateFrameFor .userHeap
      match frame with
      | none => return (false, heap, memory)
      | some physicalAddress =>
        let memory := memory.zeroBytes physicalAddress.asAddress pageSize
        let memory ←
          space.mapUserPage mapper memory heap.mappedEnd physicalAddress userDataFlags
        let pageStart ← expect (heap.mappedEnd.checkedAdd pageSize)
          "user heap mapping address overflowed"
        mapNewPages pages { heap with mappedEnd := pageStart } memory

/-- `UserHeap::unmap_old_pages` for a number of pages below the mapped extent. -/
def unmapOldPages : ℕ → UserHeap → Memory → Panicking (UserHeap × Memory)
  | 0, heap, memory => .ok (heap, memory)
  | pages + 1, heap, memory => do
      let pageStart ← expect (heap.mappedEnd.checkedSub pageSize)
        "user heap unmapping address underflowed"
      let (unmapped, memory) ← space.unmapUserPageFor mapper memory pageStart .userHeap
      require unmapped "shrinking user heap must unmap a mapped heap page"
      unmapOldPages pages { heap with mappedEnd := pageStart } memory

/-- `UserHeap::process_break`, with the page counts of its two loops. -/
def processBreak (heap : UserHeap) (memory : Memory) (request : UserHeapBreakRequest) :
  Panicking (UserVirtualAddress × UserHeap × Memory) :=
  match request with
  | .current => .ok (heap.currentBreak, heap, memory)
  | .set requestedBreak =>
    if requestedBreak.asU64 < heap.base.asU64 ∨ userHeapEnd ≤ requestedBreak.asU64 then
      .ok (heap.currentBreak, heap, memory)
    else
      match requestedBreak.alignUpToPage with
      | none => .ok (heap.currentBreak, heap, memory)
      | some mappedEnd => do
          let (mapped, heap, memory) ←
            mapNewPages mapper space ((mappedEnd.asU64 - heap.mappedEnd.asU64) / pageSize) heap
              memory
          if mapped then do
            let (heap, memory) ←
              unmapOldPages mapper space ((heap.mappedEnd.asU64 - mappedEnd.asU64) / pageSize)
                heap memory
            let heap := { heap with currentBreak := requestedBreak }
            return (heap.currentBreak, heap, memory)
          else return (heap.currentBreak, heap, memory)

end
end UserHeap
end ManaOS
