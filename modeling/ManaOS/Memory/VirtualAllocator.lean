/-
Reservation of kernel virtual ranges (`memory/virtual_allocator.rs`).

The array of free ranges with its count is a list; its capacity stays an explicit test.

* `allocatePages`, `freePages`: first fit, and a release that merges.
-/
import ManaOS.Memory.Address

namespace ManaOS
open Checked

def dynamicMappingPageCount : ℕ := 262144

def maxFreeRanges : ℕ := 128

structure VirtualFreeRange where
  start : KernelPageStart
  pageCount : ℕ
  deriving DecidableEq

def VirtualFreeRange.endExclusive (range : VirtualFreeRange) : Option KernelPageStart :=
  (checkedMul range.pageCount pageSize).bind range.start.checkedAdd

structure KernelVirtualRangeAllocator where
  managedStart : KernelPageStart
  managedPageCount : PageCount
  freeRanges : List VirtualFreeRange
  deriving DecidableEq

/-- The loop of `allocate_pages`: the reserved range and the free ranges that remain.  A range that
cannot be cut stops it. -/
def allocatePagesFrom (pageCount : PageCount) :
  List VirtualFreeRange → Option (KernelVirtualRange × List VirtualFreeRange)
  | [] => none
  | freeRange :: rest =>
    if freeRange.pageCount < pageCount.asU64 then
      (allocatePagesFrom pageCount rest).map fun (range, rest) => (range, freeRange :: rest)
    else
      (KernelVirtualRange.new freeRange.start pageCount).bind fun range =>
        if freeRange.pageCount = pageCount.asU64 then some (range, rest)
        else
          (freeRange.start.checkedAdd pageCount.byteLen).map fun start =>
            (range, ⟨start, freeRange.pageCount - pageCount.asU64⟩ :: rest)

/-- `merge_adjacent_free_ranges`, with the range under construction. -/
def mergeFreeFrom : VirtualFreeRange → List VirtualFreeRange → List VirtualFreeRange
  | current, [] => [current]
  | current, next :: rest =>
    if current.endExclusive = some next.start then
      mergeFreeFrom { current with pageCount := saturatingAdd current.pageCount next.pageCount }
        rest
    else current :: mergeFreeFrom next rest

def mergeAdjacentFreeRanges : List VirtualFreeRange → List VirtualFreeRange
  | [] => []
  | range :: rest => mergeFreeFrom range rest

namespace KernelVirtualRangeAllocator

def new (start : KernelPageStart) (pageCount : PageCount) : Option KernelVirtualRangeAllocator :=
  (KernelVirtualRange.new start pageCount).map fun _ =>
    ⟨start, pageCount, [⟨start, pageCount.asU64⟩]⟩

def allocatePages (allocator : KernelVirtualRangeAllocator) (pageCount : PageCount) :
  Option KernelVirtualRange × KernelVirtualRangeAllocator :=
  match allocatePagesFrom pageCount allocator.freeRanges with
  | none => (none, allocator)
  | some (range, freeRanges) => (some range, { allocator with freeRanges })

def containsRange (allocator : KernelVirtualRangeAllocator) (range : KernelVirtualRange) : Bool :=
  match allocator.managedStart.checkedAdd allocator.managedPageCount.byteLen with
  | none => false
  | some managedEnd =>
    allocator.managedStart.asU64 ≤ range.start.asU64 && range.endExclusive ≤ managedEnd.asU64

/-- The free range before the insertion point ends at or before the freed range. -/
def previousAllows (before : List VirtualFreeRange) (range : KernelVirtualRange) : Bool :=
  match before.getLast? with
  | none => true
  | some previous =>
    match previous.endExclusive with
    | none => false
    | some previousEnd => previousEnd.asU64 ≤ range.start.asU64

/-- The free range after the insertion point starts at or after the end of the freed range. -/
def nextAllows (after : List VirtualFreeRange) (range : KernelVirtualRange) : Bool :=
  match after.head? with
  | none => true
  | some next => range.endExclusive ≤ next.start.asU64

def freePages (allocator : KernelVirtualRangeAllocator) (range : KernelVirtualRange) :
  Bool × KernelVirtualRangeAllocator :=
  let starts (freeRange : VirtualFreeRange) : Bool := freeRange.start.asU64 < range.start.asU64
  let before := allocator.freeRanges.takeWhile starts
  let after := allocator.freeRanges.dropWhile starts
  if allocator.containsRange range && previousAllows before range && nextAllows after range &&
      decide (allocator.freeRanges.length < maxFreeRanges) then
    (true, { allocator with
      freeRanges :=
        mergeAdjacentFreeRanges (before ++ ⟨range.start, range.pageCount.asU64⟩ :: after) })
  else (false, allocator)

end KernelVirtualRangeAllocator

/-- `new_dynamic_mapping_allocator`; its `expect`s do not fire for the compiled-in range. -/
def newDynamicMappingAllocator : KernelVirtualRangeAllocator where
  managedStart := ⟨kernelDynamicMappingStart, by decide, Nat.le_refl _⟩
  managedPageCount := ⟨dynamicMappingPageCount, by decide, by decide⟩
  freeRanges := [⟨⟨kernelDynamicMappingStart, by decide, Nat.le_refl _⟩, dynamicMappingPageCount⟩]

end ManaOS
